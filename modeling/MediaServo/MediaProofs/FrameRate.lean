import MediaServo.Foundations.Partial
import MediaServo.Media.FrameRate

/-! How many frames the controller lets through in a span of time, and what size the adapter gives a
picture, with the roundings of its arithmetic. -/

namespace MediaServo.Media

open MediaServo.Foundations
open MediaServo.Foundations.I64 (Fault wrap Fits)

variable {checks : Bool} {c c' : FramerateController} {rate : ℕ} {interval ts : ℤ} {dropped : Bool}

lemma ok_bind {ε α β : Type} (a : α) (f : α → Except ε β) : Except.ok a >>= f = f a := rfl

section Step

structure Throttles (c : FramerateController) (interval : ℤ) : Prop where
  minimum : c.maxFramerate.lt kMinFramerate = false
  quotient : I64.quot nsecsPerSec (toI64 c.maxFramerate) = .ok interval
  positive : 0 < interval

lemma Throttles.small (hi : Throttles c interval) : interval ≤ 1000000000 := by
  have hquot := hi.quotient
  rw [I64.quot] at hquot
  split_ifs at hquot with hzero
  rw [← Except.ok.inj hquot]
  exact Int.tdiv_le_self _ (by norm_num [nsecsPerSec])

lemma throttles_natural (hrate : 1 ≤ rate) (hinterval : 0 < nsecsPerSec / rate)
    (h : c.maxFramerate = .finite rate) : Throttles c (nsecsPerSec / rate) := by
  have hle : (rate : ℤ) ≤ nsecsPerSec := by
    by_contra hlt
    rw [Int.ediv_eq_zero_of_lt (by norm_num [nsecsPerSec]) (not_le.1 hlt)] at hinterval
    exact absurd hinterval (lt_irrefl _)
  have hcast : toI64 (.finite rate) = rate := by
    have hpos : (0 : ℚ) ≤ rate := Nat.cast_nonneg _
    simp only [toI64, if_pos hpos, Int.floor_natCast]
    simp only [nsecsPerSec] at hle
    omega
  refine ⟨?_, ?_, hinterval⟩
  · rw [h]
    have hone : (1 : ℚ) ≤ rate := by exact_mod_cast hrate
    simp only [Binary64.lt, Binary64.le, kMinFramerate, Rat.mkRat_eq_div, Int.cast_one, Nat.cast_ofNat,
      Bool.and_eq_false_iff, decide_eq_false_iff_not,
      Bool.not_eq_false', decide_eq_true_eq]
    left
    linarith
  · rw [h, hcast, I64.quot, if_neg (by omega), Int.tdiv_eq_ediv_of_nonneg (by norm_num [nsecsPerSec])]

lemma shouldDropFrame_eq (hi : Throttles c interval) :
    c.shouldDropFrame checks ts = c.throttle checks ts interval := by
  rw [FramerateController.shouldDropFrame, hi.minimum, if_neg (by decide), hi.quotient]
  change (if interval ≤ 0 then _ else _) = _
  rw [if_neg (not_le.2 hi.positive)]

lemma shouldDropFrame_ok (hi : Throttles c interval)
    (h : c.shouldDropFrame checks ts = .ok (dropped, c')) :
    (dropped = true ∧ c' = c ∧ ∃ n, c.nextFrameTimestampNs = some n ∧
      0 < wrap (n - ts) ∧ wrap (n - ts) < 2 * interval) ∨
    (dropped = false ∧ ∃ n, c.nextFrameTimestampNs = some n ∧ wrap (n - ts) ≤ 0 ∧
      (-(2 * interval) < wrap (n - ts) ∨ wrap (n - ts) = -2 ^ 63) ∧
      c' = { c with nextFrameTimestampNs := some (wrap (n + interval)) }) ∨
    (dropped = false ∧ (∀ n, c.nextFrameTimestampNs = some n →
      wrap (n - ts) ≤ -(2 * interval) ∨ 2 * interval ≤ wrap (n - ts)) ∧
      c' = { c with nextFrameTimestampNs := some (wrap (ts + interval / 2)) }) := by
  have hreset : ∀ b d, c.resetAt checks ts interval = .ok (b, d) → b = false ∧
      d = { c with nextFrameTimestampNs := some (wrap (ts + interval / 2)) } := by
    intro b d h
    obtain ⟨next, hnext, h⟩ := bind_eq_ok.1 h
    cases h
    rw [I64.result_ok hnext]
    exact ⟨rfl, rfl⟩
  rw [shouldDropFrame_eq hi, FramerateController.throttle] at h
  cases hn : c.nextFrameTimestampNs with
  | none =>
    rw [hn] at h
    obtain ⟨rfl, rfl⟩ := hreset _ _ h
    exact .inr (.inr ⟨rfl, fun n hsome => absurd hsome (by simp), rfl⟩)
  | some n =>
    rw [hn] at h
    obtain ⟨u, hu, h⟩ := bind_eq_ok.1 h
    obtain ⟨magnitude, habs, h⟩ := bind_eq_ok.1 h
    obtain rfl := I64.result_ok hu
    obtain rfl := I64.result_ok habs
    have hfits := I64.fits_wrap (n - ts)
    -- the magnitude of the least number is that number, which is in every range
    have hmagnitude : wrap (n - ts) = -2 ^ 63 ∧ wrap |wrap (n - ts)| = -2 ^ 63 ∨
        wrap |wrap (n - ts)| = |wrap (n - ts)| := by
      generalize wrap (n - ts) = u at hfits
      by_cases hu : u = -2 ^ 63
      · subst hu
        exact .inl ⟨rfl, by decide⟩
      · refine .inr (I64.wrap_of_fits ?_)
        simp only [Fits] at hfits ⊢
        rcases abs_cases u with ⟨habs, -⟩ | ⟨habs, -⟩ <;> omega
    have hpos := hi.positive
    split_ifs at h with hrange hearly
    · cases h
      refine .inl ⟨rfl, rfl, n, rfl, hearly, ?_⟩
      rcases abs_cases (wrap (n - ts)) with ⟨habs, _⟩ | ⟨habs, _⟩ <;> omega
    · obtain ⟨advanced, hadvanced, h⟩ := bind_eq_ok.1 h
      cases h
      obtain rfl := I64.result_ok hadvanced
      refine .inr (.inl ⟨rfl, n, rfl, by omega, ?_, rfl⟩)
      rcases abs_cases (wrap (n - ts)) with ⟨habs, _⟩ | ⟨habs, _⟩ <;> omega
    · obtain ⟨rfl, rfl⟩ := hreset _ _ h
      refine .inr (.inr ⟨rfl, fun m hsome => ?_, rfl⟩)
      cases hsome
      simp only [Fits] at hfits
      rcases abs_cases (wrap (n - ts)) with ⟨habs, _⟩ | ⟨habs, _⟩ <;> omega

lemma throttles_kept (hi : Throttles c interval)
    (h : c.shouldDropFrame checks ts = .ok (dropped, c')) : Throttles c' interval := by
  obtain ⟨-, rfl, -⟩ | ⟨-, n, -, -, -, rfl⟩ | ⟨-, -, rfl⟩ := shouldDropFrame_ok hi h
  · exact hi
  · exact ⟨hi.minimum, hi.quotient, hi.positive⟩
  · exact ⟨hi.minimum, hi.quotient, hi.positive⟩

end Step

def keptFrames (checks : Bool) (c : FramerateController) : List ℤ → Except Fault (List ℤ)
  | [] => .ok []
  | t :: ts => do
      let (dropped, c) ← c.shouldDropFrame checks t
      let rest ← keptFrames checks c ts
      pure (if dropped then rest else t :: rest)

/-- The controller after the last frame it let through: the next one is expected within an interval of
it, or the whole range of timestamps behind, and not before `bound`. -/
def Ahead (c : FramerateController) (interval last bound : ℤ) : Prop :=
  ∃ e, c.nextFrameTimestampNs = some (wrap (last + e)) ∧
    ((-interval < e ∧ e ≤ interval ∧ bound ≤ last + e) ∨
      (e = interval - 2 ^ 63 ∧ bound ≤ last - interval))

section Ceiling

lemma wrap_add_wrap_sub (n t x : ℤ) : wrap (n + x) = wrap (t + (wrap (n - t) + x)) := by
  simp only [wrap]
  omega

lemma ahead_of_kept (hi : Throttles c interval)
    (h : c.shouldDropFrame checks ts = .ok (false, c')) : Ahead c' interval ts (ts - interval) := by
  have hpos := hi.positive
  obtain ⟨hdrop, -⟩ | ⟨-, n, -, hle, hge, rfl⟩ | ⟨-, -, rfl⟩ := shouldDropFrame_ok hi h
  · cases hdrop
  · refine ⟨wrap (n - ts) + interval, by rw [wrap_add_wrap_sub n ts], ?_⟩
    omega
  · exact ⟨interval / 2, rfl, by omega⟩

lemma ahead_step {last bound : ℤ} (hi : Throttles c interval) (hahead : Ahead c interval last bound)
    (hlast : last ≤ ts) (hfits : Fits last ∧ Fits ts)
    (h : c.shouldDropFrame checks ts = .ok (false, c')) :
    bound ≤ ts ∧ Ahead c' interval ts (bound + interval) := by
  have hpos := hi.positive
  have hsmall := hi.small
  obtain ⟨e, hnext, hcases⟩ := hahead
  simp only [Fits] at hfits
  obtain ⟨hdrop, -⟩ | ⟨-, n, hn, hle, hge, rfl⟩ | ⟨-, hfar, rfl⟩ := shouldDropFrame_ok hi h
  · cases hdrop
  · rw [hnext] at hn
    cases hn
    rw [I64.wrap_wrap_sub] at hle hge
    obtain ⟨k, hk⟩ := I64.exists_wrap (last + e - ts)
    refine ⟨?_, wrap (last + e - ts) + interval, ?_, ?_⟩
    · omega
    · rw [← wrap_add_wrap_sub, I64.wrap_wrap_add]
    · omega
  · have hfar := hfar _ hnext
    rw [I64.wrap_wrap_sub] at hfar
    obtain ⟨k, hk⟩ := I64.exists_wrap (last + e - ts)
    have hrange := I64.fits_wrap (last + e - ts)
    simp only [Fits] at hrange
    refine ⟨?_, interval / 2, rfl, ?_⟩
    · omega
    · omega

lemma kept_ahead {last bound : ℤ} {ts kept : List ℤ} (hi : Throttles c interval)
    (hahead : Ahead c interval last bound) (hlast : Fits last) (hsorted : (last :: ts).Pairwise (· ≤ ·))
    (hfits : ∀ t ∈ ts, Fits t) (h : keptFrames checks c ts = .ok kept) (limit : ℤ) (j : ℕ)
    (hj : j < (kept.filter (· ≤ limit)).length) : bound + j * interval ≤ limit := by
  induction ts generalizing c last bound kept j with
  | nil =>
    cases h
    exact absurd hj (Nat.not_lt_zero j)
  | cons t ts ih =>
    obtain ⟨hle, hts⟩ := List.pairwise_cons.1 hsorted
    have hfit := hfits t List.mem_cons_self
    have hrest : ∀ x ∈ ts, Fits x := fun x hx => hfits x (List.mem_cons_of_mem t hx)
    have hlt := hle t List.mem_cons_self
    obtain ⟨⟨dropped, d⟩, hstep, h⟩ := bind_eq_ok.1 h
    obtain ⟨rest, hkept, h⟩ := bind_eq_ok.1 h
    cases h
    cases dropped with
    | true =>
      obtain ⟨-, rfl, -⟩ | ⟨hdrop, -⟩ | ⟨hdrop, -⟩ := shouldDropFrame_ok hi hstep
      · exact ih hi hahead hlast (List.pairwise_cons.2
          ⟨fun x hx => hle x (List.mem_cons_of_mem t hx), (List.pairwise_cons.1 hts).2⟩) hrest hkept j hj
      · cases hdrop
      · cases hdrop
    | false =>
      obtain ⟨hbound, hnext⟩ := ahead_step hi hahead hlt ⟨hlast, hfit⟩ hstep
      have hmore := ih (throttles_kept hi hstep) hnext hfit hts hrest hkept
      rw [if_neg (by decide), List.filter_cons] at hj
      split_ifs at hj with hlimit
      · simp only [decide_eq_true_eq] at hlimit
        cases j with
        | zero =>
          push_cast
          linarith
        | succ j =>
          have := hmore j (by simpa using hj)
          push_cast
          linarith
      · have := hmore j hj
        linarith [hi.positive]

lemma kept_window {ts kept : List ℤ} (hi : Throttles c interval) (hsorted : ts.Pairwise (· ≤ ·))
    (hfits : ∀ t ∈ ts, Fits t) (h : keptFrames checks c ts = .ok kept) (a span : ℤ) (j : ℕ)
    (hj : j + 3 ≤ (kept.filter fun t => a ≤ t ∧ t ≤ a + span).length) : j * interval ≤ span := by
  induction ts generalizing c kept with
  | nil =>
    cases h
    exact absurd hj (by simp)
  | cons t ts ih =>
    obtain ⟨hle, hts⟩ := List.pairwise_cons.1 hsorted
    have hrest : ∀ x ∈ ts, Fits x := fun x hx => hfits x (List.mem_cons_of_mem t hx)
    obtain ⟨⟨dropped, d⟩, hstep, h⟩ := bind_eq_ok.1 h
    obtain ⟨rest, hkept, h⟩ := bind_eq_ok.1 h
    cases h
    cases dropped with
    | true => exact ih (throttles_kept hi hstep) hts hrest hkept hj
    | false =>
      rw [if_neg (by decide), List.filter_cons] at hj
      split_ifs at hj with hwindow
      · -- from the first frame of the window on, each is an interval behind the one before
        simp only [decide_eq_true_eq] at hwindow
        have hahead := kept_ahead (throttles_kept hi hstep) (ahead_of_kept hi hstep)
          (hfits t List.mem_cons_self) hsorted hrest hkept (a + span) (j + 1)
        have hfilter : (rest.filter fun x => a ≤ x ∧ x ≤ a + span).length ≤
            (rest.filter (· ≤ a + span)).length := by
          apply List.Sublist.length_le
          apply List.monotone_filter_right
          simp
        rw [List.length_cons] at hj
        have := hahead (by omega)
        push_cast at this
        linarith
      · exact ih (throttles_kept hi hstep) hts hrest hkept hj

end Ceiling

section Total

lemma shouldDropFrame_unchecked (hi : Throttles c interval) :
    ∃ r, c.shouldDropFrame false ts = .ok r := by
  rw [shouldDropFrame_eq hi, FramerateController.throttle]
  cases c.nextFrameTimestampNs with
  | none =>
    rw [FramerateController.resetAt, I64.result_unchecked]
    exact ⟨_, rfl⟩
  | some n =>
    simp only [I64.abs, I64.result_unchecked, FramerateController.resetAt, ok_bind]
    split_ifs <;> exact ⟨_, rfl⟩

lemma keptFrames_unchecked {ts : List ℤ} (hi : Throttles c interval) :
    ∃ kept, keptFrames false c ts = .ok kept := by
  induction ts generalizing c with
  | nil => exact ⟨[], rfl⟩
  | cons t ts ih =>
    obtain ⟨⟨dropped, d⟩, hstep⟩ : ∃ r, c.shouldDropFrame false t = .ok r := shouldDropFrame_unchecked hi
    obtain ⟨rest, hrest⟩ := ih (throttles_kept hi hstep)
    refine ⟨if dropped then rest else t :: rest, ?_⟩
    rw [keptFrames, hstep]
    exact bind_eq_ok.2 ⟨_, rfl, bind_eq_ok.2 ⟨rest, hrest, rfl⟩⟩

end Total

lemma keepFrame_forced (hi : Throttles c interval)
    (h : c.shouldDropFrame checks ts = .ok (true, c')) :
    ∃ n, c.nextFrameTimestampNs = some n ∧ c.keepFrame checks ts =
      (I64.result checks (n + interval)).map fun next =>
        { c with nextFrameTimestampNs := some next } := by
  obtain ⟨-, rfl, n, hn, -⟩ | ⟨hdrop, -⟩ | ⟨hdrop, -⟩ := shouldDropFrame_ok hi h
  · refine ⟨n, hn, ?_⟩
    rw [FramerateController.keepFrame, h]
    change (if c'.maxFramerate.lt kMinFramerate then _ else _) = _
    rw [hi.minimum, if_neg (by decide), hi.quotient]
    change (if interval ≤ 0 then _ else _) = _
    rw [if_neg (not_le.2 hi.positive), hn]
    change I64.result checks (n + interval) >>= _ = _
    cases I64.result checks (n + interval) <;> rfl
  · cases hdrop
  · cases hdrop

theorem framerate_ceiling (checks : Bool) (rate : ℕ) (hrate : 1 ≤ rate)
    (hinterval : 0 < nsecsPerSec / rate) (c : FramerateController)
    (hc : c.maxFramerate = .finite rate) :
    (∀ ts : List ℤ, (∀ t ∈ ts, Fits t) → ts.Pairwise (· ≤ ·) →
      (∃ kept, keptFrames false c ts = .ok kept) ∧
      ∀ kept, keptFrames checks c ts = .ok kept → ∀ a span : ℤ, 0 ≤ span →
        ((kept.filter fun t => a ≤ t ∧ t ≤ a + span).length : ℤ) ≤
          span / (nsecsPerSec / rate) + 3) ∧
    ∀ ts c', c.shouldDropFrame checks ts = .ok (true, c') →
      ∃ n, c.nextFrameTimestampNs = some n ∧ c.keepFrame checks ts =
        (I64.result checks (n + nsecsPerSec / rate)).map fun next =>
          { c with nextFrameTimestampNs := some next } := by
  have hi := throttles_natural hrate hinterval hc
  refine ⟨fun ts hfits hsorted => ⟨keptFrames_unchecked hi, ?_⟩, fun ts c' h => keepFrame_forced hi h⟩
  intro kept h a span hspan
  by_contra hmany
  have hquot := Int.ediv_nonneg hspan hinterval.le
  obtain ⟨j, hj⟩ := Int.eq_ofNat_of_zero_le hquot
  have hwindow := kept_window hi hsorted hfits h a span (j + 1) (by omega)
  have hle := (Int.le_ediv_iff_mul_le hinterval).2 hwindow
  push_cast at hle
  omega

theorem framerate_ceiling_thirty :
    ((([0, 80000000, 80000000, 83333332] : List ℤ).filter
      fun t => 80000000 ≤ t ∧ t ≤ 80000000 + 3333332).length : ℤ) ≤ 3333332 / 33333333 + 3 := by
  have hkept : keptFrames true (.withMaxFramerate (.finite 30)) [0, 80000000, 80000000, 83333332] =
    .ok [0, 80000000, 80000000, 83333332] := rfl
  exact ((framerate_ceiling true 30 (by norm_num) (by decide)
    (.withMaxFramerate (.finite 30)) rfl).1 _ (by decide) (by decide)).2 _ hkept 80000000 3333332
    (by norm_num)

/-- After a gap of just under two intervals three frames pass within a tenth of one. -/
theorem three_in_a_tenth : ¬∀ (rate : ℕ) (ts kept : List ℤ), 1 ≤ rate → 0 < nsecsPerSec / rate →
    (∀ t ∈ ts, Fits t) → ts.Pairwise (· ≤ ·) →
    keptFrames true (.withMaxFramerate (.finite rate)) ts = .ok kept → ∀ a span : ℤ, 0 ≤ span →
    ((kept.filter fun t => a ≤ t ∧ t ≤ a + span).length : ℤ) ≤ span / (nsecsPerSec / rate) + 2 := by
  intro hall
  have hkept : keptFrames true (.withMaxFramerate (.finite 30)) [0, 80000000, 80000000, 83333332] =
    .ok [0, 80000000, 80000000, 83333332] := rfl
  have hbound := hall 30 [0, 80000000, 80000000, 83333332] _ (by norm_num) (by decide) (by decide)
    (by decide) hkept 80000000 3333332 (by norm_num)
  exact absurd hbound (by decide)

namespace ScalingAdapter

lemma abs_min_sub {a b p q d : ℚ} (hp : |p - a| ≤ a / d) (hq : |q - b| ≤ b / d) (hd : 1 ≤ d) :
    |p ⊓ q - a ⊓ b| ≤ (a ⊓ b) / d := by
  rw [abs_le] at hp hq ⊢
  have hmono : ∀ {x y : ℚ}, x ≤ y → x / d ≤ y / d ∧ y / d - x / d ≤ y - x := by
    intro x y h
    refine ⟨div_le_div_of_nonneg_right h (by linarith), ?_⟩
    rw [← sub_div]
    exact div_le_self (by linarith) hd
  rcases le_total a b with h | h <;> rcases le_total p q with h' | h' <;>
    simp only [inf_eq_left.2, inf_eq_right.2, h, h'] <;> constructor <;>
    have := hmono h <;> linarith

lemma ofInt_natCast {n : ℕ} (h : n < 2 ^ 32) : Binary64.ofInt n = .finite n := by
  have hround : Binary64.round (n : ℚ) = .finite n := Binary64.round_natCast (by omega)
  rw [Binary64.ofInt, Int.cast_natCast, hround]

lemma div_finite {m n : ℕ} (hm : 0 < m) (hm' : m < 2 ^ 32) (hn : 0 < n) (hn' : n < 2 ^ 32) :
    (Binary64.ofInt m).div (.ofInt n) = .finite (Binary64.roundRat (m / n)) ∧
      |Binary64.roundRat ((m : ℚ) / n) - m / n| ≤ m / n / 2 ^ 53 ∧ 1 / 2 ^ 32 ≤ (m : ℚ) / n := by
  have hmq : (1 : ℚ) ≤ m := by exact_mod_cast hm
  have hmq' : (m : ℚ) < 2 ^ 32 := by exact_mod_cast hm'
  have hnq : (1 : ℚ) ≤ n := by exact_mod_cast hn
  have hnq' : (n : ℚ) < 2 ^ 32 := by exact_mod_cast hn'
  have hlow : 1 / 2 ^ 32 ≤ (m : ℚ) / n := by
    rw [div_le_div_iff₀ (by positivity) (by linarith)]
    linarith
  have hhigh : (m : ℚ) / n < 2 ^ 32 := by
    rw [div_lt_iff₀ (by linarith)]
    nlinarith
  have herr := Binary64.abs_sub_roundRat (Binary64.normal_of_le (le_trans (by norm_num) hlow))
  refine ⟨?_, herr, hlow⟩
  rw [ofInt_natCast hm', ofInt_natCast hn', Binary64.div, if_pos (by linarith)]
  rw [abs_le] at herr
  apply Binary64.round_eq_finite
  · linarith
  · linarith

lemma outSide_near {r s : ℚ} {side m : ℕ} (hside : 0 < side) (hside' : side < 2 ^ 32)
    (hr : 1 / 2 ^ 32 ≤ r) (hm : side * r ≤ m) (hm' : m < 2 ^ 32) (hs : |s - r| ≤ r / 2 ^ 53) :
    ∃ x : ℚ, 0 ≤ x ∧ |x - side * r| ≤ 1 / 2 ^ 19 ∧
      outSide (.finite s) side = max ⌊x + 1 / 2⌋.toNat 2 := by
  have hsq : (1 : ℚ) ≤ side := by exact_mod_cast hside
  have hmq : (m : ℚ) < 2 ^ 32 := by exact_mod_cast hm'
  have hrpos : 0 < r := lt_of_lt_of_le (by positivity) hr
  have hprod : |side * s - side * r| ≤ side * r / 2 ^ 53 := by
    rw [← mul_sub, abs_mul, abs_of_pos (by linarith), mul_div_assoc]
    exact mul_le_mul_of_nonneg_left hs (by linarith)
  have hlow : r ≤ side * r := le_mul_of_one_le_left hrpos.le hsq
  have hy : 2 ^ (-1022 : ℤ) ≤ side * s := by
    rw [abs_le] at hprod
    apply Binary64.normal_of_le
    linarith
  have herr := Binary64.abs_sub_roundRat hy
  refine ⟨Binary64.roundRat (side * s), ?_, ?_, ?_⟩
  · rw [abs_le] at herr
    have hpos : (0 : ℚ) < side * s := lt_of_lt_of_le (by positivity) hy
    linarith
  · rw [abs_le] at herr hprod ⊢
    constructor <;> linarith
  · have hx : 0 ≤ Binary64.roundRat (side * s) ∧ Binary64.roundRat (side * s) < 2 ^ 32 - 1 + 1 / 2 := by
      rw [abs_le] at herr hprod
      have hmq : (m : ℚ) ≤ 2 ^ 32 - 1 := by
        have : (m : ℚ) + 1 ≤ 2 ^ 32 := by exact_mod_cast hm'
        linarith
      constructor <;> linarith
    have hround := Binary64.round_eq_finite hx.1 (by linarith [hx.2])
    rw [outSide, ofInt_natCast hside', Binary64.mul, hround, Binary64.roundAway, if_pos hx.1,
      Binary64.toU32, Int.floor_intCast]
    congr 1
    apply Nat.min_eq_left
    have hfloor : ⌊Binary64.roundRat (side * s) + 1 / 2⌋ < 2 ^ 32 := by
      rw [Int.floor_lt]
      push_cast
      linarith [hx.2]
    omega

section

variable {r s : ℚ} {side m : ℕ}

lemma outSide_le (hside : 0 < side) (hside' : side < 2 ^ 32) (hr : 1 / 2 ^ 32 ≤ r)
    (hm : side * r ≤ m) (hm' : m < 2 ^ 32) (hs : |s - r| ≤ r / 2 ^ 53) (h2 : 2 ≤ m) :
    2 ≤ outSide (.finite s) side ∧ outSide (.finite s) side ≤ m := by
  obtain ⟨x, hx, herr, heq⟩ := outSide_near hside hside' hr hm hm' hs
  rw [heq]
  have hfloor : ⌊x + 1 / 2⌋ ≤ m := by
    apply Int.lt_add_one_iff.mp
    rw [Int.floor_lt]
    push_cast
    rw [abs_le] at herr
    linarith
  omega

lemma outSide_eq (hside : 0 < side) (hside' : side < 2 ^ 32) (hr : 1 / 2 ^ 32 ≤ r)
    (hm : side * r = m) (hm' : m < 2 ^ 32) (hs : |s - r| ≤ r / 2 ^ 53) (h2 : 2 ≤ m) :
    outSide (.finite s) side = m := by
  obtain ⟨x, hx, herr, heq⟩ := outSide_near hside hside' hr hm.le hm' hs
  rw [abs_le, hm] at herr
  have hfloor : ⌊x + 1 / 2⌋ = m := by
    rw [Int.floor_eq_iff]
    push_cast
    constructor <;> linarith
  rw [heq, hfloor]
  omega

lemma outSide_error (hside : 0 < side) (hside' : side < 2 ^ 32) (hr : 1 / 2 ^ 32 ≤ r)
    (hm : side * r ≤ m) (hm' : m < 2 ^ 32) (hs : |s - r| ≤ r / 2 ^ 53) :
    |(outSide (.finite s) side : ℚ) - max (side * r) 2| ≤ 1 / 2 + 1 / 2 ^ 19 := by
  obtain ⟨x, hx, herr, heq⟩ := outSide_near hside hside' hr hm hm' hs
  have hnonneg : 0 ≤ ⌊x + 1 / 2⌋ := Int.floor_nonneg.mpr (by linarith)
  have hcast : ((max ⌊x + 1 / 2⌋.toNat 2 : ℕ) : ℚ) = max (⌊x + 1 / 2⌋ : ℚ) 2 := by
    rw [Nat.cast_max]
    congr 1
    rw [← Int.cast_natCast, Int.toNat_of_nonneg hnonneg]
  have hround : |(⌊x + 1 / 2⌋ : ℚ) - x| ≤ 1 / 2 := by
    have h₁ := Int.floor_le (x + 1 / 2)
    have h₂ := Int.lt_floor_add_one (x + 1 / 2)
    rw [abs_le]
    constructor <;> linarith
  calc |(outSide (.finite s) side : ℚ) - max (side * r) 2|
      = |max (⌊x + 1 / 2⌋ : ℚ) 2 - max (side * r) 2| := by rw [heq, hcast]
    _ ≤ |(⌊x + 1 / 2⌋ : ℚ) - side * r| := abs_max_sub_max_le_abs _ _ _
    _ ≤ |(⌊x + 1 / 2⌋ : ℚ) - x| + |x - side * r| := abs_sub_le _ _ _
    _ ≤ 1 / 2 + 1 / 2 ^ 19 := add_le_add hround herr

end

/-- What comes of a picture over the cap: it fits, one side is at its cap, and neither is more than
a rounding off the length that keeps the shape. One within the cap is left alone, so that what was
adapted once is not adapted again. -/
theorem adaptResolution_fits (a : ScalingAdapter) (width height maxW maxH : ℕ)
    (hcap : a.scaleResolutionDownTo = some (maxW, maxH)) (hw : 0 < width ∧ width < 2 ^ 32)
    (hh : 0 < height ∧ height < 2 ^ 32) (hmw : 2 ≤ maxW ∧ maxW < 2 ^ 32)
    (hmh : 2 ≤ maxH ∧ maxH < 2 ^ 32) :
    let scale : ℚ := (maxW / width : ℚ) ⊓ (maxH / height : ℚ)
    ((a.adaptResolution width height).1 = none ↔ width ≤ maxW ∧ height ≤ maxH) ∧
      ∀ outW outH, (a.adaptResolution width height).1 = some (outW, outH) →
        (2 ≤ outW ∧ outW ≤ maxW) ∧ (2 ≤ outH ∧ outH ≤ maxH) ∧ (outW = maxW ∨ outH = maxH) ∧
        |(outW : ℚ) - max (width * scale) 2| ≤ 1 / 2 + 1 / 2 ^ 19 ∧
        |(outH : ℚ) - max (height * scale) 2| ≤ 1 / 2 + 1 / 2 ^ 19 ∧
        ∀ b : ScalingAdapter, b.scaleResolutionDownTo = some (maxW, maxH) →
          (b.adaptResolution outW outH).1 = none := by
  intro scale
  obtain ⟨hdivW, herrW, hlowW⟩ := div_finite (by omega) hmw.2 hw.1 hw.2
  obtain ⟨hdivH, herrH, hlowH⟩ := div_finite (by omega) hmh.2 hh.1 hh.2
  have hwq : (0 : ℚ) < width := by exact_mod_cast hw.1
  have hhq : (0 : ℚ) < height := by exact_mod_cast hh.1
  have herr : |Binary64.roundRat (maxW / width) ⊓ Binary64.roundRat (maxH / height) - scale| ≤
      scale / 2 ^ 53 := abs_min_sub herrW herrH (by norm_num)
  have hlow : 1 / 2 ^ 32 ≤ scale := le_inf hlowW hlowH
  have hfitW : (width : ℚ) * scale ≤ maxW := by
    calc (width : ℚ) * scale ≤ width * (maxW / width) :=
          mul_le_mul_of_nonneg_left inf_le_left hwq.le
      _ = maxW := by field_simp
  have hfitH : (height : ℚ) * scale ≤ maxH := by
    calc (height : ℚ) * scale ≤ height * (maxH / height) :=
          mul_le_mul_of_nonneg_left inf_le_right hhq.le
      _ = maxH := by field_simp
  have hW := outSide_le hw.1 hw.2 hlow hfitW hmw.2 herr hmw.1
  have hH := outSide_le hh.1 hh.2 hlow hfitH hmh.2 herr hmh.1
  have hone : outSide (.finite (Binary64.roundRat (maxW / width) ⊓
        Binary64.roundRat (maxH / height))) width = maxW ∨
      outSide (.finite (Binary64.roundRat (maxW / width) ⊓
        Binary64.roundRat (maxH / height))) height = maxH := by
    rcases le_total ((maxW : ℚ) / width) (maxH / height) with h | h
    · left
      apply outSide_eq hw.1 hw.2 hlow _ hmw.2 herr hmw.1
      rw [show scale = maxW / width from inf_eq_left.2 h]
      field_simp
    · right
      apply outSide_eq hh.1 hh.2 hlow _ hmh.2 herr hmh.1
      rw [show scale = maxH / height from inf_eq_right.2 h]
      field_simp
  have hout : ∀ b : ScalingAdapter, b.scaleResolutionDownTo = some (maxW, maxH) → ∀ w h,
      w ≤ maxW ∧ h ≤ maxH → (b.adaptResolution w h).1 = none := by
    intro b hb w h hfit
    simp only [adaptResolution, hb, if_pos hfit]
  constructor
  · constructor
    · intro hnone
      simp only [adaptResolution, hcap, hdivW, hdivH, Binary64.minNum_finite] at hnone
      split_ifs at hnone with hfit hsame
      · exact hfit
      · rw [← hsame.1, ← hsame.2]
        omega
    · exact hout a hcap width height
  · intro outW outH hsome
    simp only [adaptResolution, hcap, hdivW, hdivH, Binary64.minNum_finite] at hsome
    split_ifs at hsome
    simp only [Option.some.injEq, Prod.mk.injEq] at hsome
    obtain ⟨rfl, rfl⟩ := hsome
    refine ⟨hW, hH, hone, ?_, ?_, fun b hb => hout b hb _ _ ⟨hW.2, hH.2⟩⟩
    · exact outSide_error hw.1 hw.2 hlow hfitW hmw.2 herr
    · exact outSide_error hh.1 hh.2 hlow hfitH hmh.2 herr

theorem adaptResolution_portrait :
    ((ScalingAdapter.new.setScaleResolutionDownTo (some (320, 240))).adaptResolution 101 400).1 =
      some (61, 240) ∧
    |((61 : ℕ) : ℚ) - max ((101 : ℕ) * (((320 : ℕ) / (101 : ℕ) : ℚ) ⊓ ((240 : ℕ) / (400 : ℕ) : ℚ))) 2| ≤
      1 / 2 + 1 / 2 ^ 19 := by
  have hsize : ((ScalingAdapter.new.setScaleResolutionDownTo (some (320, 240))).adaptResolution
      101 400).1 = some (61, 240) := by decide +kernel
  obtain ⟨-, hfits⟩ := adaptResolution_fits (.setScaleResolutionDownTo .new (some (320, 240))) 101 400
    320 240 rfl (by norm_num) (by norm_num) (by norm_num) (by norm_num)
  exact ⟨hsize, (hfits 61 240 hsize).2.2.2.1⟩

end ScalingAdapter

end MediaServo.Media
