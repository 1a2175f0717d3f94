import MediaServo.MediaProofs.FrameRate

/-! The rates at which the controller neither faults nor loses a frame that comes in time. -/

namespace MediaServo.Media

open MediaServo.Foundations
open MediaServo.Foundations.I64 (Fault Fits)

/-- A call of `should_drop_frame`, or one of `keep_frame`, with the timestamp of its frame. -/
structure FrameCall where
  forced : Bool
  ts : ℤ
  deriving DecidableEq

def perform (c : FramerateController) (call : FrameCall) : Except Fault (Bool × FramerateController) :=
  if call.forced then (c.keepFrame true call.ts).map fun c => (false, c)
  else c.shouldDropFrame true call.ts

def performAll (c : FramerateController) : List FrameCall → Except Fault (List Bool)
  | [] => .ok []
  | call :: calls => do
      let (dropped, c) ← perform c call
      let rest ← performAll c calls
      pure (dropped :: rest)

def intervalOf (rate : ℚ) : ℤ := nsecsPerSec / ⌊rate⌋

/-- The numbers that a call computes fit: the time until the next frame and its magnitude, and
the next time to expect one. -/
def CallFits (interval : ℤ) (next : Option ℤ) (call : FrameCall) : Prop :=
  match next with
  | none => Fits (call.ts + interval / 2)
  | some n =>
      Fits (n - call.ts) ∧ n - call.ts ≠ -2 ^ 63 ∧
      (|n - call.ts| < 2 * interval → call.forced ∨ n ≤ call.ts → Fits (n + interval)) ∧
      (2 * interval ≤ |n - call.ts| → Fits (call.ts + interval / 2))

/-- In a run, the numbers of each call fit, in the state that the call finds. -/
def RunFits (interval : ℤ) (c : FramerateController) : List FrameCall → Prop
  | [] => True
  | call :: calls =>
      (0 < interval → CallFits interval c.nextFrameTimestampNs call) ∧
        ∀ r, perform c call = .ok r → RunFits interval r.2 calls

def adaptAll (a : VideoAdapter) : List ℤ → Except Fault (List Bool)
  | [] => .ok []
  | t :: ts => do
      let (dropped, a) ← a.shouldDropFrame true t
      let rest ← adaptAll a ts
      pure (dropped :: rest)

def Spaced (rate : ℚ) (calls : List FrameCall) : Prop :=
  (calls.map FrameCall.ts).IsChain fun s t => nsecsPerSec / rate ≤ ((t - s : ℤ) : ℚ)

/-- A run without a fault, that drops nothing if its frames come in time. -/
def Smooth (rate : ℚ) (calls : List FrameCall) : Prop :=
  ∃ dropped, performAll (.withMaxFramerate (.finite rate)) calls = .ok dropped ∧
    (Spaced rate calls → ∀ b ∈ dropped, b = false)

/-- The interval of the whole rate is not above the least spacing of frames at the rate. -/
def RateKeeps (rate : ℚ) : Prop := 1 ≤ rate ∧ intervalOf rate ≤ ⌈nsecsPerSec / rate⌉

variable {c c' : FramerateController} {rate : ℚ} {interval ts : ℤ} {call : FrameCall}

section Rate

lemma toI64_finite (h : 0 ≤ rate) : toI64 (.finite rate) = min (2 ^ 63 - 1) ⌊rate⌋ := by
  have hfloor := Int.floor_nonneg.2 h
  simp only [toI64, if_pos h]
  omega

lemma minimum_of_half (h : 1 / 2 ≤ rate) : (Binary64.finite rate).lt kMinFramerate = false := by
  simp only [Binary64.lt, Binary64.le, kMinFramerate, Rat.mkRat_eq_div, Int.cast_one,
    Nat.cast_ofNat, Bool.and_eq_false_iff, decide_eq_false_iff_not, Bool.not_eq_false',
    decide_eq_true_eq]
  exact .inr h

lemma divides_by_zero (hhalf : 1 / 2 ≤ rate) (hone : rate < 1) (hc : c.maxFramerate = .finite rate) :
    perform c call = .error .divideByZero := by
  have hfloor : ⌊rate⌋ = 0 := Int.floor_eq_zero_iff.2 ⟨by linarith, hone⟩
  have hdrop : c.shouldDropFrame true call.ts = .error .divideByZero := by
    rw [FramerateController.shouldDropFrame, hc, minimum_of_half hhalf, if_neg (by decide),
      toI64_finite (by linarith), hfloor]
    rfl
  rw [perform, FramerateController.keepFrame, hdrop]
  cases call.forced <;> rfl

lemma quot_rate (hone : 1 ≤ rate) : I64.quot nsecsPerSec (toI64 (.finite rate)) = .ok (intervalOf rate) := by
  have hfloor : 1 ≤ ⌊rate⌋ := Int.le_floor.2 (by exact_mod_cast hone)
  rw [toI64_finite (by linarith), I64.quot, if_neg (by omega),
    Int.tdiv_eq_ediv_of_nonneg (by norm_num [nsecsPerSec]), intervalOf]
  rcases le_total (2 ^ 63 - 1) ⌊rate⌋ with h | h
  · rw [min_eq_left h, Int.ediv_eq_zero_of_lt (by norm_num [nsecsPerSec]) (by norm_num [nsecsPerSec]),
      Int.ediv_eq_zero_of_lt (by norm_num [nsecsPerSec]) (by simp only [nsecsPerSec]; omega)]
  · rw [min_eq_right h]

lemma throttles_rate (hone : 1 ≤ rate) (hc : c.maxFramerate = .finite rate)
    (hpos : 0 < intervalOf rate) : Throttles c (intervalOf rate) :=
  ⟨by rw [hc]; exact minimum_of_half (by linarith), by rw [hc]; exact quot_rate hone, hpos⟩

lemma perform_unthrottled (hone : 1 ≤ rate) (hc : c.maxFramerate = .finite rate)
    (hzero : intervalOf rate ≤ 0) : perform c call = .ok (false, c) := by
  have hdrop : c.shouldDropFrame true call.ts = .ok (false, c) := by
    rw [FramerateController.shouldDropFrame, hc, minimum_of_half (by linarith), if_neg (by decide),
      quot_rate hone, ok_bind, if_pos hzero]
    rfl
  rw [perform, FramerateController.keepFrame, hdrop]
  cases call.forced <;> rfl

end Rate

section Step

lemma resetAt_checked : (∃ r, c.resetAt true ts interval = .ok r) ↔ Fits (ts + interval / 2) := by
  rw [← I64.result_checked_iff, FramerateController.resetAt]
  constructor
  · rintro ⟨r, h⟩
    obtain ⟨next, hnext, -⟩ := bind_eq_ok.1 h
    exact ⟨next, hnext⟩
  · rintro ⟨next, hnext⟩
    rw [hnext]
    exact ⟨_, rfl⟩

lemma throttle_checked :
    (∃ r, c.throttle true ts interval = .ok r) ↔
      CallFits interval c.nextFrameTimestampNs ⟨false, ts⟩ := by
  rw [FramerateController.throttle, CallFits.eq_def]
  cases c.nextFrameTimestampNs with
  | none => exact resetAt_checked
  | some n =>
    simp only
    by_cases hfits : Fits (n - ts)
    · rw [I64.result_of_fits hfits, ok_bind, I64.abs]
      by_cases hleast : n - ts = -2 ^ 63
      · rw [hleast]
        constructor
        · rintro ⟨r, h⟩
          cases h
        · rintro ⟨-, hne, -⟩
          exact absurd rfl hne
      · have habs : Fits |n - ts| := by
          simp only [Fits] at hfits ⊢
          rcases abs_cases (n - ts) with ⟨h, _⟩ | ⟨h, _⟩ <;> omega
        rw [I64.result_of_fits habs, ok_bind]
        split_ifs with hrange hearly
        · refine iff_of_true ⟨_, rfl⟩ ⟨hfits, hleast, ?_, fun hfar => absurd hrange (not_lt.2 hfar)⟩
          rintro - (h | h)
          · exact absurd h (by decide)
          · omega
        · have hadvance : (∃ r, (do
              let advanced ← I64.result true (n + interval)
              pure (false, { c with nextFrameTimestampNs := some advanced }) :
                Except Fault (Bool × FramerateController)) = .ok r) ↔ Fits (n + interval) := by
            rw [← I64.result_checked_iff]
            constructor
            · rintro ⟨r, h⟩
              obtain ⟨advanced, h, -⟩ := bind_eq_ok.1 h
              exact ⟨advanced, h⟩
            · rintro ⟨advanced, h⟩
              rw [h]
              exact ⟨_, rfl⟩
          rw [hadvance]
          constructor
          · intro h
            exact ⟨hfits, hleast, fun _ _ => h, fun hfar => absurd hrange (not_lt.2 hfar)⟩
          · rintro ⟨-, -, h, -⟩
            exact h hrange (.inr (by omega))
        · rw [resetAt_checked]
          constructor
          · intro h
            exact ⟨hfits, hleast, fun hnear => absurd hnear hrange, fun _ => h⟩
          · rintro ⟨-, -, -, h⟩
            exact h (not_lt.1 hrange)
    · have hfault : I64.result true (n - ts) = .error .overflow := by
        rw [I64.result, if_neg hfits, if_pos rfl]
      rw [hfault]
      constructor
      · rintro ⟨r, h⟩
        cases h
      · rintro ⟨h, -⟩
        exact absurd h hfits

lemma callFits_offer {next : Option ℤ} (h : CallFits interval next ⟨true, ts⟩) :
    CallFits interval next ⟨false, ts⟩ := by
  cases next with
  | none => exact h
  | some n =>
    obtain ⟨hfits, hleast, hnear, hfar⟩ := h
    exact ⟨hfits, hleast, fun hrange _ => hnear hrange (.inl rfl), hfar⟩

lemma keepFrame_ok_iff (hi : Throttles c interval) :
    (∃ r, c.keepFrame true ts = .ok r) ↔ CallFits interval c.nextFrameTimestampNs ⟨true, ts⟩ := by
  have hoffer : (∃ r, c.shouldDropFrame true ts = .ok r) ↔
      CallFits interval c.nextFrameTimestampNs ⟨false, ts⟩ := by
    rw [shouldDropFrame_eq hi]
    exact throttle_checked
  by_cases hfits : CallFits interval c.nextFrameTimestampNs ⟨false, ts⟩
  · obtain ⟨⟨dropped, c'⟩, hstep⟩ := hoffer.2 hfits
    cases dropped with
    | false =>
      refine iff_of_true ⟨c', ?_⟩ ?_
      · rw [FramerateController.keepFrame, hstep]
        rfl
      · cases hnext : c.nextFrameTimestampNs with
        | none =>
          rw [hnext] at hfits
          exact hfits
        | some n =>
          rw [hnext] at hfits
          obtain ⟨hfit, hleast, hnear, hfar⟩ := hfits
          change Fits (n - ts) at hfit
          refine ⟨hfit, hleast, fun hrange _ => hnear hrange (.inr ?_), hfar⟩
          obtain ⟨hdrop, -⟩ | ⟨-, m, hm, hle, -⟩ | ⟨-, hout, -⟩ := shouldDropFrame_ok hi hstep
          · cases hdrop
          · rw [hnext] at hm
            cases hm
            rw [I64.wrap_of_fits hfit] at hle
            change n ≤ ts
            omega
          · have hout := hout n hnext
            rw [I64.wrap_of_fits hfit] at hout
            change |n - ts| < 2 * interval at hrange
            rcases abs_cases (n - ts) with ⟨habs, _⟩ | ⟨habs, _⟩ <;> omega
    | true =>
      obtain ⟨n, hn, hkeep⟩ := keepFrame_forced hi hstep
      obtain ⟨-, -, m, hm, hearly, hrange⟩ | ⟨hdrop, -⟩ | ⟨hdrop, -⟩ := shouldDropFrame_ok hi hstep
      · rw [hn] at hm
        cases hm
        rw [hn] at hfits ⊢
        obtain ⟨hfit, hleast, -, hfar⟩ := hfits
        change Fits (n - ts) at hfit
        rw [I64.wrap_of_fits hfit] at hearly hrange
        have hnear : |n - ts| < 2 * interval := by rwa [abs_of_pos hearly]
        rw [hkeep]
        constructor
        · rintro ⟨r, h⟩
          refine ⟨hfit, hleast, fun _ _ => I64.result_checked_iff.1 ?_, hfar⟩
          cases hr : I64.result true (n + interval) with
          | error e =>
            rw [hr] at h
            cases h
          | ok x => exact ⟨x, rfl⟩
        · rintro ⟨-, -, h, -⟩
          rw [I64.result_of_fits (h hnear (.inl rfl))]
          exact ⟨_, rfl⟩
      · cases hdrop
      · cases hdrop
  · refine iff_of_false ?_ fun h => hfits (callFits_offer h)
    rintro ⟨r, h⟩
    obtain ⟨step, hstep, -⟩ := bind_eq_ok.1 h
    exact hfits (hoffer.1 ⟨step, hstep⟩)

lemma perform_ok_iff (hi : Throttles c interval) :
    (∃ r, perform c call = .ok r) ↔ CallFits interval c.nextFrameTimestampNs call := by
  obtain ⟨forced, ts⟩ := call
  cases forced with
  | false =>
    change (∃ r, c.shouldDropFrame true ts = .ok r) ↔ _
    rw [shouldDropFrame_eq hi]
    exact throttle_checked
  | true =>
    rw [← keepFrame_ok_iff hi, perform, if_pos rfl]
    cases c.keepFrame true ts with
    | error e => exact iff_of_false (by rintro ⟨r, h⟩; cases h) (by rintro ⟨r, h⟩; cases h)
    | ok d => exact iff_of_true ⟨_, rfl⟩ ⟨_, rfl⟩

lemma throttles_perform {dropped : Bool} (hi : Throttles c interval)
    (h : perform c call = .ok (dropped, c')) : Throttles c' interval := by
  rw [perform] at h
  split_ifs at h with hforced
  · cases hkeep : c.keepFrame true call.ts with
    | error e =>
      rw [hkeep] at h
      cases h
    | ok d =>
      rw [hkeep] at h
      cases h
      obtain ⟨⟨dropped, e⟩, hstep, hkeep'⟩ := bind_eq_ok.1 hkeep
      cases dropped with
      | false =>
        cases hkeep'
        exact throttles_kept hi hstep
      | true =>
        obtain ⟨n, -, hn⟩ := keepFrame_forced hi hstep
        rw [hkeep] at hn
        cases hr : I64.result true (n + interval) with
        | error e =>
          rw [hr] at hn
          cases hn
        | ok next =>
          rw [hr] at hn
          cases hn
          exact ⟨hi.minimum, hi.quotient, hi.positive⟩
  · exact throttles_kept hi h

lemma perform_notEarly {dropped : Bool} (hi : Throttles c interval)
    (hfits : CallFits interval c.nextFrameTimestampNs call)
    (hn : ∀ n, c.nextFrameTimestampNs = some n → n ≤ call.ts)
    (h : perform c call = .ok (dropped, c')) :
    dropped = false ∧ ∃ m, c'.nextFrameTimestampNs = some m ∧ m ≤ call.ts + interval := by
  obtain ⟨forced, ts⟩ := call
  have hoffer : CallFits interval c.nextFrameTimestampNs ⟨false, ts⟩ := by
    cases forced with
    | false => exact hfits
    | true => exact callFits_offer hfits
  have hpos := hi.positive
  have hkept : ∀ b d, c.shouldDropFrame true ts = .ok (b, d) → b = false ∧
      ∃ m, d.nextFrameTimestampNs = some m ∧ m ≤ ts + interval := by
    intro b d hstep
    obtain ⟨-, -, n, hnext, hearly, -⟩ | ⟨hdrop, n, hnext, hle, hge, rfl⟩ | ⟨hdrop, hout, rfl⟩ :=
      shouldDropFrame_ok hi hstep
    · rw [hnext] at hoffer
      have hfit : Fits (n - ts) := hoffer.1
      have hle := hn n hnext
      change n ≤ ts at hle
      rw [I64.wrap_of_fits hfit] at hearly
      omega
    · rw [hnext] at hoffer
      obtain ⟨hfit, hleast, hnear, -⟩ := hoffer
      change Fits (n - ts) at hfit
      change n - ts ≠ -2 ^ 63 at hleast
      change |n - ts| < 2 * interval → _ at hnear
      rw [I64.wrap_of_fits hfit] at hle hge
      have hnear := hnear (by rw [abs_of_nonpos hle]; omega) (.inr (hn n hnext))
      refine ⟨hdrop, n + interval, by rw [I64.wrap_of_fits hnear], ?_⟩
      omega
    · refine ⟨hdrop, ts + interval / 2, ?_, by omega⟩
      have hfit : Fits (ts + interval / 2) := by
        cases hnext : c.nextFrameTimestampNs with
        | none =>
          rw [hnext] at hoffer
          exact hoffer
        | some n =>
          rw [hnext] at hoffer
          obtain ⟨hfit, -, -, hfar⟩ := hoffer
          have hout := hout n hnext
          change Fits (n - ts) at hfit
          change 2 * interval ≤ |n - ts| → _ at hfar
          rw [I64.wrap_of_fits hfit] at hout
          apply hfar
          rcases abs_cases (n - ts) with ⟨habs, _⟩ | ⟨habs, _⟩ <;> omega
      rw [I64.wrap_of_fits hfit]
  cases forced with
  | false => exact hkept _ _ h
  | true =>
    rw [perform, if_pos rfl] at h
    cases hkeep : c.keepFrame true ts with
    | error e =>
      rw [hkeep] at h
      cases h
    | ok d =>
      rw [hkeep] at h
      cases h
      obtain ⟨⟨b, e⟩, hstep, hkeep'⟩ := bind_eq_ok.1 hkeep
      obtain ⟨rfl, hm⟩ := hkept b e hstep
      cases hkeep'
      exact ⟨rfl, hm⟩

end Step

section Runs

lemma performAll_ok_iff {calls : List FrameCall} (hi : Throttles c interval) :
    (∃ dropped, performAll c calls = .ok dropped) ↔ RunFits interval c calls := by
  induction calls generalizing c with
  | nil => exact iff_of_true ⟨[], rfl⟩ trivial
  | cons call calls ih =>
    constructor
    · rintro ⟨dropped, h⟩
      obtain ⟨⟨d, c'⟩, hstep, h⟩ := bind_eq_ok.1 h
      obtain ⟨rest, hrest, -⟩ := bind_eq_ok.1 h
      refine ⟨fun _ => (perform_ok_iff hi).1 ⟨_, hstep⟩, fun r hr => ?_⟩
      rw [hstep] at hr
      cases hr
      exact (ih (throttles_perform hi hstep)).1 ⟨rest, hrest⟩
    · rintro ⟨hcall, hruns⟩
      obtain ⟨⟨d, c'⟩, hstep⟩ := (perform_ok_iff hi).2 (hcall hi.positive)
      obtain ⟨rest, hrest⟩ := (ih (throttles_perform hi hstep)).2 (hruns _ hstep)
      exact ⟨d :: rest, bind_eq_ok.2 ⟨_, hstep, bind_eq_ok.2 ⟨rest, hrest, rfl⟩⟩⟩

lemma all_kept {calls : List FrameCall} {dropped : List Bool} (hi : Throttles c interval)
    (hfits : RunFits interval c calls)
    (hchain : (calls.map FrameCall.ts).IsChain fun s t => interval ≤ t - s)
    (hfirst : ∀ call ∈ calls.head?, ∀ n, c.nextFrameTimestampNs = some n → n ≤ call.ts)
    (h : performAll c calls = .ok dropped) : ∀ b ∈ dropped, b = false := by
  induction calls generalizing c dropped with
  | nil =>
    cases h
    simp
  | cons call calls ih =>
    obtain ⟨⟨d, c'⟩, hstep, h⟩ := bind_eq_ok.1 h
    obtain ⟨rest, hrest, h⟩ := bind_eq_ok.1 h
    cases h
    obtain ⟨hcall, hruns⟩ := hfits
    obtain ⟨rfl, m, hm, hle⟩ := perform_notEarly hi (hcall hi.positive) (hfirst call rfl) hstep
    have hnext : ∀ later ∈ calls.head?, ∀ n, c'.nextFrameTimestampNs = some n → n ≤ later.ts := by
      intro later hlater n hn
      obtain ⟨tail, rfl⟩ := List.head?_eq_some_iff.1 hlater
      have hgap := (List.isChain_cons_cons.1 hchain).1
      rw [hm] at hn
      cases hn
      omega
    have hlater := ih (throttles_perform hi hstep) (hruns _ hstep) hchain.tail hnext hrest
    intro b hb
    obtain rfl | hb := List.mem_cons.1 hb
    · rfl
    · exact hlater b hb

lemma early_frame {spacing : ℤ} (k : ℕ) (t lead : ℤ) (hi : Throttles c interval)
    (hspacing : 0 < spacing) (hclose : spacing < interval)
    (hnext : c.nextFrameTimestampNs = some (t + lead)) (hlead : 0 ≤ lead ∧ lead ≤ interval)
    (ht : 0 ≤ t) (hk : spacing + interval - lead ≤ k) (hroom : t + k * 1000000000 ≤ 2 ^ 62) :
    ∃ calls dropped, (∀ call ∈ calls, Fits call.ts) ∧ RunFits interval c calls ∧
      (t :: calls.map FrameCall.ts).IsChain (fun s t => spacing ≤ t - s) ∧
      performAll c calls = .ok dropped ∧ true ∈ dropped := by
  induction k generalizing c t lead with
  | zero =>
    push_cast at hk
    omega
  | succ k ih =>
    have hsmall := hi.small
    have hfit : Fits (t + spacing) := by
      simp only [Fits]
      omega
    have habs : |t + lead - (t + spacing)| ≤ interval := by
      rcases abs_cases (t + lead - (t + spacing)) with ⟨h, _⟩ | ⟨h, _⟩ <;> omega
    have hcall : CallFits interval (some (t + lead)) ⟨false, t + spacing⟩ := by
      refine ⟨?_, ?_, fun _ _ => ?_, fun hfar => ?_⟩
      · simp only [Fits]
        omega
      · change t + lead - (t + spacing) ≠ _
        omega
      · simp only [Fits]
        omega
      · change 2 * interval ≤ |t + lead - (t + spacing)| at hfar
        omega
    rw [← hnext] at hcall
    obtain ⟨⟨d, c'⟩, hstep⟩ := (perform_ok_iff hi).2 hcall
    have hwrap : I64.wrap (t + lead - (t + spacing)) = lead - spacing := by
      simp only [I64.wrap]
      omega
    obtain ⟨rfl, rfl, n, hn, hpos, -⟩ | ⟨rfl, n, hn, hle, -, rfl⟩ | ⟨-, hout, -⟩ :=
      shouldDropFrame_ok hi hstep
    · refine ⟨[⟨false, t + spacing⟩], [true], ?_, ⟨fun _ => hcall, fun _ _ => trivial⟩, ?_, ?_, ?_⟩
      · simpa using hfit
      · simp
      · exact bind_eq_ok.2 ⟨_, hstep, rfl⟩
      · simp
    · rw [hnext] at hn
      cases hn
      rw [hwrap] at hle
      have hadvance : I64.wrap (t + lead + interval) = t + spacing + (lead + interval - spacing) := by
        simp only [I64.wrap]
        omega
      have hi' := throttles_perform hi hstep
      obtain ⟨calls, dropped, hcalls, hruns, hchain, hrun, hmem⟩ :=
        ih (t + spacing) (lead + interval - spacing) hi' (by rw [hadvance])
          (by omega) (by omega) (by omega) (by push_cast at hroom; omega)
      refine ⟨⟨false, t + spacing⟩ :: calls, false :: dropped, ?_, ⟨fun _ => hcall, ?_⟩, ?_, ?_, ?_⟩
      · exact List.forall_mem_cons.2 ⟨hfit, hcalls⟩
      · intro r hr
        rw [hstep] at hr
        cases hr
        exact hruns
      · exact List.isChain_cons_cons.2 ⟨by change spacing ≤ t + spacing - t; omega, hchain⟩
      · exact bind_eq_ok.2 ⟨_, hstep, bind_eq_ok.2 ⟨_, hrun, rfl⟩⟩
      · exact List.mem_cons_of_mem _ hmem
    · have hout := hout _ hnext
      change I64.wrap (t + lead - (t + spacing)) ≤ _ ∨ _ ≤ I64.wrap (t + lead - (t + spacing)) at hout
      rw [hwrap] at hout
      omega

lemma runFits_of_nonpos (hzero : interval ≤ 0) (c : FramerateController) (calls : List FrameCall) :
    RunFits interval c calls := by
  induction calls generalizing c with
  | nil => trivial
  | cons call calls ih => exact ⟨fun hpos => absurd hpos (not_lt.2 hzero), fun r _ => ih r.2⟩

lemma performAll_unthrottled (hone : 1 ≤ rate) (hc : c.maxFramerate = .finite rate)
    (hzero : intervalOf rate ≤ 0) (calls : List FrameCall) :
    performAll c calls = .ok (calls.map fun _ => false) := by
  induction calls with
  | nil => rfl
  | cons call calls ih =>
    rw [performAll, perform_unthrottled hone hc hzero]
    exact bind_eq_ok.2 ⟨_, rfl, bind_eq_ok.2 ⟨_, ih, rfl⟩⟩

lemma lossy_run {spacing : ℤ} (hi : Throttles c interval) (hspacing : 0 < spacing)
    (hclose : spacing < interval) (hfresh : c.nextFrameTimestampNs = none) :
    ∃ calls dropped, (∀ call ∈ calls, Fits call.ts) ∧ RunFits interval c calls ∧
      (calls.map FrameCall.ts).IsChain (fun s t => spacing ≤ t - s) ∧
      performAll c calls = .ok dropped ∧ true ∈ dropped := by
  have hsmall := hi.small
  have hcall : CallFits interval c.nextFrameTimestampNs ⟨false, 0⟩ := by
    rw [hfresh]
    change Fits (0 + interval / 2)
    simp only [Fits]
    omega
  obtain ⟨⟨d, c'⟩, hstep⟩ := (perform_ok_iff hi).2 hcall
  obtain ⟨-, -, n, hn, -⟩ | ⟨-, n, hn, -⟩ | ⟨rfl, -, rfl⟩ := shouldDropFrame_ok hi hstep
  · rw [hfresh] at hn
    cases hn
  · rw [hfresh] at hn
    cases hn
  · have hnext : I64.wrap (0 + interval / 2) = 0 + interval / 2 := by
      simp only [I64.wrap]
      omega
    have hcadence : some (I64.wrap (0 + interval / 2)) = some (0 + interval / 2) := by rw [hnext]
    obtain ⟨calls, dropped, hcalls, hruns, hchain, hrun, hmem⟩ :=
      early_frame 2000000000 0 (interval / 2) (throttles_perform hi hstep) hspacing hclose
        hcadence (by omega) (le_refl 0)
        (by push_cast; omega) (by norm_num)
    refine ⟨⟨false, 0⟩ :: calls, false :: dropped, ?_, ⟨fun _ => hcall, ?_⟩, hchain, ?_, ?_⟩
    · exact List.forall_mem_cons.2 ⟨by decide, hcalls⟩
    · intro r hr
      rw [hstep] at hr
      cases hr
      exact hruns
    · exact bind_eq_ok.2 ⟨_, hstep, bind_eq_ok.2 ⟨_, hrun, rfl⟩⟩
    · exact List.mem_cons_of_mem _ hmem

lemma spaced_iff {calls : List FrameCall} : Spaced rate calls ↔
    (calls.map FrameCall.ts).IsChain fun s t => ⌈(nsecsPerSec : ℚ) / rate⌉ ≤ t - s := by
  simp only [Spaced, Int.ceil_le]

end Runs

lemma adaptAll_eq (a : VideoAdapter) (ts : List ℤ) :
    adaptAll a ts = performAll a.framerateController (ts.map fun t => ⟨false, t⟩) := by
  induction ts generalizing a with
  | nil => rfl
  | cons t ts ih =>
    rw [adaptAll, VideoAdapter.shouldDropFrame, List.map_cons, performAll, perform,
      if_neg Bool.false_ne_true]
    cases a.framerateController.shouldDropFrame true t with
    | error e => rfl
    | ok r =>
      simp only [ok_bind]
      change adaptAll _ ts >>= _ = _
      rw [ih]

/-- A run in which all fits is smooth exactly at the rates whose whole interval is not above the
spacing of their frames, and where something does not fit no run is. -/
theorem smooth_iff (rate : ℚ) (hrate : 1 / 2 ≤ rate) :
    ((∀ calls : List FrameCall, (∀ call ∈ calls, Fits call.ts) →
        RunFits (intervalOf rate) (.withMaxFramerate (.finite rate)) calls → Smooth rate calls) ↔
      RateKeeps rate) ∧
    (∀ calls : List FrameCall, Smooth rate calls →
      (calls ≠ [] → 1 ≤ rate) ∧
        RunFits (intervalOf rate) (.withMaxFramerate (.finite rate)) calls) ∧
    ∀ ts : List ℤ, adaptAll (VideoAdapter.new.setMaxFramerate (.finite rate)) ts =
      performAll (.withMaxFramerate (.finite rate)) (ts.map fun t => ⟨false, t⟩) := by
  have hspacing : 0 < ⌈(nsecsPerSec : ℚ) / rate⌉ := by
    apply Int.ceil_pos.2
    have : (0 : ℚ) < nsecsPerSec := by norm_num [nsecsPerSec]
    exact div_pos this (by linarith)
  have hfast : rate < 1 → intervalOf rate ≤ 0 ∧ ∀ call calls dropped,
      performAll (.withMaxFramerate (.finite rate)) (call :: calls) ≠ .ok dropped := by
    intro hlt
    constructor
    · rw [intervalOf, Int.floor_eq_zero_iff.2 ⟨by linarith, hlt⟩, Int.ediv_zero]
    · intro call calls dropped h
      obtain ⟨step, hstep, -⟩ := bind_eq_ok.1 h
      rw [divides_by_zero hrate hlt rfl] at hstep
      cases hstep
  refine ⟨⟨fun hall => ?_, fun hkeeps calls _ hruns => ?_⟩, fun calls hsmooth => ?_,
    fun ts => adaptAll_eq _ ts⟩
  · have hone : 1 ≤ rate := by
      by_contra hlt
      obtain ⟨hzero, hfault⟩ := hfast (not_le.1 hlt)
      obtain ⟨dropped, h, -⟩ := hall [⟨false, 0⟩] (by decide) (runFits_of_nonpos hzero _ _)
      exact hfault _ _ _ h
    refine ⟨hone, ?_⟩
    by_contra hclose
    have hi := throttles_rate (c := .withMaxFramerate (.finite rate)) hone rfl (by omega)
    obtain ⟨calls, dropped, hcalls, hruns, hchain, hrun, hmem⟩ :=
      lossy_run hi hspacing (not_le.1 hclose) rfl
    obtain ⟨all, h, hkept⟩ := hall calls hcalls hruns
    rw [hrun] at h
    cases h
    exact absurd (hkept (spaced_iff.2 hchain) true hmem) (by decide)
  · obtain ⟨hone, hclose⟩ := hkeeps
    rcases le_or_gt (intervalOf rate) 0 with hzero | hpos
    · refine ⟨_, performAll_unthrottled hone rfl hzero calls, fun _ b hb => ?_⟩
      obtain ⟨-, -, rfl⟩ := List.mem_map.1 hb
      rfl
    · have hi := throttles_rate (c := .withMaxFramerate (.finite rate)) hone rfl hpos
      obtain ⟨dropped, h⟩ := (performAll_ok_iff hi).2 hruns
      refine ⟨dropped, h, fun hspaced => ?_⟩
      have hchain := (spaced_iff.1 hspaced).imp fun s t hgap => le_trans hclose hgap
      exact all_kept hi hruns hchain (fun _ _ n hn => by cases hn) h
  · obtain ⟨dropped, h, -⟩ := hsmooth
    rcases lt_or_ge rate 1 with hlt | hone
    · obtain ⟨hzero, hfault⟩ := hfast hlt
      refine ⟨fun hne => ?_, runFits_of_nonpos hzero _ _⟩
      obtain ⟨call, rest, rfl⟩ := List.exists_cons_of_ne_nil hne
      exact absurd h (hfault _ _ _)
    · refine ⟨fun _ => hone, ?_⟩
      rcases le_or_gt (intervalOf rate) 0 with hzero | hpos
      · exact runFits_of_nonpos hzero _ _
      · exact (performAll_ok_iff (throttles_rate hone rfl hpos)).1 ⟨dropped, h⟩

theorem thirty_smooth : Smooth 30 [⟨false, 0⟩, ⟨false, 33333334⟩, ⟨false, 66666668⟩] :=
  (smooth_iff 30 (by norm_num)).1.2
    ⟨by norm_num, by
      rw [intervalOf, show ⌊(30 : ℚ)⌋ = 30 from Int.floor_intCast 30]
      exact Int.le_ceil_iff.2 (by norm_num [nsecsPerSec])⟩
    _ (by decide) (by
      have hi := throttles_rate (c := .withMaxFramerate (.finite 30)) (by norm_num) rfl
        (by rw [intervalOf, show ⌊(30 : ℚ)⌋ = 30 from Int.floor_intCast 30]; decide)
      exact (performAll_ok_iff hi).1 ⟨[false, false, false], by decide⟩)

/-- Half a frame in a second is admitted, and its first frame divides by zero. -/
theorem half_not_smooth : ¬∀ (rate : ℚ), 1 / 2 ≤ rate → ∀ calls : List FrameCall,
    (∀ call ∈ calls, Fits call.ts) → Smooth rate calls := by
  intro h
  obtain ⟨dropped, hrun, -⟩ := h (1 / 2) (le_refl _) [⟨false, 0⟩] (by decide)
  obtain ⟨step, hstep, -⟩ := bind_eq_ok.1 hrun
  rw [divides_by_zero (le_refl _) (by norm_num) rfl] at hstep
  cases hstep

end MediaServo.Media
