import Mathlib.Algebra.GCDMonoid.Multiset
import Mathlib.Algebra.GCDMonoid.Nat
import MediaServo.Media.Broadcaster

/-! What the broadcaster delivers and what it asks its source for. -/

namespace MediaServo.Media

lemma toNat_gcd (a b : UInt32) : (gcd a b).toNat = Nat.gcd a.toNat b.toNat := by
  induction a, b using gcd.induct with
  | case1 a =>
    rw [gcd, dif_pos rfl]
    simp
  | case2 a b hb ih =>
    rw [gcd, dif_neg hb, ih, UInt32.toNat_mod, Nat.gcd_comm b.toNat, ← Nat.gcd_rec, Nat.gcd_comm]

lemma toNat_lcm (checks : Bool) {a b : UInt32} (ha : a ≠ 0) (hb : b ≠ 0)
    (hfits : Nat.lcm a.toNat b.toNat < 2 ^ 32) :
    ∃ m, lcm checks a b = some m ∧ m.toNat = Nat.lcm a.toNat b.toNat := by
  have hquot : a.toNat / Nat.gcd a.toNat b.toNat * b.toNat = Nat.lcm a.toNat b.toNat := by
    rw [Nat.lcm_eq_mul_div, Nat.div_mul_right_comm (Nat.gcd_dvd_left a.toNat b.toNat)]
  have hdiv : (a / gcd a b).toNat * b.toNat = Nat.lcm a.toNat b.toNat := by
    rw [UInt32.toNat_div, toNat_gcd, hquot]
  refine ⟨a / gcd a b * b, ?_, ?_⟩
  · rw [lcm, if_neg (by simp [ha, hb]), mulU32, hdiv, if_neg (by omega)]
  · rw [UInt32.toNat_mul, hdiv, Nat.mod_eq_of_lt hfits]

structure Least (l top : UInt32) (xs : List UInt32) : Prop where
  attained : l = top ∨ l ∈ xs ∧ l ≠ 0
  top : l ≤ top
  below : ∀ x ∈ xs, x ≠ 0 → l ≤ x

lemma limit_cases (m x : UInt32) : limit m x = m ∧ (x ≠ 0 → m ≤ x) ∨
    limit m x = x ∧ x ≠ 0 ∧ x ≤ m := by
  rw [limit]
  split_ifs with hx hm
  · exact Or.inl ⟨rfl, fun _ => hm⟩
  · exact Or.inr ⟨rfl, hx, UInt32.le_of_lt (UInt32.not_le.mp hm)⟩
  · exact Or.inl ⟨rfl, fun h => absurd h hx⟩

lemma foldl_limit (top : UInt32) (xs : List UInt32) : Least (xs.foldl limit top) top xs := by
  induction xs generalizing top with
  | nil => exact ⟨Or.inl rfl, UInt32.le_refl top, by simp⟩
  | cons x xs ih =>
    rw [List.foldl_cons]
    obtain ⟨hat, htop, hbelow⟩ := ih (limit top x)
    rcases limit_cases top x with ⟨hl, hx⟩ | ⟨hl, hx, hle⟩
    · rw [hl] at hat htop hbelow ⊢
      refine ⟨hat.imp_right fun h => ⟨List.mem_cons_of_mem x h.1, h.2⟩, htop, ?_⟩
      intro y hy hy0
      rcases List.mem_cons.mp hy with rfl | hy
      · exact UInt32.le_trans htop (hx hy0)
      · exact hbelow y hy hy0
    · rw [hl] at hat htop hbelow ⊢
      refine ⟨Or.inr ?_, UInt32.le_trans htop hle, ?_⟩
      · rcases hat with hat | hat
        · exact ⟨by rw [hat]; exact List.mem_cons_self, by rw [hat]; exact hx⟩
        · exact ⟨List.mem_cons_of_mem x hat.1, hat.2⟩
      · intro y hy hy0
        rcases List.mem_cons.mp hy with rfl | hy
        · exact htop
        · exact hbelow y hy hy0

lemma Least.unique {l l' top : UInt32} {xs xs' : List UInt32} (h : Least l top xs)
    (h' : Least l' top xs') (hmem : ∀ x, x ∈ xs ↔ x ∈ xs') : l = l' := by
  apply UInt32.le_antisymm
  · rcases h'.attained with heq | ⟨hm, h0⟩
    · rw [heq]
      exact h.top
    · exact h.below l' ((hmem l').2 hm) h0
  · rcases h.attained with heq | ⟨hm, h0⟩
    · rw [heq]
      exact h'.top
    · exact h'.below l ((hmem l).1 hm) h0

namespace VideoBroadcaster

variable {F ε : Type} {checks : Bool} {sinks : List (SinkEntry F ε)}

def alignments (sinks : List (SinkEntry F ε)) : Multiset ℕ :=
  ((sinks.map fun e => e.wants.resolutionAlignment.toNat).filter (· ≠ 0) : List ℕ)

lemma alignments_cons (e : SinkEntry F ε) (sinks : List (SinkEntry F ε)) :
    alignments (e :: sinks) = if e.wants.resolutionAlignment.toNat ≠ 0 then
      e.wants.resolutionAlignment.toNat ::ₘ alignments sinks else alignments sinks := by
  rw [alignments, List.map_cons, List.filter_cons]
  by_cases h : e.wants.resolutionAlignment.toNat = 0
  · simp [h, alignments]
  · simp [h, alignments]

lemma alignments_lcm_ne_zero (sinks : List (SinkEntry F ε)) : (alignments sinks).lcm ≠ 0 := by
  rw [Multiset.lcm_ne_zero_iff, alignments, Multiset.mem_coe, List.mem_filter]
  simp

lemma aggregate_some {acc w : VideoSinkWants} {e : SinkEntry F ε}
    (h : aggregate checks acc e = some w) :
    w.isActive = (acc.isActive || e.wants.isActive) ∧
      w.maxPixelCount = limit acc.maxPixelCount e.wants.maxPixelCount ∧
      w.maxFramerateFps = limit acc.maxFramerateFps e.wants.maxFramerateFps ∧
      w.rotationApplied = acc.rotationApplied := by
  rw [aggregate] at h
  split at h
  · cases h
  · cases h
    exact ⟨rfl, rfl, rfl, rfl⟩

lemma fold_some {acc w : VideoSinkWants} (h : sinks.foldlM (aggregate checks) acc = some w) :
    w.isActive = (acc.isActive || sinks.any fun e => e.wants.isActive) ∧
      w.maxPixelCount = (sinks.map fun e => e.wants.maxPixelCount).foldl limit acc.maxPixelCount ∧
      w.maxFramerateFps =
        (sinks.map fun e => e.wants.maxFramerateFps).foldl limit acc.maxFramerateFps ∧
      w.rotationApplied = acc.rotationApplied := by
  induction sinks generalizing acc with
  | nil =>
    cases h
    simp
  | cons e sinks ih =>
    rw [List.foldlM_cons] at h
    obtain ⟨acc', hacc, h⟩ := Option.bind_eq_some_iff.mp h
    obtain ⟨hactive, hpixel, hfps, hrot⟩ := aggregate_some hacc
    obtain ⟨hactive', hpixel', hfps', hrot'⟩ := ih h
    rw [hactive', hpixel', hfps', hrot', hactive, hpixel, hfps, hrot]
    simp [Bool.or_assoc]

variable (checks) in
lemma fold_alignment (acc : VideoSinkWants) (hacc : acc.resolutionAlignment ≠ 0)
    (hfits : Nat.lcm acc.resolutionAlignment.toNat (alignments sinks).lcm < 2 ^ 32) :
    ∃ w, sinks.foldlM (aggregate checks) acc = some w ∧ w.resolutionAlignment.toNat =
      Nat.lcm acc.resolutionAlignment.toNat (alignments sinks).lcm := by
  induction sinks generalizing acc with
  | nil => exact ⟨acc, rfl, by simp [alignments]⟩
  | cons e sinks ih =>
    by_cases he : e.wants.resolutionAlignment = 0
    · have hlcm : lcm checks acc.resolutionAlignment e.wants.resolutionAlignment =
          some acc.resolutionAlignment := by
        rw [he, lcm, if_pos (Or.inr rfl), if_neg]
        intro hle
        exact hacc (UInt32.le_antisymm hle (UInt32.zero_le))
      rw [alignments_cons, he] at hfits ⊢
      simp only [UInt32.toNat_zero, ne_eq, not_true_eq_false, if_false] at hfits ⊢
      rw [List.foldlM_cons, aggregate, hlcm]
      exact ih ⟨_, _, _, acc.resolutionAlignment, _⟩ hacc hfits
    · have hn : e.wants.resolutionAlignment.toNat ≠ 0 := fun h => he (UInt32.toNat_inj.mp h)
      have hpos : 0 < Nat.lcm acc.resolutionAlignment.toNat
          (alignments (e :: sinks)).lcm := by
        apply Nat.lcm_pos
        · exact Nat.pos_of_ne_zero fun h => hacc (UInt32.toNat_inj.mp h)
        · exact Nat.pos_of_ne_zero (alignments_lcm_ne_zero (e :: sinks))
      rw [alignments_cons, if_pos hn, Multiset.lcm_cons, lcm_eq_nat_lcm, ← Nat.lcm_assoc]
        at hfits hpos ⊢
      have hfirst := Nat.lt_of_le_of_lt (Nat.le_of_dvd hpos (Nat.dvd_lcm_left _ _)) hfits
      obtain ⟨m, hm, hval⟩ := toNat_lcm checks hacc he hfirst
      rw [← hval] at hfits ⊢
      rw [List.foldlM_cons, aggregate, hm]
      apply ih ⟨_, _, _, m, _⟩ ?_ hfits
      intro h0
      rw [← hval, show m = 0 from h0] at hpos
      simp at hpos

lemma deliver_ok {frame : F} (h : ∀ e ∈ sinks, e.wants.isActive → ∃ w, e.sink frame = .ok w) :
    deliver frame sinks = ((sinks.filter fun e => e.wants.isActive).map SinkEntry.id, .ok ()) := by
  induction sinks with
  | nil => rfl
  | cons e sinks ih =>
    have hrest := ih fun x hx => h x (List.mem_cons_of_mem e hx)
    rw [deliver]
    by_cases ha : e.wants.isActive
    · obtain ⟨w, hw⟩ := h e List.mem_cons_self ha
      rw [if_pos ha, hw, hrest, List.filter_cons, if_pos ha]
      rfl
    · rw [if_neg ha, hrest, List.filter_cons, if_neg ha]

lemma deliver_initial (frame : F) :
    (deliver frame sinks).1 <+: (sinks.filter fun e => e.wants.isActive).map SinkEntry.id := by
  induction sinks with
  | nil => exact List.prefix_rfl
  | cons e sinks ih =>
    rw [deliver, List.filter_cons]
    split_ifs with ha
    · cases e.sink frame with
      | error err => exact ⟨_, rfl⟩
      | ok w => exact List.cons_prefix_cons.mpr ⟨rfl, ih⟩
    · exact ih

lemma sendFrame_given (frame : F) : (sendFrame checks sinks frame).1 = (deliver frame sinks).1 := by
  rw [sendFrame]
  rcases deliver frame sinks with ⟨given, err | ok⟩
  · rfl
  · rfl

/-- The limits of a list of sinks, with what stands for them while no sink is active. -/
structure Limits (w : VideoSinkWants) (sinks : List (SinkEntry F ε)) : Prop where
  active : w.isActive = true ↔ sinks = [] ∨ ∃ e ∈ sinks, e.wants.isActive
  least : (∃ e ∈ sinks, e.wants.isActive) →
    Least w.maxPixelCount 0xFFFFFFFF (sinks.map fun e => e.wants.maxPixelCount) ∧
      Least w.maxFramerateFps 0xFFFFFFFF (sinks.map fun e => e.wants.maxFramerateFps)
  idle : (∀ e ∈ sinks, ¬ e.wants.isActive) → w.maxPixelCount = 0 ∧ w.maxFramerateFps = 0
  rotation : w.rotationApplied = false

lemma wants_cons {w : VideoSinkWants} (hne : sinks ≠ []) (h : wants checks sinks = some w) :
    ∃ v, sinks.foldlM (aggregate checks) ⟨false, 0xFFFFFFFF, 0xFFFFFFFF, 1, false⟩ = some v ∧
      w = if v.isActive then v else { v with maxPixelCount := 0, maxFramerateFps := 0 } := by
  rw [wants, if_neg (by simpa using hne)] at h
  split at h
  · cases h
  · rename_i v hv
    exact ⟨v, hv, (Option.some.inj h).symm⟩

lemma wants_limits {w : VideoSinkWants} (h : wants checks sinks = some w) : Limits w sinks := by
  by_cases hne : sinks = []
  · subst hne
    cases h
    exact ⟨by simp [VideoSinkWants.default], by simp, fun _ => ⟨rfl, rfl⟩, rfl⟩
  · obtain ⟨v, hv, rfl⟩ := wants_cons hne h
    obtain ⟨hactive, hpixel, hfps, hrot⟩ := fold_some hv
    have hiff : v.isActive = true ↔ ∃ e ∈ sinks, e.wants.isActive := by
      rw [hactive]
      simp
    by_cases ha : v.isActive
    · rw [if_pos ha]
      refine ⟨by simp [hne, hiff], ?_, ?_, hrot⟩
      · intro _
        rw [hpixel, hfps]
        exact ⟨foldl_limit _ _, foldl_limit _ _⟩
      · intro hidle
        obtain ⟨e, he, hae⟩ := hiff.1 ha
        exact absurd hae (hidle e he)
    · rw [if_neg ha]
      refine ⟨by simp [hne, hiff], ?_, fun _ => ⟨rfl, rfl⟩, hrot⟩
      intro hex
      exact absurd (hiff.2 hex) ha

lemma Limits.unique {w w' : VideoSinkWants} {sinks' : List (SinkEntry F ε)} (h : Limits w sinks)
    (h' : Limits w' sinks') (hperm : sinks.Perm sinks') :
    w' = { w with resolutionAlignment := w'.resolutionAlignment } := by
  have hmem : ∀ e, e ∈ sinks ↔ e ∈ sinks' := fun e => hperm.mem_iff
  have hmap : ∀ (f : SinkEntry F ε → UInt32) x, x ∈ sinks.map f ↔ x ∈ sinks'.map f :=
    fun f x => (hperm.map f).mem_iff
  have hnil : sinks = [] ↔ sinks' = [] := by
    rw [← List.length_eq_zero_iff, hperm.length_eq, List.length_eq_zero_iff]
  have hactive : w'.isActive = w.isActive := by
    rw [Bool.eq_iff_iff, h'.active, h.active, hnil]
    simp only [hmem]
  have hlimits : w'.maxPixelCount = w.maxPixelCount ∧ w'.maxFramerateFps = w.maxFramerateFps := by
    by_cases hex : ∃ e ∈ sinks, e.wants.isActive
    · have hex' : ∃ e ∈ sinks', e.wants.isActive := by simpa only [hmem] using hex
      exact ⟨((h.least hex).1.unique (h'.least hex').1 (hmap _)).symm,
        ((h.least hex).2.unique (h'.least hex').2 (hmap _)).symm⟩
    · push Not at hex
      have hidle := h.idle (by simpa using hex)
      have hidle' := h'.idle (by simpa [← hmem] using hex)
      rw [hidle.1, hidle.2, hidle'.1, hidle'.2]
      exact ⟨rfl, rfl⟩
  obtain ⟨active, pixel, fps, alignment, rotation⟩ := w
  obtain ⟨active', pixel', fps', alignment', rotation'⟩ := w'
  simp only [VideoSinkWants.mk.injEq]
  exact ⟨hactive, hlimits.1, hlimits.2, trivial, h'.rotation.trans h.rotation.symm⟩

variable (checks) in
lemma wants_alignment (hfits : (alignments sinks).lcm < 2 ^ 32) :
    ∃ w, wants checks sinks = some w ∧ w.resolutionAlignment.toNat = (alignments sinks).lcm := by
  by_cases hne : sinks = []
  · subst hne
    exact ⟨.default, rfl, by simp [alignments, VideoSinkWants.default]⟩
  · obtain ⟨v, hv, hval⟩ := fold_alignment checks ⟨false, 0xFFFFFFFF, 0xFFFFFFFF, 1, false⟩ (by decide)
      (by simpa [Nat.lcm_one_left] using hfits)
    rw [wants, if_neg (by simpa using hne), hv]
    refine ⟨_, rfl, ?_⟩
    split_ifs
    · simpa [Nat.lcm_one_left] using hval
    · simpa [Nat.lcm_one_left] using hval

lemma dvd_alignments {e : SinkEntry F ε} (he : e ∈ sinks) (h0 : e.wants.resolutionAlignment ≠ 0) :
    e.wants.resolutionAlignment.toNat ∣ (alignments sinks).lcm := by
  apply Multiset.dvd_lcm
  rw [alignments, Multiset.mem_coe, List.mem_filter]
  refine ⟨List.mem_map.mpr ⟨e, he, rfl⟩, ?_⟩
  exact decide_eq_true fun h => h0 (UInt32.toNat_inj.mp h)

lemma alignments_perm {sinks' : List (SinkEntry F ε)} (h : sinks.Perm sinks') :
    alignments sinks = alignments sinks' :=
  Multiset.coe_eq_coe.mpr ((h.map _).filter _)

/-- A frame goes to active sinks only and to none of them twice, and when none of them refuses it
to all of them; what is asked for has the
least non-zero limits while some sink is active, and no limit at all while none is, in any order
of the sinks; and alignments whose least common multiple fits are all met, in any order too. -/
theorem broadcast_and_wants (checks : Bool) (sinks : List (SinkEntry F ε)) :
    (∀ frame, (sendFrame checks sinks frame).1 <+:
        (sinks.filter fun e => e.wants.isActive).map SinkEntry.id ∧
      ((∀ e ∈ sinks, e.wants.isActive → ∃ w, e.sink frame = .ok w) →
        (sendFrame checks sinks frame).1 =
          (sinks.filter fun e => e.wants.isActive).map SinkEntry.id)) ∧
    (∀ w, wants checks sinks = some w → Limits w sinks ∧
      ∀ sinks' w', sinks.Perm sinks' → wants checks sinks' = some w' →
        w' = { w with resolutionAlignment := w'.resolutionAlignment }) ∧
    ((alignments sinks).lcm < 2 ^ 32 → ∃ w, wants checks sinks = some w ∧
      (∀ e ∈ sinks, e.wants.resolutionAlignment ≠ 0 →
        e.wants.resolutionAlignment.toNat ∣ w.resolutionAlignment.toNat) ∧
      ∀ sinks', sinks.Perm sinks' → wants checks sinks' = some w) := by
  refine ⟨?_, ?_, ?_⟩
  · intro frame
    rw [sendFrame_given]
    refine ⟨deliver_initial frame, ?_⟩
    intro hok
    rw [deliver_ok hok]
  · intro w hw
    refine ⟨wants_limits hw, ?_⟩
    intro sinks' w' hperm hw'
    exact (wants_limits hw).unique (wants_limits hw') hperm
  · intro hfits
    obtain ⟨w, hw, hval⟩ := wants_alignment checks hfits
    refine ⟨w, hw, ?_, ?_⟩
    · intro e he h0
      rw [hval]
      exact dvd_alignments he h0
    · intro sinks' hperm
      rw [alignments_perm hperm] at hfits hval
      obtain ⟨w', hw', hval'⟩ := wants_alignment checks hfits
      have heq := (wants_limits hw).unique (wants_limits hw') hperm
      rw [hw', heq, UInt32.toNat_inj.mp (hval'.trans hval.symm)]

def idleSink : SinkEntry ℕ String := ⟨1, fun _ => .error "closed", ⟨false, 307200, 60, 1, false⟩⟩

/-- The limits of a sink that is not active are not passed on. -/
theorem idle_limits_dropped : ¬ ∀ w, wants true [idleSink] = some w →
    Least w.maxPixelCount 0xFFFFFFFF [307200] := by
  intro h
  have hw : wants true [idleSink] = some ⟨false, 0, 0, 1, false⟩ := by
    simp [wants, idleSink, aggregate, lcm, gcd, mulU32, limit]
  have hleast := h _ hw
  rcases hleast.attained with h0 | h0
  · exact absurd h0 (by decide)
  · exact h0.2 rfl

end VideoBroadcaster

end MediaServo.Media
