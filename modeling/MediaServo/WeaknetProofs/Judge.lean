import MediaServo.Weaknet.Timeline
import MediaServo.WeaknetProofs.Merging
import Mathlib.Order.Interval.Set.Disjoint
import Mathlib.Order.CompletePartialOrder

/-! The three windows of the judge, against those that its contract states. -/

namespace MediaServo.Weaknet

open MediaServo.Foundations

section Contract

variable (tl : List Event)

def markOf (kind : Ev) : Option ℕ := (tl.find? (·.ev = kind)).bind fun e => e.stamp.toOption

def stepTimesOf : List ℕ := (tl.filter (·.ev = .scenarioStep)).filterMap fun e => e.stamp.toOption

def startedAt : ℕ := (markOf tl .scenarioStart).getD 0

def baselineUntil : ℕ := (markOf tl .baselineDone).getD (startedAt tl + 10)

def endedAt : ℕ := (markOf tl .scenarioEnd).getD ((stepTimesOf tl).getLast?.getD (baselineUntil tl))

def zeroedAt : ℕ := ((recoveryFrom tl).toOption.bind id).getD (endedAt tl)

def times (window : Option (ℕ × ℕ)) : Set ℕ := {t | ∃ w ∈ window, w.1 ≤ t ∧ t < w.2}

/-- The windows of the contract. -/
structure AsContracted (w : Windows) : Prop where
  base : times (some w.base) = Set.Ico (startedAt tl) (baselineUntil tl)
  fault : times w.fault = Set.Ico (baselineUntil tl) (zeroedAt tl)
  recovery : times w.recovery =
    if zeroedAt tl < endedAt tl then Set.Ico (zeroedAt tl) (endedAt tl + 1) else ∅
  base_fault : Disjoint (times (some w.base)) (times w.fault)
  base_recovery : Disjoint (times (some w.base)) (times w.recovery)
  fault_recovery : Disjoint (times w.fault) (times w.recovery)

def behindZeroing : List ℕ := (stepTimesOf tl).reverse.takeWhile (· ≠ zeroedAt tl)

def faultFrom : ℕ :=
  (stepTimesOf tl).foldl (moveFault (baselineUntil tl) ((recoveryFrom tl).toOption.bind id))
    (baselineUntil tl)

/-- The windows of the judge, and when they are apart. -/
structure AsJudged (w : Windows) : Prop where
  base : times (some w.base) = Set.Ico (startedAt tl) (baselineUntil tl)
  fault : times w.fault =
    if baselineUntil tl < faultFrom tl then
      Set.Ico (faultFrom tl) (if faultFrom tl < zeroedAt tl then zeroedAt tl else endedAt tl)
    else ∅
  recovery : times w.recovery =
    if zeroedAt tl < endedAt tl then Set.Ico (zeroedAt tl) (endedAt tl + 1) else ∅
  apart : baselineUntil tl ≤ zeroedAt tl →
    faultFrom tl < zeroedAt tl ∨ faultFrom tl ≤ baselineUntil tl →
    Disjoint (times (some w.base)) (times w.fault) ∧
      Disjoint (times (some w.base)) (times w.recovery) ∧
      Disjoint (times w.fault) (times w.recovery)

/-- There is no fault window, and the recovery does not reach into the baseline. -/
structure NoFaultWindow : Prop where
  zeroed : zeroedAt tl ≤ baselineUntil tl
  behind : (∀ t ∈ behindZeroing tl, t ≤ baselineUntil tl) ∨ ∃ t ∈ behindZeroing tl, endedAt tl ≤ t
  apart : zeroedAt tl = baselineUntil tl ∨ endedAt tl ≤ zeroedAt tl ∨
    baselineUntil tl ≤ startedAt tl ∨ endedAt tl < startedAt tl

end Contract

lemma times_some (a b : ℕ) : times (some (a, b)) = Set.Ico a b := by
  ext t
  simp [times]

lemma times_none : times none = ∅ := by
  ext t
  simp [times]

lemma markOf_cons (e : Event) (tl : List Event) (kind : Ev) :
    markOf (e :: tl) kind = if e.ev = kind then e.stamp.toOption else markOf tl kind := by
  rw [markOf, List.find?_cons]
  split_ifs with h
  · simp [h]
  · simp [h, markOf]

lemma read_once {old : Option ℕ} {e : Event} {f : Option ℕ → Marks} {m next : Marks}
    (hm : m = f old)
    (h : (if old.isNone then (do
        let t ← e.stamp
        pure (f (some t)) : Except String Marks) else pure m) = .ok next) :
    ∃ t, next = f (some t) ∧ old.or e.stamp.toOption = some t := by
  cases old with
  | some t =>
    cases h
    exact ⟨t, hm, rfl⟩
  | none =>
    obtain ⟨t, ht, h⟩ := bind_eq_ok.1 h
    cases h
    refine ⟨t, rfl, ?_⟩
    rw [ht]
    rfl

lemma readEvent_ok {m next : Marks} {e : Event} (h : readEvent m e = .ok next) (tl : List Event) :
    next.start.or (markOf tl .scenarioStart) = m.start.or (markOf (e :: tl) .scenarioStart) ∧
    next.baseDone.or (markOf tl .baselineDone) = m.baseDone.or (markOf (e :: tl) .baselineDone) ∧
    next.endEv.or (tl.find? (·.ev = .scenarioEnd)) =
      m.endEv.or ((e :: tl).find? (·.ev = .scenarioEnd)) ∧
    next.steps ++ tl.filter (·.ev = .scenarioStep) =
      m.steps ++ (e :: tl).filter (·.ev = .scenarioStep) := by
  rw [readEvent] at h
  cases hev : e.ev with
  | scenarioStart =>
    rw [hev] at h
    obtain ⟨t, rfl, ht⟩ := read_once (f := fun t => { m with start := t }) rfl h
    simp [markOf_cons, hev, ht]
  | baselineDone =>
    rw [hev] at h
    obtain ⟨t, rfl, ht⟩ := read_once (f := fun t => { m with baseDone := t }) rfl h
    simp [markOf_cons, hev, ht]
  | scenarioEnd =>
    rw [hev] at h
    cases h
    cases hend : m.endEv <;> simp [markOf_cons, hev, hend]
  | _ =>
    rw [hev] at h
    cases h
    simp [markOf_cons, hev]

lemma marks_ok {tl : List Event} {m m' : Marks} (h : tl.foldlM readEvent m = .ok m') :
    m'.start = m.start.or (markOf tl .scenarioStart) ∧
    m'.baseDone = m.baseDone.or (markOf tl .baselineDone) ∧
    m'.endEv = m.endEv.or (tl.find? (·.ev = .scenarioEnd)) ∧
    m'.steps = m.steps ++ tl.filter (·.ev = .scenarioStep) := by
  induction tl generalizing m with
  | nil =>
    cases h
    simp [markOf]
  | cons e tl ih =>
    rw [List.foldlM_cons] at h
    obtain ⟨next, hnext, h⟩ := bind_eq_ok.1 h
    obtain ⟨hstart, hbase, hend, hsteps⟩ := ih h
    obtain ⟨kstart, kbase, kend, ksteps⟩ := readEvent_ok hnext tl
    exact ⟨hstart.trans kstart, hbase.trans kbase, hend.trans kend, hsteps.trans ksteps⟩

lemma stamps_ok {l : List Event} {stamps : List ℕ} (h : l.mapM Event.stamp = .ok stamps) :
    (l.filterMap fun e => e.stamp.toOption) = stamps := by
  induction l generalizing stamps with
  | nil =>
    cases h
    rfl
  | cons e l ih =>
    rw [List.mapM_cons] at h
    obtain ⟨t, ht, h⟩ := bind_eq_ok.1 h
    obtain ⟨rest, hrest, h⟩ := bind_eq_ok.1 h
    cases h
    rw [List.filterMap_cons, ht, ← ih hrest]
    rfl

lemma moveFault_other {baseDone faultEnd t : ℕ} {recovery : Option ℕ} (h : recovery ≠ some t) :
    moveFault baseDone recovery faultEnd t = max faultEnd t := by
  rw [moveFault, if_neg h]

lemma le_boundary {baseDone z x : ℕ} (hz : z ≤ baseDone) (hx : baseDone < x) (steps : List ℕ) :
    x ≤ steps.foldl (moveFault baseDone (some z)) baseDone ↔
      ∃ t ∈ steps.reverse.takeWhile (· ≠ z), x ≤ t := by
  induction steps using List.reverseRecOn with
  | nil => simp [hx]
  | append_singleton steps t ih =>
    rw [List.foldl_append, List.foldl_cons, List.foldl_nil, List.reverse_append,
      List.reverse_singleton, List.singleton_append, List.takeWhile_cons]
    by_cases ht : t = z
    · subst ht
      rw [moveFault, if_pos rfl]
      simp only [ne_eq, not_true_eq_false, decide_false, Bool.false_eq_true, if_false,
        List.not_mem_nil, false_and, exists_false, iff_false]
      omega
    · rw [moveFault_other (fun h => ht (Option.some.inj h).symm), le_max_iff, ih]
      simp [ht, or_comm]

lemma endOf_ok {tl : List Event} {m : Marks} {ends : ℕ} (hend : m.endEv = tl.find? (·.ev = .scenarioEnd))
    (hsteps : m.steps = tl.filter (·.ev = .scenarioStep))
    (h : endOf m (baselineUntil tl) = .ok ends) : endedAt tl = ends := by
  rw [endOf] at h
  cases hfind : tl.find? (·.ev = .scenarioEnd) with
  | some e =>
    rw [hend, hfind] at h
    rw [endedAt, markOf, hfind, Option.bind_some, show e.stamp = .ok ends from h]
    rfl
  | none =>
    rw [hend, hfind] at h
    rw [endedAt, markOf, hfind, Option.bind_none, Option.getD_none]
    cases hlast : m.steps.getLast? with
    | none =>
      rw [hlast] at h
      cases h
      rw [List.getLast?_eq_none_iff] at hlast
      rw [stepTimesOf, ← hsteps, hlast]
      rfl
    | some last =>
      rw [hlast] at h
      obtain ⟨before, hbefore⟩ := List.getLast?_eq_some_iff.1 hlast
      rw [stepTimesOf, ← hsteps, hbefore, List.filterMap_append, List.filterMap_cons,
        show last.stamp = .ok ends from h]
      simp [Except.toOption]

lemma judgeWindows_ok {tl : List Event} {w : Windows} (h : judgeWindows tl = .ok w) :
    ∃ recovery faultEnd, (recoveryFrom tl).toOption = some recovery ∧
      (stepTimesOf tl).foldl (moveFault (baselineUntil tl) recovery) (baselineUntil tl) = faultEnd ∧
      w = {
        base := (startedAt tl, baselineUntil tl)
        fault :=
          if baselineUntil tl < faultEnd then
            some (faultEnd, if faultEnd < zeroedAt tl then zeroedAt tl else endedAt tl)
          else none
        recovery :=
          if zeroedAt tl < endedAt tl then some (zeroedAt tl, endedAt tl + 1) else none } := by
  rw [judgeWindows] at h
  obtain ⟨m, hm, h⟩ := bind_eq_ok.1 h
  obtain ⟨hstart, hbase, hend, hsteps⟩ := marks_ok hm
  rw [Option.none_or] at hstart hbase hend
  rw [List.nil_append] at hsteps
  cases hs : m.start with
  | none =>
    rw [hs] at h
    cases h
  | some start =>
    rw [hs] at h
    obtain ⟨ends, hends, h⟩ := bind_eq_ok.1 h
    obtain ⟨recovery, hrec, h⟩ := bind_eq_ok.1 h
    obtain ⟨stamps, hstamps, h⟩ := bind_eq_ok.1 h
    have hstarted : startedAt tl = start := by rw [startedAt, ← hstart, hs, Option.getD_some]
    have hdone : baselineUntil tl = m.baseDone.getD (start + 10) := by
      rw [baselineUntil, ← hbase, hstarted]
    rw [← hdone] at hends h
    have hended := endOf_ok hend hsteps hends
    have hzeroed : zeroedAt tl = recovery.getD ends := by
      rw [zeroedAt, hrec, hended]
      rfl
    have htimes : stepTimesOf tl = stamps := by rw [stepTimesOf, ← hsteps, stamps_ok hstamps]
    refine ⟨recovery, _, by rw [hrec]; rfl, rfl, ?_⟩
    cases h
    rw [htimes, hzeroed, hstarted, hended]
    congr 1
    by_cases hmoved : baselineUntil tl < stamps.foldl (moveFault (baselineUntil tl) recovery)
      (baselineUntil tl)
    · rw [if_pos hmoved, if_pos hmoved, max_eq_left hmoved.le]
    · rw [if_neg hmoved, if_neg hmoved]

lemma fault_times_iff {base faultEnd z ends : ℕ} :
    times (if base < faultEnd then some (faultEnd, if faultEnd < z then z else ends) else none) =
      Set.Ico base z ↔ z ≤ base ∧ (faultEnd ≤ base ∨ ends ≤ faultEnd) := by
  constructor
  · intro h
    have hz : z ≤ base := by
      by_contra hlt
      have hmem : base ∈ Set.Ico base z := ⟨le_refl _, by omega⟩
      rw [← h] at hmem
      by_cases hmoved : base < faultEnd
      · rw [if_pos hmoved, times_some] at hmem
        exact absurd hmem.1 (by omega)
      · rw [if_neg hmoved, times_none] at hmem
        exact hmem
    refine ⟨hz, ?_⟩
    by_contra hboth
    have hempty : Set.Ico base z = ∅ := Set.Ico_eq_empty (by omega)
    rw [if_pos (by omega), if_neg (by omega), times_some, hempty] at h
    exact absurd (Set.Ico_eq_empty_iff.1 h) (by omega)
  · rintro ⟨hz, hends⟩
    have hempty : Set.Ico base z = ∅ := Set.Ico_eq_empty (by omega)
    rw [hempty]
    by_cases hmoved : base < faultEnd
    · rw [if_pos hmoved, if_neg (by omega), times_some]
      exact Set.Ico_eq_empty (by omega)
    · rw [if_neg hmoved, times_none]

lemma recovery_times (z ends : ℕ) :
    times (if z < ends then some (z, ends + 1) else none) =
      if z < ends then Set.Ico z (ends + 1) else ∅ := by
  split_ifs
  · rw [times_some]
  · rw [times_none]

lemma base_recovery_iff {start base z ends : ℕ} (hz : z ≤ base) :
    Disjoint (Set.Ico start base) (if z < ends then Set.Ico z (ends + 1) else ∅) ↔
      z = base ∨ ends ≤ z ∨ base ≤ start ∨ ends < start := by
  split_ifs with h
  · rw [Set.Ico_disjoint_Ico]
    omega
  · simp only [Set.disjoint_empty, true_iff]
    omega

lemma boundary_iff {tl : List Event} {recovery : Option ℕ}
    (hrec : (recoveryFrom tl).toOption = some recovery) (hz : zeroedAt tl ≤ baselineUntil tl) :
    ((stepTimesOf tl).foldl (moveFault (baselineUntil tl) recovery) (baselineUntil tl) ≤
        baselineUntil tl ∨
      endedAt tl ≤ (stepTimesOf tl).foldl (moveFault (baselineUntil tl) recovery) (baselineUntil tl)) ↔
    (∀ t ∈ behindZeroing tl, t ≤ baselineUntil tl) ∨ ∃ t ∈ behindZeroing tl, endedAt tl ≤ t := by
  by_cases hends : endedAt tl ≤ baselineUntil tl
  · constructor
    · intro _
      by_cases hall : ∀ t ∈ behindZeroing tl, t ≤ baselineUntil tl
      · exact .inl hall
      · push Not at hall
        obtain ⟨t, ht, hlate⟩ := hall
        exact .inr ⟨t, ht, by omega⟩
    · intro _
      omega
  · cases recovery with
    | none =>
      rw [zeroedAt, hrec] at hz
      exact absurd hz hends
    | some z =>
      have hzeroed : zeroedAt tl = z := by
        rw [zeroedAt, hrec]
        rfl
      rw [hzeroed] at hz
      rw [behindZeroing, hzeroed, le_boundary hz (by omega), ← not_lt, ← Nat.succ_le_iff,
        le_boundary hz (Nat.lt_succ_self _)]
      simp only [not_exists, not_and, Nat.succ_le_iff, not_lt]

lemma asContracted_iff {tl : List Event} {w : Windows} (h : judgeWindows tl = .ok w) :
    AsContracted tl w ↔ NoFaultWindow tl := by
  obtain ⟨recovery, faultEnd, hrec, hmoved, rfl⟩ := judgeWindows_ok h
  constructor
  · intro hw
    obtain ⟨hz, hbehind⟩ := fault_times_iff.1 hw.fault
    rw [← hmoved, boundary_iff hrec hz] at hbehind
    have hapart := hw.base_recovery
    rw [recovery_times, times_some, base_recovery_iff hz] at hapart
    exact ⟨hz, hbehind, hapart⟩
  · rintro ⟨hz, hbehind, hapart⟩
    rw [← boundary_iff hrec hz, hmoved] at hbehind
    have hfault := fault_times_iff.2 ⟨hz, hbehind⟩
    have hempty : Set.Ico (baselineUntil tl) (zeroedAt tl) = ∅ := Set.Ico_eq_empty (by omega)
    refine ⟨times_some _ _, hfault, recovery_times _ _, ?_, ?_, ?_⟩
    · rw [hfault, hempty]
      exact Set.disjoint_empty _
    · rw [recovery_times, times_some]
      exact (base_recovery_iff hz).2 hapart
    · rw [hfault, hempty]
      exact Set.empty_disjoint _

lemma faultFrom_eq {tl : List Event} {recovery : Option ℕ}
    (hrec : (recoveryFrom tl).toOption = some recovery) :
    (stepTimesOf tl).foldl (moveFault (baselineUntil tl) recovery) (baselineUntil tl) =
      faultFrom tl := by
  rw [faultFrom, hrec]
  rfl

lemma asJudged {tl : List Event} {w : Windows} (h : judgeWindows tl = .ok w) : AsJudged tl w := by
  obtain ⟨recovery, faultEnd, hrec, hmoved, rfl⟩ := judgeWindows_ok h
  rw [faultFrom_eq hrec] at hmoved
  subst hmoved
  have hfault : times (if baselineUntil tl < faultFrom tl then
        some (faultFrom tl, if faultFrom tl < zeroedAt tl then zeroedAt tl else endedAt tl)
      else none) =
      if baselineUntil tl < faultFrom tl then
        Set.Ico (faultFrom tl) (if faultFrom tl < zeroedAt tl then zeroedAt tl else endedAt tl)
      else ∅ := by
    split_ifs
    · rw [times_some]
    · rw [times_some]
    · rw [times_none]
  refine ⟨times_some _ _, hfault, recovery_times _ _, fun hz hbefore => ?_⟩
  rw [hfault, recovery_times, times_some]
  refine ⟨?_, ?_, ?_⟩
  · split_ifs
    · exact Set.Ico_disjoint_Ico.2 (by omega)
    · exact Set.Ico_disjoint_Ico.2 (by omega)
    · exact Set.disjoint_empty _
  · split_ifs
    · exact Set.Ico_disjoint_Ico.2 (by omega)
    · exact Set.disjoint_empty _
  · by_cases hlate : baselineUntil tl < faultFrom tl
    · have hlt : faultFrom tl < zeroedAt tl := hbefore.resolve_right (by omega)
      rw [if_pos hlate, if_pos hlt]
      split_ifs
      · exact Set.Ico_disjoint_Ico.2 (by omega)
      · exact Set.disjoint_empty _
    · rw [if_neg hlate]
      exact Set.empty_disjoint _

lemma foldl_moveFault {base z : ℕ} {times : List ℕ} (hsorted : times.Pairwise (· ≤ ·))
    (hz : ∀ t ∈ times, t ≤ z) (hbase : base ≤ z) :
    (∀ t ∈ times, t < z → t ≤ times.foldl (moveFault base (some z)) base) ∧
      (times.foldl (moveFault base (some z)) base = base ∨
        times.foldl (moveFault base (some z)) base ∈ times.filter (· < z)) ∧
      base ≤ times.foldl (moveFault base (some z)) base := by
  induction times using List.reverseRecOn with
  | nil => exact ⟨by simp, .inl rfl, le_refl _⟩
  | append_singleton times t ih =>
    obtain ⟨hbefore, hin, hle⟩ := ih (List.pairwise_append.1 hsorted).1
      (fun x hx => hz x (List.mem_append_left _ hx))
    rw [List.foldl_append, List.foldl_cons, List.foldl_nil]
    generalize times.foldl (moveFault base (some z)) base = b at hbefore hin hle
    have hb : b ≤ z := by
      rcases hin with rfl | hin
      · exact hbase
      · exact (of_decide_eq_true (List.mem_filter.1 hin).2).le
    have htz := hz t (by simp)
    by_cases ht : z = t
    · subst ht
      have hmove : moveFault base (some z) b z = b := by
        rw [moveFault, if_pos rfl]
        omega
      rw [hmove]
      refine ⟨fun x hx hxz => ?_, hin.imp_right fun h => ?_, hle⟩
      · rcases List.mem_append.1 hx with hx | hx
        · exact hbefore x hx hxz
        · exact absurd hxz (by simp_all)
      · rw [List.filter_append]
        exact List.mem_append_left _ h
    · have hmove : moveFault base (some z) b t = max b t := by
        rw [moveFault, if_neg (by simpa using ht)]
      rw [hmove]
      refine ⟨fun x hx hxz => ?_, ?_, by omega⟩
      · rcases List.mem_append.1 hx with hx | hx
        · exact (hbefore x hx hxz).trans (le_max_left _ _)
        · rw [List.mem_singleton.1 hx]
          exact le_max_right _ _
      · rw [List.filter_append]
        rcases le_total b t with hbt | htb
        · rw [max_eq_right hbt]
          right
          simp
          omega
        · rw [max_eq_left htb]
          exact hin.imp_right fun h => List.mem_append_left _ h

def recoveryPass : List Event :=
  [⟨.scenarioStart, .ok 1, none⟩, ⟨.baselineDone, .ok 11, none⟩,
    ⟨.set, .ok 16, some "rtt=100ms jitter=0ms loss=8%/uniform rate=sentinel reorder=0 seed=off"⟩,
    ⟨.scenarioStep, .ok 16, none⟩,
    ⟨.set, .ok 36, some "rtt=0ms jitter=0ms loss=0%/uniform rate=sentinel reorder=0 seed=off"⟩,
    ⟨.scenarioStep, .ok 36, none⟩, ⟨.scenarioEnd, .ok 41, none⟩]

end MediaServo.Weaknet
