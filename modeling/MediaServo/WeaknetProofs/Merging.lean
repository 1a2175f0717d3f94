import MediaServo.Foundations.Partial
import MediaServo.Weaknet.Drive

/-! A merge fails for a value out of its range, or for a Gilbert model without a loss to take over.
The first is a matter of the override alone; a loss that was once given stays. -/

namespace MediaServo.Weaknet

open MediaServo.Foundations

variable {fmt : FloatText}

lemma bind_unit_ok {α : Type} {x : Except String Unit} {f : Unit → Except String α} {a : α} :
    (x >>= f) = .ok a ↔ x = .ok () ∧ f () = .ok a := by
  cases x with
  | error e => simp [bind, Except.bind]
  | ok u => simp [bind, Except.bind]

/-- Every value that an override sets is in its range. -/
structure StepOverride.Valid (fmt : FloatText) (ov : StepOverride) : Prop where
  rtt : ∀ {v}, ov.rttMs = some v → validateRtt v = .ok ()
  loss : ∀ {l}, ov.loss = some l → validateLoss l = .ok ()
  gemodel : ∀ {r h k}, ov.gemodel = some (r, h, k) →
    validateGemodelValue r = .ok () ∧ validateGemodelValue h = .ok () ∧
      validateGemodelValue k = .ok ()
  reorder : validateOpt validateReorder ov.reorderPct = .ok ()
  rate : validateOpt (validateRate fmt) ov.rateMbps = .ok ()

lemma validate_iff {s : ImpairSpec} :
    s.validate fmt = .ok () ↔ validateRtt s.rttMs = .ok () ∧
      validateOpt LossSpec.validate s.loss = .ok () ∧
      validateOpt validateReorder s.reorderPct = .ok () ∧
      validateOpt (validateRate fmt) s.rateMbps = .ok () := by
  simp only [ImpairSpec.validate, bind_unit_ok, validateJitter, true_and]

lemma loss_validate_geModel {loss r h k : String} :
    (LossSpec.geModel loss r h k).validate = .ok () ↔ validateLoss loss = .ok () ∧
      validateGemodelValue r = .ok () ∧ validateGemodelValue h = .ok () ∧
      validateGemodelValue k = .ok () := by
  simp only [LossSpec.validate, bind_unit_ok]

lemma validateOpt_or {α : Type} {f : α → Except String Unit} {a b : Option α} :
    validateOpt f (a.or b) = .ok () ↔
      validateOpt f a = .ok () ∧ (a = none → validateOpt f b = .ok ()) := by
  cases a <;> simp [validateOpt]

def merged (base : ImpairSpec) (ov : StepOverride) (loss : Option LossSpec) : ImpairSpec :=
  { base with
    rttMs := ov.rttMs.getD base.rttMs
    jitterMs := ov.jitterMs.getD base.jitterMs
    loss := loss
    reorderPct := ov.reorderPct.or base.reorderPct
    rateMbps := ov.rateMbps.or base.rateMbps
    seed := ov.seed.or base.seed }

lemma mergeStep_ok {base s : ImpairSpec} {ov : StepOverride} :
    mergeStep fmt base ov = .ok s ↔
      ∃ loss, mergeLoss base.loss ov = .ok loss ∧ s = merged base ov loss ∧
        s.validate fmt = .ok () := by
  simp only [mergeStep, bind_eq_ok, merged]
  refine exists_congr fun loss => and_congr_right fun _ => ?_
  refine ⟨?_, ?_⟩
  · rintro ⟨_, hv, hs⟩
    cases hs
    exact ⟨rfl, hv⟩
  · rintro ⟨rfl, hv⟩
    exact ⟨(), hv, rfl⟩

def StepOverride.needsLoss (ov : StepOverride) : Bool := ov.gemodel.isSome && ov.loss.isNone

def StepOverride.givesLoss (ov : StepOverride) : Bool := ov.gemodel.isSome || ov.loss.isSome

lemma givesLoss_of_needsLoss {ov : StepOverride} (h : ov.needsLoss) : ov.givesLoss := by
  simp_all [StepOverride.needsLoss, StepOverride.givesLoss]

lemma inherited_isSome {l : Option LossSpec} (hv : validateOpt LossSpec.validate l = .ok ()) :
    (LossSpec.inherited l).isSome = l.isSome := by
  cases l with
  | none => rfl
  | some l =>
    cases l with
    | geModel loss r h k => rfl
    | simple p =>
      by_cases hp : p.isEmpty
      · have hempty : p = "" := String.isEmpty_iff.mp hp
        subst hempty
        simp [validateOpt, LossSpec.validate, validateLoss, parsePctBounded, scanPct, stripPct, splitPoint]
          at hv
      · simp [LossSpec.inherited, hp]

lemma mergeLoss_isSome {base loss : Option LossSpec} {ov : StepOverride}
    (h : mergeLoss base ov = .ok loss) : loss.isSome = (base.isSome || ov.givesLoss) := by
  simp only [mergeLoss] at h
  split at h
  next r hh k hg =>
    split at h
    next => cases h
    next =>
      cases h
      simp [StepOverride.givesLoss, hg]
  next hg =>
    split at h
    next p hp =>
      cases h
      simp [StepOverride.givesLoss, hp]
    next hp =>
      cases h
      simp [StepOverride.givesLoss, hg, hp]

lemma mergeLoss_exists {base : Option LossSpec} {ov : StepOverride}
    (hv : validateOpt LossSpec.validate base = .ok ()) :
    (∃ loss, mergeLoss base ov = .ok loss) ↔ (ov.needsLoss → base.isSome) := by
  simp only [mergeLoss]
  split
  next r hh k hg =>
    cases hl : ov.loss with
    | some l => simp [StepOverride.needsLoss, hl]
    | none =>
      have hin := inherited_isSome hv
      cases hi : LossSpec.inherited base <;> simp_all [StepOverride.needsLoss]
  next hg =>
    cases hl : ov.loss <;> simp [StepOverride.needsLoss, hg]

lemma mergeLoss_valid {base loss : Option LossSpec} {ov : StepOverride}
    (h : mergeLoss base ov = .ok loss) (hb : validateOpt LossSpec.validate base = .ok ())
    (hov : ov.Valid fmt) : validateOpt LossSpec.validate loss = .ok () := by
  simp only [mergeLoss] at h
  split at h
  next r hh k hg =>
    split at h
    next => cases h
    next l hl =>
      cases h
      refine loss_validate_geModel.2 ⟨?_, hov.gemodel hg⟩
      cases ho : ov.loss with
      | some l' =>
        rw [ho] at hl
        cases hl
        exact hov.loss ho
      | none =>
        rw [ho, Option.none_or] at hl
        cases base with
        | none => cases hl
        | some b =>
          cases b with
          | simple p =>
            simp only [LossSpec.inherited] at hl
            split at hl
            next => cases hl
            next =>
              cases hl
              exact hb
          | geModel l' r' h' k' =>
            cases hl
            exact (loss_validate_geModel.1 hb).1
  next hg =>
    split at h
    next p hp =>
      cases h
      exact hov.loss hp
    next hp =>
      cases h
      exact hb

lemma valid_of_mergeLoss {base loss : Option LossSpec} {ov : StepOverride}
    (h : mergeLoss base ov = .ok loss) (hv : validateOpt LossSpec.validate loss = .ok ()) :
    (∀ l, ov.loss = some l → validateLoss l = .ok ()) ∧
      ∀ r hh k, ov.gemodel = some (r, hh, k) → validateGemodelValue r = .ok () ∧
        validateGemodelValue hh = .ok () ∧ validateGemodelValue k = .ok () := by
  simp only [mergeLoss] at h
  split at h
  next r hh k hg =>
    split at h
    next => cases h
    next l hl =>
      cases h
      have hge := loss_validate_geModel.1 hv
      refine ⟨?_, ?_⟩
      · intro l' hl'
        rw [hl', Option.some_or, Option.some.injEq] at hl
        rw [hl]
        exact hge.1
      · intro r' hh' k' heq
        rw [hg] at heq
        cases heq
        exact hge.2
  next hg =>
    split at h
    next p hp =>
      cases h
      refine ⟨?_, by simp [hg]⟩
      intro l hl
      rw [hp] at hl
      cases hl
      exact hv
    next hp => exact ⟨by simp [hp], by simp [hg]⟩

lemma valid_of_merge {base s : ImpairSpec} {ov : StepOverride}
    (h : mergeStep fmt base ov = .ok s) : ov.Valid fmt := by
  obtain ⟨loss, hloss, rfl, hv⟩ := mergeStep_ok.1 h
  obtain ⟨hrtt, hl, hreorder, hrate⟩ := validate_iff.1 hv
  obtain ⟨hov, hge⟩ := valid_of_mergeLoss hloss hl
  refine ⟨?_, fun {l} => hov l, fun {r hh k} => hge r hh k, (validateOpt_or.1 hreorder).1,
    (validateOpt_or.1 hrate).1⟩
  intro v hr
  simpa [merged, hr] using hrtt

lemma merge_iff {base : ImpairSpec} {ov : StepOverride} (hb : base.validate fmt = .ok ()) :
    (∃ s, mergeStep fmt base ov = .ok s) ↔
      ov.Valid fmt ∧ (ov.needsLoss → base.loss.isSome) := by
  obtain ⟨hrtt, hl, hreorder, hrate⟩ := validate_iff.1 hb
  refine ⟨?_, ?_⟩
  · rintro ⟨s, hs⟩
    obtain ⟨loss, hloss, -, -⟩ := mergeStep_ok.1 hs
    exact ⟨valid_of_merge hs, (mergeLoss_exists hl).mp ⟨loss, hloss⟩⟩
  · rintro ⟨hov, hneeds⟩
    obtain ⟨loss, hloss⟩ := (mergeLoss_exists hl).mpr hneeds
    refine ⟨merged base ov loss, mergeStep_ok.2 ⟨loss, hloss, rfl, validate_iff.2 ⟨?_, ?_, ?_, ?_⟩⟩⟩
    · cases hr : ov.rttMs with
      | none => simpa [merged, hr] using hrtt
      | some v => simpa [merged, hr] using hov.rtt hr
    · exact mergeLoss_valid hloss hl hov
    · exact validateOpt_or.2 ⟨hov.reorder, fun _ => hreorder⟩
    · exact validateOpt_or.2 ⟨hov.rate, fun _ => hrate⟩

lemma merge_keeps {base s : ImpairSpec} {ov : StepOverride} (h : mergeStep fmt base ov = .ok s) :
    s.validate fmt = .ok () ∧ s.loss.isSome = (base.loss.isSome || ov.givesLoss) := by
  obtain ⟨loss, hloss, rfl, hv⟩ := mergeStep_ok.1 h
  exact ⟨hv, mergeLoss_isSome hloss⟩

/-- Over a base with a loss or without, every override of a list is in range, and has its loss
when its turn comes. -/
def Mergeable (fmt : FloatText) : Bool → List StepOverride → Prop
  | _, [] => True
  | lossy, ov :: rest =>
      ov.Valid fmt ∧ (ov.needsLoss → lossy) ∧ Mergeable fmt (lossy || ov.givesLoss) rest

lemma Mergeable.mono {ovs : List StepOverride} {lossy lossy' : Bool} (h : Mergeable fmt lossy ovs)
    (hl : lossy → lossy') : Mergeable fmt lossy' ovs := by
  induction ovs generalizing lossy lossy' with
  | nil => trivial
  | cons ov rest ih =>
    obtain ⟨hv, hn, hr⟩ := h
    refine ⟨hv, fun hneeds => hl (hn hneeds), ih hr ?_⟩
    intro hor
    rw [Bool.or_eq_true] at hor ⊢
    exact hor.imp_left hl

def lossyAfter (lossy : Bool) (ovs : List StepOverride) : Bool :=
  lossy || ovs.any StepOverride.givesLoss

lemma mergeable_append {as bs : List StepOverride} {lossy : Bool} :
    Mergeable fmt lossy (as ++ bs) ↔
      Mergeable fmt lossy as ∧ Mergeable fmt (lossyAfter lossy as) bs := by
  induction as generalizing lossy with
  | nil => simp [Mergeable, lossyAfter]
  | cons ov as ih => simp [Mergeable, ih, lossyAfter, Bool.or_assoc, and_assoc]

lemma mergeable_of_mergeAll {ovs : List StepOverride} {base s : ImpairSpec}
    (hb : base.validate fmt = .ok ()) (h : mergeAll fmt base ovs = .ok s) :
    Mergeable fmt base.loss.isSome ovs := by
  induction ovs generalizing base with
  | nil => trivial
  | cons ov rest ih =>
    rw [mergeAll, List.foldlM_cons, bind_eq_ok] at h
    obtain ⟨mid, hmid, hrest⟩ := h
    obtain ⟨hv, hneeds⟩ := (merge_iff hb).mp ⟨mid, hmid⟩
    obtain ⟨hmv, hloss⟩ := merge_keeps hmid
    refine ⟨hv, hneeds, ?_⟩
    rw [← hloss]
    exact ih hmv hrest

lemma mergeable_rounds {onOv offOv : StepOverride} {lossy : Bool}
    (h : Mergeable fmt lossy [onOv, offOv]) (onS offS : ℕ) (rounds now : ℕ) :
    Mergeable fmt lossy ((roundPhases onS offS onOv offOv rounds now).map Phase.ov) := by
  induction rounds generalizing lossy now with
  | zero => trivial
  | succ n ih =>
    obtain ⟨hon, hneedsOn, hoff, hneedsOff, -⟩ := h
    refine ⟨hon, hneedsOn, hoff, hneedsOff, ih ?_ _⟩
    refine ⟨hon, ?_, hoff, ?_, trivial⟩
    · intro hn
      simp [givesLoss_of_needsLoss hn]
    · intro hn
      simp [givesLoss_of_needsLoss hn]

/-- A repeat, if there is one, is the last line; the parser writes plans so. -/
def ScenarioPlan.RepeatLast (plan : ScenarioPlan) : Prop :=
  ∀ l ∈ plan.lines.dropLast, ∃ atDisp atSecs flags ov, l = .step atDisp atSecs flags ov

lemma mergeable_line {l : PlanLine} {lossy : Bool} (h : Mergeable fmt lossy (dryOverrides l))
    (now : ℕ) : Mergeable fmt lossy ((linePhases now l).1.map Phase.ov) := by
  cases l with
  | step atDisp atSecs flags ov => exact h
  | «repeat» rounds onS offS onFlags offFlags onOv offOv => exact mergeable_rounds h onS offS rounds now

lemma mergeable_phases {lines : List PlanLine} {lossy : Bool} (now : ℕ)
    (hlast : ∀ l ∈ lines.dropLast, ∃ atDisp atSecs flags ov, l = .step atDisp atSecs flags ov)
    (h : Mergeable fmt lossy (lines.flatMap dryOverrides)) :
    Mergeable fmt lossy ((phasesFrom now lines).1.map Phase.ov) := by
  induction lines generalizing lossy now with
  | nil => trivial
  | cons l rest ih =>
    rw [List.flatMap_cons, mergeable_append] at h
    cases rest with
    | nil => simpa [phasesFrom] using mergeable_line h.1 now
    | cons l' rest =>
      obtain ⟨atDisp, atSecs, flags, ov, rfl⟩ := hlast l (by simp)
      rw [phasesFrom, List.map_append]
      refine mergeable_append.2 ⟨mergeable_line h.1 now, ?_⟩
      exact ih (max now atSecs) (fun m hm => hlast m (by simp [hm])) h.2

/-- What `drive` keeps along its phases: nothing has failed to merge, and what is left merges. -/
structure Driving.Sound (fmt : FloatText) (d : Driving) (left : List StepOverride) : Prop where
  notMerge : ∀ e, d.aborted ≠ some (.merge e)
  rest : d.aborted = none → d.cur.validate fmt = .ok () ∧ Mergeable fmt d.cur.loss.isSome left

lemma drivePhase_sound {d : Driving} {p : Phase} {v : Verdict} {left : List StepOverride}
    (h : d.Sound fmt (p.ov :: left)) : (drivePhase fmt d (p, v)).Sound fmt left := by
  simp only [drivePhase]
  split
  next a heq => exact ⟨h.notMerge, fun hn => by simp [heq] at hn⟩
  next => exact ⟨by simp, by simp⟩
  next => exact ⟨by simp, by simp⟩
  next hnone _ _ =>
    obtain ⟨hv, hov, hneeds, hleft⟩ := h.rest hnone
    obtain ⟨s, hs⟩ := (merge_iff hv).mpr ⟨hov, hneeds⟩
    obtain ⟨hsv, hloss⟩ := merge_keeps hs
    simp only [hs]
    split
    next => exact ⟨by simp, by simp⟩
    next => exact ⟨h.notMerge, fun _ => ⟨hsv, by simpa only [hloss] using hleft⟩⟩

lemma foldl_sound {ps : List Phase} {world : List Verdict} {d : Driving}
    (h : d.Sound fmt (ps.map Phase.ov)) (e : String) :
    ((ps.zip world).foldl (drivePhase fmt) d).aborted ≠ some (.merge e) := by
  induction ps generalizing d world with
  | nil => exact h.notMerge e
  | cons p ps ih =>
    cases world with
    | nil => exact h.notMerge e
    | cons v world => exact ih (drivePhase_sound h)

lemma startSpec_of_validate {plan : ScenarioPlan} {spec : ImpairSpec}
    (h : validateFullPlan fmt plan = .ok spec) :
    ∃ start, startSpec fmt plan = .ok start ∧ start.validate fmt = .ok () ∧
      Mergeable fmt start.loss.isSome (plan.lines.flatMap dryOverrides) := by
  simp only [validateFullPlan] at h
  split at h
  next => cases h
  next ov hov =>
    obtain ⟨start, hstart, hall⟩ := bind_eq_ok.1 h
    have hv := (merge_keeps hstart).1
    refine ⟨start, ?_, hv, mergeable_of_mergeAll hv hall⟩
    rw [startSpec, hov]
    exact hstart

theorem validated_plan_merges (plan : ScenarioPlan) (hlast : plan.RepeatLast) (spec : ImpairSpec)
    (h : validateFullPlan fmt plan = .ok spec) :
    ∃ start, startSpec fmt plan = .ok start ∧
      ∀ world e, (drive fmt start plan world).aborted ≠ some (.merge e) := by
  obtain ⟨start, hstart, hv, hm⟩ := startSpec_of_validate h
  refine ⟨start, hstart, ?_⟩
  intro world e
  exact foldl_sound ⟨by simp, fun _ => ⟨hv, mergeable_phases 0 hlast hm⟩⟩ e

lemma parsePctBounded_zero : parsePctBounded "0%" = some (.finite 0) := by
  have hvalue : decimalValue ['0'] = ((0 : ℕ) : ℚ) := by
    simp [decimalValue, splitPoint, digitsValue]
  have hcore : stripPct "0%".toList = ['0'] := by decide
  have hpoint : splitPoint ['0'] = (['0'], none) := by decide
  have hround := Binary64.round_natCast (n := 0) (by norm_num)
  simp only [parsePctBounded, scanPct, hcore, hpoint, hvalue, hround]
  simp [digits, Binary64.le]

def gilbertPlan : ScenarioPlan where
  baselineS := 0
  lines :=
    [.step "0" 0 "--loss 5%" { StepOverride.empty with loss := some "5%" },
      .repeat 4 5 5 "--gemodel 10% 0 0" "--rtt 0 --jitter 0 --loss 0%"
        { StepOverride.empty with gemodel := some ("10%", "0", "0") } offOverride]
  totalS := 40
  clear := true

def plainText : FloatText := ⟨fun _ => "", fun _ => ""⟩

theorem validated_plan_merges_gilbert :
    ∃ start, startSpec plainText gilbertPlan = .ok start ∧
      ∀ world e, (drive plainText start gilbertPlan world).aborted ≠ some (.merge e) := by
  have hv : validateFullPlan plainText gilbertPlan =
      .ok ⟨0, 0, some (.simple "0%"), none, none, none, 100000, .both⟩ := by
    decide +kernel
  refine validated_plan_merges gilbertPlan ?_ _ hv
  intro l hl
  simp only [gilbertPlan, List.dropLast_cons_cons, List.dropLast_singleton, List.mem_singleton] at hl
  exact ⟨_, _, _, _, hl⟩

end MediaServo.Weaknet
