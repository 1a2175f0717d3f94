import MediaServo.WeaknetProofs.Plans

/-! What is in force in the course of a run that nothing interrupts: after each phase the fold of
the overrides up to it, and before the first phase what `start_blocking` has installed, which is the
first override already. -/

namespace MediaServo.Weaknet

open MediaServo.Foundations

variable {fmt : FloatText} {debug : Yaml → String}

def zeroPct (p : String) : Bool := parsePctBounded p = some (.finite 0)

/-- No packet is lost. A Gilbert model that never leaves its good state still has the losses of
that state, unless it is written as a plain `0%` into the kernel. -/
def LossSpec.isFree : LossSpec → Bool
  | .simple p => zeroPct p
  | .geModel loss _ _ k => loss = "0" || loss = "0%" || zeroPct loss && zeroPct k

structure ImpairSpec.Free (s : ImpairSpec) : Prop where
  rtt : s.rttMs = 0
  jitter : s.jitterMs = 0
  loss : ∀ l, s.loss = some l → l.isFree
  reorder : ∀ p, s.reorderPct = some p → digitsValue p.toList = 0
  rate : s.rateMbps = none

/-- An override that puts nothing at fault. -/
structure StepOverride.FaultFree (ov : StepOverride) : Prop where
  rtt : ∀ v, ov.rttMs = some v → v = 0
  jitter : ∀ v, ov.jitterMs = some v → v = 0
  loss : ∀ p, ov.gemodel = none → ov.loss = some p → zeroPct p
  gemodel : ∀ p r h k, ov.gemodel = some (r, h, k) → ov.loss = some p →
    (LossSpec.geModel p r h k).isFree
  reorder : ∀ p, ov.reorderPct = some p → digitsValue p.toList = 0
  rate : ov.rateMbps = none

lemma mergeLoss_none {ov : StepOverride} {loss : Option LossSpec}
    (h : mergeLoss none ov = .ok loss) :
    (∃ r hh k l, ov.gemodel = some (r, hh, k) ∧ ov.loss = some l ∧
      loss = some (.geModel l r hh k)) ∨
    ov.gemodel = none ∧ loss = ov.loss.map .simple := by
  simp only [mergeLoss] at h
  split at h
  next r hh k hg =>
    cases hl : ov.loss with
    | none => simp [hl, LossSpec.inherited] at h
    | some l =>
      simp only [hl, Option.some_or] at h
      cases h
      exact .inl ⟨r, hh, k, l, hg, rfl, rfl⟩
  next hg =>
    cases hl : ov.loss <;> simp only [hl] at h <;> cases h
    · exact .inr ⟨hg, rfl⟩
    · exact .inr ⟨hg, rfl⟩

lemma free_iff {start : ImpairSpec} {ov : StepOverride}
    (h : mergeStep fmt .default ov = .ok start) : start.Free ↔ ov.FaultFree := by
  obtain ⟨loss, hloss, rfl, -⟩ := mergeStep_ok.1 h
  have hrtt : (ov.rttMs.getD 0 = 0) ↔ ∀ v, ov.rttMs = some v → v = 0 := by
    cases ov.rttMs <;> simp
  have hjitter : (ov.jitterMs.getD 0 = 0) ↔ ∀ v, ov.jitterMs = some v → v = 0 := by
    cases ov.jitterMs <;> simp
  have hl : (∀ l, loss = some l → l.isFree) ↔
      (∀ p, ov.gemodel = none → ov.loss = some p → zeroPct p) ∧
        ∀ p r h k, ov.gemodel = some (r, h, k) → ov.loss = some p →
          (LossSpec.geModel p r h k).isFree := by
    obtain ⟨r, hh, k, l, hg, hol, rfl⟩ | ⟨hg, rfl⟩ := mergeLoss_none hloss
    · simp only [hg, hol]
      simp
    · simp [hg, LossSpec.isFree]
  refine ⟨?_, ?_⟩
  · intro hf
    exact ⟨hrtt.mp hf.rtt, hjitter.mp hf.jitter, (hl.mp hf.loss).1, (hl.mp hf.loss).2,
      fun p hp => hf.reorder p (by simp [merged, hp]), by simpa [merged, ImpairSpec.default] using hf.rate⟩
  · intro hf
    refine ⟨hrtt.mpr hf.rtt, hjitter.mpr hf.jitter, hl.mpr ⟨hf.loss, hf.gemodel⟩, ?_, ?_⟩
    · intro p hp
      exact hf.reorder p (by simpa [merged, ImpairSpec.default] using hp)
    · simp [merged, ImpairSpec.default, hf.rate]

lemma merge_again {start : ImpairSpec} {ov : StepOverride}
    (h : mergeStep fmt .default ov = .ok start) : mergeStep fmt start ov = .ok start := by
  obtain ⟨loss, hloss, heq, hv⟩ := mergeStep_ok.1 h
  have hagain : mergeLoss loss ov = .ok loss := by
    obtain ⟨r, hh, k, l, hg, hl, rfl⟩ | ⟨hg, rfl⟩ := mergeLoss_none hloss
    · simp [mergeLoss, hg, hl]
    · cases hl : ov.loss <;> simp [mergeLoss, hg, hl]
  refine mergeStep_ok.2 ⟨loss, ?_, ?_, hv⟩
  · rw [heq]
    exact hagain
  · rw [heq]
    cases hr : ov.rttMs <;> cases hj : ov.jitterMs <;>
      simp [merged, hr, hj, ImpairSpec.default]

lemma firstOverride_of_phases {plan : ScenarioPlan} (hlast : plan.RepeatLast) {p : Phase}
    {ps : List Phase} (h : phases plan = p :: ps) : firstOverride plan = some p.ov := by
  simp only [phases] at h
  simp only [firstOverride]
  cases hl : plan.lines with
  | nil => simp [hl, phasesFrom] at h
  | cons l rest =>
    rw [hl] at h
    cases l with
    | step atDisp atSecs flags ov =>
      simp only [phasesFrom, linePhases, List.cons_append, List.cons.injEq] at h
      rw [← h.1]
      rfl
    | «repeat» rounds onS offS onFlags offFlags onOv offOv =>
      cases rest with
      | cons l' rest =>
        obtain ⟨_, _, _, _, heq⟩ := hlast (.repeat rounds onS offS onFlags offFlags onOv offOv)
          (by simp [hl])
        cases heq
      | nil =>
        cases rounds with
        | zero => simp [phasesFrom, linePhases, roundPhases] at h
        | succ n =>
          simp only [phasesFrom, linePhases, roundPhases, List.cons_append, List.cons.injEq] at h
          rw [← h.1]
          rfl

lemma foldl_proceed {ps : List Phase} {d : Driving} (hd : d.aborted = none)
    (hv : d.cur.validate fmt = .ok ()) (hm : Mergeable fmt d.cur.loss.isSome (ps.map Phase.ov)) :
    ((ps.zip (ps.map fun _ => Verdict.proceed)).foldl (drivePhase fmt) d).aborted = none ∧
      ∃ specs, ((ps.zip (ps.map fun _ => Verdict.proceed)).foldl (drivePhase fmt) d).trace =
          d.trace ++ ps.zip specs ∧ specs.length = ps.length ∧
        ∀ k s, specs[k]? = some s →
          mergeAll fmt d.cur ((ps.take (k + 1)).map Phase.ov) = .ok s := by
  induction ps generalizing d with
  | nil => exact ⟨hd, [], by simp, rfl, by simp⟩
  | cons p ps ih =>
    obtain ⟨hov, hneeds, hrest⟩ := hm
    obtain ⟨s, hs⟩ := (merge_iff hv).mpr ⟨hov, hneeds⟩
    obtain ⟨hsv, hloss⟩ := merge_keeps hs
    have hstep : drivePhase fmt d (p, .proceed) = ⟨s, d.trace ++ [(p, s)], none⟩ := by
      simp [drivePhase, hd, hs]
    simp only [List.map_cons, List.zip_cons_cons, List.foldl_cons, hstep]
    obtain ⟨hab, specs, htrace, hlen, hspecs⟩ :=
      ih (d := ⟨s, d.trace ++ [(p, s)], none⟩) rfl hsv (by rw [hloss]; exact hrest)
    refine ⟨hab, s :: specs, by simpa using htrace, by simp [hlen], ?_⟩
    intro k t hk
    cases k with
    | zero =>
      cases hk
      simp [mergeAll, hs]
    | succ k =>
      rw [List.take_succ_cons, List.map_cons, mergeAll, List.foldlM_cons, hs]
      exact hspecs k t hk

/-- What a run is to keep: nothing at fault in the baseline window, and from the end of a phase to
the next one the fold of the overrides so far. -/
structure ScheduleKept (fmt : FloatText) (plan : ScenarioPlan) (noBaseline : Bool)
    (start : ImpairSpec) : Prop where
  baseline : baselineWindow plan noBaseline → start.Free
  finished : (uninterrupted fmt start plan).aborted = none
  steps : ∀ k p, (phases plan)[k]? = some p → ∃ s,
    (uninterrupted fmt start plan).trace[k]? = some (p, s) ∧
      mergeAll fmt .default (((phases plan).take (k + 1)).map Phase.ov) = .ok s

lemma mergeAll_start {plan : ScenarioPlan} {start : ImpairSpec} (hlast : plan.RepeatLast)
    (hstart : startSpec fmt plan = .ok start) {k : ℕ} {p : Phase}
    (hp : (phases plan)[k]? = some p) :
    mergeAll fmt .default (((phases plan).take (k + 1)).map Phase.ov) =
      mergeAll fmt start (((phases plan).take (k + 1)).map Phase.ov) := by
  cases hps : phases plan with
  | nil => simp [hps] at hp
  | cons q qs =>
    have hfirst := firstOverride_of_phases hlast hps
    simp only [startSpec, hfirst] at hstart
    rw [List.take_succ_cons, List.map_cons]
    simp only [mergeAll, List.foldlM_cons, hstart, merge_again hstart]

lemma uninterrupted_trace {plan : ScenarioPlan} {spec start : ImpairSpec} (hlast : plan.RepeatLast)
    (hvalid : validateFullPlan fmt plan = .ok spec) (hstart : startSpec fmt plan = .ok start) :
    (uninterrupted fmt start plan).aborted = none ∧
      (uninterrupted fmt start plan).trace.map Prod.fst = phases plan ∧
      ∀ k p s, (uninterrupted fmt start plan).trace[k]? = some (p, s) →
        mergeAll fmt .default (((phases plan).take (k + 1)).map Phase.ov) = .ok s := by
  obtain ⟨start', hstart', hv, hm⟩ := startSpec_of_validate hvalid
  rw [hstart] at hstart'
  cases hstart'
  obtain ⟨hab, specs, htrace, hlen, hspecs⟩ :=
    foldl_proceed (d := ⟨start, [], none⟩) rfl hv (mergeable_phases 0 hlast hm)
  have htrace' : (uninterrupted fmt start plan).trace = (phases plan).zip specs :=
    htrace.trans (List.nil_append _)
  refine ⟨hab, ?_, ?_⟩
  · rw [htrace', List.map_fst_zip]
    exact hlen.ge
  · intro k p s hk
    rw [htrace', List.getElem?_zip_eq_some] at hk
    rw [mergeAll_start hlast hstart hk.1]
    exact hspecs k s hk.2

theorem schedule_kept_iff (doc : Yaml) (plan : ScenarioPlan) (spec : ImpairSpec)
    (hparse : parsePlanDoc fmt debug doc = .ok plan) (hvalid : validateFullPlan fmt plan = .ok spec)
    (noBaseline : Bool) :
    ∃ start, startSpec fmt plan = .ok start ∧
      (ScheduleKept fmt plan noBaseline start ↔
        (baselineWindow plan noBaseline → ∀ ov, firstOverride plan = some ov → ov.FaultFree)) := by
  obtain ⟨start, hstart, -, -⟩ := startSpec_of_validate hvalid
  refine ⟨start, hstart, ?_⟩
  have hfree : (∀ ov, firstOverride plan = some ov → ov.FaultFree) ↔ start.Free := by
    simp only [startSpec] at hstart
    split at hstart
    next => cases hstart
    next ov hov =>
      rw [free_iff hstart]
      simp [hov]
  obtain ⟨hab, hphases, hspecs⟩ := uninterrupted_trace (repeatLast_of_parse hparse) hvalid hstart
  refine ⟨fun hk => hfree.mpr ∘ hk.baseline, ?_⟩
  intro hcond
  refine ⟨hfree.mp ∘ hcond, hab, ?_⟩
  intro k p hp
  rw [← hphases, List.getElem?_map, Option.map_eq_some_iff] at hp
  obtain ⟨⟨q, s⟩, hq, rfl⟩ := hp
  exact ⟨s, hq, hspecs k q s hq⟩

def quietFirst : Yaml :=
  .map [(.str "scenario", .map
    [(.str "baseline_s", .int 60),
      (.str "steps", .seq
        [.map [(.str "at_s", .int 0), (.str "set", .map [(.str "rtt_ms", .int 0)])],
          .map [(.str "at_s", .int 30), (.str "set", .map [(.str "loss", .str "5%")])]])])]

def quietFirstPlan : ScenarioPlan where
  baselineS := 60
  lines :=
    [.step "0" 0 "--rtt 0" { StepOverride.empty with rttMs := some 0 },
      .step "30" 30 "--loss 5%" { StepOverride.empty with loss := some "5%" }]
  totalS := 45
  clear := true

lemma quietFirst_accepted :
    parsePlanDoc plainText (fun _ => "") quietFirst = .ok quietFirstPlan ∧
      validateFullPlan plainText quietFirstPlan =
        .ok { ImpairSpec.default with loss := some (.simple "5%") } := by
  decide +kernel

theorem schedule_kept_quiet_first :
    ∃ start, startSpec plainText quietFirstPlan = .ok start ∧
      ScheduleKept plainText quietFirstPlan false start := by
  obtain ⟨start, hstart, hiff⟩ := schedule_kept_iff quietFirst quietFirstPlan _
    quietFirst_accepted.1 quietFirst_accepted.2 false
  refine ⟨start, hstart, hiff.mpr ?_⟩
  intro _ ov hov
  cases hov
  exact ⟨by simp, by simp [StepOverride.empty], by simp [StepOverride.empty],
    by simp [StepOverride.empty], by simp [StepOverride.empty], rfl⟩

/-- The baseline window is under the delay of the first step. -/
theorem baseline_window_at_fault :
    parsePlanDoc plainText (fun _ => "") stepsOnly = .ok stepsOnlyPlan ∧
      (validateFullPlan plainText stepsOnlyPlan).toOption.isSome ∧
      startSpec plainText stepsOnlyPlan = .ok { ImpairSpec.default with rttMs := 100 } ∧
      ¬ScheduleKept plainText stepsOnlyPlan false { ImpairSpec.default with rttMs := 100 } := by
  refine ⟨stepsOnly_parses, by decide, by decide, ?_⟩
  intro h
  exact absurd (h.baseline (by decide)).rtt (by decide)

end MediaServo.Weaknet
