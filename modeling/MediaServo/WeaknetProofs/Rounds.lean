import MediaServo.WeaknetProofs.Schedule

/-! What the rounds of a repeat put in force. A phase sets what its override names and keeps the
rest, so the first round begins with what the steps have left, and every later one with the
off-phase before it. -/

namespace MediaServo.Weaknet

open MediaServo.Foundations

variable {fmt : FloatText} {debug : Yaml → String}

def Merges (fmt : FloatText) : ImpairSpec → List StepOverride → List ImpairSpec → Prop
  | _, [], [] => True
  | cur, ov :: ovs, s :: specs => mergeStep fmt cur ov = .ok s ∧ Merges fmt s ovs specs
  | _, _, _ => False

lemma Merges.length {cur : ImpairSpec} {ovs : List StepOverride} {specs : List ImpairSpec}
    (h : Merges fmt cur ovs specs) : specs.length = ovs.length := by
  induction ovs generalizing cur specs with
  | nil =>
    cases specs with
    | nil => rfl
    | cons => cases h
  | cons ov ovs ih =>
    cases specs with
    | nil => cases h
    | cons s specs => simp [ih h.2]

lemma merges_of_mergeAll {cur s : ImpairSpec} {ovs : List StepOverride}
    (h : mergeAll fmt cur ovs = .ok s) : ∃ specs, Merges fmt cur ovs specs := by
  induction ovs generalizing cur with
  | nil => exact ⟨[], trivial⟩
  | cons ov ovs ih =>
    rw [mergeAll, List.foldlM_cons, bind_eq_ok] at h
    obtain ⟨mid, hmid, hrest⟩ := h
    obtain ⟨specs, hspecs⟩ := ih hrest
    exact ⟨mid :: specs, hmid, hspecs⟩

lemma Merges.append {cur mid : ImpairSpec} {as bs : List StepOverride} {ss rs : List ImpairSpec}
    (hs : Merges fmt cur as ss) (hmid : mergeAll fmt cur as = .ok mid) (hr : Merges fmt mid bs rs) :
    Merges fmt cur (as ++ bs) (ss ++ rs) := by
  induction as generalizing cur ss with
  | nil =>
    cases ss with
    | nil =>
      cases hmid
      exact hr
    | cons => cases hs
  | cons ov as ih =>
    cases ss with
    | nil => cases hs
    | cons s ss =>
      rw [mergeAll, List.foldlM_cons, hs.1] at hmid
      exact ⟨hs.1, ih hs.2 hmid⟩

lemma foldl_aborted {d : Driving} {a : Abort} (h : d.aborted = some a)
    (l : List (Phase × Verdict)) : l.foldl (drivePhase fmt) d = d := by
  induction l with
  | nil => rfl
  | cons pv l ih =>
    have hstep : drivePhase fmt d pv = d := by simp [drivePhase, h]
    rw [List.foldl_cons, hstep, ih]

lemma trace_of_merges {ps : List Phase} {cur : ImpairSpec} {specs : List ImpairSpec}
    (h : Merges fmt cur (ps.map Phase.ov) specs) (world : List Verdict)
    (trace : List (Phase × ImpairSpec)) :
    ∃ k, ((ps.zip world).foldl (drivePhase fmt) ⟨cur, trace, none⟩).trace =
        trace ++ (ps.zip specs).take k ∧
      ((∀ v ∈ world, v = .proceed) → ps.length ≤ world.length → ps.length ≤ k) := by
  induction ps generalizing cur specs world trace with
  | nil => exact ⟨0, by simp, by simp⟩
  | cons p ps ih =>
    cases specs with
    | nil => cases h
    | cons s specs =>
      obtain ⟨hs, hrest⟩ := h
      cases world with
      | nil => exact ⟨0, by simp, by simp⟩
      | cons v world =>
        rw [List.zip_cons_cons, List.foldl_cons]
        cases v with
        | proceed =>
          have hstep : drivePhase fmt ⟨cur, trace, none⟩ (p, .proceed) =
              ⟨s, trace ++ [(p, s)], none⟩ := by simp [drivePhase, hs]
          obtain ⟨k, htrace, hall⟩ := ih hrest world (trace ++ [(p, s)])
          rw [hstep]
          refine ⟨k + 1, by simp [htrace], ?_⟩
          intro hworld hlen
          have := hall (fun v hv => hworld v (List.mem_cons_of_mem _ hv)) (by simpa using hlen)
          simpa using this
        | cancel =>
          have hstep : drivePhase fmt ⟨cur, trace, none⟩ (p, .cancel) =
              ⟨cur, trace, some .user⟩ := rfl
          rw [hstep, foldl_aborted rfl]
          exact ⟨0, by simp, fun hworld => by simpa using hworld .cancel List.mem_cons_self⟩
        | lockBusy =>
          have hstep : drivePhase fmt ⟨cur, trace, none⟩ (p, .lockBusy) =
              ⟨cur, trace, some .lockBusy⟩ := rfl
          rw [hstep, foldl_aborted rfl]
          exact ⟨0, by simp, fun hworld => by simpa using hworld .lockBusy List.mem_cons_self⟩
        | execFail m =>
          have hstep : drivePhase fmt ⟨cur, trace, none⟩ (p, .execFail m) =
              ⟨cur, trace, some (.exec m)⟩ := by simp [drivePhase, hs]
          rw [hstep, foldl_aborted rfl]
          exact ⟨0, by simp, fun hworld => by simpa using hworld (.execFail m) List.mem_cons_self⟩

def ImpairSpec.switchedOff (s : ImpairSpec) : ImpairSpec :=
  { s with rttMs := 0, jitterMs := 0, loss := some (.simple "0%") }

lemma mergeStep_off {s t : ImpairSpec} (h : mergeStep fmt s offOverride = .ok t) :
    t = s.switchedOff := by
  obtain ⟨loss, hloss, rfl, -⟩ := mergeStep_ok.1 h
  cases hloss
  simp [merged, offOverride, StepOverride.empty, ImpairSpec.switchedOff]

lemma switchedOff_free (s : ImpairSpec) :
    s.switchedOff.Free ↔
      s.rateMbps = none ∧ ∀ p, s.reorderPct = some p → digitsValue p.toList = 0 := by
  constructor
  · exact fun h => ⟨h.rate, h.reorder⟩
  · rintro ⟨hrate, hreorder⟩
    refine ⟨rfl, rfl, ?_, hreorder, hrate⟩
    intro l hl
    cases hl
    simp [LossSpec.isFree, zeroPct, parsePctBounded_zero]

/-- What the on-phase leaves out of its set was already at zero before the rounds. -/
structure StartsAtZero (before : ImpairSpec) (onOv : StepOverride) : Prop where
  rtt : onOv.rttMs = none → before.rttMs = 0
  jitter : onOv.jitterMs = none → before.jitterMs = 0
  loss : onOv.loss = none →
    if onOv.gemodel.isSome then LossSpec.inherited before.loss = some "0%"
    else before.loss = some (.simple "0%")

lemma mergeLoss_again {base loss later : Option LossSpec} {ov : StepOverride}
    (h : mergeLoss base ov = .ok loss) (h' : mergeLoss (some (.simple "0%")) ov = .ok later) :
    later = loss ↔ (ov.loss = none → if ov.gemodel.isSome then LossSpec.inherited base = some "0%"
      else base = some (.simple "0%")) := by
  have hinherited : LossSpec.inherited (some (.simple "0%")) = some "0%" := rfl
  rw [mergeLoss] at h h'
  cases hg : ov.gemodel with
  | some t =>
    obtain ⟨r, hh, k⟩ := t
    rw [hg] at h h'
    cases hl : ov.loss with
    | some l =>
      simp only [hl, Option.some_or] at h h'
      cases h
      cases h'
      simp
    | none =>
      simp only [hl, Option.none_or, hinherited] at h h'
      cases h'
      cases hb : LossSpec.inherited base with
      | none =>
        rw [hb] at h
        cases h
      | some l =>
        rw [hb] at h
        cases h
        simp [eq_comm]
  | none =>
    rw [hg] at h h'
    cases hl : ov.loss with
    | some l =>
      rw [hl] at h h'
      cases h
      cases h'
      simp
    | none =>
      rw [hl] at h h'
      cases h
      cases h'
      simp [eq_comm]

lemma later_eq_first {before first later : ImpairSpec} {onOv : StepOverride}
    (hfirst : mergeStep fmt before onOv = .ok first)
    (hlater : mergeStep fmt first.switchedOff onOv = .ok later) :
    later.switchedOff = first.switchedOff ∧ (later = first ↔ StartsAtZero before onOv) := by
  obtain ⟨loss, hloss, rfl, -⟩ := mergeStep_ok.1 hfirst
  obtain ⟨loss', hloss', rfl, -⟩ := mergeStep_ok.1 hlater
  have hagain := mergeLoss_again hloss hloss'
  have hor : ∀ {α : Type} (a b : Option α), a.or (a.or b) = a.or b := by
    intro α a b
    cases a <;> rfl
  have hlater : merged (merged before onOv loss).switchedOff onOv loss' =
      { merged before onOv loss with
        rttMs := onOv.rttMs.getD 0, jitterMs := onOv.jitterMs.getD 0, loss := loss' } := by
    simp [merged, ImpairSpec.switchedOff, hor]
  rw [hlater]
  refine ⟨rfl, ?_⟩
  have hgetD : ∀ (o : Option ℕ) (n : ℕ), o.getD 0 = o.getD n ↔ (o = none → n = 0) := by
    intro o n
    cases o <;> simp [eq_comm]
  have hfields : { merged before onOv loss with
      rttMs := onOv.rttMs.getD 0, jitterMs := onOv.jitterMs.getD 0, loss := loss' } =
        merged before onOv loss ↔
      onOv.rttMs.getD 0 = onOv.rttMs.getD before.rttMs ∧
        onOv.jitterMs.getD 0 = onOv.jitterMs.getD before.jitterMs ∧ loss' = loss := by
    simp [merged]
  rw [hfields, hgetD, hgetD, hagain]
  exact ⟨fun h => ⟨h.1, h.2.1, h.2.2⟩, fun h => ⟨h.rtt, h.jitter, h.loss⟩⟩

/-- What the phases of the rounds install: one specification in the first on-phase, another in all
that follow, and one in the off-phases. -/
def roundInstalls (first later off : ImpairSpec) : ℕ → List (PhaseKind × ImpairSpec)
  | 0 => []
  | rounds + 1 => (.on, first) :: (.off, off) :: roundInstalls later later off rounds

lemma merges_rounds {cur first later off : ImpairSpec} {onOv offOv : StepOverride}
    (hfirst : mergeStep fmt cur onOv = .ok first) (hoff : mergeStep fmt first offOv = .ok off)
    (hlater : mergeStep fmt off onOv = .ok later) (hback : mergeStep fmt later offOv = .ok off)
    (onS offS rounds now : ℕ) :
    Merges fmt cur ((roundPhases onS offS onOv offOv rounds now).map Phase.ov)
      ((roundInstalls first later off rounds).map Prod.snd) := by
  induction rounds generalizing cur first now with
  | zero => trivial
  | succ n ih => exact ⟨hfirst, hoff, ih hlater hback (now + onS + offS)⟩

lemma zip_rounds (first later off : ImpairSpec) (onS offS : ℕ) (onOv offOv : StepOverride)
    (rounds now : ℕ) :
    (((roundPhases onS offS onOv offOv rounds now).zip
        ((roundInstalls first later off rounds).map Prod.snd)).filter (·.1.kind ≠ .step)).map
          (fun e => (e.1.kind, e.2)) = roundInstalls first later off rounds := by
  induction rounds generalizing first now with
  | zero => rfl
  | succ n ih => simpa [roundPhases, roundInstalls] using ih later (now + onS + offS)

lemma phasesFrom_onlySteps {pre : List PlanLine} (rest : List PlanLine) (now : ℕ)
    (h : ∀ l ∈ pre, ∃ atDisp atSecs flags ov, l = .step atDisp atSecs flags ov) :
    ∃ steps now', (phasesFrom now (pre ++ rest)).1 = steps ++ (phasesFrom now' rest).1 ∧
      (∀ p ∈ steps, p.kind = .step) ∧ steps.map Phase.ov = pre.flatMap dryOverrides := by
  induction pre generalizing now with
  | nil => exact ⟨[], now, rfl, by simp, rfl⟩
  | cons l pre ih =>
    obtain ⟨atDisp, atSecs, flags, ov, rfl⟩ := h l List.mem_cons_self
    obtain ⟨steps, now', hphases, hkinds, hovs⟩ :=
      ih (max now atSecs) fun m hm => h m (List.mem_cons_of_mem _ hm)
    refine ⟨⟨.step, ov, max now atSecs⟩ :: steps, now', ?_, ?_, ?_⟩
    · simp only [List.cons_append, phasesFrom, linePhases, hphases, List.nil_append]
    · intro p hp
      rcases List.mem_cons.1 hp with rfl | hp
      · rfl
      · exact hkinds p hp
    · rw [List.map_cons, hovs]
      rfl

def installed (d : Driving) : List (PhaseKind × ImpairSpec) :=
  (d.trace.filter (·.1.kind ≠ .step)).map fun e => (e.1.kind, e.2)

lemma installed_rounds {plan : ScenarioPlan} {pre : List PlanLine} {rounds onS offS : ℕ}
    {onFlags offFlags : String} {onOv offOv : StepOverride}
    (hlines : plan.lines = pre ++ [.repeat rounds onS offS onFlags offFlags onOv offOv])
    (hsteps : ∀ l ∈ pre, ∃ atDisp atSecs flags ov, l = .step atDisp atSecs flags ov)
    {start before first later off : ImpairSpec}
    (hbefore : mergeAll fmt start (pre.flatMap dryOverrides) = .ok before)
    (hfirst : mergeStep fmt before onOv = .ok first) (hoff : mergeStep fmt first offOv = .ok off)
    (hlater : mergeStep fmt off onOv = .ok later) (hback : mergeStep fmt later offOv = .ok off) :
    (∀ world, installed (drive fmt start plan world) <+: roundInstalls first later off rounds) ∧
      installed (uninterrupted fmt start plan) = roundInstalls first later off rounds := by
  obtain ⟨steps, now, hphases, hkinds, hovs⟩ := phasesFrom_onlySteps
    [.repeat rounds onS offS onFlags offFlags onOv offOv] 0 hsteps
  obtain ⟨specs, hspecs⟩ := merges_of_mergeAll hbefore
  have hplan : phases plan = steps ++ roundPhases onS offS onOv offOv rounds now := by
    rw [phases, hlines, hphases]
    simp [phasesFrom, linePhases]
  have hmerges : Merges fmt start ((phases plan).map Phase.ov)
      (specs ++ (roundInstalls first later off rounds).map Prod.snd) := by
    rw [hplan, List.map_append, hovs]
    exact hspecs.append hbefore (merges_rounds hfirst hoff hlater hback onS offS rounds now)
  have hlen : steps.length = specs.length := by
    rw [hspecs.length, ← hovs, List.length_map]
  have hall : (((phases plan).zip (specs ++ (roundInstalls first later off rounds).map Prod.snd)).filter
      (·.1.kind ≠ .step)).map (fun e => (e.1.kind, e.2)) = roundInstalls first later off rounds := by
    have hnone : (steps.zip specs).filter (·.1.kind ≠ .step) = [] := by
      rw [List.filter_eq_nil_iff]
      rintro ⟨p, s⟩ hp
      simpa using hkinds p (List.of_mem_zip hp).1
    rw [hplan, List.zip_append hlen, List.filter_append, hnone, List.nil_append, zip_rounds]
  constructor
  · intro world
    obtain ⟨k, htrace, -⟩ := trace_of_merges hmerges world []
    have hpre := ((List.take_prefix k ((phases plan).zip (specs ++
      (roundInstalls first later off rounds).map Prod.snd))).filter (·.1.kind ≠ .step)).map
        (fun e => (e.1.kind, e.2))
    rw [hall] at hpre
    rw [installed, drive, htrace, List.nil_append]
    exact hpre
  · obtain ⟨k, htrace, hk⟩ := trace_of_merges hmerges ((phases plan).map fun _ => .proceed) []
    have hk := hk (by simp) (by simp)
    rw [installed, uninterrupted, drive, htrace, List.nil_append, List.take_of_length_le, hall]
    rw [List.length_zip]
    omega

lemma repeat_off {doc : Yaml} {plan : ScenarioPlan} (h : parsePlanDoc fmt debug doc = .ok plan)
    {rounds onS offS : ℕ} {onFlags offFlags : String} {onOv offOv : StepOverride}
    (hmem : .repeat rounds onS offS onFlags offFlags onOv offOv ∈ plan.lines) :
    offOv = offOverride := by
  obtain ⟨-, ls, rep, hlines, hls, hrep⟩ := (parsePlanDoc_ok h).1
  rw [hlines, List.mem_append] at hmem
  rcases hmem with hmem | hmem
  · obtain ⟨_, _, _, _, heq⟩ := step_of_forall₂ hls _ hmem
    cases heq
  · obtain ⟨-, rfl⟩ | ⟨-, _, _, _, rfl⟩ := hrep
    · cases hmem
    · rw [List.mem_singleton] at hmem
      cases hmem
      rfl

lemma rounds_merge {plan : ScenarioPlan} {spec : ImpairSpec} {pre : List PlanLine}
    {rounds onS offS : ℕ} {onFlags offFlags : String} {onOv : StepOverride}
    (hvalid : validateFullPlan fmt plan = .ok spec)
    (hlines : plan.lines = pre ++ [.repeat rounds onS offS onFlags offFlags onOv offOverride]) :
    ∃ start before first later, startSpec fmt plan = .ok start ∧
      mergeAll fmt start (pre.flatMap dryOverrides) = .ok before ∧
      mergeStep fmt before onOv = .ok first ∧
      mergeStep fmt first offOverride = .ok first.switchedOff ∧
      mergeStep fmt first.switchedOff onOv = .ok later ∧
      mergeStep fmt later offOverride = .ok first.switchedOff := by
  simp only [validateFullPlan] at hvalid
  split at hvalid
  next => cases hvalid
  next ov hov =>
    obtain ⟨start, hstart, hall⟩ := bind_eq_ok.1 hvalid
    have hspec : startSpec fmt plan = .ok start := by simp only [startSpec, hov, hstart]
    rw [hlines, List.flatMap_append, mergeAll, List.foldlM_append, bind_eq_ok] at hall
    obtain ⟨before, hbefore, hround⟩ := hall
    simp only [List.flatMap_singleton, dryOverrides, List.foldlM_cons, bind_eq_ok] at hround
    obtain ⟨first, hfirst, off, hoff, -⟩ := hround
    have hov' := valid_of_merge hfirst
    obtain rfl := mergeStep_off hoff
    obtain ⟨later, hlater⟩ := (merge_iff (merge_keeps hoff).1).2
      ⟨hov', fun _ => rfl⟩
    have hback : ∃ t, mergeStep fmt later offOverride = .ok t :=
      (merge_iff (merge_keeps hlater).1).2 ⟨valid_of_merge hoff, fun hneeds => by cases hneeds⟩
    obtain ⟨t, hback⟩ := hback
    have ht := mergeStep_off hback
    rw [(later_eq_first hfirst hlater).1] at ht
    subst ht
    exact ⟨start, before, first, later, hspec, hbefore, hfirst, hoff, hlater, hback⟩

theorem repeat_rounds_install (doc : Yaml) (plan : ScenarioPlan) (spec : ImpairSpec)
    (hparse : parsePlanDoc fmt debug doc = .ok plan) (hvalid : validateFullPlan fmt plan = .ok spec)
    (pre : List PlanLine) (rounds onS offS : ℕ) (onFlags offFlags : String)
    (onOv offOv : StepOverride)
    (hlines : plan.lines = pre ++ [.repeat rounds onS offS onFlags offFlags onOv offOv]) :
    ∃ start before first later, startSpec fmt plan = .ok start ∧
      mergeAll fmt start (pre.flatMap dryOverrides) = .ok before ∧
      mergeStep fmt before onOv = .ok first ∧
      (∀ world, installed (drive fmt start plan world) <+:
        roundInstalls first later first.switchedOff rounds) ∧
      installed (uninterrupted fmt start plan) =
        roundInstalls first later first.switchedOff rounds ∧
      (later = first ↔ StartsAtZero before onOv) ∧
      (first.switchedOff.Free ↔
        first.rateMbps = none ∧ ∀ p, first.reorderPct = some p → digitsValue p.toList = 0) := by
  have hmem : PlanLine.repeat rounds onS offS onFlags offFlags onOv offOv ∈ plan.lines := by
    rw [hlines]
    exact List.mem_append_right _ (List.mem_singleton_self _)
  obtain rfl := repeat_off hparse hmem
  obtain ⟨start, before, first, later, hstart, hbefore, hfirst, hoff, hlater, hback⟩ :=
    rounds_merge hvalid hlines
  have hsteps : ∀ l ∈ pre, ∃ atDisp atSecs flags ov, l = .step atDisp atSecs flags ov := by
    intro l hl
    apply repeatLast_of_parse hparse l
    rw [hlines, List.dropLast_concat]
    exact hl
  obtain ⟨hworlds, hfull⟩ := installed_rounds hlines hsteps hbefore hfirst hoff hlater hback
  exact ⟨start, before, first, later, hstart, hbefore, hfirst, hworlds, hfull,
    (later_eq_first hfirst hlater).2, switchedOff_free first⟩

def lateStep : PlanLine := .step "200" 200 "--rtt 100" { StepOverride.empty with rttMs := some 100 }

theorem late_rounds_install :
    ∃ start before first later, startSpec plainText lateRoundsPlan = .ok start ∧
      mergeAll plainText start ([lateStep].flatMap dryOverrides) = .ok before ∧
      mergeStep plainText before { StepOverride.empty with loss := some "5%" } = .ok first ∧
      (∀ world, installed (drive plainText start lateRoundsPlan world) <+:
        roundInstalls first later first.switchedOff 10) ∧
      installed (uninterrupted plainText start lateRoundsPlan) =
        roundInstalls first later first.switchedOff 10 ∧
      (later = first ↔ StartsAtZero before { StepOverride.empty with loss := some "5%" }) ∧
      (first.switchedOff.Free ↔
        first.rateMbps = none ∧ ∀ p, first.reorderPct = some p → digitsValue p.toList = 0) :=
  repeat_rounds_install lateRounds lateRoundsPlan _ lateRounds_accepted.1 lateRounds_accepted.2
    [lateStep] 10 30 30 _ _ _ _ rfl

def Uniform (d : Driving) : Prop :=
  (∀ s t, (PhaseKind.on, s) ∈ installed d → (PhaseKind.on, t) ∈ installed d → s = t) ∧
    ∀ s, (PhaseKind.off, s) ∈ installed d → s.Free

/-- The first round is under the delay of the step before it, and the others are not. -/
theorem late_rounds_differ :
    ¬ ∀ (doc : Yaml) (plan : ScenarioPlan) (spec start : ImpairSpec),
      parsePlanDoc plainText (fun _ => "") doc = .ok plan →
        validateFullPlan plainText plan = .ok spec → startSpec plainText plan = .ok start →
          Uniform (uninterrupted plainText start plan) := by
  intro h
  have hlines : lateRoundsPlan.lines = [lateStep] ++ [_] := rfl
  obtain ⟨start, before, first, later, hstart, hbefore, hfirst, hoff, hlater, hback⟩ :=
    rounds_merge lateRounds_accepted.2 hlines
  have huniform := (h _ _ _ start lateRounds_accepted.1 lateRounds_accepted.2 hstart).1
  have hsteps : ∀ l ∈ [lateStep], ∃ atDisp atSecs flags ov, l = .step atDisp atSecs flags ov := by
    intro l hl
    rw [List.mem_singleton.1 hl]
    exact ⟨_, _, _, _, rfl⟩
  have hinstalled : installed (uninterrupted plainText start lateRoundsPlan) =
      roundInstalls first later first.switchedOff 10 :=
    (installed_rounds hlines hsteps hbefore hfirst hoff hlater hback).2
  rw [hinstalled] at huniform
  have heq := huniform later first (by simp [roundInstalls]) (by simp [roundInstalls])
  have hzero := ((later_eq_first hfirst hlater).2.1 heq).rtt rfl
  simp only [List.flatMap_singleton, lateStep, dryOverrides, mergeAll, List.foldlM_cons,
    List.foldlM_nil, bind_eq_ok] at hbefore
  obtain ⟨mid, hmid, hpure⟩ := hbefore
  cases hpure
  obtain ⟨loss, -, rfl, -⟩ := mergeStep_ok.1 hmid
  cases hzero

end MediaServo.Weaknet
