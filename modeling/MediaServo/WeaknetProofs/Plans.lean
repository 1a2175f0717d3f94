import MediaServo.WeaknetProofs.Merging

/-! The plan that a document is read into, and the fuse that is set for it. The total of the plan is
the longer of its steps and its rounds, and the driver performs the one after the other. -/

namespace MediaServo.Weaknet

open MediaServo.Foundations

variable {fmt : FloatText} {debug : Yaml → String}

lemma isDouble_asNum {v : Yaml} {n : Binary64} (h : v.asNum = some n) : n.IsDouble := by
  cases v with
  | int i =>
    cases h
    exact Binary64.isDouble_round i
  | float f hf =>
    cases h
    exact hf
  | null => cases h
  | bool b => cases h
  | str s => cases h
  | seq items => cases h
  | map entries => cases h
  | tagged tag v => cases h

def stepTime (st : Yaml) : Binary64 :=
  (((st.asMapping.getD []).get "at_s").getD .null).asNum.getD .nan

def scenarioOf (doc : Yaml) : Mapping :=
  (((doc.asMapping.getD []).get "scenario").getD doc).asMapping.getD []

def stepTimes (doc : Yaml) : List Binary64 :=
  ((((scenarioOf doc).get "steps").bind Yaml.asSequence).getD []).map stepTime

def repeatOf (doc : Yaml) : Mapping := (((scenarioOf doc).get "repeat").bind Yaml.asMapping).getD []

def repeatCount (doc : Yaml) (k : String) : ℤ := (repeatNumber (repeatOf doc) k).getD 0

def roundsSpan (doc : Yaml) : ℕ :=
  if (repeatOf doc).isEmpty then 0
  else (repeatCount doc "rounds").toNat *
    ((repeatCount doc "on_s").toNat + (repeatCount doc "off_s").toNat)

def roundsCounted (doc : Yaml) : ℕ :=
  if (repeatOf doc).isEmpty then 0
  else (Binary64.ofInt (wrapI64 (repeatCount doc "rounds" *
    wrapI64 (repeatCount doc "on_s" + repeatCount doc "off_s")))).toU64

def lastStep (times : List Binary64) : ℕ := times.foldr (fun a n => max a.toU64 n) 0

def lastObserved (times : List Binary64) : ℕ :=
  times.foldr (fun a n => max (a.addRat 15).toU64 n) 0

def StepLine (l : PlanLine) (a : Binary64) : Prop :=
  ∃ atDisp flags ov, l = .step atDisp a.toU64 flags ov

structure StepTime (a : Binary64) : Prop where
  double : a.IsDouble
  nonneg : ¬a.lt (.finite 0)

lemma lastStep_le_lastObserved {times : List Binary64} (h : ∀ a ∈ times, StepTime a) :
    lastStep times ≤ lastObserved times := by
  induction times with
  | nil => exact le_refl _
  | cons a times ih =>
    have ha := Binary64.toU64_le_addRat (h a (by simp)).double (d := 15) (by norm_num)
    have hrest := ih fun b hb => h b (by simp [hb])
    simp only [lastStep, lastObserved, List.foldr_cons] at hrest ⊢
    omega

lemma lastObserved_le {times : List Binary64} (h : ∀ a ∈ times, StepTime a)
    (hsmall : lastStep times < 2 ^ 64 - 1) : lastObserved times ≤ 2 * (lastStep times + 16) := by
  induction times with
  | nil => simp [lastObserved]
  | cons a times ih =>
    simp only [lastStep, lastObserved, List.foldr_cons] at ih hsmall ⊢
    have ha := Binary64.toU64_addRat_le (h a (by simp)).nonneg (d := 15) (by norm_num) (by omega)
    have hrest := ih (fun b hb => h b (by simp [hb])) (by omega)
    push_cast at ha
    omega

lemma lastObserved_lt (times : List Binary64) : lastObserved times < 2 ^ 64 := by
  induction times with
  | nil => simp [lastObserved]
  | cons a times ih =>
    have ha := (a.addRat 15).toU64_lt
    simp only [lastObserved, List.foldr_cons] at ih ⊢
    omega

lemma parseStep_ok {acc next : Planning} {i : ℕ} {st : Yaml}
    (h : parseStep fmt debug acc i st = .ok next) :
    StepTime (stepTime st) ∧ next.prev = stepTime st ∧
      next.total = acc.total.max ((stepTime st).addRat 15) ∧
      ∃ l, StepLine l (stepTime st) ∧ next.lines = acc.lines ++ [l] := by
  simp only [parseStep] at h
  split at h
  next => cases h
  next m hm =>
    split at h
    next => cases h
    next atf hat =>
      have htime : stepTime st = atf := by simp [stepTime, hm, hat]
      split at h
      next => cases h
      next hpos =>
        split at h
        next => cases h
        next =>
          obtain ⟨set, -, h⟩ := bind_eq_ok.1 h
          obtain ⟨-, h⟩ := bind_unit_ok.1 h
          obtain ⟨flags, -, h⟩ := bind_eq_ok.1 h
          obtain ⟨ov, -, h⟩ := bind_eq_ok.1 h
          cases h
          rw [htime]
          exact ⟨⟨isDouble_asNum hat, hpos⟩, rfl, rfl, _, ⟨_, _, _, rfl⟩, rfl⟩

lemma parseSteps_ok {acc next : Planning} {i : ℕ} {sts : List Yaml}
    (h : parseSteps fmt debug acc i sts = .ok next) :
    (∀ a ∈ sts.map stepTime, StepTime a) ∧
      next.prev.toU64 ≤ max acc.prev.toU64 (lastStep (sts.map stepTime)) ∧
      next.total.toU64 = max acc.total.toU64 (lastObserved (sts.map stepTime)) ∧
      ∃ ls, List.Forall₂ StepLine ls (sts.map stepTime) ∧ next.lines = acc.lines ++ ls := by
  induction sts generalizing acc i with
  | nil =>
    cases h
    exact ⟨by simp, le_max_left _ _, by simp [lastObserved], [], .nil, by simp⟩
  | cons st sts ih =>
    obtain ⟨mid, hmid, hrest⟩ := bind_eq_ok.1 h
    obtain ⟨htime, hprev, htotal, l, hl, hlines⟩ := parseStep_ok hmid
    obtain ⟨htimes, hprev', htotal', ls, hls, hlines'⟩ := ih hrest
    rw [hprev] at hprev'
    rw [htotal, Binary64.toU64_max] at htotal'
    refine ⟨?_, ?_, ?_, l :: ls, .cons hl hls, by simp [hlines', hlines]⟩
    · intro a ha
      obtain rfl | ha := List.mem_cons.mp ha
      · exact htime
      · exact htimes a ha
    · simp only [lastStep, List.map_cons, List.foldr_cons] at hprev' ⊢
      omega
    · simp only [lastObserved, List.map_cons, List.foldr_cons] at htotal' ⊢
      omega

lemma parseRepeat_ok {doc : Yaml} {acc next : Planning} (hrep : ¬(repeatOf doc).isEmpty)
    (h : parseRepeat fmt debug acc (repeatOf doc) = .ok next) :
    next.total.toU64 = max (max acc.total.toU64 acc.prev.toU64) (roundsCounted doc) ∧
      ∃ onFlags offFlags onOv, next.lines = acc.lines ++
        [.repeat (repeatCount doc "rounds").toNat (repeatCount doc "on_s").toNat
          (repeatCount doc "off_s").toNat onFlags offFlags onOv offOverride] := by
  simp only [parseRepeat] at h
  split at h
  next r onS offS hr hon hoff =>
    split at h
    next => cases h
    next =>
      obtain ⟨set, -, h⟩ := bind_eq_ok.1 h
      obtain ⟨-, h⟩ := bind_unit_ok.1 h
      obtain ⟨onFlags, -, h⟩ := bind_eq_ok.1 h
      obtain ⟨onOv, -, h⟩ := bind_eq_ok.1 h
      cases h
      simp only [roundsCounted, if_neg hrep, repeatCount, hr, hon, hoff, Option.getD_some,
        Binary64.toU64_max, true_and]
      exact ⟨_, _, _, rfl⟩
  next => cases h

structure LinesOf (doc : Yaml) (lines : List PlanLine) : Prop where
  times : ∀ a ∈ stepTimes doc, StepTime a
  lines : ∃ ls rep, lines = ls ++ rep ∧ List.Forall₂ StepLine ls (stepTimes doc) ∧
    ((repeatOf doc).isEmpty ∧ rep = [] ∨
      ¬(repeatOf doc).isEmpty ∧ ∃ onFlags offFlags onOv, rep =
        [.repeat (repeatCount doc "rounds").toNat (repeatCount doc "on_s").toNat
          (repeatCount doc "off_s").toNat onFlags offFlags onOv offOverride])

lemma parsePlanDoc_ok {doc : Yaml} {plan : ScenarioPlan}
    (h : parsePlanDoc fmt debug doc = .ok plan) :
    LinesOf doc plan.lines ∧
      plan.totalS = max (lastObserved (stepTimes doc)) (roundsCounted doc) := by
  simp only [parsePlanDoc] at h
  split at h
  next => cases h
  next sc hsc =>
    have hof : scenarioOf doc = sc := by simp [scenarioOf, hsc]
    split at h
    next => cases h
    next =>
      obtain ⟨stepped, hsteps, h⟩ := bind_eq_ok.1 h
      obtain ⟨htimes, hprev, htotal, ls, hls, hlines⟩ := parseSteps_ok hsteps
      rw [← hof] at htimes hprev htotal hls h
      have hbound := lastStep_le_lastObserved htimes
      have hstart : (Binary64.finite (-1)).toU64 = 0 := by decide
      have hzero : (Binary64.finite 0).toU64 = 0 := by simp [Binary64.toU64]
      rw [hstart] at hprev
      rw [hzero] at htotal
      rw [List.nil_append] at hlines
      split at h
      next hrep =>
        obtain ⟨planned, hplanned, h⟩ := bind_eq_ok.1 h
        cases hplanned
        cases h
        refine ⟨⟨htimes, ls, [], by simpa using hlines, hls, .inl ⟨hrep, rfl⟩⟩, ?_⟩
        have hcounted : roundsCounted doc = 0 := if_pos hrep
        simp only [Binary64.toU64_max, hcounted, hzero, stepTimes]
        omega
      next hrep =>
        obtain ⟨planned, hplanned, h⟩ := bind_eq_ok.1 h
        cases h
        have hrep' : ¬(repeatOf doc).isEmpty := hrep
        obtain ⟨htotal', onFlags, offFlags, onOv, hlines'⟩ := parseRepeat_ok hrep' hplanned
        refine ⟨⟨htimes, ls, _, by rw [hlines', hlines], hls, .inr ⟨hrep, _, _, _, rfl⟩⟩, ?_⟩
        simp only [Binary64.toU64_max, htotal', hzero, stepTimes]
        omega

lemma step_of_forall₂ {ls : List PlanLine} {times : List Binary64}
    (h : List.Forall₂ StepLine ls times) :
    ∀ l ∈ ls, ∃ atDisp atSecs flags ov, l = .step atDisp atSecs flags ov := by
  induction h with
  | nil => simp
  | cons hl _ ih =>
    obtain ⟨atDisp, flags, ov, rfl⟩ := hl
    intro l hmem
    obtain rfl | hmem := List.mem_cons.mp hmem
    · exact ⟨_, _, _, _, rfl⟩
    · exact ih l hmem

lemma repeatLast_of_parse {doc : Yaml} {plan : ScenarioPlan}
    (h : parsePlanDoc fmt debug doc = .ok plan) : plan.RepeatLast := by
  obtain ⟨-, ls, rep, hlines, hls, hrep⟩ := (parsePlanDoc_ok h).1
  have hinit : ∀ l ∈ plan.lines.dropLast, l ∈ ls := by
    intro l hl
    rw [hlines] at hl
    obtain ⟨-, rfl⟩ | ⟨-, onFlags, offFlags, onOv, rfl⟩ := hrep
    · rw [List.append_nil] at hl
      exact List.mem_of_mem_dropLast hl
    · rwa [List.dropLast_concat] at hl
  intro l hl
  exact step_of_forall₂ hls l (hinit l hl)

lemma phasesFrom_steps {ls : List PlanLine} {times : List Binary64}
    (h : List.Forall₂ StepLine ls times) (rest : List PlanLine) (now : ℕ) :
    (phasesFrom now (ls ++ rest)).2 = (phasesFrom (max now (lastStep times)) rest).2 := by
  induction h generalizing now with
  | nil => simp [lastStep]
  | cons hl _ ih =>
    obtain ⟨atDisp, flags, ov, rfl⟩ := hl
    simp only [List.cons_append, phasesFrom, linePhases, ih, lastStep, List.foldr_cons, max_assoc]

lemma phasesFrom_parsed {doc : Yaml} {lines : List PlanLine} (h : LinesOf doc lines) :
    (phasesFrom 0 lines).2 = lastStep (stepTimes doc) + roundsSpan doc := by
  obtain ⟨-, ls, rep, rfl, hls, hrep⟩ := h
  rw [phasesFrom_steps hls rep 0, Nat.zero_max]
  obtain ⟨hempty, rfl⟩ | ⟨hsome, onFlags, offFlags, onOv, rfl⟩ := hrep
  · simp [phasesFrom, roundsSpan, hempty]
  · simp [phasesFrom, linePhases, roundsSpan, hsome]

lemma roundsCounted_lt (doc : Yaml) : roundsCounted doc < 2 ^ 63 + 2 ^ 13 := by
  simp only [roundsCounted]
  split_ifs
  · norm_num
  · have h := Binary64.toU64_ofInt_le (i := wrapI64 (repeatCount doc "rounds" *
      wrapI64 (repeatCount doc "on_s" + repeatCount doc "off_s"))) (by simp only [wrapI64]; omega)
    omega

theorem fuse_covers (doc : Yaml) (plan : ScenarioPlan) (h : parsePlanDoc fmt debug doc = .ok plan) :
    (∀ noBaseline, lastAction plan noBaseline ≤ covering plan) ↔
      plan.baselineS + max (lastObserved (stepTimes doc)) (roundsCounted doc) + 90 < 2 ^ 64 ∧
        (lastStep (stepTimes doc) + roundsSpan doc + dwellSecs plan ≤
            lastObserved (stepTimes doc) + 90 ∨
          lastStep (stepTimes doc) + roundsSpan doc + dwellSecs plan ≤ roundsCounted doc + 90) := by
  obtain ⟨hlines, htotal⟩ := parsePlanDoc_ok h
  have hspan := phasesFrom_parsed hlines
  have hcounted := roundsCounted_lt doc
  have hobserved := lastObserved_lt (stepTimes doc)
  have hearly := lastObserved_le hlines.times
  have hall : (∀ noBaseline, lastAction plan noBaseline ≤ covering plan) ↔
      plan.baselineS + (phasesFrom 0 plan.lines).2 + dwellSecs plan ≤ covering plan := by
    refine ⟨fun h => h false, fun h noBaseline => ?_⟩
    cases noBaseline <;> simp only [lastAction] at * <;> simp <;> omega
  rw [hall, hspan]
  simp only [covering, htotal, coveringMarginSecs]
  refine ⟨?_, ?_⟩
  · intro hle
    -- a sum that wraps falls behind its first part, unless a step is observed long after it is due
    have hfits : plan.baselineS + max (lastObserved (stepTimes doc)) (roundsCounted doc) + 90 <
        2 ^ 64 := by
      omega
    rw [Nat.mod_eq_of_lt hfits] at hle
    omega
  · rintro ⟨hfits, hle⟩
    rw [Nat.mod_eq_of_lt hfits]
    omega

def stepsOnly : Yaml :=
  .map [(.str "scenario", .map
    [(.str "baseline_s", .int 60),
      (.str "steps", .seq
        [.map [(.str "at_s", .int 30), (.str "set", .map [(.str "rtt_ms", .int 100)])],
          .map [(.str "at_s", .int 60), (.str "set", .map [(.str "rtt_ms", .int 0)])]])])]

def stepsOnlyPlan : ScenarioPlan where
  baselineS := 60
  lines :=
    [.step "30" 30 "--rtt 100" { StepOverride.empty with rttMs := some 100 },
      .step "60" 60 "--rtt 0" { StepOverride.empty with rttMs := some 0 }]
  totalS := 75
  clear := true

lemma stepsOnly_parses : parsePlanDoc plainText (fun _ => "") stepsOnly = .ok stepsOnlyPlan := by
  decide +kernel

theorem fuse_covers_steps : lastAction stepsOnlyPlan false ≤ covering stepsOnlyPlan ∧
    lastAction stepsOnlyPlan true ≤ covering stepsOnlyPlan := by
  have hall := (fuse_covers stepsOnly stepsOnlyPlan stepsOnly_parses).mpr (by decide +kernel)
  exact ⟨hall false, hall true⟩

def lateRounds : Yaml :=
  .map [(.str "scenario", .map
    [(.str "baseline_s", .int 60),
      (.str "steps", .seq
        [.map [(.str "at_s", .int 200), (.str "set", .map [(.str "rtt_ms", .int 100)])]]),
      (.str "repeat", .map
        [(.str "rounds", .int 10), (.str "on_s", .int 30), (.str "off_s", .int 30),
          (.str "set", .map [(.str "loss", .str "5%")])])])]

def lateRoundsPlan : ScenarioPlan where
  baselineS := 60
  lines :=
    [.step "200" 200 "--rtt 100" { StepOverride.empty with rttMs := some 100 },
      .repeat 10 30 30 "--loss 5%" "--rtt 0 --jitter 0 --loss 0%"
        { StepOverride.empty with loss := some "5%" } offOverride]
  totalS := 600
  clear := true

lemma lateRounds_accepted :
    parsePlanDoc plainText (fun _ => "") lateRounds = .ok lateRoundsPlan ∧
      validateFullPlan plainText lateRoundsPlan =
        .ok { ImpairSpec.default with loss := some (.simple "0%") } := by
  decide +kernel

theorem fuse_clears_late_rounds :
    parsePlanDoc plainText (fun _ => "") lateRounds = .ok lateRoundsPlan ∧
      (validateFullPlan plainText lateRoundsPlan).toOption.isSome ∧
      covering lateRoundsPlan = 750 ∧ lastAction lateRoundsPlan false = 860 := by
  refine ⟨lateRounds_accepted.1, ?_, by decide, by decide⟩
  rw [lateRounds_accepted.2]
  rfl

end MediaServo.Weaknet
