import MediaServo.WeaknetProofs.Plans

/-! The seconds of a plan as its numbers give them, and as the arithmetic of 64 bits has them. -/

namespace MediaServo.Weaknet

open MediaServo.Foundations

variable {fmt : FloatText} {debug : Yaml → String}

def finiteValue : Binary64 → Option ℚ
  | .finite q => some q
  | _ => none

def latest (span : ℕ) (times : List ℚ) : ℚ := times.foldr (fun q t => max (q + 15) t) span

def exactTotal (doc : Yaml) : Option ℚ :=
  ((stepTimes doc).mapM finiteValue).map (latest (roundsSpan doc))

def baselineOf (doc : Yaml) : Option Binary64 :=
  ((scenarioOf doc).get "baseline_s").bind Yaml.asNum

def exactBaseline (doc : Yaml) (total : ℚ) : Option ℕ :=
  match baselineOf doc with
  | none => some ⌊total⌋₊
  | some b => (finiteValue b).map fun q => ⌊max q 0⌋₊

section Rounding

lemma roundRat_nonneg {x : ℚ} (h : 0 ≤ x) : 0 ≤ Binary64.roundRat x := by
  have hu := Binary64.ulp_pos x
  rw [Binary64.roundRat]
  split_ifs
  · exact le_refl _
  · apply mul_nonneg _ hu.le
    have hround : (0 : ℤ) ≤ Binary64.roundEven (x / Binary64.ulp x) := by
      apply Binary64.le_roundEven
      simpa using div_nonneg h hu.le
    exact_mod_cast hround

lemma toU64_round_iff {x : ℚ} (h0 : 0 ≤ x) (h : ⌊x⌋₊ < 2 ^ 63) :
    (Binary64.round x).toU64 = ⌊x⌋₊ ↔ ⌊Binary64.roundRat x⌋ = ⌊x⌋ := by
  have hr := Int.floor_nonneg.2 (roundRat_nonneg h0)
  have hx := Int.floor_nonneg.2 h0
  have hnat : ⌊x⌋.toNat = ⌊x⌋₊ := Int.floor_toNat x
  obtain ⟨heq, hbig⟩ | ⟨-, hneg⟩ | heq := Binary64.round_cases x
  · have hfloor : (2 : ℤ) ^ 64 ≤ ⌊Binary64.roundRat x⌋ := Int.le_floor.2 (by exact_mod_cast hbig)
    rw [heq]
    simp only [Binary64.toU64]
    omega
  · exact absurd (roundRat_nonneg h0) (not_le.2 hneg)
  · rw [heq]
    simp only [Binary64.toU64]
    omega

lemma latest_cases (span : ℕ) {times : List ℚ} (h : ∀ q ∈ times, 0 ≤ q) :
    latest span times = 0 ∨ 1 ≤ latest span times := by
  cases times with
  | nil =>
    simp only [latest, List.foldr_nil]
    rcases Nat.eq_zero_or_pos span with rfl | hpos
    · exact .inl Nat.cast_zero
    · exact .inr (by exact_mod_cast hpos)
  | cons q times =>
    right
    have hq := h q List.mem_cons_self
    rw [latest, List.foldr_cons]
    exact le_trans (by linarith) (le_max_left _ _)

lemma span_le_latest (span : ℕ) (times : List ℚ) : (span : ℚ) ≤ latest span times := by
  induction times with
  | nil => exact le_refl _
  | cons q times ih => exact ih.trans (le_max_right _ _)

lemma toU64_round_max {x y : ℚ} (hx : 1 ≤ x) (hy : y = 0 ∨ 1 ≤ y) :
    max (Binary64.round x).toU64 (Binary64.round y).toU64 = (Binary64.round (max x y)).toU64 := by
  rcases le_total x y with h | h
  · rw [max_eq_right h, max_eq_right (Binary64.toU64_mono (Binary64.round_mono hx h))]
  · rw [max_eq_left h]
    rcases hy with rfl | hy
    · have hzero : (Binary64.round 0).toU64 = 0 := by
        have hround := Binary64.round_natCast (n := 0) (by norm_num)
        rw [Nat.cast_zero] at hround
        rw [hround]
        simp [Binary64.toU64]
      rw [hzero]
      exact max_eq_left (Nat.zero_le _)
    · exact max_eq_left (Binary64.toU64_mono (Binary64.round_mono hy h))

lemma lastObserved_round (span : ℕ) {times : List ℚ} (h : ∀ q ∈ times, 0 ≤ q) :
    max (lastObserved (times.map .finite)) (Binary64.round span).toU64 =
      (Binary64.round (latest span times)).toU64 := by
  induction times with
  | nil => simp [lastObserved, latest]
  | cons q times ih =>
    have hrest : ∀ p ∈ times, 0 ≤ p := fun p hp => h p (List.mem_cons_of_mem _ hp)
    have hq := h q List.mem_cons_self
    have hmax := toU64_round_max (by linarith : 1 ≤ q + 15) (latest_cases span hrest)
    rw [← ih hrest] at hmax
    rw [latest, List.foldr_cons, ← latest, ← hmax]
    simp only [lastObserved, List.map_cons, List.foldr_cons, Binary64.addRat, max_assoc]

end Rounding

lemma parseRepeat_counts {doc : Yaml} {acc next : Planning}
    (h : parseRepeat fmt debug acc (repeatOf doc) = .ok next) :
    0 < repeatCount doc "rounds" ∧ 5 ≤ repeatCount doc "on_s" ∧ 5 ≤ repeatCount doc "off_s" := by
  simp only [parseRepeat] at h
  split at h
  next r onS offS hr hon hoff =>
    split at h
    next => cases h
    next hlegal =>
      simp only [repeatCount, hr, hon, hoff, Option.getD_some]
      omega
  next => cases h

lemma parsePlanDoc_read {doc : Yaml} {plan : ScenarioPlan}
    (h : parsePlanDoc fmt debug doc = .ok plan) :
    plan.baselineS = ((baselineOf doc).map fun b => (b.max (.finite 0)).toU64).getD plan.totalS ∧
      (¬(repeatOf doc).isEmpty → 0 < repeatCount doc "rounds" ∧ 5 ≤ repeatCount doc "on_s" ∧
        5 ≤ repeatCount doc "off_s") := by
  simp only [parsePlanDoc] at h
  split at h
  next => cases h
  next sc hsc =>
    have hof : scenarioOf doc = sc := by simp [scenarioOf, hsc]
    split at h
    next => cases h
    next =>
      obtain ⟨stepped, -, h⟩ := bind_eq_ok.1 h
      rw [← hof] at h
      split at h
      next hrep =>
        obtain ⟨planned, -, h⟩ := bind_eq_ok.1 h
        cases h
        exact ⟨rfl, fun hsome => absurd hrep hsome⟩
      next =>
        obtain ⟨planned, hplanned, h⟩ := bind_eq_ok.1 h
        cases h
        exact ⟨rfl, fun _ => parseRepeat_counts hplanned⟩

lemma roundsCounted_eq {doc : Yaml} {plan : ScenarioPlan}
    (h : parsePlanDoc fmt debug doc = .ok plan) (hspan : roundsSpan doc < 2 ^ 63) :
    roundsCounted doc = (Binary64.round (roundsSpan doc : ℕ)).toU64 := by
  have hcounts := (parsePlanDoc_read h).2
  simp only [roundsCounted, roundsSpan] at hspan ⊢
  split_ifs with hrep
  · have hround := Binary64.round_natCast (n := 0) (by norm_num)
    rw [hround]
    simp [Binary64.toU64]
  · rw [if_neg hrep] at hspan
    obtain ⟨hr, hon, hoff⟩ := hcounts hrep
    generalize repeatCount doc "rounds" = r at *
    generalize repeatCount doc "on_s" = onS at *
    generalize repeatCount doc "off_s" = offS at *
    obtain ⟨r, rfl⟩ := Int.eq_ofNat_of_zero_le hr.le
    obtain ⟨onS, rfl⟩ := Int.eq_ofNat_of_zero_le (by omega : 0 ≤ onS)
    obtain ⟨offS, rfl⟩ := Int.eq_ofNat_of_zero_le (by omega : 0 ≤ offS)
    simp only [Int.toNat_natCast] at hspan ⊢
    have hone : onS + offS ≤ r * (onS + offS) := Nat.le_mul_of_pos_left _ (by omega)
    have hsum : wrapI64 ((onS : ℤ) + offS) = ((onS + offS : ℕ) : ℤ) := by
      simp only [wrapI64]
      push_cast
      omega
    have hprod : wrapI64 ((r : ℤ) * ((onS + offS : ℕ) : ℤ)) = ((r * (onS + offS) : ℕ) : ℤ) := by
      rw [← Nat.cast_mul]
      generalize r * (onS + offS) = span at hspan
      simp only [wrapI64]
      omega
    rw [hsum, hprod, Binary64.ofInt, Int.cast_natCast]

/-- The seconds that a plan holds, its fuse and its expiry are what its numbers give. -/
def ExactPlan (doc : Yaml) (plan : ScenarioPlan) (nowMs : ℕ) : Prop :=
  ∃ total baseline, exactTotal doc = some total ∧ exactBaseline doc total = some baseline ∧
    plan.totalS = ⌊total⌋₊ ∧ plan.baselineS = baseline ∧
    covering plan = baseline + ⌊total⌋₊ + 90 ∧
    expiresAtMs nowMs (covering plan) = nowMs + 1000 * (baseline + ⌊total⌋₊ + 90)

/-- All times are finite, the expiry fits in 64 bits of milliseconds, and the total, rounded to a
double, keeps its whole seconds. -/
def FitsPlan (doc : Yaml) (nowMs : ℕ) : Prop :=
  ∃ total baseline, exactTotal doc = some total ∧ exactBaseline doc total = some baseline ∧
    nowMs + 1000 * (baseline + ⌊total⌋₊ + 90) < 2 ^ 64 ∧
    ⌊Binary64.roundRat total⌋ = ⌊total⌋

lemma times_of_exact {doc : Yaml} {times : List ℚ} (h : (stepTimes doc).mapM finiteValue = some times) :
    stepTimes doc = times.map .finite := by
  generalize stepTimes doc = l at h
  induction l generalizing times with
  | nil =>
    cases h
    rfl
  | cons a l ih =>
    rw [List.mapM_cons, Option.bind_eq_bind, Option.bind_eq_some_iff] at h
    obtain ⟨q, hq, h⟩ := h
    rw [Option.bind_eq_bind, Option.bind_eq_some_iff] at h
    obtain ⟨qs, hqs, h⟩ := h
    cases h
    rw [List.map_cons, ← ih hqs]
    cases a with
    | finite p =>
      cases hq
      rfl
    | nan => cases hq
    | negInf => cases hq
    | posInf => cases hq

lemma exactTotal_nonneg {doc : Yaml} {total : ℚ} (ht : exactTotal doc = some total) : 0 ≤ total := by
  obtain ⟨times, -, rfl⟩ := Option.map_eq_some_iff.1 ht
  exact le_trans (Nat.cast_nonneg _) (span_le_latest (roundsSpan doc) times)

section Accepted

variable {doc : Yaml} {plan : ScenarioPlan} (h : parsePlanDoc fmt debug doc = .ok plan)
  {total : ℚ} {baseline nowMs : ℕ}

include h

lemma totalS_eq (ht : exactTotal doc = some total) (hsmall : ⌊total⌋₊ < 2 ^ 63) :
    plan.totalS = (Binary64.round total).toU64 := by
  obtain ⟨hlines, htotal⟩ := parsePlanDoc_ok h
  obtain ⟨times, htimes, rfl⟩ := Option.map_eq_some_iff.1 ht
  have hlist := times_of_exact htimes
  have hnonneg : ∀ q ∈ times, 0 ≤ q := by
    intro q hq
    have hstep := hlines.times (.finite q) (by rw [hlist]; exact List.mem_map_of_mem hq)
    by_contra hneg
    apply hstep.nonneg
    simp [Binary64.lt, Binary64.le]
    constructor <;> linarith
  have hspan : roundsSpan doc < 2 ^ 63 := by
    refine lt_of_le_of_lt (Nat.le_floor ?_) hsmall
    exact span_le_latest (roundsSpan doc) times
  rw [htotal, roundsCounted_eq h hspan, hlist, lastObserved_round (roundsSpan doc) hnonneg]

lemma baselineS_eq (ht : plan.totalS = ⌊total⌋₊) (hb : exactBaseline doc total = some baseline)
    (hsmall : baseline < 2 ^ 63) : plan.baselineS = baseline := by
  rw [(parsePlanDoc_read h).1]
  rw [exactBaseline] at hb
  cases hbase : baselineOf doc with
  | none =>
    rw [hbase] at hb
    cases hb
    exact ht
  | some b =>
    rw [hbase] at hb
    obtain ⟨q, hq, rfl⟩ := Option.map_eq_some_iff.1 hb
    cases b with
    | finite p =>
      cases hq
      have hmax : (Binary64.finite q).max (.finite 0) = .finite (max q 0) := by
        simp only [Binary64.max, Binary64.le, decide_eq_true_eq]
        split_ifs with hle
        · rw [max_eq_right hle]
        · rw [max_eq_left (not_le.1 hle).le]
      have hnat : ⌊max q 0⌋.toNat = ⌊max q 0⌋₊ := Int.floor_toNat _
      rw [Option.map_some, Option.getD_some, hmax]
      simp only [Binary64.toU64]
      omega
    | nan => cases hq
    | negInf => cases hq
    | posInf => cases hq

lemma exactPlan_iff : ExactPlan doc plan nowMs ↔ FitsPlan doc nowMs := by
  constructor
  · rintro ⟨total, baseline, ht, hb, htotal, hbaseline, hcover, hexpires⟩
    have hfits : nowMs + 1000 * (baseline + ⌊total⌋₊ + 90) < 2 ^ 64 := by
      rw [← hexpires]
      exact Nat.mod_lt _ (by norm_num)
    refine ⟨total, baseline, ht, hb, hfits, ?_⟩
    rw [totalS_eq h ht (by omega)] at htotal
    exact (toU64_round_iff (exactTotal_nonneg ht) (by omega)).1 htotal
  · rintro ⟨total, baseline, ht, hb, hfits, hround⟩
    have htotal : plan.totalS = ⌊total⌋₊ := by
      rw [totalS_eq h ht (by omega)]
      exact (toU64_round_iff (exactTotal_nonneg ht) (by omega)).2 hround
    have hbaseline := baselineS_eq h htotal hb (by omega)
    have hcover : covering plan = baseline + ⌊total⌋₊ + 90 := by
      rw [covering, htotal, hbaseline, coveringMarginSecs]
      omega
    refine ⟨total, baseline, ht, hb, htotal, hbaseline, hcover, ?_⟩
    rw [hcover, expiresAtMs]
    omega

end Accepted

theorem durations_exact_iff (nowMs : ℕ) (hnow : nowMs < 2 ^ 64) :
    (∀ doc plan, parsePlanDoc fmt debug doc = .ok plan →
      (ExactPlan doc plan nowMs ↔ FitsPlan doc nowMs)) ∧
    ∀ secs < 2 ^ 64, validateDuration secs = .ok () →
      (expiresAtMs nowMs secs = nowMs + 1000 * secs ↔ nowMs + 1000 * secs < 2 ^ 64) := by
  refine ⟨fun doc plan h => exactPlan_iff h, ?_⟩
  intro secs hsecs _
  rw [expiresAtMs]
  omega

theorem durations_of_steps :
    ExactPlan stepsOnly stepsOnlyPlan 1700000000000 ∧
      expiresAtMs 1700000000000 300 = 1700000300000 := by
  obtain ⟨hplan, hsecs⟩ := @durations_exact_iff plainText (fun _ => "")
    1700000000000 (by norm_num)
  have haccepted : validateDuration 300 = .ok () := rfl
  have hfits : FitsPlan stepsOnly 1700000000000 :=
    ⟨75, 60, by decide +kernel, by decide +kernel, by norm_num, by decide +kernel⟩
  exact ⟨(hplan stepsOnly stepsOnlyPlan stepsOnly_parses).2 hfits,
    (hsecs 300 (by norm_num) haccepted).2 (by norm_num)⟩

/-- A fuse of half a billion years that is out in 384 milliseconds. -/
theorem duration_wraps : ¬∀ nowMs < 2 ^ 64,
    (∀ doc plan, parsePlanDoc plainText (fun _ => "") doc = .ok plan → ExactPlan doc plan nowMs) ∧
    ∀ secs < 2 ^ 64, validateDuration secs = .ok () →
      expiresAtMs nowMs secs = nowMs + 1000 * secs := by
  intro hall
  have haccepted : validateDuration 18446744073709552 = .ok () := rfl
  have hwrong := (hall 1700000000000 (by norm_num)).2 18446744073709552 (by norm_num) haccepted
  have hwraps : expiresAtMs 1700000000000 18446744073709552 = 1700000000384 := rfl
  rw [hwraps] at hwrong
  norm_num at hwrong

end MediaServo.Weaknet
