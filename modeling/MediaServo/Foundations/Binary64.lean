import Mathlib.Data.Int.Log
import Mathlib.Data.Rat.Floor
import Mathlib.Tactic

/-! The values of a double-precision number: finite ones as rationals, with rounding to the
nearest, ties to even, after each operation. The sign of a zero is not kept. -/

namespace MediaServo.Foundations

inductive Binary64
  | nan
  | negInf
  | posInf
  | finite (q : ℚ)
  deriving DecidableEq

namespace Binary64

def roundEven (x : ℚ) : ℤ :=
  let f := ⌊x⌋
  if x - f < 1 / 2 then f
  else if 1 / 2 < x - f then f + 1
  else if f % 2 = 0 then f else f + 1

def ulp (q : ℚ) : ℚ := 2 ^ max (Int.log 2 |q| - 52) (-1074)

def roundRat (q : ℚ) : ℚ := if q = 0 then 0 else roundEven (q / ulp q) * ulp q

def round (q : ℚ) : Binary64 :=
  let r := roundRat q
  if 2 ^ 1024 ≤ r then .posInf else if r ≤ -2 ^ 1024 then .negInf else .finite r

def ofInt (i : ℤ) : Binary64 := round i

def le : Binary64 → Binary64 → Bool
  | .nan, _ | _, .nan => false
  | .negInf, _ | _, .posInf => true
  | .posInf, _ | _, .negInf => false
  | .finite p, .finite q => p ≤ q

def lt (a b : Binary64) : Bool := le a b && !le b a

/-- The greater of two values; one that is not a number gives way to the other. -/
def max : Binary64 → Binary64 → Binary64
  | .nan, b => b
  | a, .nan => a
  | a, b => if le a b then b else a

/-- The lesser of two values; one that is not a number gives way to the other. -/
def minNum : Binary64 → Binary64 → Binary64
  | .nan, b => b
  | a, .nan => a
  | a, b => if le a b then a else b

def addRat (q : ℚ) : Binary64 → Binary64
  | .finite p => round (p + q)
  | a => a

def div : Binary64 → Binary64 → Binary64
  | .nan, _ | _, .nan => .nan
  | .finite p, .finite q =>
    if q ≠ 0 then round (p / q) else if p = 0 then .nan else if p < 0 then .negInf else .posInf
  | .finite _, _ => .finite 0
  | .posInf, .finite q => if q < 0 then .negInf else .posInf
  | .negInf, .finite q => if q < 0 then .posInf else .negInf
  | _, _ => .nan

def sign : Binary64 → ℤ
  | .nan => 0
  | .negInf => -1
  | .posInf => 1
  | .finite q => if 0 < q then 1 else if q < 0 then -1 else 0

def mul : Binary64 → Binary64 → Binary64
  | .nan, _ | _, .nan => .nan
  | .finite p, .finite q => round (p * q)
  | a, b =>
    if sign a * sign b = 0 then .nan else if 0 < sign a * sign b then .posInf else .negInf

def roundAway : Binary64 → Binary64
  | .finite q => .finite (if 0 ≤ q then ⌊q + 1 / 2⌋ else ⌈q - 1 / 2⌉)
  | a => a

def isFinite : Binary64 → Bool
  | .finite _ => true
  | _ => false

def isIntegral : Binary64 → Bool
  | .finite q => q.den = 1
  | _ => false

/-- The cast to an unsigned integer of 64 bits: towards zero, and saturating. -/
def toU64 : Binary64 → ℕ
  | .nan | .negInf => 0
  | .posInf => 2 ^ 64 - 1
  | .finite q => min ⌊q⌋.toNat (2 ^ 64 - 1)

/-- The cast to an unsigned integer of 32 bits: towards zero, and saturating. -/
def toU32 : Binary64 → ℕ
  | .nan | .negInf => 0
  | .posInf => 2 ^ 32 - 1
  | .finite q => min ⌊q⌋.toNat (2 ^ 32 - 1)

def IsDouble : Binary64 → Prop
  | .finite q => ∃ k e : ℤ, |k| ≤ 2 ^ 53 ∧ -1074 ≤ e ∧ q = k * 2 ^ e
  | _ => True

lemma toU64_lt (a : Binary64) : a.toU64 < 2 ^ 64 := by
  cases a <;> simp only [toU64] <;> omega

lemma toU64_mono {a b : Binary64} (h : le a b) : a.toU64 ≤ b.toU64 := by
  have hb := b.toU64_lt
  cases a with
  | nan => simp [toU64]
  | negInf => simp [toU64]
  | posInf =>
    cases b <;> simp [le] at h
    exact le_refl _
  | finite p =>
    cases b with
    | nan => simp [le] at h
    | negInf => simp [le] at h
    | posInf => simp only [toU64]; omega
    | finite q =>
      have hpq : ⌊p⌋.toNat ≤ ⌊q⌋.toNat := Int.toNat_le_toNat (Int.floor_mono (by simpa [le] using h))
      simp only [toU64]
      omega

lemma le_total {a b : Binary64} (ha : a ≠ nan) (hb : b ≠ nan) (h : ¬le a b) : le b a := by
  cases a <;> cases b <;> simp_all [le]
  exact h.le

lemma le_trans {a b c : Binary64} (hab : le a b) (hbc : le b c) : le a c := by
  cases a <;> cases b <;> cases c <;> simp_all [le]
  exact hab.trans hbc

lemma lt_irrefl (a : Binary64) : lt a a = false := by
  rw [lt, Bool.and_not_self]

lemma le_of_lt {a b : Binary64} (h : lt a b) : le a b := by
  rw [lt, Bool.and_eq_true] at h
  exact h.1

lemma not_le_of_lt {a b : Binary64} (h : lt a b) : ¬le b a := by
  rw [lt, Bool.and_eq_true, Bool.not_eq_true'] at h
  simp [h.2]

lemma lt_trans {a b c : Binary64} (hab : lt a b) (hbc : lt b c) : lt a c := by
  rw [lt, Bool.and_eq_true, Bool.not_eq_true', Bool.eq_false_iff]
  exact ⟨le_trans (le_of_lt hab) (le_of_lt hbc),
    fun hca => not_le_of_lt hbc (le_trans hca (le_of_lt hab))⟩

lemma lt_asymm {a b : Binary64} (hab : lt a b) : ¬lt b a :=
  fun hba => not_le_of_lt hab (le_of_lt hba)

lemma max_right_comm (a b c : Binary64) : max (max a b) c = max (max a c) b := by
  cases a <;> cases b <;> cases c <;> simp [max, le]
  all_goals grind

lemma toU64_max (a b : Binary64) : (max a b).toU64 = a.toU64 ⊔ b.toU64 := by
  by_cases ha : a = nan
  · subst ha
    cases b <;> simp [max, toU64]
  by_cases hb : b = nan
  · subst hb
    cases a <;> simp [max, toU64]
  have hmax : max a b = if le a b then b else a := by
    cases a <;> cases b <;> simp_all [max]
  rw [hmax]
  split
  next h => exact (max_eq_right (toU64_mono h)).symm
  next h => exact (max_eq_left (toU64_mono (le_total ha hb h))).symm

lemma le_roundEven {k : ℤ} {x : ℚ} (h : k ≤ x) : k ≤ roundEven x := by
  have hf : k ≤ ⌊x⌋ := Int.le_floor.mpr h
  simp only [roundEven]
  split_ifs <;> omega

lemma roundEven_le {k : ℤ} {x : ℚ} (h : x ≤ k) : roundEven x ≤ k := by
  have hf : ⌊x⌋ ≤ k := Int.floor_le_iff.mpr (by linarith)
  have hlast : ⌊x⌋ = k → x - ⌊x⌋ < 1 / 2 := by
    intro heq
    rw [heq]
    linarith
  simp only [roundEven]
  split_ifs with h1 h2 h3
  · exact hf
  all_goals
    have hne : ⌊x⌋ ≠ k := fun heq => h1 (hlast heq)
    omega

lemma ulp_pos (q : ℚ) : 0 < ulp q := zpow_pos (by norm_num) _

lemma ulp_of_one_le {y : ℚ} (h : 1 ≤ y) : ulp y = 2 ^ (Int.log 2 y - 52) := by
  have habs : |y| = y := abs_of_pos (by linarith)
  have hlog : 0 ≤ Int.log 2 y := by
    rw [← Int.zpow_le_iff_le_log (by norm_num) (by linarith)]
    simpa using h
  rw [ulp, habs]
  congr 1
  omega

lemma pow_log_eq {y : ℚ} (h : 1 ≤ y) : (2 : ℚ) ^ Int.log 2 y = 2 ^ 52 * ulp y := by
  rw [ulp_of_one_le h, ← zpow_natCast, ← zpow_add₀ (by norm_num)]
  congr 1
  push_cast
  ring

lemma roundRat_eq {y : ℚ} (h : 1 ≤ y) : roundRat y = roundEven (y / ulp y) * ulp y :=
  if_neg (by linarith)

lemma le_roundRat {q y : ℚ} (hq : (finite q).IsDouble) (hqy : q ≤ y) (hy : 1 ≤ y) :
    q ≤ roundRat y := by
  have hu := ulp_pos y
  have hlog := pow_log_eq hy
  suffices h : ∃ k : ℤ, q ≤ k * ulp y ∧ k ≤ y / ulp y by
    obtain ⟨k, hk, hky⟩ := h
    have hround : (k : ℚ) ≤ roundEven (y / ulp y) := by exact_mod_cast le_roundEven hky
    rw [roundRat_eq hy]
    exact hk.trans (mul_le_mul_of_nonneg_right hround hu.le)
  by_cases hlow : q ≤ 2 ^ Int.log 2 y
  · refine ⟨2 ^ 52, ?_, ?_⟩
    · rw [Int.cast_pow, Int.cast_ofNat, ← hlog]
      exact hlow
    · rw [le_div_iff₀ hu, Int.cast_pow, Int.cast_ofNat, ← hlog]
      exact_mod_cast Int.zpow_log_le_self (b := 2) (by norm_num) (by linarith : 0 < y)
  · obtain ⟨k, e, hk, -, rfl⟩ := hq
    have hk' : (k : ℚ) ≤ 2 ^ 53 := by exact_mod_cast (abs_le.mp hk).2
    have hexp : Int.log 2 y - 52 ≤ e := by
      have hlt : (2 : ℚ) ^ Int.log 2 y < 2 ^ (53 + e) := by
        rw [zpow_add₀ (by norm_num)]
        refine (not_le.mp hlow).trans_le (mul_le_mul_of_nonneg_right ?_ (zpow_pos (by norm_num) _).le)
        exact_mod_cast hk'
      have := (zpow_lt_zpow_iff_right₀ (by norm_num : (1 : ℚ) < 2)).mp hlt
      omega
    have heq : (k : ℚ) * 2 ^ e = (k * 2 ^ (e - (Int.log 2 y - 52)).toNat : ℤ) * ulp y := by
      rw [ulp_of_one_le hy]
      push_cast
      rw [mul_assoc, ← zpow_natCast, ← zpow_add₀ (by norm_num)]
      congr 2
      omega
    refine ⟨k * 2 ^ (e - (Int.log 2 y - 52)).toNat, heq.le, ?_⟩
    rw [le_div_iff₀ hu, ← heq]
    exact hqy

lemma roundEven_le_add_one (x : ℚ) : (roundEven x : ℚ) ≤ x + 1 := by
  have hf : (⌊x⌋ : ℚ) ≤ x := Int.floor_le x
  simp only [roundEven]
  split_ifs <;> push_cast <;> linarith

lemma roundRat_le {y : ℚ} (hy : 1 ≤ y) : roundRat y ≤ y + y / 2 ^ 52 := by
  have hu := ulp_pos y
  have hlow : 2 ^ 52 * ulp y ≤ y := by
    rw [← pow_log_eq hy]
    exact_mod_cast Int.zpow_log_le_self (b := 2) (by norm_num) (by linarith : 0 < y)
  calc roundRat y = roundEven (y / ulp y) * ulp y := roundRat_eq hy
    _ ≤ (y / ulp y + 1) * ulp y := mul_le_mul_of_nonneg_right (roundEven_le_add_one _) hu.le
    _ = y + ulp y := by rw [add_mul, div_mul_cancel₀ _ hu.ne', one_mul]
    _ ≤ y + y / 2 ^ 52 := by linarith

lemma roundRat_nonpos {q : ℚ} (h : q ≤ 0) : roundRat q ≤ 0 := by
  have hround : roundEven (q / ulp q) ≤ 0 := by
    apply roundEven_le
    simpa using div_nonpos_of_nonpos_of_nonneg h (ulp_pos q).le
  simp only [roundRat]
  split_ifs
  · exact le_refl _
  · exact mul_nonpos_of_nonpos_of_nonneg (by exact_mod_cast hround) (ulp_pos q).le

lemma isDouble_roundRat (q : ℚ) : (finite (roundRat q)).IsDouble := by
  simp only [IsDouble, roundRat]
  split_ifs with hq
  · exact ⟨0, 0, by norm_num, by norm_num, by norm_num⟩
  refine ⟨roundEven (q / ulp q), Max.max (Int.log 2 |q| - 52) (-1074), ?_, le_max_right _ _, rfl⟩
  have hu := ulp_pos q
  have hsmall : |q| ≤ 2 ^ 53 * ulp q := by
    have hlt : |q| < (2 : ℚ) ^ (Int.log 2 |q| + 1) := by
      exact_mod_cast Int.lt_zpow_succ_log_self (b := 2) (by norm_num) |q|
    have hle : (2 : ℚ) ^ (Int.log 2 |q| + 1) ≤ 2 ^ 53 * ulp q := by
      rw [ulp, ← zpow_natCast, ← zpow_add₀ (by norm_num)]
      apply zpow_le_zpow_right₀ (by norm_num)
      push_cast
      omega
    exact hlt.le.trans hle
  rw [abs_le] at hsmall ⊢
  refine ⟨le_roundEven ?_, roundEven_le ?_⟩
  · rw [le_div_iff₀ hu]
    push_cast
    linarith [hsmall.1]
  · rw [div_le_iff₀ hu]
    push_cast
    linarith [hsmall.2]

lemma round_cases (q : ℚ) :
    round q = .posInf ∧ 2 ^ 64 ≤ roundRat q ∨ round q = .negInf ∧ roundRat q < 0 ∨
      round q = .finite (roundRat q) := by
  have htop : (2 : ℚ) ^ 64 ≤ 2 ^ 1024 := pow_le_pow_right₀ (by norm_num) (by norm_num)
  have hpos : (0 : ℚ) < 2 ^ 64 := by positivity
  simp only [round]
  generalize (2 : ℚ) ^ 1024 = top at htop ⊢
  by_cases hhigh : top ≤ roundRat q
  · exact .inl ⟨if_pos hhigh, htop.trans hhigh⟩
  rw [if_neg hhigh]
  by_cases hlow : roundRat q ≤ -top
  · exact .inr (.inl ⟨if_pos hlow, by linarith⟩)
  · exact .inr (.inr (if_neg hlow))

lemma roundEven_intCast (n : ℤ) : roundEven n = n := by
  simp [roundEven]

lemma exists_places {q : ℚ} (h : (finite q).IsDouble) : ∃ n : ℤ, q / ulp q = n := by
  obtain ⟨k, e, hk, he, rfl⟩ := h
  by_cases hk0 : k = 0
  · exact ⟨0, by simp [hk0]⟩
  have hpow : ∀ i : ℤ, (0 : ℚ) < 2 ^ i := fun i => zpow_pos (by norm_num) i
  have hpos : 0 < |(k : ℚ) * 2 ^ e| := by
    apply abs_pos.mpr
    exact mul_ne_zero (by exact_mod_cast hk0) (hpow e).ne'
  have habs : |(k : ℚ) * 2 ^ e| = (|k| : ℤ) * 2 ^ e := by
    rw [abs_mul, abs_of_pos (hpow e), Int.cast_abs]
  have hlow : (2 : ℚ) ^ Int.log 2 |(k : ℚ) * 2 ^ e| ≤ (|k| : ℤ) * 2 ^ e := by
    rw [← habs]
    exact_mod_cast Int.zpow_log_le_self (b := 2) (by norm_num) hpos
  rw [ulp]
  generalize Int.log 2 |(k : ℚ) * 2 ^ e| = l at hlow
  obtain ⟨u, hu⟩ : ∃ u, u = Max.max (l - 52) (-1074) := ⟨_, rfl⟩
  rw [← hu]
  by_cases hle : u ≤ e
  · refine ⟨k * 2 ^ (e - u).toNat, ?_⟩
    rw [div_eq_iff (hpow u).ne']
    push_cast
    rw [mul_assoc, ← zpow_natCast, ← zpow_add₀ (by norm_num)]
    congr 2
    omega
  · -- the last place is above `e` only for the power of two just behind the significands
    have hk' : ((|k| : ℤ) : ℚ) ≤ 2 ^ 53 := by exact_mod_cast hk
    have hle' : l ≤ 53 + e := by
      have htop : (2 : ℚ) ^ l ≤ 2 ^ (53 + e) := by
        rw [zpow_add₀ (by norm_num)]
        exact hlow.trans (mul_le_mul_of_nonneg_right (by exact_mod_cast hk') (hpow e).le)
      exact (zpow_le_zpow_iff_right₀ (by norm_num)).mp htop
    have hleq : l = 53 + e := by omega
    have hge : (2 : ℚ) ^ 53 ≤ (|k| : ℤ) := by
      rw [hleq, zpow_add₀ (by norm_num)] at hlow
      exact_mod_cast le_of_mul_le_mul_right hlow (hpow e)
    have hge' : (2 : ℤ) ^ 53 ≤ |k| := by exact_mod_cast hge
    have heven : k = 2 * (k / 2) := by
      rcases abs_choice k with habs | habs <;> omega
    have hcast : (k : ℚ) = 2 * ((k / 2 : ℤ) : ℚ) := by exact_mod_cast heven
    refine ⟨k / 2, ?_⟩
    rw [show u = 1 + e by omega, div_eq_iff (hpow _).ne', zpow_add₀ (by norm_num), zpow_one]
    nth_rewrite 1 [hcast]
    ring

lemma roundRat_of_isDouble {q : ℚ} (h : (finite q).IsDouble) : roundRat q = q := by
  obtain ⟨n, hn⟩ := exists_places h
  rw [roundRat]
  split_ifs with hq
  · exact hq.symm
  · rw [hn, roundEven_intCast, ← hn, div_mul_cancel₀ _ (ulp_pos q).ne']

lemma round_of_isDouble {q : ℚ} (h : (finite q).IsDouble) (h0 : 0 ≤ q) (h64 : q < 2 ^ 64) :
    round q = .finite q := by
  obtain ⟨-, hbig⟩ | ⟨-, hneg⟩ | heq := round_cases q
  · rw [roundRat_of_isDouble h] at hbig
    linarith
  · rw [roundRat_of_isDouble h] at hneg
    linarith
  · rw [heq, roundRat_of_isDouble h]

lemma round_natCast {n : ℕ} (h : n ≤ 2 ^ 53) : round n = .finite n := by
  have hq : (n : ℚ) ≤ 2 ^ 53 := by exact_mod_cast h
  apply round_of_isDouble ⟨n, 0, by rw [Nat.abs_cast]; exact_mod_cast h, by norm_num, by simp⟩
  · exact Nat.cast_nonneg n
  · linarith

lemma roundEven_mono {x y : ℚ} (h : x ≤ y) : roundEven x ≤ roundEven y := by
  have hf : ⌊x⌋ ≤ ⌊y⌋ := Int.floor_mono h
  rcases hf.lt_or_eq with hlt | heq
  · have hx : roundEven x ≤ ⌊x⌋ + 1 := by
      simp only [roundEven]
      split_ifs <;> omega
    have hy : ⌊y⌋ ≤ roundEven y := le_roundEven (Int.floor_le y)
    omega
  · simp only [roundEven, heq]
    split_ifs <;> first | omega | linarith

lemma roundRat_le_pow {x : ℚ} (hx : 1 ≤ x) {l : ℤ} (hl : Int.log 2 x < l) : roundRat x ≤ 2 ^ l := by
  have hu := ulp_pos x
  have hlt : x < 2 ^ l := by
    have h := Int.lt_zpow_succ_log_self (b := 2) (by norm_num) x
    refine lt_of_lt_of_le (by exact_mod_cast h) (zpow_le_zpow_right₀ (by norm_num) hl)
  have hplaces : (2 : ℚ) ^ l / ulp x = (2 ^ (l - (Int.log 2 x - 52)).toNat : ℤ) := by
    rw [ulp_of_one_le hx, div_eq_iff (zpow_ne_zero _ (by norm_num))]
    push_cast
    rw [← zpow_natCast, ← zpow_add₀ (by norm_num)]
    congr 1
    omega
  have hround : roundEven (x / ulp x) ≤ (2 ^ (l - (Int.log 2 x - 52)).toNat : ℤ) := by
    apply roundEven_le
    rw [← hplaces]
    exact div_le_div_of_nonneg_right hlt.le hu.le
  calc roundRat x = roundEven (x / ulp x) * ulp x := roundRat_eq hx
    _ ≤ (2 ^ (l - (Int.log 2 x - 52)).toNat : ℤ) * ulp x :=
      mul_le_mul_of_nonneg_right (by exact_mod_cast hround) hu.le
    _ = 2 ^ l := by rw [← hplaces, div_mul_cancel₀ _ hu.ne']

lemma roundRat_mono {x y : ℚ} (hx : 1 ≤ x) (h : x ≤ y) : roundRat x ≤ roundRat y := by
  have hy : 1 ≤ y := hx.trans h
  have hlog : Int.log 2 x ≤ Int.log 2 y := Int.log_mono_right (by linarith) h
  rcases hlog.lt_or_eq with hlt | heq
  · -- a power of two lies between the two numbers
    refine (roundRat_le_pow hx hlt).trans ?_
    have hlow : (2 : ℚ) ^ Int.log 2 y ≤ y := by
      exact_mod_cast Int.zpow_log_le_self (b := 2) (by norm_num) (by linarith : 0 < y)
    have h0 : 0 ≤ Int.log 2 x := by
      rw [← Int.zpow_le_iff_le_log (by norm_num) (by linarith)]
      simpa using hx
    exact le_roundRat ⟨1, Int.log 2 y, by norm_num, by omega, by simp⟩ hlow hy
  · have hulp : ulp x = ulp y := by rw [ulp_of_one_le hx, ulp_of_one_le hy, heq]
    have hu := ulp_pos y
    rw [roundRat_eq hx, roundRat_eq hy, hulp]
    apply mul_le_mul_of_nonneg_right _ hu.le
    exact_mod_cast roundEven_mono (div_le_div_of_nonneg_right h hu.le)

lemma round_mono {x y : ℚ} (hx : 1 ≤ x) (h : x ≤ y) : le (round x) (round y) := by
  have hmono := roundRat_mono hx h
  have hpos : 1 ≤ roundRat x := le_roundRat ⟨1, 0, by norm_num, by norm_num, by norm_num⟩ hx hx
  simp only [round]
  generalize (2 : ℚ) ^ 1024 = top
  split_ifs <;> simp only [le, decide_eq_true_eq] <;> first | rfl | linarith

lemma isDouble_round (q : ℚ) : (round q).IsDouble := by
  obtain ⟨h, -⟩ | ⟨h, -⟩ | h := round_cases q <;> rw [h]
  · trivial
  · trivial
  · exact isDouble_roundRat q

lemma toU64_le_addRat {a : Binary64} (h : a.IsDouble) {d : ℚ} (hd : 1 ≤ d) :
    a.toU64 ≤ (a.addRat d).toU64 := by
  cases a with
  | nan => exact le_refl _
  | negInf => exact le_refl _
  | posInf => exact le_refl _
  | finite q =>
    by_cases hq : q < 0
    · have hneg : ⌊q⌋.toNat = 0 := Int.toNat_of_nonpos (Int.floor_lt_zero.mpr hq |>.le)
      simp [toU64, hneg]
    have hround := le_roundRat h (by linarith : q ≤ q + d) (by linarith)
    simp only [addRat]
    obtain ⟨heq, -⟩ | ⟨-, hneg⟩ | heq := round_cases (q + d)
    · rw [heq]
      exact toU64_mono rfl
    · linarith
    · rw [heq]
      exact toU64_mono (by simpa [le] using hround)

lemma toU64_round_le {q : ℚ} {n : ℕ} (h : roundRat q ≤ n) : (round q).toU64 ≤ n := by
  obtain ⟨heq, hbig⟩ | ⟨heq, -⟩ | heq := round_cases q <;> rw [heq]
  · have hn : (2 : ℚ) ^ 64 ≤ n := hbig.trans h
    have hn' : 2 ^ 64 ≤ n := by exact_mod_cast hn
    simp only [toU64]
    omega
  · simp [toU64]
  · have hfloor : ⌊roundRat q⌋.toNat ≤ n := by
      apply Int.toNat_le.mpr
      exact Int.floor_le_iff.mpr (by push_cast; linarith)
    simp only [toU64]
    omega

lemma toU64_addRat_le {a : Binary64} (h0 : ¬a.lt (.finite 0)) {d : ℕ} (hd : 1 ≤ d)
    (hsmall : a.toU64 < 2 ^ 64 - 1) : (a.addRat d).toU64 ≤ 2 * (a.toU64 + 1 + d) := by
  cases a with
  | nan => simp [addRat, toU64]
  | negInf => simp [addRat, toU64]
  | posInf => simp [toU64] at hsmall
  | finite q =>
    have hq : 0 ≤ q := by
      by_contra hneg
      exact h0 (by simp [lt, le]; constructor <;> linarith)
    have hdq : (1 : ℚ) ≤ d := by exact_mod_cast hd
    have htoU : (finite q).toU64 = ⌊q⌋.toNat := by
      simp only [toU64] at hsmall ⊢
      omega
    have hfloor : q < (⌊q⌋.toNat : ℚ) + 1 := by
      have hcast : ((⌊q⌋.toNat : ℤ) : ℚ) = ⌊q⌋ := by
        rw [Int.toNat_of_nonneg (Int.floor_nonneg.mpr hq)]
      have hlt := Int.lt_floor_add_one q
      rw [Int.cast_natCast] at hcast
      linarith
    have hround := roundRat_le (y := q + d) (by linarith)
    simp only [addRat]
    apply toU64_round_le
    rw [htoU]
    push_cast
    linarith

lemma toU64_ofInt_le {i : ℤ} (h : i < 2 ^ 63) : (ofInt i).toU64 ≤ 2 ^ 63 + 2 ^ 12 := by
  apply toU64_round_le
  have hq : (i : ℚ) < 2 ^ 63 := by exact_mod_cast h
  by_cases hpos : 1 ≤ i
  · have hround := roundRat_le (y := (i : ℚ)) (by exact_mod_cast hpos)
    push_cast
    linarith
  · have hneg : roundRat i ≤ 0 := roundRat_nonpos (by exact_mod_cast (by omega : i ≤ 0))
    exact hneg.trans (by positivity)

lemma abs_sub_roundEven (x : ℚ) : |roundEven x - x| ≤ 1 / 2 := by
  have hf : (⌊x⌋ : ℚ) ≤ x := Int.floor_le x
  have hlt : x < ⌊x⌋ + 1 := Int.lt_floor_add_one x
  simp only [roundEven]
  split_ifs <;> push_cast <;> rw [abs_le] <;> constructor <;> linarith

lemma normal_of_le {y : ℚ} (h : 1 / 2 ^ 64 ≤ y) : 2 ^ (-1022 : ℤ) ≤ y := by
  calc (2 : ℚ) ^ (-1022 : ℤ) ≤ 2 ^ (-64 : ℤ) := zpow_le_zpow_right₀ (by norm_num) (by norm_num)
    _ = 1 / 2 ^ 64 := by norm_num
    _ ≤ y := h

lemma abs_sub_roundRat {y : ℚ} (h : 2 ^ (-1022 : ℤ) ≤ y) : |roundRat y - y| ≤ y / 2 ^ 53 := by
  have hpos : 0 < y := lt_of_lt_of_le (by positivity) h
  have hlog : -1022 ≤ Int.log 2 y := by
    rwa [← Int.zpow_le_iff_le_log (by norm_num) hpos]
  have hulp : ulp y = 2 ^ (Int.log 2 y - 52) := by
    rw [ulp, abs_of_pos hpos, max_eq_left (by omega)]
  have hu := ulp_pos y
  have hle : 2 ^ 52 * ulp y ≤ y := by
    rw [hulp, ← zpow_natCast, ← zpow_add₀ (by norm_num)]
    have := Int.zpow_log_le_self (b := 2) (by norm_num) hpos
    push_cast at this ⊢
    rwa [add_sub_cancel]
  rw [roundRat, if_neg hpos.ne']
  have hsplit : roundEven (y / ulp y) * ulp y - y = (roundEven (y / ulp y) - y / ulp y) * ulp y := by
    field_simp
  rw [hsplit, abs_mul, abs_of_pos hu]
  have hhalf := abs_sub_roundEven (y / ulp y)
  have hmul : |roundEven (y / ulp y) - y / ulp y| * ulp y ≤ 1 / 2 * ulp y :=
    mul_le_mul_of_nonneg_right hhalf hu.le
  rw [le_div_iff₀ (by positivity)]
  linarith

lemma round_eq_finite {q : ℚ} (h0 : 0 ≤ roundRat q) (h : roundRat q < 2 ^ 64) :
    round q = .finite (roundRat q) := by
  obtain ⟨-, hbig⟩ | ⟨-, hneg⟩ | heq := round_cases q
  · linarith
  · linarith
  · exact heq

lemma minNum_finite (p q : ℚ) : minNum (.finite p) (.finite q) = .finite (p ⊓ q) := by
  simp only [minNum, le, decide_eq_true_eq]
  split_ifs with h
  · rw [inf_eq_left.2 h]
  · rw [inf_eq_right.2 (not_le.1 h).le]

end Binary64

end MediaServo.Foundations
