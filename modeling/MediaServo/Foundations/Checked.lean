import Mathlib.Tactic

/-! Integer expressions of which every intermediate result has to fit a machine type, and the
intervals that tell so in advance. Then arithmetic on signed integers of 64 bits, in the two builds:
with checks it panics where a result does not fit, without them it wraps. -/

namespace MediaServo.Foundations.Checked

/-- The integers from one to another: the values of a type, or what is known of a variable. -/
structure Interval where
  lo : ℤ
  hi : ℤ
  deriving DecidableEq

namespace Interval

def i32 : Interval := ⟨-2 ^ 31, 2 ^ 31 - 1⟩

def u32 : Interval := ⟨0, 2 ^ 32 - 1⟩

def Contains (I : Interval) (n : ℤ) : Prop := I.lo ≤ n ∧ n ≤ I.hi

instance (I : Interval) (n : ℤ) : Decidable (I.Contains n) := inferInstanceAs (Decidable (_ ∧ _))

def Within (I J : Interval) : Prop := J.lo ≤ I.lo ∧ I.hi ≤ J.hi

instance (I J : Interval) : Decidable (I.Within J) := inferInstanceAs (Decidable (_ ∧ _))

def check (R : Interval) (n : ℤ) : Option ℤ := if R.Contains n then some n else none

def mul (I J : Interval) : Interval :=
  ⟨min (min (I.lo * J.lo) (I.lo * J.hi)) (min (I.hi * J.lo) (I.hi * J.hi)),
    max (max (I.lo * J.lo) (I.lo * J.hi)) (max (I.hi * J.lo) (I.hi * J.hi))⟩

lemma Within.contains {I J : Interval} (hsub : I.Within J) {n : ℤ} (hn : I.Contains n) : J.Contains n :=
  ⟨hsub.1.trans hn.1, hn.2.trans hsub.2⟩

lemma check_of_contains {R : Interval} {n : ℤ} (hn : R.Contains n) : R.check n = some n := if_pos hn

lemma mul_between (a : ℤ) {lo hi n : ℤ} (hlo : lo ≤ n) (hhi : n ≤ hi) :
    min (a * lo) (a * hi) ≤ a * n ∧ a * n ≤ max (a * lo) (a * hi) := by
  rcases le_total 0 a with ha | ha
  · have hl := mul_le_mul_of_nonneg_left hlo ha
    have hh := mul_le_mul_of_nonneg_left hhi ha
    omega
  · have hl := mul_le_mul_of_nonpos_left hlo ha
    have hh := mul_le_mul_of_nonpos_left hhi ha
    omega

lemma contains_mul {I J : Interval} {m n : ℤ} (hm : I.Contains m) (hn : J.Contains n) :
    (I.mul J).Contains (m * n) := by
  have hrow := mul_between n hm.1 hm.2
  have hlo := mul_between I.lo hn.1 hn.2
  have hhi := mul_between I.hi hn.1 hn.2
  rw [mul_comm n, mul_comm n, mul_comm n] at hrow
  simp only [mul, Contains]
  omega

end Interval

inductive Arith (ι : Type)
  | const (n : ℤ)
  | var (v : ι)
  | neg (a : Arith ι)
  | add (a b : Arith ι)
  | sub (a b : Arith ι)
  | mul (a b : Arith ι)
  | shr (a : Arith ι) (k : ℕ)
  deriving DecidableEq

namespace Arith

variable {ι : Type}

instance (n : ℕ) : OfNat (Arith ι) n := ⟨.const n⟩
instance : Neg (Arith ι) := ⟨.neg⟩
instance : Add (Arith ι) := ⟨.add⟩
instance : Sub (Arith ι) := ⟨.sub⟩
instance : Mul (Arith ι) := ⟨.mul⟩
instance : HShiftRight (Arith ι) ℕ (Arith ι) := ⟨.shr⟩

def value (env : ι → ℤ) : Arith ι → ℤ
  | .const n => n
  | .var v => env v
  | .neg a => -a.value env
  | .add a b => a.value env + b.value env
  | .sub a b => a.value env - b.value env
  | .mul a b => a.value env * b.value env
  | .shr a k => a.value env / 2 ^ k

def eval (R : Interval) (env : ι → ℤ) : Arith ι → Option ℤ
  | .const n => R.check n
  | .var v => R.check (env v)
  | .neg a => (a.eval R env).bind fun x => R.check (-x)
  | .add a b => (a.eval R env).bind fun x => (b.eval R env).bind fun y => R.check (x + y)
  | .sub a b => (a.eval R env).bind fun x => (b.eval R env).bind fun y => R.check (x - y)
  | .mul a b => (a.eval R env).bind fun x => (b.eval R env).bind fun y => R.check (x * y)
  | .shr a k => (a.eval R env).bind fun x => R.check (x / 2 ^ k)

def bounds (box : ι → Interval) : Arith ι → Interval
  | .const n => ⟨n, n⟩
  | .var v => box v
  | .neg a => ⟨-(a.bounds box).hi, -(a.bounds box).lo⟩
  | .add a b => ⟨(a.bounds box).lo + (b.bounds box).lo, (a.bounds box).hi + (b.bounds box).hi⟩
  | .sub a b => ⟨(a.bounds box).lo - (b.bounds box).hi, (a.bounds box).hi - (b.bounds box).lo⟩
  | .mul a b => (a.bounds box).mul (b.bounds box)
  | .shr a k => ⟨(a.bounds box).lo / 2 ^ k, (a.bounds box).hi / 2 ^ k⟩

def Fits (R : Interval) (box : ι → Interval) : Arith ι → Prop
  | .const n => R.Contains n
  | .var v => (box v).Within R
  | .neg a => a.Fits R box ∧ ((Arith.neg a).bounds box).Within R
  | .add a b => a.Fits R box ∧ b.Fits R box ∧ ((Arith.add a b).bounds box).Within R
  | .sub a b => a.Fits R box ∧ b.Fits R box ∧ ((Arith.sub a b).bounds box).Within R
  | .mul a b => a.Fits R box ∧ b.Fits R box ∧ ((Arith.mul a b).bounds box).Within R
  | .shr a k => a.Fits R box ∧ ((Arith.shr a k).bounds box).Within R

instance decidableFits (R : Interval) (box : ι → Interval) : (e : Arith ι) → Decidable (e.Fits R box)
  | .const n => inferInstanceAs (Decidable (R.Contains n))
  | .var v => inferInstanceAs (Decidable ((box v).Within R))
  | .neg a =>
      have := decidableFits R box a
      inferInstanceAs (Decidable (_ ∧ _))
  | .add a b | .sub a b | .mul a b =>
      have := decidableFits R box a
      have := decidableFits R box b
      inferInstanceAs (Decidable (_ ∧ _ ∧ _))
  | .shr a _ =>
      have := decidableFits R box a
      inferInstanceAs (Decidable (_ ∧ _))

variable {R : Interval} {box : ι → Interval} {env : ι → ℤ}

theorem contains_bounds (henv : ∀ v, (box v).Contains (env v)) (e : Arith ι) :
    (e.bounds box).Contains (e.value env) := by
  induction e with
  | const n => exact ⟨le_refl n, le_refl n⟩
  | var v => exact henv v
  | neg a ha => exact ⟨neg_le_neg ha.2, neg_le_neg ha.1⟩
  | add a b ha hb => exact ⟨add_le_add ha.1 hb.1, add_le_add ha.2 hb.2⟩
  | sub a b ha hb => exact ⟨sub_le_sub ha.1 hb.2, sub_le_sub ha.2 hb.1⟩
  | mul a b ha hb => exact Interval.contains_mul ha hb
  | shr a k ha => exact ⟨Int.ediv_le_ediv (by positivity) ha.1, Int.ediv_le_ediv (by positivity) ha.2⟩

/-- An expression whose intervals fit has its value, in every environment of the box. -/
theorem eval_eq_value (henv : ∀ v, (box v).Contains (env v)) {e : Arith ι} (hfits : e.Fits R box) :
    e.eval R env = some (e.value env) := by
  have hcheck {e : Arith ι} (hwithin : (e.bounds box).Within R) :
      R.check (e.value env) = some (e.value env) :=
    Interval.check_of_contains (hwithin.contains (contains_bounds henv e))
  induction e with
  | const n => exact Interval.check_of_contains hfits
  | var v => exact Interval.check_of_contains (hfits.contains (henv v))
  | neg a ha =>
    rw [eval, ha hfits.1, Option.bind_some]
    exact hcheck hfits.2
  | add a b ha hb =>
    rw [eval, ha hfits.1, hb hfits.2.1, Option.bind_some, Option.bind_some]
    exact hcheck hfits.2.2
  | sub a b ha hb =>
    rw [eval, ha hfits.1, hb hfits.2.1, Option.bind_some, Option.bind_some]
    exact hcheck hfits.2.2
  | mul a b ha hb =>
    rw [eval, ha hfits.1, hb hfits.2.1, Option.bind_some, Option.bind_some]
    exact hcheck hfits.2.2
  | shr a k ha =>
    rw [eval, ha hfits.1, Option.bind_some]
    exact hcheck hfits.2

end Arith

end MediaServo.Foundations.Checked

namespace MediaServo.Foundations.I64

inductive Fault
  | divideByZero
  | overflow
  deriving DecidableEq

def Fits (x : ℤ) : Prop := -2 ^ 63 ≤ x ∧ x < 2 ^ 63

instance (x : ℤ) : Decidable (Fits x) := inferInstanceAs (Decidable (_ ∧ _))

def wrap (x : ℤ) : ℤ := (x + 2 ^ 63) % 2 ^ 64 - 2 ^ 63

def result (checks : Bool) (x : ℤ) : Except Fault ℤ :=
  if Fits x then .ok x else if checks then .error .overflow else .ok (wrap x)

/-- Division, which panics on a zero in both builds. The only quotient that does not fit is not
reached by a positive number. -/
def quot (x y : ℤ) : Except Fault ℤ := if y = 0 then .error .divideByZero else .ok (x.tdiv y)

/-- The absolute value; that of the least number does not fit, and wraps to itself. -/
def abs (checks : Bool) (x : ℤ) : Except Fault ℤ := result checks |x|

lemma fits_wrap (x : ℤ) : Fits (wrap x) := by
  simp only [Fits, wrap]
  omega

lemma wrap_of_fits {x : ℤ} (h : Fits x) : wrap x = x := by
  simp only [Fits, wrap] at *
  omega

lemma exists_wrap (x : ℤ) : ∃ k, wrap x = x + 2 ^ 64 * k := by
  refine ⟨-((x + 2 ^ 63) / 2 ^ 64), ?_⟩
  simp only [wrap]
  omega

lemma wrap_wrap_add (x y : ℤ) : wrap (wrap x + y) = wrap (x + y) := by
  simp only [wrap]
  omega

lemma wrap_wrap_sub (x y : ℤ) : wrap (wrap x - y) = wrap (x - y) := by
  simp only [wrap]
  omega

lemma result_ok {checks : Bool} {x y : ℤ} (h : result checks x = .ok y) : y = wrap x := by
  rw [result] at h
  split_ifs at h with hx hc
  · rw [wrap_of_fits hx]
    exact (Except.ok.inj h).symm
  · exact (Except.ok.inj h).symm

lemma result_unchecked (x : ℤ) : result false x = .ok (wrap x) := by
  rw [result]
  split_ifs with hx
  · rw [wrap_of_fits hx]
  · contradiction
  · rfl

lemma result_checked_iff {x : ℤ} : (∃ y, result true x = .ok y) ↔ Fits x := by
  rw [result]
  by_cases hx : Fits x
  · simp [hx]
  · simp [hx]

lemma result_of_fits {checks : Bool} {x : ℤ} (h : Fits x) : result checks x = .ok x := by
  rw [result, if_pos h]

end MediaServo.Foundations.I64
