import Mathlib.Tactic

/-! The Gregorian calendar, by the lengths of its months and years, and the number of a day. -/

namespace MediaServo.Foundations.Calendar

def isLeap (y : ℕ) : Bool := y % 4 = 0 && (y % 100 ≠ 0 || y % 400 = 0)

def monthLength (y : ℕ) : ℕ → ℕ
  | 2 => if isLeap y then 29 else 28
  | 4 | 6 | 9 | 11 => 30
  | _ => 31

def daysBefore (y m : ℕ) : ℕ := ∑ k ∈ Finset.Ico 1 m, monthLength y k

def yearLength (y : ℕ) : ℕ := daysBefore y 13

@[ext] structure Date where
  year : ℕ
  month : ℕ
  day : ℕ
  deriving DecidableEq

namespace Date

structure Valid (base : ℕ) (a : Date) : Prop where
  year : base ≤ a.year
  month : 1 ≤ a.month ∧ a.month ≤ 12
  day : 1 ≤ a.day ∧ a.day ≤ monthLength a.year a.month

def number (base : ℕ) (a : Date) : ℕ :=
  ∑ y ∈ Finset.Ico base a.year, yearLength y + daysBefore a.year a.month + (a.day - 1)

def Before (a b : Date) : Prop :=
  a.year < b.year ∨ a.year = b.year ∧ (a.month < b.month ∨ a.month = b.month ∧ a.day < b.day)

end Date

lemma daysBefore_succ (y : ℕ) {m : ℕ} (hm : 1 ≤ m) :
    daysBefore y (m + 1) = daysBefore y m + monthLength y m :=
  Finset.sum_Ico_succ_top hm _

lemma daysBefore_mono (y : ℕ) {m m' : ℕ} (h : m ≤ m') : daysBefore y m ≤ daysBefore y m' :=
  Finset.sum_le_sum_of_subset (Finset.Ico_subset_Ico (le_refl 1) h)

lemma yearLength_eq (y : ℕ) : yearLength y = if isLeap y then 366 else 365 := by
  rw [yearLength, daysBefore]
  simp only [Finset.sum_Ico_succ_top (show 1 ≤ 12 by omega), Finset.sum_Ico_succ_top, Nat.one_le_ofNat,
    monthLength]
  cases isLeap y <;> rfl

lemma day_in_year {base : ℕ} {a : Date} (ha : a.Valid base) :
    daysBefore a.year a.month + (a.day - 1) < daysBefore a.year (a.month + 1) := by
  rw [daysBefore_succ _ ha.month.1]
  have := ha.day
  omega

lemma number_lt_of_before {base : ℕ} {a b : Date} (ha : a.Valid base) (hb : b.Valid base)
    (h : a.Before b) : a.number base < b.number base := by
  have hday := day_in_year ha
  obtain hyear | ⟨hyear, hmonth | ⟨hmonth, hday'⟩⟩ := h
  · have hin : daysBefore a.year (a.month + 1) ≤ yearLength a.year :=
      daysBefore_mono _ (by have := ha.month; omega)
    have hsum : ∑ y ∈ Finset.Ico base a.year, yearLength y + yearLength a.year ≤
        ∑ y ∈ Finset.Ico base b.year, yearLength y := by
      rw [← Finset.sum_Ico_succ_top ha.year]
      exact Finset.sum_le_sum_of_subset (Finset.Ico_subset_Ico (le_refl base) hyear)
    rw [Date.number, Date.number]
    omega
  · have hin := daysBefore_mono a.year (show a.month + 1 ≤ b.month from hmonth)
    rw [Date.number, Date.number, ← hyear]
    omega
  · have := ha.day
    have := hb.day
    rw [Date.number, Date.number, ← hyear, ← hmonth]
    omega

lemma before_trichotomy (a b : Date) : a.Before b ∨ a = b ∨ b.Before a := by
  rw [Date.ext_iff, Date.Before, Date.Before]
  omega

lemma eq_of_number {base : ℕ} {a b : Date} (ha : a.Valid base) (hb : b.Valid base)
    (h : a.number base = b.number base) : a = b := by
  obtain hlt | heq | hgt := before_trichotomy a b
  · exact absurd h (number_lt_of_before ha hb hlt).ne
  · exact heq
  · exact absurd h (number_lt_of_before hb ha hgt).ne'

lemma before_of_number_lt {base : ℕ} {a b : Date} (ha : a.Valid base) (hb : b.Valid base)
    (h : a.number base < b.number base) : a.Before b := by
  obtain hlt | rfl | hgt := before_trichotomy a b
  · exact hlt
  · exact absurd h (lt_irrefl _)
  · exact absurd h (number_lt_of_before hb ha hgt).asymm

def leapsBefore (y : ℕ) : ℕ := (y + 3) / 4 - (y + 99) / 100 + (y + 399) / 400

lemma leapsBefore_succ (y : ℕ) : leapsBefore (y + 1) = leapsBefore y + if isLeap y then 1 else 0 := by
  have hfour : (y + 1 + 3) / 4 = (y + 3) / 4 + if y % 4 = 0 then 1 else 0 := by
    split <;> omega
  have hcentury : (y + 1 + 99) / 100 = (y + 99) / 100 + if y % 100 = 0 then 1 else 0 := by
    split <;> omega
  have hera : (y + 1 + 399) / 400 = (y + 399) / 400 + if y % 400 = 0 then 1 else 0 := by
    split <;> omega
  have hle : (y + 99) / 100 ≤ (y + 3) / 4 := by omega
  have hcycle : (y % 400 = 0 → y % 100 = 0) ∧ (y % 100 = 0 → y % 4 = 0) := by omega
  rw [leapsBefore, leapsBefore, hfour, hcentury, hera]
  simp only [isLeap, Bool.and_eq_true, Bool.or_eq_true, decide_eq_true_eq]
  by_cases h4 : y % 4 = 0 <;> by_cases h100 : y % 100 = 0 <;> by_cases h400 : y % 400 = 0 <;>
    simp only [h4, h100, h400, if_true, if_false, ne_eq, not_true, not_false_eq_true, or_self, or_true,
      and_true, and_false, or_false] at * <;> omega

lemma leapsBefore_mono : Monotone leapsBefore := by
  apply monotone_nat_of_le_succ
  intro y
  rw [leapsBefore_succ]
  omega

lemma years_sum {base y : ℕ} (h : base ≤ y) :
    ∑ k ∈ Finset.Ico base y, yearLength k + 365 * base + leapsBefore base = 365 * y + leapsBefore y := by
  induction y, h using Nat.le_induction with
  | base => rw [Finset.Ico_self, Finset.sum_empty, Nat.zero_add]
  | succ y h ih =>
    rw [Finset.sum_Ico_succ_top h, yearLength_eq, leapsBefore_succ]
    split <;> omega

lemma number_eq {base y m d : ℕ} (h : base ≤ y) : (Date.mk y m d).number base + 365 * base + leapsBefore base =
    365 * y + leapsBefore y + daysBefore y m + (d - 1) := by
  have hsum := years_sum h
  change ∑ k ∈ Finset.Ico base y, yearLength k + daysBefore y m + (d - 1) + 365 * base + leapsBefore base = _
  omega

end MediaServo.Foundations.Calendar
