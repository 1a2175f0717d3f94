import Mathlib.Data.List.Basic
import Mathlib.Tactic

/-! Answers on a stream that carries no request number. A caller that waits reads the stream from
its head: each element it takes for its answer, passes over, or stops at. The origin of an element
is the request that it answers, which the caller cannot see. A stream is settled for a request when
reading it to the end takes no other's answer; `e` says what holds at a stream that has run out. -/

namespace MediaServo.Foundations

inductive Verdict
  | take
  | skip
  | stop
  deriving DecidableEq

variable {ι : Type} {own : ι} {e f : Prop} {l r : List (Option ι × Verdict)} {o : Option ι}
  {v w : Verdict}

def Settled (own : ι) (e : Prop) : List (Option ι × Verdict) → Prop
  | [] => e
  | (o, v) :: rest => (o = some own ∧ v ≠ .skip) ∨ v = .stop ∨ v = .skip ∧ Settled own e rest

def unclaimed : List (Option ι × Verdict) → Bool
  | [] => true
  | (_, .take) :: _ => false
  | (_, .stop) :: _ => true
  | (_, .skip) :: rest => unclaimed rest

lemma Settled.take_own (h : Settled own e ((o, .take) :: r)) : o = some own := by
  obtain ⟨h, _⟩ | h | ⟨h, _⟩ := h
  · exact h
  · cases h
  · cases h

lemma Settled.skip_rest (h : Settled own e ((o, .skip) :: r)) : Settled own e r := by
  obtain ⟨_, h⟩ | h | ⟨_, h⟩ := h
  · exact absurd rfl h
  · cases h
  · exact h

lemma Settled.mono (h : Settled own e l) (he : e → f) : Settled own f l := by
  induction l with
  | nil => exact he h
  | cons x l ih =>
    obtain h | h | ⟨h, hl⟩ := h
    · exact Or.inl h
    · exact Or.inr (Or.inl h)
    · exact Or.inr (Or.inr ⟨h, ih hl⟩)

lemma Settled.append (h : Settled own False l) (r : List (Option ι × Verdict)) :
    Settled own e (l ++ r) := by
  induction l with
  | nil => cases h
  | cons x l ih =>
    obtain h | h | ⟨h, hl⟩ := h
    · exact Or.inl h
    · exact Or.inr (Or.inl h)
    · exact Or.inr (Or.inr ⟨h, ih hl⟩)

lemma settled_of_unclaimed (h : unclaimed l) (hv : v ≠ .skip) :
    Settled own e (l ++ (some own, v) :: r) := by
  induction l with
  | nil => exact Or.inl ⟨rfl, hv⟩
  | cons x l ih =>
    obtain ⟨o, u⟩ := x
    cases u with
    | take => cases h
    | stop => exact Or.inr (Or.inl rfl)
    | skip => exact Or.inr (Or.inr ⟨rfl, ih h⟩)

lemma settled_of_dry (h : unclaimed l) (he : e) : Settled own e l := by
  induction l with
  | nil => exact he
  | cons x l ih =>
    obtain ⟨o, u⟩ := x
    cases u with
    | take => cases h
    | stop => exact Or.inr (Or.inl rfl)
    | skip => exact Or.inr (Or.inr ⟨rfl, ih h⟩)

lemma Settled.insert (h : Settled own e (l ++ r)) (hv : v ≠ .take) :
    Settled own e (l ++ (o, v) :: r) := by
  induction l with
  | nil =>
    cases v with
    | take => exact absurd rfl hv
    | skip => exact Or.inr (Or.inr ⟨rfl, h⟩)
    | stop => exact Or.inr (Or.inl rfl)
  | cons x l ih =>
    obtain h | h | ⟨h, hl⟩ := h
    · exact Or.inl h
    · exact Or.inr (Or.inl h)
    · exact Or.inr (Or.inr ⟨h, ih hl⟩)

lemma Settled.remove (h : Settled own e (l ++ (o, v) :: r)) (ho : o ≠ some own) (hv : v ≠ .stop) :
    Settled own e (l ++ r) := by
  induction l with
  | nil =>
    obtain ⟨h, _⟩ | h | ⟨_, h⟩ := h
    · exact absurd h ho
    · exact absurd h hv
    · exact h
  | cons x l ih =>
    obtain h | h | ⟨h, hl⟩ := h
    · exact Or.inl h
    · exact Or.inr (Or.inl h)
    · exact Or.inr (Or.inr ⟨h, ih hl⟩)

lemma Settled.replace (h : Settled own e (l ++ (o, v) :: r))
    (hv : v = .take ∧ w ≠ .skip ∨ v = .skip ∧ w ≠ .take) : Settled own e (l ++ (o, w) :: r) := by
  induction l with
  | nil =>
    obtain ⟨rfl, hw⟩ | ⟨rfl, hw⟩ := hv
    · exact Or.inl ⟨h.take_own, hw⟩
    · cases w with
      | take => exact absurd rfl hw
      | skip => exact Or.inr (Or.inr ⟨rfl, h.skip_rest⟩)
      | stop => exact Or.inr (Or.inl rfl)
  | cons x l ih =>
    obtain h | h | ⟨h, hl⟩ := h
    · exact Or.inl h
    · exact Or.inr (Or.inl h)
    · exact Or.inr (Or.inr ⟨h, ih hl⟩)

lemma Settled.cut (h : Settled own e (l ++ r)) : Settled own f (l ++ [(o, .stop)]) := by
  induction l with
  | nil => exact Or.inr (Or.inl rfl)
  | cons x l ih =>
    obtain h | h | ⟨h, hl⟩ := h
    · exact Or.inl h
    · exact Or.inr (Or.inl h)
    · exact Or.inr (Or.inr ⟨h, ih hl⟩)

lemma Settled.dry (h : Settled own e (l ++ r)) (he : f) : Settled own f l := by
  induction l with
  | nil => exact he
  | cons x l ih =>
    obtain h | h | ⟨h, hl⟩ := h
    · exact Or.inl h
    · exact Or.inr (Or.inl h)
    · exact Or.inr (Or.inr ⟨h, ih hl⟩)

end MediaServo.Foundations
