import Mathlib.Computability.RegularExpressions
import Mathlib.Tactic

/-! Regular expressions over a choice of characters, and what words they match. -/

namespace MediaServo.Foundations.Patterns

open RegularExpression

variable {α : Type} [DecidableEq α]

def oneOf (cs : List α) : RegularExpression α := cs.foldr (fun c p => char c + p) 0

def manyOf (cs : List α) : RegularExpression α := oneOf cs * star (oneOf cs)

def optional (p : RegularExpression α) : RegularExpression α := 1 + p

lemma oneOf_iff {cs w : List α} : (oneOf cs).rmatch w ↔ ∃ c ∈ cs, w = [c] := by
  induction cs with
  | nil =>
    change rmatch 0 w = true ↔ _
    rw [zero_rmatch]
    simp only [Bool.false_eq_true, List.not_mem_nil, false_and, exists_false]
  | cons c cs ih =>
    change rmatch (char c + oneOf cs) w = true ↔ _
    rw [add_rmatch_iff, char_rmatch_iff, ih]
    simp only [List.mem_cons, exists_eq_or_imp]

lemma star_oneOf_iff {cs w : List α} : (star (oneOf cs)).rmatch w ↔ ∀ c ∈ w, c ∈ cs := by
  rw [star_rmatch_iff]
  constructor
  · rintro ⟨ws, rfl, hws⟩ c hc
    obtain ⟨v, hv, hcv⟩ := List.mem_flatten.1 hc
    obtain ⟨d, hd, rfl⟩ := oneOf_iff.1 (hws v hv).2
    rwa [List.mem_singleton.1 hcv]
  · intro hall
    refine ⟨w.map fun c => [c], ?_, ?_⟩
    · induction w with
      | nil => rfl
      | cons c w ih =>
        rw [List.map_cons, List.flatten_cons, ← ih fun d hd => hall d (List.mem_cons_of_mem c hd)]
        rfl
    · intro v hv
      obtain ⟨c, hc, rfl⟩ := List.mem_map.1 hv
      exact ⟨List.cons_ne_nil c [], oneOf_iff.2 ⟨c, hall c hc, rfl⟩⟩

lemma manyOf_iff {cs w : List α} : (manyOf cs).rmatch w ↔ w ≠ [] ∧ ∀ c ∈ w, c ∈ cs := by
  rw [manyOf, mul_rmatch_iff]
  constructor
  · rintro ⟨t, u, rfl, ht, hu⟩
    obtain ⟨c, hc, rfl⟩ := oneOf_iff.1 ht
    exact ⟨List.cons_ne_nil c u, List.forall_mem_cons.2 ⟨hc, star_oneOf_iff.1 hu⟩⟩
  · rintro ⟨hne, hall⟩
    obtain ⟨c, u, rfl⟩ := List.exists_cons_of_ne_nil hne
    exact ⟨[c], u, rfl, oneOf_iff.2 ⟨c, hall c List.mem_cons_self, rfl⟩,
      star_oneOf_iff.2 fun d hd => hall d (List.mem_cons_of_mem c hd)⟩

lemma optional_iff {p : RegularExpression α} {w : List α} :
    (optional p).rmatch w ↔ w = [] ∨ p.rmatch w := by
  rw [optional, add_rmatch_iff, one_rmatch_iff]

end MediaServo.Foundations.Patterns
