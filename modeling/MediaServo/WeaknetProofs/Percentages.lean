import Mathlib.Data.List.TakeWhile
import MediaServo.Foundations.Patterns
import MediaServo.Weaknet.Spec

/-! The texts that are taken for a percentage: those of a pattern, up to a hundred. -/

namespace MediaServo.Weaknet

open MediaServo.Foundations
open MediaServo.Foundations.Patterns
open RegularExpression

def parsePctExact : String → Option ℚ := scanPct decimalValue (· ≤ 100)

def digitChars : List Char := "0123456789".toList

def pctPattern : RegularExpression Char :=
  (char '1' * char '0' * char '0' + oneOf digitChars * optional (oneOf digitChars)) *
    optional (char '.' * manyOf digitChars) * optional (char '%')

lemma isDigit_iff {c : Char} : c.isDigit ↔ c ∈ digitChars := by
  constructor
  · intro hc
    have hrange : 48 ≤ c.toNat ∧ c.toNat ≤ 57 := Char.isDigit_iff_toNat.1 hc
    rw [← Char.ofNat_toNat c]
    obtain ⟨n, hn⟩ : ∃ n, c.toNat = n := ⟨_, rfl⟩
    rw [hn] at hrange ⊢
    obtain ⟨hlo, hhi⟩ := hrange
    interval_cases n <;> decide
  · have hall : ∀ c ∈ digitChars, c.isDigit := by decide
    exact hall c

lemma digits_iff {l : List Char} : digits l ↔ ∀ c ∈ l, c ∈ digitChars := by
  simp only [digits, List.all_eq_true, isDigit_iff]

structure PctParts (int frac sign l : List Char) : Prop where
  text : l = int ++ (frac ++ sign)
  int : int = ['1', '0', '0'] ∨ digits int ∧ (int.length = 1 ∨ int.length = 2)
  frac : frac = [] ∨ ∃ f, frac = '.' :: f ∧ f ≠ [] ∧ digits f
  sign : sign = [] ∨ sign = ['%']

lemma pctPattern_iff {l : List Char} : pctPattern.rmatch l ↔ ∃ int frac sign, PctParts int frac sign l := by
  have hint (w : List Char) : (char '1' * char '0' * char '0' + oneOf digitChars *
      optional (oneOf digitChars)).rmatch w ↔
        w = ['1', '0', '0'] ∨ digits w ∧ (w.length = 1 ∨ w.length = 2) := by
    rw [add_rmatch_iff]
    apply or_congr
    · simp only [mul_rmatch_iff, char_rmatch_iff]
      constructor
      · rintro ⟨t, u, rfl, ⟨a, b, rfl, rfl, rfl⟩, rfl⟩
        rfl
      · rintro rfl
        exact ⟨['1', '0'], ['0'], rfl, ⟨['1'], ['0'], rfl, rfl, rfl⟩, rfl⟩
    · simp only [mul_rmatch_iff, optional_iff, oneOf_iff, digits_iff]
      constructor
      · rintro ⟨t, u, rfl, ⟨c, hc, rfl⟩, rfl | ⟨d, hd, rfl⟩⟩
        · exact ⟨by simpa using hc, .inl rfl⟩
        · exact ⟨by simpa using ⟨hc, hd⟩, .inr rfl⟩
      · rintro ⟨hall, hlen | hlen⟩
        · obtain ⟨c, rfl⟩ := List.length_eq_one_iff.1 hlen
          exact ⟨[c], [], rfl, ⟨c, hall c List.mem_cons_self, rfl⟩, .inl rfl⟩
        · obtain ⟨c, d, rfl⟩ := List.length_eq_two.1 hlen
          exact ⟨[c], [d], rfl, ⟨c, hall c (by simp), rfl⟩, .inr ⟨d, hall d (by simp), rfl⟩⟩
  have hfrac (w : List Char) : (optional (char '.' * manyOf digitChars)).rmatch w ↔
      w = [] ∨ ∃ f, w = '.' :: f ∧ f ≠ [] ∧ digits f := by
    rw [optional_iff]
    simp only [mul_rmatch_iff, char_rmatch_iff, manyOf_iff, digits_iff]
    apply or_congr_right
    constructor
    · rintro ⟨t, f, rfl, rfl, hne, hall⟩
      exact ⟨f, rfl, hne, hall⟩
    · rintro ⟨f, rfl, hne, hall⟩
      exact ⟨['.'], f, rfl, rfl, hne, hall⟩
  have hsign (w : List Char) : (optional (char '%')).rmatch w ↔ w = [] ∨ w = ['%'] := by
    rw [optional_iff, char_rmatch_iff]
  rw [pctPattern, mul_rmatch_iff]
  constructor
  · rintro ⟨t, sign, rfl, ht, hs⟩
    obtain ⟨int, frac, rfl, hi, hf⟩ := (mul_rmatch_iff _ _ _).1 ht
    exact ⟨int, frac, sign, List.append_assoc _ _ _, (hint _).1 hi, (hfrac _).1 hf, (hsign _).1 hs⟩
  · rintro ⟨int, frac, sign, rfl, hi, hf, hs⟩
    exact ⟨int ++ frac, sign, (List.append_assoc _ _ _).symm,
      (mul_rmatch_iff _ _ _).2 ⟨int, frac, rfl, (hint _).2 hi, (hfrac _).2 hf⟩, (hsign _).2 hs⟩

section Parts

variable {int frac sign l : List Char}

lemma PctParts.digits_int (h : PctParts int frac sign l) : digits int := by
  rcases h.int with rfl | hint
  · decide
  · exact hint.1

lemma PctParts.point_not_mem (h : PctParts int frac sign l) : '.' ∉ int := fun hmem =>
  absurd (List.all_eq_true.1 h.digits_int '.' hmem) (by decide)

lemma PctParts.sign_not_mem (h : PctParts int frac sign l) : '%' ∉ int ++ frac := by
  intro hmem
  rcases List.mem_append.1 hmem with hmem | hmem
  · exact absurd (List.all_eq_true.1 h.digits_int '%' hmem) (by decide)
  · rcases h.frac with rfl | ⟨f, rfl, -, hf⟩
    · exact List.not_mem_nil hmem
    · rcases List.mem_cons.1 hmem with heq | hmem
      · exact absurd heq (by decide)
      · exact absurd (List.all_eq_true.1 hf '%' hmem) (by decide)

lemma PctParts.strip (h : PctParts int frac sign l) : stripPct l = int ++ frac := by
  rw [h.text, ← List.append_assoc]
  rcases h.sign with rfl | rfl
  · rw [List.append_nil, stripPct, if_neg fun hlast => h.sign_not_mem (List.mem_of_getLast? hlast)]
  · rw [stripPct, if_pos List.getLast?_concat, List.dropLast_concat]

lemma PctParts.split (h : PctParts int frac sign l) :
    splitPoint (int ++ frac) = (int, if frac = [] then none else some (frac.drop 1)) := by
  have hint : ∀ c ∈ int, decide (c ≠ '.') = true := fun c hc =>
    decide_eq_true fun heq => h.point_not_mem (heq ▸ hc)
  rcases h.frac with rfl | ⟨f, rfl, -, -⟩
  · rw [List.append_nil, if_pos rfl, splitPoint, List.takeWhile_eq_self_iff.2 hint,
      if_neg h.point_not_mem]
  · rw [splitPoint, List.takeWhile_append_of_pos hint, List.dropWhile_append_of_pos hint,
      if_pos (List.mem_append_right _ List.mem_cons_self), if_neg (List.cons_ne_nil _ _)]
    simp only [ne_eq, not_true, decide_false, Bool.false_eq_true, not_false_eq_true,
      List.takeWhile_cons_of_neg, List.append_nil, List.dropWhile_cons_of_neg]

lemma exists_sign (l : List Char) : ∃ sign, (sign = [] ∨ sign = ['%']) ∧ l = stripPct l ++ sign := by
  rw [stripPct]
  split_ifs with hlast
  · exact ⟨['%'], .inr rfl, (List.dropLast_append_getLast? '%' hlast).symm⟩
  · exact ⟨[], .inl rfl, (List.append_nil l).symm⟩

lemma splitPoint_join (l : List Char) :
    l = (splitPoint l).1 ++ ((splitPoint l).2.elim [] fun f => '.' :: f) := by
  conv_lhs => rw [← List.takeWhile_append_dropWhile (p := fun c => decide (c ≠ '.')) (l := l)]
  rw [splitPoint]
  apply congrArg
  split_ifs with hmem
  · have hne : l.dropWhile (fun c => decide (c ≠ '.')) ≠ [] := by
      rw [ne_eq, List.dropWhile_eq_nil_iff]
      intro hall
      exact absurd (hall '.' hmem) (by decide)
    obtain ⟨c, rest, hrest⟩ := List.exists_cons_of_ne_nil hne
    have hc : decide (c ≠ '.') = false := by
      have hhead := List.head_dropWhile_not (fun c => decide (c ≠ '.')) hne
      simpa only [hrest, List.head_cons] using hhead
    rw [hrest, not_not.1 (of_decide_eq_false hc)]
    rfl
  · exact List.dropWhile_eq_nil_iff.2 fun c hc => decide_eq_true fun heq => hmem (heq ▸ hc)

end Parts

lemma scanPct_iff {α : Type} {parse : List Char → α} {bounded : α → Bool} {s : String} {v : α} :
    scanPct parse bounded s = some v ↔
    ((splitPoint (stripPct s.toList)).1 ≠ [] ∧ (splitPoint (stripPct s.toList)).1.length ≤ 3 ∧
      digits (splitPoint (stripPct s.toList)).1) ∧
    (∀ f ∈ (splitPoint (stripPct s.toList)).2, f ≠ [] ∧ digits f) ∧
    ((splitPoint (stripPct s.toList)).1.length ≤ 2 ∨
      (splitPoint (stripPct s.toList)).1 = ['1', '0', '0']) ∧
    bounded (parse (stripPct s.toList)) ∧ parse (stripPct s.toList) = v := by
  rw [scanPct]
  obtain ⟨int, frac⟩ := splitPoint (stripPct s.toList)
  simp only [List.isEmpty_iff]
  split_ifs with hint hfrac hlen hle
  · constructor
    · intro h
      cases h
    · rintro ⟨⟨hne, hthree, hdigits⟩, -⟩
      rcases hint with rfl | hlt | hnot
      · exact absurd rfl hne
      · omega
      · exact absurd hdigits hnot
  · constructor
    · intro h
      cases h
    · rintro ⟨-, hall, -⟩
      cases frac with
      | none => exact absurd hfrac Bool.false_ne_true
      | some f =>
        obtain ⟨hne, hdigits⟩ := hall f rfl
        simp only [Option.any_some, Bool.or_eq_true, List.isEmpty_iff, hne, hdigits, Bool.not_true,
          Bool.false_eq_true, or_self] at hfrac
  · constructor
    · intro h
      cases h
    · rintro ⟨-, -, hshort | hhundred, -⟩
      · exact absurd hlen.1 (Nat.not_lt.2 hshort)
      · exact absurd hhundred hlen.2
  · rw [Option.some.injEq]
    push Not at hint hlen
    refine ⟨fun h => ⟨hint, fun f hf => ?_, ?_, hle, h⟩, fun h => h.2.2.2.2⟩
    · rw [Option.mem_def.1 hf] at hfrac
      simpa only [Option.any_some, Bool.or_eq_true, List.isEmpty_iff, Bool.not_eq_true', not_or,
        Bool.not_eq_false] using hfrac
    · by_cases hshort : int.length ≤ 2
      · exact .inl hshort
      · exact .inr (hlen (Nat.not_le.1 hshort))
  · constructor
    · intro h
      cases h
    · exact fun h => absurd h.2.2.2.1 hle

lemma parsePctExact_iff {s : String} {v : ℚ} : parsePctExact s = some v ↔
    ((splitPoint (stripPct s.toList)).1 ≠ [] ∧ (splitPoint (stripPct s.toList)).1.length ≤ 3 ∧
      digits (splitPoint (stripPct s.toList)).1) ∧
    (∀ f ∈ (splitPoint (stripPct s.toList)).2, f ≠ [] ∧ digits f) ∧
    ((splitPoint (stripPct s.toList)).1.length ≤ 2 ∨
      (splitPoint (stripPct s.toList)).1 = ['1', '0', '0']) ∧
    decimalValue (stripPct s.toList) ≤ 100 ∧ decimalValue (stripPct s.toList) = v := by
  rw [parsePctExact, scanPct_iff, decide_eq_true_iff]

lemma roundRat_le_hundred {q : ℚ} (h : q ≤ 100) : Binary64.roundRat q ≤ 100 := by
  rcases le_or_gt q 0 with hneg | hpos
  · exact (Binary64.roundRat_nonpos hneg).trans (by norm_num)
  rcases le_or_gt 1 q with hone | hsmall
  · have hround := Binary64.roundRat_mono hone h
    have hdouble : (Binary64.finite 100).IsDouble := ⟨100, 0, by norm_num, by norm_num, by norm_num⟩
    rwa [Binary64.roundRat_of_isDouble hdouble] at hround
  -- below one, rounding moves a number by at most one
  have hlog : Int.log 2 |q| ≤ 0 := by
    have hone : Int.log 2 (1 : ℚ) = 0 := Int.log_one_right 2
    rw [abs_of_pos hpos, ← hone]
    exact Int.log_mono_right hpos hsmall.le
  have hulp : Binary64.ulp q ≤ 1 := by
    rw [Binary64.ulp, ← zpow_zero (2 : ℚ)]
    exact zpow_le_zpow_right₀ (by norm_num) (by omega)
  have hu := Binary64.ulp_pos q
  calc Binary64.roundRat q = Binary64.roundEven (q / Binary64.ulp q) * Binary64.ulp q := by
        rw [Binary64.roundRat, if_neg hpos.ne']
    _ ≤ (q / Binary64.ulp q + 1) * Binary64.ulp q :=
        mul_le_mul_of_nonneg_right (Binary64.roundEven_le_add_one _) hu.le
    _ = q + Binary64.ulp q := by rw [add_mul, div_mul_cancel₀ _ hu.ne', one_mul]
    _ ≤ 100 := by linarith

lemma parsePctBounded_of_exact {s : String} {v : ℚ} (h : parsePctExact s = some v) :
    parsePctBounded s = some (Binary64.round v) := by
  obtain ⟨⟨hne, hthree, hdigits⟩, hfrac, hlen, hle, rfl⟩ := parsePctExact_iff.1 h
  have hround : (Binary64.round (decimalValue (stripPct s.toList))).le (.finite 100) := by
    have hbound := roundRat_le_hundred hle
    obtain ⟨-, hbig⟩ | ⟨heq, -⟩ | heq := Binary64.round_cases (decimalValue (stripPct s.toList))
    · linarith
    · rw [heq]
      rfl
    · rw [heq]
      exact decide_eq_true hbound
  exact scanPct_iff.2 ⟨⟨hne, hthree, hdigits⟩, hfrac, hlen, hround, rfl⟩

/-- Exactly the texts of the pattern up to a hundred are taken for a percentage, and each is read as
the double nearest to it. -/
theorem pct_grammar (s : String) : ((∃ v, parsePctExact s = some v) ↔
    pctPattern.rmatch s.toList ∧ decimalValue (stripPct s.toList) ≤ 100) ∧
      ∀ v, parsePctExact s = some v → parsePctBounded s = some (Binary64.round v) := by
  refine ⟨?_, fun v => parsePctBounded_of_exact⟩
  rw [pctPattern_iff]
  constructor
  · rintro ⟨v, hv⟩
    obtain ⟨⟨hne, -, hdigits⟩, hfrac, hlen, hle, -⟩ := parsePctExact_iff.1 hv
    obtain ⟨sign, hsign, htext⟩ := exists_sign s.toList
    refine ⟨⟨(splitPoint (stripPct s.toList)).1,
      (splitPoint (stripPct s.toList)).2.elim [] fun f => '.' :: f, sign, ?_, ?_, ?_, hsign⟩, hle⟩
    · rw [← List.append_assoc, ← splitPoint_join, ← htext]
    · rcases hlen with hlen | hlen
      · have := List.length_pos_iff.2 hne
        exact .inr ⟨hdigits, by omega⟩
      · exact .inl hlen
    · cases hpart : (splitPoint (stripPct s.toList)).2 with
      | none => exact .inl rfl
      | some f => exact .inr ⟨f, rfl, hfrac f hpart⟩
  · rintro ⟨⟨int, frac, sign, hparts⟩, hle⟩
    refine ⟨_, parsePctExact_iff.2 ⟨?_, ?_, ?_, hle, rfl⟩⟩
    all_goals rw [hparts.strip, hparts.split]
    · refine ⟨?_, ?_, hparts.digits_int⟩
      · rcases hparts.int with rfl | ⟨-, hlen⟩
        · exact List.cons_ne_nil _ _
        · rintro rfl
          exact absurd hlen (by decide)
      · rcases hparts.int with rfl | ⟨-, hlen⟩
        · exact le_refl 3
        · simp only
          omega
    · intro f hf
      rcases hparts.frac with rfl | ⟨g, rfl, hg⟩
      · cases hf
      · cases hf
        exact hg
    · rcases hparts.int with rfl | ⟨-, hlen⟩
      · exact .inr rfl
      · simp only
        omega

end MediaServo.Weaknet
