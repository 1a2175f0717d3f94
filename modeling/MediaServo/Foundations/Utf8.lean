import Mathlib.Data.List.Basic
import Mathlib.Tactic

/-! Texts and their bytes in UTF-8: white space, the bytes of a string, byte offsets into a text, and
the cut of a text at an offset, which fails inside a character. -/

namespace MediaServo.Foundations

-- What holds of each character of a text is decided along the text, never over all characters.
instance (priority := 1100) decidableForallChar (l : List Char) (p : Char → Prop) [DecidablePred p] :
    Decidable (∀ c ∈ l, p c) :=
  List.decidableBAll p l

def isWhitespace (ch : Char) : Bool :=
  let n := ch.toNat
  (9 ≤ n && n ≤ 13) || n == 0x20 || n == 0x85 || n == 0xA0 || n == 0x1680 ||
    (0x2000 ≤ n && n ≤ 0x200A) || n == 0x2028 || n == 0x2029 || n == 0x202F || n == 0x205F ||
    n == 0x3000

section Bytes

def asBytes (s : String) : List UInt8 := s.toUTF8.data.toList

def fromUtf8 (b : List UInt8) : Option String := String.fromUTF8? ⟨b.toArray⟩

lemma asBytes_injective : Function.Injective asBytes := by
  intro s t h
  apply String.toByteArray_inj.mp
  apply ByteArray.ext
  exact Array.toList_inj.mp h

lemma asBytes_append (s t : String) : asBytes (s ++ t) = asBytes s ++ asBytes t := by
  simp [asBytes]

lemma fromUtf8_asBytes (s : String) : fromUtf8 (asBytes s) = some s := by
  have hvalid : s.toUTF8.IsValidUTF8 := s.isValidUTF8
  simp only [fromUtf8, asBytes, String.fromUTF8?, Array.toArray_toList]
  exact dif_pos hvalid

lemma asBytes_of_fromUtf8 {b : List UInt8} {s : String} (h : fromUtf8 b = some s) : asBytes s = b := by
  simp only [fromUtf8, String.fromUTF8?, Option.dite_none_right_eq_some, Option.some.injEq] at h
  obtain ⟨_, rfl⟩ := h
  rfl

end Bytes

def byteLength (l : List Char) : ℕ := (l.map Char.utf8Size).sum

def sliceTo : List Char → ℕ → Option (List Char)
  | _, 0 => some []
  | [], _ + 1 => none
  | c :: cs, n + 1 => if c.utf8Size ≤ n + 1 then (sliceTo cs (n + 1 - c.utf8Size)).map (c :: ·) else none

def CharBoundary (l : List Char) (n : ℕ) : Prop := ∃ pre suf, l = pre ++ suf ∧ byteLength pre = n

variable {l pre : List Char} {n : ℕ} {c : Char}

lemma byteLength_cons : byteLength (c :: l) = c.utf8Size + byteLength l := by simp [byteLength]

lemma eq_nil_of_byteLength (h : byteLength pre = 0) : pre = [] := by
  cases pre with
  | nil => rfl
  | cons c cs =>
    have := c.utf8Size_pos
    rw [byteLength_cons] at h
    omega

lemma sliceTo_eq_some : sliceTo l n = some pre ↔ (∃ suf, l = pre ++ suf) ∧ byteLength pre = n := by
  induction l generalizing n pre with
  | nil =>
    cases n with
    | zero =>
      simp only [sliceTo, Option.some.injEq]
      constructor
      · intro h
        subst h
        exact ⟨⟨[], rfl⟩, rfl⟩
      · exact fun h => (eq_nil_of_byteLength h.2).symm
    | succ n =>
      simp only [sliceTo, reduceCtorEq, false_iff]
      intro ⟨⟨suf, h⟩, hn⟩
      have hpre : pre = [] := (List.append_eq_nil_iff.mp h.symm).1
      subst hpre
      cases hn
  | cons c cs ih =>
    cases n with
    | zero =>
      simp only [sliceTo, Option.some.injEq]
      constructor
      · intro h
        subst h
        exact ⟨⟨c :: cs, rfl⟩, rfl⟩
      · exact fun h => (eq_nil_of_byteLength h.2).symm
    | succ n =>
      have hpos := c.utf8Size_pos
      simp only [sliceTo]
      constructor
      · intro h
        split at h
        · next hc =>
          obtain ⟨p, hp, rfl⟩ := Option.map_eq_some_iff.mp h
          obtain ⟨⟨suf, rfl⟩, hn⟩ := ih.mp hp
          refine ⟨⟨suf, rfl⟩, ?_⟩
          rw [byteLength_cons, hn]
          omega
        · cases h
      · intro ⟨⟨suf, h⟩, hn⟩
        cases pre with
        | nil => cases hn
        | cons d p =>
          rw [List.cons_append, List.cons.injEq] at h
          obtain ⟨rfl, h⟩ := h
          rw [byteLength_cons] at hn
          rw [if_pos (by omega), ih.mpr ⟨⟨suf, h⟩, by omega⟩]
          rfl

lemma sliceTo_isSome : (sliceTo l n).isSome ↔ CharBoundary l n := by
  rw [Option.isSome_iff_exists]
  constructor
  · intro ⟨pre, h⟩
    obtain ⟨⟨suf, hl⟩, hn⟩ := sliceTo_eq_some.1 h
    exact ⟨pre, suf, hl, hn⟩
  · intro ⟨pre, suf, hl, hn⟩
    exact ⟨pre, sliceTo_eq_some.2 ⟨⟨suf, hl⟩, hn⟩⟩

end MediaServo.Foundations
