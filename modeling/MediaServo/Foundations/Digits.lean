import Mathlib.Data.String.Basic
import Mathlib.Tactic

/-! Numbers in decimal digits, padded to a width, and the order of such texts; bytes in hexadecimal
digits, and numbers of a fixed width as bytes, the least significant byte first. -/

namespace MediaServo.Foundations.Digits

def zeroPad (w n : ℕ) : List Char :=
  List.replicate (w - (Nat.toDigits 10 n).length) '0' ++ Nat.toDigits 10 n

def zeroPadInt (w : ℕ) : ℤ → List Char
  | .ofNat n => zeroPad w n
  | .negSucc n => '-' :: zeroPad (w - 1) (n + 1)

lemma isDigit_of_mem_zeroPad {w n : ℕ} {c : Char} (hc : c ∈ zeroPad w n) : c.isDigit := by
  rcases List.mem_append.1 hc with hc | hc
  · rw [List.eq_of_mem_replicate hc]
    rfl
  · exact Nat.isDigit_of_mem_toDigits (by decide) (by decide) hc

lemma zeroPad_inj {w m n : ℕ} (h : zeroPad w m = zeroPad w n) : m = n := by
  have hvalue (n : ℕ) : Nat.ofDigitChars 10 (zeroPad w n) 0 = n := by
    rw [zeroPad, Nat.ofDigitChars_append, Nat.ofDigitChars_replicate_zero, Nat.mul_zero,
      Nat.ofDigitChars_toDigits (by decide) (by decide)]
  rw [← hvalue m, h, hvalue]

lemma zeroPad_length {w n : ℕ} (hw : 0 < w) (hn : n < 10 ^ w) : (zeroPad w n).length = w := by
  have := (Nat.length_toDigits_le_iff (by decide) hw).2 hn
  rw [zeroPad, List.length_append, List.length_replicate]
  omega

lemma zeroPad_succ {w n : ℕ} (hw : 0 < w) (hn : n < 10 ^ (w + 1)) :
    zeroPad (w + 1) n = zeroPad w (n / 10) ++ [Nat.digitChar (n % 10)] := by
  by_cases hlt : n < 10
  · obtain ⟨k, rfl⟩ : ∃ k, w = k + 1 := ⟨w - 1, by omega⟩
    rw [zeroPad, zeroPad, Nat.toDigits_of_lt_base hlt, Nat.div_eq_of_lt hlt, Nat.mod_eq_of_lt hlt,
      Nat.toDigits_zero]
    simp only [List.length_singleton, Nat.add_sub_cancel, ← List.replicate_succ']
  · rw [zeroPad, zeroPad, Nat.toDigits_of_base_le (by decide) (Nat.le_of_not_lt hlt),
      List.length_append, List.length_singleton, Nat.add_sub_add_right, List.append_assoc]

lemma lt_append {l l' : List Char} (hlen : l.length = l'.length) (h : l < l') (s s' : List Char) :
    l ++ s < l' ++ s' := by
  induction l generalizing l' with
  | nil =>
    rw [List.eq_nil_of_length_eq_zero hlen.symm] at h
    exact absurd h (List.lt_irrefl _)
  | cons a l ih =>
    cases l' with
    | nil => exact absurd h (List.not_lt_nil _)
    | cons b l' =>
      rw [List.cons_append, List.cons_append, List.cons_lt_cons_iff]
      rcases List.cons_lt_cons_iff.1 h with hab | ⟨hab, hl⟩
      · exact .inl hab
      · exact .inr ⟨hab, ih (Nat.succ.inj hlen) hl⟩

lemma append_lt (l : List Char) {s s' : List Char} (h : s < s') : l ++ s < l ++ s' := by
  induction l with
  | nil => exact h
  | cons a l ih => exact List.cons_lt_cons_iff.2 (.inr ⟨rfl, ih⟩)

lemma digitChar_lt : ∀ i < 10, ∀ j < 10, i < j → Nat.digitChar i < Nat.digitChar j := by decide

lemma zeroPad_lt {w m n : ℕ} (hw : 0 < w) (hn : n < 10 ^ w) (h : m < n) : zeroPad w m < zeroPad w n := by
  induction w, hw using Nat.le_induction generalizing m n with
  | base =>
    have hpad (k : ℕ) (hk : k < 10) : zeroPad 1 k = [Nat.digitChar k] := by
      rw [zeroPad, Nat.toDigits_of_lt_base hk]
      rfl
    rw [hpad m (by omega), hpad n (by omega)]
    exact List.cons_lt_cons_iff.2 (.inl (digitChar_lt m (by omega) n (by omega) h))
  | succ w hw ih =>
    have hpow : 10 ^ (w + 1) = 10 ^ w * 10 := pow_succ 10 w
    rw [zeroPad_succ hw (by omega), zeroPad_succ hw hn]
    by_cases hhead : m / 10 < n / 10
    · apply lt_append _ (ih (by omega) hhead)
      rw [zeroPad_length hw (by omega), zeroPad_length hw (by omega)]
    · have heq : m / 10 = n / 10 := by omega
      rw [heq]
      apply append_lt
      exact List.cons_lt_cons_iff.2
        (.inl (digitChar_lt _ (by omega) _ (by omega) (by omega)))

lemma field_lt {w m n : ℕ} {c : Char} {s s' : List Char} (hw : 0 < w) (hn : n < 10 ^ w)
    (h : m < n ∨ m = n ∧ s < s') : zeroPad w m ++ c :: s < zeroPad w n ++ c :: s' := by
  rcases h with hlt | ⟨rfl, hs⟩
  · apply lt_append _ (zeroPad_lt hw hn hlt)
    rw [zeroPad_length hw (hlt.trans hn), zeroPad_length hw hn]
  · exact append_lt _ (List.cons_lt_cons_iff.2 (.inr ⟨rfl, hs⟩))

lemma field_inj {w m n : ℕ} {c : Char} {s s' : List Char} (hc : ¬c.isDigit)
    (h : zeroPad w m ++ c :: s = zeroPad w n ++ c :: s') : m = n ∧ s = s' := by
  have hpad : zeroPad w m = zeroPad w n := by
    have htake := congrArg (List.takeWhile Char.isDigit) h
    have hfield (k : ℕ) (s : List Char) : (zeroPad w k ++ c :: s).takeWhile Char.isDigit = zeroPad w k := by
      rw [List.takeWhile_append_of_pos fun _ => isDigit_of_mem_zeroPad, List.takeWhile_cons_of_neg hc,
        List.append_nil]
    rwa [hfield, hfield] at htake
  rw [hpad] at h
  exact ⟨zeroPad_inj hpad, (List.cons.inj (List.append_cancel_left h)).2⟩

section Reading

def value? (cs : List Char) : Option ℕ :=
  if cs ≠ [] ∧ cs.all Char.isDigit then some (Nat.ofDigitChars 10 cs 0) else none

def readUnsigned (bound : ℕ) : List Char → Option ℕ
  | '+' :: cs => (value? cs).filter (· < bound)
  | cs => (value? cs).filter (· < bound)

def readI64 : List Char → Option ℤ
  | '-' :: cs => ((value? cs).filter (· ≤ 2 ^ 63)).map fun (n : ℕ) => -(n : ℤ)
  | cs => (readUnsigned (2 ^ 63) cs).map fun (n : ℕ) => (n : ℤ)

def hexValue (c : Char) : Option ℕ :=
  if c.isDigit then some (c.toNat - '0'.toNat)
  else if 'a' ≤ c ∧ c ≤ 'f' then some (c.toNat - 'a'.toNat + 10)
  else if 'A' ≤ c ∧ c ≤ 'F' then some (c.toNat - 'A'.toNat + 10)
  else none

def hexByte (b : UInt8) : List Char := [Nat.digitChar (b.toNat / 16), Nat.digitChar (b.toNat % 16)]

def hex (bs : List UInt8) : String := String.ofList (bs.flatMap hexByte)

def textOfInt : ℤ → List Char
  | .ofNat n => Nat.toDigits 10 n
  | .negSucc n => '-' :: Nat.toDigits 10 (n + 1)

lemma hexValue_digitChar {n : ℕ} (h : n < 16) : hexValue (Nat.digitChar n) = some n := by
  revert n
  decide

lemma digitChar_injOn {m n : ℕ} (hm : m < 16) (hn : n < 16) (h : m.digitChar = n.digitChar) :
    m = n := by
  have key : ∀ a b : Fin 16, a.val.digitChar = b.val.digitChar → a = b := by decide
  exact congrArg Fin.val (key ⟨m, hm⟩ ⟨n, hn⟩ h)

lemma hexByte_injective : Function.Injective hexByte := by
  intro a b h
  have ha := a.toNat_lt
  have hb := b.toNat_lt
  simp only [hexByte, List.cons.injEq, and_true] at h
  have hq := digitChar_injOn (by omega) (by omega) h.1
  have hr := digitChar_injOn (by omega) (by omega) h.2
  apply UInt8.toNat_inj.mp
  omega

lemma hex_injective : Function.Injective hex := by
  intro a b h
  replace h := String.ofList_injective h
  induction a generalizing b with
  | nil =>
    cases b with
    | nil => rfl
    | cons y b => simp [hexByte] at h
  | cons x a ih =>
    cases b with
    | nil => simp [hexByte] at h
    | cons y b =>
      rw [List.flatMap_cons, List.flatMap_cons] at h
      obtain ⟨hx, hl⟩ := List.append_inj h rfl
      rw [hexByte_injective hx, ih hl]

lemma value?_toDigits (n : ℕ) : value? (Nat.toDigits 10 n) = some n := by
  have hall : (Nat.toDigits 10 n).all Char.isDigit = true := by
    rw [List.all_eq_true]
    intro c hc
    exact Nat.isDigit_of_mem_toDigits (by decide) (by decide) hc
  rw [value?, if_pos ⟨Nat.toDigits_ne_nil, hall⟩, Nat.ofDigitChars_ten_toDigits]

lemma readUnsigned_of_digit {bound : ℕ} {c : Char} {cs : List Char} (hc : c.isDigit) :
    readUnsigned bound (c :: cs) = (value? (c :: cs)).filter (· < bound) := by
  have hne : c ≠ '+' := by
    rintro rfl
    cases hc
  rw [readUnsigned.eq_def]
  split
  · next heq => exact absurd (List.cons.inj heq).1 hne
  · rfl

lemma readUnsigned_toDigits {bound n : ℕ} (h : n < bound) :
    readUnsigned bound (Nat.toDigits 10 n) = some n := by
  obtain ⟨c, cs, hcs⟩ := List.exists_cons_of_ne_nil (Nat.toDigits_ne_nil (b := 10) (n := n))
  have hc : c.isDigit := Nat.isDigit_of_mem_toDigits (b := 10) (n := n) (by decide) (by decide)
    (by simp [hcs])
  rw [hcs, readUnsigned_of_digit hc, ← hcs, value?_toDigits]
  simp [h]

lemma readUnsigned_lt {bound n : ℕ} {cs : List Char} (h : readUnsigned bound cs = some n) :
    n < bound := by
  rw [readUnsigned.eq_def] at h
  split at h
  all_goals exact of_decide_eq_true (Option.filter_eq_some_iff.mp h).2

lemma readI64_of_not_minus {c : Char} {cs : List Char} (hc : c ≠ '-') :
    readI64 (c :: cs) = (readUnsigned (2 ^ 63) (c :: cs)).map fun (n : ℕ) => (n : ℤ) := by
  rw [readI64.eq_def]
  split
  · next heq => exact absurd (List.cons.inj heq).1 hc
  · rfl

lemma readI64_textOfInt {cs : List Char} {n : ℤ} (h : readI64 cs = some n) :
    readI64 (textOfInt n) = some n := by
  have hnat : ∀ k : ℕ, k < 2 ^ 63 → readI64 (textOfInt k) = some (k : ℤ) := by
    intro k hk
    obtain ⟨c, ds, hds⟩ := List.exists_cons_of_ne_nil (Nat.toDigits_ne_nil (b := 10) (n := k))
    have hc : c ≠ '-' := by
      rintro rfl
      have := Nat.isDigit_of_mem_toDigits (b := 10) (n := k) (c := '-') (by decide) (by decide)
        (by simp [hds])
      cases this
    have hread := readUnsigned_toDigits hk
    change readI64 (Nat.toDigits 10 k) = some (k : ℤ)
    rw [hds] at hread ⊢
    rw [readI64_of_not_minus hc, hread]
    rfl
  rw [readI64.eq_def] at h
  split at h
  · obtain ⟨k, hk, rfl⟩ := Option.map_eq_some_iff.mp h
    have hle : k ≤ 2 ^ 63 := of_decide_eq_true (Option.filter_eq_some_iff.mp hk).2
    cases k with
    | zero => exact hnat 0 (by decide)
    | succ k =>
      change readI64 ('-' :: Nat.toDigits 10 (k + 1)) = some (-((k + 1 : ℕ) : ℤ))
      rw [readI64, value?_toDigits]
      simp [Option.filter]
      omega
  · obtain ⟨k, hk, rfl⟩ := Option.map_eq_some_iff.mp h
    exact hnat k (readUnsigned_lt hk)

lemma not_mem_textOfInt {c : Char} (hc : ¬ c.isDigit) (hminus : c ≠ '-') (n : ℤ) :
    c ∉ textOfInt n := by
  have hdigits : ∀ k : ℕ, c ∉ Nat.toDigits 10 k := fun k h =>
    hc (Nat.isDigit_of_mem_toDigits (by decide) (by decide) h)
  cases n with
  | ofNat k => exact hdigits k
  | negSucc k => simp [textOfInt, hminus, hdigits]

end Reading

end MediaServo.Foundations.Digits

namespace LittleEndian

def leBytes : ℕ → ℕ → List UInt8
  | 0, _ => []
  | w + 1, n => UInt8.ofNat n :: leBytes w (n / 256)

def leValue : List UInt8 → ℕ
  | [] => 0
  | b :: bs => b.toNat + 256 * leValue bs

@[simp] lemma leBytes_length (w n : ℕ) : (leBytes w n).length = w := by
  induction w generalizing n with
  | zero => rfl
  | succ w ih => simp [leBytes, ih]

lemma leValue_leBytes (w n : ℕ) : leValue (leBytes w n) = n % 256 ^ w := by
  induction w generalizing n with
  | zero => simp [leBytes, leValue, Nat.mod_one]
  | succ w ih =>
      have hsplit : n % 256 ^ (w + 1) = n % 256 + 256 * (n / 256 % 256 ^ w) := by
        rw [pow_succ, mul_comm (256 ^ w), Nat.mod_mul]
      simp only [leBytes, leValue, ih, hsplit, UInt8.toNat_ofNat']

lemma leValue_of_lt (w n : ℕ) (h : n < 256 ^ w) : leValue (leBytes w n) = n := by
  rw [leValue_leBytes, Nat.mod_eq_of_lt h]

@[simp] lemma ofNat_leValue64 (x : UInt64) : UInt64.ofNat (leValue (leBytes 8 x.toNat)) = x := by
  rw [leValue_of_lt 8 _ (by have := x.toNat_lt; omega), UInt64.ofNat_toNat]

@[simp] lemma ofNat_leValue32 (x : UInt32) : UInt32.ofNat (leValue (leBytes 4 x.toNat)) = x := by
  rw [leValue_of_lt 4 _ (by have := x.toNat_lt; omega), UInt32.ofNat_toNat]

end LittleEndian
