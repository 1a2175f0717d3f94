import Mathlib.Tactic

/-! Trees of JSON as a reader of texts hands them on, and the reading of structures from them: an
object may have its entries in any order, unknown ones are passed over and a known one that comes
twice is refused; an array has the values of the fields in their order. -/

namespace MediaServo.Foundations

inductive Json
  | null
  | bool (b : Bool)
  | int (i : ℤ)
  | float (bits : BitVec 64)
  | str (s : String)
  | arr (items : List Json)
  | obj (entries : List (String × Json))

namespace Json

abbrev Fields := List (String × Json)

section Reading

variable {α : Type}

def values (k : String) (fs : Fields) : List Json :=
  fs.filterMap fun e => if e.1 = k then some e.2 else none

def single : List Json → Option (Option Json)
  | [] => some none
  | [v] => some (some v)
  | _ => none

def field (k : String) (fs : Fields) : Option (Option Json) := single (values k fs)

def required (dec : Json → Option α) (k : String) (fs : Fields) : Option α := do
  let v ← field k fs
  v.bind dec

def nullable (dec : Json → Option α) : Option Json → Option (Option α)
  | none | some .null => some none
  | some v => (dec v).map some

def optional (dec : Json → Option α) (k : String) (fs : Fields) : Option (Option α) := do
  let v ← field k fs
  nullable dec v

def defaulted (d : α) (dec : Json → Option α) (k : String) (fs : Fields) : Option α := do
  let v ← field k fs
  (v.map dec).getD (some d)

def fieldsOf (names : List (String × Bool)) : Json → Option Fields
  | .obj fs => some fs
  | .arr items =>
      if items.length ≤ names.length ∧ (names.drop items.length).all Prod.snd then
        some ((names.map Prod.fst).zip items)
      else none
  | _ => none

def asBool : Json → Option Bool
  | .bool b => some b
  | _ => none

def asStr : Json → Option String
  | .str s => some s
  | _ => none

def asNat (bound : ℕ) : Json → Option ℕ
  | .int i => if 0 ≤ i ∧ i < bound then some i.toNat else none
  | _ => none

def asList (dec : Json → Option α) : Json → Option (List α)
  | .arr items => items.mapM dec
  | _ => none

def asVariant (named : String → Option α) : Json → Option α
  | .str s => named s
  | .obj [(s, .null)] | .obj [(s, .obj [])] => named s
  | _ => none

def bitsOfInt (i : ℤ) : BitVec 64 :=
  let n := i.natAbs
  let e := n.log2
  let shift := e - 52
  let rest := n % 2 ^ shift
  let cut := n / 2 ^ shift
  let up := 2 ^ shift < 2 * rest ∨ 2 ^ shift = 2 * rest ∧ cut % 2 = 1
  let m := (if up then cut + 1 else cut) * 2 ^ (52 - e)
  let magnitude := if n = 0 then 0 else (e + 1023) * 2 ^ 52 + (m - 2 ^ 52)
  BitVec.ofNat 64 (magnitude + if i < 0 then 2 ^ 63 else 0)

def asFloat : Json → Option (BitVec 64)
  | .float bits => some bits
  | .int i => some (bitsOfInt i)
  | _ => none

end Reading

section Writing

variable {α : Type}

def nat (n : ℕ) : Json := .int n

def list (enc : α → Json) (l : List α) : Json := .arr (l.map enc)

def finiteBits (bits : BitVec 64) : Bool := bits.toNat / 2 ^ 52 % 2 ^ 11 ≠ 2 ^ 11 - 1

def ofFloat (bits : BitVec 64) : Json := if finiteBits bits then .float bits else .null

def orNull (enc : α → Json) : Option α → Json
  | some a => enc a
  | none => .null

def skipNone (k : String) (enc : α → Json) (o : Option α) : Fields :=
  o.toList.map fun a => (k, enc a)

end Writing

section Lemmas

variable {α : Type} {k k' : String} {fs gs : Fields}

@[simp] lemma values_nil : values k [] = [] := rfl

@[simp] lemma values_append : values k (fs ++ gs) = values k fs ++ values k gs := by
  simp [values]

@[simp] lemma values_cons {v : Json} : values k ((k', v) :: fs) =
    if k' = k then v :: values k fs else values k fs := by
  by_cases h : k' = k <;> simp [values, h]

@[simp] lemma values_skipNone {enc : α → Json} {o : Option α} : values k (skipNone k' enc o) =
    if k' = k then (o.map enc).toList else [] := by
  cases o <;> by_cases h : k' = k <;> simp [values, skipNone, h]

@[simp] lemma single_nil : single [] = some none := rfl

@[simp] lemma single_singleton {v : Json} : single [v] = some (some v) := rfl

@[simp] lemma single_toList {o : Option Json} : single o.toList = some o := by
  cases o <;> rfl

@[simp] lemma asStr_str {s : String} : asStr (.str s) = some s := rfl

@[simp] lemma asBool_bool {b : Bool} : asBool (.bool b) = some b := rfl

lemma asNat_nat {n bound : ℕ} (h : n < bound) : asNat bound (nat n) = some n := by
  simp [asNat, nat, h]

lemma asFloat_ofFloat {bits : BitVec 64} (h : finiteBits bits) :
    asFloat (ofFloat bits) = some bits := by
  simp [ofFloat, h, asFloat]

lemma asList_list {enc : α → Json} {dec : Json → Option α} {l : List α}
    (h : ∀ a ∈ l, dec (enc a) = some a) : asList dec (list enc l) = some l := by
  simp only [asList, list]
  induction l with
  | nil => rfl
  | cons a l ih =>
    have hl := ih fun b hb => h b (by simp [hb])
    simp [h a (by simp), hl]

lemma nullable_map {enc : α → Json} {dec : Json → Option α} {o : Option α}
    (h : ∀ a, o = some a → dec (enc a) = some a ∧ enc a ≠ .null) :
    nullable dec (o.map enc) = some o := by
  cases o with
  | none => rfl
  | some a =>
    obtain ⟨hdec, hne⟩ := h a rfl
    simp [nullable, hdec]

lemma nullable_orNull {enc : α → Json} {dec : Json → Option α} {o : Option α}
    (h : ∀ a, o = some a → dec (enc a) = some a ∧ enc a ≠ .null) :
    nullable dec (some (orNull enc o)) = some o := by
  cases o with
  | none => rfl
  | some a => exact nullable_map h

end Lemmas

end Json

end MediaServo.Foundations
