import MediaServo.Foundations.Json

/-! Codecs between values and trees of JSON, put together from the fields of a structure. Each
carries the proof that what it writes is read back. -/

namespace MediaServo.Foundations

open Json

/-- A way to write the values of a type, some of which (`dom`) it reads back. -/
structure Codec (α : Type) where
  enc : α → Json
  dec : Json → Option α
  dom : α → Prop
  sound : ∀ a, dom a → dec (enc a) = some a

namespace Codec

variable {α β : Type}

lemma inj (c : Codec α) {a b : α} (ha : c.dom a) (hb : c.dom b) (h : c.enc a = c.enc b) : a = b := by
  have hdec := c.sound a ha
  rw [h, c.sound b hb] at hdec
  exact (Option.some.inj hdec).symm

def str : Codec String where
  enc := .str
  dec := asStr
  dom _ := True
  sound _ _ := rfl

def bool : Codec Bool where
  enc := .bool
  dec := asBool
  dom _ := True
  sound _ _ := rfl

def uint (bits : ℕ) : Codec ℕ where
  enc := nat
  dec := asNat (2 ^ bits)
  dom n := n < 2 ^ bits
  sound _ h := asNat_nat h

def float : Codec (BitVec 64) where
  enc := ofFloat
  dec := asFloat
  dom bits := finiteBits bits
  sound _ h := asFloat_ofFloat h

def variant (name : α → String) (named : String → Option α) (h : ∀ a, named (name a) = some a) :
    Codec α where
  enc a := .str (name a)
  dec := asVariant named
  dom _ := True
  sound a _ := h a

def list (c : Codec α) : Codec (List α) where
  enc := Json.list c.enc
  dec := asList c.dec
  dom l := ∀ a ∈ l, c.dom a
  sound _ h := asList_list fun a ha => c.sound a (h a ha)

def imap (c : Codec β) (f : α → β) (g : β → α) (h : ∀ a, g (f a) = a) : Codec α where
  enc a := c.enc (f a)
  dec j := (c.dec j).map g
  dom a := c.dom (f a)
  sound a ha := by rw [c.sound (f a) ha, Option.map_some, h]

end Codec

/-- A field of a structure: how it is written, if at all, how it is read, also when it is not there,
and for one of an optional type whether something is in it. What is written determines the value;
what is also `kept` is read back. -/
structure Field (α : Type) where
  key : String
  hasDefault : Bool
  skipped : Bool
  write : α → Option Json
  read : Option Json → Option α
  dom : α → Prop
  kept : α → Prop
  present : α → Option Bool
  sound : ∀ a, dom a → kept a → read (write a) = some a
  inj : ∀ a b, dom a → dom b → write a = write b → a = b
  skips : skipped → ∀ a p, present a = some p → (write a).isSome = p
  absent : ∀ a, read none = some a → present a ≠ some true

namespace Field

variable {α : Type}

def required (key : String) (c : Codec α) : Field α where
  key := key
  hasDefault := false
  skipped := false
  write a := some (c.enc a)
  read v := v.bind c.dec
  dom := c.dom
  kept _ := True
  present _ := none
  sound a ha _ := c.sound a ha
  inj a b ha hb h := c.inj ha hb (Option.some.inj h)
  skips h := by cases h
  absent _ _ := nofun

def skipNone (key : String) (c : Codec α) (hasDefault : Bool) : Field (Option α) where
  key := key
  hasDefault := hasDefault
  skipped := true
  write o := o.map c.enc
  read := nullable c.dec
  dom o := ∀ a, o = some a → c.dom a
  kept o := ∀ a, o = some a → c.enc a ≠ .null
  present o := some o.isSome
  sound o hd hk := nullable_map fun a ha => ⟨c.sound a (hd a ha), hk a ha⟩
  inj o p ho hp h := by
    cases o with
    | none =>
      cases p with
      | none => rfl
      | some b => cases h
    | some a =>
      cases p with
      | none => cases h
      | some b => exact congrArg some (c.inj (ho a rfl) (hp b rfl) (Option.some.inj h))
  skips _ o p h := by
    cases h
    cases o <;> rfl
  absent o h := by
    cases h
    nofun

def orNull (key : String) (c : Codec α) : Field (Option α) where
  key := key
  hasDefault := false
  skipped := false
  write o := some (Json.orNull c.enc o)
  read := nullable c.dec
  dom o := ∀ a, o = some a → c.dom a ∧ c.enc a ≠ .null
  kept _ := True
  present o := some o.isSome
  sound o hd _ := nullable_orNull fun a ha => ⟨c.sound a (hd a ha).1, (hd a ha).2⟩
  inj o p ho hp h := by
    have hread := nullable_orNull fun a ha => ⟨c.sound a (ho a ha).1, (ho a ha).2⟩
    rw [h, nullable_orNull fun a ha => ⟨c.sound a (hp a ha).1, (hp a ha).2⟩] at hread
    exact (Option.some.inj hread).symm
  skips h := by cases h
  absent o h := by
    cases h
    nofun

def defaulted (key : String) (c : Codec α) (d : α) : Field α where
  key := key
  hasDefault := true
  skipped := false
  write a := some (c.enc a)
  read v := (v.map c.dec).getD (some d)
  dom := c.dom
  kept _ := True
  present _ := none
  sound a ha _ := c.sound a ha
  inj a b ha hb h := c.inj ha hb (Option.some.inj h)
  skips h := by cases h
  absent _ _ := nofun

end Field

inductive Row : Type → Type 1
  | nil : Row Unit
  | cons {α β : Type} (f : Field α) (r : Row β) : Row (α × β)

/-- A field of an optional type: whether it is left out when it is empty, and whether it is not. -/
structure Optional where
  key : String
  skipped : Bool
  present : Bool

namespace Row

def names : {α : Type} → Row α → List (String × Bool)
  | _, .nil => []
  | _, .cons f r => (f.key, f.hasDefault) :: r.names

def keys {α : Type} (r : Row α) : List String := r.names.map Prod.fst

def write : {α : Type} → Row α → α → Fields
  | _, .nil, _ => []
  | _, .cons f r, (a, b) => ((f.write a).map fun v => (f.key, v)).toList ++ r.write b

def read : {α : Type} → Row α → Fields → Option α
  | _, .nil, _ => some ()
  | _, .cons f r, fs => do
      let v ← field f.key fs
      let a ← f.read v
      let b ← r.read fs
      pure (a, b)

def dom : {α : Type} → Row α → α → Prop
  | _, .nil, _ => True
  | _, .cons f r, (a, b) => f.dom a ∧ r.dom b

def kept : {α : Type} → Row α → α → Prop
  | _, .nil, _ => True
  | _, .cons f r, (a, b) => f.kept a ∧ r.kept b

def optionals : {α : Type} → Row α → α → List Optional
  | _, .nil, _ => []
  | _, .cons f r, (a, b) =>
      ((f.present a).map fun p => ⟨f.key, f.skipped, p⟩).toList ++ r.optionals b

lemma keys_cons {α β : Type} {f : Field α} {r : Row β} : (cons f r).keys = f.key :: r.keys := rfl

lemma values_toList {o : Option Json} {k k' : String} :
    values k ((o.map fun v => (k', v)).toList) = if k' = k then o.toList else [] := by
  cases o <;> by_cases h : k' = k <;> simp [values, h]

lemma values_write {α : Type} {r : Row α} {a : α} {k : String} (h : k ∉ r.keys) :
    values k (r.write a) = [] := by
  induction r with
  | nil => rfl
  | cons f r ih =>
    rw [keys_cons, List.mem_cons, not_or] at h
    rw [write, values_append, values_toList, if_neg (Ne.symm h.1), ih h.2]
    rfl

/-- What is written is read back, also behind entries under other keys. -/
theorem read_write {α : Type} {r : Row α} (hr : r.keys.Nodup) {a : α} (hd : r.dom a)
    (hk : r.kept a) (pre : Fields) (hpre : ∀ k ∈ r.keys, values k pre = []) :
    r.read (pre ++ r.write a) = some a := by
  induction r generalizing pre with
  | nil => rfl
  | cons f r ih =>
    obtain ⟨a, b⟩ := a
    rw [keys_cons] at hr hpre
    obtain ⟨hf, hr⟩ := List.nodup_cons.mp hr
    have hfield : field f.key (pre ++ (cons f r).write (a, b)) = some (f.write a) := by
      simp [field, write, values_toList, hpre f.key (by simp), values_write hf]
    have hrest : r.read (pre ++ (cons f r).write (a, b)) = some b := by
      rw [write, ← List.append_assoc]
      apply ih hr hd.2 hk.2
      intro k hkey
      have hne : f.key ≠ k := fun heq => hf (heq ▸ hkey)
      rw [values_append, hpre k (by simp [hkey]), values_toList, if_neg hne]
      rfl
    simp [read, hfield, hrest, f.sound a hd.1 hk.1]

theorem write_inj {α : Type} {r : Row α} (hr : r.keys.Nodup) {a b : α} (ha : r.dom a)
    (hb : r.dom b) (h : r.write a = r.write b) : a = b := by
  induction r with
  | nil => rfl
  | cons f r ih =>
    obtain ⟨a, a'⟩ := a
    obtain ⟨b, b'⟩ := b
    rw [keys_cons] at hr
    obtain ⟨hf, hr⟩ := List.nodup_cons.mp hr
    have hfield : f.write a = f.write b := by
      have hv := congrArg (values f.key) h
      simp only [write, values_append, values_toList, if_true, values_write hf,
        List.append_nil] at hv
      simpa using congrArg single hv
    rw [f.inj a b ha.1 hb.1 hfield] at h ⊢
    rw [ih hr ha.2 hb.2 (List.append_cancel_left h)]

lemma mem_keys_of_write {α : Type} {r : Row α} {a : α} {k : String}
    (h : k ∈ (r.write a).map Prod.fst) : k ∈ r.keys := by
  induction r with
  | nil => cases h
  | cons f r ih =>
    rw [write, List.map_append, List.mem_append] at h
    rw [keys_cons, List.mem_cons]
    obtain h | h := h
    · cases hw : f.write a.1 <;> simp [hw] at h
      exact .inl h
    · exact .inr (ih h)

lemma mem_keys_of_optional {α : Type} {r : Row α} {a : α} {o : Optional}
    (h : o ∈ r.optionals a) : o.key ∈ r.keys := by
  induction r with
  | nil => cases h
  | cons f r ih =>
    rw [optionals, List.mem_append] at h
    rw [keys_cons, List.mem_cons]
    obtain h | h := h
    · cases hp : f.present a.1 <;> simp [hp] at h
      exact .inl (congrArg Optional.key h)
    · exact .inr (ih h)

/-- An optional field with the attribute is in the object exactly when it is not empty. -/
theorem mem_keys_iff {α : Type} {r : Row α} (hr : r.keys.Nodup) {a : α} {o : Optional}
    (ho : o ∈ r.optionals a) (hs : o.skipped) : o.key ∈ (r.write a).map Prod.fst ↔ o.present := by
  induction r with
  | nil => cases ho
  | cons f r ih =>
    rw [keys_cons] at hr
    obtain ⟨hf, hr⟩ := List.nodup_cons.mp hr
    rw [optionals, List.mem_append] at ho
    rw [write, List.map_append, List.mem_append]
    obtain ho | ho := ho
    · cases hp : f.present a.1 with
      | none => simp [hp] at ho
      | some p =>
        have hop : o = ⟨f.key, f.skipped, p⟩ := by simpa [hp] using ho
        subst hop
        have hrest : f.key ∉ (r.write a.2).map Prod.fst := fun h => hf (mem_keys_of_write h)
        have hsome := f.skips hs a.1 p hp
        rw [or_iff_left hrest]
        cases hw : f.write a.1 <;> simp_all
    · have hne : o.key ≠ f.key := fun h => hf (h ▸ mem_keys_of_optional ho)
      have hfirst : o.key ∉ (((f.write a.1).map fun v => (f.key, v)).toList).map Prod.fst := by
        cases f.write a.1 <;> simp [hne]
      rw [or_iff_right hfirst]
      exact ih hr ho

lemma field_of_absent {fs : Fields} {k : String} (h : k ∉ fs.map Prod.fst) :
    field k fs = some none := by
  have hnil : values k fs = [] := by
    simp only [values, List.filterMap_eq_nil_iff]
    intro e he
    have hne : e.1 ≠ k := fun heq => h (heq ▸ List.mem_map_of_mem he)
    exact if_neg hne
  rw [field, hnil]
  rfl

/-- An optional field that is not in the object is read as empty. -/
theorem not_present_of_absent {α : Type} {r : Row α} {fs : Fields} {a : α} {o : Optional}
    (h : r.read fs = some a) (ho : o ∈ r.optionals a) (hfs : o.key ∉ fs.map Prod.fst) :
    o.present = false := by
  induction r with
  | nil => cases ho
  | cons f r ih =>
    simp only [read, Option.bind_eq_bind, Option.bind_eq_some_iff] at h
    obtain ⟨v, hv, x, hx, b, hb, hab⟩ := h
    cases hab
    rw [optionals, List.mem_append] at ho
    obtain ho | ho := ho
    · cases hp : f.present x with
      | none => simp [hp] at ho
      | some p =>
        have hop : o = ⟨f.key, f.skipped, p⟩ := by simpa [hp] using ho
        subst hop
        rw [field_of_absent hfs] at hv
        cases hv
        have hne := f.absent x hx
        rw [hp] at hne
        simpa using hne
    · exact ih hb ho

end Row

namespace Codec

variable {α β : Type}

def struct (r : Row β) (hr : r.keys.Nodup) (f : α → β) (g : β → α) (h : ∀ a, g (f a) = a) :
    Codec α where
  enc a := .obj (r.write (f a))
  dec j := ((fieldsOf r.names j).bind r.read).map g
  dom a := r.dom (f a) ∧ r.kept (f a)
  sound a ha := by
    have hread := Row.read_write hr ha.1 ha.2 [] (by simp)
    rw [List.nil_append] at hread
    simp [fieldsOf, hread, h]

end Codec

end MediaServo.Foundations
