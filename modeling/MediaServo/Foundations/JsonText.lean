import MediaServo.Foundations.Digits
import MediaServo.Foundations.Json
import MediaServo.Foundations.Partial
import MediaServo.Foundations.Toml

/-! The compact text of a tree of JSON, and a reader of such texts that goes down a bounded number of
levels. How floats are written and read is left open: a reader may take another float than the one
that was written. -/

namespace MediaServo.Foundations.Json

section Trees

mutual

def leaves : Json → List Json
  | .arr items => itemLeaves items
  | .obj entries => entryLeaves entries
  | t => [t]

def itemLeaves : List Json → List Json
  | [] => []
  | t :: items => leaves t ++ itemLeaves items

def entryLeaves : List (String × Json) → List Json
  | [] => []
  | (_, t) :: entries => leaves t ++ entryLeaves entries

end

mutual

def depth : Json → ℕ
  | .arr items => itemDepth items + 1
  | .obj entries => entryDepth entries + 1
  | _ => 0

def itemDepth : List Json → ℕ
  | [] => 0
  | t :: items => max (depth t) (itemDepth items)

def entryDepth : List (String × Json) → ℕ
  | [] => 0
  | (_, t) :: entries => max (depth t) (entryDepth entries)

end

def float? : Json → Option (BitVec 64)
  | .float bits => some bits
  | _ => none

def floats (t : Json) : List (BitVec 64) := t.leaves.filterMap float?

def HasText : Json → Prop
  | .int i => -2 ^ 63 ≤ i ∧ i < 2 ^ 64
  | .float bits => finiteBits bits = true
  | _ => True

def Proper (t : Json) : Prop := ∀ l ∈ t.leaves, l.HasText

def readAs (float : BitVec 64 → Option (BitVec 64)) : ℕ → Json → Option Json
  | d + 1, .arr items => (items.mapM (readAs float d)).map .arr
  | d + 1, .obj entries => (entries.mapM fun e => (readAs float d e.2).map (Prod.mk e.1)).map .obj
  | 0, .arr _ | 0, .obj _ => none
  | _, .float bits => (float bits).map .float
  | _, t => some t

lemma itemLeaves_eq (items : List Json) : itemLeaves items = items.flatMap leaves := by
  induction items with
  | nil => rfl
  | cons t items ih => rw [itemLeaves, ih, List.flatMap_cons]

lemma entryLeaves_eq (entries : List (String × Json)) :
    entryLeaves entries = entries.flatMap fun e => leaves e.2 := by
  induction entries with
  | nil => rfl
  | cons e entries ih => rw [entryLeaves, ih, List.flatMap_cons]

lemma itemDepth_le {items : List Json} {d : ℕ} : itemDepth items ≤ d ↔ ∀ t ∈ items, depth t ≤ d := by
  induction items with
  | nil => simp [itemDepth]
  | cons t items ih => rw [itemDepth, max_le_iff, ih, List.forall_mem_cons]

lemma entryDepth_le {entries : List (String × Json)} {d : ℕ} :
    entryDepth entries ≤ d ↔ ∀ e ∈ entries, depth e.2 ≤ d := by
  induction entries with
  | nil => simp [entryDepth]
  | cons e entries ih => rw [entryDepth, max_le_iff, ih, List.forall_mem_cons]

lemma floats_arr (items : List Json) : (arr items).floats = items.flatMap floats := by
  rw [floats, leaves, itemLeaves_eq, List.filterMap_flatMap]
  rfl

lemma floats_obj (entries : List (String × Json)) :
    (obj entries).floats = entries.flatMap fun e => e.2.floats := by
  rw [floats, leaves, entryLeaves_eq, List.filterMap_flatMap]
  rfl

lemma forall_floats_iff {α : Type} {l : List α} {g : α → Json} {d : ℕ} {p : BitVec 64 → Prop} :
    (∀ a ∈ l, (g a).depth ≤ d ∧ ∀ bits ∈ (g a).floats, p bits) ↔
      (∀ a ∈ l, (g a).depth ≤ d) ∧ ∀ bits ∈ l.flatMap (fun a => (g a).floats), p bits := by
  simp only [List.mem_flatMap]
  grind

lemma readAs_eq_self_iff {float : BitVec 64 → Option (BitVec 64)} {d : ℕ} {t : Json} :
    t.readAs float d = some t ↔ t.depth ≤ d ∧ ∀ bits ∈ t.floats, float bits = some bits := by
  induction d generalizing t with
  | zero => cases t <;> simp [readAs, depth, floats, leaves, float?]
  | succ d ih =>
    cases t with
    | arr items =>
      rw [depth, Nat.add_le_add_iff_right, itemDepth_le, floats_arr]
      refine Iff.trans ?_ (forall_floats_iff (g := fun t : Json => t))
      simp only [readAs, Option.map_eq_some_iff, arr.injEq, exists_eq_right, mapM_eq_self_iff, ih]
    | obj entries =>
      have hentry : ∀ e : String × Json,
          (readAs float d e.2).map (Prod.mk e.1) = some e ↔ readAs float d e.2 = some e.2 := by
        rintro ⟨k, u⟩
        simp
      rw [depth, Nat.add_le_add_iff_right, entryDepth_le, floats_obj, ← forall_floats_iff]
      simp only [readAs, Option.map_eq_some_iff, obj.injEq, exists_eq_right, mapM_eq_self_iff,
        hentry, ih]
    | _ => simp [readAs, depth, floats, leaves, float?]

lemma Proper.of_item {items : List Json} (h : (arr items).Proper) {t : Json} (ht : t ∈ items) :
    t.Proper := by
  intro l hl
  apply h
  rw [leaves, itemLeaves_eq]
  exact List.mem_flatMap_of_mem ht hl

lemma Proper.of_entry {entries : List (String × Json)} (h : (obj entries).Proper)
    {e : String × Json} (he : e ∈ entries) : e.2.Proper := by
  intro l hl
  apply h
  rw [leaves, entryLeaves_eq]
  exact List.mem_flatMap_of_mem he hl

end Trees

section Text

def commas : List (List Char) → List Char
  | [] => []
  | [t] => t
  | t :: u :: ts => t ++ ',' :: commas (u :: ts)

def escape (c : Char) : List Char :=
  if c = '"' then ['\\', '"']
  else if c = '\\' then ['\\', '\\']
  else if c = '\n' then ['\\', 'n']
  else if c = '\r' then ['\\', 'r']
  else if c = '\t' then ['\\', 't']
  else if c.toNat = 8 then ['\\', 'b']
  else if c.toNat = 12 then ['\\', 'f']
  else if c.toNat < 32 then
    ['\\', 'u', '0', '0', Nat.digitChar (c.toNat / 16), Nat.digitChar (c.toNat % 16)]
  else [c]

def quoted (s : String) : List Char := '"' :: (s.toList.flatMap escape ++ ['"'])

variable (write : BitVec 64 → List Char)

lemma length_le_commas (ts : List (List Char)) : ts.length ≤ (commas ts).length + 1 := by
  induction ts with
  | nil => simp
  | cons t ts ih =>
    cases ts with
    | nil => simp
    | cons u ts =>
      simp only [commas, List.length_append, List.length_cons] at ih ⊢
      omega

mutual

def text : Json → List Char
  | .null => ['n', 'u', 'l', 'l']
  | .bool b => if b then ['t', 'r', 'u', 'e'] else ['f', 'a', 'l', 's', 'e']
  | .int i => Digits.textOfInt i
  | .float bits => write bits
  | .str s => quoted s
  | .arr items => '[' :: (commas (itemTexts items) ++ [']'])
  | .obj entries => '\x7b' :: (commas (entryTexts entries) ++ ['\x7d'])

def itemTexts : List Json → List (List Char)
  | [] => []
  | t :: items => text t :: itemTexts items

def entryTexts : List (String × Json) → List (List Char)
  | [] => []
  | (k, t) :: entries => (quoted k ++ ':' :: text t) :: entryTexts entries

end

lemma itemTexts_eq (items : List Json) : itemTexts write items = items.map (text write) := by
  induction items with
  | nil => rfl
  | cons t items ih => rw [itemTexts, ih, List.map_cons]

lemma entryTexts_eq (entries : List (String × Json)) :
    entryTexts write entries = entries.map fun e => quoted e.1 ++ ':' :: text write e.2 := by
  induction entries with
  | nil => rfl
  | cons e entries ih => rw [entryTexts, ih, List.map_cons]

end Text

section Reading

open Toml (Mode scalar simpleEscape)

variable {α : Type}

def isSpace (c : Char) : Bool := c == ' ' || c == '\n' || c == '\r' || c == '\t'

def skip (cs : List Char) : List Char := cs.dropWhile isSpace

/-- The contents of a string up to its closing quote, and what follows it. Pairs of surrogates, which
are written for no character here, are not read. -/
def readString : Mode → List Char → Option (List Char × List Char)
  | _, [] => none
  | .plain, c :: rest =>
      if c = '"' then some ([], rest)
      else if c = '\\' then readString .escape rest
      else if c.toNat < 32 then none
      else (readString .plain rest).map fun r => (c :: r.1, r.2)
  | .escape, c :: rest =>
      if c = 'u' then readString (.code 4 0) rest
      else (if c = '/' then some '/' else simpleEscape c).bind fun x =>
        (readString .plain rest).map fun r => (x :: r.1, r.2)
  | .code left value, c :: rest =>
      (Digits.hexValue c).bind fun v =>
        if left ≤ 1 then (scalar (value * 16 + v)).bind fun x =>
          (readString .plain rest).map fun r => (x :: r.1, r.2)
        else readString (.code (left - 1) (value * 16 + v)) rest

def readSome (item : List Char → Option (α × List Char)) (close : Char) :
    ℕ → List Char → Option (List α × List Char)
  | 0, _ => none
  | n + 1, cs => (item cs).bind fun a =>
      match skip a.2 with
      | [] => none
      | c :: rest =>
          if c = ',' then (readSome item close n rest).map fun r => (a.1 :: r.1, r.2)
          else if c = close then some ([a.1], rest)
          else none

def readMany (item : List Char → Option (α × List Char)) (close : Char) (cs : List Char) :
    Option (List α × List Char) :=
  match skip cs with
  | [] => none
  | c :: rest => if c = close then some ([], rest) else readSome item close cs.length cs

def readEntry (item : List Char → Option (α × List Char)) (cs : List Char) :
    Option ((String × α) × List Char) :=
  match skip cs with
  | '"' :: rest => (readString .plain rest).bind fun k =>
      match skip k.2 with
      | ':' :: rest => (item rest).map fun a => ((String.ofList k.1, a.1), a.2)
      | _ => none
  | _ => none

def isNumeric (c : Char) : Bool :=
  c.isDigit || c == '-' || c == '+' || c == '.' || c == 'e' || c == 'E'

def integer? : List Char → Option ℤ
  | '-' :: ds => (Digits.value? ds).map fun (n : ℕ) => -(n : ℤ)
  | ds => (Digits.value? ds).map fun (n : ℕ) => (n : ℤ)

def readInt (cs : List Char) : Option ℤ := (integer? cs).filter fun i => Digits.textOfInt i = cs

variable (read : List Char → Option (BitVec 64))

def readNumber (cs : List Char) : Option Json :=
  match (readInt cs).filter fun i => -2 ^ 63 ≤ i ∧ i < 2 ^ 64 with
  | some i => some (.int i)
  | none => (read cs).map .float

def readWord (cs : List Char) : Option (Json × List Char) :=
  if cs.take 4 = ['n', 'u', 'l', 'l'] then some (.null, cs.drop 4)
  else if cs.take 4 = ['t', 'r', 'u', 'e'] then some (.bool true, cs.drop 4)
  else if cs.take 5 = ['f', 'a', 'l', 's', 'e'] then some (.bool false, cs.drop 5)
  else (readNumber read (cs.takeWhile isNumeric)).map fun t => (t, cs.dropWhile isNumeric)

def readValue : ℕ → List Char → Option (Json × List Char)
  | d, cs =>
    match skip cs with
    | [] => none
    | c :: rest =>
        if c = '"' then (readString .plain rest).map fun r => (.str (String.ofList r.1), r.2)
        else if c = '[' then
          match d with
          | 0 => none
          | d + 1 => (readMany (readValue d) ']' rest).map fun r => (.arr r.1, r.2)
        else if c = '\x7b' then
          match d with
          | 0 => none
          | d + 1 => (readMany (readEntry (readValue d)) '\x7d' rest).map fun r => (.obj r.1, r.2)
        else readWord read (c :: rest)

def parse (d : ℕ) (cs : List Char) : Option Json :=
  (readValue read d cs).bind fun r => if skip r.2 = [] then some r.1 else none

lemma skip_cons {c : Char} (hc : isSpace c = false) (cs : List Char) : skip (c :: cs) = c :: cs := by
  rw [skip, List.dropWhile_cons_of_neg]
  simp [hc]

lemma readString_escape (c : Char) (rest : List Char) :
    readString .plain (escape c ++ rest) = (readString .plain rest).map fun r => (c :: r.1, r.2) := by
  have hcode : ∀ n, n < 32 → readString .plain
      ('\\' :: 'u' :: '0' :: '0' :: Nat.digitChar (n / 16) :: Nat.digitChar (n % 16) :: rest) =
      (readString .plain rest).map fun r => (Char.ofNat n :: r.1, r.2) := by
    intro n hn
    have hhigh : n / 16 < 16 := by omega
    have hlow : n % 16 < 16 := by omega
    have hsum : n / 16 * 16 + n % 16 = n := by omega
    have hscalar : scalar n = some (Char.ofNat n) := by
      have hvalid : n.isValidChar := .inl (by omega)
      rw [scalar, dif_pos hvalid, Char.ofNat, dif_pos hvalid]
    have hzero : Digits.hexValue '0' = some 0 := rfl
    simp [readString, hzero, Digits.hexValue_digitChar hhigh, Digits.hexValue_digitChar hlow, hsum,
      hscalar]
  have hof : Char.ofNat c.toNat = c := Char.ofNat_toNat c
  rw [escape]
  split_ifs with h1 h2 h3 h4 h5 h6 h7 h8
  · rw [h1]
    rfl
  · rw [h2]
    rfl
  · rw [h3]
    rfl
  · rw [h4]
    rfl
  · rw [h5]
    rfl
  · rw [← hof, h6]
    rfl
  · rw [← hof, h7]
    rfl
  · have := hcode c.toNat h8
    rwa [hof] at this
  · simp [readString, h1, h2, h8]

lemma readString_quoted (s : List Char) (rest : List Char) :
    readString .plain (s.flatMap escape ++ '"' :: rest) = some (s, rest) := by
  induction s with
  | nil => simp [readString]
  | cons c s ih =>
    rw [List.flatMap_cons, List.append_assoc, readString_escape, ih]
    rfl

def Stops (cs : List Char) : Prop := ∀ c ∈ cs.head?, isNumeric c = false

lemma takeWhile_numeric {ds rest : List Char} (hds : ∀ c ∈ ds, isNumeric c) (hrest : Stops rest) :
    (ds ++ rest).takeWhile isNumeric = ds ∧ (ds ++ rest).dropWhile isNumeric = rest := by
  have hstop : rest.takeWhile isNumeric = [] ∧ rest.dropWhile isNumeric = rest := by
    cases rest with
    | nil => exact ⟨rfl, rfl⟩
    | cons c rest => simp [hrest c rfl]
  rw [List.takeWhile_append_of_pos hds, List.dropWhile_append_of_pos hds, hstop.1, hstop.2,
    List.append_nil]
  exact ⟨rfl, rfl⟩

lemma readSome_commas {β : Type} {item : List Char → Option (α × List Char)} {close : Char}
    {w : β → List Char} {r : β → Option α} (hspace : isSpace close = false) (hcomma : close ≠ ',')
    (hnumeric : isNumeric close = false) {bs : List β} (hne : bs ≠ [])
    (h : ∀ b ∈ bs, ∀ rest, Stops rest → item (w b ++ rest) = (r b).map fun a => (a, rest))
    {n : ℕ} (hn : bs.length ≤ n) (rest : List Char) :
    readSome item close n (commas (bs.map w) ++ close :: rest) =
      (bs.mapM r).map fun as => (as, rest) := by
  induction bs generalizing n with
  | nil => exact absurd rfl hne
  | cons b bs ih =>
    obtain ⟨n, rfl⟩ : ∃ m, n = m + 1 := ⟨n - 1, by simp at hn; omega⟩
    cases bs with
    | nil =>
      have hstop : Stops (close :: rest) := by simpa [Stops] using hnumeric
      rw [List.map_cons, List.map_nil, commas, readSome, h b (by simp) _ hstop]
      cases hb : r b with
      | none => simp [hb]
      | some a => simp [hb, skip_cons hspace, hcomma]
    | cons b' bs =>
      have hstop : ∀ cs, Stops (',' :: cs) := by
        intro cs
        simp [Stops]
        decide
      have hrest := ih (by simp) (fun b hb => h b (by simp [hb])) (n := n) (by simpa using hn)
      rw [List.map_cons, List.map_cons, commas, List.append_assoc, List.cons_append, readSome,
        h b (by simp) _ (hstop _), ← List.map_cons, List.mapM_cons]
      cases r b with
      | none => rfl
      | some a =>
        rw [Option.map_some, Option.bind_some, skip_cons (by decide)]
        simp only [if_true, hrest]
        cases (b' :: bs).mapM r with
        | none => rfl
        | some as => rfl

lemma readMany_commas {β : Type} {item : List Char → Option (α × List Char)} {close : Char}
    {w : β → List Char} {r : β → Option α} (hspace : isSpace close = false) (hcomma : close ≠ ',')
    (hnumeric : isNumeric close = false) {bs : List β}
    (hhead : ∀ b ∈ bs, ∃ c cs, w b = c :: cs ∧ isSpace c = false ∧ c ≠ close)
    (h : ∀ b ∈ bs, ∀ rest, Stops rest → item (w b ++ rest) = (r b).map fun a => (a, rest))
    (rest : List Char) :
    readMany item close (commas (bs.map w) ++ close :: rest) =
      (bs.mapM r).map fun as => (as, rest) := by
  cases bs with
  | nil => simp [readMany, commas, skip_cons hspace]
  | cons b bs =>
    have hlength : (b :: bs).length ≤ (commas ((b :: bs).map w) ++ close :: rest).length := by
      have := length_le_commas ((b :: bs).map w)
      simp only [List.length_map, List.length_append, List.length_cons] at this ⊢
      omega
    rw [← readSome_commas hspace hcomma hnumeric (by simp) h hlength rest]
    obtain ⟨c, cs, hw, hc, hne⟩ := hhead b (by simp)
    obtain ⟨cs', hcs'⟩ : ∃ cs', commas ((b :: bs).map w) = c :: cs' := by
      cases bs with
      | nil => exact ⟨cs, hw⟩
      | cons b' bs => exact ⟨_, by rw [List.map_cons, List.map_cons, commas, hw, List.cons_append]⟩
    rw [readMany, hcs', List.cons_append, skip_cons hc]
    exact if_neg hne

lemma readInt_textOfInt (i : ℤ) : readInt (Digits.textOfInt i) = some i := by
  have hread : integer? (Digits.textOfInt i) = some i := by
    cases i with
    | ofNat n =>
      have hvalue := Digits.value?_toDigits n
      have hminus : ∀ ds, Nat.toDigits 10 n ≠ '-' :: ds := by
        intro ds h
        have := Nat.isDigit_of_mem_toDigits (b := 10) (n := n) (c := '-') (by decide) (by decide)
          (by simp [h])
        cases this
      rw [Digits.textOfInt, integer?.eq_def]
      split
      · next ds heq => exact absurd heq (hminus ds)
      · rw [hvalue]
        rfl
    | negSucc n =>
      rw [Digits.textOfInt, integer?, Digits.value?_toDigits]
      rfl
  rw [readInt, hread, Option.filter_some, if_pos (decide_eq_true rfl)]

lemma textOfInt_numeric (i : ℤ) : ∀ c ∈ Digits.textOfInt i, isNumeric c := by
  have hdigits : ∀ n, ∀ c ∈ Nat.toDigits 10 n, isNumeric c := by
    intro n c hc
    simp [isNumeric, Nat.isDigit_of_mem_toDigits (by decide) (by decide) hc]
  cases i with
  | ofNat n => exact hdigits n
  | negSucc n =>
    rintro c (_ | ⟨_, hc⟩)
    · rfl
    · exact hdigits _ c hc

lemma textOfInt_ne_nil (i : ℤ) : Digits.textOfInt i ≠ [] := by
  cases i with
  | ofNat n => exact Nat.toDigits_ne_nil
  | negSucc n => exact List.cons_ne_nil _ _

/-- A writer of floats whose texts are those of numbers, but of no integer. -/
structure Writes (write : BitVec 64 → List Char) : Prop where
  ne_nil : ∀ bits, finiteBits bits → write bits ≠ []
  numeric : ∀ bits, finiteBits bits → ∀ c ∈ write bits, isNumeric c
  not_int : ∀ bits, finiteBits bits → readInt (write bits) = none

variable {write : BitVec 64 → List Char}

lemma readWord_numeric {ds rest : List Char} (hne : ds ≠ []) (hds : ∀ c ∈ ds, isNumeric c)
    (hrest : Stops rest) :
    readWord read (ds ++ rest) = (readNumber read ds).map fun t => (t, rest) := by
  obtain ⟨c, cs, rfl⟩ := List.exists_cons_of_ne_nil hne
  have hc : isNumeric c := hds c (by simp)
  obtain ⟨htake, hdrop⟩ := takeWhile_numeric hds hrest
  rw [List.cons_append] at htake hdrop ⊢
  have hword : ∀ {d : Char} {l : List Char}, isNumeric d = false → ∀ n,
      (c :: (cs ++ rest)).take (n + 1) ≠ d :: l := by
    intro d l hd n h
    rw [List.take_succ_cons] at h
    rw [(List.cons.inj h).1, hd] at hc
    cases hc
  rw [readWord, if_neg (hword rfl 3), if_neg (hword rfl 3), if_neg (hword rfl 4), htake, hdrop]

lemma numeric_ne {c d : Char} (hc : isNumeric c) (hd : isNumeric d = false) : c ≠ d := by
  rintro rfl
  rw [hd] at hc
  cases hc

lemma numeric_not_space {c : Char} (hc : isNumeric c) : isSpace c = false := by
  simp only [isSpace, Bool.or_eq_false_iff, beq_eq_false_iff_ne]
  exact ⟨⟨⟨numeric_ne hc rfl, numeric_ne hc rfl⟩, numeric_ne hc rfl⟩, numeric_ne hc rfl⟩

lemma text_head (hw : Writes write) {t : Json} (ht : t.Proper) :
    ∃ c cs, text write t = c :: cs ∧ isSpace c = false ∧ c ≠ ']' ∧ c ≠ '\x7d' := by
  have hnumber : ∀ {ds : List Char}, ds ≠ [] → (∀ c ∈ ds, isNumeric c) →
      ∃ c cs, ds = c :: cs ∧ isSpace c = false ∧ c ≠ ']' ∧ c ≠ '\x7d' := by
    intro ds hne hds
    obtain ⟨c, cs, rfl⟩ := List.exists_cons_of_ne_nil hne
    have hc : isNumeric c := hds c (by simp)
    exact ⟨c, cs, rfl, numeric_not_space hc, numeric_ne hc rfl, numeric_ne hc rfl⟩
  cases t with
  | null => exact ⟨_, _, rfl, by decide⟩
  | bool b => cases b <;> exact ⟨_, _, rfl, by decide⟩
  | str s => exact ⟨_, _, rfl, by decide⟩
  | arr items => exact ⟨_, _, rfl, by decide⟩
  | obj entries => exact ⟨_, _, rfl, by decide⟩
  | int i => exact hnumber (textOfInt_ne_nil i) (textOfInt_numeric i)
  | float bits =>
    have hbits : finiteBits bits := ht (.float bits) (by simp [leaves])
    exact hnumber (hw.ne_nil bits hbits) (hw.numeric bits hbits)

lemma readValue_number {d : ℕ} {ds rest : List Char} (hne : ds ≠ []) (hds : ∀ c ∈ ds, isNumeric c)
    (hrest : Stops rest) :
    readValue read d (ds ++ rest) = (readNumber read ds).map fun t => (t, rest) := by
  rw [← readWord_numeric read hne hds hrest]
  obtain ⟨c, cs, rfl⟩ := List.exists_cons_of_ne_nil hne
  have hc : isNumeric c := hds c (by simp)
  rw [List.cons_append, readValue.eq_def]
  simp only [skip_cons (numeric_not_space hc), if_neg (numeric_ne hc (d := '"') rfl), if_neg (numeric_ne hc (d := '[') rfl),
    if_neg (numeric_ne hc (d := '\x7b') rfl)]

lemma readEntry_text {item : List Char → Option (α × List Char)} (k : String) (t rest : List Char) :
    readEntry item (quoted k ++ ':' :: t ++ rest) =
      (item (t ++ rest)).map fun a => ((k, a.1), a.2) := by
  simp only [quoted, List.cons_append, List.append_assoc, List.nil_append]
  rw [readEntry, skip_cons (by decide)]
  simp only [readString_quoted, Option.bind_some, skip_cons (c := ':') (by decide), String.ofList_toList]

lemma readValue_leaf (hw : Writes write) {d : ℕ} {t : Json} (ht : t.Proper) {rest : List Char}
    (hrest : Stops rest) (hleaf : t.depth = 0) : readValue read d (text write t ++ rest) =
      (t.readAs (fun bits => read (write bits)) d).map fun u => (u, rest) := by
  cases t with
  | null => cases d <;> rfl
  | bool b => cases b <;> cases d <;> rfl
  | str s =>
    have hread : readValue read d (text write (.str s) ++ rest) = some (.str s, rest) := by
      simp only [text, quoted, List.cons_append, List.append_assoc, List.nil_append]
      rw [readValue.eq_def]
      simp only [skip_cons (c := '"') rfl, if_true, readString_quoted, Option.map_some, String.ofList_toList]
    rw [hread]
    cases d <;> rfl
  | int i =>
    have hi : -2 ^ 63 ≤ i ∧ i < 2 ^ 64 := ht (.int i) (by simp [leaves])
    have hread : readNumber read (Digits.textOfInt i) = some (.int i) := by
      rw [readNumber, readInt_textOfInt, Option.filter_some, if_pos (decide_eq_true hi)]
    rw [text, readValue_number read (textOfInt_ne_nil i) (textOfInt_numeric i) hrest, hread]
    cases d <;> rfl
  | float bits =>
    have hbits : finiteBits bits := ht (.float bits) (by simp [leaves])
    have hread : readNumber read (write bits) = (read (write bits)).map .float := by
      rw [readNumber, hw.not_int bits hbits]
      rfl
    rw [text, readValue_number read (hw.ne_nil bits hbits) (hw.numeric bits hbits) hrest, hread]
    cases d <;> rfl
  | arr items => cases hleaf
  | obj entries => cases hleaf

/-- The text of a tree is read as the tree, but for the floats that are read as others, if it has no
more levels than allowed. -/
theorem readValue_text (hw : Writes write) {d : ℕ} {t : Json} (ht : t.Proper) {rest : List Char}
    (hrest : Stops rest) : readValue read d (text write t ++ rest) =
      (t.readAs (fun bits => read (write bits)) d).map fun u => (u, rest) := by
  induction d generalizing t rest with
  | zero =>
    cases t with
    | arr items => rfl
    | obj entries => rfl
    | _ => exact readValue_leaf read hw ht hrest rfl
  | succ d ih =>
    cases t with
    | arr items =>
      simp only [text, List.cons_append, List.append_assoc, List.nil_append, itemTexts_eq]
      rw [readValue.eq_def]
      simp only [skip_cons (c := '[') rfl, if_neg (by decide : ¬( '[' = '"')), if_true]
      rw [readMany_commas rfl (by decide) rfl
        (r := readAs (fun bits => read (write bits)) d)]
      · rw [readAs, Option.map_map, Option.map_map]
        rfl
      · intro t hmem
        obtain ⟨c, cs, hcs, hspace, hne, -⟩ := text_head hw (ht.of_item hmem)
        exact ⟨c, cs, hcs, hspace, hne⟩
      · intro t hmem rest hrest
        exact ih (ht.of_item hmem) hrest
    | obj entries =>
      simp only [text, List.cons_append, List.append_assoc, List.nil_append, entryTexts_eq]
      rw [readValue.eq_def]
      simp only [skip_cons (c := '\x7b') rfl, if_neg (by decide : ¬( '\x7b' = '"')),
        if_neg (by decide : ¬( '\x7b' = '[')), if_true]
      rw [readMany_commas rfl (by decide) rfl
        (r := fun e => (readAs (fun bits => read (write bits)) d e.2).map (Prod.mk e.1))]
      · rw [readAs, Option.map_map, Option.map_map]
        rfl
      · intro e hmem
        exact ⟨'"', _, rfl, by decide⟩
      · intro e hmem rest hrest
        rw [readEntry_text, ih (ht.of_entry hmem) hrest, Option.map_map, Option.map_map]
        rfl
    | _ => exact readValue_leaf read hw ht hrest rfl

theorem parse_text (hw : Writes write) {d : ℕ} {t : Json} (ht : t.Proper) :
    parse read d (text write t) = t.readAs (fun bits => read (write bits)) d := by
  have hstop : Stops [] := nofun
  have := readValue_text read hw ht (d := d) hstop
  rw [List.append_nil] at this
  rw [parse, this]
  cases t.readAs (fun bits => read (write bits)) d with
  | none => rfl
  | some u => rfl

/-- A text is of one tree only, where a float's text is of one float only. -/
theorem text_injective (hw : Writes write)
    (hfloat : ∀ a b, finiteBits a → finiteBits b → write a = write b → a = b) {t u : Json}
    (ht : t.Proper) (hu : u.Proper) (h : text write t = text write u) : t = u := by
  classical
  let reader (cs : List Char) : Option (BitVec 64) :=
    if h : ∃ bits, finiteBits bits ∧ write bits = cs then some h.choose else none
  have hexact : ∀ t : Json, t.Proper → ∀ d, t.depth ≤ d → parse reader d (text write t) = some t := by
    intro t ht d hd
    rw [parse_text reader hw ht, readAs_eq_self_iff]
    refine ⟨hd, fun bits hmem => ?_⟩
    obtain ⟨l, hl, hbits⟩ := List.mem_filterMap.1 hmem
    have hfinite : finiteBits bits := by
      cases l with
      | float b =>
        cases hbits
        exact ht _ hl
      | _ => cases hbits
    have hex : ∃ b, finiteBits b ∧ write b = write bits := ⟨bits, hfinite, rfl⟩
    simp only [reader]
    rw [dif_pos hex, hfloat _ _ hex.choose_spec.1 hfinite hex.choose_spec.2]
  have htu := hexact t ht (max t.depth u.depth) (le_max_left _ _)
  rw [h, hexact u hu _ (le_max_right _ _)] at htu
  exact (Option.some.inj htu).symm

end Reading

end MediaServo.Foundations.Json
