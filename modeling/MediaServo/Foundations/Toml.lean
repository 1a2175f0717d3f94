import Mathlib.Data.List.Basic
import Mathlib.Tactic
import MediaServo.Foundations.Digits
import MediaServo.Foundations.Partial
import MediaServo.Foundations.Utf8

/-! A part of TOML, line by line: comments, table headers, arrays of tables, and pairs of a bare key
with a basic string or a decimal number. A text that uses anything else does not parse here. -/

namespace MediaServo.Foundations.Toml

open Digits (hexValue)

inductive Value
  | str (s : List Char)
  | int (n : ℕ)
  deriving DecidableEq

abbrev Path := List (List Char)

inductive Line
  | blank
  | table (path : Path)
  | arrayTable (path : Path)
  | pair (key : List Char) (value : Value)
  deriving DecidableEq

def isBlank (c : Char) : Bool := c == ' ' || c == '\t'

def isControl (c : Char) : Bool := (c.toNat < 0x20 && c != '\t') || c.toNat == 0x7f

def isBareKeyChar (c : Char) : Bool := c.isAlphanum || c == '-' || c == '_'

def skip (l : List Char) : List Char := l.dropWhile isBlank

def simpleEscape (c : Char) : Option Char :=
  if c = '"' then some '"'
  else if c = '\\' then some '\\'
  else if c = 'b' then some (Char.ofNat 8)
  else if c = 't' then some '\t'
  else if c = 'n' then some '\n'
  else if c = 'f' then some (Char.ofNat 12)
  else if c = 'r' then some '\r'
  else none

def scalar (n : ℕ) : Option Char :=
  if h : n.isValidChar then some (Char.ofNatAux n h) else none

/-- Where a basic string is read: in plain text, after a backslash, or among the digits of a code
point, of which some are still to come. -/
inductive Mode
  | plain
  | escape
  | code (left value : ℕ)
  deriving DecidableEq

def scan : Mode → List Char → Option (List Char × List Char)
  | _, [] => none
  | .plain, c :: rest =>
      if c = '"' then some ([], rest)
      else if c = '\\' then scan .escape rest
      else if isControl c then none
      else (scan .plain rest).map (fun r => (c :: r.1, r.2))
  | .escape, c :: rest =>
      match simpleEscape c with
      | some x => (scan .plain rest).map (fun r => (x :: r.1, r.2))
      | none =>
          if c = 'u' then scan (.code 4 0) rest
          else if c = 'U' then scan (.code 8 0) rest
          else none
  | .code left value, c :: rest =>
      match hexValue c with
      | none => none
      | some v =>
          if left ≤ 1 then
            match scalar (value * 16 + v) with
            | none => none
            | some x => (scan .plain rest).map (fun r => (x :: r.1, r.2))
          else scan (.code (left - 1) (value * 16 + v)) rest

def endsLine (l : List Char) : Bool :=
  match skip l with
  | [] => true
  | c :: rest => c == '#' && rest.all (fun x => !isControl x)

def parseValue : List Char → Option (Value × List Char)
  | '"' :: '"' :: '"' :: _ => none
  | '"' :: rest => (scan .plain rest).map (fun r => (.str r.1, r.2))
  | l =>
      let digits := l.takeWhile Char.isDigit
      if digits = [] ∨ (digits.head? = some '0' ∧ digits.length ≠ 1) then none
      else
        some (.int (digits.foldl (fun n c => n * 10 + (c.toNat - '0'.toNat)) 0),
          l.dropWhile Char.isDigit)

def parsePath (l : List Char) : Option Path :=
  (l.splitOn '.').mapM fun part =>
    let key := ((skip part).reverse.dropWhile isBlank).reverse
    if key ≠ [] ∧ key.all isBareKeyChar then some key else none

def parsePair (l : List Char) : Option Line :=
  let key := l.takeWhile isBareKeyChar
  if key = [] then none
  else
    match skip (l.dropWhile isBareKeyChar) with
    | '=' :: rest =>
        match parseValue (skip rest) with
        | some (v, after) => if endsLine after then some (.pair key v) else none
        | none => none
    | _ => none

def dropReturn (l : List Char) : List Char := if l.getLast? = some '\r' then l.dropLast else l

def parseLine (l : List Char) : Option Line :=
  match skip (dropReturn l) with
  | [] => some .blank
  | '#' :: rest => if rest.all (fun x => !isControl x) then some .blank else none
  | '[' :: '[' :: rest =>
      match rest.dropWhile (· ≠ ']') with
      | ']' :: ']' :: after =>
          if endsLine after then (parsePath (rest.takeWhile (· ≠ ']'))).map .arrayTable else none
      | _ => none
  | '[' :: rest =>
      match rest.dropWhile (· ≠ ']') with
      | ']' :: after =>
          if endsLine after then (parsePath (rest.takeWhile (· ≠ ']'))).map .table else none
      | _ => none
  | rest => parsePair rest

/-- The open table, the names that are taken, and those that are arrays of tables. -/
structure Scope where
  path : Path
  taken : List Path
  arrays : List Path
  deriving DecidableEq

def Scope.init : Scope := ⟨[], [], []⟩

/-- No name is defined twice; a new element of an array starts over with the names below it. -/
def Scope.enter (s : Scope) : Line → Option Scope
  | .blank => some s
  | .table p => if p ∈ s.taken ∨ p ∈ s.arrays then none else some ⟨p, p :: s.taken, s.arrays⟩
  | .arrayTable p =>
      if p ∈ s.taken then none
      else some ⟨p, s.taken.filter (fun q => !p.isPrefixOf q), p :: s.arrays⟩
  | .pair k _ =>
      let p := s.path ++ [k]
      if p ∈ s.taken ∨ p ∈ s.arrays then none else some { s with taken := p :: s.taken }

def enterAll : Scope → List Line → Option Scope
  | s, [] => some s
  | s, l :: rest => (s.enter l).bind (fun t => enterAll t rest)

def parse (text : List Char) : Option (List Line) :=
  match (text.splitOn '\n').mapM parseLine with
  | some lines => if (enterAll .init lines).isSome then some lines else none
  | none => none

def ownPairs : List Line → List (List Char × Value)
  | [] => []
  | .pair k v :: rest => (k, v) :: ownPairs rest
  | .blank :: rest => ownPairs rest
  | _ :: _ => []

def elements (p : Path) : List Line → List (List (List Char × Value))
  | [] => []
  | .arrayTable q :: rest => if q = p then ownPairs rest :: elements p rest else elements p rest
  | _ :: rest => elements p rest

section Strings

def isClear (c : Char) : Bool := c != '"' && c != '\\' && !isControl c

lemma scan_clear {raw : List Char} (h : ∀ c ∈ raw, isClear c = true) (rest : List Char) :
    scan .plain (raw ++ '"' :: rest) = some (raw, rest) := by
  induction raw with
  | nil => simp [scan]
  | cons c raw ih =>
    have hc := h c List.mem_cons_self
    simp only [isClear, Bool.and_eq_true, bne_iff_ne, ne_eq, Bool.not_eq_true'] at hc
    have hr := ih (fun x hx => h x (List.mem_cons_of_mem c hx))
    simp [scan, hc.1.1, hc.1.2, hc.2, hr]

def Fits (p : Char → Bool) (raw : List Char) (r : List Char × List Char) : Mode → Prop
  | .plain => (r = (raw, []) ∧ ∀ c ∈ raw, isClear c = true) ∨ r.1.countP p < raw.countP p
  | .escape => r.1.countP p ≤ raw.countP p
  | .code _ _ => r.1.countP p ≤ raw.countP p

variable {p : Char → Bool}

lemma Fits.count_le {raw : List Char} {r : List Char × List Char} {m : Mode}
    (h : Fits p raw r m) : r.1.countP p ≤ raw.countP p := by
  cases m with
  | plain =>
    rcases h with ⟨h, _⟩ | h
    · rw [h]
    · exact h.le
  | escape => exact h
  | code _ _ => exact h

lemma countP_cons_le (x : Char) (l : List Char) : (x :: l).countP p ≤ l.countP p + 1 := by
  rw [List.countP_cons]
  split_ifs <;> omega

lemma scan_fits (hp : ∀ c, p c = false → simpleEscape c = none ∧ hexValue c = none) {m : Mode}
    {raw : List Char} {r : List Char × List Char} (h : scan m (raw ++ ['"']) = some r) :
    Fits p raw r m := by
  have hcount : ∀ {c : Char}, simpleEscape c ≠ none ∨ hexValue c ≠ none → p c = true := by
    intro c hc
    by_contra hf
    have := hp c (Bool.eq_false_iff.mpr hf)
    tauto
  induction raw generalizing m r with
  | nil =>
    cases m with
    | plain =>
      simp only [List.nil_append, scan, if_true, Option.some.injEq] at h
      subst h
      exact Or.inl ⟨rfl, by simp⟩
    | escape => simp [scan, simpleEscape] at h
    | code left value => simp [scan, hexValue] at h
  | cons c raw ih =>
    rw [List.cons_append] at h
    cases m with
    | plain =>
      rw [scan] at h
      split_ifs at h with hq hb hctl
      · -- the string ends here
        cases h
        have := hcount (c := c) (Or.inl (by simp [hq, simpleEscape]))
        exact Or.inr (by simp [this])
      · have hp' := hcount (c := c) (Or.inl (by simp [hb, simpleEscape]))
        have hle := (ih h).count_le
        refine Or.inr ?_
        rw [List.countP_cons, if_pos hp']
        omega
      · obtain ⟨r', hr', rfl⟩ := Option.map_eq_some_iff.mp h
        rcases ih hr' with ⟨rfl, hclear⟩ | hlt
        · refine Or.inl ⟨rfl, ?_⟩
          intro x hx
          rcases List.mem_cons.mp hx with rfl | hx
          · simp [isClear, hq, hb, hctl]
          · exact hclear x hx
        · refine Or.inr ?_
          simp only [List.countP_cons]
          omega
    | escape =>
      rw [scan] at h
      cases he : simpleEscape c with
      | some x =>
        rw [he] at h
        obtain ⟨r', hr', rfl⟩ := Option.map_eq_some_iff.mp h
        have hle := (ih hr').count_le
        have hc := hcount (c := c) (Or.inl (by simp [he]))
        have hx := countP_cons_le (p := p) x r'.1
        simp only [Fits, List.countP_cons (a := c), hc, if_true]
        omega
      | none =>
        rw [he] at h
        simp only at h
        have hle : ∀ {m'}, scan m' (raw ++ ['"']) = some r → Fits p (c :: raw) r .escape := by
          intro m' hm
          have := (ih hm).count_le
          simp only [Fits, List.countP_cons]
          omega
        split_ifs at h
        · exact hle h
        · exact hle h
    | code left value =>
      rw [scan] at h
      cases hd : hexValue c with
      | none => simp [hd] at h
      | some v =>
        rw [hd] at h
        have hc := hcount (c := c) (Or.inr (by simp [hd]))
        simp only at h
        split_ifs at h
        · cases hs : scalar (value * 16 + v) with
          | none => simp [hs] at h
          | some x =>
            rw [hs] at h
            obtain ⟨r', hr', rfl⟩ := Option.map_eq_some_iff.mp h
            have hle := (ih hr').count_le
            have hx := countP_cons_le (p := p) x r'.1
            simp only [Fits, List.countP_cons (a := c), hc, if_true]
            omega
        · have hle := (ih h).count_le
          simp only [Fits, List.countP_cons]
          omega

end Strings

section Lines

def pairLine (key raw : List Char) : List Char := key ++ (" = \"".toList ++ (raw ++ ['"']))

variable {key raw : List Char}

lemma bareKey_head {c : Char} (h : isBareKeyChar c = true) :
    isBlank c = false ∧ c ≠ '#' ∧ c ≠ '[' := by
  refine ⟨?_, ?_, ?_⟩
  · by_contra hb
    simp only [isBlank, Bool.not_eq_false, Bool.or_eq_true, beq_iff_eq] at hb
    rcases hb with rfl | rfl
    · exact absurd h (by decide)
    · exact absurd h (by decide)
  · rintro rfl
    exact absurd h (by decide)
  · rintro rfl
    exact absurd h (by decide)

lemma parsePair_pairLine (hk : key ≠ []) (hb : ∀ c ∈ key, isBareKeyChar c = true) :
    parsePair (pairLine key raw) = (parseValue ('"' :: (raw ++ ['"']))).bind
      (fun r => if endsLine r.2 then some (.pair key r.1) else none) := by
  have htake : (pairLine key raw).takeWhile isBareKeyChar = key := by
    rw [pairLine, List.takeWhile_append_of_pos hb]
    simp [isBareKeyChar]
  have hdrop : (pairLine key raw).dropWhile isBareKeyChar = " = \"".toList ++ (raw ++ ['"']) := by
    rw [pairLine, List.dropWhile_append_of_pos hb]
    simp [isBareKeyChar]
  have hskip : skip (" = \"".toList ++ (raw ++ ['"'])) = '=' :: ' ' :: '"' :: (raw ++ ['"']) := rfl
  have hskip' : skip (' ' :: '"' :: (raw ++ ['"'])) = '"' :: (raw ++ ['"']) := rfl
  simp only [parsePair, htake, if_neg hk, hdrop, hskip, hskip']
  cases parseValue ('"' :: (raw ++ ['"'])) with
  | none => rfl
  | some r => rfl

lemma parseLine_pairLine (hk : key ≠ []) (hb : ∀ c ∈ key, isBareKeyChar c = true) :
    parseLine (pairLine key raw) = (parseValue ('"' :: (raw ++ ['"']))).bind
      (fun r => if endsLine r.2 then some (.pair key r.1) else none) := by
  have hreturn : dropReturn (pairLine key raw) = pairLine key raw := by
    have hlast : (pairLine key raw).getLast? = some '"' := by
      rw [pairLine, ← List.append_assoc, ← List.append_assoc, List.getLast?_concat]
    simp [dropReturn, hlast]
  have hpair : parsePair (pairLine key raw) = _ := parsePair_pairLine hk hb
  cases key with
  | nil => exact absurd rfl hk
  | cons c key =>
    obtain ⟨hblank, hhash, hbracket⟩ := bareKey_head (hb c List.mem_cons_self)
    have hskip : skip (pairLine (c :: key) raw) = pairLine (c :: key) raw := by
      simp [skip, pairLine, hblank]
    rw [parseLine, hreturn, hskip, ← hpair]
    simp only [pairLine, List.cons_append]
    split
    · simp_all
    · simp_all
    · simp_all
    · simp_all
    · rfl

lemma parseValue_quote {x : List Char} {r : Value × List Char} (h : parseValue ('"' :: x) = some r) :
    ∃ s, scan .plain x = some s ∧ r = (.str s.1, s.2) := by
  rw [parseValue.eq_def] at h
  split at h
  · cases h
  · rename_i rest _ heq
    cases heq
    obtain ⟨s, hs, rfl⟩ := Option.map_eq_some_iff.mp h
    exact ⟨s, hs, rfl⟩
  · rename_i hne
    exact absurd rfl (hne x)

lemma parseValue_clear (hc : ∀ c ∈ raw, isClear c = true) :
    parseValue ('"' :: (raw ++ ['"'])) = some (.str raw, []) := by
  cases raw with
  | nil => rfl
  | cons c raw =>
    have hq : c ≠ '"' := by
      rintro rfl
      exact absurd (hc _ List.mem_cons_self) (by decide)
    rw [List.cons_append, parseValue, ← List.cons_append, scan_clear hc]
    · rfl
    · rintro t ht
      exact hq (List.cons.inj ht).1

lemma parseLine_clear (hk : key ≠ []) (hb : ∀ c ∈ key, isBareKeyChar c = true)
    (hc : ∀ c ∈ raw, isClear c = true) :
    parseLine (pairLine key raw) = some (.pair key (.str raw)) := by
  rw [parseLine_pairLine hk hb, parseValue_clear hc]
  rfl

lemma parseLine_fits {p : Char → Bool}
    (hp : ∀ c, p c = false → simpleEscape c = none ∧ hexValue c = none) (hk : key ≠ [])
    (hb : ∀ c ∈ key, isBareKeyChar c = true) {l : Line}
    (h : parseLine (pairLine key raw) = some l) :
    ∃ v, l = .pair key (.str v) ∧
      ((v = raw ∧ ∀ c ∈ raw, isClear c = true) ∨ v.countP p < raw.countP p) := by
  rw [parseLine_pairLine hk hb] at h
  obtain ⟨r, hr, hl⟩ := Option.bind_eq_some_iff.mp h
  obtain ⟨s, hs, rfl⟩ := parseValue_quote hr
  split_ifs at hl
  cases hl
  refine ⟨s.1, rfl, ?_⟩
  rcases scan_fits hp hs with ⟨rfl, hclear⟩ | hlt
  · exact Or.inl ⟨rfl, hclear⟩
  · exact Or.inr hlt

def unlines (ls : List (List Char)) : List Char := ls.flatMap (· ++ ['\n'])

lemma splitOn_unlines {ls : List (List Char)} (h : ∀ l ∈ ls, '\n' ∉ l) :
    (unlines ls).splitOn '\n' = ls ++ [[]] := by
  induction ls with
  | nil => rfl
  | cons l ls ih =>
    have hl := h l List.mem_cons_self
    have ht := ih (fun x hx => h x (List.mem_cons_of_mem l hx))
    simp only [unlines, List.flatMap_cons, List.append_assoc, List.singleton_append] at ht ⊢
    rw [List.splitOn_append_cons_self_of_not_mem hl, ht]
    rfl

lemma enterAll_append (s : Scope) (ls ms : List Line) :
    enterAll s (ls ++ ms) = (enterAll s ls).bind (fun t => enterAll t ms) := by
  induction ls generalizing s with
  | nil => rfl
  | cons l ls ih =>
    simp only [List.cons_append, enterAll]
    cases s.enter l with
    | none => rfl
    | some t => exact ih t

lemma enterAll_blank (s : Scope) (lines : List Line) :
    enterAll s (lines ++ [.blank]) = enterAll s lines := by
  rw [enterAll_append]
  cases enterAll s lines with
  | none => rfl
  | some t => rfl

lemma ownPairs_blank (lines : List Line) : ownPairs (lines ++ [.blank]) = ownPairs lines := by
  induction lines with
  | nil => rfl
  | cons l lines ih => cases l <;> simp [ownPairs, ih]

lemma elements_blank (p : Path) (lines : List Line) :
    elements p (lines ++ [.blank]) = elements p lines := by
  induction lines with
  | nil => rfl
  | cons l lines ih => cases l <;> simp [elements, ih, ownPairs_blank]

lemma parse_unlines {ls : List (List Char)} (h : ∀ l ∈ ls, '\n' ∉ l) {out : List Line} :
    parse (unlines ls) = some out ↔
      ∃ lines, List.Forall₂ (fun l x => parseLine l = some x) ls lines ∧
        (enterAll .init lines).isSome ∧ out = lines ++ [.blank] := by
  have hmap : (ls ++ [[]]).mapM parseLine =
      (ls.mapM parseLine).map (· ++ [Line.blank]) := by
    rw [List.mapM_append]
    cases ls.mapM parseLine with
    | none => rfl
    | some lines => rfl
  simp only [parse, splitOn_unlines h, hmap, ← mapM_eq_some]
  cases ls.mapM parseLine with
  | none => simp
  | some lines =>
    simp only [Option.map_some, enterAll_blank, Option.some.injEq, exists_eq_left']
    constructor
    · intro he
      split_ifs at he with hs
      cases he
      exact ⟨hs, rfl⟩
    · intro he
      rw [if_pos he.1, he.2]

end Lines

end MediaServo.Foundations.Toml
