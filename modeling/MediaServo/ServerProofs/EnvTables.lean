import MediaServo.ServerProofs.Lifecycle

/-! What the merge of the manual variables makes of a rendering: the lines of the blocks, the entries
that each application gets, and the lines that these are spread over in the text. -/

namespace MediaServo.Server.Lifecycle

open MediaServo.Foundations
open Lines (Text lines chomp chomp_clean break_lines break_chomp)

instance textLawful : LawfulBEq Text := inferInstance

instance slotLawful : LawfulBEq (Text × Text) := inferInstance

section Keys

variable {k k' v v' s : Text} {c : Char}

def bareChar (c : Char) : Bool := c.isAlphanum || c == '_' || c == '-'

/-- A bare key of TOML. -/
def BareKey (k : Text) : Prop := k ≠ [] ∧ ∀ c ∈ k, bareChar c = true

instance : DecidablePred BareKey := fun k =>
  inferInstanceAs (Decidable (k ≠ [] ∧ ∀ c ∈ k, bareChar c = true))

lemma bareChar_solid (h : bareChar c = true) : isWhitespace c = false := by
  have hn : (97 ≤ c.toNat ∧ c.toNat ≤ 122) ∨ (65 ≤ c.toNat ∧ c.toNat ≤ 90) ∨
      (48 ≤ c.toNat ∧ c.toNat ≤ 57) ∨ c.toNat = 95 ∨ c.toNat = 45 := by
    delta bareChar Char.isAlphanum Char.isAlpha Char.isUpper Char.isLower Char.isDigit at h
    simp only [Bool.or_eq_true, beq_iff_eq, Bool.and_eq_true, decide_eq_true_eq,
      UInt32.le_iff_toNat_le] at h
    obtain (((h | h) | h) | rfl) | rfl := h
    · exact Or.inr (Or.inl h)
    · exact Or.inl h
    · exact Or.inr (Or.inr (Or.inl h))
    · exact Or.inr (Or.inr (Or.inr (Or.inl rfl)))
    · exact Or.inr (Or.inr (Or.inr (Or.inr rfl)))
  simp only [isWhitespace, Bool.or_eq_false_iff, Bool.and_eq_false_iff, decide_eq_false_iff_not,
    beq_eq_false_iff_ne]
  omega

lemma BareKey.not_mem (h : BareKey k) (hc : bareChar c = false) : c ∉ k := by
  intro hmem
  rw [h.2 c hmem] at hc
  cases hc

lemma pair_space (k v : Text) : pair k v = k ++ ' ' :: '=' :: ' ' :: '"' :: (v ++ ['"']) := by
  have h : " = \"".toList = [' ', '=', ' ', '"'] := by decide
  rw [pair_snoc, h]
  simp

lemma pair_assign (k v : Text) : pair k v = (k ++ [' ']) ++ '=' :: ' ' :: '"' :: (v ++ ['"']) := by
  simp [pair_space]

lemma pair_inj (hk : BareKey k) (hk' : BareKey k') (h : pair k v = pair k' v') : k = k' ∧ v = v' := by
  have hs := congrArg (Lines.splitOnce ' ') h
  rw [pair_space, pair_space, Lines.splitOnce_append (hk.not_mem (by decide)),
    Lines.splitOnce_append (hk'.not_mem (by decide))] at hs
  simpa using hs

lemma trim_bare (hk : BareKey k) (v : Text) : trim (pair k v) = pair k v := by
  obtain ⟨c, r, rfl⟩ := List.exists_cons_of_ne_nil hk.1
  exact trim_pair (bareChar_solid (hk.2 c (by simp)))

lemma bracket_bare (hk : BareKey k) (v : Text) : startsWith "[" (trim (pair k v)) = false := by
  rw [trim_bare hk, ← Bool.not_eq_true, startsWith_bracket]
  intro h
  obtain ⟨c, r, rfl⟩ := List.exists_cons_of_ne_nil hk.1
  have hc : c = '[' := by simpa [pair_space] using h
  exact hk.not_mem (c := '[') (by decide) (by simp [hc])

lemma not_header_bare (hk : BareKey k) {header : String} (hr : header.toList.head? = some '[') :
    isHeader header (pair k v) = false := by
  rw [← Bool.not_eq_true]
  intro h
  have hb := header_bracket hr h
  rw [bracket_bare hk] at hb
  cases hb

lemma key_bare (hk : BareKey k) (v : Text) : trim ((pair k v).takeWhile (· ≠ '=')) = k := by
  have htake : (pair k v).takeWhile (· ≠ '=') = k ++ [' '] := by
    rw [pair_assign, List.takeWhile_append_of_pos, List.takeWhile_cons_of_neg (by simp), List.append_nil]
    intro c hc
    obtain hc | hc := List.mem_append.mp hc
    · have hne : c ≠ '=' := fun he => hk.not_mem (c := '=') (by decide) (he ▸ hc)
      simpa using hne
    · rw [List.mem_singleton.mp hc]
      decide
  rw [htake]
  have hb : trim (k ++ [' ']) = trim k := Lines.trim_append_blank (by decide) k
  obtain ⟨c, r, rfl⟩ := List.exists_cons_of_ne_nil hk.1
  rw [hb]
  exact Lines.trim_solid (bareChar_solid (hk.2 c (by simp)))
    (bareChar_solid (hk.2 _ (List.getLast_mem (by simp))))

lemma lineKey_bare (hk : BareKey k) (v : Text) : lineKey (pair k v) = some k := by
  rw [lineKey, if_pos (pair_assigns k v), key_bare hk]

lemma parse_bare (hk : BareKey k) (v : Text) : parseQuotedKv (pair k v) = some (k, unescapeToml v) := by
  have hdrop : (pair k v).dropWhile (· ≠ '=') = '=' :: ' ' :: '"' :: (v ++ ['"']) := by
    rw [pair_assign, List.dropWhile_append_of_pos, List.dropWhile_cons_of_neg (by simp)]
    intro c hc
    obtain hc | hc := List.mem_append.mp hc
    · have hne : c ≠ '=' := fun he => hk.not_mem (c := '=') (by decide) (he ▸ hc)
      simpa using hne
    · rw [List.mem_singleton.mp hc]
      decide
  have htrim : trim (' ' :: '"' :: (v ++ ['"'])) = '"' :: (v ++ ['"']) := by
    have hb : trim (' ' :: '"' :: (v ++ ['"'])) = trim ('"' :: (v ++ ['"'])) := by
      rw [trim, Lines.trim, List.dropWhile_cons_of_pos (by decide)]
      rfl
    rw [hb]
    apply Lines.trim_solid quote_solid
    simp [quote_solid]
  rw [parseQuotedKv, if_pos (pair_assigns k v), hdrop, List.drop_one, List.tail_cons, htrim, key_bare hk]
  simp [unquote]

lemma escape_cons (c : Char) (s : Text) : escapeToml (c :: s) =
    (if c = '\\' then ['\\', '\\'] else if c = '"' then ['\\', '"'] else [c]) ++ escapeToml s := by
  have h₁ : "\\\\".toList = ['\\', '\\'] := by decide
  have h₂ : "\\\"".toList = ['\\', '"'] := by decide
  simp only [escapeToml, List.flatMap_cons, h₁, h₂]

lemma unescape_append (s t : Text) : unescapeToml (escapeToml s ++ t) = s ++ unescapeToml t := by
  induction s with
  | nil => rfl
  | cons c s ih =>
    rw [escape_cons]
    by_cases hb : c = '\\'
    · simp only [if_pos hb, List.cons_append, List.nil_append]
      rw [unescapeToml, if_pos (Or.inl rfl), ih, hb]
    · by_cases hq : c = '"'
      · simp only [if_neg hb, if_pos hq, List.cons_append, List.nil_append]
        rw [unescapeToml, if_pos (Or.inr rfl), ih, hq]
      · simp only [if_neg hb, if_neg hq, List.cons_append, List.nil_append]
        rw [unescapeToml, ih]
        · exact fun h => absurd h hb
        · exact fun _ _ h => absurd h hb

lemma unescape_escape (s : Text) : unescapeToml (escapeToml s) = s := by
  have h := unescape_append s []
  rwa [List.append_nil, unescapeToml, List.append_nil] at h

lemma unescape_plain (h : '\\' ∉ s) : unescapeToml s = s := by
  induction s with
  | nil => rfl
  | cons c s ih =>
    simp only [List.mem_cons, not_or] at h
    rw [unescapeToml, ih h.2]
    · exact fun hc => absurd hc.symm h.1
    · exact fun _ _ hc => absurd hc.symm h.1

lemma escape_append (s t : Text) : escapeToml (s ++ t) = escapeToml s ++ escapeToml t :=
  List.flatMap_append

lemma escape_head (s : Text) : (escapeToml s).head? ≠ some '"' := by
  cases s with
  | nil => simp [escapeToml]
  | cons c s =>
    rw [escape_cons]
    split_ifs with hb hq
    · simp
    · simp
    · simpa using hq

lemma escape_quote {u w : Text} (h : escapeToml s = u ++ c :: '"' :: w) : c = '\\' := by
  induction s generalizing u with
  | nil => simp [escapeToml] at h
  | cons x s ih =>
    have hs := escape_head s
    rw [escape_cons] at h
    by_cases hb : x = '\\'
    · rw [if_pos hb] at h
      rcases u with _ | ⟨a, _ | ⟨a', u⟩⟩
      · exact (List.cons.inj h).1.symm
      · exact (List.cons.inj (List.cons.inj h).2).1.symm
      · exact ih (List.cons.inj (List.cons.inj h).2).2
    · by_cases hq : x = '"'
      · rw [if_neg hb, if_pos hq] at h
        rcases u with _ | ⟨a, _ | ⟨a', u⟩⟩
        · exact (List.cons.inj h).1.symm
        · have htail : escapeToml s = '"' :: w := (List.cons.inj (List.cons.inj h).2).2
          rw [htail] at hs
          exact absurd rfl hs
        · exact ih (List.cons.inj (List.cons.inj h).2).2
      · rw [if_neg hb, if_neg hq] at h
        rcases u with _ | ⟨a, u⟩
        · have htail : escapeToml s = '"' :: w := (List.cons.inj h).2
          rw [htail] at hs
          exact absurd rfl hs
        · exact ih (List.cons.inj h).2

lemma escape_split {u w : Text} (h : escapeToml s = u ++ '"' :: w) :
    ∃ a b, s = a ++ '"' :: b ∧ u = escapeToml a ++ ['\\'] := by
  induction s generalizing u with
  | nil => simp [escapeToml] at h
  | cons x s ih =>
    rw [escape_cons] at h
    by_cases hb : x = '\\'
    · rw [if_pos hb] at h
      rcases u with _ | ⟨a, _ | ⟨a', u⟩⟩
      · exact absurd (List.cons.inj h).1 (by decide)
      · exact absurd (List.cons.inj (List.cons.inj h).2).1 (by decide)
      · obtain ⟨ha, h⟩ := List.cons.inj h
        obtain ⟨ha', h⟩ := List.cons.inj h
        obtain ⟨r, b, hs, hu⟩ := ih h
        exact ⟨x :: r, b, by simp [hs], by simp [escape_cons, hb, ← ha, ← ha', hu]⟩
    · by_cases hq : x = '"'
      · rw [if_neg hb, if_pos hq] at h
        rcases u with _ | ⟨a, _ | ⟨a', u⟩⟩
        · exact absurd (List.cons.inj h).1 (by decide)
        · obtain ⟨rfl, -⟩ := List.cons.inj h
          exact ⟨[], s, by simp [hq], rfl⟩
        · obtain ⟨ha, h⟩ := List.cons.inj h
          obtain ⟨ha', h⟩ := List.cons.inj h
          obtain ⟨r, b, hs, hu⟩ := ih h
          exact ⟨x :: r, b, by simp [hs], by simp [escape_cons, hq, ← ha, ← ha', hu]⟩
      · rw [if_neg hb, if_neg hq] at h
        rcases u with _ | ⟨a, u⟩
        · exact absurd (List.cons.inj h).1 hq
        · obtain ⟨ha, h⟩ := List.cons.inj h
          obtain ⟨r, b, hs, hu⟩ := ih h
          exact ⟨x :: r, b, by simp [hs], by simp [escape_cons, hb, hq, ← ha, hu]⟩

lemma escape_break (u w : Text) : escapeToml (u ++ '\n' :: w) = escapeToml u ++ '\n' :: escapeToml w := by
  have hnl : escapeToml ['\n'] = ['\n'] := by decide
  have hcons : escapeToml ('\n' :: w) = '\n' :: escapeToml w := by
    rw [← List.singleton_append, escape_append, hnl]
    rfl
  rw [escape_append, hcons]

lemma break_escape : '\n' ∈ escapeToml s ↔ '\n' ∈ s := by
  rw [escapeToml, List.mem_flatMap]
  constructor
  · rintro ⟨c, hc, hn⟩
    split_ifs at hn
    · exact absurd hn (by decide)
    · exact absurd hn (by decide)
    · rwa [List.mem_singleton.mp hn]
  · intro h
    exact ⟨'\n', h, by decide⟩

end Keys

section Blocks

/-- An entry of a rendering: the variables that are rendered for it, and the blank line that stands
before the next one. -/
structure Block where
  name : Text
  command : Text
  vars : List (Text × Text)
  tail : List Text

def Block.head (b : Block) : List Text :=
  ["[[apps]]".toList, pair "name".toList b.name, pair "command".toList b.command,
    pair "restart_policy".toList "always".toList]

/-- The table of an entry with manual variables merged. Where none is rendered, each of them brings a
header of its own. -/
def Block.table (b : Block) (ext : List EnvEntry) : List Text :=
  if b.vars = [] then ext.map fun e => "[apps.env]\n".toList ++ e.line
  else "[apps.env]".toList :: ((b.vars.map fun kv => pair kv.1 kv.2) ++ ext.map EnvEntry.line)

def Block.around (logDir : Text) (b : Block) (mid : List Text) : List Text :=
  b.head ++ mid ++ (pushLogs b.name logDir ++ b.tail)

structure Block.Fits (b : Block) : Prop where
  name : PlainName b.name
  solid : '\\' ∉ b.name
  command : '\n' ∉ b.command
  vars : ∀ kv ∈ b.vars, kv.1 ∈ managedEnvKeys ∧ '\n' ∉ kv.2
  tail : b.tail = [] ∨ b.tail = [[]]

structure EnvEntry.Manual (e : EnvEntry) : Prop where
  bare : BareKey e.key
  manual : e.key ∉ managedEnvKeys

def Block.Claims (b : Block) (ext : List EnvEntry) (a : Text) : Prop :=
  b.name = a ∨ b.vars ≠ [] ∧ ∃ e ∈ ext, e.key = "name".toList ∧ escapeToml e.value = a

variable {b : Block} {logDir a k v x : Text} {ext : List EnvEntry} {mid : List Text} {e : EnvEntry}

lemma managed_bare : ∀ k ∈ managedEnvKeys, BareKey k := by decide

lemma managed_not_name : "name".toList ∉ managedEnvKeys := by decide

lemma trim_eq_name (hk : BareKey k) :
    trim (pair k v) = pair "name".toList a ↔ k = "name".toList ∧ v = a := by
  rw [trim_bare hk]
  constructor
  · exact pair_inj hk (by decide)
  · rintro ⟨rfl, rfl⟩
    rfl

lemma bracket_ne_name (h : startsWith "[" (trim x)) : trim x ≠ pair "name".toList a := by
  intro he
  have hn : BareKey "name".toList := by decide
  have hb := bracket_bare hn a
  rw [trim_bare hn, ← he, h] at hb
  cases hb

lemma table_bracket (e : EnvEntry) : startsWith "[" (trim ("[apps.env]\n".toList ++ e.line)) := by
  rw [EnvEntry.line, trim_table, startsWith_bracket]
  rfl

lemma mem_head : x ∈ b.head ↔ x = "[[apps]]".toList ∨ x = pair "name".toList b.name ∨
    x = pair "command".toList b.command ∨ x = pair "restart_policy".toList "always".toList := by
  simp [Block.head]

lemma mem_logs {name : Text} : x ∈ pushLogs name logDir ↔ x = "[apps.logs]".toList ∨
    x = pair "stdout".toList (logDir ++ "/".toList ++ name ++ ".out.log".toList) ∨
    x = pair "stderr".toList (logDir ++ "/".toList ++ name ++ ".err.log".toList) := by
  simp [pushLogs]

lemma mem_tail (hf : b.Fits) (h : x ∈ b.tail) : x = [] := by
  obtain ht | ht := hf.tail
  · rw [ht] at h
    cases h
  · rw [ht] at h
    exact List.mem_singleton.mp h

lemma head_name : (∃ x ∈ b.head, trim x = pair "name".toList a) ↔ b.name = a := by
  constructor
  · rintro ⟨x, hx, ht⟩
    obtain rfl | rfl | rfl | rfl := mem_head.1 hx
    · exact absurd ht (bracket_ne_name (by decide))
    · exact ((trim_eq_name (by decide)).1 ht).2
    · exact absurd ((trim_eq_name (by decide)).1 ht).1 (by decide)
    · exact absurd ((trim_eq_name (by decide)).1 ht).1 (by decide)
  · rintro rfl
    exact ⟨_, mem_head.2 (Or.inr (Or.inl rfl)), trim_bare (by decide) _⟩

lemma logs_name (hf : b.Fits) (hx : x ∈ pushLogs b.name logDir ++ b.tail) :
    trim x ≠ pair "name".toList a := by
  obtain hx | hx := List.mem_append.mp hx
  · obtain rfl | rfl | rfl := mem_logs.1 hx
    · exact bracket_ne_name (by decide)
    · exact fun ht => absurd ((trim_eq_name (by decide)).1 ht).1 (by decide)
    · exact fun ht => absurd ((trim_eq_name (by decide)).1 ht).1 (by decide)
  · rw [mem_tail hf hx]
    intro h
    have hlen := congrArg List.length h
    simp [trim, Lines.trim, pair] at hlen

lemma table_name (hf : b.Fits) (hm : ∀ e ∈ ext, e.Manual) :
    (∃ x ∈ b.table ext, trim x = pair "name".toList a) ↔
      b.vars ≠ [] ∧ ∃ e ∈ ext, e.key = "name".toList ∧ escapeToml e.value = a := by
  rw [Block.table]
  by_cases hv : b.vars = []
  · rw [if_pos hv]
    constructor
    · rintro ⟨x, hx, ht⟩
      obtain ⟨e, -, rfl⟩ := List.mem_map.mp hx
      exact absurd ht (bracket_ne_name (table_bracket e))
    · exact fun h => absurd hv h.1
  · rw [if_neg hv]
    constructor
    · rintro ⟨x, hx, ht⟩
      obtain rfl | hx := List.mem_cons.mp hx
      · exact absurd ht (bracket_ne_name (by decide))
      · obtain hx | hx := List.mem_append.mp hx
        · obtain ⟨kv, hkv, rfl⟩ := List.mem_map.mp hx
          have hk := (hf.vars kv hkv).1
          have hn := ((trim_eq_name (managed_bare _ hk)).1 ht).1
          exact absurd (hn ▸ hk) managed_not_name
        · obtain ⟨e, he, rfl⟩ := List.mem_map.mp hx
          exact ⟨hv, e, he, (trim_eq_name (hm e he).bare).1 ht⟩
    · rintro ⟨-, e, he, hk, hval⟩
      refine ⟨e.line, List.mem_cons_of_mem _ (List.mem_append_right _ (List.mem_map_of_mem he)), ?_⟩
      exact (trim_eq_name (hm e he).bare).2 ⟨hk, hval⟩

lemma claims_iff (hf : b.Fits) (hm : ∀ e ∈ ext, e.Manual) :
    (∃ x ∈ b.around logDir (b.table ext), trim x = pair "name".toList a) ↔ b.Claims ext a := by
  rw [Block.Claims, ← head_name (b := b), ← table_name hf hm]
  constructor
  · rintro ⟨x, hx, ht⟩
    simp only [Block.around, List.mem_append] at hx
    obtain (hx | hx) | hx := hx
    · exact Or.inl ⟨x, hx, ht⟩
    · exact Or.inr ⟨x, hx, ht⟩
    · exact absurd ht (logs_name hf (List.mem_append.mpr hx))
  · rintro (⟨x, hx, ht⟩ | ⟨x, hx, ht⟩)
    · exact ⟨x, by simp [Block.around, hx], ht⟩
    · exact ⟨x, by simp [Block.around, hx], ht⟩

lemma around_quiet (hf : b.Fits) (hm : ∀ e ∈ ext, e.Manual) :
    ∀ x ∈ (b.around logDir (b.table ext)).tail, isHeader "[[apps]]" x = false := by
  have hbare : ∀ k v : Text, BareKey k → isHeader "[[apps]]" (pair k v) = false :=
    fun k v hk => not_header_bare hk (by decide)
  intro x hx
  rw [Block.around, Block.head, List.cons_append, List.cons_append, List.tail_cons] at hx
  simp only [List.mem_append, List.mem_cons, List.not_mem_nil, or_false] at hx
  obtain ((rfl | rfl | rfl) | hx) | hx | hx := hx
  · exact hbare _ _ (by decide)
  · exact hbare _ _ (by decide)
  · exact hbare _ _ (by decide)
  · rw [Block.table] at hx
    split_ifs at hx
    · obtain ⟨e, -, rfl⟩ := List.mem_map.mp hx
      exact table_not_header _ _ (by decide)
    · obtain rfl | hx := List.mem_cons.mp hx
      · decide
      · obtain hx | hx := List.mem_append.mp hx
        · obtain ⟨kv, hkv, rfl⟩ := List.mem_map.mp hx
          exact hbare _ _ (managed_bare _ (hf.vars kv hkv).1)
        · obtain ⟨e, he, rfl⟩ := List.mem_map.mp hx
          exact hbare _ _ (hm e he).bare
  · obtain rfl | rfl | rfl := mem_logs.1 hx
    · decide
    · exact hbare _ _ (by decide)
    · exact hbare _ _ (by decide)
  · rw [mem_tail hf hx]
    decide

lemma putLine_fresh {key line : Text} {ls : List Text} (h : ∀ l ∈ ls, lineKey l ≠ some key) :
    putLine key line ls = ls ++ [line] := by
  induction ls with
  | nil => rfl
  | cons l ls ih =>
    rw [putLine, if_neg (h l (by simp)), ih fun x hx => h x (by simp [hx]), List.cons_append]

lemma head_not_header (header : String) (hr : header.toList.head? = some '[')
    (hne : header ≠ "[[apps]]") : ∀ x ∈ b.head, isHeader header x = false := by
  intro x hx
  obtain rfl | rfl | rfl | rfl := mem_head.1 hx
  · rw [not_isHeader, show trim "[[apps]]".toList = "[[apps]]".toList by decide]
    exact fun he => hne (String.toList_inj.mp he.symm)
  · exact not_header_bare (by decide) hr
  · exact not_header_bare (by decide) hr
  · exact not_header_bare (by decide) hr

lemma logs_not_env (hf : b.Fits) (hx : x ∈ pushLogs b.name logDir ++ b.tail) :
    isHeader "[apps.env]" x = false := by
  obtain hx | hx := List.mem_append.mp hx
  · obtain rfl | rfl | rfl := mem_logs.1 hx
    · decide
    · exact not_header_bare (by decide) (by decide)
    · exact not_header_bare (by decide) (by decide)
  · rw [mem_tail hf hx]
    decide

lemma logs_cons : pushLogs b.name logDir ++ b.tail =
    "[apps.logs]".toList :: ((pushLogs b.name logDir).tail ++ b.tail) := rfl

lemma table_not_rendered (hv : b.vars = []) (ext : List EnvEntry) :
    b.table ext = ext.map fun e => "[apps.env]\n".toList ++ e.line := by
  rw [Block.table, if_pos hv]

lemma table_rendered (hv : b.vars ≠ []) (ext : List EnvEntry) : b.table ext = "[apps.env]".toList ::
    ((b.vars.map fun kv => pair kv.1 kv.2) ++ ext.map EnvEntry.line) := by
  rw [Block.table, if_neg hv]

lemma not_rendered_header (header : String) (hv : b.vars = []) (hr : header.toList.head? = some '[')
    (hl : header.toList.getLast? = some ']') (hne : header ≠ "[[apps]]") :
    ∀ x ∈ b.head ++ b.table ext, isHeader header x = false := by
  intro x hx
  obtain hx | hx := List.mem_append.mp hx
  · exact head_not_header header hr hne x hx
  · rw [table_not_rendered hv] at hx
    obtain ⟨e, -, rfl⟩ := List.mem_map.mp hx
    exact table_not_header _ _ hl

lemma envTable_not_rendered (hf : b.Fits) (hv : b.vars = []) :
    envTable (b.around logDir (b.table ext)) = none := by
  have hd : (b.around logDir (b.table ext)).dropWhile (fun x => !isHeader "[apps.env]" x) = [] := by
    rw [List.dropWhile_eq_nil_iff]
    intro x hx
    obtain hx | hx := List.mem_append.mp hx
    · simp [not_rendered_header "[apps.env]" hv (by decide) (by decide) (by decide) x hx]
    · simp [logs_not_env hf hx]
  rw [envTable, hd]

lemma envTable_rendered (hf : b.Fits) (hm : ∀ e ∈ ext, e.Manual) (hv : b.vars ≠ []) :
    envTable (b.around logDir (b.table ext)) = some (b.head ++ ["[apps.env]".toList],
      (b.vars.map fun kv => pair kv.1 kv.2) ++ ext.map EnvEntry.line,
      pushLogs b.name logDir ++ b.tail) := by
  have hhead : ∀ x ∈ b.head, (!isHeader "[apps.env]" x) = true := by
    intro x hx
    simp [head_not_header "[apps.env]" (by decide) (by decide) x hx]
  have hlines : ∀ x ∈ (b.vars.map fun kv => pair kv.1 kv.2) ++ ext.map EnvEntry.line,
      (!startsWith "[" (trim x)) = true := by
    intro x hx
    obtain hx | hx := List.mem_append.mp hx
    · obtain ⟨kv, hkv, rfl⟩ := List.mem_map.mp hx
      simp [bracket_bare (managed_bare _ (hf.vars kv hkv).1)]
    · obtain ⟨e, he, rfl⟩ := List.mem_map.mp hx
      simp [EnvEntry.line, bracket_bare (hm e he).bare]
  have henv : ¬(!isHeader "[apps.env]" "[apps.env]".toList) = true := by decide
  have hstop : ¬(!startsWith "[" (trim "[apps.logs]".toList)) = true := by decide
  rw [envTable, Block.around, table_rendered hv, List.append_assoc, List.cons_append,
    List.dropWhile_append_of_pos hhead, List.takeWhile_append_of_pos hhead,
    List.dropWhile_cons_of_neg (by exact henv), List.takeWhile_cons_of_neg (by exact henv),
    List.append_nil]
  simp only
  rw [List.takeWhile_append_of_pos hlines, List.dropWhile_append_of_pos hlines, logs_cons,
    List.takeWhile_cons_of_neg (by exact hstop), List.dropWhile_cons_of_neg (by exact hstop),
    List.append_nil]

lemma mergeBlock_around (hf : b.Fits) (hm : ∀ e ∈ ext, e.Manual) (he : e.Manual)
    (hfresh : ∀ e' ∈ ext, e'.key ≠ e.key) :
    mergeBlock e (b.around logDir (b.table ext)) = b.around logDir (b.table (ext ++ [e])) := by
  by_cases hv : b.vars = []
  · have hpos : ∀ x ∈ b.head ++ b.table ext, (!isHeader "[apps.logs]" x) = true := by
      intro x hx
      simp [not_rendered_header "[apps.logs]" hv (by decide) (by decide) (by decide) x hx]
    have hstop : ¬(!isHeader "[apps.logs]" "[apps.logs]".toList) = true := by decide
    rw [mergeBlock, envTable_not_rendered hf hv]
    simp only [Block.around]
    rw [List.takeWhile_append_of_pos hpos, List.dropWhile_append_of_pos hpos, logs_cons,
      List.takeWhile_cons_of_neg (by exact hstop), List.dropWhile_cons_of_neg (by exact hstop),
      table_not_rendered hv, table_not_rendered hv]
    simp
  · have hput : ∀ l ∈ (b.vars.map fun kv => pair kv.1 kv.2) ++ ext.map EnvEntry.line,
        lineKey l ≠ some e.key := by
      intro l hl h
      obtain hl | hl := List.mem_append.mp hl
      · obtain ⟨kv, hkv, rfl⟩ := List.mem_map.mp hl
        have hk := (hf.vars kv hkv).1
        rw [lineKey_bare (managed_bare _ hk)] at h
        exact he.manual (Option.some.inj h ▸ hk)
      · obtain ⟨e', he', rfl⟩ := List.mem_map.mp hl
        rw [EnvEntry.line, lineKey_bare (hm e' he').bare] at h
        exact hfresh e' he' (Option.some.inj h)
    rw [mergeBlock, envTable_rendered hf hm hv]
    simp only
    rw [putLine_fresh hput, Block.around, table_rendered hv]
    simp

end Blocks

section Search

variable {want l a logDir : Text} {front body rest : List Text} {b : Block} {bs : List Block}
  {ext : Text → List EnvEntry}

lemma appBlock_skip (h : ∀ x ∈ front, isHeader "[[apps]]" x = false) (ls : List Text) :
    appBlock want (front ++ ls) = (appBlock want ls).map fun r => (front ++ r.1, r.2) := by
  induction front with
  | nil => simp
  | cons l front ih =>
    simp only [List.cons_append, appBlock, h l (by simp), Bool.false_and, Bool.false_eq_true, if_false]
    rw [ih fun x hx => h x (by simp [hx]), Option.map_map]
    rfl

lemma appBlock_block (hl : isHeader "[[apps]]" l) (hb : ∀ x ∈ body, isHeader "[[apps]]" x = false)
    (hr : ∀ x ∈ rest.head?, isHeader "[[apps]]" x) : appBlock want (l :: (body ++ rest)) =
      if (l :: body).any (fun x => trim x = want) then some ([], l :: body, rest)
      else (appBlock want rest).map fun r => (l :: body ++ r.1, r.2) := by
  have hpos : ∀ x ∈ body, (!isHeader "[[apps]]" x) = true := by
    intro x hx
    simp [hb x hx]
  have htake : (body ++ rest).takeWhile (fun x => !isHeader "[[apps]]" x) = body := by
    rw [List.takeWhile_append_of_pos hpos]
    cases rest with
    | nil => simp
    | cons x rest => rw [List.takeWhile_cons_of_neg (by simp [hr x rfl]), List.append_nil]
  have hdrop : (body ++ rest).dropWhile (fun x => !isHeader "[[apps]]" x) = rest := by
    rw [List.dropWhile_append_of_pos hpos]
    cases rest with
    | nil => rfl
    | cons x rest => exact List.dropWhile_cons_of_neg (by simp [hr x rfl])
  simp only [appBlock, htake, hdrop, hl, Bool.true_and]
  split_ifs
  · rfl
  · rw [appBlock_skip hb, Option.map_map]
    rfl

def Blocks (logDir : Text) (bs : List Block) (ext : Text → List EnvEntry) : List Text :=
  bs.flatMap fun b => b.around logDir (b.table (ext b.name))

lemma around_cons (mid : List Text) : b.around logDir mid =
    "[[apps]]".toList :: (b.around logDir mid).tail := rfl

lemma blocks_head : ∀ x ∈ (Blocks logDir bs ext).head?, isHeader "[[apps]]" x := by
  cases bs with
  | nil => simp [Blocks]
  | cons b bs =>
    intro x hx
    rw [Blocks, List.flatMap_cons, around_cons] at hx
    have hx' : "[[apps]]".toList = x := by simpa using hx
    rw [← hx']
    decide

lemma appBlock_cons (hf : b.Fits) (hm : ∀ e ∈ ext b.name, e.Manual) :
    appBlock (pair "name".toList a) (Blocks logDir (b :: bs) ext) =
      if b.around logDir (b.table (ext b.name)) |>.any (fun x => trim x = pair "name".toList a) then
        some ([], b.around logDir (b.table (ext b.name)), Blocks logDir bs ext)
      else (appBlock (pair "name".toList a) (Blocks logDir bs ext)).map fun r =>
        (b.around logDir (b.table (ext b.name)) ++ r.1, r.2) := by
  have hquiet : ∀ x ∈ (b.around logDir (b.table (ext b.name))).tail, isHeader "[[apps]]" x = false :=
    around_quiet hf hm
  have hhead : ∀ x ∈ (Blocks logDir bs ext).head?, isHeader "[[apps]]" x := blocks_head
  exact appBlock_block (by decide) hquiet hhead

variable (hf : ∀ b ∈ bs, b.Fits) (hm : ∀ a, ∀ e ∈ ext a, e.Manual)

include hf hm

lemma appBlock_miss (hc : ∀ b ∈ bs, ¬b.Claims (ext b.name) a) :
    appBlock (pair "name".toList a) (Blocks logDir bs ext) = none := by
  induction bs with
  | nil => rfl
  | cons b bs ih =>
    have hb := hf b (by simp)
    rw [appBlock_cons hb (hm _), ih (fun x hx => hf x (by simp [hx])) fun x hx => hc x (by simp [hx]),
      if_neg]
    · rfl
    · rw [List.any_eq_true]
      simp only [decide_eq_true_eq]
      rw [claims_iff hb (hm _)]
      exact hc b (by simp)

lemma appBlock_hit {bs₁ bs₂ : List Block} (hbs : bs = bs₁ ++ b :: bs₂) (hname : b.name = a)
    (hc : ∀ b ∈ bs₁, ¬b.Claims (ext b.name) a) :
    appBlock (pair "name".toList a) (Blocks logDir bs ext) = some (Blocks logDir bs₁ ext,
      b.around logDir (b.table (ext b.name)), Blocks logDir bs₂ ext) := by
  subst hbs
  induction bs₁ with
  | nil =>
    rw [List.nil_append, appBlock_cons (hf b (by simp)) (hm _), if_pos]
    · rfl
    · rw [List.any_eq_true]
      simp only [decide_eq_true_eq]
      rw [claims_iff (hf b (by simp)) (hm _)]
      exact Or.inl hname
  | cons x bs₁ ih =>
    have hx := hf x (by simp)
    rw [List.cons_append, appBlock_cons hx (hm _), if_neg,
      ih (fun y hy => hc y (by simp [hy])) fun y hy => hf y (List.mem_cons_of_mem _ hy)]
    · rfl
    · rw [List.any_eq_true]
      simp only [decide_eq_true_eq]
      rw [claims_iff hx (hm _)]
      exact hc x (by simp)

end Search

section First

variable {es fs : List EnvEntry} {e : EnvEntry} {p : Text × Text}

def EnvEntry.slot (e : EnvEntry) : Text × Text := (e.app, e.key)

def firsts (es : List EnvEntry) : List EnvEntry :=
  es.foldl (fun acc e => if e.slot ∈ acc.map EnvEntry.slot then acc else acc ++ [e]) []

lemma firsts_concat : firsts (es ++ [e]) =
    if e.slot ∈ (firsts es).map EnvEntry.slot then firsts es else firsts es ++ [e] := by
  rw [firsts, List.foldl_append]
  rfl

lemma slot_firsts : p ∈ (firsts es).map EnvEntry.slot ↔ p ∈ es.map EnvEntry.slot := by
  induction es using List.reverseRecOn with
  | nil => rfl
  | append_singleton es e ih =>
    rw [firsts_concat, List.map_append, List.mem_append, ← ih]
    split_ifs with h
    · constructor
      · exact Or.inl
      · rintro (hp | hp)
        · exact hp
        · rw [List.map_singleton, List.mem_singleton] at hp
          rwa [hp]
    · rw [List.map_append, List.mem_append]

lemma firsts_sublist : (firsts es).Sublist es := by
  induction es using List.reverseRecOn with
  | nil => exact List.Sublist.refl _
  | append_singleton es e ih =>
    rw [firsts_concat]
    split_ifs
    · exact ih.trans (List.sublist_append_left _ _)
    · exact ih.append (List.Sublist.refl _)

lemma nodup_firsts : ((firsts es).map EnvEntry.slot).Nodup := by
  induction es using List.reverseRecOn with
  | nil => exact List.nodup_nil
  | append_singleton es e ih =>
    rw [firsts_concat]
    split_ifs with h
    · exact ih
    · rw [List.map_append, List.nodup_append']
      refine ⟨ih, List.nodup_singleton _, ?_⟩
      rw [List.map_singleton, List.disjoint_singleton]
      exact h

lemma firsts_of_nodup (h : (es.map EnvEntry.slot).Nodup) : firsts es = es := by
  induction es using List.reverseRecOn with
  | nil => rfl
  | append_singleton es e ih =>
    rw [List.map_append, List.map_singleton, List.nodup_append', List.disjoint_singleton] at h
    rw [firsts_concat, ih h.1, if_neg h.2.2]

lemma find_firsts (p : Text × Text) :
    (firsts es).find? (fun e => e.slot = p) = es.find? fun e => e.slot = p := by
  induction es using List.reverseRecOn with
  | nil => rfl
  | append_singleton es e ih =>
    rw [firsts_concat, List.find?_append, ← ih]
    split_ifs with h
    · cases hfind : (firsts es).find? fun e => e.slot = p with
      | some x => rfl
      | none =>
        have hne : e.slot ≠ p := by
          rintro rfl
          obtain ⟨x, hx, hslot⟩ := List.mem_map.mp h
          have := List.find?_eq_none.mp hfind x hx
          simp [hslot] at this
        simp [hne]
    · rw [List.find?_append]

lemma mem_firsts_iff : e ∈ firsts es ↔ es.find? (fun x => x.slot = e.slot) = some e := by
  rw [← find_firsts]
  constructor
  · intro h
    cases hfind : (firsts es).find? fun x => x.slot = e.slot with
    | none =>
      have := List.find?_eq_none.mp hfind e h
      simp at this
    | some x =>
      have hx : x.slot = e.slot := by simpa using List.find?_some hfind
      exact congrArg some (List.inj_on_of_nodup_map nodup_firsts (List.mem_of_find?_eq_some hfind) h hx)
  · exact List.mem_of_find?_eq_some

lemma firsts_initial : firsts es <+: firsts (es ++ [e]) := by
  rw [firsts_concat]
  split_ifs
  · exact List.prefix_rfl
  · exact List.prefix_append _ _

def picked (es : List EnvEntry) (a : Text) : List EnvEntry := es.filter fun e => e.app = a

lemma mem_picked {a : Text} : e ∈ picked es a ↔ e ∈ es ∧ e.app = a := by
  simp [picked]

end First

section Fold

variable {front : List Text} {bs : List Block} {logDir : Text} {es fs : List EnvEntry} {e : EnvEntry}

/-- A block that is taken for that of another app, for one of its manual variables, stands behind the
block of that app, or there is none and the variable comes later. -/
def Unaliased (bs : List Block) (es : List EnvEntry) : Prop :=
  ∀ u e v, es = u ++ e :: v → ∀ x ∈ firsts es, x.key = "name".toList → escapeToml x.value = e.app →
    ∀ bs₁ b bs₂, bs = bs₁ ++ b :: bs₂ → b.vars ≠ [] → b.name = x.app →
      x.app = e.app ∨ e.app ∈ bs₁.map Block.name ∨ e.app ∉ bs.map Block.name ∧ x ∉ u

lemma Unaliased.init (h : Unaliased bs (es ++ [e])) : Unaliased bs es := by
  intro u x v hes y hy
  exact h u x (v ++ [e]) (by simp [hes]) y (firsts_initial.subset hy)

lemma Unaliased.claims (h : Unaliased bs (es ++ [e])) {bs₁ bs₂ : List Block} {b : Block}
    (hbs : bs = bs₁ ++ b :: bs₂) (hc : b.Claims (picked (firsts es) b.name) e.app) :
    b.name = e.app ∨ e.app ∈ bs₁.map Block.name := by
  obtain hname | ⟨hv, x, hx, hkey, hval⟩ := hc
  · exact Or.inl hname
  · obtain ⟨hx, happ⟩ := mem_picked.1 hx
    obtain hsame | hbefore | ⟨-, hnot⟩ :=
      h es e [] rfl x (firsts_initial.subset hx) hkey hval bs₁ b bs₂ hbs hv happ.symm
    · exact Or.inl (happ.symm.trans hsame)
    · exact Or.inr hbefore
    · exact absurd (firsts_sublist.subset hx) hnot

def Merged (front : List Text) (logDir : Text) (bs : List Block) (es : List EnvEntry) :
    List Text × List (Text × Text) :=
  (front ++ Blocks logDir bs (picked (firsts es)),
    ((firsts es).filter fun e => e.app ∈ bs.map Block.name).map EnvEntry.slot)

lemma blocks_append (bs₁ bs₂ : List Block) (ext : Text → List EnvEntry) :
    Blocks logDir (bs₁ ++ bs₂) ext = Blocks logDir bs₁ ext ++ Blocks logDir bs₂ ext :=
  List.flatMap_append

lemma blocks_congr {ext ext' : Text → List EnvEntry} (h : ∀ b ∈ bs, ext b.name = ext' b.name) :
    Blocks logDir bs ext = Blocks logDir bs ext' := by
  induction bs with
  | nil => rfl
  | cons b bs ih =>
    have hb := h b (by simp)
    have hrest := ih fun x hx => h x (by simp [hx])
    rw [Blocks, Blocks] at hrest
    rw [Blocks, Blocks, List.flatMap_cons, List.flatMap_cons, hb, hrest]

lemma picked_concat {a : Text} : picked (fs ++ [e]) a = if e.app = a then picked fs a ++ [e] else picked fs a := by
  rw [picked, List.filter_append]
  split_ifs with h
  · simp [picked, h]
  · simp [picked, h]

lemma mergeEntry_merged (hfront : ∀ x ∈ front, isHeader "[[apps]]" x = false)
    (hf : ∀ b ∈ bs, b.Fits) (hnodup : (bs.map Block.name).Nodup) (hm : ∀ x ∈ es ++ [e], x.Manual)
    (hu : Unaliased bs (es ++ [e])) :
    mergeEntry (Merged front logDir bs es) e = Merged front logDir bs (es ++ [e]) := by
  have hman : ∀ a, ∀ x ∈ picked (firsts es) a, x.Manual := by
    intro a x hx
    exact hm x (by simp [firsts_sublist.subset (mem_picked.1 hx).1])
  have hdone : e.slot ∈ (Merged front logDir bs es).2 ↔
      e.app ∈ bs.map Block.name ∧ e.slot ∈ (firsts es).map EnvEntry.slot := by
    simp only [Merged, List.mem_map, List.mem_filter, decide_eq_true_eq]
    constructor
    · rintro ⟨x, ⟨hx, b, hb, hname⟩, hslot⟩
      exact ⟨⟨b, hb, hname.trans (congrArg Prod.fst hslot)⟩, x, hx, hslot⟩
    · rintro ⟨⟨b, hb, hname⟩, x, hx, hslot⟩
      exact ⟨x, ⟨hx, b, hb, hname.trans (congrArg Prod.fst hslot).symm⟩, hslot⟩
  have hslot : (e.app, e.key) = e.slot := rfl
  rw [mergeEntry, hslot]
  by_cases hin : e.slot ∈ (Merged front logDir bs es).2
  · rw [if_pos hin, Merged, Merged, firsts_concat, if_pos (hdone.1 hin).2]
  · rw [if_neg hin]
    by_cases happ : e.app ∈ bs.map Block.name
    · have hfresh : e.slot ∉ (firsts es).map EnvEntry.slot := fun h => hin (hdone.2 ⟨happ, h⟩)
      obtain ⟨b, hb, hname⟩ := List.mem_map.mp happ
      obtain ⟨bs₁, bs₂, rfl⟩ := List.append_of_mem hb
      rw [List.map_append, List.map_cons, List.nodup_append', List.nodup_cons,
        List.disjoint_cons_right] at hnodup
      obtain ⟨-, ⟨hafter, -⟩, hbefore, -⟩ := hnodup
      have hhit : appBlock (pair "name".toList e.app) (Merged front logDir (bs₁ ++ b :: bs₂) es).1 =
          some (front ++ Blocks logDir bs₁ (picked (firsts es)),
            b.around logDir (b.table (picked (firsts es) b.name)),
            Blocks logDir bs₂ (picked (firsts es))) := by
        rw [Merged, appBlock_skip hfront, appBlock_hit hf hman rfl hname]
        · rfl
        · intro x hx hc
          obtain ⟨u, v, rfl⟩ := List.append_of_mem hx
          have hsplit : u ++ x :: v ++ b :: bs₂ = u ++ x :: (v ++ b :: bs₂) := by simp
          obtain h | h := hu.claims hsplit hc
          · exact hbefore (by simp [hname, ← h])
          · rw [← hname] at h
            exact hbefore (by rw [List.map_append]; exact List.mem_append_left _ h)
      have hmerge : mergeBlock e (b.around logDir (b.table (picked (firsts es) b.name))) =
          b.around logDir (b.table (picked (firsts es) b.name ++ [e])) := by
        apply mergeBlock_around (hf b hb) (hman b.name) (hm e (by simp))
        intro x hx hk
        obtain ⟨hx, happ'⟩ := mem_picked.1 hx
        exact hfresh (List.mem_map.mpr ⟨x, hx, Prod.ext (happ'.trans hname) hk⟩)
      have hpick : picked (firsts es ++ [e]) b.name = picked (firsts es) b.name ++ [e] := by
        rw [picked_concat, if_pos hname.symm]
      have hother : ∀ x : Block, x.name ≠ b.name →
          picked (firsts es) x.name = picked (firsts es ++ [e]) x.name := by
        intro x hx
        rw [picked_concat, if_neg fun h => hx (h.symm.trans hname.symm)]
      have hb₁ : Blocks logDir bs₁ (picked (firsts es)) = Blocks logDir bs₁ (picked (firsts es ++ [e])) :=
        blocks_congr fun x hx => hother x fun h => hbefore (h ▸ List.mem_map_of_mem hx)
      have hb₂ : Blocks logDir bs₂ (picked (firsts es)) = Blocks logDir bs₂ (picked (firsts es ++ [e])) :=
        blocks_congr fun x hx => hother x fun h => hafter (h ▸ List.mem_map_of_mem hx)
      have hcons : Blocks logDir (b :: bs₂) (picked (firsts es ++ [e])) =
          b.around logDir (b.table (picked (firsts es) b.name ++ [e])) ++
            Blocks logDir bs₂ (picked (firsts es ++ [e])) := by
        rw [← hpick]
        rfl
      have hlines : front ++ Blocks logDir bs₁ (picked (firsts es)) ++
          b.around logDir (b.table (picked (firsts es) b.name ++ [e])) ++
            Blocks logDir bs₂ (picked (firsts es)) =
          front ++ Blocks logDir (bs₁ ++ b :: bs₂) (picked (firsts es ++ [e])) := by
        rw [blocks_append, hcons, hb₁, hb₂]
        simp only [List.append_assoc]
      have hkept : [e].filter (fun e => e.app ∈ (bs₁ ++ b :: bs₂).map Block.name) = [e] :=
        List.filter_eq_self.mpr fun x hx => by
          rw [List.mem_singleton.mp hx]
          exact decide_eq_true happ
      rw [hhit]
      simp only
      rw [hmerge, hlines, Merged, Merged, firsts_concat, if_neg hfresh, List.filter_append, hkept,
        @List.map_append _ _ EnvEntry.slot]
      rfl
    · have hmiss : appBlock (pair "name".toList e.app) (Merged front logDir bs es).1 = none := by
        rw [Merged, appBlock_skip hfront, appBlock_miss hf hman]
        · rfl
        · intro x hx hc
          obtain ⟨u, v, rfl⟩ := List.append_of_mem hx
          obtain h | h := hu.claims rfl hc
          · exact happ (List.mem_map.mpr ⟨x, hx, h⟩)
          · exact happ (by rw [List.map_append]; exact List.mem_append_left _ h)
      have hbs : Blocks logDir bs (picked (firsts es)) = Blocks logDir bs (picked (firsts es ++ [e])) := by
        apply blocks_congr
        intro x hx
        rw [picked_concat, if_neg fun h => happ (List.mem_map.mpr ⟨x, hx, h.symm⟩)]
      rw [hmiss]
      simp only
      rw [Merged, Merged, firsts_concat]
      split_ifs
      · rfl
      · have hleft : [e].filter (fun e => e.app ∈ bs.map Block.name) = [] := by
          rw [List.filter_eq_nil_iff]
          intro x hx
          rw [List.mem_singleton.mp hx, decide_eq_true_eq]
          exact happ
        rw [hbs, List.filter_append, hleft, List.append_nil]

lemma foldl_mergeEntry (hfront : ∀ x ∈ front, isHeader "[[apps]]" x = false)
    (hf : ∀ b ∈ bs, b.Fits) (hnodup : (bs.map Block.name).Nodup) (hm : ∀ x ∈ es, x.Manual)
    (hu : Unaliased bs es) :
    es.foldl mergeEntry (front ++ Blocks logDir bs fun _ => [], []) = Merged front logDir bs es := by
  induction es using List.reverseRecOn with
  | nil => rfl
  | append_singleton es e ih =>
    rw [List.foldl_append, ih (fun x hx => hm x (by simp [hx])) hu.init]
    exact mergeEntry_merged hfront hf hnodup hm hu

end Fold

section Spread

variable {b : Block} {logDir l : Text} {ext : List EnvEntry} {ls : List Text} {bs : List Block}

def spread (l : Text) : List Text := (Lines.chunks '\n' (l ++ ['\n'])).map chomp

lemma lines_spread (ls : List Text) : lines (Lines.unlines '\n' ls) = ls.flatMap spread := by
  rw [lines, Lines.chunks_unlines, List.map_flatMap]
  rfl

lemma spread_intact (h : Intact l) : spread l = [l] := by
  rw [spread, Lines.chunks_single h.1, List.map_singleton, chomp_clean h.2]

lemma spread_lines (h : ∀ l ∈ ls, Intact l) : ls.flatMap spread = ls := by
  induction ls with
  | nil => rfl
  | cons l ls ih =>
    rw [List.flatMap_cons, spread_intact (h l (by simp)), ih fun x hx => h x (by simp [hx]),
      List.singleton_append]

lemma intact_bare {k v : Text} (hk : BareKey k) (hv : '\n' ∉ v) : Intact (pair k v) :=
  intact_pair (hk.not_mem (by decide)) hv

lemma intact_line {e : EnvEntry} (he : e.Manual) (hv : '\n' ∉ e.value) : Intact e.line :=
  intact_bare he.bare fun h => hv (break_escape.1 h)

lemma spread_break {w : Text} (h : '\n' ∉ l) : spread (l ++ '\n' :: w) = chomp (l ++ ['\n']) :: spread w := by
  rw [spread, List.append_assoc, List.cons_append, Lines.chunks_line h, List.map_cons]
  rfl

lemma spread_table (t : Text) :
    spread ("[apps.env]\n".toList ++ t) = "[apps.env]".toList :: spread t := by
  have he : "[apps.env]\n".toList = "[apps.env]".toList ++ ['\n'] := by decide
  have hc : chomp ("[apps.env]".toList ++ ['\n']) = "[apps.env]".toList := by decide
  rw [he, List.append_assoc, List.singleton_append, spread_break (by decide), hc]

def Block.flat (b : Block) (ext : List EnvEntry) : List Text :=
  if b.vars = [] then ext.flatMap fun e => ["[apps.env]".toList, e.line]
  else "[apps.env]".toList :: ((b.vars.map fun kv => pair kv.1 kv.2) ++ ext.map EnvEntry.line)

lemma flat_nil : b.flat [] = b.table [] := by
  rw [Block.flat, Block.table]
  rfl

lemma flatMap_spread_table (hf : b.Fits) (hm : ∀ e ∈ ext, e.Manual) (hs : ∀ e ∈ ext, '\n' ∉ e.value) :
    (b.table ext).flatMap spread = b.flat ext := by
  rw [Block.table, Block.flat]
  split_ifs
  · induction ext with
    | nil => rfl
    | cons e ext ih =>
      rw [List.map_cons, List.flatMap_cons, List.flatMap_cons,
        spread_table, spread_intact (intact_line (hm e (by simp)) (hs e (by simp))),
        ih (fun x hx => hm x (by simp [hx])) fun x hx => hs x (by simp [hx])]
  · apply spread_lines
    intro x hx
    obtain rfl | hx := List.mem_cons.mp hx
    · decide
    · obtain hx | hx := List.mem_append.mp hx
      · obtain ⟨kv, hkv, rfl⟩ := List.mem_map.mp hx
        exact intact_bare (managed_bare _ (hf.vars kv hkv).1) (hf.vars kv hkv).2
      · obtain ⟨e, he, rfl⟩ := List.mem_map.mp hx
        exact intact_line (hm e he) (hs e he)

lemma flatMap_spread_around (hf : b.Fits) (hd : '\n' ∉ logDir) (mid : List Text) :
    (b.around logDir mid).flatMap spread = b.around logDir (mid.flatMap spread) := by
  have hhead : ∀ l ∈ b.head, Intact l := by
    intro l hl
    obtain rfl | rfl | rfl | rfl := mem_head.1 hl
    · decide
    · exact intact_bare (by decide) hf.name.unbroken
    · exact intact_bare (by decide) hf.command
    · decide
  have htail : ∀ l ∈ pushLogs b.name logDir ++ b.tail, Intact l := by
    intro l hl
    obtain hl | hl := List.mem_append.mp hl
    · exact intact_logs hf.name hd l hl
    · rw [mem_tail hf hl]
      decide
  rw [Block.around, List.flatMap_append, List.flatMap_append, spread_lines hhead, spread_lines htail]
  rfl

def Flats (logDir : Text) (bs : List Block) (ext : Text → List EnvEntry) : List Text :=
  bs.flatMap fun b => b.around logDir (b.flat (ext b.name))

lemma flatMap_spread_blocks {ext : Text → List EnvEntry} (hf : ∀ b ∈ bs, b.Fits) (hd : '\n' ∉ logDir) :
    (Blocks logDir bs ext).flatMap spread =
      bs.flatMap fun b => b.around logDir ((b.table (ext b.name)).flatMap spread) := by
  rw [Blocks, List.flatMap_assoc]
  exact List.flatMap_congr fun b hb => flatMap_spread_around (hf b hb) hd _

end Spread

end MediaServo.Server.Lifecycle
