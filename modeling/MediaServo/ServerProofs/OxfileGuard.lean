import MediaServo.Server.Lifecycle

/-! What the guard against stale oxfiles makes of a text: the lines that it passes over, and that the
manual variables merged into a rendering change nothing of its verdict. -/

namespace MediaServo.Server.Lifecycle

open MediaServo.Foundations
open Lines (Text lines chomp chomp_clean)

section Lines

lemma chomp_append (l : Text) : ∃ b, l = chomp l ++ b ∧ ∀ c ∈ b, isWhitespace c = true := by
  have hn : isWhitespace '\n' = true := by decide
  have hr : isWhitespace '\r' = true := by decide
  by_cases h : l.getLast? = some '\n'
  · obtain ⟨a, rfl⟩ : ∃ a, l = a ++ ['\n'] := List.getLast?_eq_some_iff.mp h
    by_cases h' : a.getLast? = some '\r'
    · obtain ⟨a, rfl⟩ : ∃ b, a = b ++ ['\r'] := List.getLast?_eq_some_iff.mp h'
      exact ⟨['\r', '\n'], by simp [chomp], by simp [hn, hr]⟩
    · exact ⟨['\n'], by simp [chomp, h'], by simp [hn]⟩
  · exact ⟨[], by simp [chomp, h], by simp⟩

lemma trim_chomp (l : Text) : trim (chomp l) = trim l := by
  obtain ⟨b, hl, hb⟩ := chomp_append l
  conv_rhs => rw [hl]
  exact (Lines.trim_append_blank hb (chomp l)).symm

lemma trim_break (l : Text) : trim (l ++ ['\n']) = trim l :=
  Lines.trim_append_blank (by decide) l

lemma lines_unlines {ls : List Text} (h : ∀ l ∈ ls, '\n' ∉ l ∧ l.getLast? ≠ some '\r') :
    lines (Lines.unlines '\n' ls) = ls := by
  rw [lines, Lines.chunks_unlines]
  induction ls with
  | nil => rfl
  | cons l ls ih =>
    have hl := h l (by simp)
    rw [List.flatMap_cons, Lines.chunks_single hl.1, List.map_append, ih fun l hl => h l (by simp [hl])]
    simp [chomp_clean hl.2]

lemma head_trim (l : Text) : (trim l).head? = (l.dropWhile isWhitespace).head? := by
  rw [trim, Lines.trim]
  cases h : l.dropWhile isWhitespace with
  | nil => rfl
  | cons c t =>
    have hc : isWhitespace c = false := by
      have := List.head?_dropWhile_not isWhitespace l
      rw [h] at this
      simpa using this
    have := Lines.rdropWhile_append (p := isWhitespace) (a := [c]) (by simp [hc]) t
    rw [List.singleton_append] at this
    rw [this]
    rfl

lemma startsWith_bracket (t : Text) : startsWith "[" t = true ↔ t.head? = some '[' := by
  have h : "[".toList = ['['] := by decide
  rw [startsWith, h]
  cases t with
  | nil => simp
  | cons c t =>
    rw [List.isPrefixOf, List.head?_cons]
    simp only [List.isPrefixOf_nil_left, Bool.and_true, beq_iff_eq, Option.some.injEq]
    exact eq_comm

lemma head_of_lines {t : Text} (h : ∀ l ∈ Lines.chunks '\n' t, startsWith "[" (trim l) = false) :
    startsWith "[" (trim t) = false := by
  have hc : ∀ l : Text, startsWith "[" (trim l) = false ↔ (l.dropWhile isWhitespace).head? ≠ some '[' := by
    intro l
    rw [← head_trim, ← Bool.not_eq_true, startsWith_bracket]
  simp only [hc] at h ⊢
  induction t with
  | nil => simp
  | cons c t ih =>
    by_cases hw : isWhitespace c = true
    · rw [List.dropWhile_cons_of_pos hw]
      apply ih
      intro l hl
      rw [Lines.chunks] at h
      split_ifs at h with hn
      · exact h l (by simp [hl])
      · split at h
        · rename_i he
          rw [he] at hl
          cases hl
        · rename_i l' ls he
          rw [he] at hl
          obtain rfl | hl := List.mem_cons.mp hl
          · simpa [List.dropWhile_cons_of_pos hw] using h (c :: l) (by simp)
          · exact h l (by simp [hl])
    · have hs : ∃ r, ∃ l ∈ Lines.chunks '\n' (c :: t), l = c :: r := by
        rw [Lines.chunks]
        split_ifs
        · exact ⟨[], _, List.mem_cons_self, rfl⟩
        · split
          · exact ⟨[], _, List.mem_cons_self, rfl⟩
          · exact ⟨_, _, List.mem_cons_self, rfl⟩
      obtain ⟨r, l, hl, rfl⟩ := hs
      have := h _ hl
      rw [List.dropWhile_cons_of_neg hw] at this ⊢
      simpa using this

lemma quote_solid : isWhitespace '"' = false := by decide

lemma pair_snoc (k v : Text) : pair k v = k ++ " = \"".toList ++ v ++ ['"'] := by
  have hq : "\"".toList = ['"'] := by decide
  rw [pair, hq]

lemma isHeader_iff {header : String} {l : Text} : isHeader header l = true ↔ trim l = header.toList :=
  decide_eq_true_iff

lemma not_isHeader {header : String} {l : Text} : isHeader header l = false ↔ trim l ≠ header.toList :=
  decide_eq_false_iff_not

lemma trim_pair {c : Char} {k v : Text} (hc : isWhitespace c = false) :
    trim (pair (c :: k) v) = pair (c :: k) v := by
  rw [pair_snoc, List.cons_append, List.cons_append, List.cons_append]
  apply Lines.trim_solid hc
  simp [quote_solid]

end Lines

section Guard

variable {es ew : Text} {g : Guard} {l t : Text}

def Guard.feed (es ew : Text) (g : Guard) (el : Text) : Guard :=
  (Lines.chunks '\n' (el ++ ['\n'])).foldl (Guard.line es ew) g

lemma line_congr {l l' : Text} (h : trim l = trim l') : Guard.line es ew g l = Guard.line es ew g l' := by
  simp only [Guard.line, h]

lemma guard_lines (t : Text) : (lines t).foldl (Guard.line es ew) g =
    (Lines.chunks '\n' t).foldl (Guard.line es ew) g := by
  rw [lines]
  generalize Lines.chunks '\n' t = ls
  induction ls generalizing g with
  | nil => rfl
  | cons l ls ih =>
    rw [List.map_cons, List.foldl_cons, List.foldl_cons, ih, line_congr (trim_chomp l)]

lemma guard_unlines (els : List Text) : (lines (Lines.unlines '\n' els)).foldl (Guard.line es ew) g =
    els.foldl (Guard.feed es ew) g := by
  rw [guard_lines, Lines.chunks_unlines]
  induction els generalizing g with
  | nil => rfl
  | cons el els ih => rw [List.flatMap_cons, List.foldl_append, ih, List.foldl_cons, Guard.feed]

lemma feed_single (h : '\n' ∉ l) : Guard.feed es ew g l = Guard.line es ew g l := by
  rw [Guard.feed, Lines.chunks_single h, List.foldl_cons, List.foldl_nil]
  exact line_congr (trim_break l)

lemma line_apps (h : trim l = "[[apps]]".toList) :
    Guard.line es ew g l = { g with curApp := none, inEnv := false } := by
  rw [Guard.line, if_pos h]

lemma not_name_of_bracket (hb : startsWith "[" t) : startsWith "name" t = false := by
  have hn : "name".toList = ['n', 'a', 'm', 'e'] := by decide
  rw [startsWith_bracket] at hb
  obtain ⟨r, rfl⟩ := List.head?_eq_some_iff.mp hb
  rw [startsWith, hn]
  rfl

lemma not_apps_of_bracket (hb : startsWith "[" t = false) : t ≠ "[[apps]]".toList := by
  rintro rfl
  exact absurd hb (by decide)

lemma line_header (h : trim l ≠ "[[apps]]".toList) (hb : startsWith "[" (trim l)) :
    Guard.line es ew g l = { g with inEnv := trim l = "[apps.env]".toList } := by
  have hn := not_name_of_bracket hb
  rw [Guard.line, if_neg h, if_neg (by simp [hn]), if_pos hb]

lemma line_other (hb : startsWith "[" (trim l) = false) (hn : startsWith "name" (trim l) = false)
    (hc : startsWith "command" (trim l) = false) : Guard.line es ew g l = g := by
  rw [Guard.line, if_neg (not_apps_of_bracket hb), if_neg (by simp [hn]), if_neg (by simp [hb]),
    if_pos (by simp [hc])]

lemma line_env (ha : g.curApp.isSome) (he : g.inEnv) (hb : startsWith "[" (trim l) = false) :
    Guard.line es ew g l = g := by
  have hn : g.curApp.isNone = false := by simpa using ha
  rw [Guard.line, if_neg (not_apps_of_bracket hb), if_neg (by simp [hn]), if_neg (by simp [hb]),
    if_pos (by simp [he])]

lemma line_name (hb : startsWith "[" (trim l) = false) (hn : startsWith "name" (trim l))
    (heq : '=' ∈ trim l) (ha : g.curApp = none) :
    Guard.line es ew g l = { g with
      curApp := some (assigned (trim l))
      sawWnetEntry := g.sawWnetEntry || assigned (trim l) = weaknetApp } := by
  rw [Guard.line, if_neg (not_apps_of_bracket hb), if_pos (by simp [hn, heq, ha])]

lemma line_command (hb : startsWith "[" (trim l) = false) (hn : startsWith "name" (trim l) = false)
    (hc : startsWith "command" (trim l)) (heq : '=' ∈ trim l) (ha : g.curApp.isSome)
    (he : g.inEnv = false) :
    Guard.line es ew g l = { g with
      stale := g.stale || (oxfileCmdStem (assigned (trim l))).any (misnamed es ew g.curApp) } := by
  have ha' : g.curApp.isNone = false := by simpa using ha
  rw [Guard.line, if_neg (not_apps_of_bracket hb), if_neg (by simp [hn]), if_neg (by simp [hb]),
    if_neg (by simp [he, ha', hc, heq])]
  cases oxfileCmdStem (assigned (trim l)) <;> simp

def Quiet (el : Text) : Prop :=
  ∀ l ∈ Lines.chunks '\n' (el ++ ['\n']), startsWith "[" (trim l) = false

lemma feed_quiet (h : Quiet l) (ha : g.curApp.isSome) (he : g.inEnv) : Guard.feed es ew g l = g := by
  have hls : ∀ ls : List Text, (∀ l ∈ ls, startsWith "[" (trim l) = false) →
      ls.foldl (Guard.line es ew) g = g := by
    intro ls hls
    induction ls with
    | nil => rfl
    | cons l ls ih =>
      rw [List.foldl_cons, line_env ha he (hls l (by simp))]
      exact ih fun l hl => hls l (by simp [hl])
  exact hls _ h

lemma Quiet.trim (h : Quiet l) : startsWith "[" (trim l) = false := by
  rw [← trim_break]
  exact head_of_lines h

lemma line_some (ha : g.curApp.isSome) (h : trim l ≠ "[[apps]]".toList) :
    (Guard.line es ew g l).curApp.isSome := by
  rw [Guard.line, if_neg h]
  split_ifs
  · rfl
  · exact ha
  · exact ha
  · split <;> exact ha

inductive Element : Text → Prop
  | single {l : Text} (h : '\n' ∉ l) : Element l
  | manual {l : Text} (h : Quiet l) : Element l
  | table (k v : Text) (h : Quiet (pair k v)) : Element ("[apps.env]\n".toList ++ pair k v)

lemma header_bracket {header : String} (hr : header.toList.head? = some '[')
    (h : isHeader header l) : startsWith "[" (trim l) := by
  rw [startsWith_bracket, isHeader_iff.1 h]
  exact hr

lemma trim_table (k v : Text) :
    trim ("[apps.env]\n".toList ++ pair k v) = "[apps.env]\n".toList ++ pair k v := by
  have he : "[apps.env]\n".toList = '[' :: "apps.env]\n".toList := by decide
  rw [he, List.cons_append, pair_snoc]
  apply Lines.trim_solid (by decide)
  simp [quote_solid]

lemma table_not_header (k v : Text) {header : String} (h : header.toList.getLast? = some ']') :
    isHeader header ("[apps.env]\n".toList ++ pair k v) = false := by
  rw [not_isHeader, trim_table]
  intro he
  rw [← he, pair_snoc, ← List.append_assoc, List.getLast?_concat] at h
  simp at h

lemma feed_table {k v : Text} (h : Quiet (pair k v)) (ha : g.curApp.isSome) :
    Guard.feed es ew g ("[apps.env]\n".toList ++ pair k v) = { g with inEnv := true } := by
  have he : "[apps.env]\n".toList = "[apps.env]".toList ++ ['\n'] := by decide
  have ht : trim ("[apps.env]".toList ++ ['\n']) = "[apps.env]".toList := by decide
  have hq : Guard.feed es ew { g with inEnv := true } (pair k v) = { g with inEnv := true } :=
    feed_quiet h ha rfl
  rw [Guard.feed, he, List.append_assoc, List.append_assoc, List.singleton_append,
    Lines.chunks_line (by decide), List.foldl_cons, line_header (by rw [ht]; decide) (by rw [ht]; decide),
    ht]
  exact hq

lemma Element.feed_some (h : Element l) (hl : isHeader "[[apps]]" l = false) (ha : g.curApp.isSome) :
    (Guard.feed es ew g l).curApp.isSome := by
  cases h with
  | single h =>
    rw [feed_single h]
    exact line_some ha (not_isHeader.1 hl)
  | manual h =>
    have hls : ∀ ls : List Text, (∀ l ∈ ls, startsWith "[" (trim l) = false) →
        ∀ g : Guard, g.curApp.isSome → (ls.foldl (Guard.line es ew) g).curApp.isSome := by
      intro ls
      induction ls with
      | nil => exact fun _ _ ha => ha
      | cons l ls ih =>
        intro hls g ha
        exact ih (fun l hl => hls l (by simp [hl])) _
          (line_some ha (not_apps_of_bracket (hls l (by simp))))
    exact hls _ h g ha
  | table k v h =>
    rw [feed_table h ha]
    exact ha

lemma Element.feed_env (h : Element l) (hb : startsWith "[" (Lifecycle.trim l) = false)
    (ha : g.curApp.isSome) (he : g.inEnv) : Guard.feed es ew g l = g := by
  cases h with
  | single h => rw [feed_single h, line_env ha he hb]
  | manual h => exact feed_quiet h ha he
  | table k v h =>
    rw [trim_table] at hb
    exact absurd hb (by simp [startsWith_bracket])

end Guard

section Merge

variable {es ew : Text} {g : Guard} {els a b c r : List Text} {want : Text} {e : EnvEntry}

structure NameLine (n : Text) : Prop where
  single : '\n' ∉ n
  name : startsWith "name" (trim n)
  assigns : '=' ∈ trim n

def Named : List Text → Prop
  | [] => True
  | l :: ls => (isHeader "[[apps]]" l → ∃ n ∈ ls.head?, NameLine n) ∧ Named ls

structure Sound (els : List Text) : Prop where
  element : ∀ el ∈ els, Element el
  named : Named els

lemma NameLine.bracket {n : Text} (h : NameLine n) : startsWith "[" (trim n) = false := by
  rw [← Bool.not_eq_true]
  intro hb
  have := not_name_of_bracket hb
  rw [h.name] at this
  cases this

lemma NameLine.not_header {n : Text} (h : NameLine n) {header : String}
    (hr : header.toList.head? = some '[') : isHeader header n = false := by
  rw [← Bool.not_eq_true]
  intro hh
  have := header_bracket hr hh
  rw [h.bracket] at this
  cases this

lemma appBlock_split (h : appBlock want els = some (a, b, c)) :
    els = a ++ b ++ c ∧ ∃ l body, b = l :: body ∧ isHeader "[[apps]]" l ∧
      (∀ x ∈ body, isHeader "[[apps]]" x = false) ∧ ∀ x ∈ c.head?, isHeader "[[apps]]" x := by
  induction els generalizing a with
  | nil => cases h
  | cons l ls ih =>
    rw [appBlock] at h
    split_ifs at h with hc
    · cases h
      simp only [Bool.and_eq_true] at hc
      refine ⟨by simp, l, _, rfl, hc.1, ?_, ?_⟩
      · intro x hx
        simpa using List.mem_takeWhile_imp hx
      · intro x hx
        have := List.head?_dropWhile_not (fun x => !isHeader "[[apps]]" x) ls
        rw [Option.mem_def.mp hx] at this
        simpa using this
    · simp only [Option.map_eq_some_iff, Prod.exists] at h
      obtain ⟨a', b', c', h, he⟩ := h
      cases he
      obtain ⟨hels, hrest⟩ := ih h
      exact ⟨by rw [hels]; rfl, hrest⟩

lemma named_append_right (h : Named (a ++ b)) : Named b := by
  induction a with
  | nil => exact h
  | cons l a ih => exact ih h.2

lemma named_swap {l : Text} (h : Named (a ++ l :: b)) (hc : Named (l :: c)) : Named (a ++ l :: c) := by
  induction a with
  | nil => exact hc
  | cons x a ih =>
    refine ⟨?_, ih h.2⟩
    intro hx
    obtain ⟨n, hn, hname⟩ := h.1 hx
    refine ⟨n, ?_, hname⟩
    cases a <;> exact hn

lemma named_append (h : ∀ x ∈ a, isHeader "[[apps]]" x = false) (hb : Named b) : Named (a ++ b) := by
  induction a with
  | nil => exact hb
  | cons x a ih =>
    refine ⟨?_, ih fun y hy => h y (by simp [hy])⟩
    intro hx
    rw [h x (by simp)] at hx
    cases hx

lemma mergeBlock_cons {l n : Text} (hl : isHeader "[[apps]]" l) (hn : NameLine n) :
    mergeBlock e (l :: n :: r) = l :: n :: mergeBlock e r := by
  have hle : isHeader "[apps.env]" l = false := by
    rw [not_isHeader, isHeader_iff.1 hl]
    decide
  have hll : isHeader "[apps.logs]" l = false := by
    rw [not_isHeader, isHeader_iff.1 hl]
    decide
  have hne : isHeader "[apps.env]" n = false := hn.not_header (by decide)
  have hnl : isHeader "[apps.logs]" n = false := hn.not_header (by decide)
  simp only [mergeBlock, envTable, List.dropWhile_cons, List.takeWhile_cons, hle, hne, hll, hnl,
    Bool.not_false, if_true]
  cases r.dropWhile fun x => !isHeader "[apps.env]" x <;> simp

lemma mem_putLine {key line l : Text} {ls : List Text} (h : l ∈ putLine key line ls) :
    l = line ∨ l ∈ ls := by
  induction ls with
  | nil => exact Or.inl (by simpa [putLine] using h)
  | cons x ls ih =>
    rw [putLine] at h
    split_ifs at h
    · obtain rfl | h := List.mem_cons.mp h
      · exact Or.inl rfl
      · exact Or.inr (by simp [h])
    · obtain rfl | h := List.mem_cons.mp h
      · exact Or.inr (by simp)
      · obtain h | h := ih h
        · exact Or.inl h
        · exact Or.inr (by simp [h])

lemma envTable_split {head table rest : List Text} (h : envTable b = some (head, table, rest)) :
    b = head ++ table ++ rest ∧ (∀ x ∈ table, startsWith "[" (trim x) = false) ∧
      ∃ before header, head = before ++ [header] ∧ isHeader "[apps.env]" header := by
  rw [envTable] at h
  split at h
  · cases h
  · rename_i header tail hd
    cases h
    refine ⟨?_, ?_, _, header, rfl, ?_⟩
    · rw [List.append_assoc, List.takeWhile_append_dropWhile, List.append_assoc, List.singleton_append,
        ← hd, List.takeWhile_append_dropWhile]
    · intro x hx
      simpa using List.mem_takeWhile_imp hx
    · have := List.head?_dropWhile_not (fun x => !isHeader "[apps.env]" x) b
      rw [hd] at this
      simpa using this

lemma mem_mergeBlock {x : Text} (h : x ∈ mergeBlock e r) :
    x ∈ r ∨ x = e.line ∨ x = "[apps.env]\n".toList ++ e.line := by
  rw [mergeBlock] at h
  split at h
  · rename_i head table rest he
    rw [(envTable_split he).1]
    simp only [List.mem_append] at h ⊢
    obtain (h | h) | h := h
    · tauto
    · obtain h | h := mem_putLine h <;> tauto
    · tauto
  · simp only [List.mem_append, List.mem_cons] at h
    obtain h | h | h := h
    · exact Or.inl (List.takeWhile_subset _ h)
    · exact Or.inr (Or.inr h)
    · exact Or.inl (List.dropWhile_subset _ h)

lemma mergeBlock_element (hr : ∀ x ∈ r, Element x) (he : Quiet e.line) :
    ∀ x ∈ mergeBlock e r, Element x := by
  intro x hx
  obtain hx | rfl | rfl := mem_mergeBlock hx
  · exact hr x hx
  · exact .manual he
  · exact .table _ _ he

lemma mergeBlock_header (hr : ∀ x ∈ r, isHeader "[[apps]]" x = false) (he : Quiet e.line) :
    ∀ x ∈ mergeBlock e r, isHeader "[[apps]]" x = false := by
  intro x hx
  obtain hx | rfl | rfl := mem_mergeBlock hx
  · exact hr x hx
  · rw [not_isHeader]
    exact not_apps_of_bracket he.trim
  · exact table_not_header _ _ (by decide)

lemma feed_entry (hr : ∀ x ∈ r, Element x) (hh : ∀ x ∈ r, isHeader "[[apps]]" x = false)
    (ha : g.curApp.isSome) : (r.foldl (Guard.feed es ew) g).curApp.isSome := by
  induction r generalizing g with
  | nil => exact ha
  | cons x r ih =>
    exact ih (fun y hy => hr y (by simp [hy])) (fun y hy => hh y (by simp [hy]))
      ((hr x (by simp)).feed_some (hh x (by simp)) ha)

lemma feed_table_lines (hr : ∀ x ∈ r, Element x) (hb : ∀ x ∈ r, startsWith "[" (trim x) = false)
    (ha : g.curApp.isSome) (he : g.inEnv) : r.foldl (Guard.feed es ew) g = g := by
  induction r with
  | nil => rfl
  | cons x r ih =>
    rw [List.foldl_cons, (hr x (by simp)).feed_env (hb x (by simp)) ha he]
    exact ih (fun y hy => hr y (by simp [hy])) fun y hy => hb y (by simp [hy])

lemma Element.feed_header {x : Text} (hx : Element x) (header : String)
    (hf : header.toList.head? = some '[') (hl : header.toList.getLast? = some ']')
    (hn : header ≠ "[[apps]]") (h : isHeader header x) :
    Guard.feed es ew g x = { g with inEnv := header = "[apps.env]" } := by
  have hb := header_bracket hf h
  cases hx with
  | single hs =>
    have ht := isHeader_iff.1 h
    have hne : trim x ≠ "[[apps]]".toList := by
      rw [ht]
      exact fun he => hn (String.toList_inj.mp he)
    rw [feed_single hs, line_header hne hb, ht]
    simp only [String.toList_inj]
  | manual hq =>
    rw [hq.trim] at hb
    cases hb
  | table k v hq =>
    rw [table_not_header k v hl] at h
    cases h

lemma mergeBlock_feed (hr : ∀ x ∈ r, Element x) (hh : ∀ x ∈ r, isHeader "[[apps]]" x = false)
    (he : Quiet e.line) (ha : g.curApp.isSome) :
    ∃ b, (mergeBlock e r).foldl (Guard.feed es ew) g =
      { r.foldl (Guard.feed es ew) g with inEnv := b } := by
  rw [mergeBlock]
  split
  · rename_i head table rest ht
    obtain ⟨hr', htable, before, header, rfl, hheader⟩ := envTable_split ht
    have hbefore : ((before.foldl (Guard.feed es ew) g)).curApp.isSome := by
      apply feed_entry _ _ ha
      · exact fun x hx => hr x (by simp [hr', hx])
      · exact fun x hx => hh x (by simp [hr', hx])
    obtain ⟨g', hhead, hsome, henv⟩ : ∃ g', (before ++ [header]).foldl (Guard.feed es ew) g = g' ∧
        g'.curApp.isSome ∧ g'.inEnv := by
      refine ⟨_, rfl, ?_⟩
      rw [List.foldl_append, List.foldl_cons, List.foldl_nil,
        (hr header (by simp [hr'])).feed_header _ (by decide) (by decide) (by decide) hheader]
      exact ⟨hbefore, rfl⟩
    have hold : table.foldl (Guard.feed es ew) g' = g' :=
      feed_table_lines (fun x hx => hr x (by simp [hr', hx])) htable hsome henv
    have hnew : (putLine e.key e.line table).foldl (Guard.feed es ew) g' = g' := by
      apply feed_table_lines _ _ hsome henv
      · intro x hx
        obtain rfl | hx := mem_putLine hx
        · exact .manual he
        · exact hr x (by simp [hr', hx])
      · intro x hx
        obtain rfl | hx := mem_putLine hx
        · exact he.trim
        · exact htable x hx
    have hfold : ∀ m : List Text, m.foldl (Guard.feed es ew) g' = g' →
        (before ++ [header] ++ m ++ rest).foldl (Guard.feed es ew) g =
          rest.foldl (Guard.feed es ew) g' := by
      intro m hm
      rw [List.foldl_append, List.foldl_append, hhead, hm]
    refine ⟨(rest.foldl (Guard.feed es ew) g').inEnv, ?_⟩
    rw [hr', hfold _ hold, hfold _ hnew]
  · have hsplit := List.takeWhile_append_dropWhile (p := fun x => !isHeader "[apps.logs]" x) (l := r)
    have hlast := List.head?_dropWhile_not (fun x => !isHeader "[apps.logs]" x) r
    generalize r.takeWhile (fun x => !isHeader "[apps.logs]" x) = u at *
    generalize r.dropWhile (fun x => !isHeader "[apps.logs]" x) = v at *
    subst hsplit
    have hu : (u.foldl (Guard.feed es ew) g).curApp.isSome := by
      apply feed_entry _ _ ha
      · exact fun x hx => hr x (by simp [hx])
      · exact fun x hx => hh x (by simp [hx])
    rw [List.foldl_append, List.foldl_append, List.foldl_cons, EnvEntry.line, feed_table he hu]
    cases v with
    | nil => exact ⟨true, rfl⟩
    | cons x v =>
      have hx : isHeader "[apps.logs]" x := by simpa using hlast
      refine ⟨((x :: v).foldl (Guard.feed es ew) (u.foldl (Guard.feed es ew) g)).inEnv, ?_⟩
      rw [List.foldl_cons, List.foldl_cons,
        (hr x (by simp)).feed_header _ (by decide) (by decide) (by decide) hx,
        (hr x (by simp)).feed_header _ (by decide) (by decide) (by decide) hx]

def Guard.verdict (g : Guard) : Bool × Bool := (g.stale, g.sawWnetEntry)

lemma feed_apps {l : Text} (h : Element l) (hh : isHeader "[[apps]]" l) :
    Guard.feed es ew g l = { g with curApp := none, inEnv := false } := by
  have hb := header_bracket (by decide) hh
  cases h with
  | single hs => rw [feed_single hs, line_apps (isHeader_iff.1 hh)]
  | manual hq =>
    rw [hq.trim] at hb
    cases hb
  | table k v hq =>
    rw [table_not_header k v (by decide)] at hh
    cases hh

lemma feed_name {n : Text} (hn : NameLine n) (ha : g.curApp = none) :
    (Guard.feed es ew g n).curApp.isSome := by
  rw [feed_single hn.single, line_name hn.bracket hn.name hn.assigns ha]
  rfl

lemma appBlock_sound (hs : Sound els) (h : appBlock want els = some (a, b, c)) :
    ∃ l n r, b = l :: n :: r ∧ els = a ++ l :: (n :: r ++ c) ∧ isHeader "[[apps]]" l ∧ NameLine n ∧
      (∀ x ∈ r, isHeader "[[apps]]" x = false) ∧ ∀ x ∈ c.head?, isHeader "[[apps]]" x := by
  obtain ⟨hels, l, body, rfl, hl, hbody, hc⟩ := appBlock_split h
  have hels' : els = a ++ l :: (body ++ c) := by rw [hels, List.append_assoc, List.cons_append]
  have hnamed := hs.named
  rw [hels'] at hnamed
  obtain ⟨n, hn, hname⟩ := (named_append_right hnamed).1 hl
  cases body with
  | nil =>
    have hh := hc n hn
    rw [hname.not_header (by decide)] at hh
    cases hh
  | cons n' r =>
    obtain rfl : n' = n := by simpa using hn
    exact ⟨l, n', r, rfl, hels', hl, hname, fun x hx => hbody x (by simp [hx]), hc⟩

lemma mergeEntry_sound {acc : List Text × List (Text × Text)} (hs : Sound acc.1) (he : Quiet e.line) :
    Sound (mergeEntry acc e).1 ∧ ∀ g : Guard,
      ((mergeEntry acc e).1.foldl (Guard.feed es ew) g).verdict =
        (acc.1.foldl (Guard.feed es ew) g).verdict := by
  rw [mergeEntry]
  split_ifs with hd
  · exact ⟨hs, fun _ => rfl⟩
  · split
    · rename_i a b c h
      obtain ⟨l, n, r, rfl, hels, hl, hn, hr, hc⟩ := appBlock_sound hs h
      have hmem : ∀ x ∈ a ++ l :: (n :: r ++ c), Element x := hels ▸ hs.element
      have hnamed : Named (a ++ l :: (n :: r ++ c)) := hels ▸ hs.named
      have hrel : ∀ x ∈ r, Element x := fun x hx => hmem x (by simp [hx])
      have hnew : a ++ mergeBlock e (l :: n :: r) ++ c = a ++ l :: (n :: mergeBlock e r ++ c) := by
        rw [mergeBlock_cons hl hn, List.append_assoc, List.cons_append]
      constructor
      · rw [hnew]
        constructor
        · intro x hx
          simp only [List.mem_append, List.mem_cons] at hx
          obtain hx | hx | (hx | hx) | hx := hx
          · exact hmem x (by simp [hx])
          · exact hmem x (by simp [hx])
          · exact hmem x (by simp [hx])
          · exact mergeBlock_element hrel he x hx
          · exact hmem x (by simp [hx])
        · apply named_swap hnamed
          refine ⟨fun _ => ⟨n, rfl, hn⟩, ?_, ?_⟩
          · intro hh
            rw [hn.not_header (by decide)] at hh
            cases hh
          · apply named_append (mergeBlock_header hr he)
            exact named_append_right (a := a ++ l :: n :: r) (by simpa using hnamed)
      · intro g
        rw [hnew, hels]
        simp only [List.foldl_append, List.foldl_cons]
        generalize a.foldl (Guard.feed es ew) g = g₁
        have hname : (Guard.feed es ew (Guard.feed es ew g₁ l) n).curApp.isSome := by
          apply feed_name hn
          rw [feed_apps (hmem l (by simp)) hl]
        obtain ⟨b, hb⟩ := mergeBlock_feed hrel hr he hname
        rw [hb]
        cases c with
        | nil => rfl
        | cons x c =>
          have hx : isHeader "[[apps]]" x := hc x rfl
          rw [List.foldl_cons, List.foldl_cons, feed_apps (hmem x (by simp)) hx,
            feed_apps (hmem x (by simp)) hx]
    · exact ⟨hs, fun _ => rfl⟩

lemma mergeEntries_sound {entries : List EnvEntry} (he : ∀ e ∈ entries, Quiet e.line)
    {acc : List Text × List (Text × Text)} (hs : Sound acc.1) :
    Sound (entries.foldl mergeEntry acc).1 ∧ ∀ g : Guard,
      ((entries.foldl mergeEntry acc).1.foldl (Guard.feed es ew) g).verdict =
        (acc.1.foldl (Guard.feed es ew) g).verdict := by
  induction entries generalizing acc with
  | nil => exact ⟨hs, fun _ => rfl⟩
  | cons e entries ih =>
    obtain ⟨hs₁, hv₁⟩ := mergeEntry_sound hs (he e (by simp))
    obtain ⟨hs₂, hv₂⟩ := ih (fun e' h => he e' (by simp [h])) hs₁
    exact ⟨hs₂, fun g => (hv₂ g).trans (hv₁ g)⟩

end Merge

end MediaServo.Server.Lifecycle
