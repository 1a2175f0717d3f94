import Mathlib.Tactic
import MediaServo.Foundations.Toml
import MediaServo.Foundations.Lines
import MediaServo.HostProofs.Roster

/-! The rendered oxfile read back: it is TOML, its entries are the roster, and its command lines
split into the arguments that they were put together from. -/

namespace MediaServo.Host

open MediaServo.Foundations

abbrev words : List Char → List (List Char) := Words.words isWhitespace

section Plain

def isPlain (c : Char) : Bool := Toml.isClear c && !isWhitespace c

lemma isClear_of_plain {c : Char} (h : isPlain c = true) : Toml.isClear c = true :=
  (Bool.and_eq_true_iff.mp h).1

lemma not_whitespace_of_plain {c : Char} (h : isPlain c = true) : isWhitespace c = false := by
  simpa using (Bool.and_eq_true_iff.mp h).2

lemma ascii_cases {P : Char → Prop} (h : ∀ n < 128, P (Char.ofNat n)) {c : Char}
    (hc : c.toNat < 128) : P c := by
  have := h c.toNat hc
  rwa [Char.ofNat_toNat] at this

lemma alphanum_ascii {c : Char} (h : c.isAlphanum = true) : c.toNat < 128 := by
  have hval : c.toNat = c.val.toNat := rfl
  delta Char.isAlphanum Char.isAlpha Char.isUpper Char.isLower Char.isDigit at h
  simp [UInt32.le_iff_toNat_le] at h
  omega

lemma idChar_ascii {c : Char} (h : idChar c = true) : c.toNat < 128 := by
  simp only [idChar, Bool.or_eq_true, beq_iff_eq] at h
  rcases h with (h | rfl) | rfl
  · exact alphanum_ascii h
  · decide
  · decide

lemma hexValue_ascii {c : Char} (h : Digits.hexValue c ≠ none) : c.toNat < 128 := by
  simp only [Digits.hexValue] at h
  split_ifs at h with hd hl hu
  · exact alphanum_ascii (by simp [Char.isAlphanum, hd])
  · have := Char.le_def.mp hl.2
    exact Nat.lt_of_le_of_lt (UInt32.le_iff_toNat_le.mp this) (by decide)
  · have := Char.le_def.mp hu.2
    exact Nat.lt_of_le_of_lt (UInt32.le_iff_toNat_le.mp this) (by decide)
  · exact absurd rfl h

lemma simpleEscape_ascii {c : Char} (h : Toml.simpleEscape c ≠ none) : c.toNat < 128 := by
  simp only [Toml.simpleEscape] at h
  split_ifs at h <;> first | (subst_vars; decide) | exact absurd rfl h

lemma idChar_plain {c : Char} (h : idChar c = true) : isPlain c = true :=
  ascii_cases (P := fun c => idChar c = true → isPlain c = true) (by decide)
    (idChar_ascii h) h

lemma whitespace_not_escape {c : Char} (h : (!isWhitespace c) = false) :
    Toml.simpleEscape c = none ∧ Digits.hexValue c = none := by
  by_cases hc : c.toNat < 128
  · exact ascii_cases (P := fun c => (!isWhitespace c) = false →
      Toml.simpleEscape c = none ∧ Digits.hexValue c = none) (by decide) hc h
  · refine ⟨?_, ?_⟩
    · by_contra he
      exact hc (simpleEscape_ascii he)
    · by_contra he
      exact hc (hexValue_ascii he)

end Plain

lemma forall₂_flatMap {α β γ : Type} {R : β → γ → Prop} {f : α → List β} {g : α → List γ}
    {as : List α} (h : ∀ a ∈ as, List.Forall₂ R (f a) (g a)) :
    List.Forall₂ R (as.flatMap f) (as.flatMap g) := by
  induction as with
  | nil => exact .nil
  | cons a as ih =>
    rw [List.flatMap_cons, List.flatMap_cons]
    exact List.rel_append (h a List.mem_cons_self)
      (ih (fun x hx => h x (List.mem_cons_of_mem a hx)))

section Text

open Toml (Line pairLine unlines parseLine)

def key (k : String) : List Char := k.toList

def stem (d : Dir) (a : App) : List Char := (d.logDir ++ "/" ++ a.name).toList

def headerLines (env : Env) (d : Dir) : List (List Char) :=
  ["version = 1".toList, [], "[defaults]".toList,
    pairLine (key "namespace") env.mediaBrand.nameSpace.toList,
    pairLine (key "restart_policy") "always".toList, pairLine (key "cwd") d.path.toList, []]

def entryLines (d : Dir) (a : App) : List (List Char) :=
  ["[[apps]]".toList, pairLine (key "name") a.name.toList,
    pairLine (key "command") a.command.toList,
    pairLine (key "restart_policy") a.restartPolicy.toList, "[apps.logs]".toList,
    pairLine (key "stdout") (stem d a ++ ".out.log".toList),
    pairLine (key "stderr") (stem d a ++ ".err.log".toList), []]

lemma header_lines (env : Env) (d : Dir) :
    (oxfileHeader env (some d)).toList = unlines (headerLines env d) := by
  have htext : oxfileHeader env (some d) = "version = 1\n\n[defaults]\nnamespace = \"" ++
      env.mediaBrand.nameSpace ++ "\"\nrestart_policy = \"always\"\n" ++
      ("cwd = \"" ++ d.path ++ "\"\n") ++ "\n" := rfl
  rw [htext]
  simp [headerLines, unlines, pairLine, key]

lemma entry_lines (d : Dir) (a : App) :
    (pushApp (some d) a).toList = unlines (entryLines d a) := by
  have htext : pushApp (some d) a = "[[apps]]\nname = \"" ++ a.name ++ "\"\ncommand = \"" ++
      a.command ++ "\"\nrestart_policy = \"" ++ a.restartPolicy ++ "\"\n" ++
      "[apps.logs]\nstdout = \"" ++ (d.logDir ++ "/" ++ a.name) ++ ".out.log\"\nstderr = \"" ++
      (d.logDir ++ "/" ++ a.name) ++ ".err.log\"\n\n" := rfl
  rw [htext]
  simp [entryLines, unlines, pairLine, key, stem]

lemma oxfile_lines (env : Env) (d : Dir) (as : List App) :
    (oxfileHeader env (some d) ++ pushApps (some d) as).toList =
      unlines (headerLines env d ++ as.flatMap (entryLines d)) := by
  have happs : (pushApps (some d) as).toList = unlines (as.flatMap (entryLines d)) := by
    induction as with
    | nil => rfl
    | cons a as ih =>
      rw [pushApps, String.toList_append, entry_lines, ih]
      simp [unlines]
  rw [String.toList_append, header_lines, happs]
  simp [unlines]

lemma command_spaced (a : App) :
    a.command.toList = a.exe.toList ++
      ((a.options.flatMap (fun o => [o.1, o.2])).map String.toList).flatMap (' ' :: ·) := by
  have hopts : ∀ l : List (String × String), (optionText l).toList =
      ((l.flatMap (fun o => [o.1, o.2])).map String.toList).flatMap (' ' :: ·) := by
    intro l
    induction l with
    | nil => rfl
    | cons o l ih =>
      rw [optionText]
      simp [ih]
  rw [App.command, String.toList_append, hopts]

def entryToml (name command policy stdout stderr : List Char) : List Line :=
  [.arrayTable [key "apps"], .pair (key "name") (.str name), .pair (key "command") (.str command),
    .pair (key "restart_policy") (.str policy), .table [key "apps", key "logs"],
    .pair (key "stdout") (.str stdout), .pair (key "stderr") (.str stderr), .blank]

def entryPairs (name command policy : List Char) : List (List Char × Toml.Value) :=
  [(key "name", .str name), (key "command", .str command), (key "restart_policy", .str policy)]

lemma elements_entry (name command policy stdout stderr : List Char) (rest : List Line) :
    Toml.elements [key "apps"] (entryToml name command policy stdout stderr ++ rest) =
      entryPairs name command policy :: Toml.elements [key "apps"] rest := rfl

structure Between (s : Toml.Scope) : Prop where
  free : [key "apps"] ∉ s.taken
  arrays : ∀ p ∈ s.arrays, p = [key "apps"]

lemma Between.entry {s : Toml.Scope} (h : Between s) (name command policy stdout stderr : List Char) :
    ∃ t, Toml.enterAll s (entryToml name command policy stdout stderr) = some t ∧ Between t := by
  have hbelow : ∀ q, key "apps" :: q ∉
      s.taken.filter (fun q => !([key "apps"] : Toml.Path).isPrefixOf q) := by
    intro q hq
    simp at hq
  have harr : ∀ k q, key "apps" :: k :: q ∉ s.arrays := by
    intro k q hq
    simpa using h.arrays _ hq
  have hne : ∀ k q, key "apps" :: k :: q ≠ [key "apps"] := by
    intro k q
    simp
  have hkeys : key "command" ≠ key "name" ∧ key "restart_policy" ≠ key "name" ∧
      key "restart_policy" ≠ key "command" ∧ key "logs" ≠ key "name" ∧ key "logs" ≠ key "command" ∧
      key "logs" ≠ key "restart_policy" ∧ key "stderr" ≠ key "stdout" := by decide
  obtain ⟨h1, h2, h3, h4, h5, h6, h7⟩ := hkeys
  refine ⟨⟨[key "apps", key "logs"], [key "apps", key "logs", key "stderr"] ::
    [key "apps", key "logs", key "stdout"] :: [key "apps", key "logs"] ::
    [key "apps", key "restart_policy"] :: [key "apps", key "command"] :: [key "apps", key "name"] ::
    s.taken.filter (fun q => !([key "apps"] : Toml.Path).isPrefixOf q), [key "apps"] :: s.arrays⟩,
    ?_, ?_, ?_⟩
  · simp [entryToml, Toml.enterAll, Toml.Scope.enter, h.free, hbelow, harr, h1, h2, h3, h4, h5, h6,
      h7]
  · simp [hbelow]
  · simpa using h.arrays

def headerToml (env : Env) (cwd : List Char) : List Line :=
  [.pair (key "version") (.int 1), .blank, .table [key "defaults"],
    .pair (key "namespace") (.str env.mediaBrand.nameSpace.toList),
    .pair (key "restart_policy") (.str "always".toList), .pair (key "cwd") (.str cwd), .blank]

lemma between_header (env : Env) (cwd : List Char) :
    ∃ s, Toml.enterAll .init (headerToml env cwd) = some s ∧ Between s := by
  refine ⟨_, rfl, ?_, ?_⟩
  · decide
  · intro p hp
    cases hp

lemma Between.entries {s : Toml.Scope} (h : Between s) {α : Type} (as : List α)
    (f : α → List Line)
    (hf : ∀ a ∈ as, ∃ name command policy stdout stderr,
      f a = entryToml name command policy stdout stderr) :
    (Toml.enterAll s (as.flatMap f)).isSome = true := by
  induction as generalizing s with
  | nil => rfl
  | cons a as ih =>
    obtain ⟨name, command, policy, stdout, stderr, he⟩ := hf a List.mem_cons_self
    obtain ⟨t, ht, hb⟩ := h.entry name command policy stdout stderr
    rw [List.flatMap_cons, he, Toml.enterAll_append, ht]
    exact ih hb (fun x hx => hf x (List.mem_cons_of_mem a hx))

lemma elements_entries {α : Type} (as : List α) (f : α → List Line)
    (g : α → List (List Char × Toml.Value))
    (hf : ∀ a ∈ as, ∃ name command policy stdout stderr,
      f a = entryToml name command policy stdout stderr ∧ g a = entryPairs name command policy) :
    Toml.elements [key "apps"] (as.flatMap f) = as.map g := by
  induction as with
  | nil => rfl
  | cons a as ih =>
    obtain ⟨name, command, policy, stdout, stderr, he, hg⟩ := hf a List.mem_cons_self
    rw [List.flatMap_cons, he, elements_entry, List.map_cons, hg,
      ih (fun x hx => hf x (List.mem_cons_of_mem a hx))]

structure ClearEntry (a : App) : Prop where
  name : ∀ c ∈ a.name.toList, Toml.isClear c = true
  command : ∀ c ∈ a.command.toList, Toml.isClear c = true
  policy : ∀ c ∈ a.restartPolicy.toList, Toml.isClear c = true

lemma newline_pairLine {k : String} {raw : List Char} (hk : '\n' ∉ key k) (h : '\n' ∉ raw) :
    '\n' ∉ pairLine (key k) raw := by
  simp [pairLine, hk, h]

lemma newline_clear {raw : List Char} (h : ∀ c ∈ raw, Toml.isClear c = true) : '\n' ∉ raw := by
  intro hm
  exact absurd (h _ hm) (by decide)

structure OneLiners (env : Env) (d : Dir) (as : List App) : Prop where
  nameSpace : '\n' ∉ env.mediaBrand.nameSpace.toList
  path : '\n' ∉ d.path.toList
  name : ∀ a ∈ as, '\n' ∉ a.name.toList
  command : ∀ a ∈ as, '\n' ∉ a.command.toList
  policy : ∀ a ∈ as, '\n' ∉ a.restartPolicy.toList

lemma OneLiners.lines {env : Env} {d : Dir} {as : List App} (h : OneLiners env d as) :
    ∀ l ∈ headerLines env d ++ as.flatMap (entryLines d), '\n' ∉ l := by
  intro l hl
  rcases List.mem_append.mp hl with hl | hl
  · simp only [headerLines, List.mem_cons, List.not_mem_nil, or_false] at hl
    rcases hl with rfl | rfl | rfl | rfl | rfl | rfl | rfl
    · decide
    · decide
    · decide
    · exact newline_pairLine (by decide) h.nameSpace
    · decide
    · exact newline_pairLine (by decide) h.path
    · decide
  · obtain ⟨a, ha, hl⟩ := List.mem_flatMap.mp hl
    have hstem : '\n' ∉ stem d a := by
      have hname := h.name a ha
      have hpath := h.path
      simp [stem, Dir.logDir, hname, hpath]
    simp only [entryLines, List.mem_cons, List.not_mem_nil, or_false] at hl
    rcases hl with rfl | rfl | rfl | rfl | rfl | rfl | rfl | rfl
    · decide
    · exact newline_pairLine (by decide) (h.name a ha)
    · exact newline_pairLine (by decide) (h.command a ha)
    · exact newline_pairLine (by decide) (h.policy a ha)
    · decide
    · exact newline_pairLine (by decide) (by simp [hstem])
    · exact newline_pairLine (by decide) (by simp [hstem])
    · decide

lemma clear_stem {d : Dir} {a : App} (hd : ∀ c ∈ d.path.toList, Toml.isClear c = true)
    (ha : ∀ c ∈ a.name.toList, Toml.isClear c = true) (suffix : String)
    (hs : ∀ c ∈ suffix.toList, Toml.isClear c = true) :
    ∀ c ∈ stem d a ++ suffix.toList, Toml.isClear c = true := by
  intro c hc
  have hrun : ∀ c ∈ "/run/logs".toList, Toml.isClear c = true := by decide
  have hslash : Toml.isClear '/' = true := by decide
  simp only [stem, Dir.logDir, String.toList_append, List.mem_append] at hc
  rcases hc with (((hc | hc) | hc) | hc) | hc
  · exact hd c hc
  · exact hrun c hc
  · rw [List.mem_singleton.mp hc]
    exact hslash
  · exact ha c hc
  · exact hs c hc

lemma parse_oxfile {env : Env} {d : Dir} {as : List App}
    (hns : ∀ c ∈ env.mediaBrand.nameSpace.toList, Toml.isClear c = true)
    (hd : ∀ c ∈ d.path.toList, Toml.isClear c = true) (has : ∀ a ∈ as, ClearEntry a) :
    ∃ lines, Toml.parse (oxfileHeader env (some d) ++ pushApps (some d) as).toList = some lines ∧
      Toml.elements [key "apps"] lines =
        as.map (fun a => entryPairs a.name.toList a.command.toList a.restartPolicy.toList) := by
  have hone : OneLiners env d as := ⟨newline_clear hns, newline_clear hd,
    fun a ha => newline_clear (has a ha).name, fun a ha => newline_clear (has a ha).command,
    fun a ha => newline_clear (has a ha).policy⟩
  let entry := fun a : App => entryToml a.name.toList a.command.toList a.restartPolicy.toList
    (stem d a ++ ".out.log".toList) (stem d a ++ ".err.log".toList)
  have hheader : List.Forall₂ (fun l x => parseLine l = some x) (headerLines env d)
      (headerToml env d.path.toList) := by
    refine .cons (by decide) (.cons (by decide) (.cons (by decide) (.cons ?_ (.cons ?_
      (.cons ?_ (.cons (by decide) .nil))))))
    · exact Toml.parseLine_clear (by decide) (by decide) hns
    · exact Toml.parseLine_clear (by decide) (by decide) (by decide)
    · exact Toml.parseLine_clear (by decide) (by decide) hd
  have hentries : List.Forall₂ (fun l x => parseLine l = some x) (as.flatMap (entryLines d))
      (as.flatMap entry) := by
    apply forall₂_flatMap
    intro a ha
    have hc := has a ha
    refine .cons (by decide) (.cons ?_ (.cons ?_ (.cons ?_ (.cons (by decide) (.cons ?_
      (.cons ?_ (.cons (by decide) .nil)))))))
    · exact Toml.parseLine_clear (by decide) (by decide) hc.name
    · exact Toml.parseLine_clear (by decide) (by decide) hc.command
    · exact Toml.parseLine_clear (by decide) (by decide) hc.policy
    · exact Toml.parseLine_clear (by decide) (by decide) (clear_stem hd hc.name _ (by decide))
    · exact Toml.parseLine_clear (by decide) (by decide) (clear_stem hd hc.name _ (by decide))
  obtain ⟨s, hs, hbetween⟩ := between_header env d.path.toList
  refine ⟨headerToml env d.path.toList ++ as.flatMap entry ++ [.blank], ?_, ?_⟩
  · rw [oxfile_lines, Toml.parse_unlines hone.lines]
    refine ⟨_, List.rel_append hheader hentries, ?_, rfl⟩
    rw [Toml.enterAll_append, hs]
    exact hbetween.entries as entry (fun a _ => ⟨_, _, _, _, _, rfl⟩)
  · rw [Toml.elements_blank]
    exact elements_entries as entry _ (fun a _ => ⟨_, _, _, _, _, rfl, rfl⟩)

def textOf (k : String) (e : List (List Char × Toml.Value)) : Option (List Char) :=
  match e.lookup (key k) with
  | some (.str s) => some s
  | _ => none

def ReadAs (raw v : List Char) : Prop :=
  (v = raw ∧ ∀ c ∈ raw, Toml.isClear c = true) ∨
    v.countP (fun c => !isWhitespace c) < raw.countP (fun c => !isWhitespace c)

lemma pair_read {k : String} {raw : List Char} {l : Line} (hk : key k ≠ [])
    (hb : ∀ c ∈ key k, Toml.isBareKeyChar c = true) (h : parseLine (pairLine (key k) raw) = some l) :
    ∃ v, l = .pair (key k) (.str v) ∧ ReadAs raw v :=
  Toml.parseLine_fits (fun _ => whitespace_not_escape) hk hb h

lemma entries_read {d : Dir} {as : List App} {ls : List Line}
    (h : List.Forall₂ (fun l x => parseLine l = some x) (as.flatMap (entryLines d)) ls) :
    ∃ commands, List.Forall₂ (fun a v => ReadAs a.command.toList v) as commands ∧
      (Toml.elements [key "apps"] ls).map (textOf "command") = commands.map some := by
  induction as generalizing ls with
  | nil =>
    cases h
    exact ⟨[], .nil, rfl⟩
  | cons a as ih =>
    rw [List.flatMap_cons, entryLines] at h
    simp only [List.cons_append, List.nil_append, List.forall₂_cons_left_iff] at h
    obtain ⟨l1, _, h1, ⟨l2, _, h2, ⟨l3, _, h3, ⟨l4, _, h4, ⟨l5, _, h5, ⟨l6, _, h6, ⟨l7, _, h7,
      ⟨l8, rest, h8, hrest, rfl⟩, rfl⟩, rfl⟩, rfl⟩, rfl⟩, rfl⟩, rfl⟩, rfl⟩ := h
    have e1 : l1 = .arrayTable [key "apps"] := Option.some.inj (h1.symm.trans (by decide))
    have e5 : l5 = .table [key "apps", key "logs"] := Option.some.inj (h5.symm.trans (by decide))
    have e8 : l8 = .blank := Option.some.inj (h8.symm.trans (by decide))
    obtain ⟨name, e2, _⟩ := pair_read (by decide) (by decide) h2
    obtain ⟨command, e3, hread⟩ := pair_read (by decide) (by decide) h3
    obtain ⟨policy, e4, _⟩ := pair_read (by decide) (by decide) h4
    obtain ⟨stdout, e6, _⟩ := pair_read (by decide) (by decide) h6
    obtain ⟨stderr, e7, _⟩ := pair_read (by decide) (by decide) h7
    obtain ⟨commands, hcs, hel⟩ := ih hrest
    refine ⟨command :: commands, .cons hread hcs, ?_⟩
    have hentry : l1 :: l2 :: l3 :: l4 :: l5 :: l6 :: l7 :: l8 :: rest =
        entryToml name command policy stdout stderr ++ rest := by
      rw [e1, e2, e3, e4, e5, e6, e7, e8]
      rfl
    rw [hentry, elements_entry, List.map_cons, List.map_cons, hel]
    rfl

lemma oxfile_read {env : Env} {d : Dir} {as : List App} (hone : OneLiners env d as)
    {lines : List Line}
    (h : Toml.parse (oxfileHeader env (some d) ++ pushApps (some d) as).toList = some lines) :
    ∃ commands, List.Forall₂ (fun a v => ReadAs a.command.toList v) as commands ∧
      (Toml.elements [key "apps"] lines).map (textOf "command") = commands.map some := by
  rw [oxfile_lines, Toml.parse_unlines hone.lines] at h
  obtain ⟨ls, hls, _, rfl⟩ := h
  rw [Toml.elements_blank]
  simp only [headerLines, List.cons_append, List.nil_append, List.forall₂_cons_left_iff] at hls
  obtain ⟨l1, _, h1, ⟨l2, _, h2, ⟨l3, _, h3, ⟨l4, _, h4, ⟨l5, _, h5, ⟨l6, _, h6,
    ⟨l7, rest, h7, hrest, rfl⟩, rfl⟩, rfl⟩, rfl⟩, rfl⟩, rfl⟩, rfl⟩ := hls
  have e1 : l1 = .pair (key "version") (.int 1) := Option.some.inj (h1.symm.trans (by decide))
  have e2 : l2 = .blank := Option.some.inj (h2.symm.trans (by decide))
  have e3 : l3 = .table [key "defaults"] := Option.some.inj (h3.symm.trans (by decide))
  obtain ⟨nameSpace, e4, _⟩ := pair_read (by decide) (by decide) h4
  obtain ⟨policy, e5, _⟩ := pair_read (by decide) (by decide) h5
  obtain ⟨cwd, e6, _⟩ := pair_read (by decide) (by decide) h6
  have e7 : l7 = .blank := Option.some.inj (h7.symm.trans (by decide))
  obtain ⟨commands, hcommands, hel⟩ := entries_read hrest
  rw [e1, e2, e3, e4, e5, e6, e7]
  exact ⟨commands, hcommands, hel⟩

end Text

section Arguments

def PlainText (s : String) : Prop := ∀ c ∈ s.toList, isPlain c = true

def PlainArg (w : String) : Prop := w.toList ≠ [] ∧ PlainText w

lemma mem_command {a : App} {c : Char} (h : c ∈ a.command.toList) :
    c = ' ' ∨ ∃ w ∈ a.argv, c ∈ w.toList := by
  rw [command_spaced, List.mem_append, List.mem_flatMap] at h
  rcases h with h | ⟨w, hw, h⟩
  · exact Or.inr ⟨a.exe, List.mem_cons_self, h⟩
  · obtain ⟨x, hx, rfl⟩ := List.mem_map.mp hw
    rcases List.mem_cons.mp h with h | h
    · exact Or.inl h
    · exact Or.inr ⟨x, List.mem_cons_of_mem _ hx, h⟩

lemma command_mem {a : App} {w : String} (hw : w ∈ a.argv) {c : Char} (hc : c ∈ w.toList) :
    c ∈ a.command.toList := by
  rw [command_spaced, List.mem_append, List.mem_flatMap]
  rcases List.mem_cons.mp hw with rfl | hw
  · exact Or.inl hc
  · exact Or.inr ⟨w.toList, List.mem_map_of_mem hw, List.mem_cons_of_mem _ hc⟩

lemma words_command {a : App}
    (h : ∀ w ∈ a.argv, w.toList ≠ [] ∧ ∀ c ∈ w.toList, isWhitespace c = false) :
    words a.command.toList = a.argv.map String.toList := by
  rw [command_spaced]
  apply Words.words_spaced rfl
  intro x hx
  rw [← List.map_cons] at hx
  obtain ⟨w, hw, rfl⟩ := List.mem_map.mp hx
  exact h w hw

def CommandsSplit (lines : List Toml.Line) (as : List App) : Prop :=
  (Toml.elements [key "apps"] lines).map (fun e => (textOf "command" e).map words) =
    as.map (fun a => some (a.argv.map String.toList))

lemma whitespace_free_of_split {lines : List Toml.Line} {as : List App}
    (h : CommandsSplit lines as) {a : App} (ha : a ∈ as) {w : String} (hw : w ∈ a.argv) :
    w.toList ≠ [] ∧ ∀ c ∈ w.toList, isWhitespace c = false := by
  have hm : some (a.argv.map String.toList) ∈
      (Toml.elements [key "apps"] lines).map (fun e => (textOf "command" e).map words) := by
    rw [h]
    exact List.mem_map_of_mem ha
  obtain ⟨e, _, he⟩ := List.mem_map.mp hm
  obtain ⟨s, _, hs⟩ := Option.map_eq_some_iff.mp he
  have hword : w.toList ∈ words s := by
    rw [hs]
    exact List.mem_map_of_mem hw
  exact Words.mem_words hword

lemma plain_of_split {env : Env} {d : Dir} {as : List App} (hone : OneLiners env d as)
    {lines : List Toml.Line}
    (hp : Toml.parse (oxfileHeader env (some d) ++ pushApps (some d) as).toList = some lines)
    (h : CommandsSplit lines as) : ∀ a ∈ as, ∀ w ∈ a.argv, PlainArg w := by
  obtain ⟨commands, hread, hel⟩ := oxfile_read hone hp
  have hwords : commands.map words = as.map (fun a => a.argv.map String.toList) := by
    have hsome : (commands.map some).map (Option.map words) =
        as.map (fun a => some (a.argv.map String.toList)) := by
      rw [← hel, List.map_map]
      exact h
    rw [List.map_map] at hsome
    have hinj := congrArg (List.map (fun o => o.getD [])) hsome
    simpa [List.map_map, Function.comp_def] using hinj
  have hclear : ∀ a ∈ as, ∀ c ∈ a.command.toList, Toml.isClear c = true := by
    have hfree := fun a ha w hw => whitespace_free_of_split (a := a) (w := w) h ha hw
    clear h hp hel hone
    induction hread with
    | nil => simp
    | @cons a v as vs hav _ ih =>
      simp only [List.map_cons, List.cons.injEq] at hwords
      have hrest := ih hwords.2 (fun x hx => hfree x (List.mem_cons_of_mem a hx))
      have hcommand : ∀ c ∈ a.command.toList, Toml.isClear c = true := by
        rcases hav with ⟨_, hc⟩ | hlt
        · exact hc
        · -- the words of the two lines are the same, so they have as much in them
          have hself := words_command (fun w hw => hfree a List.mem_cons_self w hw)
          have hsame := congrArg List.flatten (hwords.1.trans hself.symm)
          rw [Words.words_flatten, Words.words_flatten] at hsame
          rw [List.countP_eq_length_filter, List.countP_eq_length_filter, hsame] at hlt
          exact absurd hlt (lt_irrefl _)
      intro x hx
      rcases List.mem_cons.mp hx with rfl | hx
      · exact hcommand
      · exact hrest x hx
  intro a ha w hw
  have hfree := whitespace_free_of_split h ha hw
  refine ⟨hfree.1, ?_⟩
  intro c hc
  rw [isPlain, hclear a ha c (command_mem hw hc), hfree.2 c hc]
  rfl

lemma split_of_plain {env : Env} {d : Dir} {as : List App}
    (hns : ∀ c ∈ env.mediaBrand.nameSpace.toList, Toml.isClear c = true)
    (hd : ∀ c ∈ d.path.toList, Toml.isClear c = true)
    (hname : ∀ a ∈ as, ∀ c ∈ a.name.toList, Toml.isClear c = true)
    (hpolicy : ∀ a ∈ as, ∀ c ∈ a.restartPolicy.toList, Toml.isClear c = true)
    (h : ∀ a ∈ as, ∀ w ∈ a.argv, PlainArg w) :
    ∃ lines, Toml.parse (oxfileHeader env (some d) ++ pushApps (some d) as).toList = some lines ∧
      (Toml.elements [key "apps"] lines).map (textOf "name") =
        as.map (fun a => some a.name.toList) ∧ CommandsSplit lines as := by
  have hentry : ∀ a ∈ as, ClearEntry a := by
    intro a ha
    refine ⟨hname a ha, ?_, hpolicy a ha⟩
    intro c hc
    rcases mem_command hc with rfl | ⟨w, hw, hcw⟩
    · decide
    · exact isClear_of_plain ((h a ha w hw).2 c hcw)
  obtain ⟨lines, hp, hel⟩ := parse_oxfile hns hd hentry
  refine ⟨lines, hp, ?_, ?_⟩
  · rw [hel, List.map_map]
    rfl
  · rw [CommandsSplit, hel, List.map_map]
    apply List.map_congr_left
    intro a ha
    have hwords := words_command (a := a)
      (fun w hw => ⟨(h a ha w hw).1, fun c hc => not_whitespace_of_plain ((h a ha w hw).2 c hc)⟩)
    exact congrArg some hwords

end Arguments

end MediaServo.Host
