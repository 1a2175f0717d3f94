import MediaServo.Foundations.Runs
import MediaServo.Server.Rotation

/-! What the rotations of several administrators leave, in memory and in the file. -/

namespace MediaServo.Server

open MediaServo.Foundations

namespace Rotation

open Lifecycle (trim)
open Lines (Text lines chomp chomp_clean splitOnce debugChar debugText)

section Quotes

variable {plain : Char → Bool} {p q l : Text}

lemma hex_of_mem_toDigits {n : ℕ} {c : Char} (h : c ∈ Nat.toDigits 16 n) :
    ∃ d < 16, c = Nat.digitChar d := by
  induction n using Nat.strong_induction_on with
  | h n ih =>
    rw [Nat.toDigits_eq_if (by decide)] at h
    split_ifs at h with hlt
    · exact ⟨n, hlt, List.mem_singleton.mp h⟩
    · rcases List.mem_append.mp h with h | h
      · exact ih (n / 16) (Nat.div_lt_self (by omega) (by decide)) h
      · exact ⟨n % 16, Nat.mod_lt _ (by decide), List.mem_singleton.mp h⟩

lemma not_mem_debugChar {b : Char} (hb : b = '\n' ∨ b = '\r') (c : Char) :
    b ∉ debugChar plain c := by
  have hdigit : ∀ d < 16, b ≠ Nat.digitChar d := by
    rcases hb with rfl | rfl <;> decide
  have hplain : b ∉ ['\\', 'u', '\x7b'] ∧ b ∉ ['\x7d'] := by
    rcases hb with rfl | rfl <;> decide
  rw [debugChar]
  split_ifs with hquote htab hline hreturn hzero hc
  · rcases hb with rfl | rfl <;> rcases hquote with rfl | rfl <;> decide
  · rcases hb with rfl | rfl <;> decide
  · rcases hb with rfl | rfl <;> decide
  · rcases hb with rfl | rfl <;> decide
  · rcases hb with rfl | rfl <;> decide
  · rw [List.mem_singleton]
    rcases hb with rfl | rfl
    · exact fun h => hline h.symm
    · exact fun h => hreturn h.symm
  · intro hmem
    rcases List.mem_append.mp hmem with hmem | hmem
    · rcases List.mem_append.mp hmem with hmem | hmem
      · exact hplain.1 hmem
      · obtain ⟨d, hd, h⟩ := hex_of_mem_toDigits hmem
        exact hdigit d hd h
    · exact hplain.2 hmem

lemma not_mem_keyLine {b : Char} (hb : b = '\n' ∨ b = '\r') (p : Text) : b ∉ keyLine plain p := by
  have hends : b ∉ "psk: ".toList ∧ b ≠ '"' := by
    rcases hb with rfl | rfl <;> decide
  intro hmem
  rcases List.mem_append.mp hmem with hmem | hmem
  · exact hends.1 hmem
  · rcases List.mem_cons.mp hmem with h | hmem
    · exact hends.2 h
    · rcases List.mem_append.mp hmem with hmem | hmem
      · obtain ⟨c, _, hc⟩ := List.mem_flatMap.mp hmem
        exact not_mem_debugChar hb c hc
      · exact hends.2 (List.mem_singleton.mp hmem)

lemma isKeyLine_keyLine (plain : Char → Bool) (p rest : Text) : isKeyLine (keyLine plain p ++ rest) = true := by
  have hstart : Lifecycle.startsWith "psk:" (keyLine plain p ++ rest) = true :=
    List.isPrefixOf_iff_prefix.mpr ⟨' ' :: (debugText plain p ++ rest), rfl⟩
  have hhead : (keyLine plain p ++ rest).head? = some 'p' := rfl
  rw [isKeyLine, hstart, hhead]
  decide

lemma commentOf_keyLine (plain : Char → Bool) (p : Text) {rest : Text} (h : '"' ∉ rest) :
    commentOf (keyLine plain p ++ rest) =
      ((splitOnce '#' rest).map Prod.snd).filter fun comment => trim comment ≠ [] := by
  have hsplit : keyLine plain p ++ rest =
      ("psk: ".toList ++ '"' :: p.flatMap (debugChar plain)) ++ '"' :: rest := by
    change "psk: ".toList ++ ('"' :: (p.flatMap (debugChar plain) ++ ['"'])) ++ rest = _
    simp only [List.append_assoc, List.cons_append, List.nil_append]
  rw [commentOf, hsplit, Lines.rsplitOnce_append h]
  rfl

lemma commentOf_eq_some {comment : Text} (h : commentOf l = some comment) :
    (∃ before, l = before ++ '#' :: comment) ∧ '"' ∉ comment ∧ trim comment ≠ [] := by
  rw [commentOf, Option.bind_eq_some_iff] at h
  obtain ⟨⟨before, tail⟩, hsplit, h⟩ := h
  obtain ⟨hl, hquote⟩ := Lines.rsplitOnce_eq hsplit
  obtain ⟨h, htrim⟩ := Option.filter_eq_some_iff.mp h
  obtain ⟨⟨blank, _⟩, hcomment, rfl⟩ := Option.map_eq_some_iff.mp h
  obtain ⟨rfl, _⟩ := Lines.splitOnce_eq hcomment
  refine ⟨⟨before ++ '"' :: blank, by rw [hl]; simp⟩, ?_, of_decide_eq_true htrim⟩
  exact fun hmem => hquote (List.mem_append_right _ (List.mem_cons_of_mem _ hmem))

lemma isKeyLine_replaceLine (plain : Char → Bool) (p l : Text) :
    isKeyLine (replaceLine plain p l) = isKeyLine l := by
  rw [replaceLine]
  cases hk : isKeyLine l with
  | false => rw [if_neg Bool.false_ne_true, hk]
  | true =>
    rw [if_pos rfl]
    cases commentOf l with
    | none => simpa using isKeyLine_keyLine plain p []
    | some comment =>
      change isKeyLine (keyLine plain p ++ [' ', ' ', '#'] ++ comment) = true
      rw [List.append_assoc]
      exact isKeyLine_keyLine plain p _

lemma replaceLine_replaceLine (p q l : Text) :
    replaceLine plain q (replaceLine plain p l) = replaceLine plain q l := by
  rw [replaceLine, isKeyLine_replaceLine]
  cases hk : isKeyLine l with
  | false => simp [replaceLine, hk]
  | true =>
    cases hc : commentOf l with
    | none =>
      have hnone : commentOf (keyLine plain p) = none := by
        have := commentOf_keyLine plain p (List.not_mem_nil (a := '"'))
        simpa [splitOnce] using this
      simp [replaceLine, hk, hc, hnone]
    | some comment =>
      obtain ⟨_, hquote, htrim⟩ := commentOf_eq_some hc
      have hsame : commentOf (keyLine plain p ++ [' ', ' ', '#'] ++ comment) = some comment := by
        have hrest : '"' ∉ [' ', ' ', '#'] ++ comment := by simp [hquote]
        have hcut : splitOnce '#' ([' ', ' ', '#'] ++ comment) = some ([' ', ' '], comment) :=
          Lines.splitOnce_append (a := [' ', ' ']) (by decide) comment
        rw [List.append_assoc, commentOf_keyLine _ _ hrest, hcut]
        simp [htrim]
      simp only [replaceLine, hk, hc, if_true, hsame]

end Quotes

section Texts

variable {plain : Char → Bool} {p q l t u : Text} {ls : List Text}

/-- Every carriage return of a text stands before a line break. -/
def Clean (t : Text) : Prop := ∀ l ∈ lines t, '\r' ∉ l

def solid (t : Text) : List Text := (lines t).filter (· ≠ [])

lemma lines_append_line (t u : Text) : lines (t ++ '\n' :: u) = lines (t ++ ['\n']) ++ lines u := by
  rw [lines, Lines.chunks_append, List.map_append]
  rfl

lemma lines_open (hne : t ≠ []) (h : '\n' ∉ t) : lines t = [t] := by
  rw [lines, Lines.chunks_open hne h, List.map_singleton, chomp, if_neg]
  exact fun hlast => h (List.mem_of_getLast? hlast)

lemma lines_line (hn : '\n' ∉ l) (hr : '\r' ∉ l) : lines (l ++ ['\n']) = [l] := by
  rw [lines, Lines.chunks_single hn, List.map_singleton,
    chomp_clean fun hlast => hr (List.mem_of_getLast? hlast)]

lemma solid_closed (h : Clean t) : solid (t ++ ['\n']) = solid t := by
  have hopen {u : Text} (hu : Clean u) (hn : '\n' ∉ u) : solid (u ++ ['\n']) = solid u := by
    by_cases hne : u = []
    · subst hne
      decide
    · have hr : '\r' ∉ u := hu u (by rw [lines_open hne hn]; exact List.mem_singleton_self _)
      rw [solid, solid, lines_line hn hr, lines_open hne hn]
  by_cases hmem : '\n' ∈ t
  · obtain ⟨bs, as, hrev, hbs⟩ := List.eq_append_cons_of_mem (List.mem_reverse.mpr hmem)
    have ht : t = as.reverse ++ '\n' :: bs.reverse := by
      rw [← List.reverse_reverse t, hrev]
      simp
    have hlines : lines t = lines (as.reverse ++ ['\n']) ++ lines bs.reverse := by
      rw [ht, lines_append_line]
    have hclosed : lines (t ++ ['\n']) =
        lines (as.reverse ++ ['\n']) ++ lines (bs.reverse ++ ['\n']) := by
      rw [ht, List.append_assoc, List.cons_append, lines_append_line]
    have hlast : Clean bs.reverse := by
      intro l hl
      exact h l (by rw [hlines]; exact List.mem_append_right _ hl)
    rw [solid, solid, hlines, hclosed, List.filter_append, List.filter_append]
    exact congrArg _ (hopen hlast fun hm => hbs (List.mem_reverse.mp hm))
  · exact hopen h hmem

lemma intercalate_lines (h : ∀ l ∈ ls, '\n' ∉ l ∧ '\r' ∉ l) :
    solid (['\n'].intercalate ls) = ls.filter (· ≠ []) ∧ ∀ l ∈ lines (['\n'].intercalate ls), l ∈ ls := by
  induction ls with
  | nil => exact ⟨rfl, by simp [lines, Lines.chunks]⟩
  | cons l ls ih =>
    obtain ⟨hn, hr⟩ := h l List.mem_cons_self
    cases ls with
    | nil =>
      have hsingle : ['\n'].intercalate [l] = l := by simp
      rw [hsingle]
      by_cases hne : l = []
      · subst hne
        exact ⟨rfl, by simp [lines, Lines.chunks]⟩
      · rw [solid, lines_open hne hn]
        exact ⟨rfl, fun _ hl => hl⟩
    | cons m ls =>
      obtain ⟨hsolid, hlines⟩ := ih fun k hk => h k (List.mem_cons_of_mem _ hk)
      have hcons : ['\n'].intercalate (l :: m :: ls) = l ++ '\n' :: ['\n'].intercalate (m :: ls) := by
        rw [List.intercalate_cons_cons]
        simp
      rw [hcons, solid, lines_append_line, lines_line hn hr, List.filter_append]
      refine ⟨?_, ?_⟩
      · rw [← solid, hsolid, ← List.filter_append]
        rfl
      · rintro k hk
        rcases List.mem_append.mp hk with hk | hk
        · rw [List.mem_singleton.mp hk]
          exact List.mem_cons_self
        · exact List.mem_cons_of_mem _ (hlines k hk)

lemma keyLine_ne_nil (p : Text) : keyLine plain p ≠ [] := by
  have hhead : (keyLine plain p).head? = some 'p' := rfl
  intro h
  rw [h] at hhead
  cases hhead

lemma replaceLine_eq_nil (p l : Text) : replaceLine plain p l = [] ↔ l = [] := by
  have hnil : isKeyLine [] = false := by decide
  constructor
  · intro h
    have hk := isKeyLine_replaceLine plain p l
    rw [h, hnil] at hk
    rwa [replaceLine, ← hk, if_neg Bool.false_ne_true] at h
  · rintro rfl
    rw [replaceLine, hnil, if_neg Bool.false_ne_true]

lemma not_mem_replaceLine {b : Char} (hb : b = '\n' ∨ b = '\r') (h : b ∉ l) :
    b ∉ replaceLine plain p l := by
  rw [replaceLine]
  split_ifs
  · cases hc : commentOf l with
    | none => exact not_mem_keyLine hb p
    | some comment =>
      obtain ⟨⟨before, rfl⟩, _⟩ := commentOf_eq_some hc
      have hblank : b ∉ [' ', ' ', '#'] := by
        rcases hb with rfl | rfl <;> decide
      intro hm
      rcases List.mem_append.mp hm with hm | hm
      · rcases List.mem_append.mp hm with hm | hm
        · exact not_mem_keyLine hb p hm
        · exact hblank hm
      · exact h (List.mem_append_right _ (List.mem_cons_of_mem _ hm))
  · exact h

lemma any_solid (t : Text) : (lines t).any isKeyLine = (solid t).any isKeyLine := by
  rw [solid, List.any_filter]
  congr 1
  funext l
  cases l with
  | nil => decide
  | cons c l => simp

def replaced (plain : Char → Bool) (p : Text) (ls : List Text) : List Text :=
  if ls.any isKeyLine then ls.map (replaceLine plain p) else ls ++ [keyLine plain p]

lemma rewritten_lines (plain : Char → Bool) (p : Text) (h : Clean t) :
    solid (rewritten plain p t) = replaced plain p (solid t) ∧ Clean (rewritten plain p t) := by
  rw [rewritten, replaced, ← any_solid]
  split_ifs with hany
  · have hclean : ∀ l ∈ (lines t).map (replaceLine plain p), '\n' ∉ l ∧ '\r' ∉ l := by
      intro l hl
      obtain ⟨k, hk, rfl⟩ := List.mem_map.mp hl
      exact ⟨not_mem_replaceLine (.inl rfl) (Lines.break_lines hk),
        not_mem_replaceLine (.inr rfl) (h k hk)⟩
    obtain ⟨hsolid, hlines⟩ := intercalate_lines hclean
    refine ⟨?_, fun l hl => (hclean l (hlines l hl)).2⟩
    rw [hsolid, solid, List.filter_map]
    congr 2
    funext l
    simp [replaceLine_eq_nil]
  · have hkey : lines (keyLine plain p ++ ['\n']) = [keyLine plain p] :=
      lines_line (not_mem_keyLine (.inl rfl) p) (not_mem_keyLine (.inr rfl) p)
    have hsolid := solid_closed h
    constructor
    · rw [solid, lines_append_line, List.filter_append, ← solid, hsolid, hkey]
      simp [keyLine_ne_nil]
    · intro l hl
      rw [lines_append_line, hkey] at hl
      rcases List.mem_append.mp hl with hl | hl
      · by_cases hne : l = []
        · rw [hne]
          exact List.not_mem_nil
        · have hmem : l ∈ solid (t ++ ['\n']) := List.mem_filter.mpr ⟨hl, by simpa using hne⟩
          rw [hsolid] at hmem
          exact h l (List.mem_of_mem_filter hmem)
      · rw [List.mem_singleton.mp hl]
        exact not_mem_keyLine (.inr rfl) p

lemma replaced_replaced (p q : Text) (ls : List Text) :
    replaced plain q (replaced plain p ls) = replaced plain q ls := by
  rw [replaced, replaced, replaced]
  split_ifs with hany hmap hmap
  · rw [List.map_map]
    apply List.map_congr_left
    intro l _
    exact replaceLine_replaceLine p q l
  · have hkeep : (ls.map (replaceLine plain p)).any isKeyLine = ls.any isKeyLine := by
      rw [List.any_map]
      congr 1
      funext l
      exact isKeyLine_replaceLine plain p l
    exact absurd (hkeep.trans hany) hmap
  · have hother : ∀ l ∈ ls, isKeyLine l = false := by
      intro l hl
      by_contra hk
      exact hany (List.any_eq_true.mpr ⟨l, hl, by simpa using hk⟩)
    have hkey : replaceLine plain q (keyLine plain p) = keyLine plain q := by
      have hk := isKeyLine_keyLine plain p []
      have hnone := commentOf_keyLine plain p (List.not_mem_nil (a := '"'))
      rw [List.append_nil] at hk hnone
      rw [replaceLine, if_pos hk, hnone]
      rfl
    have hsame : ls.map (replaceLine plain q) = ls := by
      rw [List.map_congr_left (g := id)]
      · simp
      · intro l hl
        simp [replaceLine, hother l hl]
    rw [List.map_append, hsame, List.map_singleton, hkey]
  · refine absurd ?_ hmap
    have hk := isKeyLine_keyLine plain p []
    rw [List.append_nil] at hk
    simp [hk]

end Texts

section Requests

open Persistence (FileName)

variable {path : Text} {plain : Char → Bool} {s s' : Store} {i : ℕ} {t : Task} {fault : Option Fault}

lemma readText_toBytes (text : Text) : readText (toBytes text) = .ok text := by
  simp [readText, toBytes, fromUtf8_asBytes]

def Phase.Writing : Phase → Prop
  | .created _ _ | .written _ _ => True
  | _ => False

def Phase.InPlace : Phase → Prop
  | .renamed | .done => True
  | _ => False

def Phase.Composed : Phase → Prop
  | .composed _ => True
  | _ => False

def Phase.Written : Phase → Prop
  | .written _ _ => True
  | _ => False

instance : DecidablePred Phase.Writing
  | .created _ _ | .written _ _ => .isTrue trivial
  | .chosen | .composed _ | .renamed | .done | .cleaning _ | .refused _ => .isFalse id

instance : DecidablePred Phase.Composed
  | .composed _ => .isTrue trivial
  | .chosen | .created _ _ | .written _ _ | .renamed | .done | .cleaning _ | .refused _ =>
    .isFalse id

def Phase.text : Phase → Option Text
  | .composed text | .created text _ | .written text _ => some text
  | _ => none

lemma advance_cases (path : Text) (plain : Char → Bool) (s : Store) (i : ℕ) (t : Task)
    (fault : Option Fault) :
    (t.phase.InPlace ∧ t.phase ≠ .renamed ∨ ∃ r, t.phase = .refused r) ∧
        advance path plain s i t fault = s ∨
      (∃ p files, ¬t.phase.InPlace ∧ ¬p.InPlace ∧
        advance path plain s i t fault = { s with files := files }.setPhase i t p) ∨
      (∃ files text fd, t.phase = .written text fd ∧ fault = none ∧
        advance path plain s i t fault =
          { s with files := files, renamed := (i, t.secret) :: s.renamed }.setPhase i t .renamed) ∨
      t.phase = .renamed ∧ advance path plain s i t fault =
        { s with psk := some t.secret, effected := (i, t.secret) :: s.effected }.setPhase i t .done := by
  obtain ⟨secret, phase⟩ := t
  cases phase with
  | chosen =>
    right; left
    cases fault with
    | none =>
      simp only [advance]
      cases compose plain secret (s.files.read .target) with
      | ok text => exact ⟨_, s.files, id, id, rfl⟩
      | error e => exact ⟨_, s.files, id, id, rfl⟩
    | some f => exact ⟨_, s.files, id, id, rfl⟩
  | composed text =>
    right; left
    cases fault with
    | none => exact ⟨_, _, id, id, rfl⟩
    | some f => exact ⟨_, s.files, id, id, rfl⟩
  | created text fd =>
    right; left
    cases fault with
    | none => exact ⟨_, _, id, id, rfl⟩
    | some f => exact ⟨_, _, id, id, rfl⟩
  | written text fd =>
    cases fault with
    | none =>
      cases h : s.files.rename .tmp .target with
      | some files =>
        exact .inr (.inr (.inl ⟨files, text, fd, rfl, rfl, by simp only [advance, h]⟩))
      | none => exact .inr (.inl ⟨.cleaning notFound, s.files, id, id, by simp only [advance, h]⟩)
    | some f => exact .inr (.inl ⟨_, s.files, id, id, rfl⟩)
  | renamed => exact .inr (.inr (.inr ⟨rfl, by cases fault <;> rfl⟩))
  | cleaning e =>
    right; left
    cases fault <;> exact ⟨_, _, id, id, rfl⟩
  | done => exact .inl ⟨.inl ⟨trivial, by simp⟩, by cases fault <;> rfl⟩
  | refused r => exact .inl ⟨.inr ⟨r, rfl⟩, by cases fault <;> rfl⟩

/-- What holds in every run: the memory has the secret that took effect last, and nothing takes
effect whose file was not put in place before. -/
structure Sound (psk : Option Text) (s : Store) : Prop where
  memory : s.psk = (s.effected.head?.map Prod.snd).or psk
  effected : ∀ e ∈ s.effected, e ∈ s.renamed
  renamed : ∀ e ∈ s.renamed, ∃ t, s.tasks.get e.1 = some t ∧ t.secret = e.2 ∧ t.phase.InPlace
  placed : ∀ i t, s.tasks.get i = some t → t.phase.InPlace → (i, t.secret) ∈ s.renamed
  done : ∀ i t, s.tasks.get i = some t → t.phase = .done → (i, t.secret) ∈ s.effected

variable {psk : Option Text}

lemma Sound.setPhase (h : Sound psk s) (ht : s.tasks.get i = some t) (hp : ¬t.phase.InPlace)
    {p : Phase} (hp' : ¬p.InPlace) (files : Files FileName UInt8) :
    Sound psk ({ s with files := files }.setPhase i t p) := by
  refine ⟨h.memory, h.effected, ?_, ?_, ?_⟩
  · intro e he
    obtain ⟨u, hu, hsecret, hplace⟩ := h.renamed e he
    have hne : e.1 ≠ i := by
      intro heq
      rw [heq, ht] at hu
      cases hu
      exact hp hplace
    exact ⟨u, (FiniteMap.get_set_ne _ _ hne).trans hu, hsecret, hplace⟩
  · intro j u hj hu
    obtain ⟨-, rfl⟩ | ⟨-, hj⟩ := FiniteMap.get_of_set hj
    · exact absurd hu hp'
    · exact h.placed j u hj hu
  · intro j u hj hu
    obtain ⟨-, rfl⟩ | ⟨-, hj⟩ := FiniteMap.get_of_set hj
    · exact absurd (by rw [show p = .done from hu]; trivial) hp'
    · exact h.done j u hj hu

lemma Sound.put (h : Sound psk s) (ht : s.tasks.get i = some t) (files : Files FileName UInt8) :
    Sound psk
      ({ s with files := files, renamed := (i, t.secret) :: s.renamed }.setPhase i t .renamed) := by
  refine ⟨h.memory, fun e he => List.mem_cons_of_mem _ (h.effected e he), ?_, ?_, ?_⟩
  · intro e he
    by_cases hi : e.1 = i
    · refine ⟨⟨t.secret, .renamed⟩, by rw [hi]; exact FiniteMap.get_set_self _ _ _, ?_, trivial⟩
      obtain rfl | he := List.mem_cons.mp he
      · rfl
      · obtain ⟨u, hu, hsecret, -⟩ := h.renamed e he
        rw [hi, ht] at hu
        cases hu
        exact hsecret
    · obtain rfl | he := List.mem_cons.mp he
      · exact absurd rfl hi
      · obtain ⟨u, hu, hrest⟩ := h.renamed e he
        exact ⟨u, (FiniteMap.get_set_ne _ _ hi).trans hu, hrest⟩
  · intro j u hj hu
    obtain ⟨rfl, rfl⟩ | ⟨-, hj⟩ := FiniteMap.get_of_set hj
    · exact List.mem_cons_self
    · exact List.mem_cons_of_mem _ (h.placed j u hj hu)
  · intro j u hj hu
    obtain ⟨-, rfl⟩ | ⟨-, hj⟩ := FiniteMap.get_of_set hj
    · cases hu
    · exact h.done j u hj hu

lemma Sound.effect (h : Sound psk s) (ht : s.tasks.get i = some t) (hp : t.phase = .renamed) :
    Sound psk
      ({ s with psk := some t.secret, effected := (i, t.secret) :: s.effected }.setPhase i t
        .done) := by
  have hplaced := h.placed i t ht (by rw [hp]; trivial)
  refine ⟨rfl, ?_, ?_, ?_, ?_⟩
  · intro e he
    obtain rfl | he := List.mem_cons.mp he
    · exact hplaced
    · exact h.effected e he
  · intro e he
    obtain ⟨u, hu, hsecret, hplace⟩ := h.renamed e he
    by_cases hi : e.1 = i
    · rw [hi, ht] at hu
      cases hu
      exact ⟨⟨t.secret, .done⟩, by rw [hi]; exact FiniteMap.get_set_self _ _ _, hsecret, trivial⟩
    · exact ⟨u, (FiniteMap.get_set_ne _ _ hi).trans hu, hsecret, hplace⟩
  · intro j u hj hu
    obtain ⟨rfl, rfl⟩ | ⟨-, hj⟩ := FiniteMap.get_of_set hj
    · exact hplaced
    · exact h.placed j u hj hu
  · intro j u hj hu
    obtain ⟨rfl, rfl⟩ | ⟨-, hj⟩ := FiniteMap.get_of_set hj
    · exact List.mem_cons_self
    · exact List.mem_cons_of_mem _ (h.done j u hj hu)

lemma Sound.added (h : Sound psk s) (hi : ¬s.tasks.contains i) (hp : ¬t.phase.InPlace) :
    Sound psk { s with tasks := s.tasks.set i t } := by
  have hnone : s.tasks.get i = none := by simpa [FiniteMap.contains] using hi
  refine ⟨h.memory, h.effected, ?_, ?_, ?_⟩
  · intro e he
    obtain ⟨u, hu, hrest⟩ := h.renamed e he
    have hne : e.1 ≠ i := by
      intro heq
      rw [heq, hnone] at hu
      cases hu
    exact ⟨u, (FiniteMap.get_set_ne _ _ hne).trans hu, hrest⟩
  · intro j u hj hu
    obtain ⟨-, rfl⟩ | ⟨-, hj⟩ := FiniteMap.get_of_set hj
    · exact absurd hu hp
    · exact h.placed j u hj hu
  · intro j u hj hu
    obtain ⟨-, rfl⟩ | ⟨-, hj⟩ := FiniteMap.get_of_set hj
    · exact absurd (by rw [hu]; trivial) hp
    · exact h.done j u hj hu

lemma Sound.step (h : Sound psk s) (a : Action) : Sound psk (step path plain s a) := by
  cases a with
  | start i password random =>
    simp only [Rotation.step]
    split
    · exact h
    · rename_i hi
      split
      · exact h.added hi id
      · exact h.added hi id
  | next i fault =>
    simp only [Rotation.step]
    split
    · exact h
    · rename_i t ht
      obtain ⟨-, heq⟩ | ⟨p, files, hp, hp', heq⟩ | ⟨files, text, fd, -, -, heq⟩ | ⟨hp, heq⟩ :=
        advance_cases path plain s i t fault
      · rw [heq]
        exact h
      · rw [heq]
        exact h.setPhase ht hp hp' files
      · rw [heq]
        exact h.put ht files
      · rw [heq]
        exact h.effect ht hp

section Disk

variable {file text : Text} {p : Phase} {files : Files FileName UInt8}

/-- No rotation opens the temporary file while another has it open, or has written it and not yet
moved it. -/
def Clear (s : Store) : Action → Prop
  | .start _ _ _ => True
  | .next i fault => ∀ t, s.tasks.get i = some t → t.phase.Composed → fault = none →
      ∀ j u, s.tasks.get j = some u → ¬u.phase.Writing

instance (s : Store) : DecidablePred (Clear s)
  | .start _ _ _ => .isTrue trivial
  | .next i fault =>
      decidable_of_iff (∀ t ∈ s.tasks.get i, t.phase.Composed → fault = none →
        ∀ e ∈ s.tasks.toList, ¬e.2.phase.Writing) <| by
        simp only [Clear, FiniteMap.forall_get_iff (P := fun u : Task => ¬u.phase.Writing),
          Option.mem_def]

structure Drawn (plain : Char → Bool) (file secret text : Text) : Prop where
  clean : Clean text
  solid : solid text = replaced plain secret (solid file)

/-- A text as the last of some rotations leaves it. -/
structure Kept (plain : Char → Bool) (file : Text) (renamed : List (ℕ × Text)) (text : Text) :
    Prop where
  clean : Clean text
  untouched : renamed = [] → text = file
  last : ∀ e rest, renamed = e :: rest → solid text = replaced plain e.2 (solid file)

lemma Kept.rewritten {renamed : List (ℕ × Text)} (h : Kept plain file renamed text) (secret : Text) :
    Drawn plain file secret (rewritten plain secret text) := by
  obtain ⟨hlines, hclean⟩ := rewritten_lines plain secret h.clean
  refine ⟨hclean, ?_⟩
  rw [hlines]
  cases hr : renamed with
  | nil => rw [h.untouched hr]
  | cons e rest => rw [h.last e rest hr, replaced_replaced]

lemma Drawn.kept {secret : Text} (h : Drawn plain file secret text) (i : ℕ)
    (renamed : List (ℕ × Text)) : Kept plain file ((i, secret) :: renamed) text where
  clean := h.clean
  untouched hnil := absurd hnil (List.cons_ne_nil _ _)
  last e rest he := by
    obtain ⟨rfl, rfl⟩ := List.cons.inj he
    exact h.solid

structure Owns (files : Files FileName UInt8) (fd : ℕ) (content : List UInt8) : Prop where
  tmp : ∀ k, files.names .tmp = some k → k = fd
  target : files.names .target ≠ some fd
  content : files.contents fd = content

def Phase.Holds (files : Files FileName UInt8) : Phase → Prop
  | .created _ fd => Owns files fd []
  | .written text fd => Owns files fd (toBytes text)
  | _ => True

lemma Owns.write {fd : ℕ} (h : Owns files fd []) (bytes : List UInt8) :
    Owns (files.write fd bytes) fd bytes :=
  ⟨h.tmp, h.target, Files.contents_write h.content⟩

lemma Phase.Holds.remove (h : p.Holds files) : p.Holds (files.remove .tmp) := by
  have htmp : (files.remove .tmp).names .tmp = none := by simp [Files.remove]
  have htarget : (files.remove .tmp).names .target = files.names .target := by simp [Files.remove]
  have howns {fd : ℕ} {content : List UInt8} (ho : Owns files fd content) :
      Owns (files.remove .tmp) fd content := by
    refine ⟨?_, by rw [htarget]; exact ho.target, ho.content⟩
    intro k hk
    rw [htmp] at hk
    cases hk
  cases p with
  | created text fd => exact howns h
  | written text fd => exact howns h
  | _ => trivial

lemma Phase.holds_of_not_writing (files : Files FileName UInt8) (h : ¬p.Writing) : p.Holds files := by
  cases p with
  | created text fd => exact absurd trivial h
  | written text fd => exact absurd trivial h
  | _ => trivial

structure Settles (plain : Char → Bool) (file : Text) (s : Store) : Prop where
  disk : ∃ text, s.files.read .target = some (toBytes text) ∧ Kept plain file s.renamed text
  drawn : ∀ i t text, s.tasks.get i = some t → t.phase.text = some text →
    Drawn plain file t.secret text
  single : ∀ i j t u, s.tasks.get i = some t → s.tasks.get j = some u → t.phase.Writing →
    u.phase.Writing → i = j
  holds : ∀ i t, s.tasks.get i = some t → t.phase.Holds s.files

lemma Settles.not_writing (h : Settles plain file s) (ht : s.tasks.get i = some t)
    (hw : t.phase.Writing) {j : ℕ} {u : Task} (hj : s.tasks.get j = some u) (hji : j ≠ i) :
    ¬u.phase.Writing :=
  fun hu => hji (h.single j i u t hj ht hu hw)

lemma Settles.holds_other (h : Settles plain file s) (ht : s.tasks.get i = some t)
    (hw : t.phase.Writing) (files : Files FileName UInt8) :
    ∀ j u, s.tasks.get j = some u → j ≠ i → u.phase.Holds files :=
  fun _ _ hj hji => Phase.holds_of_not_writing _ (h.not_writing ht hw hj hji)

lemma Settles.move (h : Settles plain file s) (ht : s.tasks.get i = some t)
    (hread : files.read .target = s.files.read .target)
    (htext : ∀ text, p.text = some text → Drawn plain file t.secret text)
    (hwriting : p.Writing → t.phase.Writing ∨ ∀ j u, s.tasks.get j = some u → ¬u.phase.Writing)
    (hholds : p.Holds files)
    (hothers : ∀ j u, s.tasks.get j = some u → j ≠ i → u.phase.Holds files) :
    Settles plain file ({ s with files := files }.setPhase i t p) := by
  have halone : p.Writing → ∀ j u, s.tasks.get j = some u → j ≠ i → ¬u.phase.Writing := by
    intro hp j u hj hji
    obtain hw | hw := hwriting hp
    · exact h.not_writing ht hw hj hji
    · exact hw j u hj
  refine ⟨?_, ?_, ?_, ?_⟩
  · obtain ⟨text, hfile, hkept⟩ := h.disk
    exact ⟨text, hread.trans hfile, hkept⟩
  · intro j u text hj hu
    obtain ⟨-, rfl⟩ | ⟨-, hj⟩ := FiniteMap.get_of_set hj
    · exact htext text hu
    · exact h.drawn j u text hj hu
  · intro j k u v hj hk hu hv
    obtain ⟨hji, rfl⟩ | ⟨hji, hj⟩ := FiniteMap.get_of_set hj <;>
      obtain ⟨hki, rfl⟩ | ⟨hki, hk⟩ := FiniteMap.get_of_set hk
    · rw [hji, hki]
    · exact absurd hv (halone hu k v hk hki)
    · exact absurd hu (halone hv j u hj hji)
    · exact h.single j k u v hj hk hu hv
  · intro j u hj
    obtain ⟨-, rfl⟩ | ⟨hji, hj⟩ := FiniteMap.get_of_set hj
    · exact hholds
    · exact hothers j u hj hji

lemma Settles.put (h : Settles plain file s) (ht : s.tasks.get i = some t) {fd : ℕ}
    (hp : t.phase = .written text fd) (hrename : s.files.rename .tmp .target = some files) :
    Settles plain file
      ({ s with files := files, renamed := (i, t.secret) :: s.renamed }.setPhase i t .renamed) := by
  have hw : t.phase.Writing := by rw [hp]; trivial
  have howns : Owns s.files fd (toBytes text) := by simpa only [hp] using! h.holds i t ht
  have hread : files.read .target = some (toBytes text) := by
    rw [Files.read_rename hrename, Files.read]
    cases htmp : s.files.names .tmp with
    | none => rw [Files.rename_none htmp] at hrename; cases hrename
    | some k => rw [howns.tmp k htmp, Option.map_some, howns.content]
  have hdrawn := h.drawn i t text ht (by rw [hp]; rfl)
  have hnone : ∀ j u, (s.tasks.set i { t with phase := .renamed }).get j = some u →
      ¬u.phase.Writing := by
    intro j u hj
    obtain ⟨-, rfl⟩ | ⟨hji, hj⟩ := FiniteMap.get_of_set hj
    · exact id
    · exact h.not_writing ht hw hj hji
  refine ⟨⟨text, hread, hdrawn.kept i s.renamed⟩, ?_, ?_, ?_⟩
  · intro j u text' hj hu
    obtain ⟨-, rfl⟩ | ⟨-, hj⟩ := FiniteMap.get_of_set hj
    · cases hu
    · exact h.drawn j u text' hj hu
  · intro j k u v hj _ hu
    exact absurd hu (hnone j u hj)
  · intro j u hj
    exact Phase.holds_of_not_writing _ (hnone j u hj)

lemma Settles.advance (h : Settles plain file s) (ht : s.tasks.get i = some t)
    (hclear : t.phase.Composed → fault = none →
      ∀ j u, s.tasks.get j = some u → ¬u.phase.Writing) :
    Settles plain file (advance path plain s i t fault) := by
  have hsame : ∀ j u, s.tasks.get j = some u → j ≠ i → u.phase.Holds s.files :=
    fun j u hj _ => h.holds j u hj
  have hquit : ∀ p : Phase, p.text = none → ¬p.Writing → Settles plain file (s.setPhase i t p) := by
    intro p hp hw
    exact h.move ht rfl (by simp [hp]) (fun hw' => absurd hw' hw)
      (Phase.holds_of_not_writing _ hw) hsame
  simp only [Rotation.advance]
  split
  next hp =>
    obtain ⟨text, hread, hkept⟩ := h.disk
    have hcompose : compose plain t.secret (s.files.read .target) =
        .ok (rewritten plain t.secret text) := by
      rw [compose, hread, Option.elim_some]
      change (readText (toBytes text) >>= _) = _
      rw [readText_toBytes]
      rfl
    simp only [hcompose]
    refine h.move ht rfl ?_ (fun hw => absurd hw id) trivial hsame
    rintro _ ⟨⟩
    exact hkept.rewritten t.secret
  next => exact hquit _ rfl id
  next text hp =>
    have hdrawn := h.drawn i t text ht (by rw [hp]; rfl)
    have hnone := hclear (by rw [hp]; trivial) rfl
    have howns : Owns (s.files.create .tmp).1 (s.files.create .tmp).2 [] := by
      refine ⟨?_, ?_, Files.contents_create⟩
      · intro k hk
        rw [Files.names_create] at hk
        exact (Option.some.inj hk).symm
      · intro htarget
        cases (s.files.create .tmp).1.separate htarget Files.names_create
    refine h.move ht (Files.read_create (by decide)) ?_ (fun _ => .inr hnone) howns
      fun j u hj _ => Phase.holds_of_not_writing _ (hnone j u hj)
    rintro _ ⟨⟩
    exact hdrawn
  next => exact hquit _ rfl id
  next text fd hp =>
    have hw : t.phase.Writing := by rw [hp]; trivial
    have howns : Owns s.files fd [] := by simpa only [hp] using! h.holds i t ht
    have hdrawn := h.drawn i t text ht (by rw [hp]; rfl)
    refine h.move ht (Files.read_write _ howns.target) ?_ (fun _ => .inl hw) (howns.write _)
      (h.holds_other ht hw _)
    rintro _ ⟨⟩
    exact hdrawn
  next text fd f hp =>
    have hw : t.phase.Writing := by rw [hp]; trivial
    have howns : Owns s.files fd [] := by simpa only [hp] using! h.holds i t ht
    exact h.move ht (Files.read_write _ howns.target) (by rintro _ ⟨⟩) (fun hw' => absurd hw' id)
      trivial (h.holds_other ht hw _)
  next text fd hp =>
    split
    · rename_i files hrename
      exact h.put ht hp hrename
    · exact hquit _ rfl id
  next => exact hquit _ rfl id
  next =>
    have hmoved := hquit .done rfl id
    exact ⟨hmoved.disk, hmoved.drawn, hmoved.single, hmoved.holds⟩
  next =>
    exact h.move ht (Files.read_remove (by decide)) (by rintro _ ⟨⟩) (fun hw => absurd hw id) trivial
      fun j u hj _ => (h.holds j u hj).remove
  next => exact h
  next => exact h

lemma Settles.step (h : Settles plain file s) {a : Action} (hclear : Clear s a) :
    Settles plain file (step path plain s a) := by
  cases a with
  | start i password random =>
    have hadded : ∀ t : Task, ¬s.tasks.contains i → t.phase.text = none → ¬t.phase.Writing →
        Settles plain file { s with tasks := s.tasks.set i t } := by
      intro t hi hp hw
      refine ⟨h.disk, ?_, ?_, ?_⟩
      · intro j u text hj hu
        obtain ⟨-, rfl⟩ | ⟨-, hj⟩ := FiniteMap.get_of_set hj
        · rw [hp] at hu
          cases hu
        · exact h.drawn j u text hj hu
      · intro j k u v hj hk hu hv
        obtain ⟨-, rfl⟩ | ⟨-, hj⟩ := FiniteMap.get_of_set hj
        · exact absurd hu hw
        · obtain ⟨-, rfl⟩ | ⟨-, hk⟩ := FiniteMap.get_of_set hk
          · exact absurd hv hw
          · exact h.single j k u v hj hk hu hv
      · intro j u hj
        obtain ⟨-, rfl⟩ | ⟨-, hj⟩ := FiniteMap.get_of_set hj
        · exact Phase.holds_of_not_writing _ hw
        · exact h.holds j u hj
    simp only [Rotation.step]
    split
    · exact h
    · rename_i hi
      split
      · exact hadded _ hi rfl id
      · exact hadded _ hi rfl id
  | next i fault =>
    simp only [Rotation.step]
    split
    · exact h
    · rename_i t ht
      exact h.advance ht (hclear t ht)

end Disk

section Turns

/-- No rotation moves its file into place while another has moved its own and not yet changed the
memory. -/
def Apart (s : Store) : Action → Prop
  | .start _ _ _ => True
  | .next i fault => ∀ t, s.tasks.get i = some t → t.phase.Written → fault = none →
      ∀ j u, s.tasks.get j = some u → u.phase ≠ .renamed

def Agrees (s : Store) : Prop :=
  (∀ j u, s.tasks.get j = some u → u.phase ≠ .renamed) ∧ s.effected = s.renamed ∨
    ∃ i t, s.tasks.get i = some t ∧ t.phase = .renamed ∧
      s.renamed = (i, t.secret) :: s.effected ∧ ∀ j u, s.tasks.get j = some u → u.phase = .renamed → j = i

lemma Agrees.set (h : Agrees s) {u : Task} (htasks : s'.tasks = s.tasks.set i u)
    (hu : u.phase ≠ .renamed) (hold : ∀ t, s.tasks.get i = some t → t.phase ≠ .renamed)
    (hrenamed : s'.renamed = s.renamed) (heffected : s'.effected = s.effected) : Agrees s' := by
  rw [Agrees, htasks, hrenamed, heffected]
  obtain ⟨hnone, heq⟩ | ⟨k, t, hk, ht, hcons, honly⟩ := h
  · refine Or.inl ⟨?_, heq⟩
    intro j v hj
    obtain ⟨-, rfl⟩ | ⟨-, hj⟩ := FiniteMap.get_of_set hj
    · exact hu
    · exact hnone j v hj
  · have hki : k ≠ i := by
      rintro rfl
      exact hold t hk ht
    refine Or.inr ⟨k, t, (FiniteMap.get_set_ne _ _ hki).trans hk, ht, hcons, ?_⟩
    intro j v hj hv
    obtain ⟨-, rfl⟩ | ⟨-, hj⟩ := FiniteMap.get_of_set hj
    · exact absurd hv hu
    · exact honly j v hj hv

lemma Agrees.step (h : Agrees s) {a : Action} (ha : Apart s a) : Agrees (step path plain s a) := by
  cases a with
  | start i password random =>
    simp only [Rotation.step]
    split
    · exact h
    · rename_i hi
      have hold : ∀ t, s.tasks.get i = some t → t.phase ≠ .renamed := by
        intro t ht
        exact absurd (by rw [FiniteMap.contains, ht]; rfl) hi
      split
      · exact h.set rfl (by simp) hold rfl rfl
      · exact h.set rfl (by simp) hold rfl rfl
  | next i fault =>
    simp only [Rotation.step]
    split
    · exact h
    · rename_i t ht
      obtain ⟨-, heq⟩ | ⟨p, files, hp, hp', heq⟩ | ⟨files, text, fd, hp, hfault, heq⟩ | ⟨hp, heq⟩ :=
        advance_cases path plain s i t fault
      · rw [heq]
        exact h
      · rw [heq]
        refine h.set rfl (fun hr => hp' (by rw [show p = .renamed from hr]; trivial)) ?_ rfl rfl
        intro u hu hr
        rw [ht] at hu
        cases hu
        exact hp (by rw [hr]; trivial)
      · rw [heq]
        have hnone := ha t ht (by rw [hp]; trivial) hfault
        obtain ⟨-, hagree⟩ | ⟨k, u, hk, hu, -⟩ := h
        · refine Or.inr ⟨i, ⟨t.secret, .renamed⟩, FiniteMap.get_set_self _ _ _, rfl, ?_, ?_⟩
          · exact congrArg _ hagree.symm
          · intro j u hj hu
            obtain ⟨hji, -⟩ | ⟨-, hj⟩ := FiniteMap.get_of_set hj
            · exact hji
            · exact absurd hu (hnone j u hj)
        · exact absurd hu (hnone k u hk)
      · rw [heq]
        obtain ⟨hnone, -⟩ | ⟨k, u, hk, -, hcons, honly⟩ := h
        · exact absurd hp (hnone i t ht)
        · obtain rfl := honly i t ht hp
          rw [ht] at hk
          cases hk
          refine Or.inl ⟨?_, hcons.symm⟩
          intro j v hj hv
          obtain ⟨-, rfl⟩ | ⟨hji, hj⟩ := FiniteMap.get_of_set hj
          · cases hv
          · exact hji (honly j v hj hv)

end Turns

def heldFile : Text := "port: 9800\r\npsk: \"old-secret\"  # PIT-49\n".toList

def onlyFile (file : Text) : Files FileName UInt8 where
  names n := if n = .target then some 0 else none
  contents _ := toBytes file
  next := 1
  separate := by
    intro m n i hm hn
    cases m <;> cases n <;> simp_all
  fresh := by
    intro n i hn
    cases n <;> simp_all

def crossed : List Action :=
  .start 0 (some "first-key".toList) [] :: List.replicate 4 (.next 0 none) ++
    .start 1 (some "second-key".toList) [] :: List.replicate 5 (.next 1 none) ++ [.next 0 none]

/-- The second rotation opens the file that the first has written: the secret of the second, which is
refused, is put in place. -/
example :
    let acts := [.start 0 (some "first-key".toList) [], .start 1 (some "second-key".toList) []] ++
      [.next 0 none, .next 1 none, .next 0 none, .next 0 none, .next 1 none, .next 1 none] ++
      [.next 0 none, .next 0 none, .next 1 none, .next 1 none]
    let s := run (step [] fun _ => true) (start (onlyFile "psk: a\n".toList) none) acts
    s.psk = some "first-key".toList ∧
      s.files.read .target = some (toBytes "psk: \"second-key\"".toList) ∧
      (s.tasks.get 1).bind Task.answer =
        some (.error (writeBackFailed [] "write".toList notFound)) := by
  decide

end Requests

end Rotation

end MediaServo.Server
