import Mathlib.Data.List.DropRight
import Mathlib.Tactic
import MediaServo.Foundations.Utf8

/-! Texts as lines and as words: trimming, splitting after each line break, replacing a pattern, and
what stands between separators. -/

namespace MediaServo.Foundations.Lines

variable {α : Type}

section Trim

def trim (p : α → Bool) (l : List α) : List α := (l.dropWhile p).rdropWhile p

variable {p : α → Bool} {a b l : List α}

lemma dropWhile_of_head {c : α} (h : p c = false) : (c :: l).dropWhile p = c :: l := by
  simp [h]

lemma rdropWhile_append (h : ∀ ha : a ≠ [], p (a.getLast ha) = false) (b : List α) :
    (a ++ b).rdropWhile p = a ++ b.rdropWhile p := by
  induction b using List.reverseRecOn with
  | nil =>
    rw [List.append_nil, List.rdropWhile_nil, List.append_nil, List.rdropWhile_eq_self_iff]
    intro ha
    simp [h ha]
  | append_singleton b c ih =>
    rw [← List.append_assoc, List.rdropWhile_concat, List.rdropWhile_concat, ih]
    split
    · rfl
    · rw [List.append_assoc]

lemma rdropWhile_congr {q : α → Bool} (h : ∀ c ∈ l, p c = q c) : l.rdropWhile p = l.rdropWhile q := by
  induction l using List.reverseRecOn with
  | nil => rfl
  | append_singleton l c ih =>
    rw [List.rdropWhile_concat, List.rdropWhile_concat, h c (by simp),
      ih fun x hx => h x (List.mem_append_left _ hx)]

lemma mem_of_mem_trim {c : α} (h : c ∈ trim p l) : c ∈ l :=
  (List.dropWhile_sublist p).subset ((List.rdropWhile_prefix p _).subset h)

lemma trim_trim (p : α → Bool) (l : List α) : trim p (trim p l) = trim p l := by
  have hhead : (trim p l).dropWhile p = trim p l := by
    rw [List.dropWhile_eq_self_iff]
    intro hlen
    have hpre : trim p l <+: l.dropWhile p := List.rdropWhile_prefix p _
    have hlen' : 0 < (l.dropWhile p).length := lt_of_lt_of_le hlen hpre.length_le
    rw [hpre.getElem hlen]
    exact List.dropWhile_get_zero_not _ l hlen'
  rw [trim, hhead]
  exact List.rdropWhile_idempotent p _

lemma trim_append {c : α} (hc : p c = false) (hl : p ((c :: a).getLast (by simp)) = false)
    (b : List α) : trim p (c :: a ++ b) = c :: a ++ b.rdropWhile p := by
  rw [trim, List.cons_append, dropWhile_of_head hc, ← List.cons_append,
    rdropWhile_append fun _ => hl]

lemma trim_solid {c : α} (hc : p c = false) (hl : p ((c :: a).getLast (by simp)) = false) :
    trim p (c :: a) = c :: a := by
  have h := trim_append hc hl []
  simpa using h

lemma trim_append_blank (h : ∀ c ∈ b, p c = true) (a : List α) : trim p (a ++ b) = trim p a := by
  have hb : ∀ l : List α, (l ++ b).rdropWhile p = l.rdropWhile p := by
    intro l
    induction b using List.reverseRecOn with
    | nil => rw [List.append_nil]
    | append_singleton b c ih =>
      rw [← List.append_assoc, List.rdropWhile_concat_pos _ _ _ (h c (by simp))]
      exact ih fun x hx => h x (by simp [hx])
  rw [trim, trim, List.dropWhile_append]
  split_ifs with he
  · rw [List.isEmpty_iff] at he
    rw [he, List.rdropWhile_nil]
    have hd : b.dropWhile p = [] := List.dropWhile_eq_nil_iff.mpr h
    rw [hd, List.rdropWhile_nil]
  · exact hb _

end Trim

section SplitOnce

variable [DecidableEq α]

def splitOnce (c : α) (t : List α) : Option (List α × List α) :=
  match t.dropWhile (· != c) with
  | _ :: rest => some (t.takeWhile (· != c), rest)
  | [] => none

lemma splitOnce_eq {c : α} {t a b : List α} (h : splitOnce c t = some (a, b)) :
    t = a ++ c :: b ∧ c ∉ a := by
  rw [splitOnce] at h
  split at h
  · next x rest heq =>
    obtain ⟨rfl, rfl⟩ := Prod.mk.inj (Option.some.inj h)
    have hx : x = c := by
      have hne : t.dropWhile (· != c) ≠ [] := by simp [heq]
      have := List.head_dropWhile_not (· != c) hne
      simpa [heq] using this
    refine ⟨?_, ?_⟩
    · rw [← hx, ← heq, hx, List.takeWhile_append_dropWhile]
    · intro hc
      simpa using List.mem_takeWhile_imp hc
  · cases h

lemma splitOnce_append {c : α} {a : List α} (h : c ∉ a) (b : List α) :
    splitOnce c (a ++ c :: b) = some (a, b) := by
  have hall : ∀ x ∈ a, (x != c) = true := by
    intro x hx
    simpa using ne_of_mem_of_not_mem hx h
  rw [splitOnce, List.dropWhile_append_of_pos hall, List.takeWhile_append_of_pos hall]
  simp

def rsplitOnce (c : α) (t : List α) : Option (List α × List α) :=
  (splitOnce c t.reverse).map fun (a, b) => (b.reverse, a.reverse)

lemma rsplitOnce_eq {c : α} {t a b : List α} (h : rsplitOnce c t = some (a, b)) :
    t = a ++ c :: b ∧ c ∉ b := by
  rw [rsplitOnce, Option.map_eq_some_iff] at h
  obtain ⟨⟨x, y⟩, hxy, heq⟩ := h
  obtain ⟨rfl, rfl⟩ := Prod.mk.inj heq
  obtain ⟨hrev, hx⟩ := splitOnce_eq hxy
  refine ⟨?_, fun hc => hx (List.mem_reverse.mp hc)⟩
  rw [← List.reverse_reverse t, hrev]
  simp

lemma rsplitOnce_append {c : α} {b : List α} (h : c ∉ b) (a : List α) :
    rsplitOnce c (a ++ c :: b) = some (a, b) := by
  have hrev : (a ++ c :: b).reverse = b.reverse ++ c :: a.reverse := by simp
  rw [rsplitOnce, hrev, splitOnce_append (fun hc => h (List.mem_reverse.mp hc))]
  simp

end SplitOnce

def unlines (nl : α) (ls : List (List α)) : List α := ls.flatMap (· ++ [nl])

lemma unlines_append (nl : α) (ls ms : List (List α)) :
    unlines nl (ls ++ ms) = unlines nl ls ++ unlines nl ms :=
  List.flatMap_append

lemma intercalate_unlines (nl : α) (l : List α) (ls : List (List α)) :
    [nl].intercalate (l :: ls) ++ [nl] = unlines nl (l :: ls) := by
  induction ls generalizing l with
  | nil => simp [unlines]
  | cons m ls ih =>
    rw [List.intercalate_cons_cons, List.append_assoc, List.append_assoc, ih, ← List.append_assoc]
    rfl

variable [DecidableEq α]

section Chunks

def chunks (nl : α) : List α → List (List α)
  | [] => []
  | c :: t =>
      if c = nl then [c] :: chunks nl t
      else
        match chunks nl t with
        | [] => [[c]]
        | l :: ls => (c :: l) :: ls

variable {nl : α} {a l t : List α} {ls : List (List α)}

lemma chunks_line (h : nl ∉ l) (t : List α) :
    chunks nl (l ++ nl :: t) = (l ++ [nl]) :: chunks nl t := by
  induction l with
  | nil => simp [chunks]
  | cons c l ih =>
    simp only [List.mem_cons, not_or] at h
    rw [List.cons_append, chunks, if_neg (Ne.symm h.1), ih h.2]
    rfl

lemma chunks_ne_nil (h : t ≠ []) : chunks nl t ≠ [] := by
  cases t with
  | nil => exact absurd rfl h
  | cons c t =>
    rw [chunks]
    split
    · simp
    · split <;> simp

lemma chunks_append (a t : List α) :
    chunks nl (a ++ nl :: t) = chunks nl (a ++ [nl]) ++ chunks nl t := by
  induction a with
  | nil => simp [chunks]
  | cons c a ih =>
    by_cases hc : c = nl
    · simp only [List.cons_append, chunks, if_pos hc, ih]
    · simp only [List.cons_append, chunks, if_neg hc, ih]
      obtain ⟨l, ls, hl⟩ := List.exists_cons_of_ne_nil
        (show chunks nl (a ++ [nl]) ≠ [] from chunks_ne_nil (by simp))
      rw [hl]
      rfl

lemma chunks_unlines (ls : List (List α)) :
    chunks nl (unlines nl ls) = ls.flatMap fun l => chunks nl (l ++ [nl]) := by
  induction ls with
  | nil => rfl
  | cons l ls ih =>
    rw [unlines, List.flatMap_cons, List.append_assoc, List.singleton_append, chunks_append,
      ← unlines, ih, List.flatMap_cons]

lemma chunks_single (h : nl ∉ l) : chunks nl (l ++ [nl]) = [l ++ [nl]] := by
  rw [chunks_line h, chunks]

lemma chunks_open (hne : t ≠ []) (h : nl ∉ t) : chunks nl t = [t] := by
  induction t with
  | nil => exact absurd rfl hne
  | cons c t ih =>
    simp only [List.mem_cons, not_or] at h
    rw [chunks, if_neg (Ne.symm h.1)]
    by_cases ht : t = []
    · subst ht
      rfl
    · rw [ih ht h.2]

lemma chunks_dropLast (h : l ∈ chunks nl t) : nl ∉ l.dropLast := by
  induction t generalizing l with
  | nil => cases h
  | cons c t ih =>
    rw [chunks] at h
    split_ifs at h with hc
    · obtain rfl | h := List.mem_cons.mp h
      · simp
      · exact ih h
    · cases hch : chunks nl t with
      | nil =>
        rw [hch] at h
        rw [List.mem_singleton.mp h]
        simp
      | cons x xs =>
        rw [hch] at h ih
        obtain rfl | h := List.mem_cons.mp h
        · cases x with
          | nil => simp
          | cons y x =>
            rw [List.dropLast_cons_of_ne_nil (by simp), List.mem_cons, not_or]
            exact ⟨fun he => hc he.symm, ih List.mem_cons_self⟩
        · exact ih (List.mem_cons_of_mem _ h)

end Chunks

section Texts

abbrev Text := List Char

def debugChar (plain : Char → Bool) (c : Char) : Text :=
  if c = '"' ∨ c = '\\' then ['\\', c]
  else if c = '\t' then ['\\', 't']
  else if c = '\n' then ['\\', 'n']
  else if c = '\r' then ['\\', 'r']
  else if c.toNat = 0 then ['\\', '0']
  else if plain c then [c]
  else ['\\', 'u', '\x7b'] ++ Nat.toDigits 16 c.toNat ++ ['\x7d']

def debugText (plain : Char → Bool) (t : Text) : Text := '"' :: (t.flatMap (debugChar plain) ++ ['"'])

def debugString (s : String) : String :=
  String.ofList (debugText (fun c => 32 ≤ c.toNat && !(127 ≤ c.toNat && c.toNat < 160)) s.toList)

def debugList (l : List String) : String := "[" ++ ", ".intercalate (l.map debugString) ++ "]"

def chomp (l : Text) : Text :=
  if l.getLast? = some '\n' then
    if l.dropLast.getLast? = some '\r' then l.dropLast.dropLast else l.dropLast
  else l

def lines (t : Text) : List Text := (chunks '\n' t).map chomp

variable {l t : Text}

lemma chomp_clean (h : l.getLast? ≠ some '\r') : chomp (l ++ ['\n']) = l := by
  simp [chomp, h]

lemma break_chomp (h : '\n' ∉ l.dropLast) : '\n' ∉ chomp l := by
  rw [chomp]
  split_ifs with hlast hcr
  · exact fun hm => h ((List.dropLast_sublist _).subset hm)
  · exact h
  · intro hm
    have hne : l ≠ [] := List.ne_nil_of_mem hm
    rw [← List.dropLast_append_getLast hne, List.mem_append, List.mem_singleton] at hm
    obtain hm | hm := hm
    · exact h hm
    · exact hlast (by rw [List.getLast?_eq_getLast_of_ne_nil hne, ← hm])

lemma break_lines (h : l ∈ lines t) : '\n' ∉ l := by
  obtain ⟨c, hc, rfl⟩ := List.mem_map.mp h
  exact break_chomp (chunks_dropLast hc)

end Texts

section Replace

def replaceFrom (pat rep : List α) : ℕ → List α → List α
  | _, [] => []
  | n + 1, _ :: t => replaceFrom pat rep n t
  | 0, c :: t =>
      if pat.isPrefixOf (c :: t) then rep ++ replaceFrom pat rep (pat.length - 1) t
      else c :: replaceFrom pat rep 0 t

def replace (pat rep t : List α) : List α := replaceFrom pat rep 0 t

variable {pat rep m : List α}

lemma replace_fresh (hm : ∀ c ∈ m, c ∉ pat) (hp : pat ≠ []) (b : List α) :
    replace pat rep (m ++ b) = m ++ replace pat rep b := by
  induction m with
  | nil => rfl
  | cons c m ih =>
    obtain ⟨x, pat, rfl⟩ := List.exists_cons_of_ne_nil hp
    have hx : (x :: pat).isPrefixOf (c :: (m ++ b)) = false := by
      have : x ≠ c := fun h => hm c (by simp) (by simp [h])
      simp [List.isPrefixOf, this]
    rw [List.cons_append, replace, replaceFrom, if_neg (by simp [hx]), ← replace,
      ih fun d hd => hm d (by simp [hd])]
    rfl

lemma isPrefixOf_append_fresh (hm : ∀ c ∈ m, c ∉ pat) (hne : m ≠ []) (a b : List α) :
    pat.isPrefixOf (a ++ (m ++ b)) = pat.isPrefixOf a := by
  rw [Bool.eq_iff_iff, List.isPrefixOf_iff_prefix, List.isPrefixOf_iff_prefix]
  constructor
  · intro h
    obtain h' | ⟨y, rfl⟩ := List.prefix_or_prefix_of_prefix h (List.prefix_append a (m ++ b))
    · exact h'
    · cases y with
      | nil => simp
      | cons d y =>
        obtain ⟨c, m, rfl⟩ := List.exists_cons_of_ne_nil hne
        rw [List.prefix_append_right_inj, List.cons_append, List.cons_prefix_cons] at h
        exact absurd (by simp [h.1]) (hm c (by simp))
  · intro h
    exact h.trans (List.prefix_append _ _)

lemma replaceFrom_append (hm : ∀ c ∈ m, c ∉ pat) (hne : m ≠ []) (hp : pat ≠ []) {n : ℕ} (a b : List α)
    (hn : n ≤ a.length) :
    replaceFrom pat rep n (a ++ (m ++ b)) = replaceFrom pat rep n a ++ (m ++ replace pat rep b) := by
  induction a generalizing n with
  | nil =>
    have h0 : n = 0 := by simpa using hn
    subst h0
    exact replace_fresh hm hp b
  | cons c a ih =>
    cases n with
    | succ n => exact ih (by simpa using hn)
    | zero =>
      have hpre := isPrefixOf_append_fresh hm hne (c :: a) b
      rw [List.cons_append] at hpre
      rw [List.cons_append, replaceFrom, replaceFrom, hpre]
      split_ifs with h
      · have hlen := (List.isPrefixOf_iff_prefix.mp h).length_le
        rw [ih (by simp at hlen; omega), List.append_assoc]
      · rw [ih (Nat.zero_le _), List.cons_append]

lemma replace_append (hm : ∀ c ∈ m, c ∉ pat) (hne : m ≠ []) (hp : pat ≠ []) (a b : List α) :
    replace pat rep (a ++ (m ++ b)) = replace pat rep a ++ (m ++ replace pat rep b) :=
  replaceFrom_append hm hne hp a b (Nat.zero_le _)

end Replace

end MediaServo.Foundations.Lines

namespace MediaServo.Foundations.Words

variable {α : Type} {p : α → Bool}

def words (p : α → Bool) (l : List α) : List (List α) := (l.splitOnP p).filter (· ≠ [])

def Solid (p : α → Bool) (w : List α) : Prop := w ≠ [] ∧ ∀ c ∈ w, p c = false

lemma flatten_splitOnP (p : α → Bool) (l : List α) :
    (l.splitOnP p).flatten = l.filter (fun x => !p x) := by
  induction l with
  | nil => rfl
  | cons a l ih =>
    rw [List.splitOnP_cons_eq_if_modifyHead]
    obtain ⟨w, ws, hw⟩ := List.exists_cons_of_ne_nil (List.splitOnP_ne_nil p l)
    rw [hw] at ih ⊢
    by_cases ha : p a = true
    · simpa [ha] using ih
    · simpa [ha] using ih

lemma mem_splitOnP {l w : List α} (h : w ∈ l.splitOnP p) : ∀ c ∈ w, p c = false := by
  intro c hc
  have hm : c ∈ (l.splitOnP p).flatten := List.mem_flatten.mpr ⟨w, h, hc⟩
  rw [flatten_splitOnP] at hm
  simpa using (List.mem_filter.mp hm).2

lemma words_flatten (l : List α) : (words p l).flatten = l.filter (fun c => !p c) := by
  rw [words, ← flatten_splitOnP]
  exact List.flatten_filter_ne_nil

lemma mem_words {l w : List α} (h : w ∈ words p l) : Solid p w := by
  rw [words, List.mem_filter] at h
  exact ⟨by simpa using h.2, mem_splitOnP h.1⟩

lemma words_spaced {sep : α} (hsep : p sep = true) {w : List α} {ws : List (List α)}
    (h : ∀ x ∈ w :: ws, Solid p x) : words p (w ++ ws.flatMap (sep :: ·)) = w :: ws := by
  induction ws generalizing w with
  | nil =>
    obtain ⟨hne, hw⟩ := h w List.mem_cons_self
    rw [List.flatMap_nil, List.append_nil, words, List.splitOnP_eq_singleton hw]
    simp [hne]
  | cons v ws ih =>
    obtain ⟨hne, hw⟩ := h w List.mem_cons_self
    have ht := ih (fun x hx => h x (List.mem_cons_of_mem w hx))
    rw [List.flatMap_cons, List.cons_append, words,
      List.splitOnP_append_cons_of_forall_mem hw sep hsep, List.filter_cons,
      if_pos (by simpa using hne)]
    exact congrArg _ ht

end MediaServo.Foundations.Words
