import MediaServo.Foundations.Runs
import MediaServo.Weaknet.Tail

/-! The events that reach the panel against those that are appended. The lines of the timeline are
groups of event lines that ran together: a line that one writer began when another had yet to end
its own is lost with it. -/

namespace MediaServo.Weaknet.Tail

open MediaServo.Foundations
open Lines (Text lines chomp)

/-- What `serde_json` makes of the lines: an object on a line of its own is read, and a line that is
blank, or where something follows an object, is not. -/
structure ReadsLines {V : Type} (parse : Text → Option V) (Object : EventLine → Prop) : Prop where
  event : ∀ l, Object l → (parse l.text).isSome
  apart : ∀ g : List EventLine, (∀ l ∈ g, Object l) → g.length ≠ 1 →
    parse (g.flatMap EventLine.text) = none

def Reopens : TailAct → Prop
  | .reopen _ => True
  | _ => False

def Panel.Keeps {V : Type} (parse : Text → Option V) (p : Panel V) : TailAct → Prop
  | .write _ => p.file.getLast? = none ∨ p.file.getLast? = some '\n'
  | .tick readable => readable → (p.fresh parse).length ≤ maxEvLines
  | _ => True

instance {V : Type} (parse : Text → Option V) (p : Panel V) :
    (a : TailAct) → Decidable (p.Keeps parse a)
  | .write _ => inferInstanceAs (Decidable (_ ∨ _))
  | .tick _ => inferInstanceAs (Decidable (_ → _))
  | .newline => .isTrue trivial
  | .reopen _ => .isTrue trivial

structure Timeline where
  ended : List (List EventLine)
  begun : List EventLine

namespace Timeline

def groups (t : Timeline) : List (List EventLine) :=
  t.ended ++ if t.begun.isEmpty then [] else [t.begun]

def text (t : Timeline) : Text :=
  Lines.unlines '\n' (t.ended.map (List.flatMap EventLine.text)) ++ t.begun.flatMap EventLine.text

def write (t : Timeline) (l : EventLine) : Timeline := { t with begun := t.begun ++ [l] }

def newline (t : Timeline) : Timeline := ⟨t.ended ++ [t.begun], []⟩

def Objects (t : Timeline) (Object : EventLine → Prop) : Prop :=
  (∀ g ∈ t.ended, ∀ l ∈ g, Object l) ∧ ∀ l ∈ t.begun, Object l

variable {t : Timeline} {g : List EventLine} {Object : EventLine → Prop}

lemma single_group (g : List EventLine) : '\n' ∉ g.flatMap EventLine.text := by
  intro h
  obtain ⟨l, -, hl⟩ := List.mem_flatMap.mp h
  exact l.single hl

lemma flatMap_ne_nil (hg : g ≠ []) : g.flatMap EventLine.text ≠ [] := by
  obtain ⟨l, g, rfl⟩ := List.exists_cons_of_ne_nil hg
  simp [l.solid]

lemma getLast?_group (g : List EventLine) (l : EventLine) :
    ((g ++ [l]).flatMap EventLine.text).getLast? = l.text.getLast? := by
  rw [List.flatMap_append, List.flatMap_singleton, List.getLast?_append_of_ne_nil _ l.solid]

lemma ended_group (g : List EventLine) : (g.flatMap EventLine.text).getLast? ≠ some '\r' := by
  induction g using List.reverseRecOn with
  | nil => simp
  | append_singleton g l => rw [getLast?_group]; exact l.ended

lemma chomp_begun (g : List EventLine) :
    chomp (g.flatMap EventLine.text) = g.flatMap EventLine.text := by
  rw [chomp, if_neg]
  intro h
  exact single_group g (List.mem_of_getLast? h)

lemma lines_text (t : Timeline) :
    lines t.text = t.groups.map (List.flatMap EventLine.text) := by
  obtain ⟨ended, begun⟩ := t
  simp only [text, groups]
  induction ended with
  | nil =>
    by_cases hb : begun = []
    · subst hb
      rfl
    · rw [List.map_nil, Lines.unlines, List.flatMap_nil, List.nil_append, lines,
        Lines.chunks_open (flatMap_ne_nil hb) (single_group begun)]
      simp [hb, chomp_begun]
  | cons g ended ih =>
    rw [List.map_cons, Lines.unlines, List.flatMap_cons, List.append_assoc, List.append_assoc,
      List.singleton_append, lines, Lines.chunks_line (single_group g), List.map_cons,
      Lines.chomp_clean (ended_group g), ← lines, ← Lines.unlines, ih, List.cons_append,
      List.map_cons]

lemma write_text (t : Timeline) (l : EventLine) : (t.write l).text = t.text ++ l.text := by
  simp [write, text]

lemma newline_text (t : Timeline) : t.newline.text = t.text ++ ['\n'] := by
  simp [newline, text, Lines.unlines]

lemma begun_iff (t : Timeline) :
    t.text.getLast? = none ∨ t.text.getLast? = some '\n' ↔ t.begun = [] := by
  obtain ⟨ended, begun⟩ := t
  simp only [text]
  induction begun using List.reverseRecOn with
  | nil =>
    simp only [List.flatMap_nil, List.append_nil, iff_true]
    induction ended using List.reverseRecOn with
    | nil => exact Or.inl rfl
    | append_singleton ended g =>
      right
      simp [Lines.unlines]
  | append_singleton g l =>
    have hne : (g ++ [l]).flatMap EventLine.text ≠ [] := flatMap_ne_nil (by simp)
    rw [List.getLast?_append_of_ne_nil _ hne, getLast?_group]
    have hnil : l.text.getLast? ≠ none := by simp [l.solid]
    have hbreak : l.text.getLast? ≠ some '\n' := fun h => l.single (List.mem_of_getLast? h)
    simp [hnil, hbreak]

lemma write_objects (h : t.Objects Object) {l : EventLine} (hl : Object l) :
    (t.write l).Objects Object :=
  ⟨h.1, by simpa [write, or_imp, forall_and] using ⟨h.2, hl⟩⟩

lemma newline_objects (h : t.Objects Object) : t.newline.Objects Object :=
  ⟨by simpa [newline, or_imp, forall_and] using ⟨h.1, h.2⟩, by simp [newline]⟩

lemma groups_begun (hb : t.begun ≠ []) : t.groups = t.ended ++ [t.begun] := by
  simp [groups, hb]

lemma groups_write (t : Timeline) (l : EventLine) :
    (t.write l).groups = t.ended ++ [t.begun ++ [l]] := groups_begun (by simp [write])

lemma groups_newline (hb : t.begun ≠ []) : t.newline.groups = t.groups := by
  rw [groups_begun hb]
  simp [groups, newline]

end Timeline

structure Follows {V : Type} (Object : EventLine → Prop) (p : Panel V) (t : Timeline) : Prop where
  file : p.file = t.text
  cursor : p.cursor ≤ t.groups.length
  objects : t.Objects Object

section

variable {V : Type} {parse : Text → Option V} {Object : EventLine → Prop} {p : Panel V}
  {t : Timeline}

def Timeline.events (parse : Text → Option V) (t : Timeline) (n : ℕ) : List V :=
  (t.groups.drop n).filterMap fun g => parse (g.flatMap EventLine.text)

lemma Follows.fresh (h : Follows Object p t) : p.fresh parse = t.events parse p.cursor := by
  rw [Panel.fresh, h.file, t.lines_text, ← List.map_drop, List.filterMap_map]
  rfl

lemma ReadsLines.blank (hp : ReadsLines parse Object) : parse [] = none :=
  hp.apart [] (by simp) (by simp)

lemma events_write (hb : t.begun = []) {n : ℕ} (hn : n ≤ t.groups.length) (l : EventLine) :
    (t.write l).events parse n = t.events parse n ++ (parse l.text).toList := by
  have hgroups : (t.write l).groups = t.groups ++ [[l]] := by
    rw [t.groups_write, hb]
    simp [Timeline.groups, hb]
  rw [Timeline.events, hgroups, List.drop_append_of_le_length hn, List.filterMap_append,
    ← Timeline.events]
  simp only [List.filterMap_cons, List.flatMap_singleton, List.filterMap_nil]
  cases parse l.text <;> rfl

lemma events_write_lost (hp : ReadsLines parse Object) (ht : t.Objects Object) (hb : t.begun ≠ [])
    (n : ℕ) {l : EventLine} (hl : Object l) :
    ((t.write l).events parse n).Sublist (t.events parse n) := by
  have hnone : parse ((t.begun ++ [l]).flatMap EventLine.text) = none := by
    apply hp.apart
    · simpa [or_imp, forall_and] using ⟨ht.2, hl⟩
    · simpa using hb
  have hlost : (t.write l).events parse n =
      (t.ended.drop n).filterMap fun g => parse (g.flatMap EventLine.text) := by
    have hlast : ((([t.begun ++ [l]] : List (List EventLine)).drop (n - t.ended.length)).filterMap
        fun g => parse (g.flatMap EventLine.text)) = [] := by
      rw [List.filterMap_eq_nil_iff]
      intro g hg
      rw [List.mem_singleton.mp (List.mem_of_mem_drop hg), hnone]
    rw [Timeline.events, t.groups_write, List.drop_append, List.filterMap_append, hlast,
      List.append_nil]
  rw [hlost, Timeline.events, Timeline.groups_begun hb, List.drop_append]
  exact (List.sublist_append_left _ _).filterMap _

lemma events_newline (hp : ReadsLines parse Object) {n : ℕ} (hn : n ≤ t.groups.length) :
    t.newline.events parse n = t.events parse n := by
  by_cases hb : t.begun = []
  · have hgroups : t.newline.groups = t.groups ++ [[]] := by
      simp [Timeline.groups, Timeline.newline, hb]
    rw [Timeline.events, hgroups, List.drop_append_of_le_length hn, List.filterMap_append,
      ← Timeline.events]
    simp [hp.blank]
  · rw [Timeline.events, Timeline.groups_newline hb, ← Timeline.events]

lemma tailEv_fresh (parse : Text → Option V) (hc : p.cursor ≤ (lines p.file).length) :
    tailEv parse (some p.file) p.cursor =
      (if ((p.fresh parse).drop ((p.fresh parse).length - maxEvLines)).isEmpty then none
        else some ((p.fresh parse).drop ((p.fresh parse).length - maxEvLines)),
        (lines p.file).length) := by
  have hcap : (if maxEvLines < (p.fresh parse).length then
      (p.fresh parse).drop ((p.fresh parse).length - maxEvLines) else p.fresh parse) =
        (p.fresh parse).drop ((p.fresh parse).length - maxEvLines) := by
    split_ifs with hmax
    · rfl
    · rw [Nat.sub_eq_zero_of_le (not_lt.mp hmax), List.drop_zero]
  have hnew : ((lines p.file).drop p.cursor).filterMap parse = p.fresh parse := rfl
  simp only [tailEv, min_eq_left hc, hnew, hcap]
  by_cases hle : (lines p.file).length ≤ p.cursor
  · -- nothing was written since
    have hnil : p.fresh parse = [] := by
      rw [Panel.fresh, List.drop_eq_nil_of_le hle]
      rfl
    simp [hnil, le_antisymm hle hc]
  · rw [if_neg hle]

def news (parse : Text → Option V) (a : TailAct) : List V :=
  (appended [a]).filterMap fun l => parse l.text

structure Told {V : Type} (parse : Text → Option V) (Object : EventLine → Prop) (p : Panel V)
    (a : TailAct) : Prop where
  follows : ∃ t, Follows Object (p.step parse a) t
  told : ((p.step parse a).told parse).Sublist (p.told parse ++ news parse a)
  kept : (p.step parse a).told parse = p.told parse ++ news parse a ↔ p.Keeps parse a

lemma told_write (hp : ReadsLines parse Object) (h : Follows Object p t) {l : EventLine}
    (hl : Object l) : Told parse Object p (.write l) := by
  have hgrow : t.groups.length ≤ (t.write l).groups.length := by
    rw [t.groups_write]
    by_cases hb : t.begun = []
    · simp [Timeline.groups, hb]
    · simp [Timeline.groups_begun hb]
  have h' : Follows Object (p.step parse (.write l)) (t.write l) :=
    ⟨by rw [t.write_text, ← h.file]; rfl, h.cursor.trans hgrow, Timeline.write_objects h.objects hl⟩
  have htold : (p.step parse (.write l)).told parse =
      p.sent.flatten ++ (t.write l).events parse p.cursor := by
    rw [Panel.told, h'.fresh]
    rfl
  have hnews : news parse (.write l) = (parse l.text).toList := by
    cases hv : parse l.text <;> simp [news, appended, hv]
  have hkeeps : p.Keeps parse (.write l) ↔ t.begun = [] := by
    rw [Panel.Keeps, h.file, t.begun_iff]
  by_cases hb : t.begun = []
  · have heq : (p.step parse (.write l)).told parse = p.told parse ++ news parse (.write l) := by
      rw [htold, Panel.told, h.fresh, hnews, List.append_assoc, events_write hb h.cursor]
    exact ⟨⟨_, h'⟩, heq ▸ List.Sublist.refl _, iff_of_true heq (hkeeps.mpr hb)⟩
  · have hlost := events_write_lost hp h.objects hb p.cursor hl
    refine ⟨⟨_, h'⟩, ?_, iff_of_false ?_ (fun hk => hb (hkeeps.mp hk))⟩
    · rw [htold, Panel.told, h.fresh, hnews, List.append_assoc]
      exact List.Sublist.append_left (hlost.trans (List.sublist_append_left _ _)) _
    · rw [htold, Panel.told, h.fresh, hnews, List.append_assoc]
      intro heq
      obtain ⟨v, hv⟩ := Option.isSome_iff_exists.mp (hp.event l hl)
      have hlen := congrArg List.length (List.append_cancel_left heq)
      have hle := hlost.length_le
      rw [hv, List.length_append] at hlen
      simp only [Option.toList_some, List.length_singleton] at hlen
      omega

lemma told_newline (hp : ReadsLines parse Object) (h : Follows Object p t) :
    Told parse Object p .newline := by
  have hgrow : t.groups.length ≤ t.newline.groups.length := by
    by_cases hb : t.begun = []
    · simp [Timeline.groups, Timeline.newline, hb]
    · rw [Timeline.groups_newline hb]
  have h' : Follows Object (p.step parse .newline) t.newline :=
    ⟨by rw [t.newline_text, ← h.file]; rfl, h.cursor.trans hgrow, Timeline.newline_objects h.objects⟩
  have htold : (p.step parse .newline).told parse = p.told parse ++ news parse .newline := by
    rw [Panel.told, Panel.told, h'.fresh, h.fresh]
    exact (congrArg _ (events_newline hp h.cursor)).trans (List.append_nil _).symm
  exact ⟨⟨_, h'⟩, htold ▸ List.Sublist.refl _, iff_of_true htold trivial⟩

lemma told_tick (h : Follows Object p t) : Told parse Object p (.tick true) := by
  have hlines : (lines p.file).length = t.groups.length := by
    rw [h.file, t.lines_text, List.length_map]
  have hev := tailEv_fresh parse (h.cursor.trans hlines.ge)
  have hcursor : (p.step parse (.tick true)).cursor = t.groups.length := by
    simp only [Panel.step, Panel.read, if_true, hev, hlines]
  have hsent : (p.step parse (.tick true)).sent.flatten =
      p.sent.flatten ++ (p.fresh parse).drop ((p.fresh parse).length - maxEvLines) := by
    simp only [Panel.step, Panel.read, if_true, hev, List.flatten_append]
    congr 1
    split_ifs with he
    · rw [List.isEmpty_iff.mp he]
      rfl
    · simp
  have h' : Follows Object (p.step parse (.tick true)) t := ⟨h.file, hcursor.le, h.objects⟩
  have hnone : (p.step parse (.tick true)).fresh parse = [] := by
    rw [h'.fresh, hcursor, Timeline.events, List.drop_length]
    rfl
  have htold : (p.step parse (.tick true)).told parse =
      p.sent.flatten ++ (p.fresh parse).drop ((p.fresh parse).length - maxEvLines) := by
    rw [Panel.told, hnone, hsent, List.append_nil]
  have hnews : p.told parse ++ news parse (.tick true) = p.sent.flatten ++ p.fresh parse :=
    List.append_nil _
  refine ⟨⟨t, h'⟩, ?_, ?_⟩
  · rw [htold, hnews]
    exact List.Sublist.append_left (List.drop_sublist _ _) _
  · rw [htold, hnews, List.append_right_inj]
    constructor
    · intro heq _
      have hlen := congrArg List.length heq
      rw [List.length_drop] at hlen
      omega
    · intro hle
      rw [Nat.sub_eq_zero_of_le (hle rfl), List.drop_zero]

lemma told_step (hp : ReadsLines parse Object) (h : Follows Object p t) {a : TailAct}
    (ha : ∀ l ∈ appended [a], Object l) (hr : ¬Reopens a) : Told parse Object p a := by
  cases a with
  | write l => exact told_write hp h (ha l (by simp [appended]))
  | newline => exact told_newline hp h
  | tick readable =>
    cases readable with
    | false =>
      have hsame : p.step parse (.tick false) = p := by simp [Panel.step, Panel.read, tailEv]
      have htold : (p.step parse (.tick false)).told parse = p.told parse ++ [] := by
        rw [hsame, List.append_nil]
      have h' : Follows Object (p.step parse (.tick false)) t := by
        rw [hsame]
        exact h
      exact ⟨⟨t, h'⟩, htold ▸ List.Sublist.refl _, iff_of_true htold (by simp [Panel.Keeps])⟩
    | true => exact told_tick h
  | reopen readable => exact absurd trivial hr

lemma told_run (hp : ReadsLines parse Object) {acts : List TailAct} (h : Follows Object p t)
    (ha : ∀ l ∈ appended acts, Object l) (hr : ∀ a ∈ acts, ¬Reopens a) :
    ((run (Panel.step parse) p acts).told parse).Sublist
        (p.told parse ++ (appended acts).filterMap fun l => parse l.text) ∧
      ((run (Panel.step parse) p acts).told parse =
          p.told parse ++ (appended acts).filterMap (fun l => parse l.text) ↔
        Along (Panel.step parse) (Panel.Keeps parse) p acts) := by
  induction acts generalizing p t with
  | nil => simp [appended, Along]
  | cons a acts ih =>
    have happended : appended (a :: acts) = appended [a] ++ appended acts := by
      rw [appended, ← List.singleton_append, List.filterMap_append]
      rfl
    rw [happended] at ha ⊢
    rw [List.filterMap_append, ← List.append_assoc]
    obtain ⟨⟨t', h'⟩, hsub, heq⟩ := told_step hp h
      (fun l hl => ha l (List.mem_append_left _ hl)) (hr a List.mem_cons_self)
    obtain ⟨hsub', heq'⟩ := ih h' (fun l hl => ha l (List.mem_append_right _ hl))
      fun b hb => hr b (List.mem_cons_of_mem _ hb)
    have hstep := hsub.append_right ((appended acts).filterMap fun l => parse l.text)
    refine ⟨hsub'.trans hstep, ?_⟩
    rw [run_cons, Along, ← heq, ← heq']
    constructor
    · intro hall
      -- both parts are as long as they can be
      have hlen := congrArg List.length hall
      have hle := hsub'.length_le
      have hle' := hstep.length_le
      have hfirst := hstep.eq_of_length (le_antisymm hle' (hlen.symm.le.trans hle))
      refine ⟨List.append_cancel_right hfirst, ?_⟩
      rw [hfirst]
      exact hall
    · rintro ⟨hfirst, hrest⟩
      rw [hrest, hfirst]
      rfl

lemma follows_timeline {acts : List TailAct} (ha : ∀ l ∈ appended acts, Object l) :
    ∃ t : Timeline, timeline acts = t.text ∧ t.Objects Object := by
  induction acts using List.reverseRecOn with
  | nil => exact ⟨⟨[], []⟩, rfl, by simp [Timeline.Objects]⟩
  | append_singleton acts a ih =>
    rw [appended, List.filterMap_append, ← appended] at ha
    obtain ⟨t, htext, hobjects⟩ := ih fun l hl => ha l (List.mem_append_left _ hl)
    rw [timeline, List.flatMap_append, ← timeline, htext]
    cases a with
    | write l =>
      exact ⟨t.write l, by simp [t.write_text],
        Timeline.write_objects hobjects (ha l (by simp))⟩
    | newline => exact ⟨t.newline, by simp [t.newline_text], Timeline.newline_objects hobjects⟩
    | tick readable => exact ⟨t, by simp, hobjects⟩
    | reopen readable => exact ⟨t, by simp, hobjects⟩

/-- What the panel is told of the timeline is in order and without repetition, whoever appends and
however their writes fall, and nothing of what is appended is left out exactly as long as every line
is begun at the start of one and no frame finds more than fifty events. -/
theorem tail_delivers_iff (parse : Text → Option V) (Object : EventLine → Prop)
    (hp : ReadsLines parse Object) (earlier acts : List TailAct)
    (hearlier : ∀ l ∈ appended earlier, Object l) (ha : ∀ l ∈ appended acts, Object l)
    (hr : ∀ a ∈ acts, ¬Reopens a) :
    let p := run (Panel.step parse) (Panel.start (timeline earlier)) acts
    let events := (appended acts).filterMap fun l => parse l.text
    (p.told parse).Sublist events ∧
      (p.told parse = events ↔
        Along (Panel.step parse) (Panel.Keeps parse) (Panel.start (timeline earlier)) acts) := by
  obtain ⟨t, htext, hobjects⟩ := follows_timeline hearlier
  have hcursor : openCursor (some (timeline earlier)) = t.groups.length := by
    rw [openCursor, htext, t.lines_text, List.length_map]
  have h : Follows Object (Panel.start (V := V) (timeline earlier)) t :=
    ⟨htext, hcursor.le, hobjects⟩
  have hnil : (Panel.start (V := V) (timeline earlier)).told parse = [] := by
    have hdrop : t.groups.drop (Panel.start (V := V) (timeline earlier)).cursor = [] :=
      List.drop_eq_nil_of_le hcursor.ge
    rw [Panel.told, h.fresh, Timeline.events, hdrop]
    rfl
  have hrun := told_run hp h ha hr
  rw [hnil, List.nil_append] at hrun
  exact hrun

end

def setLine : EventLine := ⟨"\x7b\"ev\":\"set\"\x7d".toList, by decide, by decide, by decide⟩

def clearLine : EventLine := ⟨"\x7b\"ev\":\"clear\"\x7d".toList, by decide, by decide, by decide⟩

def flatObject (t : Text) : Option Text :=
  if t.head? = some '\x7b' ∧ t.getLast? = some '\x7d' ∧ t.count '\x7b' = 1 then some t else none

lemma flatObject_reads : ReadsLines flatObject (· ∈ [setLine, clearLine]) := by
  refine ⟨by decide, fun g hg hlen => ?_⟩
  have hcount : (g.flatMap EventLine.text).count '\x7b' = g.length := by
    clear hlen
    induction g with
    | nil => rfl
    | cons l g ih =>
      have hsingle : ∀ l ∈ [setLine, clearLine], l.text.count '\x7b' = 1 := by decide
      have hl := hsingle l (hg l List.mem_cons_self)
      rw [List.flatMap_cons, List.count_append, hl, ih fun l hl => hg l (List.mem_cons_of_mem _ hl),
        List.length_cons, Nat.add_comm]
  rw [flatObject, if_neg]
  rintro ⟨-, -, hone⟩
  exact hlen (hcount.symm.trans hone)

def followed : List TailAct :=
  [.write setLine, .tick true, .newline, .tick false, .write clearLine, .newline, .tick true]

theorem tail_delivers_followed :
    (run (Panel.step flatObject) (Panel.start (timeline [.write clearLine, .newline])) followed).told
      flatObject = [setLine.text, clearLine.text] :=
  (tail_delivers_iff flatObject (· ∈ [setLine, clearLine]) flatObject_reads
    [.write clearLine, .newline] followed (by decide) (by decide) (by simp [followed, Reopens])).2.2
      ⟨by decide, by decide, trivial, by decide, by decide, trivial, by decide, trivial⟩

/-- Two writers whose lines run together: neither event is told. -/
example : (run (Panel.step flatObject) (Panel.start [])
    [.write setLine, .write clearLine, .newline, .newline, .tick true]).told flatObject = [] := by
  decide

end MediaServo.Weaknet.Tail
