import MediaServo.Client.Lookup

/-! The waits for a producer against the producers that the room has announced. -/

namespace MediaServo.Client.Lookup

open MediaServo.Foundations MediaServo.Common

def track (m : FiniteMap String (Option String)) : LinkEvent → FiniteMap String (Option String)
  | .message (.newProducer _ p _ .video l) => m.set p l
  | .message (.producerClosed _ _ p .video _) => m.remove p
  | _ => m

def delivered (acts : List Action) : List LinkEvent :=
  acts.filterMap fun
    | .deliver e => some e
    | _ => none

def live (acts : List Action) : FiniteMap String (Option String) := (delivered acts).foldl track ∅

section Producers

variable (m : FiniteMap String (Option String)) (p : String)

def sameLabel (l : Option String) : Bool := (m.get p).all (fun l' => l' = l)

def labelled : Bool := (m.get p).any Option.isSome

def shared : Bool :=
  (m.get p).any fun l => l.isSome && m.toList.any (fun e => e.1 ≠ p ∧ e.2 = l)

def labels : List String := m.toList.filterMap Prod.snd

def sameLabels (m' : FiniteMap String (Option String)) : Bool :=
  (labels m).all (· ∈ labels m') && (labels m').all (· ∈ labels m)

def anyMatch (label : Option String) : Bool := m.toList.any (fun e => matchesLabel label e.2)

def droppable : LinkEvent → Bool
  | .message (.newProducer _ p _ .video l) => l.isNone && sameLabel m p none
  | .message (.producerClosed _ _ p .video _) => !labelled m p
  | _ => true

def drainable (label : Option String) : LinkEvent → Bool
  | .message (.newProducer _ p _ .video l) => !matchesLabel label l && sameLabel m p l
  | .message (.producerClosed _ _ p .video _) => !labelled m p
  | _ => true

def lookable : LinkEvent → Bool
  | .message (.newProducer _ p _ .video l) => sameLabel m p l
  | .message (.producerClosed _ _ p .video _) => !shared m p
  | _ => true

end Producers

structure Watched where
  session : Session := {}
  passed : FiniteMap String (Option String) := ∅

namespace Watched

def stream (t : Watched) : Action → List LinkEvent
  | .deliver e => t.session.queue ++ [e]
  | _ => t.session.queue

def step (t : Watched) (a : Action) : Watched where
  session := t.session.step a
  passed := ((t.stream a).take
    ((t.stream a).length - (t.session.step a).queue.length)).foldl track t.passed

def live (t : Watched) : FiniteMap String (Option String) := t.session.queue.foldl track t.passed

/-- What a wait may leave in the stream that ends with the head of it: nothing that changes a live
label, that closes the producer found or that announces one to a wait that failed. -/
def settled (t : Watched) (label : Option String) : Bool :=
  if t.session.lagged then sameLabels t.passed t.live && !anyMatch t.live label
  else
    match t.session.queue with
    | .message (.newProducer _ p _ .video l) :: _ =>
        !matchesLabel label l ||
          sameLabels (t.passed.set p l) t.live && (t.live.get p).any (matchesLabel label)
    | .disconnected _ :: _ => sameLabels t.passed t.live && !anyMatch t.live label
    | _ => true

def orderly (t : Watched) (a : Action) : Bool :=
  match a, t.session.call with
  | .deliver _, c =>
      t.session.queue.length < evRelayCap || t.session.queue.head?.all fun e =>
        droppable t.passed e && c.all (fun c => drainable t.passed c.label e)
  | .otherRead, none => t.session.lagged || t.session.queue.head?.all (droppable t.passed)
  | .call label, none => !anyMatch t.passed label
  | .turn, some ⟨label, .draining⟩ =>
      t.session.lagged || t.session.queue.head?.all (drainable t.passed label)
  | .turn, some ⟨label, .waiting _⟩ =>
      (t.session.lagged || t.session.queue.head?.all (lookable t.passed)) && t.settled label
  | _, _ => true

end Watched

section Reads

variable {s : Session} {label : Option String}

@[simp] lemma learn_queue (p l : String) : (s.learn p l).queue = s.queue := rfl

@[simp] lemma forget_queue (p : String) : (s.forget p).queue = s.queue := by
  rw [Session.forget]
  split <;> rfl

@[simp] lemma judge_queue : (s.judge label).queue = s.queue := rfl

@[simp] lemma finish_queue (r : WaitResult) : (s.finish r).1.queue = s.queue := rfl

@[simp] lemma learn_lagged (p l : String) : (s.learn p l).lagged = s.lagged := rfl

@[simp] lemma forget_lagged (p : String) : (s.forget p).lagged = s.lagged := by
  rw [Session.forget]
  split <;> rfl

@[simp] lemma judge_lagged : (s.judge label).lagged = s.lagged := rfl

@[simp] lemma finish_lagged (r : WaitResult) : (s.finish r).1.lagged = s.lagged := rfl

def unread (s : Session) : List LinkEvent := if s.lagged then s.queue else s.queue.tail

def readHead (s : Session) (m : FiniteMap String (Option String)) :
    FiniteMap String (Option String) :=
  if s.lagged then m else s.queue.head?.elim m (track m)

lemma otherRead_queue : s.otherRead.queue = unread s := by
  rw [Session.otherRead, unread]
  split_ifs <;> rfl

lemma drain_queue : (s.drain label).queue = unread s := by
  rw [Session.drain, unread]
  split_ifs
  · rfl
  · split <;> simp [*]

lemma look_queue : (s.look label).1.queue = unread s := by
  rw [Session.look, unread]
  split_ifs
  · rfl
  · split
    · simp [*]
    · rename_i hq
      simp only [hq, List.tail_cons]
      split_ifs <;> split <;> rfl
    · simp [*]
    · simp [*]
    · simp [*]

lemma expire_queue (c : Call) : (s.expire c).1.queue = s.queue := by
  rw [Session.expire]
  split
  · split_ifs <;> rfl
  · rfl

end Reads

namespace Watched

variable {t : Watched} {a : Action} {gone : List LinkEvent}

lemma passed_of_split (h : t.stream a = gone ++ (t.session.step a).queue) :
    (t.step a).passed = gone.foldl track t.passed := by
  have hlen : (gone ++ (t.session.step a).queue).length - (t.session.step a).queue.length =
      gone.length := by simp
  rw [step, h, hlen, List.take_left]

lemma stream_split (t : Watched) (a : Action) :
    ∃ gone, t.stream a = gone ++ (t.session.step a).queue := by
  have hunread : ∀ s : Session, ∃ gone, s.queue = gone ++ unread s := by
    intro s
    rw [unread]
    split_ifs
    · exact ⟨[], rfl⟩
    · exact ⟨s.queue.take 1, by rw [← List.drop_one, List.take_append_drop]⟩
  cases a with
  | deliver e =>
    simp only [stream, Session.step, Session.act, Session.deliver]
    split_ifs
    · exact ⟨[], rfl⟩
    · refine ⟨t.session.queue.take 1, ?_⟩
      rw [← List.append_assoc, ← List.drop_one, List.take_append_drop]
  | otherRead =>
    simp only [stream, Session.step, Session.act]
    split_ifs
    · rw [otherRead_queue]
      exact hunread _
    · exact ⟨[], rfl⟩
  | call label =>
    simp only [stream, Session.step, Session.act]
    split_ifs <;> exact ⟨[], rfl⟩
  | turn =>
    simp only [stream, Session.step, Session.act]
    split
    · rw [drain_queue]
      exact hunread _
    · rw [look_queue]
      exact hunread _
    · exact ⟨[], rfl⟩
  | expire =>
    simp only [stream, Session.step, Session.act]
    split
    · rw [expire_queue]
      exact ⟨[], rfl⟩
    · exact ⟨[], rfl⟩

lemma step_live (t : Watched) (a : Action) : (t.step a).live = (t.stream a).foldl track t.passed := by
  obtain ⟨gone, h⟩ := stream_split t a
  rw [live, passed_of_split h, h, List.foldl_append]
  rfl

end Watched

structure Tracks (s : Session) (m : FiniteMap String (Option String)) : Prop where
  known : ∀ l, l ∈ s.knownVideoLabels ↔ ∃ p, m.get p = some (some l)
  ids : ∀ p l, s.producerLabels.get p = some l ↔ m.get p = some (some l)

section Tracks

variable {s s' : Session} {m : FiniteMap String (Option String)} {p l : String}
  {label : Option String} {e : LinkEvent}

lemma Tracks.congr (h : Tracks s m) (hk : s'.knownVideoLabels = s.knownVideoLabels)
    (hp : s'.producerLabels = s.producerLabels) : Tracks s' m :=
  ⟨fun l => hk ▸ h.known l, fun p l => hp ▸ h.ids p l⟩

lemma Tracks.learn (h : Tracks s m) (hs : sameLabel m p (some l) = true) :
    Tracks (s.learn p l) (m.set p (some l)) := by
  constructor
  · intro x
    simp only [Session.learn, Finset.mem_insert, h.known]
    constructor
    · rintro (rfl | ⟨q, hq⟩)
      · exact ⟨p, by simp⟩
      · by_cases hqp : q = p
        · subst hqp
          simp only [sameLabel, hq, Option.all_some, decide_eq_true_eq] at hs
          exact ⟨q, by rw [hs]; simp⟩
        · exact ⟨q, by rw [FiniteMap.get_set_ne _ _ hqp]; exact hq⟩
    · rintro ⟨q, hq⟩
      rw [FiniteMap.get_set] at hq
      split_ifs at hq
      · simp only [Option.some.injEq] at hq
        exact Or.inl hq.symm
      · exact Or.inr ⟨q, hq⟩
  · intro q x
    simp only [Session.learn, FiniteMap.get_set]
    split_ifs
    · simp
    · exact h.ids q x

lemma Tracks.same (h : Tracks s m) {m' : FiniteMap String (Option String)}
    (hm : ∀ q x, m'.get q = some (some x) ↔ m.get q = some (some x)) : Tracks s m' := by
  constructor
  · intro l
    rw [h.known]
    exact exists_congr fun q => (hm q l).symm
  · intro q l
    rw [h.ids, hm]

lemma get_remove_unlabelled (hno : ∀ x, m.get p ≠ some (some x)) (q x : String) :
    (m.remove p).get q = some (some x) ↔ m.get q = some (some x) := by
  rw [FiniteMap.get_remove]
  split_ifs with hq
  · subst hq
    simpa using hno x
  · rfl

lemma get_set_unlabelled (hs : sameLabel m p none = true) (q x : String) :
    (m.set p none).get q = some (some x) ↔ m.get q = some (some x) := by
  rw [FiniteMap.get_set]
  split_ifs with hq
  · subst hq
    cases hm : m.get q with
    | none => simp
    | some l =>
      obtain rfl : l = none := by simpa [sameLabel, hm] using hs
      simp
  · rfl

lemma not_labelled (h : labelled m p = false) (x : String) : m.get p ≠ some (some x) := by
  intro hx
  simp [labelled, hx] at h

lemma Tracks.forget (h : Tracks s m) (hs : shared m p = false) :
    Tracks (s.forget p) (m.remove p) := by
  rw [Session.forget]
  cases hp : s.producerLabels.get p with
  | none =>
    refine h.same (get_remove_unlabelled fun x hx => ?_)
    rw [(h.ids p x).mpr hx] at hp
    cases hp
  | some l =>
    have hl := (h.ids p l).mp hp
    have halone : ∀ q, m.get q = some (some l) → q = p := by
      intro q hq
      by_contra hne
      have hany : m.toList.any (fun e => decide (e.1 ≠ p ∧ e.2 = some l)) = true :=
        List.any_eq_true.mpr ⟨(q, some l), (FiniteMap.mem_toList _ _ _).mpr hq, by simp [hne]⟩
      rw [shared, hl, Option.any_some, hany] at hs
      cases hs
    constructor
    · intro x
      simp only [Finset.mem_erase, h.known]
      constructor
      · rintro ⟨hx, q, hq⟩
        have hqp : q ≠ p := by
          rintro rfl
          rw [hl] at hq
          exact hx (Option.some.inj (Option.some.inj hq)).symm
        exact ⟨q, by rw [FiniteMap.get_remove_ne _ hqp]; exact hq⟩
      · rintro ⟨q, hq⟩
        refine ⟨?_, q, FiniteMap.get_of_remove hq⟩
        rintro rfl
        obtain rfl := halone q (FiniteMap.get_of_remove hq)
        simp at hq
    · intro q x
      simp only [FiniteMap.get_remove]
      split_ifs
      · simp
      · exact h.ids q x

def Unmet (m : FiniteMap String (Option String)) (label : Option String) : Prop :=
  ∀ p l, m.get p = some l → matchesLabel label l = false

lemma anyMatch_iff : anyMatch m label = false ↔ Unmet m label := by
  constructor
  · intro h p l hp
    have := List.any_eq_false.mp h (p, l) ((FiniteMap.mem_toList _ _ _).mpr hp)
    simpa using this
  · intro h
    refine List.any_eq_false.mpr fun x hx => ?_
    rw [h x.1 x.2 ((FiniteMap.mem_toList _ _ _).mp hx)]
    simp

lemma Unmet.set (h : Unmet m label) {l : Option String} (hl : matchesLabel label l = false) :
    Unmet (m.set p l) label := by
  intro q x hq
  rw [FiniteMap.get_set] at hq
  split_ifs at hq
  · exact Option.some.inj hq ▸ hl
  · exact h q x hq

lemma Unmet.remove (h : Unmet m label) (p : String) : Unmet (m.remove p) label :=
  fun q x hq => h q x (FiniteMap.get_of_remove hq)

lemma drainable_unmet (h : Unmet m label) (hd : drainable m label e = true) :
    Unmet (track m e) label := by
  rw [track.eq_def]
  split
  · simp only [drainable, Bool.and_eq_true, Bool.not_eq_true'] at hd
    exact h.set hd.1
  · exact h.remove _
  · exact h

lemma droppable_tracks (h : Tracks s m) (hd : droppable m e = true) : Tracks s (track m e) := by
  rw [track.eq_def]
  split
  · simp only [droppable, Bool.and_eq_true, Option.isNone_iff_eq_none] at hd
    obtain ⟨rfl, hs⟩ := hd
    exact h.same (get_set_unlabelled hs)
  · simp only [droppable, Bool.not_eq_true'] at hd
    exact h.same (get_remove_unlabelled (not_labelled hd))
  · exact h

lemma readHead_cons {rest : List LinkEvent} (hl : s.lagged = false) (hq : s.queue = e :: rest) :
    readHead s m = track m e := by
  simp [readHead, hl, hq]

lemma readHead_tracks (h : Tracks s m)
    (hd : (s.lagged || s.queue.head?.all (droppable m)) = true) : Tracks s (readHead s m) := by
  cases hl : s.lagged with
  | true => simpa [readHead, hl] using h
  | false =>
    cases hq : s.queue with
    | nil => simpa [readHead, hl, hq] using h
    | cons e rest =>
      rw [readHead_cons hl hq]
      exact droppable_tracks h (by simpa [hl, hq] using hd)

lemma droppable_of_drainable (hd : drainable m label e = true)
    (he : ∀ room p peer l, e ≠ .message (.newProducer room p peer .video (some l))) :
    droppable m e = true := by
  rw [droppable.eq_def]
  split
  · rename_i room p peer l
    cases l with
    | none => exact ((Bool.and_eq_true _ _).mp hd).2
    | some l => exact absurd rfl (he room p peer l)
  · exact hd
  · rfl

lemma drain_tracks (h : Tracks s m)
    (hd : (s.lagged || s.queue.head?.all (drainable m label)) = true) :
    Tracks (s.drain label) (readHead s m) := by
  rw [Session.drain]
  split_ifs with hl
  · rw [readHead, if_pos hl]
    exact h.congr rfl rfl
  · have hl' : s.lagged = false := by simpa using hl
    split
    · rename_i hq
      rw [readHead, if_neg hl, hq]
      exact h.congr rfl rfl
    · rename_i rest hq
      rw [readHead_cons hl' hq]
      simp only [hl', hq, Bool.false_or, List.head?_cons, Option.all_some, drainable,
        Bool.and_eq_true] at hd
      exact Tracks.learn (s := { s with queue := rest }) (h.congr rfl rfl) hd.2
    · rename_i e rest hno hq
      rw [readHead_cons hl' hq]
      have hdrain : drainable m label e = true := by simpa [hl', hq] using hd
      exact (droppable_tracks h (droppable_of_drainable hdrain hno)).congr rfl rfl

lemma drain_unmet (h : Unmet m label)
    (hd : (s.lagged || s.queue.head?.all (drainable m label)) = true) :
    Unmet (readHead s m) label := by
  cases hl : s.lagged with
  | true => simpa [readHead, hl] using h
  | false =>
    cases hq : s.queue with
    | nil => simpa [readHead, hl, hq] using h
    | cons e rest =>
      rw [readHead_cons hl hq]
      exact drainable_unmet h (by simpa [hl, hq] using hd)

lemma look_tracks (h : Tracks s m) (hd : (s.lagged || s.queue.head?.all (lookable m)) = true) :
    Tracks (s.look label).1 (readHead s m) := by
  rw [Session.look]
  split_ifs with hl
  · rw [readHead, if_pos hl]
    exact h.congr rfl rfl
  · have hl' : s.lagged = false := by simpa using hl
    split
    · rename_i hq
      rw [readHead, if_neg hl, hq]
      exact h
    · rename_i room p peer l rest hq
      rw [readHead_cons hl' hq]
      simp only [hl', hq, Bool.false_or, List.head?_cons, Option.all_some, lookable] at hd
      have hs : Tracks { s with queue := rest } m := h.congr rfl rfl
      cases l with
      | none =>
        have htracks := hs.same (get_set_unlabelled hd)
        dsimp only
        split_ifs
        · exact htracks.congr rfl rfl
        · exact htracks
      | some l =>
        have htracks := hs.learn hd
        dsimp only
        split_ifs
        · exact htracks.congr rfl rfl
        · exact htracks
    · rename_i room peer p reason rest hq
      rw [readHead_cons hl' hq]
      simp only [hl', hq, Bool.false_or, List.head?_cons, Option.all_some, lookable,
        Bool.not_eq_true'] at hd
      exact Tracks.forget (s := { s with queue := rest }) (h.congr rfl rfl) hd
    · rename_i hq
      rw [readHead_cons hl' hq]
      exact h.congr rfl rfl
    · rename_i e rest hnew hclosed hdis hq
      rw [readHead_cons hl' hq]
      have htrack : track m e = m := by
        rw [track.eq_def]
        split
        · exact (hnew _ _ _ _ rfl).elim
        · exact (hclosed _ _ _ _ rfl).elim
        · rfl
      rw [htrack]
      exact h.congr rfl rfl

lemma look_unmet (h : Unmet m label) (hr : (s.look label).2 = none) :
    Unmet (readHead s m) label := by
  rw [Session.look] at hr
  split_ifs at hr with hl
  · cases hr
  · have hl' : s.lagged = false := by simpa using hl
    split at hr
    · rename_i hq
      rw [readHead, if_neg hl, hq]
      exact h
    · rename_i room p peer l rest hq
      rw [readHead_cons hl' hq]
      split_ifs at hr with hmatch
      · cases hr
      · exact h.set (by simpa using hmatch)
    · rename_i hq
      rw [readHead_cons hl' hq]
      exact h.remove _
    · cases hr
    · rename_i e rest hnew hclosed hdis hq
      rw [readHead_cons hl' hq, track.eq_def]
      split
      · exact (hnew _ _ _ _ rfl).elim
      · exact (hclosed _ _ _ _ rfl).elim
      · exact h

end Tracks

section Calls

variable {s : Session} {label : Option String} {c : Call} {r : WaitResult}

@[simp] lemma forget_call (p : String) : (s.forget p).call = s.call := by
  rw [Session.forget]
  split <;> rfl

lemma drain_call (hc : s.call = some ⟨label, .draining⟩) :
    ∃ st, (s.drain label).call = some ⟨label, st⟩ := by
  rw [Session.drain]
  split_ifs
  · exact ⟨_, rfl⟩
  · split
    · exact ⟨_, rfl⟩
    · exact ⟨_, hc⟩
    · exact ⟨_, hc⟩

lemma look_call (h : (s.look label).1.call = some c) :
    (s.look label).2 = none ∧ s.call = some c := by
  rw [Session.look] at h ⊢
  split_ifs at h ⊢
  · cases h
  · split at h
    · exact ⟨rfl, h⟩
    · rename_i l _ _
      split_ifs at h ⊢
      · cases h
      · refine ⟨rfl, ?_⟩
        cases l with
        | none => exact h
        | some l => exact h
    · exact ⟨rfl, by simpa using h⟩
    · cases h
    · exact ⟨rfl, h⟩

lemma look_ends (h : (s.look label).2 = some r) :
    (s.lagged = true ∧ r = .failed) ∨
      (s.lagged = false ∧ ∃ room p peer l rest, matchesLabel label l = true ∧ r = .found p ∧
        s.queue = .message (.newProducer room p peer .video l) :: rest) ∨
      s.lagged = false ∧ ∃ reason rest, r = .failed ∧ s.queue = .disconnected reason :: rest := by
  rw [Session.look] at h
  split_ifs at h with hl
  · exact Or.inl ⟨hl, (Option.some.inj h).symm⟩
  · have hl' : s.lagged = false := by simpa using hl
    right
    split at h
    · cases h
    · rename_i hq
      split_ifs at h with hmatch
      exact Or.inl ⟨hl', _, _, _, _, _, hmatch, (Option.some.inj h).symm, hq⟩
    · cases h
    · rename_i hq
      exact Or.inr ⟨hl', _, _, (Option.some.inj h).symm, hq⟩
    · cases h

end Calls

lemma mem_labels {m : FiniteMap String (Option String)} {l : String} :
    l ∈ labels m ↔ ∃ p, m.get p = some (some l) := by
  simp [labels]

lemma known_of_sameLabels {m m' : FiniteMap String (Option String)} (h : sameLabels m m' = true)
    (l : String) : (∃ p, m.get p = some (some l)) ↔ ∃ p, m'.get p = some (some l) := by
  simp only [sameLabels, Bool.and_eq_true, List.all_eq_true, decide_eq_true_eq] at h
  rw [← mem_labels, ← mem_labels]
  exact ⟨h.1 l, h.2 l⟩

lemma sameLabels_refl (m : FiniteMap String (Option String)) : sameLabels m m = true := by
  simp [sameLabels]

namespace Watched

variable {t : Watched} {a : Action} {c : Call} {r : WaitResult}

lemma passed_kept (h : (t.session.step a).queue = t.stream a) : (t.step a).passed = t.passed := by
  have hsplit : t.stream a = [] ++ (t.session.step a).queue := h.symm
  exact passed_of_split hsplit

lemma passed_unread (h : (t.session.step a).queue = unread t.session)
    (hs : t.stream a = t.session.queue) : (t.step a).passed = readHead t.session t.passed := by
  rw [unread] at h
  rw [readHead]
  split_ifs at h ⊢
  · exact passed_kept (h.trans hs.symm)
  · cases hq : t.session.queue with
    | nil => exact passed_kept (by rw [h, hs, hq]; rfl)
    | cons e rest =>
      have hsplit : t.stream a = [e] ++ (t.session.step a).queue := by rw [hs, h, hq]; rfl
      exact passed_of_split hsplit

structure Inv (t : Watched) : Prop where
  tracks : Tracks t.session t.passed
  unmet : ∀ c, t.session.call = some c → Unmet t.passed c.label

lemma Inv.of_kept (h : Inv t) (hq : (t.session.step a).queue = t.stream a)
    (hk : (t.session.step a).knownVideoLabels = t.session.knownVideoLabels)
    (hp : (t.session.step a).producerLabels = t.session.producerLabels)
    (hc : ∀ c, (t.session.step a).call = some c → Unmet t.passed c.label) : Inv (t.step a) := by
  constructor
  · rw [passed_kept hq]
    exact h.tracks.congr hk hp
  · rw [passed_kept hq]
    exact hc

lemma Inv.of_unread (hq : (t.session.step a).queue = unread t.session)
    (hs : t.stream a = t.session.queue)
    (ht : Tracks (t.session.step a) (readHead t.session t.passed))
    (hc : ∀ c, (t.session.step a).call = some c → Unmet (readHead t.session t.passed) c.label) :
    Inv (t.step a) := by
  constructor
  · rw [passed_unread hq hs]
    exact ht
  · rw [passed_unread hq hs]
    exact hc

lemma Inv.deliver (h : Inv t) {e : LinkEvent} (ho : t.orderly (.deliver e) = true) :
    Inv (t.step (.deliver e)) := by
  have hstep : t.session.step (.deliver e) = t.session.deliver e := rfl
  by_cases hroom : t.session.queue.length < evRelayCap
  · rw [Session.deliver, if_pos hroom] at hstep
    apply h.of_kept <;> rw [hstep]
    · rfl
    · exact h.unmet
  · rw [Session.deliver, if_neg hroom] at hstep
    cases hq : t.session.queue with
    | nil => simp [hq, evRelayCap] at hroom
    | cons x rest =>
      have hpassed : (t.step (.deliver e)).passed = track t.passed x := by
        have hsplit : t.stream (.deliver e) = [x] ++ (t.session.step (.deliver e)).queue := by
          rw [hstep, stream, hq]
          rfl
        exact passed_of_split hsplit
      have hboth : droppable t.passed x = true ∧
          t.session.call.all (fun c => drainable t.passed c.label x) = true := by
        simpa [orderly, hq, show ¬rest.length + 1 < evRelayCap by simpa [hq] using hroom] using ho
      constructor
      · rw [hpassed]
        show Tracks (t.session.step (.deliver e)) _
        rw [hstep]
        exact (droppable_tracks h.tracks hboth.1).congr rfl rfl
      · rw [hpassed]
        show ∀ c, (t.session.step (.deliver e)).call = some c → _
        rw [hstep]
        intro c hc
        have hc' : t.session.call = some c := hc
        refine drainable_unmet (h.unmet c hc') ?_
        simpa [hc'] using hboth.2

lemma Inv.otherRead (h : Inv t) (ho : t.orderly .otherRead = true) : Inv (t.step .otherRead) := by
  cases hc : t.session.call with
  | none =>
    have hstep : t.session.step .otherRead = t.session.otherRead := by
      simp [Session.step, Session.act, hc]
    simp only [orderly, hc] at ho
    refine .of_unread (by rw [hstep, otherRead_queue]) rfl ?_ ?_
    · rw [hstep, Session.otherRead]
      split_ifs <;> exact (readHead_tracks h.tracks ho).congr rfl rfl
    · intro c hcall
      rw [hstep, Session.otherRead] at hcall
      split_ifs at hcall <;> simp [hc] at hcall
  | some c =>
    have hstep : t.session.step .otherRead = t.session := by simp [Session.step, Session.act, hc]
    apply h.of_kept <;> rw [hstep]
    · rfl
    · exact h.unmet

lemma Inv.call (h : Inv t) {label : Option String} (ho : t.orderly (.call label) = true) :
    Inv (t.step (.call label)) := by
  cases hc : t.session.call with
  | none =>
    have hstep : t.session.step (.call label) =
        { t.session with call := some ⟨label, .draining⟩ } := by
      simp [Session.step, Session.act, hc]
    simp only [orderly, hc, Bool.not_eq_true'] at ho
    apply h.of_kept <;> rw [hstep]
    · rfl
    · rintro c ⟨⟩
      exact anyMatch_iff.1 ho
  | some c =>
    have hstep : t.session.step (.call label) = t.session := by
      simp [Session.step, Session.act, hc]
    apply h.of_kept <;> rw [hstep]
    · rfl
    · exact h.unmet

lemma Inv.turn (h : Inv t) (ho : t.orderly .turn = true) : Inv (t.step .turn) := by
  rcases hc : t.session.call with _ | ⟨label, _ | grace⟩
  · have hstep : t.session.step .turn = t.session := by simp [Session.step, Session.act, hc]
    apply h.of_kept <;> rw [hstep]
    · rfl
    · exact h.unmet
  · have hstep : t.session.step .turn = t.session.drain label := by
      simp [Session.step, Session.act, hc]
    simp only [orderly, hc] at ho
    refine .of_unread (by rw [hstep, drain_queue]) rfl ?_ ?_
    · rw [hstep]
      exact drain_tracks h.tracks ho
    · intro c hcall
      obtain ⟨st, hst⟩ := drain_call hc
      rw [hstep, hst] at hcall
      cases hcall
      have hunmet : Unmet t.passed label := h.unmet _ hc
      exact drain_unmet hunmet ho
  · have hstep : t.session.step .turn = (t.session.look label).1 := by
      simp [Session.step, Session.act, hc]
    simp only [orderly, hc, Bool.and_eq_true] at ho
    refine .of_unread (by rw [hstep, look_queue]) rfl ?_ ?_
    · rw [hstep]
      exact look_tracks h.tracks ho.1
    · intro c hcall
      rw [hstep] at hcall
      obtain ⟨hnone, hsame⟩ := look_call hcall
      rw [hc] at hsame
      cases hsame
      exact look_unmet (h.unmet _ hc) hnone

lemma Inv.expire (h : Inv t) : Inv (t.step .expire) := by
  have hstep : t.session.step .expire = t.session ∨
      t.session.step .expire = { t.session with call := none } := by
    simp only [Session.step, Session.act, Session.expire, Session.finish]
    split
    · split
      · split_ifs <;> simp
      · exact Or.inl rfl
    · exact Or.inl rfl
  rcases hstep with hstep | hstep
  · apply h.of_kept <;> rw [hstep]
    · rfl
    · exact h.unmet
  · apply h.of_kept <;> rw [hstep]
    · rfl
    · rintro c ⟨⟩

lemma Inv.step (h : Inv t) (ho : t.orderly a = true) : Inv (t.step a) := by
  cases a with
  | deliver e => exact h.deliver ho
  | otherRead => exact h.otherRead ho
  | call label => exact h.call ho
  | turn => exact h.turn ho
  | expire => exact h.expire

lemma inv_init : Inv {} where
  tracks := ⟨fun l => by simp, fun p l => by simp⟩
  unmet := by simp

lemma Inv.ends (h : Inv t) (ho : t.orderly a = true) (hc : t.session.call = some c)
    (hr : (t.session.act a).2 = some r) :
    sameLabels (t.step a).passed (t.step a).live = true ∧
      ((Unmet (t.step a).live c.label ∧ ∀ p, r ≠ .found p) ∨
        ∃ p l, r = .found p ∧ (t.step a).live.get p = some l ∧ matchesLabel c.label l = true) := by
  obtain ⟨label, st⟩ := c
  have hunmet := h.unmet _ hc
  cases a with
  | deliver e => cases hr
  | otherRead => cases hr
  | call label => cases hr
  | turn =>
    cases st with
    | draining => simp [Session.act, hc] at hr
    | waiting grace =>
      have hlook : (t.session.look label).2 = some r := by simpa [Session.act, hc] using hr
      have hpassed : (t.step .turn).passed = readHead t.session t.passed := by
        refine passed_unread ?_ rfl
        simp [Session.step, Session.act, hc, look_queue]
      have hlive : (t.step .turn).live = t.live := step_live t .turn
      simp only [orderly, hc, Bool.and_eq_true] at ho
      rw [hpassed, hlive]
      rcases look_ends hlook with ⟨hl, rfl⟩ | ⟨hl, room, p, peer, l, rest, hm, rfl, hq⟩ |
        ⟨hl, reason, rest, rfl, hq⟩
      · have hsettled : sameLabels t.passed t.live = true ∧ anyMatch t.live label = false := by
          simpa [settled, hl] using ho.2
        rw [readHead, if_pos hl]
        exact ⟨hsettled.1, Or.inl ⟨anyMatch_iff.1 hsettled.2, by simp⟩⟩
      · have hsettled : sameLabels (t.passed.set p l) t.live = true ∧
            (t.live.get p).any (matchesLabel label) = true := by
          simpa [settled, hl, hq, hm] using ho.2
        obtain ⟨l', hl', hm'⟩ := (Option.any_eq_true _ _).mp hsettled.2
        rw [readHead_cons hl hq]
        exact ⟨hsettled.1, Or.inr ⟨p, l', rfl, hl', hm'⟩⟩
      · have hsettled : sameLabels t.passed t.live = true ∧ anyMatch t.live label = false := by
          simpa [settled, hl, hq] using ho.2
        rw [readHead_cons hl hq]
        exact ⟨hsettled.1, Or.inl ⟨anyMatch_iff.1 hsettled.2, by simp⟩⟩
  | expire =>
    have hexpired : t.session.queue = [] ∧ ∀ p, r ≠ .found p := by
      simp only [Session.act, hc, Session.expire, Session.finish] at hr
      split at hr
      · split_ifs at hr with hread hgrace
        · exact ⟨by simpa using fun hq => hread (Or.inr hq), by cases hr; simp⟩
        · exact ⟨by simpa using fun hq => hread (Or.inr hq), by cases hr; simp⟩
      · cases hr
    have hpassed : (t.step .expire).passed = t.passed := by
      apply passed_kept
      simp [Session.step, Session.act, hc, expire_queue, stream]
    have hlive : (t.step .expire).live = t.passed := by
      have hs : t.stream .expire = [] := hexpired.1
      rw [step_live, hs]
      rfl
    rw [hpassed, hlive]
    exact ⟨sameLabels_refl _, Or.inl ⟨hunmet, hexpired.2⟩⟩

lemma run_live (acts : List Action) :
    (run Watched.step {} acts).live = Lookup.live acts := by
  induction acts using List.reverseRecOn with
  | nil => rfl
  | append_singleton as a ih =>
    have hlive : Lookup.live (as ++ [a]) =
        (delivered [a]).foldl track (Lookup.live as) := by
      simp [Lookup.live, delivered, List.foldl_append]
    rw [run_snoc, step_live, hlive, ← ih]
    cases a with
    | deliver e => exact List.foldl_append
    | _ => rfl

lemma run_session (acts : List Action) :
    (run Watched.step {} acts).session = run Session.step {} acts :=
  run_hom Watched.session (fun _ _ => rfl) acts

end Watched

/-- While every step is orderly, a wait misses no live producer that it is for and returns no other
one, and the labels that it leaves known are those of the live producers. -/
theorem announced_never_lost {as : List Action} {a : Action} {c : Call} {r : WaitResult}
    (ho : Along Watched.step (fun t a => t.orderly a = true) {} (as ++ [a]))
    (hc : (run Session.step {} as).call = some c)
    (hr : ((run Session.step {} as).act a).2 = some r) :
    ((∃ p l, (live (as ++ [a])).get p = some l ∧ matchesLabel c.label l = true) →
      ∃ p l, r = .found p ∧ (live (as ++ [a])).get p = some l ∧ matchesLabel c.label l = true) ∧
    (∀ p, r = .found p →
      ∃ l, (live (as ++ [a])).get p = some l ∧ matchesLabel c.label l = true) ∧
    ∀ l, l ∈ (run Session.step {} (as ++ [a])).knownVideoLabels ↔
      ∃ p, (live (as ++ [a])).get p = some (some l) := by
  obtain ⟨hbefore, hstep, -⟩ := (along_append as [a]).mp ho
  have hinv : Watched.Inv (run Watched.step {} as) :=
    run_invariant Watched.inv_init (fun t b ht hb => ht.step hb) hbefore
  rw [← Watched.run_session] at hc hr
  obtain ⟨hlabels, hmet⟩ := hinv.ends hstep hc hr
  have hknown := (hinv.step hstep).tracks.known
  rw [← Watched.run_live, ← Watched.run_session, run_snoc]
  refine ⟨fun ⟨p, l, hl, hm⟩ => ?_, fun p hp => ?_, fun l => ?_⟩
  · rcases hmet with ⟨hunmet, -⟩ | ⟨q, l', hfound⟩
    · rw [hunmet p l hl] at hm
      cases hm
    · exact ⟨q, l', hfound⟩
  · rcases hmet with ⟨-, hno⟩ | ⟨q, l', hfound, hl, hm⟩
    · exact (hno p hp).elim
    · cases hp.symm.trans hfound
      exact ⟨l', hl, hm⟩
  · rw [hknown]
    exact known_of_sameLabels hlabels l

def announce (producerId : String) (label : Option String) : Action :=
  .deliver (.message (.newProducer "car1" producerId "host" .video label))

def secondCamera : List Action :=
  [.call (some "rear"), .turn, announce "v1" (some "front"), .turn, announce "v2" (some "rear")]

theorem second_camera_found :
    (∃ p l, WaitResult.found "v2" = .found p ∧
      (live (secondCamera ++ [.turn])).get p = some l ∧ matchesLabel (some "rear") l = true) ∧
    ∀ l, l ∈ (run Session.step {} (secondCamera ++ [.turn])).knownVideoLabels ↔
      ∃ p, (live (secondCamera ++ [.turn])).get p = some (some l) := by
  have h := @announced_never_lost secondCamera .turn ⟨some "rear", .waiting true⟩ (.found "v2")
    (by decide) (by decide) (by decide)
  exact ⟨h.1 ⟨"v2", some "rear", by decide, rfl⟩, h.2.2⟩

/-- A producer without a label that came before the wait is read by its drain, and the wait ends
with nothing. -/
theorem drained_before_wait :
    ¬∀ (as : List Action) (a : Action) (c : Call) (r : WaitResult),
      (run Session.step {} as).call = some c → ((run Session.step {} as).act a).2 = some r →
      ((∃ p l, (live (as ++ [a])).get p = some l ∧ matchesLabel c.label l = true) →
        ∃ p l, r = .found p ∧ (live (as ++ [a])).get p = some l ∧
          matchesLabel c.label l = true) ∧
      ∀ l, l ∈ (run Session.step {} (as ++ [a])).knownVideoLabels ↔
        ∃ p, (live (as ++ [a])).get p = some (some l) := by
  intro hall
  obtain ⟨p, l, hr, -⟩ := (hall
    [announce "v1" none, .call none, .turn, .turn]
    .expire ⟨none, .waiting false⟩ .timeout (by decide) (by decide)).1
    ⟨"v1", none, by decide, rfl⟩
  cases hr

end MediaServo.Client.Lookup
