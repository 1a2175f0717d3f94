import MediaServo.Host.Flow

/-! What the snapshots of a topic add up to, and of which frame their timestamps are. -/

namespace MediaServo.Host.Flow

open MediaServo.Foundations

variable {m : FlowMonitor} {out : FlowSnapshot} {name : String} {events : List Event} {ev : Event}

def Event.tsOn (name : String) : Event → Option ℕ
  | .frame n _ ts _ => if n = name then some ts else none
  | _ => none

def Event.arrivalOn (name : String) : Event → Option ℕ
  | .frame n _ _ now => if n = name then some now else none
  | _ => none

def Event.isRow (name : String) : Event → Bool
  | .topicRow n _ => n = name
  | _ => false

def framesOn (name : String) (events : List Event) : ℕ :=
  events.countP fun ev => (ev.tsOn name).isSome

def newest (name : String) (events : List Event) : Option ℕ :=
  events.reverse.findSome? (Event.tsOn name)

def newestArrival (name : String) (events : List Event) : Option ℕ :=
  events.reverse.findSome? (Event.arrivalOn name)

def window (name : String) (events : List Event) : List Event :=
  events.reverse.takeWhile fun ev => !ev.isRow name

def pending (m : FlowMonitor) (name : String) : ℕ :=
  ((m.topics.get name).map fun t => t.1.frames).getD 0

def reported (out : FlowSnapshot) (name : String) : ℕ :=
  ((out.topics.filter fun row => row.topic = name).map (·.frames)).sum

/-- What the snapshots of a run have to say of a topic: they count each frame once, and each row
has the timestamp of the most recent frame and tells a stall by its arrival. -/
structure Accounted (m : FlowMonitor) (name : String) (threshold : ℕ) (events : List Event) :
    Prop where
  frames : reported (m.run {} events).2 name + pending (m.run {} events).1 name = framesOn name events
  rows : ∀ before now after, events = before ++ .topicRow name now :: after →
    ∃ row, (m.run {} (before ++ [.topicRow name now])).2.topics =
        (m.run {} before).2.topics ++ [row] ∧ row.topic = name ∧
      row.lastTsMonoNs = (newest name before).getD 0 ∧
      row.stalled = (newestArrival name before).all fun t => threshold < now - t

/-- Each row of the topic is taken after a frame in its window, or when the topic has had no frame
or its last one the timestamp 0. -/
def EveryWindowHeard (name : String) (events : List Event) : Prop :=
  ∀ before now after, events = before ++ .topicRow name now :: after →
    (∃ ev ∈ window name before, (ev.tsOn name).isSome) ∨ (newest name before).getD 0 = 0

def TopicState.after (name : String) (st : TopicState) : Event → TopicState
  | .frame n payloadLen ts now => if n = name then st.arrival payloadLen ts now else st
  | .topicRow n _ => if n = name then st.reset else st
  | _ => st

def noted (name : String) (events : List Event) : TopicState := events.foldl (·.after name) {}

lemma step_get (m : FlowMonitor) (ev : Event) (name : String) :
    (m.step ev).topics.get name = (m.topics.get name).map fun t => (t.1.after name ev, t.2) := by
  cases ev with
  | frame n payloadLen ts now =>
    simp only [FlowMonitor.step, FiniteMap.get_adjust, TopicState.after]
    by_cases hn : n = name
    · simp [hn]
    · simp [hn, Ne.symm hn]
  | stats id parsed now => cases parsed <;> simp [FlowMonitor.step, TopicState.after]
  | topicRow n now =>
    simp only [FlowMonitor.step, FiniteMap.get_adjust, TopicState.after]
    by_cases hn : n = name
    · simp [hn]
    · simp [hn, Ne.symm hn]
  | streamRow id now => simp [FlowMonitor.step, TopicState.after]

lemma run_snoc (m : FlowMonitor) (out : FlowSnapshot) (events : List Event) (ev : Event) :
    m.run out (events ++ [ev]) = ((m.run out events).1.step ev,
      (m.run out events).1.collected (m.run out events).2 ev) := by
  induction events generalizing m out with
  | nil => rfl
  | cons e events ih => exact ih _ _

lemma noted_snoc : noted name (events ++ [ev]) = (noted name events).after name ev := by
  rw [noted, List.foldl_append]; rfl

lemma run_get {th : ℕ} (h : m.topics.get name = some ({}, th)) (events : List Event) :
    (m.run out events).1.topics.get name = some (noted name events, th) := by
  induction events using List.reverseRecOn with
  | nil => exact h
  | append_singleton events ev ih => rw [run_snoc, step_get, ih, noted_snoc]; rfl

lemma newestArrival_snoc :
    newestArrival name (events ++ [ev]) = (ev.arrivalOn name).or (newestArrival name events) := by
  rw [newestArrival, List.reverse_append]
  cases h : ev.arrivalOn name <;> simp [h, newestArrival]

lemma window_snoc :
    window name (events ++ [ev]) = if ev.isRow name then [] else ev :: window name events := by
  rw [window, List.reverse_append]
  cases h : ev.isRow name <;> simp [h, window]

lemma noted_lastTs : (noted name events).lastTs = (window name events).findSome? (Event.tsOn name) := by
  induction events using List.reverseRecOn with
  | nil => rfl
  | append_singleton events ev ih =>
    rw [noted_snoc, window_snoc]
    cases ev with
    | frame n payloadLen ts now =>
      by_cases hn : n = name
      · simp [TopicState.after, TopicState.arrival, Event.isRow, Event.tsOn, hn]
      · simp [TopicState.after, Event.isRow, Event.tsOn, hn, ih]
    | topicRow n now =>
      by_cases hn : n = name
      · simp [TopicState.after, TopicState.reset, Event.isRow, hn]
      · simp [TopicState.after, Event.isRow, Event.tsOn, List.findSome?_cons, hn, ih]
    | stats id parsed now =>
      simpa [TopicState.after, Event.isRow, Event.tsOn, List.findSome?_cons] using ih
    | streamRow id now =>
      simpa [TopicState.after, Event.isRow, Event.tsOn, List.findSome?_cons] using ih

lemma noted_lastArrival : (noted name events).lastArrival = newestArrival name events := by
  induction events using List.reverseRecOn with
  | nil => rfl
  | append_singleton events ev ih =>
    rw [noted_snoc, newestArrival_snoc]
    cases ev with
    | frame n payloadLen ts now =>
      by_cases hn : n = name
      · simp [TopicState.after, TopicState.arrival, Event.arrivalOn, hn]
      · simpa [TopicState.after, Event.arrivalOn, hn] using ih
    | topicRow n now =>
      by_cases hn : n = name
      · simpa [TopicState.after, TopicState.reset, Event.arrivalOn, hn] using ih
      · simpa [TopicState.after, Event.arrivalOn, hn] using ih
    | stats id parsed now => simpa [TopicState.after, Event.arrivalOn] using ih
    | streamRow id now => simpa [TopicState.after, Event.arrivalOn] using ih

lemma run_append (a b : List Event) :
    m.run out (a ++ b) = (m.run out a).1.run (m.run out a).2 b := by
  induction a generalizing m out with
  | nil => rfl
  | cons e a ih => exact ih

lemma newest_of_window {ts : ℕ} (h : (window name events).findSome? (Event.tsOn name) = some ts) :
    newest name events = some ts := by
  obtain ⟨rest, hrest⟩ := List.takeWhile_prefix (l := events.reverse) fun ev => !ev.isRow name
  rw [newest, ← hrest, List.findSome?_append]
  exact Option.or_eq_some_iff.mpr (.inl h)

lemma lastTs_eq_newest_iff :
    (noted name events).lastTs.getD 0 = (newest name events).getD 0 ↔
      (∃ ev ∈ window name events, (ev.tsOn name).isSome) ∨ (newest name events).getD 0 = 0 := by
  rw [noted_lastTs]
  cases h : (window name events).findSome? (Event.tsOn name) with
  | none =>
    have hnone := List.findSome?_eq_none_iff.mp h
    have hno : ¬ ∃ ev ∈ window name events, (ev.tsOn name).isSome := by
      rintro ⟨ev, hev, hsome⟩
      simp [hnone ev hev] at hsome
    simp only [hno, false_or, Option.getD_none]
    exact eq_comm
  | some ts =>
    obtain ⟨ev, hev, hts⟩ := List.exists_of_findSome?_eq_some h
    rw [newest_of_window h]
    exact iff_of_true rfl (.inl ⟨ev, hev, by simp [hts]⟩)

lemma row_taken {th : ℕ} (h : m.topics.get name = some ({}, th)) (before : List Event) (now : ℕ) :
    (m.run out (before ++ [.topicRow name now])).2.topics =
      (m.run out before).2.topics ++ [(noted name before).flow name th now] := by
  simp [run_snoc, FlowMonitor.collected, run_get h]

lemma flow_stalled (th now : ℕ) : ((noted name events).flow name th now).stalled =
    (newestArrival name events).all fun t => decide (th < now - t) := by
  simp only [TopicState.flow, TopicState.stalled, noted_lastArrival]
  cases newestArrival name events <;> simp

lemma frames_accounted {th : ℕ} (h : m.topics.get name = some ({}, th)) (events : List Event) :
    reported (m.run {} events).2 name + (noted name events).frames = framesOn name events := by
  induction events using List.reverseRecOn with
  | nil => rfl
  | append_singleton events ev ih =>
    rw [noted_snoc, run_snoc]
    simp only [framesOn, List.countP_append, List.countP_singleton] at ih ⊢
    cases ev with
    | frame n payloadLen ts now =>
      by_cases hn : n = name
      · subst hn
        have hts : (Event.frame n payloadLen ts now).tsOn n = some ts := if_pos rfl
        simp only [FlowMonitor.collected, TopicState.after, TopicState.arrival, hts, if_true,
          Option.isSome_some]
        omega
      · simpa [FlowMonitor.collected, TopicState.after, Event.tsOn, hn] using ih
    | topicRow n now =>
      by_cases hn : n = name
      · subst hn
        simp only [FlowMonitor.collected, run_get h, TopicState.after, TopicState.reset, reported,
          Event.tsOn] at ih ⊢
        simpa [TopicState.flow] using ih
      · simp only [FlowMonitor.collected, TopicState.after, hn, Event.tsOn, if_false] at ih ⊢
        cases hget : (m.run {} events).1.topics.get n with
        | none => simpa using ih
        | some t => simpa [reported, TopicState.flow, hn] using ih
    | stats id parsed now => simpa [FlowMonitor.collected, TopicState.after, Event.tsOn] using ih
    | streamRow id now =>
      simp only [FlowMonitor.collected, TopicState.after, Event.tsOn] at ih ⊢
      cases (m.run {} events).1.streams.get id <;> simpa [reported] using ih

/-- The snapshots account for the frames of a topic in exactly the runs in which no row is taken
in a window without frames after a frame with a timestamp. -/
theorem snapshots_accounted_iff (m : FlowMonitor) (name : String) (threshold : ℕ)
    (events : List Event) (hattached : m.topics.get name = some ({}, threshold)) :
    Accounted m name threshold events ↔ EveryWindowHeard name events := by
  constructor
  · intro h before now after heq
    obtain ⟨row, hrow, -, hts, -⟩ := h.rows before now after heq
    rw [row_taken hattached] at hrow
    obtain rfl := List.singleton_inj.mp (List.append_cancel_left hrow)
    exact lastTs_eq_newest_iff.mp hts
  · intro h
    refine ⟨?_, ?_⟩
    · simpa [pending, run_get hattached] using frames_accounted hattached events
    · intro before now after heq
      exact ⟨_, row_taken hattached before now, rfl, lastTs_eq_newest_iff.mpr (h before now after heq),
        flow_stalled threshold now⟩

def oneTopic : FlowMonitor := ⟨FiniteMap.set ∅ "camera/a" ({}, 2 * 10 ^ 9), ∅⟩

def quietWindow : List Event :=
  [.frame "camera/a" 100 7 1, .topicRow "camera/a" 2, .topicRow "camera/a" 3]

def heardWindow : List Event :=
  [.topicRow "camera/a" 1, .frame "camera/a" 100 7 2, .topicRow "camera/a" 3]

theorem snapshots_accounted_one_topic :
    Accounted oneTopic "camera/a" (2 * 10 ^ 9) heardWindow := by
  apply (snapshots_accounted_iff oneTopic "camera/a" (2 * 10 ^ 9) heardWindow rfl).mpr
  intro before now after heq
  match before, heq with
  | [], _ => exact .inr rfl
  | [_], h => exact absurd (List.cons.inj (List.cons.inj h).2).1 nofun
  | [a, b], h =>
    obtain ⟨-, h⟩ := List.cons.inj h
    have hb : .frame "camera/a" 100 7 2 = b := (List.cons.inj h).1
    subst hb
    exact .inl ⟨_, List.mem_cons_self, rfl⟩
  | [_, _, _], h => cases h
  | _ :: _ :: _ :: _ :: _, h => cases h

/-- The second of the snapshots says that no frame was ever received. -/
theorem quiet_window_unaccounted : oneTopic.topics.get "camera/a" = some ({}, 2 * 10 ^ 9) ∧
    ¬ Accounted oneTopic "camera/a" (2 * 10 ^ 9) quietWindow := by
  refine ⟨rfl, ?_⟩
  intro h
  obtain ⟨row, hrow, -, hts, -⟩ := h.rows [.frame "camera/a" 100 7 1, .topicRow "camera/a" 2] 3 [] rfl
  have hzero : row.lastTsMonoNs = 0 := by
    obtain rfl := List.singleton_inj.mp (List.append_cancel_left hrow)
    rfl
  rw [hzero] at hts
  cases hts

end MediaServo.Host.Flow
