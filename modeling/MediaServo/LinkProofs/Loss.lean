import MediaServo.Link.Session

/-! The loss of a session against what its event channel carries, over every run of the task, of
the owner and of the loop that waits on the channel. -/

namespace MediaServo.Link

open MediaServo.Foundations MediaServo.Common

namespace Session

def Announces (es : List SignalEvent) : Prop := ∃ reason, SignalEvent.disconnected reason ∈ es

/-- A task that ended by itself announced it, and a loop that waits on the session has the
announcement before it. -/
def LossVisible (s : Session) : Prop :=
  ∀ e, s.ended = some e → e ≠ .explicitClose →
    Announces s.emitted ∧
      (s.consumer.left = false → ∀ es, s.consumer.unread = some es → Announces es)

def Subscribed (s : Session) : Prop := s.consumer.unread.isSome = true

/-- No write fails, neither of a message nor of a ping, and the other ways to lose the session
come after the waiting loop has subscribed. -/
def Audible (s : Session) : Action → Prop
  | .read .close | .read .eof | .read (.failed _) => s.Subscribed
  | .recvHi accepted | .recvLo accepted => accepted = true
  | .heartbeat silent accepted =>
      s.gatewaySrc.isSome = true ∨ (silent = true ∧ s.Subscribed) ∨ (silent = false ∧ accepted = true)
  | _ => True

variable {c : Codec} {s : Session}

lemma announces_append {es fs : List SignalEvent} :
    Announces (es ++ fs) ↔ Announces es ∨ Announces fs := by
  simp [Announces, exists_or]

lemma announces_singleton (reason : String) : Announces [.disconnected reason] :=
  ⟨reason, List.mem_singleton.mpr rfl⟩

lemma receive_announces (k : Consumer) (reason : String) (es : List SignalEvent)
    (h : (k.receive (.disconnected reason)).unread = some es) : Announces es := by
  simp only [Consumer.receive, Option.map_eq_some_iff] at h
  obtain ⟨fs, _, rfl⟩ := h
  split_ifs
  · exact announces_append.2 (Or.inr (announces_singleton reason))
  · exact announces_append.2 (Or.inr (announces_singleton reason))

@[simp] lemma emit_subscribed (e : SignalEvent) : (s.emit e).Subscribed ↔ s.Subscribed := by
  simp [Subscribed, emit, Consumer.receive]

@[simp] lemma fireDisconnect_emitted : s.fireDisconnect.emitted = s.emitted := by
  rw [fireDisconnect]
  split_ifs <;> rfl

@[simp] lemma fireDisconnect_consumer : s.fireDisconnect.consumer = s.consumer := by
  rw [fireDisconnect]
  split_ifs <;> rfl

@[simp] lemma fireDisconnect_ended : s.fireDisconnect.ended = s.ended := by
  rw [fireDisconnect]
  split_ifs <;> rfl

/-- The invariant of a run: a loss is visible and the waiting loop is there to see it. -/
def Heard (s : Session) : Prop :=
  s.LossVisible ∧ ∀ e, s.ended = some e → e ≠ .explicitClose → s.Subscribed

lemma heard_of_running (h : s.ended = none) : s.Heard := by
  constructor
  · intro e he
    rw [h] at he
    cases he
  · intro e he
    rw [h] at he
    cases he

lemma heard_of_closed (h : s.ended = some .explicitClose) : s.Heard := by
  constructor
  · intro e he hne
    rw [h] at he
    cases he
    exact absurd rfl hne
  · intro e he hne
    rw [h] at he
    cases he
    exact absurd rfl hne

lemma heard_of_announced (reason : String) (e : Ending) (hs : s.Subscribed) :
    (((s.emit (.disconnected reason)).fireDisconnect).finish e).Heard := by
  constructor
  · intro _ _ _
    constructor
    · simp only [finish, fireDisconnect_emitted, emit]
      exact announces_append.2 (Or.inr (announces_singleton reason))
    · intro _ es hes
      simp only [finish, fireDisconnect_consumer, emit] at hes
      exact receive_announces _ reason es hes
  · intro _ _ _
    have := (emit_subscribed (.disconnected reason)).mpr hs
    simpa [finish, Subscribed] using this

lemma write_ended (m : SignalingMessage) : (write c s m true).ended = s.ended := by
  rw [write]
  split
  · rfl
  · rfl

lemma recvHi_heard (h : s.ended = none) : (recvHi c s true).Heard := by
  rw [recvHi]
  split
  · apply heard_of_running
    rw [write_ended]
    exact h
  · split_ifs
    · exact heard_of_closed rfl
    · exact heard_of_running h

lemma recvLo_heard (h : s.ended = none) : (recvLo c s true).Heard := by
  rw [recvLo]
  split
  · split_ifs
    · exact heard_of_running h
    · apply heard_of_running
      rw [write_ended]
      exact h
  · exact heard_of_running h

lemma read_heard (i : Incoming) (h : s.ended = none) (ha : s.Audible (.read i)) :
    (read c s i).Heard := by
  cases i with
  | text t =>
    simp only [read]
    split
    · exact heard_of_running h
    · exact heard_of_running h
  | close => exact heard_of_announced _ _ ha
  | eof => exact heard_of_announced _ _ ha
  | other => exact heard_of_running h
  | failed e =>
    apply heard_of_announced
    exact (emit_subscribed (.error e)).mpr ha

lemma heartbeat_heard (silent accepted : Bool) (h : s.ended = none)
    (ha : s.Audible (.heartbeat silent accepted)) : (s.heartbeat silent accepted).Heard := by
  simp only [heartbeat]
  split_ifs with hg hs hok
  · exact heard_of_running h
  · rcases ha with ha | ha | ha
    · exact absurd ha hg
    · exact heard_of_announced _ _ ha.2
    · rw [hs] at ha
      cases ha.1
  · exact heard_of_running h
  · rcases ha with ha | ha | ha
    · exact absurd ha hg
    · exact absurd ha.1 hs
    · exact absurd ha.2 hok

lemma taskStep_heard (a : Action) (h : s.ended = none) (ha : s.Audible a) :
    (taskStep c s a).Heard := by
  cases a with
  | read i => exact read_heard i h ha
  | recvHi accepted =>
    obtain rfl : accepted = true := ha
    exact recvHi_heard h
  | recvLo accepted =>
    obtain rfl : accepted = true := ha
    exact recvLo_heard h
  | heartbeat silent accepted => exact heartbeat_heard silent accepted h ha
  | _ => exact heard_of_running h

lemma heard_frame {t : Session} (h : s.Heard) (he : t.ended = s.ended)
    (hm : t.emitted = s.emitted)
    (hs : s.Subscribed → t.Subscribed)
    (hu : s.Subscribed → t.consumer.left = false → ∀ es, t.consumer.unread = some es →
      s.consumer.left = false ∧ ∃ fs, s.consumer.unread = some fs ∧ (Announces fs → Announces es)) :
    t.Heard := by
  constructor
  · intro e hte hne
    rw [he] at hte
    obtain ⟨hem, hrd⟩ := h.1 e hte hne
    constructor
    · rw [hm]
      exact hem
    · intro hl es hes
      obtain ⟨hsl, fs, hfs, hstep⟩ := hu (h.2 e hte hne) hl es hes
      exact hstep (hrd hsl fs hfs)
  · intro e hte hne
    rw [he] at hte
    exact hs (h.2 e hte hne)

lemma heard_same {t : Session} (h : s.Heard) (he : t.ended = s.ended) (hm : t.emitted = s.emitted)
    (hc : t.consumer = s.consumer) : t.Heard := by
  apply heard_frame h he hm
  · intro hs
    rw [Subscribed, hc]
    exact hs
  · intro _ hl es hes
    rw [hc] at hl hes
    exact ⟨hl, es, hes, id⟩

lemma send_heard (m : SignalingMessage) (h : s.Heard) : (s.send m).Heard := by
  simp only [send]
  split_ifs
  · exact h
  · exact heard_same h rfl rfl rfl
  · exact h
  · exact heard_same h rfl rfl rfl

lemma subscribe_heard (h : s.Heard) : s.subscribe.Heard := by
  simp only [subscribe]
  split_ifs with hn
  · refine heard_frame h rfl rfl ?_ ?_
    · intro _
      rfl
    · intro hs
      simp only [Option.isNone_iff_eq_none] at hn
      rw [Subscribed, hn] at hs
      cases hs
  · exact h

lemma take_heard (h : s.Heard) : s.take.Heard := by
  simp only [take]
  split_ifs with hleft
  · exact h
  · have hl : s.consumer.left = false := by simpa using hleft
    split
    · rename_i reason rest hu
      refine heard_frame h rfl rfl ?_ ?_
      · intro _
        rfl
      · intro _ hcontra
        cases hcontra
    · rename_i e rest hnd hu
      refine heard_frame h rfl rfl ?_ ?_
      · intro _
        rfl
      · intro _ _ es hes
        obtain rfl : rest = es := by simpa using hes
        refine ⟨hl, _, hu, ?_⟩
        rintro ⟨reason, hr⟩
        rcases List.mem_cons.mp hr with heq | hr
        · exact absurd heq.symm (hnd reason)
        · exact ⟨reason, hr⟩
    · exact h

lemma forward_heard (m : SignalingMessage) (h : s.Heard) : (s.forward m).Heard := by
  simp only [forward]
  split_ifs
  · exact h
  · refine heard_frame h rfl rfl ?_ ?_
    · intro hs
      exact hs
    · intro _ hcontra
      cases hcontra
  · exact send_heard m h

lemma ownerStep_heard (a : Action) (h : s.Heard) : (s.ownerStep a).Heard := by
  cases a with
  | send m => exact send_heard m h
  | onDisconnect => exact heard_same h rfl rfl rfl
  | close => exact heard_same h rfl rfl rfl
  | subscribe => exact subscribe_heard h
  | take => exact take_heard h
  | forward m => exact forward_heard m h
  | _ => exact h

lemma step_heard (a : Action) (h : s.Heard) (ha : s.Audible a) : (step c s a).Heard := by
  rw [step]
  apply ownerStep_heard
  split_ifs with he
  · exact h
  · apply taskStep_heard a _ ha
    simpa using he

theorem loss_visible (c : Codec) (gatewaySrc : Option String) (roomId : String)
    (acts : List Action) (ha : Along (step c) Audible (start gatewaySrc roomId) acts) :
    (run (step c) (start gatewaySrc roomId) acts).LossVisible :=
  (run_invariant (heard_of_running rfl) (fun _ a ht hc => step_heard a ht hc) ha).1

def plainCodec : Codec where
  readMessage _ := .error "unreadable"
  readEnvelope _ := .error "unreadable"
  writeMessage _ := .ok "message"
  writeEnvelope _ := .ok "envelope"

theorem loss_visible_after_subscription :
    (run (step plainCodec) (start none "vehicle") [.subscribe, .read .eof]).LossVisible :=
  loss_visible plainCodec none "vehicle" [.subscribe, .read .eof] ⟨trivial, rfl, trivial⟩

/-- The socket refuses a message, and the loop that waits on the session is told nothing. -/
theorem failed_write_unannounced :
    ¬∀ (c : Codec) (gatewaySrc : Option String) (roomId : String) (acts : List Action),
      (run (step c) (start gatewaySrc roomId) acts).LossVisible := by
  intro h
  have hv := h plainCodec none "vehicle"
    [.subscribe, .forward (.roomLeave "vehicle" "car"), .recvHi false] .writeFailure
    (by decide) (by decide)
  obtain ⟨reason, hr⟩ := hv.1
  have : (run (step plainCodec) (start none "vehicle")
    [.subscribe, .forward (.roomLeave "vehicle" "car"), .recvHi false]).emitted =
      [.connected "vehicle"] := by decide
  rw [this] at hr
  cases List.mem_singleton.mp hr

end Session

end MediaServo.Link
