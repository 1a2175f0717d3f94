import MediaServo.Client.Rounds
import MediaServo.ClientProofs.Answers

/-! A round of a call among the announcements of its room. -/

namespace MediaServo.Client

open MediaServo.Foundations MediaServo.Common

/-- What a room tells its peers unasked: everything but answers and errors. The server's word that a
transport is connected is an error only in form. -/
def announcement : SignalingMessage → Bool
  | .error _ message => message = transportConnected
  | m => replyKind m = none

def Heard.isAnnouncement : Heard → Bool
  | .event (.message m) => announcement m
  | _ => false

def Heard.isRouterCaps : Heard → Bool
  | .event (.message m) => replyKind m = some .routerCaps
  | _ => false

/-- The server answers every request of a program, each with its answer, and the engine does what it
is asked. -/
def Prog.Answered (engine : List Act → Option EngineReply) :
    Prog → List Act → List SignalingMessage → Prop
  | .done, _, as => as = []
  | .fail, _, _ => False
  | .lock _ k, acts, as => k.Answered engine acts as
  | .takePumpEvents k, acts, as => k.Answered engine acts as
  | .engine op k, acts, as =>
      ∃ r, engine (acts ++ [.engine op]) = some r ∧ (k r).Answered engine (acts ++ [.engine op]) as
  | .tell m k, acts, as => k.Answered engine (acts ++ [.tell m]) as
  | .ask r k, acts, as =>
      ∃ m rest, as = m :: rest ∧ r.verdict (.message m) = .take ∧
        (k m).Answered engine (acts ++ [.ask r]) rest
  | .establish tid k, acts, as => k.Answered engine (acts ++ [.establish tid]) as

/-- What a round can hear while it waits for these answers: announcements come between them, and
when too many do the oldest events are lost, answers or not. -/
inductive Received : List SignalingMessage → List Heard → Prop
  | done : Received [] []
  | answer {as : List SignalingMessage} {es : List Heard} (m : SignalingMessage)
      (h : Received as es) : Received (m :: as) (.message m :: es)
  | announced {as : List SignalingMessage} {es : List Heard} (m : SignalingMessage)
      (hm : announcement m = true) (ha : as ≠ []) (h : Received as es) :
      Received as (.message m :: es)
  | overrun {as : List SignalingMessage} {es : List Heard} (k : ℕ) (ha : as ≠ [])
      (h : Received (as.drop k) es) : Received as (.lagged :: es)

def Heard.Precedes (x y : Heard) : Prop := ¬(x.isAnnouncement = true ∧ y.isRouterCaps = true)

/-- Nothing was lost, and the capabilities of the router come with nothing unasked before them. -/
def Undisturbed (es : List Heard) : Prop := .lagged ∉ es ∧ es.IsChain Heard.Precedes

section Waits

variable {r : Request} {m : SignalingMessage} {as : List SignalingMessage} {es : List Heard}

lemma onOther_announcement (h : announcement m = true) : onOther m = .skip := by
  cases m with
  | error code text =>
    have ht : text = transportConnected := by simpa [announcement] using h
    simp [onOther, ht]
  | _ => rfl

lemma announcement_unasked (h : announcement m = true) : replyKind m = none := by
  cases m <;> first | rfl | simp [announcement, replyKind] at h

lemma verdict_other (hr : r ≠ .routerCapabilities) (h : replyKind m = none) :
    r.verdict (.message m) = onOther m := by
  cases r with
  | routerCapabilities => exact absurd rfl hr
  | createTransport =>
    simp only [Request.verdict, awaitTransportCreated]
    split
    · cases h
    · rfl
  | consume =>
    simp only [Request.verdict, awaitConsumed]
    split
    · cases h
    · rfl
  | createDataProducer =>
    simp only [Request.verdict, awaitDataProducerCreated]
    split
    · cases h
    · rfl
  | consumeData =>
    simp only [Request.verdict, awaitDataConsumed]
    split
    · cases h
    · cases h
    · rfl

lemma verdict_announcement (hr : r ≠ .routerCapabilities) (h : announcement m = true) :
    r.verdict (.message m) = .skip :=
  (verdict_other hr (announcement_unasked h)).trans (onOther_announcement h)

lemma caps_announcement (h : announcement m = true) :
    Request.routerCapabilities.verdict (.message m) = .stop := by
  have hk := announcement_unasked h
  simp only [Request.verdict, awaitRouterCaps]
  split
  · cases hk
  · rfl

lemma await_answer (h : r.verdict (.message m) = .take) : r.await (.message m :: es) = some (m, es) := by
  simp [Request.await, Heard.message, h]

lemma received_nil (h : Received [] es) : es = [] := by
  cases h with
  | done => rfl
  | announced _ _ ha _ => exact absurd rfl ha
  | overrun _ ha _ => exact absurd rfl ha

lemma await_received (hr : r ≠ .routerCapabilities) (hm : r.verdict (.message m) = .take)
    (h : Received (m :: as) es) :
    (∃ pre rest, es = pre ++ .message m :: rest ∧ (∀ x ∈ pre, x.isAnnouncement = true) ∧
        Received as rest ∧ r.await es = some (m, rest)) ∨
      .lagged ∈ es ∧ r.await es = none := by
  generalize hl : m :: as = l at h
  induction h with
  | done => cases hl
  | answer m' h _ =>
    cases hl
    exact Or.inl ⟨[], _, rfl, by simp, h, await_answer hm⟩
  | announced m' ha _ _ ih =>
    have hstep : ∀ es, r.await (.message m' :: es) = r.await es := by
      intro es
      simp [Request.await, Heard.message, verdict_announcement hr ha]
    obtain ⟨pre, rest, rfl, hpre, hrest, hw⟩ | ⟨hlag, hw⟩ := ih hl
    · refine Or.inl ⟨.message m' :: pre, rest, rfl, ?_, hrest, (hstep _).trans hw⟩
      intro x hx
      obtain rfl | hx := List.mem_cons.mp hx
      · exact ha
      · exact hpre x hx
    · exact Or.inr ⟨List.mem_cons_of_mem _ hlag, (hstep _).trans hw⟩
  | overrun _ _ _ _ => exact Or.inr ⟨List.mem_cons_self, rfl⟩

lemma lagged_behind {pre : List Heard} (h : ∀ x ∈ pre, x.isAnnouncement = true)
    (m : SignalingMessage) : .lagged ∈ pre ++ .message m :: es ↔ .lagged ∈ es := by
  have hno : .lagged ∉ pre := fun hin => by simpa [Heard.isAnnouncement] using h _ hin
  simp [hno, Heard.message]

end Waits

section Programs

def Prog.Tolerant : Prog → Prop
  | .done | .fail => True
  | .lock _ k | .takePumpEvents k | .tell _ k | .establish _ k => k.Tolerant
  | .engine _ k => ∀ r, (k r).Tolerant
  | .ask r k => r ≠ .routerCapabilities ∧ ∀ m, (k m).Tolerant

variable {engine : List Act → Option EngineReply} {p : Prog} {acts : List Act}
  {as : List SignalingMessage} {es : List Heard}

lemma exec_answered (h : p.Answered engine acts as) :
    (p.exec engine acts (as.map Heard.message)).2 = true := by
  induction p generalizing acts as with
  | done => rfl
  | fail => exact h.elim
  | lock _ k ih => exact ih h
  | takePumpEvents k ih => exact ih h
  | tell _ k ih => exact ih h
  | establish _ k ih => exact ih h
  | engine op k ih =>
    obtain ⟨r, hr, h⟩ := h
    simp only [Prog.exec, hr]
    exact ih r h
  | ask r k ih =>
    obtain ⟨m, rest, rfl, hv, h⟩ := h
    simp only [Prog.exec, List.map_cons, await_answer hv]
    exact ih m h

lemma exec_tolerant (hp : p.Tolerant) (h : p.Answered engine acts as) (hr : Received as es) :
    (.lagged ∉ es → p.exec engine acts es = p.exec engine acts (as.map Heard.message)) ∧
      (.lagged ∈ es → (p.exec engine acts es).2 = false) := by
  induction p generalizing acts as es with
  | done =>
    obtain rfl : as = [] := h
    simp [received_nil hr]
  | fail => exact h.elim
  | lock _ k ih => exact ih hp h hr
  | takePumpEvents k ih => exact ih hp h hr
  | tell _ k ih => exact ih hp h hr
  | establish _ k ih => exact ih hp h hr
  | engine op k ih =>
    obtain ⟨r, hrep, h⟩ := h
    simp only [Prog.exec, hrep]
    exact ih r (hp r) h hr
  | ask r k ih =>
    obtain ⟨m, rest, rfl, hv, h⟩ := h
    obtain ⟨pre, es', rfl, hpre, hrest, hw⟩ | ⟨hlag, hw⟩ := await_received hp.1 hv hr
    · simp only [Prog.exec, hw, List.map_cons, await_answer hv, lagged_behind hpre m]
      exact ih m (hp.2 m) h hrest
    · simp [Prog.exec, hw, hlag]

lemma answered_kinds (hp : p.Tolerant) (h : p.Answered engine acts as) :
    ∀ m ∈ as, replyKind m ≠ some .routerCaps := by
  induction p generalizing acts as with
  | done =>
    obtain rfl : as = [] := h
    simp
  | fail => exact h.elim
  | lock _ k ih => exact ih hp h
  | takePumpEvents k ih => exact ih hp h
  | tell _ k ih => exact ih hp h
  | establish _ k ih => exact ih hp h
  | engine op k ih =>
    obtain ⟨r, -, h⟩ := h
    exact ih r (hp r) h
  | ask r k ih =>
    obtain ⟨m, rest, rfl, hv, h⟩ := h
    have hkind : replyKind m = some r.kind := by
      by_contra hne
      exact verdict_of_other hne hv
    have hne : r.kind ≠ .routerCaps := by
      cases r with
      | routerCapabilities => exact absurd rfl hp.1
      | _ => simp [Request.kind]
    intro x hx
    obtain rfl | hx := List.mem_cons.mp hx
    · rw [hkind]
      simpa using hne
    · exact ih m (hp.2 m) h x hx

end Programs

section Chains

variable {m : SignalingMessage} {as : List SignalingMessage} {es pre : List Heard} {x : Heard}

lemma received_kinds (h : Received as es) (ha : ∀ m ∈ as, replyKind m ≠ some .routerCaps) :
    ∀ y ∈ es, y.isRouterCaps = false := by
  induction h with
  | done => simp
  | answer m _ ih =>
    have hm := ha m List.mem_cons_self
    have := ih fun a h => ha a (List.mem_cons_of_mem _ h)
    simpa [Heard.message, Heard.isRouterCaps, hm] using this
  | announced m hm _ _ ih =>
    simpa [Heard.message, Heard.isRouterCaps, announcement_unasked hm] using ih ha
  | overrun k _ _ ih =>
    simpa [Heard.isRouterCaps] using ih fun a h => ha a (List.mem_of_mem_drop h)

lemma undisturbed_of_kinds (h : ∀ y ∈ es, y.isRouterCaps = false) :
    Undisturbed es ↔ .lagged ∉ es := by
  refine ⟨fun hu => hu.1, fun hl => ⟨hl, ?_⟩⟩
  refine (List.pairwise_of_forall_mem_list fun x _ y hy hxy => ?_).isChain
  rw [h y hy] at hxy
  exact absurd hxy.2 (by simp)

lemma not_chain (hx : x.isAnnouncement = true) (hm : replyKind m = some .routerCaps)
    (h : Received (m :: as) es) (hl : .lagged ∉ es) :
    ¬(x :: es).IsChain Heard.Precedes := by
  generalize hg : m :: as = l at h
  induction h generalizing x with
  | done => cases hg
  | answer m' _ _ =>
    cases hg
    intro hc
    exact (List.isChain_cons_cons.mp hc).1 ⟨hx, by simp [Heard.message, Heard.isRouterCaps, hm]⟩
  | announced m' ha _ _ ih =>
    intro hc
    have hl' := fun hin => hl (List.mem_cons_of_mem _ hin)
    have hx' : (Heard.message m').isAnnouncement = true := ha
    exact ih hx' hl' hg (List.isChain_cons_cons.mp hc).2
  | overrun _ _ _ _ => exact absurd List.mem_cons_self hl

lemma chain_of_direct {t c : SignalingMessage} (hpre : ∀ x ∈ pre, x.isAnnouncement = true)
    (ht : announcement t = false) (htk : replyKind t ≠ some .routerCaps)
    (hes : ∀ y ∈ es, y.isRouterCaps = false) :
    (pre ++ .message t :: .message c :: es).IsChain Heard.Precedes := by
  have hno : ∀ y ∈ pre ++ [.message t], y.isRouterCaps = false := by
    intro y hy
    obtain hy | hy := List.mem_append.mp hy
    · have hann := hpre y hy
      cases y with
      | lagged => rfl
      | event e =>
        cases e with
        | message m => simp [Heard.isRouterCaps, announcement_unasked hann]
        | _ => rfl
    · obtain rfl := List.mem_singleton.mp hy
      simpa [Heard.isRouterCaps, Heard.message] using htk
  have hfirst : (pre ++ [Heard.message t]).IsChain Heard.Precedes := by
    refine (List.pairwise_of_forall_mem_list fun x _ y hy hxy => ?_).isChain
    rw [hno y hy] at hxy
    exact absurd hxy.2 (by simp)
  have hlast : (Heard.message c :: es).IsChain Heard.Precedes := by
    refine (List.pairwise_cons.mpr ⟨fun y hy hxy => ?_,
      List.pairwise_of_forall_mem_list fun x _ y hy hxy => ?_⟩).isChain
    · rw [hes y hy] at hxy
      exact absurd hxy.2 (by simp)
    · rw [hes y hy] at hxy
      exact absurd hxy.2 (by simp)
  rw [List.append_cons]
  refine List.isChain_append.mpr ⟨hfirst, hlast, ?_⟩
  simp [Heard.message, Heard.Precedes, Heard.isAnnouncement, ht]

end Chains

section Rounds

variable {engine : List Act → Option EngineReply} {as : List SignalingMessage} {es : List Heard}

lemma ackRound_tolerant (room peer dp : String) (transport : Option String) :
    (ackRound room peer dp transport).Tolerant := by
  have hack : ∀ tid, (consumeAck dp tid).Tolerant := by
    intro tid
    refine ⟨by simp, fun m => ?_⟩
    dsimp only
    split <;> simp [Prog.Tolerant]
  cases transport with
  | some tid => exact hack tid
  | none =>
    refine ⟨by simp, fun m => ?_⟩
    dsimp only
    split
    · exact fun _ _ _ _ => hack _
    · trivial

lemma take_transport {d : TransportDirection} {m : SignalingMessage}
    (h : (Request.createTransport d).verdict (.message m) = .take) :
    ∃ room peer tid ice dtls candidates sctp,
      m = .webRtcTransportCreated room peer tid ice dtls candidates sctp := by
  simp only [Request.verdict, awaitTransportCreated] at h
  split at h
  · exact ⟨_, _, _, _, _, _, _, rfl⟩
  · exact absurd h (onOther_ne_take m)

lemma take_caps {m : SignalingMessage} (h : Request.routerCapabilities.verdict (.message m) = .take) :
    ∃ room caps, m = .routerRtpCapabilities room caps := by
  simp only [Request.verdict, awaitRouterCaps] at h
  split at h
  · exact ⟨_, _, rfl⟩
  · cases h

lemma afterCaps_tolerant (room peer producerId tid : String) (ice : IceParameters)
    (dtls : DtlsParameters) (candidates : Option (List IceCandidate)) (caps : JsonValue) :
    (Prog.ask (.consume producerId caps tid) fun
      | .consumed _ _ _ _ rtp =>
          .engine (.setVideoOffer ice dtls candidates rtp) fun _ =>
          .engine .answer fun _ =>
          connectTransport room peer tid .done
      | _ => .fail).Tolerant := by
  refine ⟨by simp, fun m => ?_⟩
  dsimp only
  split
  · exact fun _ _ _ => trivial
  · trivial

lemma consume_undisturbed {room peer producerId : String}
    (ha : (consumeSequence room peer producerId).Answered engine [] as) (hr : Received as es) :
    (Undisturbed es → (consumeSequence room peer producerId).exec engine [] es =
        (consumeSequence room peer producerId).exec engine [] (as.map Heard.message)) ∧
      (¬Undisturbed es → ((consumeSequence room peer producerId).exec engine [] es).2 = false) := by
  obtain ⟨t, as₁, rfl, ht, ha⟩ := ha
  obtain ⟨r₁, p₁, tid, ice, dtls, candidates, sctp, rfl⟩ := take_transport ht
  obtain ⟨reply, hreply, c, as₂, rfl, hc, ha⟩ := ha
  obtain ⟨r₂, caps, rfl⟩ := take_caps hc
  obtain ⟨pre, es₁, rfl, hpre, hr₁, hw⟩ | ⟨hlag, hw⟩ := await_received (by simp) ht hr
  · have hk : replyKind (.routerRtpCapabilities r₂ caps) = some .routerCaps := rfl
    cases hr₁ with
    | @answer _ es₂ _ h =>
      have hrest := afterCaps_tolerant room peer producerId tid ice dtls candidates caps
      have hkinds := received_kinds h (answered_kinds hrest ha)
      obtain ⟨hsame, hlost⟩ := exec_tolerant hrest ha h
      have hchain := chain_of_direct hpre (t := .webRtcTransportCreated r₁ p₁ tid ice dtls candidates
        sctp) (c := .routerRtpCapabilities r₂ caps) rfl (by simp [replyKind]) hkinds
      have hu : Undisturbed (pre ++ .message (.webRtcTransportCreated r₁ p₁ tid ice dtls candidates
          sctp) :: .message (.routerRtpCapabilities r₂ caps) :: es₂) ↔ .lagged ∉ es₂ := by
        rw [Undisturbed, lagged_behind hpre]
        exact ⟨fun h hin => h.1 (List.mem_cons_of_mem _ hin),
          fun h => ⟨by simpa [Heard.message] using h, hchain⟩⟩
      simp only [consumeSequence, Prog.exec, hw, hreply, List.map_cons, await_answer ht,
        await_answer hc, hu, not_not]
      simp only [Prog.exec] at hsame hlost
      exact ⟨hsame, hlost⟩
    | @announced _ es₂ m hm _ h =>
      have hstop : Request.routerCapabilities.await (.message m :: es₂) = none := by
        simp [Request.await, Heard.message, caps_announcement hm]
      refine ⟨fun hu => ?_, fun _ => ?_⟩
      · have hx : (Heard.message m).isAnnouncement = true := hm
        have hl := fun hin => hu.1 ((lagged_behind hpre _).mpr (List.mem_cons_of_mem _ hin))
        have htail := (List.isChain_append.mp hu.2).2.1
        exact absurd htail.tail (not_chain hx hk h hl)
      · simp only [consumeSequence, Prog.exec, hw, hreply, hstop]
    | overrun n _ _ =>
      refine ⟨fun hu => absurd ((lagged_behind hpre _).mpr List.mem_cons_self) hu.1, fun _ => ?_⟩
      simp only [consumeSequence, Prog.exec, hw, hreply, Request.await]
  · refine ⟨fun hu => absurd hlag hu.1, fun _ => ?_⟩
    simp only [consumeSequence, Prog.exec, hw]

/-- With the server's answers at hand, a round of a consume or of the ack pump does among the
announcements of its room what it does without them exactly when it loses no events and the router's
capabilities come right after the answer before them. -/
theorem round_undisturbed_iff (room peer : String) (engine : List Act → Option EngineReply)
    (round : Round) (as : List SignalingMessage) (es : List Heard)
    (ha : (round.prog room peer).Answered engine [] as) (hr : Received as es) :
    ((round.prog room peer).exec engine [] es).2 = true ∧
        (round.prog room peer).exec engine [] es =
          (round.prog room peer).exec engine [] (as.map Heard.message) ↔ Undisturbed es := by
  have hok := exec_answered ha
  obtain ⟨hsame, hfail⟩ : (Undisturbed es → (round.prog room peer).exec engine [] es =
        (round.prog room peer).exec engine [] (as.map Heard.message)) ∧
      (¬Undisturbed es → ((round.prog room peer).exec engine [] es).2 = false) := by
    cases round with
    | consume p => exact consume_undisturbed ha hr
    | ack dp transport =>
      have htol := ackRound_tolerant room peer dp transport
      obtain ⟨hsame, hlost⟩ := exec_tolerant htol ha hr
      rw [undisturbed_of_kinds (received_kinds hr (answered_kinds htol ha)), not_not]
      exact ⟨hsame, hlost⟩
  constructor
  · rintro ⟨htrue, -⟩
    by_contra hu
    rw [hfail hu] at htrue
    cases htrue
  · intro hu
    rw [hsame hu]
    exact ⟨hok, rfl⟩

end Rounds

section Turns

open RoomSession

variable {s : RoomSession} {t : Task} {i q : ℕ} {r : Request} {k : SignalingMessage → Prog}
  {m : SignalingMessage}

def Tagged.heard (x : Tagged) : Heard := .event x.event

end Turns

section Car

def carAnswers : List SignalingMessage :=
  [.webRtcTransportCreated "car1" "host" "t1" ⟨"u", "p"⟩ ⟨[], "auto"⟩ none none,
    .routerRtpCapabilities "car1" ⟨"caps"⟩, .consumed "car1" "c1" "video1" .video ⟨"rtp"⟩]

def carEngine : List Act → Option EngineReply := fun _ => some ⟨"AA", 0⟩

def secondCamera : SignalingMessage := .newProducer "car1" "video2" "host" .video (some "rear")

lemma carAnswers_complete :
    ((Round.consume "video1").prog "car1" "host").Answered carEngine [] carAnswers :=
  ⟨_, _, rfl, rfl, _, rfl, _, _, rfl, rfl, _, _, rfl, rfl, _, rfl, _, rfl, _, rfl, rfl⟩

theorem announced_late :
    (((Round.consume "video1").prog "car1" "host").exec carEngine []
      ([carAnswers[0], carAnswers[1], secondCamera, carAnswers[2]].map Heard.message)).2 = true ∧
    ((Round.consume "video1").prog "car1" "host").exec carEngine []
        ([carAnswers[0], carAnswers[1], secondCamera, carAnswers[2]].map Heard.message) =
      ((Round.consume "video1").prog "car1" "host").exec carEngine []
        (carAnswers.map Heard.message) := by
  refine (round_undisturbed_iff "car1" "host" carEngine (.consume "video1") carAnswers _
    carAnswers_complete ?_).mpr ?_
  · exact .answer _ (.answer _ (.announced _ rfl (by simp) (.answer _ .done)))
  · simp [Undisturbed, Heard.Precedes, carAnswers, secondCamera, Heard.message,
      Heard.isAnnouncement, Heard.isRouterCaps, announcement, replyKind]

/-- The same announcement one answer earlier fails the consume. -/
theorem announced_early :
    ¬∀ (room peer : String) (engine : List Act → Option EngineReply) (round : Round)
      (as : List SignalingMessage) (es : List Heard),
      (round.prog room peer).Answered engine [] as → Received as es →
        ((round.prog room peer).exec engine [] es).2 = true ∧
          (round.prog room peer).exec engine [] es =
            (round.prog room peer).exec engine [] (as.map Heard.message) := by
  intro hall
  have h := (hall "car1" "host" carEngine (.consume "video1") carAnswers
    ([carAnswers[0], secondCamera, carAnswers[1], carAnswers[2]].map Heard.message)
    carAnswers_complete
    (.answer _ (.announced _ rfl (by simp) (.answer _ (.answer _ .done))))).1
  have hfail : (((Round.consume "video1").prog "car1" "host").exec carEngine []
      ([carAnswers[0], secondCamera, carAnswers[1], carAnswers[2]].map Heard.message)).2 = false := by
    rfl
  rw [hfail] at h
  cases h

end Car

end MediaServo.Client
