import MediaServo.ServerProofs.SfuFrames

/-! Which part of the SFU a session can reach with its messages, and which sessions can open a
data channel. -/

namespace MediaServo.Server

open MediaServo.Foundations MediaServo.Common

def addsTo : SignalingMessage → Option (String × String)
  | .createWebRtcTransport roomId peer _ => some (roomId, peer)
  | .produce roomId peer .. => some (roomId, peer)
  | .consume roomId peer .. => some (roomId, peer)
  | .createDataProducer roomId peer .. => some (roomId, peer)
  | .consumeData roomId peer .. => some (roomId, peer)
  | _ => none

structure Extends (e e' : SfuPeer) : Prop where
  sendTransports : e.sendTransports <+: e'.sendTransports
  recvTransports : e.recvTransports <+: e'.recvTransports
  producers : e.producers <+: e'.producers
  consumers : e.consumers <+: e'.consumers
  dataProducers : e.dataProducers <+: e'.dataProducers
  dataConsumers : e.dataConsumers <+: e'.dataConsumers

lemma Extends.refl (e : SfuPeer) : Extends e e :=
  ⟨List.prefix_rfl, List.prefix_rfl, List.prefix_rfl, List.prefix_rfl, List.prefix_rfl,
    List.prefix_rfl⟩

lemma pushTransport_extends (e : SfuPeer) (direction : TransportDirection) (id : String) :
    Extends e (e.pushTransport direction id) := by
  cases direction with
  | send => exact { Extends.refl e with sendTransports := List.prefix_append _ _ }
  | recv => exact { Extends.refl e with recvTransports := List.prefix_append _ _ }

lemma Puts.adds {sfu sfu' : SfuManager} {roomId peer : String} {e e' : SfuPeer}
    (h : Puts sfu sfu' roomId peer (some e')) (he : (sfu.peer roomId peer).getD SfuPeer.empty = e)
    (hx : Extends e e') (r p : String) :
    sfu'.peer r p = sfu.peer r p ∨ ((roomId, peer) = (r, p) ∧
      ∃ e', sfu'.peer r p = some e' ∧ Extends ((sfu.peer r p).getD SfuPeer.empty) e') := by
  rw [h r p]
  split_ifs with hrp
  · obtain ⟨rfl, rfl⟩ := hrp
    exact Or.inr ⟨rfl, e', rfl, he ▸ hx⟩
  · exact Or.inl rfl

lemma relayMessage_confined (s : SignalingServer) (c : Session) (msg : SignalingMessage)
    (w : Worker) (r p : String) :
    (s.relayMessage c msg w).server.sfuManager.peer r p = s.sfuManager.peer r p ∨
      (addsTo msg = some (r, p) ∧ ∃ e, (s.relayMessage c msg w).server.sfuManager.peer r p = some e ∧
        Extends ((s.sfuManager.peer r p).getD SfuPeer.empty) e) ∨
      (msg = .downstreamGone p r ∧ (∃ d, s.deviceIdOf c.peerId = some d) ∧
        (s.relayMessage c msg w).server.sfuManager.peer r p = none) := by
  have hs := s.relayMessage_sfu c w msg
  generalize (s.relayMessage c msg w).server.sfuManager = sfu at hs
  cases hs with
  | same same => exact Or.inl (same r p)
  | transport puts =>
    apply (puts.adds rfl (pushTransport_extends _ _ _) r p).imp_right
    exact fun h => Or.inl ⟨congrArg some h.1, h.2⟩
  | @producer _ _ _ _ _ _ _ _ _ e allowed answer entry puts =>
    apply (puts.adds (by rw [entry]; rfl)
      { Extends.refl e with producers := List.prefix_append _ _ } r p).imp_right
    exact fun h => Or.inl ⟨congrArg some h.1, h.2⟩
  | @consumer _ _ _ _ _ _ _ e entry puts =>
    apply (puts.adds (by rw [entry]; rfl)
      { Extends.refl e with consumers := List.prefix_append _ _ } r p).imp_right
    exact fun h => Or.inl ⟨congrArg some h.1, h.2⟩
  | @dataProducer _ _ _ _ _ _ _ _ _ e allowed answer stream entry transport puts =>
    apply (puts.adds (by rw [entry]; rfl)
      { Extends.refl e with dataProducers := List.prefix_append _ _ } r p).imp_right
    exact fun h => Or.inl ⟨congrArg some h.1, h.2⟩
  | @dataConsumer _ _ _ _ _ _ e entry puts =>
    apply (puts.adds (by rw [entry]; rfl)
      { Extends.refl e with dataConsumers := List.prefix_append _ _ } r p).imp_right
    exact fun h => Or.inl ⟨congrArg some h.1, h.2⟩
  | @gone gonePeer roomId d bound puts =>
    rw [puts r p]
    split_ifs with hrp
    · obtain ⟨rfl, rfl⟩ := hrp
      exact Or.inr (Or.inr ⟨rfl, ⟨d, bound⟩, rfl⟩)
    · exact Or.inl rfl

def willing (id : String) : Worker where
  router := .ok ()
  transport := .ok ⟨id, ⟨"ufrag", "pwd"⟩, ⟨[], "auto"⟩, [], none⟩
  dtls := .ok ()
  connect := .ok ()
  capabilities := .ok ⟨"null"⟩
  layers := .ok ()
  rtpParameters := .ok ()
  produce := .ok id
  rtpCapabilities := .ok ()
  consume := .ok (id, ⟨"null"⟩)
  produceData := .ok id
  consumeData := .ok ⟨id, none, "", ""⟩
  stats := .ok (0, 0, 0)

def twoVehicles : List Action :=
  [.join ⟨"p", .device "e", "room-e", .host, some 3, none⟩ "n1",
    .join ⟨"q", .device "d", "room-d", .host, some 3, none⟩ "n2"]

theorem foreign_room_changed :
    let sys := run System.step .init (twoVehicles ++
      [.message 1 (.createWebRtcTransport "room-e" "host" .send) (willing "t1")])
    let added := sys.step (.message 0 (.createWebRtcTransport "room-e" "host" .recv) (willing "t2"))
    let removed := sys.step (.message 0 (.downstreamGone "host" "room-e") (willing "t2"))
    sys.live 0 = some ⟨"q", "room-d", .host, .device "d", 3⟩ ∧
      sys.server.roomOwnerOf "room-e" = some "e" ∧
      (sys.server.sfuManager.peer "room-e" "host").map
        (fun e => (e.sendTransports, e.recvTransports)) = some (["t1"], []) ∧
      (added.server.sfuManager.peer "room-e" "host").map
        (fun e => (e.sendTransports, e.recvTransports)) = some (["t1"], ["t2"]) ∧
      (removed.server.sfuManager.peer "room-e" "host").isNone = true := by
  decide

def Unprivileged (id : SessionIdentity) : Prop :=
  ∃ a, id = .account a ∧ a.role.canControl = false

def Action.From (P : SessionIdentity → Prop) (sys : System) : Action → Prop
  | .join q _ => P q.identity
  | .message i _ _ => ∃ c, sys.live i = some c ∧ P c.identity
  | .close i => ∃ c, sys.live i = some c ∧ P c.identity
  | _ => False

def NoDataProducerCreated (s t : SignalingServer) : Prop :=
  ∀ r p, (t.sfuManager.dataAt r p).Sublist (s.sfuManager.dataAt r p)

/-- A data producer request in an `audio-` room that the SFU and the media worker can serve. -/
def OpensAudioData (s : SignalingServer) (w : Worker) : SignalingMessage → Prop
  | .createDataProducer roomId peer direction _ _ sctp transportId =>
      isAudioRoom roomId = true ∧ direction = .send ∧ sctp.isSome ∧
        (∃ e t, s.sfuManager.peer roomId peer = some e ∧ e.sendTransport transportId = some t) ∧
        ∃ id, w.produceData = .ok id
  | _ => False

lemma dataProduceDenied_unprivileged {c : Session} (h : Unprivileged c.identity) (roomId : String)
    (direction : TransportDirection) :
    SignalingServer.dataProduceDenied c roomId direction = none ↔
      isAudioRoom roomId = true ∧ direction = .send := by
  obtain ⟨a, ha, hc⟩ := h
  have hcontrol : c.identity.canControl = false := by rw [ha]; exact hc
  rw [SignalingServer.dataProduceDenied]
  by_cases hd : direction = .send
  · by_cases hr : isAudioRoom roomId = true
    · simp [hd, hr, ha, SessionIdentity.canProduce]
    · simp [hd, hr, ha, hc, SessionIdentity.canProduce, SessionIdentity.canControl]
  · simp [hd]

lemma opens_of_sfuStep {s : SignalingServer} {c : Session} {w : Worker} {sfu : SfuManager}
    {msg : SignalingMessage} (hc : Unprivileged c.identity) (hs : SfuStep s c w sfu msg)
    (hm : ¬OpensAudioData s w msg) (r p : String) :
    (sfu.dataAt r p).Sublist (s.sfuManager.dataAt r p) := by
  have hkeep : ∀ {roomId peer : String} {e : SfuPeer},
      Puts s.sfuManager sfu roomId peer (some e) →
      e.dataProducers = s.sfuManager.dataAt roomId peer →
      (sfu.dataAt r p).Sublist (s.sfuManager.dataAt r p) := by
    intro roomId peer e hput he
    rw [SfuManager.dataAt, hput r p]
    split_ifs with hrp
    · obtain ⟨rfl, rfl⟩ := hrp
      exact he ▸ List.Sublist.refl _
    · exact List.Sublist.refl _
  cases hs with
  | same same => exact SfuManager.dataAt_congr (same r p) ▸ List.Sublist.refl _
  | @transport roomId peer direction _ puts =>
    apply hkeep puts
    rw [SfuManager.dataAt]
    cases direction <;> cases s.sfuManager.peer roomId peer <;> rfl
  | producer allowed answer entry puts => exact hkeep puts (SfuManager.dataAt_of_some entry).symm
  | consumer entry puts => exact hkeep puts (SfuManager.dataAt_of_some entry).symm
  | dataProducer allowed answer stream entry transport puts =>
    obtain ⟨hroom, hsend⟩ := (dataProduceDenied_unprivileged hc _ _).mp allowed
    exact absurd ⟨hroom, hsend, stream, ⟨_, _, entry, transport⟩, _, answer⟩ hm
  | dataConsumer entry puts => exact hkeep puts (SfuManager.dataAt_of_some entry).symm
  | gone bound puts =>
    rw [SfuManager.dataAt, puts r p]
    split_ifs
    · exact List.nil_sublist _
    · exact List.Sublist.refl _

lemma created_of_opens {s : SignalingServer} {c : Session} {w : Worker} {msg : SignalingMessage}
    (hc : Unprivileged c.identity) (hm : OpensAudioData s w msg) :
    (s.relayMessage c msg w).ended = false ∧
      ¬NoDataProducerCreated s (s.relayMessage c msg w).server := by
  cases msg with
  | createDataProducer roomId peer direction label protocol sctp transportId =>
    obtain ⟨hroom, hsend, hsctp, ⟨e, t, he, ht⟩, id, hid⟩ := hm
    obtain ⟨sfu, hsfu⟩ := s.sfuManager.createDataProducer_of w hid hsctp he ht label protocol
    have hallowed := (dataProduceDenied_unprivileged hc roomId direction).mpr ⟨hroom, hsend⟩
    have hreply : ∃ u reply, s.handleSfuMessage c
        (.createDataProducer roomId peer direction label protocol sctp transportId) w =
          (u, some reply) ∧ u.sfuManager = sfu := by
      rw [SignalingServer.handleSfuMessage, SignalingServer.handleCreateDataProducer, hallowed]
      dsimp only
      rw [hsfu]
      exact ⟨_, _, rfl, rfl⟩
    obtain ⟨u, reply, hu, husfu⟩ := hreply
    have hrelay : s.relayMessage c
        (.createDataProducer roomId peer direction label protocol sctp transportId) w =
          ⟨u, some reply, false⟩ := by
      change s.sfuOrRelay c _ w = _
      rw [SignalingServer.sfuOrRelay, hu]
    rw [hrelay]
    refine ⟨rfl, fun hno => ?_⟩
    obtain ⟨_, _, e', t', he', _, hput⟩ := SfuManager.createDataProducer_ok _ w hsfu
    rw [he] at he'
    cases he'
    have hlen := (hno roomId peer).length_le
    rw [husfu, SfuManager.dataAt, hput roomId peer, SfuManager.dataAt_of_some he] at hlen
    simp at hlen
  | _ => exact hm.elim

theorem control_channel_law (acts : List Action) :
    Along System.step (fun sys a => a.From Unprivileged sys →
        NoDataProducerCreated sys.server (sys.step a).server) .init acts ↔
      Along System.step (fun sys a => ∀ i msg w, a = .message i msg w → a.From Unprivileged sys →
        ¬OpensAudioData sys.server w msg) .init acts := by
  apply along_congr
  intro sys a
  constructor
  · rintro hno i msg w rfl hfrom hopen
    obtain ⟨c, hl, hc⟩ := hfrom
    obtain ⟨hend, hcreated⟩ := created_of_opens hc hopen
    apply hcreated
    have hstep : (sys.step (.message i msg w)).server = (sys.server.relayMessage c msg w).server := by
      rw [System.step, System.message]
      simp only [hl, hend]
      rfl
    exact hstep ▸ hno ⟨c, hl, hc⟩
  · intro hcond hfrom r p
    obtain hthin | ⟨i, msg, w, c, rfl, hl, hs⟩ := step_sfu sys a
    · exact (hthin r p).2
    · obtain ⟨c', hl', hc⟩ := hfrom
      have : c' = c := Option.some.inj (hl'.symm.trans hl)
      subst this
      exact opens_of_sfuStep hc hs (hcond i msg w rfl ⟨c', hl, hc⟩) r p

theorem viewer_creates_data_producer :
    let viewer : SessionIdentity := .account ⟨"eve", .viewer, []⟩
    let acts : List Action := [.join ⟨"p", viewer, "audio-car", .consumer, some 3, none⟩ "n",
      .message 0 (.createWebRtcTransport "audio-car" "p" .send) (willing "t")]
    let a : Action := .message 0 (.createDataProducer "audio-car" "p" .send "control" "json"
      (some ⟨0, true, none, none⟩) none) (willing "x")
    let sys := run System.step .init acts
    (sys.live 0).map Session.identity = some viewer ∧ viewer.canControl = false ∧
      sys.server.sfuManager.dataAt "audio-car" "p" = [] ∧
      (sys.step a).server.sfuManager.dataAt "audio-car" "p" = [⟨"x", "control", "json"⟩] := by
  decide

end MediaServo.Server
