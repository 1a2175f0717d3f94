import MediaServo.HostProofs.Pairing
import MediaServo.ServerProofs.SfuGates

/-! The gateway against the server: which forwarded messages the gateway counts as requests, and
which of them the server answers with a message that the gateway pairs with a request. -/

namespace MediaServo.Host

open MediaServo.Foundations MediaServo.Common MediaServo.Server

/-- The server answers a forwarded message with a message that the gateway takes for the answer to
its oldest request. -/
def AnsweredByFifo (s : SignalingServer) (c : Session) (w : Worker) (msg : SignalingMessage) : Prop :=
  ∃ r, (s.relayMessage c msg w).reply = some r ∧ isFifoResponse r = true

/-- The server has no error and no acknowledgement for a message outside the requests that the
gateway counts. -/
def Unremarked (s : SignalingServer) (c : Session) (w : Worker) : SignalingMessage → Prop
  | .setPreferredLayers .. => False
  | .configPush .. => False
  | .statusReport .. => statusReportDenialReason c.identity c.role = none
  | .emergencyCommand .. => c.identity.canEmergency (s.roomOwnerOf c.roomId) = .ok ()
  | .getRouterRtpCapabilities roomId =>
      ((∃ room, s.sfuManager.get roomId = some room) ∨ w.router = .ok ()) ∧
        ∃ v, w.capabilities = .ok v
  | .createDataProducer roomId peer direction _ _ sctp transportId =>
      SignalingServer.dataProduceDenied c roomId direction = none ∧ sctp.isSome = true ∧
        (∃ e t, s.sfuManager.peer roomId peer = some e ∧ e.sendTransport transportId = some t) ∧
        ∃ id, w.produceData = .ok id
  | .consumeData roomId peer direction dataProducerId transportId =>
      direction = .recv ∧
        c.identity.canConsume (s.producerOwners.get dataProducerId) = .ok () ∧
        (∃ room x, s.sfuManager.get roomId = some room ∧
          SfuManager.findDataProducer room dataProducerId = some x) ∧
        (∃ e t, s.sfuManager.peer roomId peer = some e ∧ e.recvTransport transportId = some t) ∧
        ∃ d, w.consumeData = .ok d
  | _ => True

section Replies

variable (s : SignalingServer) (c : Session) (w : Worker)

lemma lookupPeer_eq_ok {sfu : SfuManager} {roomId peerId missing : String} {e : SfuPeer} :
    sfu.lookupPeer roomId peerId missing = .ok e ↔ sfu.peer roomId peerId = some e := by
  constructor
  · exact SfuManager.lookupPeer_ok
  · intro h
    obtain ⟨room, hroom, hp⟩ := SfuManager.peer_eq_some.1 h
    simp [SfuManager.lookupPeer, hroom, hp]

lemma createDataProducer_isOk {sfu : SfuManager} {roomId peerId label protocol : String}
    {sctp : Option SctpStreamParameters} {transportId : Option String} :
    (∃ x, sfu.createDataProducer roomId peerId label protocol sctp transportId w = .ok x) ↔
      sctp.isSome = true ∧
        (∃ e t, sfu.peer roomId peerId = some e ∧ e.sendTransport transportId = some t) ∧
        ∃ id, w.produceData = .ok id := by
  constructor
  · rintro ⟨⟨sfu', id⟩, h⟩
    obtain ⟨hid, hsctp, e, t, he, ht, _⟩ := SfuManager.createDataProducer_ok _ w h
    exact ⟨hsctp, ⟨e, t, he, ht⟩, id, hid⟩
  · rintro ⟨hsctp, ⟨e, t, he, ht⟩, id, hid⟩
    obtain ⟨sfu', h⟩ := sfu.createDataProducer_of w hid hsctp he ht label protocol
    exact ⟨_, h⟩

lemma createDataConsumer_isOk {sfu : SfuManager} {roomId peerId dataProducerId : String}
    {transportId : Option String} :
    (∃ x, sfu.createDataConsumer roomId peerId dataProducerId transportId w = .ok x) ↔
      (∃ room x, sfu.get roomId = some room ∧
        SfuManager.findDataProducer room dataProducerId = some x) ∧
        (∃ e t, sfu.peer roomId peerId = some e ∧ e.recvTransport transportId = some t) ∧
        ∃ d, w.consumeData = .ok d := by
  constructor
  · rintro ⟨x, h⟩
    rw [SfuManager.createDataConsumer] at h
    split at h
    · cases h
    · rename_i room hroom
      split at h
      · cases h
      · rename_i y hy
        obtain ⟨e, he, h⟩ := bind_eq_ok.1 h
        split at h
        · cases h
        · rename_i t ht
          obtain ⟨d, hd, _⟩ := bind_eq_ok.1 h
          exact ⟨⟨room, y, hroom, hy⟩, ⟨e, t, lookupPeer_eq_ok.1 he, ht⟩, d, mapError_eq_ok.1 hd⟩
  · rintro ⟨⟨room, y, hroom, hy⟩, ⟨e, t, he, ht⟩, d, hd⟩
    simp [SfuManager.createDataConsumer, hroom, hy, lookupPeer_eq_ok.2 he, ht, hd, bind,
      Except.bind, Except.mapError, pure, Except.pure]

lemma routerRtpCapabilities_ok {sfu : SfuManager} {roomId : String} :
    (∃ v, (sfu.routerRtpCapabilities roomId w).2 = .ok v) ↔
      ((∃ room, sfu.get roomId = some room) ∨ w.router = .ok ()) ∧ ∃ v, w.capabilities = .ok v := by
  rw [SfuManager.routerRtpCapabilities, SfuManager.ensureRouter]
  cases hroom : sfu.get roomId with
  | some room => cases hc : w.capabilities <;> simp
  | none =>
    cases hr : w.router with
    | ok u => cases hc : w.capabilities <;> simp
    | failed e => simp
    | elapsed => simp

open SignalingServer

lemma sfuOrRelay_reply (msg : SignalingMessage) :
    (s.sfuOrRelay c msg w).reply = (s.handleSfuMessage c msg w).2 := by
  rw [sfuOrRelay]
  split <;> rename_i h <;> rw [h]

def Fifo (r : Option SignalingMessage) : Prop := ∃ m, r = some m ∧ isFifoResponse m = true

lemma fifo_fail (code : ℕ) (message : String) : Fifo (s.fail code message).2 := ⟨_, rfl, rfl⟩

lemma not_fifo_none : ¬Fifo none := by
  rintro ⟨_, h, _⟩
  cases h

lemma not_fifo_some {m : SignalingMessage} (h : isFifoResponse m = false) : ¬Fifo (some m) := by
  rintro ⟨_, he, hf⟩
  cases he
  rw [h] at hf
  cases hf

lemma createTransport_fifo (roomId peer : String) (direction : TransportDirection) :
    Fifo (s.handleCreateTransport c roomId peer direction w).2 := by
  rw [handleCreateTransport]
  split
  · exact ⟨_, rfl, rfl⟩
  · apply fifo_fail
  · apply fifo_fail

lemma connectTransport_fifo (roomId peer transportId : String) :
    Fifo (s.handleConnectTransport roomId peer transportId w).2 := by
  rw [handleConnectTransport]
  split <;> apply fifo_fail

lemma preferredLayers_fifo (roomId peer consumerId : String) :
    Fifo (s.handlePreferredLayers roomId peer consumerId w).2 := by
  rw [handlePreferredLayers]
  split <;> apply fifo_fail

lemma produce_fifo (roomId peer : String) (direction : TransportDirection) (kind : MediaKind)
    (transportId label : Option String) :
    Fifo (s.handleProduce c roomId peer direction kind transportId label w).2 := by
  rw [handleProduce]
  split
  · apply fifo_fail
  · split
    · apply fifo_fail
    · exact ⟨_, rfl, rfl⟩

lemma consume_fifo (roomId peer producerId : String) (transportId : Option String) :
    Fifo (s.handleConsume c roomId peer producerId transportId w).2 := by
  rw [handleConsume]
  split
  · apply fifo_fail
  · split
    · apply fifo_fail
    · exact ⟨_, rfl, rfl⟩

lemma stats_fifo (producerId consumerId : Option String) :
    Fifo (s.handleStatsRequest c producerId consumerId w).2 := by
  simp only [handleStatsRequest]
  split
  · apply fifo_fail
  · rename_i qid hq
    split
    · apply fifo_fail
    · split
      · split
        · exact ⟨_, rfl, rfl⟩
        · apply fifo_fail
      · split
        · exact ⟨_, rfl, rfl⟩
        · apply fifo_fail
      · cases hq

lemma routerCapabilities_fifo (roomId : String) :
    Fifo (s.handleRouterCapabilities roomId w).2 ↔
      ¬(((∃ room, s.sfuManager.get roomId = some room) ∨ w.router = .ok ()) ∧
        ∃ v, w.capabilities = .ok v) := by
  rw [← routerRtpCapabilities_ok, handleRouterCapabilities]
  generalize s.sfuManager.routerRtpCapabilities roomId w = r
  obtain ⟨sfu, a⟩ := r
  cases a with
  | ok v => exact iff_of_false (not_fifo_some rfl) (not_not.mpr ⟨v, rfl⟩)
  | failed e => exact iff_of_true (fifo_fail _ _ _) (by simp)
  | elapsed => exact iff_of_true (fifo_fail _ _ _) (by simp)

lemma createDataProducer_fifo (roomId peer : String) (direction : TransportDirection)
    (label protocol : String) (sctp : Option SctpStreamParameters) (transportId : Option String) :
    Fifo (s.handleCreateDataProducer c roomId peer direction label protocol sctp transportId w).2 ↔
      ¬(dataProduceDenied c roomId direction = none ∧ ∃ x, s.sfuManager.createDataProducer roomId peer
        label protocol sctp transportId w = .ok x) := by
  rw [handleCreateDataProducer]
  cases dataProduceDenied c roomId direction with
  | some denied => exact iff_of_true (fifo_fail _ _ _) (by simp)
  | none =>
    dsimp only
    cases s.sfuManager.createDataProducer roomId peer label protocol sctp transportId w with
    | error e => exact iff_of_true (fifo_fail _ _ _) (by simp)
    | ok x => exact iff_of_false (not_fifo_some rfl) (not_not.mpr ⟨rfl, x, rfl⟩)

lemma consumeData_fifo (roomId peer : String) (direction : TransportDirection)
    (dataProducerId : String) (transportId : Option String) :
    Fifo (s.handleConsumeData c roomId peer direction dataProducerId transportId w).2 ↔
      ¬(direction = .recv ∧ c.identity.canConsume (s.producerOwners.get dataProducerId) = .ok () ∧
        ∃ x, s.sfuManager.createDataConsumer roomId peer dataProducerId transportId w = .ok x) := by
  rw [handleConsumeData]
  by_cases hd : direction = .recv
  · rw [if_neg (not_not.mpr hd)]
    cases c.identity.canConsume (s.producerOwners.get dataProducerId) with
    | error reason => exact iff_of_true (fifo_fail _ _ _) (by simp)
    | ok u =>
      dsimp only
      cases s.sfuManager.createDataConsumer roomId peer dataProducerId transportId w with
      | error e => exact iff_of_true (fifo_fail _ _ _) (by simp)
      | ok x => exact iff_of_false (not_fifo_some rfl) (not_not.mpr ⟨hd, rfl, x, rfl⟩)
  · rw [if_pos hd]
    exact iff_of_true (fifo_fail _ _ _) (fun h => hd h.1)

lemma statusReport_fifo (report : SignalingMessage) (streams : List StreamFlowJson) :
    Fifo (s.handleStatusReport c report streams).2 ↔
      ¬statusReportDenialReason c.identity c.role = none := by
  rw [handleStatusReport]
  cases statusReportDenialReason c.identity c.role with
  | some reason => exact iff_of_true (fifo_fail _ _ _) (by simp)
  | none => exact iff_of_false not_fifo_none (by simp)

lemma emergency_fifo (msg : SignalingMessage) :
    Fifo (s.handleEmergency c msg).2 ↔
      ¬c.identity.canEmergency (s.roomOwnerOf c.roomId) = .ok () := by
  rw [handleEmergency]
  cases c.identity.canEmergency (s.roomOwnerOf c.roomId) with
  | error reason => exact iff_of_true (fifo_fail _ _ _) (by simp)
  | ok u => exact iff_of_false not_fifo_none (by simp)

lemma answeredByFifo_iff (msg : SignalingMessage) :
    AnsweredByFifo s c w msg ↔ isSfuRequest msg = true ∨ ¬Unremarked s c w msg := by
  have hsfu : ∀ {m}, (s.relayMessage c m w).reply = (s.sfuOrRelay c m w).reply →
      (AnsweredByFifo s c w m ↔ Fifo (s.handleSfuMessage c m w).2) := by
    intro m hm
    rw [AnsweredByFifo, hm, sfuOrRelay_reply]
    rfl
  have hnone : ∀ {m}, (s.relayMessage c m w).reply = none → isSfuRequest m = false →
      Unremarked s c w m → (AnsweredByFifo s c w m ↔ isSfuRequest m = true ∨ ¬Unremarked s c w m) := by
    intro m hm hr hu
    rw [AnsweredByFifo, hm, hr]
    exact iff_of_false not_fifo_none (by simp [hu])
  have hother : ∀ {m}, isSfuRequest m = false → (AnsweredByFifo s c w m ↔ ¬Unremarked s c w m) →
      (AnsweredByFifo s c w m ↔ isSfuRequest m = true ∨ ¬Unremarked s c w m) := by
    intro m hr h
    rw [h, hr]
    simp
  cases msg with
  | createWebRtcTransport => exact iff_of_true ((hsfu rfl).mpr (createTransport_fifo ..)) (Or.inl rfl)
  | connectWebRtcTransport =>
    exact iff_of_true ((hsfu rfl).mpr (connectTransport_fifo ..)) (Or.inl rfl)
  | produce => exact iff_of_true ((hsfu rfl).mpr (produce_fifo ..)) (Or.inl rfl)
  | consume => exact iff_of_true ((hsfu rfl).mpr (consume_fifo ..)) (Or.inl rfl)
  | sfuStatsRequest => exact iff_of_true ((hsfu rfl).mpr (stats_fifo ..)) (Or.inl rfl)
  | setPreferredLayers =>
    exact iff_of_true ((hsfu rfl).mpr (preferredLayers_fifo ..)) (Or.inr not_false)
  | getRouterRtpCapabilities roomId =>
    exact hother rfl ((hsfu rfl).trans (routerCapabilities_fifo s w roomId))
  | createDataProducer roomId peer direction label protocol sctp transportId =>
    have h := createDataProducer_fifo s c w roomId peer direction label protocol sctp transportId
    rw [createDataProducer_isOk] at h
    exact hother rfl ((hsfu rfl).trans h)
  | consumeData roomId peer direction dataProducerId transportId =>
    have h := consumeData_fifo s c w roomId peer direction dataProducerId transportId
    rw [createDataConsumer_isOk] at h
    exact hother rfl ((hsfu rfl).trans h)
  | statusReport => exact hother rfl (statusReport_fifo s c _ _)
  | emergencyCommand => exact hother rfl (emergency_fifo s c _)
  | configPush => exact iff_of_true ⟨_, rfl, rfl⟩ (Or.inr not_false)
  | downstreamGone gone room =>
    refine hnone ?_ rfl trivial
    change (s.sfuOrRelay c (.downstreamGone gone room) w).reply = none
    rw [sfuOrRelay_reply, handleSfuMessage, handleDownstreamGone]
    split <;> rfl
  | _ => exact hnone rfl rfl trivial

end Replies

theorem classification_agreement (st : State) (connId : ℕ) (msg m : SignalingMessage)
    (hf : (st.upstream connId msg).2 = .forward m) (s : SignalingServer) (c : Session) (w : Worker) :
    (AnsweredByFifo s c w m ↔ (st.upstream connId msg).1.pending = st.pending ++ [connId]) ↔
      Unremarked s c w m := by
  have hcounted : (st.upstream connId msg).1.pending = st.pending ++ [connId] ↔
      isSfuRequest m = true := by
    rw [st.upstream_pending connId msg, hf, List.append_cancel_left_eq, slot]
    split_ifs with h <;> simp [h]
  rw [hcounted, answeredByFifo_iff]
  by_cases hr : isSfuRequest m = true
  · have hu : Unremarked s c w m := by
      cases m <;> trivial
    simp [hr, hu]
  · simp [hr]

def connected : State :=
  (run Gateway.step (.init "vehicle") [.accept, .accept, .connect "v" 3 none]).state

def vehicleSession : Session := ⟨"v", "vehicle", .host, .device "car", 3⟩

theorem classification_agreement_transport :
    (connected.upstream 1 createTransport).2 = .forward createTransport ∧
      Unremarked .init vehicleSession (willing "t") createTransport ∧
      (AnsweredByFifo .init vehicleSession (willing "t") createTransport ↔
        (connected.upstream 1 createTransport).1.pending = connected.pending ++ [1]) := by
  have hf : (connected.upstream 1 createTransport).2 = .forward createTransport := by decide
  refine ⟨hf, trivial, ?_⟩
  exact (classification_agreement connected 1 _ _ hf .init vehicleSession (willing "t")).mpr trivial

theorem preferred_layers_answer_misrouted :
    let layers : SignalingMessage := .setPreferredLayers "vehicle" "host" "c" 0 none
    let st := (connected.upstream 2 layers).1
    let answer := (SignalingServer.init.relayMessage vehicleSession layers (willing "t")).reply
    (connected.upstream 2 layers).2 = .forward layers ∧ st.pending = connected.pending ∧
      answer = some (.error 5000 "SetPreferredLayers failed: Room vehicle not found") ∧
      (answer.map (fun r => ((st.upstream 1 createTransport).1.downstream r).2)) =
        some [(1, .error 5000 "SetPreferredLayers failed: Room vehicle not found")] := by
  decide

end MediaServo.Host
