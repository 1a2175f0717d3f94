import MediaServo.Server.State

/-! SFU requests: what the server does with a transport, produce, consume or statistics request
and what it answers. -/

namespace MediaServo.Server

open MediaServo.Foundations MediaServo.Common

def debugKind : MediaKind → String
  | .audio => "Audio"
  | .video => "Video"
  | .data => "Data"

def atRoom (reason peerId roomId : String) : String := s!"{reason} (peer={peerId}, room={roomId})"

structure Session where
  peerId : String
  roomId : String
  role : PeerRole
  identity : SessionIdentity
  negotiated : ℕ
  deriving DecidableEq

abbrev Reply := SignalingServer × Option SignalingMessage

namespace SignalingServer

def fail (s : SignalingServer) (code : ℕ) (message : String) : Reply := (s, some (.error code message))

def ownerKey (s : SignalingServer) (peerId : String) : String :=
  (s.deviceIdOf peerId).getD (sessionKey peerId)

def handleCreateTransport (s : SignalingServer) (c : Session) (roomId sfuPeerId : String)
    (direction : TransportDirection) (w : Worker) : Reply :=
  match s.sfuManager.createWebrtcTransport roomId sfuPeerId direction w with
  | (sfu, .ok t) =>
      ({ s with sfuManager := sfu }, some (.webRtcTransportCreated roomId c.peerId t.transportId
        t.iceParameters t.dtlsParameters (some t.iceCandidates) t.sctpParameters))
  | (sfu, .failed e) => ({ s with sfuManager := sfu }).fail 5000 s!"Transport creation failed: {e}"
  | (sfu, .elapsed) => ({ s with sfuManager := sfu }).fail 5000 "Transport creation timed out"

def handleConnectTransport (s : SignalingServer) (roomId sfuPeerId transportId : String)
    (w : Worker) : Reply :=
  match s.sfuManager.connectTransport roomId sfuPeerId transportId w with
  | .ok () => s.fail 0 "transport_connected"
  | .error e => s.fail 5000 s!"Connect failed: {e}"

def handleRouterCapabilities (s : SignalingServer) (roomId : String) (w : Worker) : Reply :=
  match s.sfuManager.routerRtpCapabilities roomId w with
  | (sfu, .ok v) => ({ s with sfuManager := sfu }, some (.routerRtpCapabilities roomId v))
  | (sfu, .failed e) =>
      ({ s with sfuManager := sfu }).fail 5000 s!"GetRouterRtpCapabilities failed: {e}"
  | (sfu, .elapsed) => ({ s with sfuManager := sfu }).fail 5000 "GetRouterRtpCapabilities timed out"

def handlePreferredLayers (s : SignalingServer) (roomId sfuPeerId consumerId : String)
    (w : Worker) : Reply :=
  match s.sfuManager.setPreferredLayers roomId sfuPeerId consumerId w with
  | .ok () => s.fail 0 "preferred_layers_set"
  | .failed e => s.fail 5000 s!"SetPreferredLayers failed: {e}"
  | .elapsed => s.fail 5000 "SetPreferredLayers timed out"

def produceDenied (c : Session) (roomId : String) (direction : TransportDirection)
    (kind : MediaKind) : Option (ℕ × String) :=
  if direction ≠ .send then some (4000, "Produce requires send transport")
  else
    match c.identity.canProduce roomId with
    | .error reason => some (4031, atRoom reason c.peerId roomId)
    | .ok () =>
        if isAudioRoom roomId ∧ kind ≠ .audio then
          some (4031, s!"audio rooms allow audio producers only (peer={c.peerId}, " ++
            s!"room={roomId}, kind={debugKind kind})")
        else none

def handleProduce (s : SignalingServer) (c : Session) (roomId sfuPeerId : String)
    (direction : TransportDirection) (kind : MediaKind) (transportId label : Option String)
    (w : Worker) : Reply :=
  match produceDenied c roomId direction kind with
  | some (code, detail) => s.fail code detail
  | none =>
      match s.sfuManager.createProducer roomId sfuPeerId kind transportId label w with
      | .error e => s.fail 5000 s!"Producer creation failed: {e}"
      | .ok (sfu, id) =>
          let owned := { s with
            sfuManager := sfu
            producerOwners := s.producerOwners.set id (s.ownerKey c.peerId) }
          (owned.send roomId (.newProducer roomId id c.peerId kind label),
            some (.produced roomId id))

def handleConsume (s : SignalingServer) (c : Session) (roomId sfuPeerId producerId : String)
    (transportId : Option String) (w : Worker) : Reply :=
  match c.identity.canConsume (s.producerOwners.get producerId) with
  | .error reason => s.fail 4031 (atRoom reason c.peerId roomId)
  | .ok () =>
      match s.sfuManager.createConsumer roomId sfuPeerId producerId transportId w with
      | .error e => s.fail 5000 s!"Consumer creation failed: {e}"
      | .ok (sfu, id, kind, rtp) =>
          ({ s with sfuManager := sfu }, some (.consumed roomId id producerId kind rtp))

def dataProduceDenied (c : Session) (roomId : String) (direction : TransportDirection) :
    Option (ℕ × String) :=
  if direction ≠ .send then some (4000, "CreateDataProducer requires send transport")
  else
    match c.identity.canProduce roomId with
    | .ok () => none
    | .error reason =>
        if c.identity.canControl then
          if protocolMinControlDc ≤ c.negotiated then none
          else some (4012, s!"control_denied: requires_protocol>={protocolMinControlDc} " ++
            s!"negotiated={c.negotiated} (peer={c.peerId}, room={roomId})")
        else some (4012, s!"control_denied: {reason} (peer={c.peerId}, room={roomId})")

def handleCreateDataProducer (s : SignalingServer) (c : Session) (roomId sfuPeerId : String)
    (direction : TransportDirection) (label protocol : String) (sctp : Option SctpStreamParameters)
    (transportId : Option String) (w : Worker) : Reply :=
  match dataProduceDenied c roomId direction with
  | some (code, detail) => s.fail code detail
  | none =>
      match s.sfuManager.createDataProducer roomId sfuPeerId label protocol sctp transportId w with
      | .error e => s.fail 5000 s!"DataProducer creation failed: {e}"
      | .ok (sfu, id) =>
          let owned := { s with
            sfuManager := sfu
            producerOwners := s.producerOwners.set id (s.ownerKey c.peerId) }
          (owned.send roomId (.newDataProducer roomId id c.peerId label protocol),
            some (.dataProducerCreated roomId id))

def handleConsumeData (s : SignalingServer) (c : Session) (roomId sfuPeerId : String)
    (direction : TransportDirection) (dataProducerId : String) (transportId : Option String)
    (w : Worker) : Reply :=
  if direction ≠ .recv then s.fail 4000 "ConsumeData requires recv transport"
  else
    match c.identity.canConsume (s.producerOwners.get dataProducerId) with
    | .error reason => s.fail 4031 (atRoom reason c.peerId roomId)
    | .ok () =>
        match s.sfuManager.createDataConsumer roomId sfuPeerId dataProducerId transportId w with
        | .error e => s.fail 5000 s!"DataConsumer creation failed: {e}"
        | .ok (sfu, r) =>
            ({ s with sfuManager := sfu }, some (.dataConsumed roomId r.dataConsumerId
              dataProducerId r.sctpStreamParameters r.label r.protocol))

def handleStatsRequest (s : SignalingServer) (c : Session) (producerId consumerId : Option String)
    (w : Worker) : Reply :=
  match producerId.or consumerId with
  | none => s.fail 4000 "SfuStatsRequest requires producer_id or consumer_id"
  | some qid =>
      match c.identity.canConsume (s.producerOwners.get qid) with
      | .error reason => s.fail 4031 s!"{reason} (peer={c.peerId})"
      | .ok () =>
          match producerId, consumerId with
          | some pid, _ =>
              match s.sfuManager.producerStats pid w with
              | .ok (kind, bytes, packets, score) =>
                  (s, some (.sfuStats (some pid) none (some kind) bytes packets score))
              | .error e => s.fail 5000 e
          | none, some cid =>
              match s.sfuManager.consumerStats cid w with
              | .ok (kind, bytes, packets, score) =>
                  (s, some (.sfuStats none (some cid) (some kind) bytes packets score))
              | .error e => s.fail 5000 e
          | none, none => (s, none)

def handleDownstreamGone (s : SignalingServer) (c : Session) (gonePeer roomId : String) : Reply :=
  match s.deviceIdOf c.peerId with
  | none => (s, none)
  | some device =>
      let removed := s.sfuManager.removePeerInRoom roomId gonePeer
      (({ s with sfuManager := removed.1 }).announceProducersClosed roomId gonePeer (some device)
        removed.2, none)

def handleSfuMessage (s : SignalingServer) (c : Session) (msg : SignalingMessage) (w : Worker) :
    Reply :=
  match msg with
  | .createWebRtcTransport roomId peer direction => s.handleCreateTransport c roomId peer direction w
  | .connectWebRtcTransport roomId peer transportId _ =>
      s.handleConnectTransport roomId peer transportId w
  | .controlAudit _ _ _ _ => (s, none)
  | .getRouterRtpCapabilities roomId => s.handleRouterCapabilities roomId w
  | .setPreferredLayers roomId peer consumerId _ _ =>
      s.handlePreferredLayers roomId peer consumerId w
  | .produce roomId peer direction kind _ transportId label =>
      s.handleProduce c roomId peer direction kind transportId label w
  | .consume roomId peer producerId _ transportId =>
      s.handleConsume c roomId peer producerId transportId w
  | .createDataProducer roomId peer direction label protocol sctp transportId =>
      s.handleCreateDataProducer c roomId peer direction label protocol sctp transportId w
  | .consumeData roomId peer direction dataProducerId transportId =>
      s.handleConsumeData c roomId peer direction dataProducerId transportId w
  | .sfuStatsRequest producerId consumerId => s.handleStatsRequest c producerId consumerId w
  | .downstreamGone gonePeer roomId => s.handleDownstreamGone c gonePeer roomId
  | _ => (s, none)

end SignalingServer

end MediaServo.Server
