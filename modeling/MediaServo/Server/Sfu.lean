import MediaServo.Foundations.FiniteMap
import MediaServo.Server.Roles

/-! The SFU manager: rooms, their peers and what the peers hold. The media worker is outside
the repository; `Worker` carries what it answers to the calls made for one request. -/

namespace MediaServo.Server

open MediaServo.Foundations MediaServo.Common

structure Producer where
  id : String
  kind : MediaKind
  deriving DecidableEq

structure MediaConsumer where
  id : String
  producerId : String
  kind : MediaKind
  deriving DecidableEq

structure DataProducer where
  id : String
  label : String
  protocol : String
  deriving DecidableEq

structure DataConsumer where
  id : String
  dataProducerId : String
  deriving DecidableEq

structure SfuPeer where
  sendTransports : List String
  recvTransports : List String
  producers : List Producer
  consumers : List MediaConsumer
  dataProducers : List DataProducer
  dataConsumers : List DataConsumer
  producerTransports : FiniteMap String String
  dataProducerTransports : FiniteMap String String

structure SfuRoom where
  peers : FiniteMap String SfuPeer
  producerLabels : FiniteMap String String

abbrev SfuManager := FiniteMap String SfuRoom

structure TransportCreated where
  transportId : String
  iceParameters : IceParameters
  dtlsParameters : DtlsParameters
  iceCandidates : List IceCandidate
  sctpParameters : Option JsonValue
  deriving DecidableEq

inductive Answer (α : Type)
  | ok (a : α)
  | failed (e : String)
  | elapsed

structure DataConsumeResult where
  dataConsumerId : String
  sctpStreamParameters : Option SctpStreamParameters
  label : String
  protocol : String

/-- What the media worker, and the conversions into its types, answer during one request. -/
structure Worker where
  router : Answer Unit
  transport : Answer TransportCreated
  dtls : Except String Unit
  connect : Except String Unit
  capabilities : Except String JsonValue
  layers : Answer Unit
  rtpParameters : Except String Unit
  produce : Except String String
  rtpCapabilities : Except String Unit
  consume : Except String (String × JsonValue)
  produceData : Except String String
  consumeData : Except String DataConsumeResult
  stats : Except String (ℕ × ℕ × ℕ)

namespace SfuPeer

def empty : SfuPeer := ⟨[], [], [], [], [], [], ∅, ∅⟩

def sendTransport (p : SfuPeer) : Option String → Option String
  | some id => p.sendTransports.find? (· == id)
  | none => p.sendTransports.getLast?

def recvTransport (p : SfuPeer) : Option String → Option String
  | some id => p.recvTransports.find? (· == id)
  | none => p.recvTransports.getLast?

def pushTransport (p : SfuPeer) (direction : TransportDirection) (id : String) : SfuPeer :=
  match direction with
  | .send => { p with sendTransports := p.sendTransports ++ [id] }
  | .recv => { p with recvTransports := p.recvTransports ++ [id] }

def closed (p : SfuPeer) : List (String × MediaKind) := p.producers.map (fun x => (x.id, x.kind))

def hits (p : SfuPeer) (ids : List String) : List (String × MediaKind) :=
  (p.producers.filter (fun x => x.id ∈ ids)).map (fun x => (x.id, x.kind)) ++
    (p.dataProducers.filter (fun x => x.id ∈ ids)).map (fun x => (x.id, MediaKind.data))

def strip (p : SfuPeer) (ids gone : List String) : SfuPeer :=
  { p with
    producers := p.producers.filter (fun x => x.id ∉ ids)
    dataProducers := p.dataProducers.filter (fun x => x.id ∉ ids)
    dataConsumers := p.dataConsumers.filter (fun x => x.dataProducerId ∉ gone)
    producerTransports :=
      p.producerTransports.retain (fun k _ => k ∉ (p.hits ids).map Prod.fst)
    dataProducerTransports :=
      p.dataProducerTransports.retain (fun k _ => k ∉ (p.hits ids).map Prod.fst) }

end SfuPeer

namespace SfuManager

def peer (sfu : SfuManager) (roomId peerId : String) : Option SfuPeer :=
  (sfu.get roomId).bind (fun r => r.peers.get peerId)

def ensureRouter (sfu : SfuManager) (roomId : String) (w : Worker) : SfuManager × Answer Unit :=
  match sfu.get roomId with
  | some _ => (sfu, .ok ())
  | none =>
      match w.router with
      | .ok () => (sfu.set roomId ⟨∅, ∅⟩, .ok ())
      | .failed e => (sfu, .failed s!"Failed to create router: {e}")
      | .elapsed => (sfu, .elapsed)

def setPeer (sfu : SfuManager) (roomId peerId : String) (f : SfuPeer → SfuPeer) : SfuManager :=
  sfu.adjust roomId (fun r =>
    { r with peers := r.peers.set peerId (f ((r.peers.get peerId).getD SfuPeer.empty)) })

def createWebrtcTransport (sfu : SfuManager) (roomId peerId : String)
    (direction : TransportDirection) (w : Worker) : SfuManager × Answer TransportCreated :=
  match ensureRouter sfu roomId w with
  | (sfu₁, .failed e) => (sfu₁, .failed e)
  | (sfu₁, .elapsed) => (sfu₁, .elapsed)
  | (sfu₁, .ok ()) =>
      match w.transport with
      | .failed e => (sfu₁, .failed s!"Failed to create transport: {e}")
      | .elapsed => (sfu₁, .elapsed)
      | .ok t => (sfu₁.setPeer roomId peerId (·.pushTransport direction t.transportId), .ok t)

def routerRtpCapabilities (sfu : SfuManager) (roomId : String) (w : Worker) :
    SfuManager × Answer JsonValue :=
  match ensureRouter sfu roomId w with
  | (sfu₁, .failed e) => (sfu₁, .failed e)
  | (sfu₁, .elapsed) => (sfu₁, .elapsed)
  | (sfu₁, .ok ()) =>
      match w.capabilities with
      | .ok v => (sfu₁, .ok v)
      | .error e => (sfu₁, .failed s!"rtp_capabilities serialization failed: {e}")

def lookupPeer (sfu : SfuManager) (roomId peerId missing : String) : Except String SfuPeer :=
  match sfu.get roomId with
  | none => .error missing
  | some room =>
      match room.peers.get peerId with
      | none => .error s!"Peer {peerId} not found in room {roomId}"
      | some p => .ok p

def setPreferredLayers (sfu : SfuManager) (roomId peerId consumerId : String) (w : Worker) :
    Answer Unit :=
  match sfu.lookupPeer roomId peerId s!"Room {roomId} not found" with
  | .error e => .failed e
  | .ok p =>
      match p.consumers.find? (fun c => c.id == consumerId) with
      | none => .failed s!"Consumer {consumerId} not found for peer {peerId}"
      | some _ =>
          match w.layers with
          | .ok () => .ok ()
          | .failed e => .failed s!"set_preferred_layers failed: {e}"
          | .elapsed => .elapsed

def connectTransport (sfu : SfuManager) (roomId peerId transportId : String) (w : Worker) :
    Except String Unit := do
  w.dtls
  let p ← sfu.lookupPeer roomId peerId s!"Room {roomId} not found for connect"
  match (p.sendTransports ++ p.recvTransports).find? (· == transportId) with
  | none => throw s!"Transport {transportId} not found for peer {peerId}"
  | some _ => w.connect.mapError (fun e => s!"Failed to connect transport: {e}")

def noTransport (direction peerId : String) (transportId : Option String) : String :=
  let shown := match transportId with
    | some t => "Some(\"" ++ t ++ "\")"
    | none => "None"
  s!"No {direction} transport for peer {peerId} (transport_id={shown})"

def createProducer (sfu : SfuManager) (roomId peerId : String) (kind : MediaKind)
    (transportId label : Option String) (w : Worker) : Except String (SfuManager × String) := do
  w.rtpParameters.mapError (fun e => s!"Invalid RTP parameters: {e}")
  if kind = .data then throw "MediaKind::Data is broadcast-only, not producible"
  let p ← sfu.lookupPeer roomId peerId s!"Room {roomId} not found for produce"
  match p.sendTransport transportId with
  | none => throw (noTransport "send" peerId transportId)
  | some t =>
      let id ← w.produce.mapError (fun e => s!"Failed to create producer: {e}")
      let stored := sfu.setPeer roomId peerId (fun p =>
        { p with
          producers := p.producers ++ [⟨id, kind⟩]
          producerTransports := p.producerTransports.set id t })
      match label with
      | none => return (stored, id)
      | some l =>
          return (stored.adjust roomId (fun r =>
            { r with producerLabels := r.producerLabels.set id l }), id)

def findProducer (room : SfuRoom) (producerId : String) : Option Producer :=
  room.peers.toList.findSome? (fun e => e.2.producers.find? (fun x => x.id == producerId))

def createConsumer (sfu : SfuManager) (roomId peerId producerId : String)
    (transportId : Option String) (w : Worker) :
    Except String (SfuManager × String × MediaKind × JsonValue) := do
  w.rtpCapabilities.mapError (fun e => s!"Invalid RTP capabilities: {e}")
  match sfu.get roomId with
  | none => throw s!"Room {roomId} not found for consume"
  | some room =>
      match findProducer room producerId with
      | none => throw s!"Producer {producerId} not found in room {roomId}"
      | some x =>
          let p ← sfu.lookupPeer roomId peerId s!"Room {roomId} not found"
          match p.recvTransport transportId with
          | none => throw (noTransport "recv" peerId transportId)
          | some _ =>
              let (id, rtp) ← w.consume.mapError (fun e => s!"Failed to create consumer: {e}")
              return (sfu.setPeer roomId peerId (fun p =>
                { p with consumers := p.consumers ++ [⟨id, producerId, x.kind⟩] }), id, x.kind, rtp)

def createDataProducer (sfu : SfuManager) (roomId peerId label protocol : String)
    (sctp : Option SctpStreamParameters) (transportId : Option String) (w : Worker) :
    Except String (SfuManager × String) := do
  if sctp.isNone then throw "sctp_stream_parameters required for SCTP data producer"
  let p ← sfu.lookupPeer roomId peerId s!"Room {roomId} not found for produce_data"
  match p.sendTransport transportId with
  | none => throw (noTransport "send" peerId transportId)
  | some t =>
      let id ← w.produceData.mapError (fun e => s!"Failed to create data producer: {e}")
      return (sfu.setPeer roomId peerId (fun p =>
        { p with
          dataProducers := p.dataProducers ++ [⟨id, label, protocol⟩]
          dataProducerTransports := p.dataProducerTransports.set id t }), id)

def findDataProducer (room : SfuRoom) (dataProducerId : String) : Option DataProducer :=
  room.peers.toList.findSome? (fun e => e.2.dataProducers.find? (fun x => x.id == dataProducerId))

def createDataConsumer (sfu : SfuManager) (roomId peerId dataProducerId : String)
    (transportId : Option String) (w : Worker) :
    Except String (SfuManager × DataConsumeResult) := do
  match sfu.get roomId with
  | none => throw s!"Room {roomId} not found for consume_data"
  | some room =>
      match findDataProducer room dataProducerId with
      | none => throw s!"DataProducer {dataProducerId} not found in room {roomId}"
      | some _ =>
          let p ← sfu.lookupPeer roomId peerId s!"Room {roomId} not found"
          match p.recvTransport transportId with
          | none => throw (noTransport "recv" peerId transportId)
          | some _ =>
              let r ← w.consumeData.mapError (fun e => s!"Failed to create data consumer: {e}")
              return (sfu.setPeer roomId peerId (fun p =>
                { p with dataConsumers := p.dataConsumers ++ [⟨r.dataConsumerId, dataProducerId⟩] }), r)

def producerStats (sfu : SfuManager) (producerId : String) (w : Worker) :
    Except String (MediaKind × ℕ × ℕ × ℕ) :=
  match sfu.toList.findSome? (fun e => findProducer e.2 producerId) with
  | none => .error s!"Producer {producerId} not found"
  | some x =>
      match w.stats with
      | .ok (bytes, packets, score) => .ok (x.kind, bytes, packets, score)
      | .error e => .error s!"Producer stats: {e}"

def consumerStats (sfu : SfuManager) (consumerId : String) (w : Worker) :
    Except String (MediaKind × ℕ × ℕ × ℕ) :=
  match sfu.toList.findSome? (fun e => e.2.peers.toList.findSome? (fun q =>
      q.2.consumers.find? (fun c => c.id == consumerId))) with
  | none => .error s!"Consumer {consumerId} not found"
  | some c =>
      match w.stats with
      | .ok (bytes, packets, score) => .ok (c.kind, bytes, packets, score)
      | .error e => .error s!"Consumer stats: {e}"

def removeRoom (sfu : SfuManager) (roomId : String) : SfuManager := sfu.remove roomId

def removePeerGlobal (sfu : SfuManager) (peerId : String) :
    SfuManager × List (String × List (String × MediaKind)) :=
  let emptied (r : SfuRoom) : Bool := r.peers.contains peerId && (r.peers.remove peerId).size == 0
  ((sfu.retain (fun _ r => !emptied r)).mapValues
      (fun _ r => { r with peers := r.peers.remove peerId }),
    sfu.toList.filterMap (fun e => (e.2.peers.get peerId).map (fun p => (e.1, p.closed))))

def removePeerInRoom (sfu : SfuManager) (roomId peerId : String) :
    SfuManager × List (String × MediaKind) :=
  match sfu.get roomId with
  | none => (sfu, [])
  | some room =>
      match room.peers.get peerId with
      | none => (sfu, [])
      | some p =>
          let left := room.peers.remove peerId
          if left.size == 0 then (sfu.removeRoom roomId, p.closed)
          else (sfu.set roomId { room with peers := left }, p.closed)

def goneDataProducers (sfu : SfuManager) (ids : List String) : List String :=
  sfu.toList.flatMap (fun e => e.2.peers.toList.flatMap (fun q =>
    (q.2.dataProducers.filter (fun x => x.id ∈ ids)).map DataProducer.id))

def removeProducersByIds (sfu : SfuManager) (ids : List String) :
    SfuManager × List (String × String × MediaKind) :=
  (sfu.mapValues (fun _ r =>
      { r with peers := r.peers.mapValues (fun _ p => p.strip ids (sfu.goneDataProducers ids)) }),
    sfu.toList.flatMap (fun e => e.2.peers.toList.flatMap (fun q =>
      (q.2.hits ids).map (fun h => (e.1, h)))))

def listProducers (sfu : SfuManager) (roomId : String) :
    Option (List (String × MediaKind × String × Option String)) :=
  (sfu.get roomId).map (fun r => r.peers.toList.flatMap (fun q =>
    q.2.producers.map (fun x => (x.id, x.kind, q.1, r.producerLabels.get x.id))))

def listDataProducers (sfu : SfuManager) (roomId : String) :
    Option (List (String × String × String)) :=
  (sfu.get roomId).map (fun r => r.peers.toList.flatMap (fun q =>
    q.2.dataProducers.map (fun x => (x.id, x.label, q.1))))

def roomHasProducers (sfu : SfuManager) (roomId : String) : Bool :=
  match sfu.get roomId with
  | none => false
  | some r => r.peers.toList.any (fun q => !q.2.producers.isEmpty)

end SfuManager

def shouldTeardown (roomRemoved hasProducers : Bool) : Bool := roomRemoved && !hasProducers

def shouldDeferredCleanup (roomGone hasProducers : Bool) : Bool := roomGone && !hasProducers

namespace SfuManager

def removePeer (sfu : SfuManager) (roomId peerId : String) : SfuManager × Bool :=
  match sfu.get roomId with
  | none => (sfu, false)
  | some room =>
      if room.peers.contains peerId then
        let left := room.peers.remove peerId
        if left.size == 0 then (sfu.removeRoom roomId, true)
        else (sfu.set roomId { room with peers := left }, true)
      else (sfu, false)

def label (sfu : SfuManager) (roomId producerId : String) : Option String :=
  (sfu.get roomId).bind (fun r => r.producerLabels.get producerId)

end SfuManager

inductive SfuOp
  | createWebrtcTransport (roomId peerId : String) (direction : TransportDirection) (w : Worker)
  | createProducer (roomId peerId : String) (kind : MediaKind) (transportId label : Option String)
      (w : Worker)
  | createConsumer (roomId peerId producerId : String) (transportId : Option String) (w : Worker)
  | createDataProducer (roomId peerId label protocol : String) (sctp : Option SctpStreamParameters)
      (transportId : Option String) (w : Worker)
  | createDataConsumer (roomId peerId dataProducerId : String) (transportId : Option String)
      (w : Worker)
  | removePeer (roomId peerId : String)
  | removePeerGlobal (peerId : String)
  | removePeerInRoom (roomId peerId : String)
  | removeProducersByIds (ids : List String)
  | removeRoom (roomId : String)

def SfuOp.produced : SfuOp → Option String
  | .createProducer _ _ _ _ _ w => w.produce.toOption
  | _ => none

namespace SfuManager

def orSame {α : Type} (sfu : SfuManager) : Except String (SfuManager × α) → SfuManager
  | .ok (sfu', _) => sfu'
  | .error _ => sfu

def step (sfu : SfuManager) : SfuOp → SfuManager
  | .createWebrtcTransport r p d w => (sfu.createWebrtcTransport r p d w).1
  | .createProducer r p k t l w => sfu.orSame (sfu.createProducer r p k t l w)
  | .createConsumer r p x t w => sfu.orSame (sfu.createConsumer r p x t w)
  | .createDataProducer r p l q c t w => sfu.orSame (sfu.createDataProducer r p l q c t w)
  | .createDataConsumer r p x t w => sfu.orSame (sfu.createDataConsumer r p x t w)
  | .removePeer r p => (sfu.removePeer r p).1
  | .removePeerGlobal p => (sfu.removePeerGlobal p).1
  | .removePeerInRoom r p => (sfu.removePeerInRoom r p).1
  | .removeProducersByIds ids => (sfu.removeProducersByIds ids).1
  | .removeRoom r => sfu.removeRoom r

end SfuManager

end MediaServo.Server
