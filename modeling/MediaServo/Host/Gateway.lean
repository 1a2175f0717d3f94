import MediaServo.Foundations.FiniteMap
import MediaServo.Common.Protocol

/-! The signaling gateway of a vehicle: many child processes share one session with the server.
This is the routing state, behind one lock in the source, and its operations. -/

namespace MediaServo.Host

open MediaServo.Foundations MediaServo.Common

def errGatewayDisconnected : ℕ := 5001

def echoCacheCap : ℕ := 256

structure Conn where
  id : ℕ
  room : String
  src : String
  producerKey : Option (String × String)
  deriving DecidableEq

/-- `echoCache` holds the relayed messages themselves, where the source holds their JSON texts. -/
structure State where
  conns : FiniteMap ℕ Conn
  nextId : ℕ
  pending : List ℕ
  echoCache : List SignalingMessage
  vehiclePeerId : String
  upstreamNegotiated : ℕ
  pendingResume : Option String
  joined : Bool
  vehicleRoom : String
  pendingConfig : Option SignalingMessage

inductive UpstreamAction
  | forward (msg : SignalingMessage)
  | reply (msg : SignalingMessage)
  | drop
  deriving DecidableEq

def isSfuRequest : SignalingMessage → Bool
  | .createWebRtcTransport .. | .connectWebRtcTransport .. | .produce .. | .consume ..
  | .sfuStatsRequest .. => true
  | _ => false

def isRelayMsg : SignalingMessage → Bool
  | .sdp .. | .rtcIceCandidate .. | .frame .. | .encoderStatus .. => true
  | _ => false

def isFifoResponse : SignalingMessage → Bool
  | .webRtcTransportCreated .. | .produced .. | .consumed .. | .error .. | .sfuStats .. => true
  | _ => false

def msgRoomId : SignalingMessage → Option String
  | .roomJoin roomId .. | .roomJoined roomId .. | .roomLeave roomId .. | .sdp roomId ..
  | .rtcIceCandidate roomId .. | .createWebRtcTransport roomId .. | .webRtcTransportCreated roomId ..
  | .connectWebRtcTransport roomId .. | .frame roomId .. | .produce roomId .. | .produced roomId ..
  | .newProducer roomId .. | .producerClosed roomId .. | .encoderStatus roomId .. | .consume roomId ..
  | .consumed roomId .. | .createDataProducer roomId .. | .dataProducerCreated roomId ..
  | .newDataProducer roomId .. | .consumeData roomId .. | .dataConsumed roomId ..
  | .getRouterRtpCapabilities roomId | .routerRtpCapabilities roomId ..
  | .setPreferredLayers roomId .. | .emergencyCommand roomId .. | .controlAudit roomId .. => some roomId
  | _ => none

/-- Put a room into a message; the messages that the source leaves alone are unchanged. -/
def setRoom (room : String) : SignalingMessage → SignalingMessage
  | .roomJoin _ role stream device secret pubkey protocol version resume =>
      .roomJoin room role stream device secret pubkey protocol version resume
  | .roomJoined _ peer protocol version nonce => .roomJoined room peer protocol version nonce
  | .roomLeave _ peer => .roomLeave room peer
  | .sdp _ target sdp => .sdp room target sdp
  | .rtcIceCandidate _ target candidate mid index => .rtcIceCandidate room target candidate mid index
  | .createWebRtcTransport _ peer direction => .createWebRtcTransport room peer direction
  | .webRtcTransportCreated _ peer transport ice dtls candidates sctp =>
      .webRtcTransportCreated room peer transport ice dtls candidates sctp
  | .connectWebRtcTransport _ peer transport dtls => .connectWebRtcTransport room peer transport dtls
  | .frame _ codec sequence key data => .frame room codec sequence key data
  | .produce _ peer direction kind rtp transport label =>
      .produce room peer direction kind rtp transport label
  | .produced _ producer => .produced room producer
  | .newProducer _ producer peer kind label => .newProducer room producer peer kind label
  | .producerClosed _ peer producer kind reason => .producerClosed room peer producer kind reason
  | .encoderStatus _ peer codec backend implementation fps width height avg =>
      .encoderStatus room peer codec backend implementation fps width height avg
  | .consume _ peer producer rtp transport => .consume room peer producer rtp transport
  | .consumed _ consumer producer kind rtp => .consumed room consumer producer kind rtp
  | .createDataProducer _ peer direction label protocol sctp transport =>
      .createDataProducer room peer direction label protocol sctp transport
  | .dataProducerCreated _ producer => .dataProducerCreated room producer
  | .newDataProducer _ producer peer label protocol => .newDataProducer room producer peer label protocol
  | .consumeData _ peer direction producer transport =>
      .consumeData room peer direction producer transport
  | .dataConsumed _ consumer producer sctp label protocol =>
      .dataConsumed room consumer producer sctp label protocol
  | .getRouterRtpCapabilities _ => .getRouterRtpCapabilities room
  | .routerRtpCapabilities _ capabilities => .routerRtpCapabilities room capabilities
  | .setPreferredLayers _ peer consumer spatial temporal =>
      .setPreferredLayers room peer consumer spatial temporal
  | .emergencyCommand _ command => .emergencyCommand room command
  | .controlAudit _ seq cmd sig => .controlAudit room seq cmd sig
  | msg => msg

def rewriteRoom (msg : SignalingMessage) (room : String) : SignalingMessage :=
  match msgRoomId msg with
  | some r =>
      if startsWith r "audio-" ∨ startsWith r (room ++ "_") then msg else setRoom room msg
  | none => setRoom room msg

def gatewayDisconnectedError : SignalingMessage :=
  .error errGatewayDisconnected "gateway not connected to server"

namespace State

def init (vehicleRoom : String) : State :=
  { conns := ∅
    nextId := 1
    pending := []
    echoCache := []
    vehiclePeerId := ""
    upstreamNegotiated := 1
    pendingResume := none
    joined := false
    vehicleRoom := vehicleRoom
    pendingConfig := none }

def noteProducer (st : State) (connId : ℕ) (msg : SignalingMessage) : State :=
  match msg with
  | .produce roomId peerId .. =>
      { st with conns := st.conns.adjust connId ({ · with producerKey := some (peerId, roomId) }) }
  | _ => st

def cacheEcho (st : State) (msg : SignalingMessage) : State :=
  if isRelayMsg msg then
    let cache := st.echoCache ++ [msg]
    { st with echoCache := if echoCacheCap < cache.length then cache.tail else cache }
  else st

def forward (st : State) (connId : ℕ) (msg : SignalingMessage) : State × UpstreamAction :=
  if ¬st.joined then (st, .reply gatewayDisconnectedError)
  else
    let queued := if isSfuRequest msg then { st with pending := st.pending ++ [connId] } else st
    (queued.cacheEcho msg, .forward msg)

def upstream (st : State) (connId : ℕ) (msg : SignalingMessage) : State × UpstreamAction :=
  let st := st.noteProducer connId msg
  match msg with
  | .roomJoin roomId _ _ _ _ _ childClaim _ _ =>
      let named := { st with conns := st.conns.adjust connId ({ · with room := roomId }) }
      if st.joined then
        (named, .reply (.roomJoined roomId st.vehiclePeerId
          (some (min (childClaim.getD 1) st.upstreamNegotiated)) none none))
      else (named, .reply gatewayDisconnectedError)
  | .roomLeave .. => (st, .drop)
  | .encoderStatus .. =>
      if ¬st.joined then (st, .reply gatewayDisconnectedError) else (st, .forward msg)
  | _ => st.forward connId (rewriteRoom msg st.vehicleRoom)

def routeResponse (st : State) (msg : SignalingMessage) : State × List (ℕ × SignalingMessage) :=
  match st.pending with
  | [] => (st, [])
  | connId :: rest =>
      ({ st with pending := rest }, match st.conns.get connId with
        | some conn => [(connId, rewriteRoom msg conn.room)]
        | none => [])

def routeNegotiation (st : State) (msg : SignalingMessage) : List (ℕ × SignalingMessage) :=
  let m := rewriteRoom msg st.vehicleRoom
  let targetRoom := (msgRoomId m).getD ""
  (st.conns.toList.filter (fun e => e.2.room = targetRoom)).map (fun e => (e.1, m))

def broadcast (st : State) (msg : SignalingMessage) : List (ℕ × SignalingMessage) :=
  st.conns.toList.map (fun e => (e.1, rewriteRoom msg e.2.room))

def downstream (st : State) (msg : SignalingMessage) : State × List (ℕ × SignalingMessage) :=
  if isRelayMsg msg ∧ msg ∈ st.echoCache then (st, [])
  else
    match msg with
    | .webRtcTransportCreated .. | .produced .. | .consumed .. | .error .. | .sfuStats .. =>
        st.routeResponse msg
    | .sdp .. | .rtcIceCandidate .. => (st, st.routeNegotiation msg)
    | .configPush roomId target .. =>
        if roomId ≠ st.vehicleRoom ∨ target ≠ st.vehiclePeerId then (st, [])
        else ({ st with pendingConfig := some msg }, [])
    | _ => (st, st.broadcast msg)

def removeConn (st : State) (connId : ℕ) : State := { st with conns := st.conns.remove connId }

def resetRemote (st : State) : State :=
  { st with
    joined := false
    pending := []
    echoCache := []
    vehiclePeerId := ""
    upstreamNegotiated := 1
    pendingResume := none }

end State

end MediaServo.Host
