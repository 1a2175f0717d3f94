import Mathlib.Tactic

/-! The signaling protocol: message variants, peer roles, media kinds and the negotiated
dialect version. -/

namespace MediaServo.Common

def signalingProtocolVersion : ℕ := 3
def signalingProtocolMinSupported : ℕ := 1
def protocolMinControlDc : ℕ := 2
def protocolMinResume : ℕ := 3

def negotiateProtocol (claim : Option ℕ) : ℕ := min (claim.getD 1) signalingProtocolVersion

inductive TransportDirection
  | send
  | recv
  deriving DecidableEq

inductive PeerRole
  | host
  | remote
  | consumer
  deriving DecidableEq

inductive MediaKind
  | audio
  | video
  | data
  deriving DecidableEq

/-- A `serde_json::Value`, kept as its text: the modelled code only passes it on. -/
structure JsonValue where
  text : String
  deriving DecidableEq

/-- An `f64` by its bit pattern. -/
structure Float64 where
  bits : BitVec 64
  deriving DecidableEq

structure IceParameters where
  usernameFragment : String
  password : String
  deriving DecidableEq

structure Fingerprint where
  algorithm : String
  value : String
  deriving DecidableEq

structure DtlsParameters where
  fingerprints : List Fingerprint
  role : String
  deriving DecidableEq

structure IceCandidate where
  ip : String
  port : ℕ
  protocol : String
  foundation : String
  priority : ℕ
  candidateType : String
  deriving DecidableEq

structure SctpStreamParameters where
  streamId : ℕ
  ordered : Bool
  maxPacketLifeTime : Option ℕ
  maxRetransmits : Option ℕ
  deriving DecidableEq

structure TopicFlowJson where
  topic : String
  fps : Float64
  bps : ℕ
  lastTsMonoNs : ℕ
  frames : ℕ
  stalled : Bool
  deriving DecidableEq

structure StreamFlowJson where
  id : String
  bytesSent : ℕ
  framesEncoded : ℕ
  frameWidth : ℕ
  frameHeight : ℕ
  connected : Bool
  deriving DecidableEq

structure ProcessStateJson where
  name : String
  running : Bool
  expected : Bool
  deriving DecidableEq

structure ConfigFlagsEcho where
  pending : Bool
  error : Bool
  conflict : Bool
  deriving DecidableEq

structure ChildSignalJson where
  src : String
  connected : Bool
  lastMsgSecs : ℕ
  deriving DecidableEq

structure SignalStatusJson where
  remoteConnected : Bool
  remoteSinceSecs : Option ℕ
  remotePeerId : String
  children : List ChildSignalJson
  agentUptimeSecs : ℕ
  deriving DecidableEq

inductive SignalingMessage
  | roomJoin (roomId : String) (peerRole : PeerRole) (streamId deviceId deviceSecret devicePubkey :
      Option String) (protocol : Option ℕ) (clientVersion resume : Option String)
  | roomJoined (roomId peerId : String) (protocol : Option ℕ)
      (serverVersion sessionNonce : Option String)
  | roomLeave (roomId peerId : String)
  | sdp (roomId : String) (target : Option String) (sdp : String)
  | rtcIceCandidate (roomId : String) (target : Option String) (candidate : String)
      (sdpMid : Option String) (sdpMlineIndex : Option ℕ)
  | createWebRtcTransport (roomId peerId : String) (direction : TransportDirection)
  | webRtcTransportCreated (roomId peerId transportId : String) (iceParameters : IceParameters)
      (dtlsParameters : DtlsParameters) (iceCandidates : Option (List IceCandidate))
      (sctpParameters : Option JsonValue)
  | connectWebRtcTransport (roomId peerId transportId : String) (dtlsParameters : DtlsParameters)
  | getRouterRtpCapabilities (roomId : String)
  | routerRtpCapabilities (roomId : String) (capabilities : JsonValue)
  | setPreferredLayers (roomId peerId consumerId : String) (spatialLayer : ℕ)
      (temporalLayer : Option ℕ)
  | error (code : ℕ) (message : String)
  | frame (roomId codec : String) (sequence : ℕ) (isKeyframe : Bool) (dataBase64 : String)
  | produce (roomId peerId : String) (transportDirection : TransportDirection) (kind : MediaKind)
      (rtpParameters : JsonValue) (transportId label : Option String)
  | produced (roomId producerId : String)
  | newProducer (roomId producerId peerId : String) (kind : MediaKind) (label : Option String)
  | encoderStatus (roomId peerId codec encoderBackend : String)
      (encoderImplementation : Option String) (framesPerSecond : Float64)
      (frameWidth frameHeight : ℕ) (avgEncodeMs : Option Float64)
  | statusReport (roomId : String) (topics : List TopicFlowJson) (streams : List StreamFlowJson)
      (processes : List ProcessStateJson) (signal : SignalStatusJson) (ts configVersion : ℕ)
      (configRunning configFile configLastPush : Option String)
      (configFlags : Option ConfigFlagsEcho)
  | consume (roomId peerId producerId : String) (rtpCapabilities : JsonValue)
      (transportId : Option String)
  | consumed (roomId consumerId producerId : String) (kind : MediaKind) (rtpParameters : JsonValue)
  | configPush (roomId target config : String) (version : ℕ) (actor : Option String)
  | emergencyCommand (roomId command : String)
  | createDataProducer (roomId peerId : String) (transportDirection : TransportDirection)
      (label protocol : String) (sctpStreamParameters : Option SctpStreamParameters)
      (transportId : Option String)
  | dataProducerCreated (roomId dataProducerId : String)
  | newDataProducer (roomId dataProducerId peerId label protocol : String)
  | consumeData (roomId peerId : String) (transportDirection : TransportDirection)
      (dataProducerId : String) (transportId : Option String)
  | dataConsumed (roomId dataConsumerId dataProducerId : String)
      (sctpStreamParameters : Option SctpStreamParameters) (label protocol : String)
  | controlAudit (roomId : String) (seq : ℕ) (cmd : String) (sigPresent : Bool)
  | sfuStatsRequest (producerId consumerId : Option String)
  | sfuStats (producerId consumerId : Option String) (kind : Option MediaKind)
      (byteCount packetCount score : ℕ)
  | producerClosed (roomId peerId producerId : String) (kind : MediaKind) (reason : Option String)
  | downstreamGone (peerId roomId : String)
  | deviceAuthChallenge (nonce : String)
  | deviceAuthResponse (roomId sig : String)
  | deviceAuthPending (deviceId : String)
  deriving DecidableEq

def startsWith (s p : String) : Bool := p.toList.isPrefixOf s.toList

def stripPrefix (p s : String) : Option String :=
  if startsWith s p then some (String.ofList (s.toList.drop p.toList.length)) else none

lemma stripPrefix_append (p t : String) : stripPrefix p (p ++ t) = some t := by
  simp [stripPrefix, startsWith]

end MediaServo.Common
