import MediaServo.Common.Protocol
import MediaServo.Foundations.Serde

/-! The signaling messages on the wire: the fields of every variant with their names and their
attributes, and the encoding and decoding that the derived implementations perform. -/

namespace MediaServo.Common

open MediaServo.Foundations

/-- What `serde_json` makes of a value it has kept: a tree, and the value of a tree. -/
structure SerdeValue where
  tree : JsonValue → Json
  value : Json → JsonValue
  value_tree : ∀ v, value (tree v) = v

def SerdeValue.codec (serde : SerdeValue) : Codec JsonValue where
  enc := serde.tree
  dec j := some (serde.value j)
  dom _ := True
  sound v _ := congrArg some (serde.value_tree v)

def float64 : Codec Float64 := .imap .float Float64.bits Float64.mk fun _ => rfl

def PeerRole.name : PeerRole → String
  | .host => "host"
  | .remote => "remote"
  | .consumer => "consumer"

def PeerRole.named : String → Option PeerRole
  | "host" => some .host
  | "remote" => some .remote
  | "consumer" => some .consumer
  | _ => none

def peerRole : Codec PeerRole := .variant PeerRole.name PeerRole.named (by rintro (_ | _) <;> rfl)

def TransportDirection.name : TransportDirection → String
  | .send => "send"
  | .recv => "recv"

def TransportDirection.named : String → Option TransportDirection
  | "send" => some .send
  | "recv" => some .recv
  | _ => none

def transportDirection : Codec TransportDirection :=
  .variant TransportDirection.name TransportDirection.named (by rintro (_ | _) <;> rfl)

def MediaKind.name : MediaKind → String
  | .audio => "audio"
  | .video => "video"
  | .data => "data"

def MediaKind.named : String → Option MediaKind
  | "audio" => some .audio
  | "video" => some .video
  | "data" => some .data
  | _ => none

def mediaKind : Codec MediaKind :=
  .variant MediaKind.name MediaKind.named (by rintro (_ | _) <;> rfl)

def IceParameters.row : Row (String × String × Unit) :=
  .cons (.required "username_fragment" .str) <| .cons (.required "password" .str) <| .nil

def iceParameters : Codec IceParameters :=
  .struct IceParameters.row (by decide)
    (fun p => (p.usernameFragment, p.password, ()))
    (fun (usernameFragment, password, ()) => ⟨usernameFragment, password⟩) fun _ => rfl

def Fingerprint.row : Row (String × String × Unit) :=
  .cons (.required "algorithm" .str) <| .cons (.required "value" .str) <| .nil

def fingerprint : Codec Fingerprint :=
  .struct Fingerprint.row (by decide)
    (fun p => (p.algorithm, p.value, ()))
    (fun (algorithm, value, ()) => ⟨algorithm, value⟩) fun _ => rfl

def DtlsParameters.row : Row (List Fingerprint × String × Unit) :=
  .cons (.required "fingerprints" (.list fingerprint)) <| .cons (.required "role" .str) <| .nil

def dtlsParameters : Codec DtlsParameters :=
  .struct DtlsParameters.row (by decide)
    (fun p => (p.fingerprints, p.role, ()))
    (fun (fingerprints, role, ()) => ⟨fingerprints, role⟩) fun _ => rfl

def IceCandidate.row : Row (String × ℕ × String × String × ℕ × String × Unit) :=
  .cons (.required "ip" .str) <| .cons (.required "port" (.uint 16)) <|
  .cons (.required "protocol" .str) <| .cons (.required "foundation" .str) <|
  .cons (.required "priority" (.uint 32)) <| .cons (.required "candidateType" .str) <| .nil

def iceCandidate : Codec IceCandidate :=
  .struct IceCandidate.row (by decide)
    (fun p => (p.ip, p.port, p.protocol, p.foundation, p.priority, p.candidateType, ()))
    (fun (ip, port, protocol, foundation, priority, candidateType, ()) =>
      ⟨ip, port, protocol, foundation, priority, candidateType⟩) fun _ => rfl

def SctpStreamParameters.row : Row (ℕ × Bool × Option ℕ × Option ℕ × Unit) :=
  .cons (.required "streamId" (.uint 16)) <| .cons (.required "ordered" .bool) <|
  .cons (.skipNone "maxPacketLifeTime" (.uint 16) false) <|
  .cons (.skipNone "maxRetransmits" (.uint 16) false) <| .nil

def sctpStreamParameters : Codec SctpStreamParameters :=
  .struct SctpStreamParameters.row (by decide)
    (fun p => (p.streamId, p.ordered, p.maxPacketLifeTime, p.maxRetransmits, ()))
    (fun (streamId, ordered, maxPacketLifeTime, maxRetransmits, ()) =>
      ⟨streamId, ordered, maxPacketLifeTime, maxRetransmits⟩) fun _ => rfl

def TopicFlowJson.row : Row (String × Float64 × ℕ × ℕ × ℕ × Bool × Unit) :=
  .cons (.required "topic" .str) <| .cons (.required "fps" float64) <|
  .cons (.required "bps" (.uint 64)) <| .cons (.required "last_ts_mono_ns" (.uint 64)) <|
  .cons (.required "frames" (.uint 64)) <| .cons (.required "stalled" .bool) <| .nil

def topicFlowJson : Codec TopicFlowJson :=
  .struct TopicFlowJson.row (by decide)
    (fun p => (p.topic, p.fps, p.bps, p.lastTsMonoNs, p.frames, p.stalled, ()))
    (fun (topic, fps, bps, lastTsMonoNs, frames, stalled, ()) =>
      ⟨topic, fps, bps, lastTsMonoNs, frames, stalled⟩) fun _ => rfl

def StreamFlowJson.row : Row (String × ℕ × ℕ × ℕ × ℕ × Bool × Unit) :=
  .cons (.required "id" .str) <| .cons (.required "bytes_sent" (.uint 64)) <|
  .cons (.required "frames_encoded" (.uint 32)) <| .cons (.required "frame_width" (.uint 32)) <|
  .cons (.required "frame_height" (.uint 32)) <| .cons (.required "connected" .bool) <| .nil

def streamFlowJson : Codec StreamFlowJson :=
  .struct StreamFlowJson.row (by decide)
    (fun p => (p.id, p.bytesSent, p.framesEncoded, p.frameWidth, p.frameHeight, p.connected, ()))
    (fun (id, bytesSent, framesEncoded, frameWidth, frameHeight, connected, ()) =>
      ⟨id, bytesSent, framesEncoded, frameWidth, frameHeight, connected⟩) fun _ => rfl

def ProcessStateJson.row : Row (String × Bool × Bool × Unit) :=
  .cons (.required "name" .str) <| .cons (.required "running" .bool) <|
  .cons (.required "expected" .bool) <| .nil

def processStateJson : Codec ProcessStateJson :=
  .struct ProcessStateJson.row (by decide)
    (fun p => (p.name, p.running, p.expected, ()))
    (fun (name, running, expected, ()) => ⟨name, running, expected⟩) fun _ => rfl

def ConfigFlagsEcho.row : Row (Bool × Bool × Bool × Unit) :=
  .cons (.defaulted "pending" .bool false) <| .cons (.defaulted "error" .bool false) <|
  .cons (.defaulted "conflict" .bool false) <| .nil

def configFlagsEcho : Codec ConfigFlagsEcho :=
  .struct ConfigFlagsEcho.row (by decide)
    (fun p => (p.pending, p.error, p.conflict, ()))
    (fun (pending, error, conflict, ()) => ⟨pending, error, conflict⟩) fun _ => rfl

def ChildSignalJson.row : Row (String × Bool × ℕ × Unit) :=
  .cons (.required "src" .str) <| .cons (.required "connected" .bool) <|
  .cons (.required "last_msg_secs" (.uint 64)) <| .nil

def childSignalJson : Codec ChildSignalJson :=
  .struct ChildSignalJson.row (by decide)
    (fun p => (p.src, p.connected, p.lastMsgSecs, ()))
    (fun (src, connected, lastMsgSecs, ()) => ⟨src, connected, lastMsgSecs⟩) fun _ => rfl

def SignalStatusJson.row : Row (Bool × Option ℕ × String × List ChildSignalJson × ℕ × Unit) :=
  .cons (.required "remote_connected" .bool) <|
  .cons (.skipNone "remote_since_secs" (.uint 64) false) <|
  .cons (.required "remote_peer_id" .str) <|
  .cons (.required "children" (.list childSignalJson)) <|
  .cons (.required "agent_uptime_secs" (.uint 64)) <| .nil

def signalStatusJson : Codec SignalStatusJson :=
  .struct SignalStatusJson.row (by decide)
    (fun p => (p.remoteConnected, p.remoteSinceSecs, p.remotePeerId, p.children, p.agentUptimeSecs,
      ()))
    (fun (remoteConnected, remoteSinceSecs, remotePeerId, children, agentUptimeSecs, ()) =>
      ⟨remoteConnected, remoteSinceSecs, remotePeerId, children, agentUptimeSecs⟩) fun _ => rfl

inductive Tag
  | roomJoin
  | roomJoined
  | roomLeave
  | sdp
  | rtcIceCandidate
  | createWebRtcTransport
  | webRtcTransportCreated
  | connectWebRtcTransport
  | getRouterRtpCapabilities
  | routerRtpCapabilities
  | setPreferredLayers
  | error
  | frame
  | produce
  | produced
  | newProducer
  | encoderStatus
  | statusReport
  | consume
  | consumed
  | configPush
  | emergencyCommand
  | createDataProducer
  | dataProducerCreated
  | newDataProducer
  | consumeData
  | dataConsumed
  | controlAudit
  | sfuStatsRequest
  | sfuStats
  | producerClosed
  | downstreamGone
  | deviceAuthChallenge
  | deviceAuthResponse
  | deviceAuthPending
  deriving DecidableEq

namespace Tag

def name : Tag → String
  | .roomJoin => "room_join"
  | .roomJoined => "room_joined"
  | .roomLeave => "room_leave"
  | .sdp => "sdp"
  | .rtcIceCandidate => "r_t_c_ice_candidate"
  | .createWebRtcTransport => "create_web_rtc_transport"
  | .webRtcTransportCreated => "web_rtc_transport_created"
  | .connectWebRtcTransport => "connect_web_rtc_transport"
  | .getRouterRtpCapabilities => "get_router_rtp_capabilities"
  | .routerRtpCapabilities => "router_rtp_capabilities"
  | .setPreferredLayers => "set_preferred_layers"
  | .error => "error"
  | .frame => "frame"
  | .produce => "produce"
  | .produced => "produced"
  | .newProducer => "new_producer"
  | .encoderStatus => "encoder_status"
  | .statusReport => "status_report"
  | .consume => "consume"
  | .consumed => "consumed"
  | .configPush => "config_push"
  | .emergencyCommand => "emergency_command"
  | .createDataProducer => "create_data_producer"
  | .dataProducerCreated => "data_producer_created"
  | .newDataProducer => "new_data_producer"
  | .consumeData => "consume_data"
  | .dataConsumed => "data_consumed"
  | .controlAudit => "control_audit"
  | .sfuStatsRequest => "sfu_stats_request"
  | .sfuStats => "sfu_stats"
  | .producerClosed => "producer_closed"
  | .downstreamGone => "downstream_gone"
  | .deviceAuthChallenge => "device_auth_challenge"
  | .deviceAuthResponse => "device_auth_response"
  | .deviceAuthPending => "device_auth_pending"

/-- The name that browsers use for a candidate is an alias of the canonical one. -/
def named : String → Option Tag
  | "room_join" => some .roomJoin
  | "room_joined" => some .roomJoined
  | "room_leave" => some .roomLeave
  | "sdp" => some .sdp
  | "r_t_c_ice_candidate" => some .rtcIceCandidate
  | "rtc_ice_candidate" => some .rtcIceCandidate
  | "create_web_rtc_transport" => some .createWebRtcTransport
  | "web_rtc_transport_created" => some .webRtcTransportCreated
  | "connect_web_rtc_transport" => some .connectWebRtcTransport
  | "get_router_rtp_capabilities" => some .getRouterRtpCapabilities
  | "router_rtp_capabilities" => some .routerRtpCapabilities
  | "set_preferred_layers" => some .setPreferredLayers
  | "error" => some .error
  | "frame" => some .frame
  | "produce" => some .produce
  | "produced" => some .produced
  | "new_producer" => some .newProducer
  | "encoder_status" => some .encoderStatus
  | "status_report" => some .statusReport
  | "consume" => some .consume
  | "consumed" => some .consumed
  | "config_push" => some .configPush
  | "emergency_command" => some .emergencyCommand
  | "create_data_producer" => some .createDataProducer
  | "data_producer_created" => some .dataProducerCreated
  | "new_data_producer" => some .newDataProducer
  | "consume_data" => some .consumeData
  | "data_consumed" => some .dataConsumed
  | "control_audit" => some .controlAudit
  | "sfu_stats_request" => some .sfuStatsRequest
  | "sfu_stats" => some .sfuStats
  | "producer_closed" => some .producerClosed
  | "downstream_gone" => some .downstreamGone
  | "device_auth_challenge" => some .deviceAuthChallenge
  | "device_auth_response" => some .deviceAuthResponse
  | "device_auth_pending" => some .deviceAuthPending
  | _ => none

def Args : Tag → Type
  | .roomJoin => String × PeerRole × Option String × Option String × Option String ×
      Option String × Option ℕ × Option String × Option String × Unit
  | .roomJoined => String × String × Option ℕ × Option String × Option String × Unit
  | .roomLeave => String × String × Unit
  | .sdp => String × Option String × String × Unit
  | .rtcIceCandidate => String × Option String × String × Option String × Option ℕ × Unit
  | .createWebRtcTransport => String × String × TransportDirection × Unit
  | .webRtcTransportCreated => String × String × String × IceParameters × DtlsParameters ×
      Option (List IceCandidate) × Option JsonValue × Unit
  | .connectWebRtcTransport => String × String × String × DtlsParameters × Unit
  | .getRouterRtpCapabilities => String × Unit
  | .routerRtpCapabilities => String × JsonValue × Unit
  | .setPreferredLayers => String × String × String × ℕ × Option ℕ × Unit
  | .error => ℕ × String × Unit
  | .frame => String × String × ℕ × Bool × String × Unit
  | .produce => String × String × TransportDirection × MediaKind × JsonValue × Option String ×
      Option String × Unit
  | .produced => String × String × Unit
  | .newProducer => String × String × String × MediaKind × Option String × Unit
  | .encoderStatus => String × String × String × String × Option String × Float64 × ℕ × ℕ ×
      Option Float64 × Unit
  | .statusReport => String × List TopicFlowJson × List StreamFlowJson × List ProcessStateJson ×
      SignalStatusJson × ℕ × ℕ × Option String × Option String × Option String ×
      Option ConfigFlagsEcho × Unit
  | .consume => String × String × String × JsonValue × Option String × Unit
  | .consumed => String × String × String × MediaKind × JsonValue × Unit
  | .configPush => String × String × String × ℕ × Option String × Unit
  | .emergencyCommand => String × String × Unit
  | .createDataProducer => String × String × TransportDirection × String × String ×
      Option SctpStreamParameters × Option String × Unit
  | .dataProducerCreated => String × String × Unit
  | .newDataProducer => String × String × String × String × String × Unit
  | .consumeData => String × String × TransportDirection × String × Option String × Unit
  | .dataConsumed => String × String × String × Option SctpStreamParameters × String × String ×
      Unit
  | .controlAudit => String × ℕ × String × Bool × Unit
  | .sfuStatsRequest => Option String × Option String × Unit
  | .sfuStats => Option String × Option String × Option MediaKind × ℕ × ℕ × ℕ × Unit
  | .producerClosed => String × String × String × MediaKind × Option String × Unit
  | .downstreamGone => String × String × Unit
  | .deviceAuthChallenge => String × Unit
  | .deviceAuthResponse => String × String × Unit
  | .deviceAuthPending => String × Unit

def row (serde : SerdeValue) : (t : Tag) → Row t.Args
  | .roomJoin =>
      .cons (.required "room_id" .str) <| .cons (.required "peer_role" peerRole) <|
      .cons (.skipNone "stream_id" .str false) <| .cons (.skipNone "device_id" .str false) <|
      .cons (.skipNone "device_secret" .str false) <|
      .cons (.skipNone "device_pubkey" .str false) <|
      .cons (.skipNone "protocol" (.uint 32) false) <|
      .cons (.skipNone "client_version" .str false) <| .cons (.skipNone "resume" .str false) <|
      .nil
  | .roomJoined =>
      .cons (.required "room_id" .str) <| .cons (.required "peer_id" .str) <|
      .cons (.skipNone "protocol" (.uint 32) false) <|
      .cons (.skipNone "server_version" .str false) <|
      .cons (.skipNone "session_nonce" .str false) <| .nil
  | .roomLeave =>
      .cons (.required "room_id" .str) <| .cons (.required "peer_id" .str) <| .nil
  | .sdp =>
      .cons (.required "room_id" .str) <| .cons (.orNull "target" .str) <|
      .cons (.required "sdp" .str) <| .nil
  | .rtcIceCandidate =>
      .cons (.required "room_id" .str) <| .cons (.orNull "target" .str) <|
      .cons (.required "candidate" .str) <| .cons (.orNull "sdp_mid" .str) <|
      .cons (.orNull "sdp_mline_index" (.uint 16)) <| .nil
  | .createWebRtcTransport =>
      .cons (.required "room_id" .str) <| .cons (.required "peer_id" .str) <|
      .cons (.required "direction" transportDirection) <| .nil
  | .webRtcTransportCreated =>
      .cons (.required "room_id" .str) <| .cons (.required "peer_id" .str) <|
      .cons (.required "transport_id" .str) <| .cons (.required "ice_parameters" iceParameters) <|
      .cons (.required "dtls_parameters" dtlsParameters) <|
      .cons (.skipNone "ice_candidates" (.list iceCandidate) false) <|
      .cons (.skipNone "sctp_parameters" serde.codec false) <| .nil
  | .connectWebRtcTransport =>
      .cons (.required "room_id" .str) <| .cons (.required "peer_id" .str) <|
      .cons (.required "transport_id" .str) <|
      .cons (.required "dtls_parameters" dtlsParameters) <| .nil
  | .getRouterRtpCapabilities =>
      .cons (.required "room_id" .str) <| .nil
  | .routerRtpCapabilities =>
      .cons (.required "room_id" .str) <| .cons (.required "capabilities" serde.codec) <| .nil
  | .setPreferredLayers =>
      .cons (.required "room_id" .str) <| .cons (.required "peer_id" .str) <|
      .cons (.required "consumer_id" .str) <| .cons (.required "spatial_layer" (.uint 8)) <|
      .cons (.skipNone "temporal_layer" (.uint 8) false) <| .nil
  | .error =>
      .cons (.required "code" (.uint 16)) <| .cons (.required "message" .str) <| .nil
  | .frame =>
      .cons (.required "room_id" .str) <| .cons (.required "codec" .str) <|
      .cons (.required "sequence" (.uint 64)) <| .cons (.required "is_keyframe" .bool) <|
      .cons (.required "data_base64" .str) <| .nil
  | .produce =>
      .cons (.required "room_id" .str) <| .cons (.required "peer_id" .str) <|
      .cons (.required "transport_direction" transportDirection) <|
      .cons (.required "kind" mediaKind) <| .cons (.required "rtp_parameters" serde.codec) <|
      .cons (.skipNone "transport_id" .str false) <| .cons (.skipNone "label" .str false) <| .nil
  | .produced =>
      .cons (.required "room_id" .str) <| .cons (.required "producer_id" .str) <| .nil
  | .newProducer =>
      .cons (.required "room_id" .str) <| .cons (.required "producer_id" .str) <|
      .cons (.required "peer_id" .str) <| .cons (.required "kind" mediaKind) <|
      .cons (.skipNone "label" .str false) <| .nil
  | .encoderStatus =>
      .cons (.required "room_id" .str) <| .cons (.required "peer_id" .str) <|
      .cons (.required "codec" .str) <| .cons (.required "encoder_backend" .str) <|
      .cons (.skipNone "encoder_implementation" .str false) <|
      .cons (.required "frames_per_second" float64) <|
      .cons (.required "frame_width" (.uint 32)) <| .cons (.required "frame_height" (.uint 32)) <|
      .cons (.skipNone "avg_encode_ms" float64 false) <| .nil
  | .statusReport =>
      .cons (.required "room_id" .str) <| .cons (.required "topics" (.list topicFlowJson)) <|
      .cons (.required "streams" (.list streamFlowJson)) <|
      .cons (.required "processes" (.list processStateJson)) <|
      .cons (.required "signal" signalStatusJson) <| .cons (.required "ts" (.uint 64)) <|
      .cons (.required "config_version" (.uint 64)) <|
      .cons (.skipNone "config_running" .str true) <| .cons (.skipNone "config_file" .str true) <|
      .cons (.skipNone "config_last_push" .str true) <|
      .cons (.skipNone "config_flags" configFlagsEcho true) <| .nil
  | .consume =>
      .cons (.required "room_id" .str) <| .cons (.required "peer_id" .str) <|
      .cons (.required "producer_id" .str) <| .cons (.required "rtp_capabilities" serde.codec) <|
      .cons (.skipNone "transport_id" .str false) <| .nil
  | .consumed =>
      .cons (.required "room_id" .str) <| .cons (.required "consumer_id" .str) <|
      .cons (.required "producer_id" .str) <| .cons (.required "kind" mediaKind) <|
      .cons (.required "rtp_parameters" serde.codec) <| .nil
  | .configPush =>
      .cons (.required "room_id" .str) <| .cons (.required "target" .str) <|
      .cons (.required "config" .str) <| .cons (.required "version" (.uint 64)) <|
      .cons (.skipNone "actor" .str true) <| .nil
  | .emergencyCommand =>
      .cons (.required "room_id" .str) <| .cons (.required "command" .str) <| .nil
  | .createDataProducer =>
      .cons (.required "room_id" .str) <| .cons (.required "peer_id" .str) <|
      .cons (.required "transport_direction" transportDirection) <|
      .cons (.required "label" .str) <| .cons (.required "protocol" .str) <|
      .cons (.skipNone "sctp_stream_parameters" sctpStreamParameters false) <|
      .cons (.skipNone "transport_id" .str false) <| .nil
  | .dataProducerCreated =>
      .cons (.required "room_id" .str) <| .cons (.required "data_producer_id" .str) <| .nil
  | .newDataProducer =>
      .cons (.required "room_id" .str) <| .cons (.required "data_producer_id" .str) <|
      .cons (.required "peer_id" .str) <| .cons (.required "label" .str) <|
      .cons (.required "protocol" .str) <| .nil
  | .consumeData =>
      .cons (.required "room_id" .str) <| .cons (.required "peer_id" .str) <|
      .cons (.required "transport_direction" transportDirection) <|
      .cons (.required "data_producer_id" .str) <| .cons (.skipNone "transport_id" .str false) <|
      .nil
  | .dataConsumed =>
      .cons (.required "room_id" .str) <| .cons (.required "data_consumer_id" .str) <|
      .cons (.required "data_producer_id" .str) <|
      .cons (.skipNone "sctp_stream_parameters" sctpStreamParameters true) <|
      .cons (.defaulted "label" .str "") <| .cons (.defaulted "protocol" .str "") <| .nil
  | .controlAudit =>
      .cons (.required "room_id" .str) <| .cons (.required "seq" (.uint 64)) <|
      .cons (.required "cmd" .str) <| .cons (.required "sig_present" .bool) <| .nil
  | .sfuStatsRequest =>
      .cons (.orNull "producer_id" .str) <| .cons (.orNull "consumer_id" .str) <| .nil
  | .sfuStats =>
      .cons (.orNull "producer_id" .str) <| .cons (.orNull "consumer_id" .str) <|
      .cons (.orNull "kind" mediaKind) <| .cons (.required "byte_count" (.uint 64)) <|
      .cons (.required "packet_count" (.uint 64)) <| .cons (.required "score" (.uint 8)) <| .nil
  | .producerClosed =>
      .cons (.required "room_id" .str) <| .cons (.required "peer_id" .str) <|
      .cons (.required "producer_id" .str) <| .cons (.required "kind" mediaKind) <|
      .cons (.skipNone "reason" .str false) <| .nil
  | .downstreamGone =>
      .cons (.required "peer_id" .str) <| .cons (.required "room_id" .str) <| .nil
  | .deviceAuthChallenge =>
      .cons (.required "nonce" .str) <| .nil
  | .deviceAuthResponse =>
      .cons (.required "room_id" .str) <| .cons (.required "sig" .str) <| .nil
  | .deviceAuthPending =>
      .cons (.required "device_id" .str) <| .nil

end Tag

namespace SignalingMessage

def tag : SignalingMessage → Tag
  | .roomJoin .. => .roomJoin
  | .roomJoined .. => .roomJoined
  | .roomLeave .. => .roomLeave
  | .sdp .. => .sdp
  | .rtcIceCandidate .. => .rtcIceCandidate
  | .createWebRtcTransport .. => .createWebRtcTransport
  | .webRtcTransportCreated .. => .webRtcTransportCreated
  | .connectWebRtcTransport .. => .connectWebRtcTransport
  | .getRouterRtpCapabilities .. => .getRouterRtpCapabilities
  | .routerRtpCapabilities .. => .routerRtpCapabilities
  | .setPreferredLayers .. => .setPreferredLayers
  | .error .. => .error
  | .frame .. => .frame
  | .produce .. => .produce
  | .produced .. => .produced
  | .newProducer .. => .newProducer
  | .encoderStatus .. => .encoderStatus
  | .statusReport .. => .statusReport
  | .consume .. => .consume
  | .consumed .. => .consumed
  | .configPush .. => .configPush
  | .emergencyCommand .. => .emergencyCommand
  | .createDataProducer .. => .createDataProducer
  | .dataProducerCreated .. => .dataProducerCreated
  | .newDataProducer .. => .newDataProducer
  | .consumeData .. => .consumeData
  | .dataConsumed .. => .dataConsumed
  | .controlAudit .. => .controlAudit
  | .sfuStatsRequest .. => .sfuStatsRequest
  | .sfuStats .. => .sfuStats
  | .producerClosed .. => .producerClosed
  | .downstreamGone .. => .downstreamGone
  | .deviceAuthChallenge .. => .deviceAuthChallenge
  | .deviceAuthResponse .. => .deviceAuthResponse
  | .deviceAuthPending .. => .deviceAuthPending

def args : (m : SignalingMessage) → m.tag.Args
  | .roomJoin roomId peerRole streamId deviceId deviceSecret devicePubkey protocol clientVersion
      resume =>
      (roomId, peerRole, streamId, deviceId, deviceSecret, devicePubkey, protocol, clientVersion, resume,
       ())
  | .roomJoined roomId peerId protocol serverVersion sessionNonce =>
      (roomId, peerId, protocol, serverVersion, sessionNonce, ())
  | .roomLeave roomId peerId => (roomId, peerId, ())
  | .sdp roomId target sdp' =>
      (roomId, target, sdp', ())
  | .rtcIceCandidate roomId target candidate sdpMid sdpMlineIndex =>
      (roomId, target, candidate, sdpMid, sdpMlineIndex, ())
  | .createWebRtcTransport roomId peerId direction =>
      (roomId, peerId, direction, ())
  | .webRtcTransportCreated roomId peerId transportId iceParameters dtlsParameters iceCandidates
      sctpParameters =>
      (roomId, peerId, transportId, iceParameters, dtlsParameters, iceCandidates, sctpParameters, ())
  | .connectWebRtcTransport roomId peerId transportId dtlsParameters =>
      (roomId, peerId, transportId, dtlsParameters, ())
  | .getRouterRtpCapabilities roomId => (roomId, ())
  | .routerRtpCapabilities roomId capabilities => (roomId, capabilities, ())
  | .setPreferredLayers roomId peerId consumerId spatialLayer temporalLayer =>
      (roomId, peerId, consumerId, spatialLayer, temporalLayer, ())
  | .error code message => (code, message, ())
  | .frame roomId codec sequence isKeyframe dataBase64 =>
      (roomId, codec, sequence, isKeyframe, dataBase64, ())
  | .produce roomId peerId transportDirection kind rtpParameters transportId label =>
      (roomId, peerId, transportDirection, kind, rtpParameters, transportId, label, ())
  | .produced roomId producerId => (roomId, producerId, ())
  | .newProducer roomId producerId peerId kind label =>
      (roomId, producerId, peerId, kind, label, ())
  | .encoderStatus roomId peerId codec encoderBackend encoderImplementation framesPerSecond
      frameWidth frameHeight avgEncodeMs =>
      (roomId, peerId, codec, encoderBackend, encoderImplementation, framesPerSecond, frameWidth,
       frameHeight, avgEncodeMs, ())
  | .statusReport roomId topics streams processes signal ts configVersion configRunning configFile
      configLastPush configFlags =>
      (roomId, topics, streams, processes, signal, ts, configVersion, configRunning, configFile,
       configLastPush, configFlags, ())
  | .consume roomId peerId producerId rtpCapabilities transportId =>
      (roomId, peerId, producerId, rtpCapabilities, transportId, ())
  | .consumed roomId consumerId producerId kind rtpParameters =>
      (roomId, consumerId, producerId, kind, rtpParameters, ())
  | .configPush roomId target config version actor =>
      (roomId, target, config, version, actor, ())
  | .emergencyCommand roomId command => (roomId, command, ())
  | .createDataProducer roomId peerId transportDirection label protocol sctpStreamParameters
      transportId =>
      (roomId, peerId, transportDirection, label, protocol, sctpStreamParameters, transportId, ())
  | .dataProducerCreated roomId dataProducerId => (roomId, dataProducerId, ())
  | .newDataProducer roomId dataProducerId peerId label protocol =>
      (roomId, dataProducerId, peerId, label, protocol, ())
  | .consumeData roomId peerId transportDirection dataProducerId transportId =>
      (roomId, peerId, transportDirection, dataProducerId, transportId, ())
  | .dataConsumed roomId dataConsumerId dataProducerId sctpStreamParameters label protocol =>
      (roomId, dataConsumerId, dataProducerId, sctpStreamParameters, label, protocol, ())
  | .controlAudit roomId seq cmd sigPresent =>
      (roomId, seq, cmd, sigPresent, ())
  | .sfuStatsRequest producerId consumerId => (producerId, consumerId, ())
  | .sfuStats producerId consumerId kind byteCount packetCount score =>
      (producerId, consumerId, kind, byteCount, packetCount, score, ())
  | .producerClosed roomId peerId producerId kind reason =>
      (roomId, peerId, producerId, kind, reason, ())
  | .downstreamGone peerId roomId => (peerId, roomId, ())
  | .deviceAuthChallenge nonce => (nonce, ())
  | .deviceAuthResponse roomId sig => (roomId, sig, ())
  | .deviceAuthPending deviceId => (deviceId, ())

def ofArgs : (t : Tag) → t.Args → SignalingMessage
  | .roomJoin, (roomId, peerRole, streamId, deviceId, deviceSecret, devicePubkey, protocol,
      clientVersion, resume, ()) =>
      .roomJoin roomId peerRole streamId deviceId deviceSecret devicePubkey protocol clientVersion
        resume
  | .roomJoined, (roomId, peerId, protocol, serverVersion, sessionNonce, ()) =>
      .roomJoined roomId peerId protocol serverVersion sessionNonce
  | .roomLeave, (roomId, peerId, ()) => .roomLeave roomId peerId
  | .sdp, (roomId, target, sdp', ()) =>
      .sdp roomId target sdp'
  | .rtcIceCandidate, (roomId, target, candidate, sdpMid, sdpMlineIndex, ()) =>
      .rtcIceCandidate roomId target candidate sdpMid sdpMlineIndex
  | .createWebRtcTransport, (roomId, peerId, direction, ()) =>
      .createWebRtcTransport roomId peerId direction
  | .webRtcTransportCreated, (roomId, peerId, transportId, iceParameters, dtlsParameters,
      iceCandidates, sctpParameters, ()) =>
      .webRtcTransportCreated roomId peerId transportId iceParameters dtlsParameters iceCandidates
        sctpParameters
  | .connectWebRtcTransport, (roomId, peerId, transportId, dtlsParameters, ()) =>
      .connectWebRtcTransport roomId peerId transportId dtlsParameters
  | .getRouterRtpCapabilities, (roomId, ()) => .getRouterRtpCapabilities roomId
  | .routerRtpCapabilities, (roomId, capabilities, ()) => .routerRtpCapabilities roomId capabilities
  | .setPreferredLayers, (roomId, peerId, consumerId, spatialLayer, temporalLayer, ()) =>
      .setPreferredLayers roomId peerId consumerId spatialLayer temporalLayer
  | .error, (code, message, ()) => .error code message
  | .frame, (roomId, codec, sequence, isKeyframe, dataBase64, ()) =>
      .frame roomId codec sequence isKeyframe dataBase64
  | .produce, (roomId, peerId, transportDirection, kind, rtpParameters, transportId, label, ()) =>
      .produce roomId peerId transportDirection kind rtpParameters transportId label
  | .produced, (roomId, producerId, ()) => .produced roomId producerId
  | .newProducer, (roomId, producerId, peerId, kind, label, ()) =>
      .newProducer roomId producerId peerId kind label
  | .encoderStatus, (roomId, peerId, codec, encoderBackend, encoderImplementation, framesPerSecond,
      frameWidth, frameHeight, avgEncodeMs, ()) =>
      .encoderStatus roomId peerId codec encoderBackend encoderImplementation framesPerSecond
        frameWidth frameHeight avgEncodeMs
  | .statusReport, (roomId, topics, streams, processes, signal, ts, configVersion, configRunning,
      configFile, configLastPush, configFlags, ()) =>
      .statusReport roomId topics streams processes signal ts configVersion configRunning
        configFile configLastPush configFlags
  | .consume, (roomId, peerId, producerId, rtpCapabilities, transportId, ()) =>
      .consume roomId peerId producerId rtpCapabilities transportId
  | .consumed, (roomId, consumerId, producerId, kind, rtpParameters, ()) =>
      .consumed roomId consumerId producerId kind rtpParameters
  | .configPush, (roomId, target, config, version, actor, ()) =>
      .configPush roomId target config version actor
  | .emergencyCommand, (roomId, command, ()) => .emergencyCommand roomId command
  | .createDataProducer, (roomId, peerId, transportDirection, label, protocol,
      sctpStreamParameters, transportId, ()) =>
      .createDataProducer roomId peerId transportDirection label protocol sctpStreamParameters
        transportId
  | .dataProducerCreated, (roomId, dataProducerId, ()) => .dataProducerCreated roomId dataProducerId
  | .newDataProducer, (roomId, dataProducerId, peerId, label, protocol, ()) =>
      .newDataProducer roomId dataProducerId peerId label protocol
  | .consumeData, (roomId, peerId, transportDirection, dataProducerId, transportId, ()) =>
      .consumeData roomId peerId transportDirection dataProducerId transportId
  | .dataConsumed, (roomId, dataConsumerId, dataProducerId, sctpStreamParameters, label, protocol,
      ()) =>
      .dataConsumed roomId dataConsumerId dataProducerId sctpStreamParameters label protocol
  | .controlAudit, (roomId, seq, cmd, sigPresent, ()) =>
      .controlAudit roomId seq cmd sigPresent
  | .sfuStatsRequest, (producerId, consumerId, ()) => .sfuStatsRequest producerId consumerId
  | .sfuStats, (producerId, consumerId, kind, byteCount, packetCount, score, ()) =>
      .sfuStats producerId consumerId kind byteCount packetCount score
  | .producerClosed, (roomId, peerId, producerId, kind, reason, ()) =>
      .producerClosed roomId peerId producerId kind reason
  | .downstreamGone, (peerId, roomId, ()) => .downstreamGone peerId roomId
  | .deviceAuthChallenge, (nonce, ()) => .deviceAuthChallenge nonce
  | .deviceAuthResponse, (roomId, sig, ()) => .deviceAuthResponse roomId sig
  | .deviceAuthPending, (deviceId, ()) => .deviceAuthPending deviceId

def encode (serde : SerdeValue) (m : SignalingMessage) : Json :=
  .obj (("type", .str m.tag.name) :: (m.tag.row serde).write m.args)

def decode (serde : SerdeValue) : Json → Option SignalingMessage
  | .obj fs => do
      let t ← Tag.named (← Json.required Json.asStr "type" fs)
      let args ← (t.row serde).read fs
      pure (ofArgs t args)
  | .arr (.str s :: items) => do
      let t ← Tag.named s
      let fs ← Json.fieldsOf (t.row serde).names (.arr items)
      let args ← (t.row serde).read fs
      pure (ofArgs t args)
  | _ => none

end SignalingMessage

end MediaServo.Common
