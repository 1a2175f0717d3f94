import MediaServo.Server.SfuMessages

/-! The relay loop of a joined session: what one inbound message does. -/

namespace MediaServo.Server

open MediaServo.Foundations MediaServo.Common

def statusReportDenialReason (identity : SessionIdentity) (role : PeerRole) : Option String :=
  if identity.isDevice ∨ role = .host then none
  else some "status reports require a device session or host role"

def streamIds (streams : List StreamFlowJson) : Finset String :=
  (streams.map StreamFlowJson.id).toFinset

def streamsChanged (stored : Option SignalingMessage) (streams : List StreamFlowJson) : Bool :=
  match stored with
  | some (.statusReport _ _ old _ _ _ _ _ _ _ _) => streamIds old ≠ streamIds streams
  | _ => streamIds streams ≠ ∅

def isRelayed : SignalingMessage → Bool
  | .sdp .. | .rtcIceCandidate .. | .frame .. | .encoderStatus .. => true
  | _ => false

def isNegotiation : SignalingMessage → Bool
  | .sdp .. | .rtcIceCandidate .. => true
  | _ => false

def relayTargetRoom (msg : SignalingMessage) (fallbackRoom : String) : String :=
  match msg with
  | .encoderStatus roomId .. => roomId
  | _ => fallbackRoom

structure Relayed where
  server : SignalingServer
  reply : Option SignalingMessage
  ended : Bool

namespace SignalingServer

def storeReport (s : SignalingServer) (c : Session) (report : SignalingMessage)
    (streams : List StreamFlowJson) : SignalingServer :=
  let told :=
    if streamsChanged (s.statusRegistry.get c.roomId) streams then
      streams.foldl (fun s x => s.emit (.streamCreate c.roomId x.id)) s
    else s
  { told with statusRegistry := told.statusRegistry.set c.roomId report }

def handleStatusReport (s : SignalingServer) (c : Session) (report : SignalingMessage)
    (streams : List StreamFlowJson) : Reply :=
  match statusReportDenialReason c.identity c.role with
  | some reason => s.fail 4031 (atRoom reason c.peerId c.roomId)
  | none => (s.storeReport c report streams, none)

def handleEmergency (s : SignalingServer) (c : Session) (msg : SignalingMessage) : Reply :=
  match c.identity.canEmergency (s.roomOwnerOf c.roomId) with
  | .ok () => (s.send c.roomId msg, none)
  | .error reason => s.fail 4031 (atRoom reason c.peerId c.roomId)

def cachePending (s : SignalingServer) (roomId : String) (msg : SignalingMessage) :
    SignalingServer :=
  let msgs := (s.pendingMessages.get roomId).getD [] ++ [msg]
  { s with pendingMessages :=
      s.pendingMessages.set roomId (if 64 < msgs.length then msgs.tail else msgs) }

def relay (s : SignalingServer) (c : Session) (msg : SignalingMessage) : SignalingServer :=
  let deviceRoom := s.roomManager.isDeviceStream c.roomId
  if ¬isRelayed msg then s
  else if isNegotiation msg ∧ (deviceRoom ∨ ¬c.identity.canControl) then s
  else
    let sent := s.send (relayTargetRoom msg c.roomId) msg
    if isNegotiation msg then sent.cachePending c.roomId msg else sent

def sfuOrRelay (s : SignalingServer) (c : Session) (msg : SignalingMessage) (w : Worker) : Relayed :=
  match s.handleSfuMessage c msg w with
  | (s', some response) => ⟨s', some response, false⟩
  | (s', none) => ⟨s'.relay c msg, none, false⟩

def relayMessage (s : SignalingServer) (c : Session) (msg : SignalingMessage) (w : Worker) :
    Relayed :=
  match msg with
  | .roomLeave _ _ => ⟨s.send c.roomId msg, none, true⟩
  | .statusReport _ _ streams _ _ _ _ _ _ _ _ =>
      let r := s.handleStatusReport c msg streams
      ⟨r.1, r.2, false⟩
  | .emergencyCommand _ _ =>
      let r := s.handleEmergency c msg
      ⟨r.1, r.2, false⟩
  | .configPush .. => ⟨s, some (.error 4031 "config push is server-initiated only"), false⟩
  | _ => s.sfuOrRelay c msg w

end SignalingServer

end MediaServo.Server
