import MediaServo.Server.SfuMessages

/-! The join funnel after authentication: resume or takeover, the room gates, the room itself
and the ticket for the next re-attach. -/

namespace MediaServo.Server

open MediaServo.Foundations MediaServo.Common

def serverVersion : String := "0.1.3"

/-- A RoomJoin whose sender is authenticated. `peerId` is the id the connection got before the
join; a resume replaces it. -/
structure JoinRequest where
  peerId : String
  identity : SessionIdentity
  roomId : String
  role : PeerRole
  protocol : Option ℕ
  resume : Option String
  deriving DecidableEq

namespace JoinRequest

def negotiated (q : JoinRequest) : ℕ := negotiateProtocol q.protocol

def key (q : JoinRequest) : String × String := (identityKey q.identity, q.roomId)

def session (q : JoinRequest) (peerId : String) : Session :=
  ⟨peerId, q.roomId, q.role, q.identity, q.negotiated⟩

def issuesTicket (q : JoinRequest) : Bool :=
  q.role = .host ∧ q.identity.isDevice ∧ protocolMinResume ≤ q.negotiated

end JoinRequest

/-- What a join leaves: the server, the session unless the join was refused, and the messages
sent to the connection. -/
structure Joined where
  server : SignalingServer
  session : Option Session
  replies : List SignalingMessage

namespace SignalingServer

def resumeHit (s : SignalingServer) (q : JoinRequest) : Option (HeldResume × ResumeTable) :=
  match q.resume with
  | some nonce =>
      if protocolMinResume ≤ q.negotiated then takeTicket s.resumeTable q.key q.negotiated nonce
      else none
  | none => none

def takeover (s : SignalingServer) (q : JoinRequest) : SignalingServer :=
  match s.resumeTable.get q.key with
  | some h =>
      ({ s with resumeTable := s.resumeTable.remove q.key }).disconnectSession h.peerId q.roomId
  | none => s

def gateDenied (s : SignalingServer) (q : JoinRequest) (peerId : String) : Option String :=
  if q.role = .host ∧ q.identity.hostJoinDenied.isSome then
    q.identity.hostJoinDenied.map (fun reason => s!"{reason} (peer={peerId})")
  else if q.role = .remote ∧ ¬q.identity.canControl then
    some (atRoom "role lacks control capability for remote/P2P negotiation" peerId q.roomId)
  else
    match s.roomOwnerOf q.roomId with
    | some owner =>
        (q.identity.joinVehicleRoom (some owner)).map (fun reason => atRoom reason peerId q.roomId)
    | none => none

def enter (s : SignalingServer) (q : JoinRequest) : Except JoinError SignalingServer :=
  match s.roomManager.joinRoom q.roomId q.peerId q.role with
  | .error e => .error e
  | .ok rooms =>
      match q.identity.deviceId with
      | some d => .ok { s with
          roomManager := rooms
          deviceBindings := s.deviceBindings.set q.peerId d
          roomOwners := s.roomOwners.set q.roomId d }
      | none => .ok { s with roomManager := rooms }

def issueTicket (s : SignalingServer) (q : JoinRequest) (peerId nonce : String) :
    SignalingServer × Option String :=
  if q.issuesTicket then
    ({ s with
        resumeTable := pruneResume
          (s.resumeTable.set q.key ⟨peerId, nonce, q.negotiated, s.resumeSeq⟩) resumeGlobalCap
        resumeSeq := s.resumeSeq + 1 }, some nonce)
  else (s, none)

def lateJoinerSync (s : SignalingServer) (roomId : String) : List SignalingMessage :=
  (s.pendingMessages.get roomId).getD [] ++
    ((s.sfuManager.listProducers roomId).getD []).map
      (fun x => .newProducer roomId x.1 x.2.2.1 x.2.1 x.2.2.2) ++
    ((s.sfuManager.listDataProducers roomId).getD []).map
      (fun x => .newDataProducer roomId x.1 x.2.2 x.2.1 "")

def ackJoin (s : SignalingServer) (q : JoinRequest) (peerId nonce : String) : Joined :=
  let issued := s.issueTicket q peerId nonce
  ⟨issued.1, some (q.session peerId),
    .roomJoined q.roomId peerId (some q.negotiated) (some serverVersion) issued.2 ::
      issued.1.lateJoinerSync q.roomId⟩

def roomJoin (s : SignalingServer) (q : JoinRequest) (nonce : String) : Joined :=
  match s.resumeHit q with
  | some (h, rest) =>
      let burned := { s with resumeTable := rest }
      match burned.gateDenied q h.peerId with
      | some detail => ⟨burned, none, [.error 4031 detail]⟩
      | none => burned.ackJoin q h.peerId nonce
  | none =>
      let cleared := s.takeover q
      match cleared.gateDenied q q.peerId with
      | some detail => ⟨cleared, none, [.error 4031 detail]⟩
      | none =>
          match cleared.enter q with
          | .error .roomFull => ⟨cleared, none, [.error 4002 "Room is full"]⟩
          | .ok joined => joined.ackJoin q q.peerId nonce

end SignalingServer

end MediaServo.Server
