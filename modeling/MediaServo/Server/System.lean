import MediaServo.Foundations.Runs
import MediaServo.Server.Join
import MediaServo.Server.Relay

/-! The server with its connections: sessions, delayed cleanups and administrators act on the
shared tables in any order. Each action is the code between two suspension points. -/

namespace MediaServo.Server

open MediaServo.Foundations MediaServo.Common

structure Conn where
  session : Session
  live : Bool
  deriving DecidableEq

/-- A delayed cleanup: the task that runs when the retention window of a session expires. -/
structure Hold where
  peerId : String
  roomId : String
  key : String × String
  seq : ℕ
  deriving DecidableEq

/-- Sessions are listed newest first, and stay listed after they ended. -/
structure System where
  server : SignalingServer
  sessions : List Conn
  holds : List Hold

inductive Action
  | join (q : JoinRequest) (nonce : String)
  | message (i : ℕ) (msg : SignalingMessage) (w : Worker)
  | close (i : ℕ)
  | expire (i : ℕ)
  | kickPeer (peerId : String)
  | removeRoom (roomId : String)

def Session.key (c : Session) : String × String := (identityKey c.identity, c.roomId)

namespace SignalingServer

def heldSeq (s : SignalingServer) (c : Session) : Option ℕ :=
  match s.resumeTable.get c.key with
  | some h => if h.peerId = c.peerId then some h.seq else none
  | none => none

def Effective (s : SignalingServer) (h : Hold) : Prop :=
  ∃ t, s.resumeTable.get h.key = some t ∧ t.seq = h.seq

instance (s : SignalingServer) (h : Hold) : Decidable (s.Effective h) :=
  match hg : s.resumeTable.get h.key with
  | some t => decidable_of_iff (t.seq = h.seq) (by simp [Effective, hg])
  | none => isFalse (by simp [Effective, hg])

def kickPeer (s : SignalingServer) (peerId : String) : SignalingServer :=
  let rooms := (s.roomManager.toList.filter (fun e => e.2.Member peerId)).map Prod.fst
  if rooms.isEmpty then s
  else ({ s with roomManager := rooms.foldl (fun m r => (m.leaveRoom r peerId).1) s.roomManager }).emit
    (.consumerLeave peerId "" "")

def removeRoom (s : SignalingServer) (roomId : String) : SignalingServer :=
  if s.roomManager.contains roomId then
    ({ s with roomManager := s.roomManager.remove roomId }).emit (.deviceOffline roomId)
  else s

end SignalingServer

namespace System

def init : System := ⟨.init, [], []⟩

def live (sys : System) (i : ℕ) : Option Session :=
  match sys.sessions[i]? with
  | some ⟨c, true⟩ => some c
  | _ => none

def join (sys : System) (q : JoinRequest) (nonce : String) : System :=
  let r := sys.server.roomJoin q nonce
  match r.session with
  | some c => { sys with server := r.server, sessions := ⟨c, true⟩ :: sys.sessions }
  | none => { sys with server := r.server }

def close (sys : System) (i : ℕ) : System :=
  match sys.live i with
  | none => sys
  | some c =>
      let sessions := sys.sessions.set i ⟨c, false⟩
      match sys.server.heldSeq c with
      | some seq => { sys with
          sessions := sessions
          holds := ⟨c.peerId, c.roomId, c.key, seq⟩ :: sys.holds }
      | none => { sys with
          sessions := sessions
          server := sys.server.disconnectSession c.peerId c.roomId }

def message (sys : System) (i : ℕ) (msg : SignalingMessage) (w : Worker) : System :=
  match sys.live i with
  | none => sys
  | some c =>
      let r := sys.server.relayMessage c msg w
      let relayed := { sys with server := r.server }
      if r.ended then relayed.close i else relayed

def expire (sys : System) (i : ℕ) : System :=
  match sys.holds[i]? with
  | none => sys
  | some h =>
      let rest := { sys with holds := sys.holds.eraseIdx i }
      if sys.server.Effective h then
        let taken := { sys.server with resumeTable := sys.server.resumeTable.remove h.key }
        { rest with server := taken.disconnectSession h.peerId h.roomId }
      else rest

def step (sys : System) : Action → System
  | .join q nonce => sys.join q nonce
  | .message i msg w => sys.message i msg w
  | .close i => sys.close i
  | .expire i => sys.expire i
  | .kickPeer p => { sys with server := sys.server.kickPeer p }
  | .removeRoom r => { sys with server := sys.server.removeRoom r }

def latest (sys : System) (device roomId : String) : Option Conn :=
  sys.sessions.find? (fun c => c.session.identity = .device device ∧ c.session.roomId = roomId)

end System

end MediaServo.Server
