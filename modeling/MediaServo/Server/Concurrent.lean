import MediaServo.Foundations.Runs
import MediaServo.Server.RoomManager
import MediaServo.Server.Sfu

/-! `join_room`, `create_webrtc_transport` and `ensure_router` as the worker threads run them:
any number of calls at once, each of their map accesses and awaits a step of its own. -/

namespace MediaServo.Server

open MediaServo.Foundations MediaServo.Common

inductive Call
  | join (roomId peerId : String) (role : PeerRole)
  | transport (roomId peerId : String) (direction : TransportDirection)
  | router (roomId : String)
  deriving DecidableEq

/-- `absent` follows a first access that found no room, `routerMade` the answer of the worker,
`routed` is a transport call that has its router, and `transportMade` one whose transport is
not stored yet. A call that elapses is dropped by its caller. -/
inductive CallPhase
  | called
  | absent
  | routerMade
  | routed
  | transportMade (t : TransportCreated)
  | succeeded (t : Option TransportCreated)
  | roomFull
  | failed (e : String)
  | dropped
  deriving DecidableEq

structure Concurrent where
  roomManager : RoomManager
  sfuManager : SfuManager
  calls : List (Call × CallPhase)

inductive CallAction
  | call (c : Call)
  | resume (i : ℕ) (w : Worker)

namespace Concurrent

def withRouter : Call → CallPhase
  | .transport _ _ _ => .routed
  | _ => .succeeded none

/-- One access of a call to the room map; a guard that is held makes test and update one. -/
def joinStep (rooms : RoomManager) (roomId peerId : String) (role : PeerRole) :
    CallPhase → RoomManager × CallPhase
  | .called =>
      match rooms.get roomId with
      | none => (rooms, .absent)
      | some _ =>
          match rooms.joinRoom roomId peerId role with
          | .ok joined => (joined, .succeeded none)
          | .error .roomFull => (rooms, .roomFull)
  | .absent => (rooms.set roomId (Room.fresh peerId role), .succeeded none)
  | phase => (rooms, phase)

def routerStep (sfu : SfuManager) (c : Call) (roomId : String) (w : Worker) :
    CallPhase → SfuManager × CallPhase
  | .called => (sfu, if sfu.contains roomId then withRouter c else .absent)
  | .absent =>
      match w.router with
      | .ok () => (sfu, .routerMade)
      | .failed e => (sfu, .failed s!"Failed to create router: {e}")
      | .elapsed => (sfu, .dropped)
  | .routerMade => (sfu.set roomId ⟨∅, ∅⟩, withRouter c)
  | phase => (sfu, phase)

def transportStep (sfu : SfuManager) (roomId peerId : String) (direction : TransportDirection)
    (w : Worker) : CallPhase → SfuManager × CallPhase
  | .routed =>
      match w.transport with
      | .ok t => (sfu, .transportMade t)
      | .failed e => (sfu, .failed s!"Failed to create transport: {e}")
      | .elapsed => (sfu, .dropped)
  | .transportMade t =>
      (sfu.setPeer roomId peerId (·.pushTransport direction t.transportId), .succeeded (some t))
  | phase => routerStep sfu (.transport roomId peerId direction) roomId w phase

def advance (s : Concurrent) (w : Worker) : Call → CallPhase → Concurrent × CallPhase
  | .join roomId peerId role, phase =>
      let (rooms, next) := joinStep s.roomManager roomId peerId role phase
      ({ s with roomManager := rooms }, next)
  | .transport roomId peerId direction, phase =>
      let (sfu, next) := transportStep s.sfuManager roomId peerId direction w phase
      ({ s with sfuManager := sfu }, next)
  | .router roomId, phase =>
      let (sfu, next) := routerStep s.sfuManager (.router roomId) roomId w phase
      ({ s with sfuManager := sfu }, next)

def step (s : Concurrent) : CallAction → Concurrent
  | .call c => { s with calls := s.calls ++ [(c, .called)] }
  | .resume i w =>
      match s.calls[i]? with
      | none => s
      | some (c, phase) =>
          let (t, next) := s.advance w c phase
          { t with calls := s.calls.set i (c, next) }

end Concurrent

end MediaServo.Server
