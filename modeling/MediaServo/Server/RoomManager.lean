import MediaServo.Foundations.FiniteMap
import MediaServo.Common.Protocol

/-! The room manager: which peers are joined to which room, and in which slot. -/

namespace MediaServo.Server

open MediaServo.Foundations MediaServo.Common

structure Room where
  host : Option String
  remote : Option String
  consumers : List String
  deriving DecidableEq

namespace Room

def occupied (r : Room) : Bool := r.host.isSome || r.remote.isSome || !r.consumers.isEmpty

def Member (r : Room) (p : String) : Prop := r.host = some p ∨ r.remote = some p ∨ p ∈ r.consumers

instance (r : Room) (p : String) : Decidable (r.Member p) :=
  inferInstanceAs (Decidable (_ ∨ _ ∨ _))

def fresh (p : String) : PeerRole → Room
  | .host => ⟨some p, none, []⟩
  | .remote => ⟨none, some p, []⟩
  | .consumer => ⟨none, none, [p]⟩

def without (r : Room) (p : String) : Room where
  host := if r.host = some p then none else r.host
  remote := if r.remote = some p then none else r.remote
  consumers := r.consumers.filter (· ≠ p)

end Room

inductive JoinError
  | roomFull
  deriving DecidableEq

abbrev RoomManager := FiniteMap String Room

namespace RoomManager

def joinRoom (rooms : RoomManager) (roomId peerId : String) (role : PeerRole) :
    Except JoinError RoomManager :=
  match rooms.get roomId with
  | some room =>
      match role with
      | .host =>
          if room.host.isSome then .error .roomFull
          else .ok (rooms.set roomId { room with host := some peerId })
      | .remote | .consumer =>
          .ok (rooms.set roomId { room with consumers := room.consumers ++ [peerId] })
  | none => .ok (rooms.set roomId (Room.fresh peerId role))

def sweep (rooms : RoomManager) : RoomManager := rooms.retain (fun _ r => r.occupied)

def leaveRoom (rooms : RoomManager) (roomId peerId : String) : RoomManager × Bool :=
  let left := sweep (rooms.adjust roomId (·.without peerId))
  (left, !left.contains roomId)

def disconnectConsumers (rooms : RoomManager) (roomId : String) : RoomManager × List String :=
  (sweep (rooms.adjust roomId ({ · with consumers := [] })),
    ((rooms.get roomId).map Room.consumers).getD [])

def isDeviceStream (rooms : RoomManager) (roomId : String) : Bool := rooms.contains roomId

def hostOf (rooms : RoomManager) (roomId : String) : Option String :=
  (rooms.get roomId).bind Room.host

def removeRoom (rooms : RoomManager) (roomId : String) : RoomManager := rooms.remove roomId

def connectedPeers (rooms : RoomManager) : ℕ :=
  (rooms.toList.map (fun e =>
    e.2.host.isSome.toNat + e.2.remote.isSome.toNat + e.2.consumers.length)).sum

def Member (rooms : RoomManager) (roomId p : String) : Prop :=
  ∃ r, rooms.get roomId = some r ∧ r.Member p

end RoomManager

inductive RoomCall
  | join (roomId peerId : String) (role : PeerRole)
  | leave (roomId peerId : String)
  | disconnectConsumers (roomId : String)
  | remove (roomId : String)
  deriving DecidableEq

def RoomManager.step (rooms : RoomManager) : RoomCall → RoomManager
  | .join roomId peerId role =>
      match rooms.joinRoom roomId peerId role with
      | .ok joined => joined
      | .error _ => rooms
  | .leave roomId peerId => (rooms.leaveRoom roomId peerId).1
  | .disconnectConsumers roomId => (rooms.disconnectConsumers roomId).1
  | .remove roomId => rooms.removeRoom roomId

end MediaServo.Server
