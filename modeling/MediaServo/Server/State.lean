import MediaServo.Server.RoomManager
import MediaServo.Server.Sfu
import MediaServo.Server.Resume

/-! The signaling server's shared tables, the announcement of closed producers and the teardown
of a session. -/

namespace MediaServo.Server

open MediaServo.Foundations MediaServo.Common

inductive AdminEvent
  | streamCreate (deviceId streamId : String)
  | streamDestroy (deviceId streamId : String)
  | consumerLeave (peerId deviceId streamId : String)
  | deviceOffline (deviceId : String)
  deriving DecidableEq

/-- `sent` lists what was put on the room channels, with the channel's room, oldest first. -/
structure SignalingServer where
  roomManager : RoomManager
  sfuManager : SfuManager
  resumeTable : ResumeTable
  resumeSeq : ℕ
  deviceBindings : FiniteMap String String
  roomOwners : FiniteMap String String
  producerOwners : FiniteMap String String
  statusRegistry : FiniteMap String SignalingMessage
  pendingMessages : FiniteMap String (List SignalingMessage)
  adminEvents : List AdminEvent
  sent : List (String × SignalingMessage)

abbrev Closed := List (String × MediaKind)

def sessionKey (peerId : String) : String := "session:" ++ peerId

def groupClosedByRoom (list : List (String × String × MediaKind)) : List (String × Closed) :=
  (list.foldl (fun (acc : FiniteMap String Closed) e =>
    acc.set e.1 ((acc.get e.1).getD [] ++ [e.2])) ∅).toList

namespace SignalingServer

def init : SignalingServer := ⟨∅, ∅, ∅, 0, ∅, ∅, ∅, ∅, ∅, [], []⟩

def deviceIdOf (s : SignalingServer) (peerId : String) : Option String := s.deviceBindings.get peerId

def roomOwnerOf (s : SignalingServer) (roomId : String) : Option String := s.roomOwners.get roomId

def send (s : SignalingServer) (roomId : String) (msg : SignalingMessage) : SignalingServer :=
  { s with sent := s.sent ++ [(roomId, msg)] }

def emit (s : SignalingServer) (e : AdminEvent) : SignalingServer :=
  { s with adminEvents := s.adminEvents ++ [e] }

def forgetRoom (s : SignalingServer) (roomId : String) : SignalingServer :=
  { s with
    statusRegistry := s.statusRegistry.remove roomId
    roomOwners := s.roomOwners.remove roomId }

def closedMessage (roomId reporter : String) (c : String × MediaKind) : String × SignalingMessage :=
  (roomId, .producerClosed roomId reporter c.1 c.2 (some "peer_disconnected"))

def disown (s : SignalingServer) (ids : List String) : SignalingServer :=
  { s with producerOwners := ids.foldl FiniteMap.remove s.producerOwners }

def deferredCleanup (s : SignalingServer) (roomId : String) : SignalingServer :=
  if shouldDeferredCleanup (!s.roomManager.contains roomId) (s.sfuManager.roomHasProducers roomId)
  then s.forgetRoom roomId else s

def announceProducersClosed (s : SignalingServer) (roomId reporter : String)
    (device : Option String) (closed : Closed) : SignalingServer :=
  if closed.isEmpty then s
  else
    let told := { s with sent := s.sent ++ closed.map (closedMessage roomId reporter) }
    let synced := match device with
      | some d => (told.disown (closed.map Prod.fst)).emit (.streamDestroy d roomId)
      | none => told
    synced.deferredCleanup roomId

def announceRooms (s : SignalingServer) (reporter : String) (device : Option String)
    (rooms : List (String × Closed)) : SignalingServer :=
  rooms.foldl (fun s e => s.announceProducersClosed e.1 reporter device e.2) s

def cleanupGlobal (s : SignalingServer) (peerId : String) : SignalingServer :=
  let removed := s.sfuManager.removePeerGlobal peerId
  ({ s with sfuManager := removed.1 }).announceRooms peerId (s.deviceIdOf peerId) removed.2

def ownedBy (s : SignalingServer) (owner : String) : List String :=
  (s.producerOwners.toList.filter (fun e => e.2 = owner)).map Prod.fst

def reclaim (s : SignalingServer) (peerId owner : String) (device : Option String) :
    SignalingServer :=
  let mine := s.ownedBy owner
  if mine.isEmpty then s
  else
    let removed := s.sfuManager.removeProducersByIds mine
    (({ s with sfuManager := removed.1 }).disown mine).announceRooms peerId device
      (groupClosedByRoom removed.2)

def reclaimSession (s : SignalingServer) (peerId : String) : SignalingServer :=
  s.reclaim peerId (sessionKey peerId) none

def reclaimDevice (s : SignalingServer) (peerId : String) : SignalingServer :=
  match s.deviceIdOf peerId with
  | some d => s.reclaim peerId d (some d)
  | none => s

/-- Leave the room, release the binding, and drop the consumers of a departing host. The flag
says that the room became empty when the peer left it. -/
def leaveSession (s : SignalingServer) (peerId roomId : String) : SignalingServer × Bool :=
  let isDeviceStreamHost := s.roomManager.isDeviceStream roomId &&
    (s.roomManager.hostOf roomId == some peerId)
  let left := s.roomManager.leaveRoom roomId peerId
  let rooms := if isDeviceStreamHost then (RoomManager.disconnectConsumers left.1 roomId).1 else left.1
  ({ s with roomManager := rooms, deviceBindings := s.deviceBindings.remove peerId }, left.2)

def teardown (s : SignalingServer) (roomId : String) (roomRemoved : Bool) : SignalingServer :=
  if shouldTeardown roomRemoved (s.sfuManager.roomHasProducers roomId) then
    ({ s with sfuManager := s.sfuManager.removeRoom roomId }).forgetRoom roomId
  else s

def disconnectSession (s : SignalingServer) (peerId roomId : String) : SignalingServer :=
  let cleaned := ((s.cleanupGlobal peerId).reclaimSession peerId).reclaimDevice peerId
  let left := cleaned.leaveSession peerId roomId
  (left.1.teardown roomId left.2).send roomId (.roomLeave roomId peerId)

end SignalingServer

end MediaServo.Server
