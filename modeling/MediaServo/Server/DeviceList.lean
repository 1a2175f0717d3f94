import MediaServo.Server.Discovery

/-! The rooms by the device they belong to. -/

namespace MediaServo.Server

open MediaServo.Foundations MediaServo.Common

structure Consumer where
  peerId : String
  connectedSince : String
  deriving DecidableEq

structure RoomRecord where
  id : String
  deviceId : Option String
  consumers : List Consumer
  createdAt : ℕ
  deriving DecidableEq

structure StreamSnapshot where
  streamId : String
  consumers : List Consumer
  online : Bool
  deriving DecidableEq

@[ext] structure DeviceSnapshot where
  deviceId : String
  onlineSince : ℕ
  streams : List StreamSnapshot
  deriving DecidableEq

namespace RoomRecord

variable (r : RoomRecord)

/-- The device that the room was made for, or the name of the room without that of a stream. -/
def device : String :=
  r.deviceId.getD (((rsplitOnce '_' r.id).map Prod.fst).getD r.id)

def reportStreams (status : FiniteMap String SignalingMessage) : List StreamSnapshot :=
  match status.get r.id with
  | some (.statusReport _ _ streams _ _ _ _ _ _ _ _) =>
      streams.map fun sf => ⟨sf.id, r.consumers, sf.connected⟩
  | _ => []

end RoomRecord

def DeviceSnapshot.update (status : FiniteMap String SignalingMessage) (entry : DeviceSnapshot)
    (r : RoomRecord) : DeviceSnapshot :=
  let entry :=
    if r.createdAt < entry.onlineSince then { entry with onlineSince := r.createdAt } else entry
  if (r.reportStreams status).isEmpty then entry
  else { entry with streams := r.reportStreams status }

def visitDevice (status : FiniteMap String SignalingMessage)
    (devices : FiniteMap String DeviceSnapshot) (r : RoomRecord) : FiniteMap String DeviceSnapshot :=
  devices.set r.device
    (((devices.get r.device).getD ⟨r.device, r.createdAt, []⟩).update status r)

/-- `RoomManager::list_devices`, with the rooms in the order in which the map gives them. -/
def listDevices (status : FiniteMap String SignalingMessage) (rooms : List RoomRecord) :
    List DeviceSnapshot :=
  (rooms.foldl (visitDevice status) ∅).toList.map Prod.snd

end MediaServo.Server
