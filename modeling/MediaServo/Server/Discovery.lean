import MediaServo.Server.Accounts
import MediaServo.Server.Handshake
import MediaServo.Server.Join

/-! The rooms that `GET /api/rooms` shows to the holder of an account token, and to the holder of the
PSK. -/

namespace MediaServo.Server

open MediaServo.Foundations MediaServo.Common

structure RoomEntry where
  roomId : String
  kind : String
  parent : Option String
  streams : Option (List String)
  deriving DecidableEq

structure RoomsError where
  status : ℕ
  error : String
  deriving DecidableEq

def rsplitOnce (c : Char) (s : String) : Option (String × String) :=
  (Lines.rsplitOnce c s.toList).map (Prod.map String.ofList String.ofList)

def roomKind (roomId : String) (isStreamRoom : Bool) : String :=
  if startsWith roomId "audio-" then "audio" else if isStreamRoom then "video" else "control"

def onlineStreamIds (status : FiniteMap String SignalingMessage) (roomId : String) : List String :=
  match status.get roomId with
  | some (.statusReport _ _ streams _ _ _ _ _ _ _ _) =>
      (streams.filter (·.connected)).map (·.id)
  | _ => []

def roomVisible (role : CockpitRole) (allowed : List String) (owner : Option String) : Bool :=
  match owner with
  | none => false
  | some o =>
      match role with
      | .admin | .dispatcher => true
      | .viewer | .operator => role.canPull o allowed

def CockpitRole.privileged : CockpitRole → Bool
  | .admin | .dispatcher => true
  | .viewer | .operator => false

/-- A stream of a vehicle room: the room it is in, the owner of the vehicle room, the stream. -/
structure Derived where
  room : String
  owner : String
  sid : String
  deriving DecidableEq

namespace SignalingServer

variable (s : SignalingServer)

/-- The ids of `room_manager.list_rooms()`. -/
def roomIds : List String := s.roomManager.toList.map Prod.fst

def derivedOf (roomId : String) : List Derived :=
  if startsWith roomId "audio-" then []
  else
    match s.roomOwnerOf roomId with
    | none => []
    | some owner =>
        (onlineStreamIds s.statusRegistry roomId).map
          (fun sid => ⟨roomId ++ "_" ++ sid, owner, sid⟩)

def derived : List Derived := s.roomIds.flatMap s.derivedOf

def joinedStreamRoom (id : String) : Bool :=
  match rsplitOnce '_' id with
  | none => false
  | some (base, _) =>
      !startsWith id "audio-" && !(onlineStreamIds s.statusRegistry base).isEmpty &&
        s.derived.any (·.room == id)

def streamRooms : List String :=
  s.derived.map (·.room) ++ s.roomIds.filter s.joinedStreamRoom

def derivedRoom (id : String) : Option (String × Derived) :=
  match rsplitOnce '_' id with
  | none => none
  | some (base, sid) =>
      if startsWith id "audio-" then none
      else (s.derived.find? (fun d => d.room == id && d.sid == sid)).map (fun d => (base, d))

def visibleStreams (role : CockpitRole) (vehicles : List String) (id : String) : List String :=
  (s.derived.filter (fun d =>
    ((rsplitOnce '_' d.room).map (·.1 == id)).getD false &&
      roomVisible role vehicles (some d.owner))).map (·.sid)

def roomEntry (role : CockpitRole) (vehicles : List String) (id : String) : Option RoomEntry :=
  match s.derivedRoom id with
  | some (base, d) =>
      if roomVisible role vehicles (some d.owner) then some ⟨id, "video", some base, none⟩ else none
  | none =>
      let streams := s.visibleStreams role vehicles id
      if roomVisible role vehicles (s.roomOwnerOf id) then
        some ⟨id, roomKind id (s.streamRooms.contains id), none,
          if streams.isEmpty then none else some streams⟩
      else none

end SignalingServer

def apikeyVehicles (claims : JwtClaims) : Option (List String) :=
  if startsWith claims.sub "apikey:" then some (claims.vehicles.getD []) else none

def listRooms (s : SignalingServer) (accounts : FiniteMap String AccountEntry)
    (claims : JwtClaims) : Except RoomsError (List RoomEntry) :=
  match claims.role.bind CockpitRole.parse with
  | none => .error ⟨401, "account role required"⟩
  | some role =>
      match accounts.get claims.sub, apikeyVehicles claims with
      | some a, _ =>
          if CockpitRole.parse a.role.asStr ≠ some role then
            .error ⟨401, "account role mismatch"⟩
          else .ok (s.roomIds.filterMap (s.roomEntry role a.vehicles))
      | none, some v => .ok (s.roomIds.filterMap (s.roomEntry role v))
      | none, none =>
          if role.privileged then .ok (s.roomIds.filterMap (s.roomEntry role []))
          else .ok []

/-- The accumulator of the comparison: the lengths, cast to a byte, and then the bytes up to the
shorter length. -/
def pskDiff (a b : List UInt8) : UInt8 :=
  (List.zipWith (· ^^^ ·) a b).foldl (· ||| ·) (UInt8.ofNat (a.length ^^^ b.length))

/-- What the walk over the rooms has made: the entries, the streams that are left of each base room,
and the ids of the stream rooms that were registered. -/
structure PskListing where
  rooms : List RoomEntry
  streamsOf : FiniteMap String (List String)
  emitted : List String

namespace PskListing

def entry (id kind : String) (parent : Option String) (streams : Option (List String)) : RoomEntry :=
  ⟨id, kind, parent, streams⟩

/-- The entry of a room that no base lists, with those of its streams that have no room. -/
def visitControl (l : PskListing) (id : String) : PskListing :=
  let streams := l.streamsOf.get id
  let unregistered := (streams.getD []).filter (fun sid => !l.emitted.contains (id ++ "_" ++ sid))
  { l with
    rooms := l.rooms ++ entry id "control" none streams ::
      unregistered.map (fun sid => entry (id ++ "_" ++ sid) "video" (some id) none)
    streamsOf := l.streamsOf.remove id }

def visitRoom (l : PskListing) (id : String) : PskListing :=
  if startsWith id "audio-" then { l with rooms := l.rooms ++ [entry id "audio" none none] }
  else
    match rsplitOnce '_' id with
    | none => l.visitControl id
    | some (base, sid) =>
        if sid ∈ (l.streamsOf.get base).getD [] then
          { l with rooms := l.rooms ++ [entry id "video" (some base) none], emitted := id :: l.emitted }
        else l.visitControl id

end PskListing

/-- The rooms that are neither audio rooms nor named like the room of a stream. -/
def isSource (id : String) : Bool := !startsWith id "audio-" && !id.toList.contains '_'

namespace SignalingServer

variable (s : SignalingServer)

def addStreams (acc : FiniteMap String (List String)) (id : String) :
    FiniteMap String (List String) :=
  if isSource id then
    (onlineStreamIds s.statusRegistry id).foldl
      (fun acc sid => acc.set id ((acc.get id).getD [] ++ [sid])) acc
  else acc

def streamsOf : FiniteMap String (List String) := s.roomIds.foldl s.addStreams ∅

def pskListing : List RoomEntry :=
  (s.roomIds.foldl PskListing.visitRoom ⟨[], s.streamsOf, []⟩).rooms

/-- `authorization` is the value of the header, where it is there and is text; `none` falls back to
the account tokens. -/
def pskDiscover (configured authorization : Option String) :
    Except RoomsError (Option (List RoomEntry)) :=
  match authorization.bind (stripPrefix "Psk ") with
  | none => .ok none
  | some secret =>
      match configured with
      | none => .error ⟨401, "psk authentication failed"⟩
      | some configured =>
          if pskDiff (asBytes configured) (asBytes secret) ≠ 0 then
            .error ⟨401, "psk authentication failed"⟩
          else .ok (some s.pskListing)

end SignalingServer

end MediaServo.Server
