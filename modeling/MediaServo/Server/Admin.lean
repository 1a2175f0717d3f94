import MediaServo.Server.System

/-! What administrators do: the requests of the admin API that are meant for rooms and peers, and the
events socket. The SFU messages of a socket go to the SFU manager directly, under the room and the
peer that they name; a socket that ends leaves the SFU as it is. -/

namespace MediaServo.Server

open MediaServo.Foundations MediaServo.Common

section Routes

inductive Method
  | get
  | post
  | put
  | delete
  deriving DecidableEq

inductive AdminHandler
  | listRooms
  | getRoom
  | removeRoom
  | kickPeer
  | stats
  | listStatus
  | serverConfig
  | pushConfig
  | listDevices
  | registerDevice
  | revokeDevice
  | resetDeviceSecret
  | listPendingDevices
  | approvePendingDevice
  | listAccounts
  | createAccount
  | updateAccount
  | deleteAccount
  | listApiKeys
  | registerApiKey
  | revokeApiKey
  | getPsk
  | rotatePsk
  | wsEvents
  | sfuRooms
  | sfuStats
  deriving DecidableEq

def adminRouter : List (String × List (Method × AdminHandler)) :=
  [("/api/admin/rooms", [(.get, .listRooms)]),
    ("/api/admin/rooms/\x7bid\x7d", [(.get, .getRoom), (.delete, .removeRoom)]),
    ("/api/admin/peers/\x7bid\x7d", [(.delete, .kickPeer)]),
    ("/api/admin/stats", [(.get, .stats)]),
    ("/api/admin/status", [(.get, .listStatus)]),
    ("/api/admin/config", [(.get, .serverConfig)]),
    ("/api/admin/config/push", [(.post, .pushConfig)]),
    ("/api/admin/devices", [(.get, .listDevices), (.post, .registerDevice)]),
    ("/api/admin/devices/:device_id", [(.delete, .revokeDevice)]),
    ("/api/admin/devices/:device_id/reset-secret", [(.post, .resetDeviceSecret)]),
    ("/api/admin/devices/pending", [(.get, .listPendingDevices)]),
    ("/api/admin/devices/approve", [(.post, .approvePendingDevice)]),
    ("/api/admin/accounts", [(.get, .listAccounts), (.post, .createAccount)]),
    ("/api/admin/accounts/:username", [(.put, .updateAccount), (.delete, .deleteAccount)]),
    ("/api/admin/apikeys", [(.get, .listApiKeys), (.post, .registerApiKey)]),
    ("/api/admin/apikeys/:key_id", [(.delete, .revokeApiKey)]),
    ("/api/admin/psk", [(.get, .getPsk), (.post, .rotatePsk)]),
    ("/api/admin/events", [(.get, .wsEvents)]),
    ("/api/admin/sfu/rooms", [(.get, .sfuRooms)]),
    ("/api/admin/sfu/stats", [(.get, .sfuStats)])]

/-- What is left to the web framework: the template that a path matches, with what its parameters
capture, and the one parameter that `Path<String>` takes. -/
structure Axum where
  lookup : List String → String → Option (String × List (String × String))
  pathString : List (String × String) → Option String

/-- The role that `check_auth` finds, or its error. -/
structure AdminRequest where
  method : Method
  path : String
  role : Except String String

inductive KickReply
  | kicked (peerId : String) (fromRooms : List String)
  | removed (roomId : String)
  | refused (code : ℕ) (error : String)
  deriving DecidableEq

/-- `auth_middleware`: what is refused. -/
def AdminRequest.denied (req : AdminRequest) : Option String :=
  match req.role with
  | .error e => some e
  | .ok role =>
      if role = "admin" then none
      else if role ≠ "dispatcher" then some "admin or dispatcher role required"
      else if req.method = .get ∧ ¬startsWith req.path "/api/admin/config" ∧
          ¬startsWith req.path "/api/admin/psk" then none
      else some "dispatcher role is read-only"

namespace System

def kickedRooms (sys : System) (peerId : String) : List String :=
  (sys.server.roomManager.toList.filter (fun e => e.2.Member peerId)).map Prod.fst

def kickReply (sys : System) (peerId : String) : KickReply :=
  if (sys.kickedRooms peerId).isEmpty then .refused 404 s!"peer {peerId} not found in any room"
  else .kicked peerId (sys.kickedRooms peerId)

def removeReply (sys : System) (roomId : String) : KickReply :=
  if sys.server.roomManager.contains roomId then .removed roomId
  else .refused 404 s!"room {roomId} not found"

/-- A request of the admin API; `none` where another handler serves it. -/
def serve (ax : Axum) (sys : System) (req : AdminRequest) : Option (System × KickReply) :=
  match req.denied with
  | some e => some (sys, .refused 401 e)
  | none =>
      match ax.lookup (adminRouter.map Prod.fst) req.path with
      | none => some (sys, .refused 404 "")
      | some (template, captured) =>
          match ((adminRouter.lookup template).getD []).lookup req.method with
          | none => some (sys, .refused 405 "")
          | some .kickPeer =>
              match ax.pathString captured with
              | none => some (sys, .refused 500 "")
              | some peerId => some (sys.step (.kickPeer peerId), sys.kickReply peerId)
          | some .removeRoom =>
              match ax.pathString captured with
              | none => some (sys, .refused 500 "")
              | some roomId => some (sys.step (.removeRoom roomId), sys.removeReply roomId)
          | some _ => none

end System

end Routes

/-- The SFU after a message, and the response if there is one. No timeout bounds the calls. -/
def handleAdminSfu (sfu : SfuManager) (msg : SignalingMessage) (w : Worker) :
    SfuManager × Option SignalingMessage :=
  match msg with
  | .createWebRtcTransport roomId peer direction =>
      match sfu.createWebrtcTransport roomId peer direction w with
      | (sfu', .ok t) => (sfu', some (.webRtcTransportCreated roomId peer t.transportId
          t.iceParameters t.dtlsParameters (some t.iceCandidates) t.sctpParameters))
      | (sfu', .failed e) => (sfu', some (.error 5000 s!"Transport creation failed: {e}"))
      | (sfu', .elapsed) => (sfu', none)
  | .connectWebRtcTransport roomId peer transportId _ =>
      match sfu.connectTransport roomId peer transportId w with
      | .ok () => (sfu, some (.error 0 "transport_connected"))
      | .error e => (sfu, some (.error 5000 s!"Connect failed: {e}"))
  | .consume roomId peer producerId _ transportId =>
      match sfu.createConsumer roomId peer producerId transportId w with
      | .ok (sfu', id, kind, rtp) => (sfu', some (.consumed roomId id producerId kind rtp))
      | .error e => (sfu, some (.error 5000 s!"Consumer creation failed: {e}"))
  | _ => (sfu, none)

/-- The server with its signaling connections, and which events sockets are open. -/
structure AdminSystem where
  system : System
  sockets : List Bool

inductive AdminAction
  | signaling (a : Action)
  | connect
  | text (i : ℕ) (msg : SignalingMessage) (w : Worker)
  | close (i : ℕ)

namespace AdminSystem

def init : AdminSystem := ⟨.init, []⟩

def withSfu (sys : System) (sfu : SfuManager) : System :=
  { sys with server := { sys.server with sfuManager := sfu } }

def step (s : AdminSystem) : AdminAction → AdminSystem
  | .signaling a => { s with system := s.system.step a }
  | .connect => { s with sockets := s.sockets ++ [true] }
  | .text i msg w =>
      if s.sockets[i]? = some true then
        { s with system :=
            withSfu s.system (handleAdminSfu s.system.server.sfuManager msg w).1 }
      else s
  | .close i => { s with sockets := s.sockets.set i false }

end AdminSystem

end MediaServo.Server
