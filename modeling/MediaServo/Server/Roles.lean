import MediaServo.Common.Protocol

/-! The cockpit role matrix and the gates that a session identity has to pass. -/

namespace MediaServo.Server

open MediaServo.Common

inductive CockpitRole
  | viewer
  | operator
  | admin
  | dispatcher
  deriving DecidableEq

namespace CockpitRole

def parse : String → Option CockpitRole
  | "viewer" => some .viewer
  | "operator" => some .operator
  | "admin" => some .admin
  | "dispatcher" => some .dispatcher
  | _ => none

def asStr : CockpitRole → String
  | .viewer => "viewer"
  | .operator => "operator"
  | .admin => "admin"
  | .dispatcher => "dispatcher"

def canPull (r : CockpitRole) (vehicle : String) (allowed : List String) : Bool :=
  match r with
  | .admin | .dispatcher => true
  | .viewer | .operator => allowed.any (· == vehicle)

def canControl : CockpitRole → Bool
  | .operator | .admin => true
  | .viewer | .dispatcher => false

def canEmergency : CockpitRole → Bool
  | .operator | .admin => true
  | .viewer | .dispatcher => false

end CockpitRole

structure AccountIdentity where
  username : String
  role : CockpitRole
  vehicles : List String
  deriving DecidableEq

def AccountIdentity.canAccessVehicle (a : AccountIdentity) (vehicle : String) : Bool :=
  a.role.canPull vehicle a.vehicles

inductive SessionIdentity
  | device (id : String)
  | account (a : AccountIdentity)
  | legacy
  deriving DecidableEq

def isAudioRoom (roomId : String) : Bool := startsWith roomId "audio-"

namespace SessionIdentity

def isDevice : SessionIdentity → Bool
  | .device _ => true
  | _ => false

def deviceId : SessionIdentity → Option String
  | .device d => some d
  | _ => none

private def noAccess (a : AccountIdentity) (v : String) : String :=
  s!"account {a.username} role {a.role.asStr} has no access to vehicle {v}"

/-- The reason for denial, `none` when the join is allowed. -/
def joinVehicleRoom (id : SessionIdentity) (roomOwner : Option String) : Option String :=
  match id, roomOwner with
  | .device d, some owner =>
      if owner = d then none
      else some s!"device {d} cannot join room owned by another vehicle {owner}"
  | .account a, some owner =>
      if a.canAccessVehicle owner then none else some (noAccess a owner)
  | _, _ => none

def hostJoinDenied : SessionIdentity → Option String
  | .account _ => some "cockpit accounts cannot join as host role"
  | .device _ | .legacy => none

def canControl : SessionIdentity → Bool
  | .account a => a.role.canControl
  | .device _ | .legacy => true

def canProduce (id : SessionIdentity) (roomId : String) : Except String Unit :=
  match id with
  | .account a =>
      if isAudioRoom roomId then .ok ()
      else .error
        s!"account {a.username} role {a.role.asStr} cannot produce media (cockpit is consume-only)"
  | .device _ | .legacy => .ok ()

def canConsume (id : SessionIdentity) (producerOwner : Option String) : Except String Unit :=
  match id, producerOwner with
  | .account a, some v =>
      if a.canAccessVehicle v then .ok () else .error (noAccess a v)
  | _, _ => .ok ()

def canEmergency (id : SessionIdentity) (roomOwner : Option String) : Except String Unit :=
  match id with
  | .account a =>
      if a.role.canEmergency then
        match roomOwner with
        | some v => if a.canAccessVehicle v then .ok () else .error (noAccess a v)
        | none => .error "vehicle room has no owner (vehicle offline)"
      else .error
        s!"account {a.username} role {a.role.asStr} cannot send emergency (operator/admin only)"
  | .device d => .error s!"device {d} cannot send emergency (receiver side)"
  | .legacy => .ok ()

end SessionIdentity

end MediaServo.Server
