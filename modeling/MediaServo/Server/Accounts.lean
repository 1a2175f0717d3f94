import MediaServo.Server.Devices

/-! The registries of cockpit accounts and of API keys, as the admin API changes them. -/

namespace MediaServo.Server

open MediaServo.Foundations
open Digits (hex)

private def wordChar (ch : Char) : Bool := ch.isAlphanum || ch == '-' || ch == '_'

/-- One to 64 characters of `[A-Za-z0-9-_]`. -/
private def word (s : String) : Bool :=
  !(s.isEmpty || decide (64 < s.utf8ByteSize) || !s.toList.all wordChar)

structure AccountEntry where
  passwordHash : String
  role : CockpitRole
  vehicles : List String
  deriving DecidableEq

structure AccountEntryFile where
  passwordHash : String
  role : String
  vehicles : List String
  deriving DecidableEq

def AccountEntry.file (e : AccountEntry) : AccountEntryFile :=
  ⟨e.passwordHash, e.role.asStr, e.vehicles⟩

inductive AccountRegError
  | duplicate
  | unknown
  | invalidRole (role : String)
  | invalidVehicles (message : String)
  deriving DecidableEq

def Crypto.hashPassword (c : Crypto) (username password : String) : String :=
  c.hashSecret username password

namespace AccountRegistry

abbrev Accounts := FiniteMap String AccountEntry

def validateVehicles (vehicles : List String) : Except AccountRegError Unit :=
  if vehicles.any (fun v => !word v) then
    .error (.invalidVehicles "vehicles: each item 1-64 chars [A-Za-z0-9-_]")
  else .ok ()

def createAccount (c : Crypto) (m : Accounts) (username password role : String)
    (vehicles : List String) : Except AccountRegError Accounts :=
  match CockpitRole.parse role with
  | none => .error (.invalidRole role)
  | some r =>
      match validateVehicles vehicles with
      | .error e => .error e
      | .ok () =>
          if m.contains username then .error .duplicate
          else .ok (m.set username ⟨c.hashPassword username password, r, vehicles⟩)

def parseRole : Option String → Except AccountRegError (Option CockpitRole)
  | none => .ok none
  | some r =>
      match CockpitRole.parse r with
      | none => .error (.invalidRole r)
      | some role => .ok (some role)

def updateAccount (c : Crypto) (m : Accounts) (username : String) (role : Option String)
    (vehicles : Option (List String)) (newPassword : Option String) :
    Except AccountRegError Accounts :=
  match parseRole role with
  | .error e => .error e
  | .ok r =>
      match validateVehicles (vehicles.getD []) with
      | .error e => .error e
      | .ok () =>
          match m.get username with
          | none => .error .unknown
          | some e =>
              .ok (m.set username
                ⟨(newPassword.map (c.hashPassword username)).getD e.passwordHash, r.getD e.role,
                  vehicles.getD e.vehicles⟩)

def deleteAccount (m : Accounts) (username : String) : Except AccountRegError Accounts :=
  if m.contains username then .ok (m.remove username) else .error .unknown

end AccountRegistry

/-- The digest is kept as bytes: what is hashed is written in hex and decoded again. -/
structure ApiKeyEntry where
  secretHash : List UInt8
  role : CockpitRole
  vehicles : List String
  label : Option String
  deriving DecidableEq

structure ApiKeyEntryFile where
  secretHash : String
  role : String
  vehicles : Option (List String)
  label : Option String
  deriving DecidableEq

def ApiKeyEntry.file (e : ApiKeyEntry) : ApiKeyEntryFile :=
  ⟨"sha256:" ++ hex e.secretHash, e.role.asStr,
    if e.vehicles.isEmpty then none else some e.vehicles, e.label⟩

inductive ApiKeyRegError
  | duplicate
  | unknown
  | invalid (message : String)
  deriving DecidableEq

namespace ApiKeyRegistry

abbrev Keys := FiniteMap String ApiKeyEntry

def validKeyId (id : String) : Bool := word id

/-- `secret` is the uuid that the server draws. -/
def register (c : Crypto) (m : Keys) (keyId role : String) (vehicles : List String)
    (label : Option String) (secret : String) : Except ApiKeyRegError Keys :=
  if !validKeyId keyId then .error (.invalid "key_id: 1-64 chars [A-Za-z0-9-_]")
  else
    match CockpitRole.parse role with
    | none => .error (.invalid "role: viewer|operator|admin|dispatcher")
    | some r =>
        if m.contains keyId then .error .duplicate
        else
          .ok (m.set keyId ⟨c.sha256 (asBytes keyId ++ asBytes ":" ++ asBytes secret), r, vehicles,
            label⟩)

def revoke (m : Keys) (keyId : String) : Except ApiKeyRegError Keys :=
  if m.contains keyId then .ok (m.remove keyId) else .error .unknown

end ApiKeyRegistry

end MediaServo.Server
