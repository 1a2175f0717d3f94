import MediaServo.Foundations.Lines
import MediaServo.Server.Persistence
import MediaServo.Server.Resume
import MediaServo.Server.Roles

/-! The first phase of a connection, before RoomJoin: the token of the request, then the PSK frame.
Then the claims of the tokens that a login and an exchange of an API key issue, and which requests for
accounts come through to the registry. -/

namespace MediaServo.Server

open MediaServo.Foundations MediaServo.Common

structure JwtClaims where
  sub : String
  iat : ℕ
  exp : ℕ
  role : Option String
  vehicles : Option (List String)
  deriving DecidableEq

/-- What `receiver.next()` gives; `elapsed` stands for the end of the PSK wait, and the end of
the list for the end of the stream. -/
inductive WsEvent
  | text (s : String)
  | binary (bytes : List UInt8)
  | ping
  | pong
  | close
  | failed
  | elapsed
  deriving DecidableEq

/-- `jwtAuth` is `JwtAuth::verify` under the configured secret (crate `jsonwebtoken`), and
`hmacSha256` the keyed digest of the crates `hmac` and `sha2`. -/
structure AuthConfig where
  psk : Option String
  jwtAuth : Option (String → Except String JwtClaims)
  hmacSha256 : List UInt8 → List UInt8 → List UInt8

inductive Phase1
  | refused (error : Option SignalingMessage)
  | entered (peerId : String) (account : Option AccountIdentity) (rest : List WsEvent)
  deriving DecidableEq

def Phase1.sent : Phase1 → List SignalingMessage
  | .refused error => error.toList
  | .entered _ _ _ => [.error 0 "authenticated"]

namespace AuthConfig

variable (cfg : AuthConfig)

def sign (psk challenge : String) : List UInt8 :=
  (cfg.hmacSha256 (asBytes psk) (asBytes challenge)).take 8

def accountPeerId (sub uuid : String) : String :=
  s!"{sub}-{String.ofList (uuid.toList.take 8)}"

/-- `none` when no token is verified; otherwise the refusal, or the peer id and the account. -/
def jwtPhase (uuid : String) (token : Option String) :
    Option (Except SignalingMessage (String × Option AccountIdentity)) :=
  match cfg.jwtAuth, token with
  | some verify, some t =>
      match verify t with
      | .error _ => some (.error (.error 4013 "JWT invalid or expired"))
      | .ok claims =>
          match claims.role with
          | none => some (.ok (claims.sub, none))
          | some r =>
              match CockpitRole.parse r with
              | none => some (.error (.error 4011 s!"token role {Lines.debugString r} not recognized"))
              | some role => some (.ok (accountPeerId claims.sub uuid,
                  some ⟨claims.sub, role, claims.vehicles.getD []⟩))
  | _, _ => none

def pskPhase (psk peerId : String) : List WsEvent → Phase1
  | .elapsed :: _ => .refused none
  | .text t :: rest =>
      if cfg.sign psk peerId = cfg.sign psk t ∨ t = psk then .entered peerId none rest
      else .refused (some (.error 4003 "PSK authentication failed"))
  | _ => .refused (some (.error 4003 "Authentication required"))

/-- Two uuids may be drawn: the peer id of the connection, and the suffix of an account's. -/
def phase1 (peerId uuid : String) (token : Option String) (events : List WsEvent) : Phase1 :=
  match cfg.jwtPhase uuid token with
  | some (.error e) => .refused (some e)
  | some (.ok (p, account)) => .entered p account events
  | none =>
      match cfg.psk with
      | none => .entered peerId none events
      | some psk => cfg.pskPhase psk peerId events

end AuthConfig

def usernameDenied (username : String) : Option String :=
  if username.isEmpty ∨ 64 < username.utf8ByteSize then some "invalid username: 1-64 chars" else none

def AccountOp.denied : AccountOp → Option String
  | .create username _ _ _ => usernameDenied username
  | .update .. | .delete _ => none

def admitted (c : Crypto) (acts : List (Persistence.Action (accountRegistry c))) :
    List (Persistence.Action (accountRegistry c)) :=
  acts.filter fun
    | .start _ op => (AccountOp.denied op).isNone
    | .next _ _ => true

def AccountEntry.identity (username : String) (e : AccountEntry) : AccountIdentity :=
  ⟨username, e.role, e.vehicles⟩

def accountToken (identity : AccountIdentity) (now ttl : ℕ) : JwtClaims where
  sub := identity.username
  iat := now
  exp := now + ttl
  role := some identity.role.asStr
  vehicles := some identity.vehicles

def apiToken (keyId : String) (e : ApiKeyEntry) (now ttl : ℕ) : JwtClaims where
  sub := "apikey:" ++ keyId
  iat := now
  exp := now + ttl
  role := some e.role.asStr
  vehicles := some e.vehicles

end MediaServo.Server
