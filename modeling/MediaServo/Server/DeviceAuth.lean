import MediaServo.Foundations.Lines
import MediaServo.Foundations.Runs
import MediaServo.Server.Devices
import MediaServo.Server.Join

/-! From RoomJoin to the join funnel: the challenge state machine of a connection, beside the
administrators and the other connections that work on the same registry. Each action is one
access to a shared table, so any two handlers may interleave. -/

namespace MediaServo.Server

open MediaServo.Foundations MediaServo.Common

def maxDeferredAuthMsgs : ℕ := 16

structure PendingAuth where
  nonce : String
  deviceId : String
  roomId : String
  peerRole : PeerRole
  offeredVk : Option String
  deriving DecidableEq

structure VerifiedAuth where
  pending : PendingAuth
  offered : String
  checkVk : String
  sig : String
  deriving DecidableEq

/-- `verified`, `lostRace` and `enrolled` lie inside the handling of one answer: before the
policy gate, after `enroll_auto` said `Duplicate`, and before the pending entry is cleared. -/
inductive AuthPhase
  | waiting
  | challenged (pa : PendingAuth)
  | verified (v : VerifiedAuth)
  | lostRace (v : VerifiedAuth)
  | enrolled (v : VerifiedAuth)
  | joining (q : JoinRequest)
  | closed
  deriving DecidableEq

structure AuthConn where
  peerId : String
  account : Option AccountIdentity
  phase : AuthPhase
  protocol : Option ℕ
  resume : Option String
  deferred : List SignalingMessage
  sent : List SignalingMessage
  deriving DecidableEq

inductive AdminReply
  | registered (deviceId secret hash : String)
  | revoked (deviceId : String)
  | secretReset (deviceId secret : String)
  | approved (deviceId vk : String) (name : Option String)
  | refused (status : ℕ) (error : String)
  | writeFailed (deviceId : String)
  deriving DecidableEq

/-- Admin handlers between two table accesses: `register_device`, `revoke_device` and
`reset_device_secret` before their save, and `approve_pending_device` before the admission,
before its save, and before it puts the pending entry back. -/
inductive AdminTask
  | registered (deviceId secret hash : String)
  | revoked (deviceId : String)
  | secretReset (deviceId secret : String)
  | taken (deviceId : String) (entry : PendingEntry) (name : Option String)
  | admitted (deviceId : String) (entry : PendingEntry) (name : Option String)
  | restoring (deviceId : String) (entry : PendingEntry) (reply : AdminReply)
  deriving DecidableEq

structure AuthServer where
  registry : DeviceRegistry
  pending : PendingTable
  allowDevEnroll : Bool
  conns : List AuthConn
  tasks : List AdminTask
  answers : List AdminReply
  clock : ℕ

/-- Randomness and the outcomes of saves are arguments: `nonce` holds the bytes drawn for a
challenge, `fresh` a generated secret, and `tick` sets the wall clock. -/
inductive AuthAction
  | connect (peerId : String) (account : Option AccountIdentity)
  | text (i : ℕ) (msg : SignalingMessage) (nonce : List UInt8)
  | timeout (i : ℕ)
  | hangUp (i : ℕ)
  | policyGate (i : ℕ)
  | recheck (i : ℕ)
  | clearPending (i : ℕ)
  | registerDevice (deviceId : String) (secret : Option String) (fresh : String)
  | revokeDevice (deviceId : String)
  | resetDeviceSecret (deviceId fresh : String)
  | approvePendingDevice (deviceId : String) (name : Option String)
  | resumeTask (k : ℕ) (saved : Bool)
  | tick (nowMs : ℕ)

def validateDeviceId (id : String) : Except AdminReply Unit :=
  if !id.isEmpty && id.utf8ByteSize ≤ 64 &&
      id.toList.all (fun ch => ch.isAlphanum || ch == '-' || ch == '_') then .ok ()
  else .error (.refused 400 s!"invalid device_id {Lines.debugString id}: want 1-64 chars of [A-Za-z0-9-_]")

def registerRefused (d : String) : DeviceRegError → AdminReply
  | .duplicate => .refused 409 s!"device {d} already registered"
  | .unknown => .refused 500 "device registry internal error"
  | .invalidSecret msg | .invalidPublicKey msg => .refused 400 msg

def approveRefused (d : String) : DeviceRegError → AdminReply
  | .duplicate => .refused 409 s!"device {d} already registered"
  | .unknown => .refused 500 "enroll failed: Unknown"
  | .invalidSecret msg => .refused 500 s!"enroll failed: InvalidSecret({Lines.debugString msg})"
  | .invalidPublicKey msg => .refused 500 s!"enroll failed: InvalidPublicKey({Lines.debugString msg})"

def debugClaim : Option ℕ → String
  | some n => s!"Some({n})"
  | none => "None"

namespace AuthConn

def send (c : AuthConn) (msg : SignalingMessage) : AuthConn := { c with sent := c.sent ++ [msg] }

def close (c : AuthConn) : AuthConn := { c with phase := .closed }

def refuse (c : AuthConn) (code : ℕ) (message : String) : AuthConn :=
  (c.send (.error code message)).close

def badSecret (c : AuthConn) : AuthConn := c.refuse 4010 DeviceAuthError.badSecret.message

def request (c : AuthConn) (identity : SessionIdentity) (roomId : String) (role : PeerRole) :
    JoinRequest :=
  ⟨c.peerId, identity, roomId, role, c.protocol, c.resume⟩

def admitAs (c : AuthConn) (identity : SessionIdentity) (roomId : String) (role : PeerRole) :
    AuthConn :=
  { c with phase := .joining (c.request identity roomId role) }

def admitDevice (c : AuthConn) (pa : PendingAuth) : AuthConn :=
  c.admitAs (.device pa.deviceId) pa.roomId pa.peerRole

def identity (c : AuthConn) : SessionIdentity :=
  match c.account with
  | some a => .account a
  | none => .legacy

def challenge (c : AuthConn) (entry : Option Entry) (nonce roomId deviceId pubkey : String)
    (role : PeerRole) : AuthConn :=
  match entry with
  | some (.secret _) => c.badSecret
  | some (.publicKey _ _) =>
      { c.send (.deviceAuthChallenge nonce) with
        phase := .challenged ⟨nonce, deviceId, roomId, role, none⟩ }
  | none =>
      { c.send (.deviceAuthChallenge nonce) with
        phase := .challenged ⟨nonce, deviceId, roomId, role, some pubkey⟩ }

end AuthConn

namespace AuthServer

variable (crypto : Crypto)

def roomJoin (r : DeviceRegistry) (c : AuthConn) (nonce : List UInt8) (roomId : String)
    (role : PeerRole) (deviceId secret pubkey : Option String) : AuthConn :=
  if c.protocol.getD 1 < signalingProtocolMinSupported then
    c.refuse 4101
      s!"protocol_version_unsupported: claim {debugClaim c.protocol} below min {signalingProtocolMinSupported}"
  else
    match pubkey with
    | some vk =>
        if secret.isSome then
          c.refuse 4000 "device credentials: exactly one of device_secret / device_pubkey"
        else
          match deviceId with
          | none => c.refuse 4000 "device_id is required with device_pubkey"
          | some d => c.challenge (r.entryOf d) (crypto.encodeBase64 nonce) roomId d vk role
    | none =>
        match r.authenticate crypto deviceId secret with
        | none => c.admitAs c.identity roomId role
        | some (.error e) => c.refuse 4010 e.message
        | some (.ok ()) => c.admitAs (.device (deviceId.getD "")) roomId role

def checkVk (r : DeviceRegistry) (pa : PendingAuth) : Option String :=
  match r.entryOf pa.deviceId with
  | some (.publicKey vk _) => some vk
  | _ => pa.offeredVk

def answer (r : DeviceRegistry) (c : AuthConn) (pa : PendingAuth) (sig : String) : AuthConn :=
  match checkVk r pa with
  | none => c.badSecret
  | some vk =>
      match crypto.verifySignature vk pa.nonce pa.deviceId pa.roomId sig with
      | .error _ => c.badSecret
      | .ok () =>
          match pa.offeredVk with
          | some offered => { c with phase := .verified ⟨pa, offered, vk, sig⟩ }
          | none => c.admitDevice pa

def receive (r : DeviceRegistry) (c : AuthConn) (msg : SignalingMessage) (nonce : List UInt8) :
    AuthConn :=
  match c.phase, msg with
  | .challenged pa, .deviceAuthResponse _ sig => answer crypto r c pa sig
  | .challenged _, other =>
      if maxDeferredAuthMsgs ≤ c.deferred.length then c.close
      else { c with deferred := c.deferred ++ [other] }
  | .waiting, .roomJoin roomId role _ deviceId secret pubkey protocol _ resume =>
      roomJoin crypto r { c with protocol := protocol, resume := resume } nonce roomId role
        deviceId secret pubkey
  | _, _ => c

def elapsed (c : AuthConn) : AuthConn :=
  match c.phase with
  | .challenged _ => c.badSecret
  | .waiting => c.close
  | _ => c

def streamEnd (c : AuthConn) : AuthConn :=
  match c.phase with
  | .challenged _ | .waiting => c.close
  | _ => c

def policyGate (s : AuthServer) (c : AuthConn) : AuthServer × AuthConn :=
  match c.phase with
  | .verified v =>
      let d := v.pending.deviceId
      if s.allowDevEnroll then
        match s.registry.enrollAuto crypto d v.offered none with
        | .ok registry => ({ s with registry := registry }, { c with phase := .enrolled v })
        | .error .duplicate => (s, { c with phase := .lostRace v })
        | .error _ => (s, c.badSecret)
      else
        ({ s with pending := s.pending.insert s.clock d v.offered true },
          (c.send (.deviceAuthPending d)).close)
  | _ => (s, c)

def recheck (r : DeviceRegistry) (c : AuthConn) : AuthConn :=
  match c.phase with
  | .lostRace v =>
      match r.entryOf v.pending.deviceId with
      | some (.publicKey vk _) => if vk = v.offered then c.admitDevice v.pending else c.badSecret
      | _ => c.badSecret
  | _ => c

def clearPending (s : AuthServer) (c : AuthConn) : AuthServer × AuthConn :=
  match c.phase with
  | .enrolled v =>
      ({ s with pending := s.pending.remove v.pending.deviceId }, c.admitDevice v.pending)
  | _ => (s, c)

def withConn (s : AuthServer) (i : ℕ) (f : AuthConn → AuthServer × AuthConn) : AuthServer :=
  match s.conns[i]? with
  | some c => { (f c).1 with conns := s.conns.set i (f c).2 }
  | none => s

def reply (s : AuthServer) (r : AdminReply) : AuthServer := { s with answers := s.answers ++ [r] }

def registerDevice (s : AuthServer) (d : String) (secret : Option String) (fresh : String) :
    AuthServer :=
  match validateDeviceId d with
  | .error r => s.reply r
  | .ok () =>
      match s.registry.registerWithSecret crypto d secret fresh with
      | .ok (registry, hash, given) =>
          { s with registry := registry, tasks := s.tasks ++ [.registered d given hash] }
      | .error e => s.reply (registerRefused d e)

def dropDevice (s : AuthServer) (d : String) : AuthServer :=
  match s.registry.revoke d with
  | .ok registry => { s with registry := registry }
  | .error _ => s

def revokeDevice (s : AuthServer) (d : String) : AuthServer :=
  match s.registry.revoke d with
  | .ok registry => { s with registry := registry, tasks := s.tasks ++ [.revoked d] }
  | .error _ => s.reply (.refused 404 s!"device {d} not registered")

def resetDeviceSecret (s : AuthServer) (d fresh : String) : AuthServer :=
  match s.registry.resetSecret crypto d fresh with
  | .ok (registry, _, secret) =>
      { s with registry := registry, tasks := s.tasks ++ [.secretReset d secret] }
  | .error _ => s.reply (.refused 404 s!"device {d} not registered")

def approvePendingDevice (s : AuthServer) (d : String) (name : Option String) : AuthServer :=
  match validateDeviceId d with
  | .error r => s.reply r
  | .ok () =>
      match s.pending.get d with
      | some e => { s with pending := s.pending.remove d, tasks := s.tasks ++ [.taken d e name] }
      | none => s.reply
          (.refused 404 s!"no pending device {d} (never reported or already handled)")

def resumeTask (s : AuthServer) (k : ℕ) (saved : Bool) : AuthServer :=
  let finish := { s with tasks := s.tasks.eraseIdx k }
  let become (task : AdminTask) := { s with tasks := s.tasks.set k task }
  match s.tasks[k]? with
  | none => s
  | some (.registered d secret hash) =>
      if saved then finish.reply (.registered d secret hash)
      else (finish.dropDevice d).reply (.writeFailed d)
  | some (.revoked d) => finish.reply (if saved then .revoked d else .writeFailed d)
  | some (.secretReset d secret) =>
      finish.reply (if saved then .secretReset d secret else .writeFailed d)
  | some (.taken d e name) =>
      match s.registry.enrollAuto crypto d e.vk name with
      | .ok registry => { become (.admitted d e name) with registry := registry }
      | .error err => become (.restoring d e (approveRefused d err))
  | some (.admitted d e name) =>
      if saved then finish.reply (.approved d e.vk name)
      else (become (.restoring d e (.writeFailed d))).dropDevice d
  | some (.restoring d e r) =>
      { finish with pending := s.pending.insert s.clock d e.vk e.verified }.reply r

def start (devices : FiniteMap String Entry) (u : Uuid) (allowDevEnroll : Bool) : AuthServer :=
  ⟨⟨devices, crypto.newDummyHash u⟩, ∅, allowDevEnroll, [], [], [], 0⟩

def step (s : AuthServer) : AuthAction → AuthServer
  | .connect peerId account =>
      { s with conns := s.conns ++ [⟨peerId, account, .waiting, none, none, [], []⟩] }
  | .text i msg nonce => s.withConn i (fun c => (s, receive crypto s.registry c msg nonce))
  | .timeout i => s.withConn i (fun c => (s, elapsed c))
  | .hangUp i => s.withConn i (fun c => (s, streamEnd c))
  | .policyGate i => s.withConn i (s.policyGate crypto)
  | .recheck i => s.withConn i (fun c => (s, recheck s.registry c))
  | .clearPending i => s.withConn i s.clearPending
  | .registerDevice d secret fresh => s.registerDevice crypto d secret fresh
  | .revokeDevice d => s.revokeDevice d
  | .resetDeviceSecret d fresh => s.resetDeviceSecret crypto d fresh
  | .approvePendingDevice d name => s.approvePendingDevice d name
  | .resumeTask k saved => s.resumeTask crypto k saved
  | .tick nowMs => { s with clock := nowMs }

end AuthServer

end MediaServo.Server
