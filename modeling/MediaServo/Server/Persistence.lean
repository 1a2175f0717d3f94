import MediaServo.Common.Protocol
import MediaServo.Foundations.Files
import MediaServo.Foundations.Runs
import MediaServo.Server.Accounts

/-! The three registries and their files. An operation of the admin API changes the registry in
memory under its lock; the save that follows takes a snapshot, writes it to a temporary file and
moves that file over the old one, each step outside the lock and apart from the others. Last the text
of the device registry: how it is written, and what is read back of it. -/

namespace MediaServo.Server

open MediaServo.Foundations

structure Registry where
  Entry : Type
  Form : Type
  Op : Type
  Err : Type
  form : Entry → Form
  key : Op → String
  exec : Op → FiniteMap String Entry → Except Err (FiniteMap String Entry)
  rollsBack : Op → Bool
  exec_other : ∀ {op m m' k}, exec op m = .ok m' → k ≠ key op → m'.get k = m.get k

inductive DeviceOp
  | register (deviceId : String) (secret : Option String) (fresh : String)
  | revoke (deviceId : String)
  | resetSecret (deviceId fresh : String)
  | approve (deviceId vk : String) (name : Option String)
  | autoEnroll (deviceId vk : String)
  deriving DecidableEq

structure DeviceEntryFile where
  secretHash : Option String
  publicKey : Option String
  name : Option String
  deriving DecidableEq

def Entry.file : Entry → DeviceEntryFile
  | .secret hash => ⟨some hash, none, none⟩
  | .publicKey vk name => ⟨none, some ("ed25519:" ++ vk), name⟩

namespace DeviceOp

def key : DeviceOp → String
  | .register d _ _ | .revoke d | .resetSecret d _ | .approve d _ _ | .autoEnroll d _ => d

def exec (c : Crypto) (op : DeviceOp) (m : FiniteMap String Entry) :
    Except DeviceRegError (FiniteMap String Entry) :=
  let r : DeviceRegistry := ⟨m, ""⟩
  match op with
  | .register d secret fresh => (r.registerWithSecret c d secret fresh).map (·.1.devices)
  | .revoke d => (r.revoke d).map (·.devices)
  | .resetSecret d fresh => (r.resetSecret c d fresh).map (·.1.devices)
  | .approve d vk name => (r.enrollAuto c d vk name).map (·.devices)
  | .autoEnroll d vk => (r.enrollAuto c d vk none).map (·.devices)

/-- A registration that cannot be written is revoked; what an admitted connection enrolled stays. -/
def rollsBack : DeviceOp → Bool
  | .register .. | .approve .. => true
  | .revoke .. | .resetSecret .. | .autoEnroll .. => false

lemma exec_other {c : Crypto} {op : DeviceOp} {m m' : FiniteMap String Entry} {k : String}
    (h : op.exec c m = .ok m') (hk : k ≠ op.key) : m'.get k = m.get k := by
  cases op with
  | register d secret fresh =>
    simp only [exec, DeviceRegistry.registerWithSecret] at h
    split at h
    · cases h
    cases secret with
    | none =>
      cases h
      exact FiniteMap.get_set_ne _ _ hk
    | some secret =>
      simp only at h
      split at h
      · cases h
      · cases h
        exact FiniteMap.get_set_ne _ _ hk
  | revoke d =>
    simp only [exec, DeviceRegistry.revoke] at h
    split at h
    · cases h
      exact FiniteMap.get_remove_ne _ hk
    · cases h
  | resetSecret d fresh =>
    simp only [exec, DeviceRegistry.resetSecret] at h
    split at h
    · cases h
      exact FiniteMap.get_set_ne _ _ hk
    · cases h
  | approve d vk name =>
    simp only [exec, DeviceRegistry.enrollAuto] at h
    split at h
    · cases h
    · split at h
      · cases h
      · cases h
        exact FiniteMap.get_set_ne _ _ hk
  | autoEnroll d vk =>
    simp only [exec, DeviceRegistry.enrollAuto] at h
    split at h
    · cases h
    · split at h
      · cases h
      · cases h
        exact FiniteMap.get_set_ne _ _ hk

end DeviceOp

inductive AccountOp
  | create (username password role : String) (vehicles : List String)
  | update (username : String) (role : Option String) (vehicles : Option (List String))
      (newPassword : Option String)
  | delete (username : String)
  deriving DecidableEq

namespace AccountOp

def key : AccountOp → String
  | .create u _ _ _ | .update u _ _ _ | .delete u => u

def exec (c : Crypto) (op : AccountOp) (m : FiniteMap String AccountEntry) :
    Except AccountRegError (FiniteMap String AccountEntry) :=
  match op with
  | .create u password role vehicles =>
      AccountRegistry.createAccount c m u password role vehicles
  | .update u role vehicles newPassword =>
      AccountRegistry.updateAccount c m u role vehicles newPassword
  | .delete u => AccountRegistry.deleteAccount m u

def rollsBack : AccountOp → Bool
  | .create .. => true
  | .update .. | .delete .. => false

lemma exec_other {c : Crypto} {op : AccountOp} {m m' : FiniteMap String AccountEntry} {k : String}
    (h : op.exec c m = .ok m') (hk : k ≠ op.key) : m'.get k = m.get k := by
  cases op with
  | create u password role vehicles =>
    simp only [exec, AccountRegistry.createAccount] at h
    split at h
    · cases h
    · split at h
      · cases h
      · split at h
        · cases h
        · cases h
          exact FiniteMap.get_set_ne _ _ hk
  | update u role vehicles newPassword =>
    simp only [exec, AccountRegistry.updateAccount] at h
    split at h
    · cases h
    · split at h
      · cases h
      · split at h
        · cases h
        · cases h
          exact FiniteMap.get_set_ne _ _ hk
  | delete u =>
    simp only [exec, AccountRegistry.deleteAccount] at h
    split at h
    · cases h
      exact FiniteMap.get_remove_ne _ hk
    · cases h

end AccountOp

inductive ApiKeyOp
  | register (keyId role : String) (vehicles : List String) (label : Option String)
      (secret : String)
  | revoke (keyId : String)
  deriving DecidableEq

namespace ApiKeyOp

def key : ApiKeyOp → String
  | .register k _ _ _ _ | .revoke k => k

def exec (c : Crypto) (op : ApiKeyOp) (m : FiniteMap String ApiKeyEntry) :
    Except ApiKeyRegError (FiniteMap String ApiKeyEntry) :=
  match op with
  | .register k role vehicles label secret =>
      ApiKeyRegistry.register c m k role vehicles label secret
  | .revoke k => ApiKeyRegistry.revoke m k

def rollsBack : ApiKeyOp → Bool
  | .register .. => true
  | .revoke .. => false

lemma exec_other {c : Crypto} {op : ApiKeyOp} {m m' : FiniteMap String ApiKeyEntry} {k : String}
    (h : op.exec c m = .ok m') (hk : k ≠ op.key) : m'.get k = m.get k := by
  cases op with
  | register keyId role vehicles label secret =>
    simp only [exec, ApiKeyRegistry.register] at h
    split at h
    · cases h
    · split at h
      · cases h
      · split at h
        · cases h
        · cases h
          exact FiniteMap.get_set_ne _ _ hk
  | revoke keyId =>
    simp only [exec, ApiKeyRegistry.revoke] at h
    split at h
    · cases h
      exact FiniteMap.get_remove_ne _ hk
    · cases h

end ApiKeyOp

def deviceRegistry (c : Crypto) : Registry :=
  ⟨Entry, DeviceEntryFile, DeviceOp, DeviceRegError, Entry.file, DeviceOp.key, DeviceOp.exec c,
    DeviceOp.rollsBack, DeviceOp.exec_other⟩

def accountRegistry (c : Crypto) : Registry :=
  ⟨AccountEntry, AccountEntryFile, AccountOp, AccountRegError, AccountEntry.file, AccountOp.key,
    AccountOp.exec c, AccountOp.rollsBack, AccountOp.exec_other⟩

def apiKeyRegistry (c : Crypto) : Registry :=
  ⟨ApiKeyEntry, ApiKeyEntryFile, ApiKeyOp, ApiKeyRegError, ApiKeyEntry.file, ApiKeyOp.key,
    ApiKeyOp.exec c, ApiKeyOp.rollsBack, ApiKeyOp.exec_other⟩

inductive RegistryName
  | devices
  | accounts
  | apiKeys
  deriving DecidableEq

def RegistryName.registry (c : Crypto) : RegistryName → Registry
  | .devices => deviceRegistry c
  | .accounts => accountRegistry c
  | .apiKeys => apiKeyRegistry c

namespace Persistence

inductive FileName
  | target
  | tmp
  deriving DecidableEq

/-- Where an operation stands, with the text of its snapshot and its descriptor. -/
inductive Phase (β : Type)
  | mutated
  | snapped (yaml : List β)
  | created (yaml : List β) (fd : ℕ)
  | written (yaml : List β) (fd : ℕ)
  | done
  | refused
  | cleaning
  | failing
  | failed
  deriving DecidableEq

structure Task (R : Registry) (β : Type) where
  op : R.Op
  phase : Phase β

structure Store (R : Registry) (β : Type) where
  memory : FiniteMap String R.Entry
  files : Files FileName β
  tasks : FiniteMap ℕ (Task R β)

/-- `fault` is an error of the serialiser or of the file system: for a write, after how much of
the text. -/
inductive Action (R : Registry)
  | start (i : ℕ) (op : R.Op)
  | next (i : ℕ) (fault : Option ℕ)

variable {R : Registry} {β : Type}

def Store.setPhase (s : Store R β) (i : ℕ) (t : Task R β) (p : Phase β) : Store R β :=
  { s with tasks := s.tasks.set i { t with phase := p } }

def Store.snapshot (s : Store R β) : FiniteMap String R.Form :=
  s.memory.mapValues (fun _ e => R.form e)

-- serde_yaml on the document of the file
variable (yaml : FiniteMap String R.Form → List β)

def start (s : Store R β) (i : ℕ) (op : R.Op) : Store R β :=
  if s.tasks.contains i then s
  else
    match R.exec op s.memory with
    | .error _ => { s with tasks := s.tasks.set i ⟨op, .refused⟩ }
    | .ok m => { s with memory := m, tasks := s.tasks.set i ⟨op, .mutated⟩ }

/-- The next step of an operation: of `save`, of its clean-up, or of the caller's rollback. -/
def advance (s : Store R β) (i : ℕ) (t : Task R β) (fault : Option ℕ) : Store R β :=
  match t.phase, fault with
  | .mutated, none => s.setPhase i t (.snapped (yaml s.snapshot))
  | .mutated, some _ => s.setPhase i t .failing
  | .snapped text, none =>
      let (files, fd) := s.files.create .tmp
      { s with files := files }.setPhase i t (.created text fd)
  | .snapped _, some _ => s.setPhase i t .cleaning
  | .created text fd, none =>
      { s with files := s.files.write fd text }.setPhase i t (.written text fd)
  | .created text fd, some n =>
      { s with files := s.files.write fd (text.take n) }.setPhase i t .cleaning
  | .written _ _, none =>
      match s.files.rename .tmp .target with
      | some files => { s with files := files }.setPhase i t .done
      | none => s.setPhase i t .cleaning
  | .written _ _, some _ => s.setPhase i t .cleaning
  | .cleaning, _ => { s with files := s.files.remove .tmp }.setPhase i t .failing
  | .failing, _ =>
      let memory := if R.rollsBack t.op then s.memory.remove (R.key t.op) else s.memory
      { s with memory := memory }.setPhase i t .failed
  | .done, _ | .refused, _ | .failed, _ => s

def step (s : Store R β) : Action R → Store R β
  | .start i op => start s i op
  | .next i fault =>
      match s.tasks.get i with
      | none => s
      | some t => advance yaml s i t fault

end Persistence

open MediaServo.Foundations MediaServo.Common

def Entry.ofFile (c : Crypto) (id : String) (entry : DeviceEntryFile) : Except String Entry :=
  match entry.secretHash, entry.publicKey with
  | some hash, none =>
      if ¬startsWith hash "sha256:" then
        .error ("device " ++ id ++ ": unsupported secret_hash scheme (want sha256:)")
      else if hash.utf8ByteSize ≠ "sha256:".utf8ByteSize + 64 then
        .error ("device " ++ id ++ ": malformed sha256 hex length")
      else .ok (.secret hash)
  | none, some pk =>
      match stripPrefix "ed25519:" pk with
      | none => .error ("device " ++ id ++ ": unsupported public_key scheme (want ed25519:)")
      | some vk =>
          match c.decodeVk vk with
          | .error e => .error ("device " ++ id ++ ": malformed public_key (" ++ e ++ ")")
          | .ok _ => .ok (.publicKey vk entry.name)
  | some _, some _ =>
      .error ("device " ++ id ++
        ": entry carries both secret_hash and public_key (exactly one form allowed)")
  | none, none => .error ("device " ++ id ++ ": entry must carry secret_hash or public_key")

namespace RegistryFile

def loadEntries (c : Crypto) :
    List (String × DeviceEntryFile) → FiniteMap String Entry →
      Except String (FiniteMap String Entry)
  | [], devices => .ok devices
  | (id, entry) :: rest, devices =>
      match Entry.ofFile c id entry with
      | .error e => .error e
      | .ok parsed => loadEntries c rest (devices.set id parsed)

section Yaml

-- serde_yaml on the document of the file
variable {Text : Type} (yaml : FiniteMap String DeviceEntryFile → Except String Text)
variable (ofYaml : Text → Except String (FiniteMap String DeviceEntryFile))

def fromYaml (c : Crypto) (content : Text) : Except String (FiniteMap String Entry) :=
  match ofYaml content with
  | .error e => .error ("YAML parse error: " ++ e)
  | .ok file => loadEntries c file.toList ∅

def toYaml (devices : FiniteMap String Entry) : Except String Text :=
  match yaml (devices.mapValues fun _ e => e.file) with
  | .error e => .error ("devices serialize: " ++ e)
  | .ok text => .ok text

end Yaml

/-- An operation that is refused leaves the registry as it is. -/
def apply (c : Crypto) (devices : FiniteMap String Entry) (op : DeviceOp) :
    FiniteMap String Entry :=
  match op.exec c devices with
  | .error _ => devices
  | .ok devices' => devices'

end RegistryFile

end MediaServo.Server
