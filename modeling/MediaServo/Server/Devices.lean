import MediaServo.Foundations.Digits
import MediaServo.Foundations.FiniteMap
import MediaServo.Server.Resume

/-! The device registry: secret and public-key entries, their verification, the admission of
keys, and the table of devices that wait for approval. -/

namespace MediaServo.Server

open MediaServo.Foundations
open Digits (hex hex_injective)

/-- The primitives of the crates `sha2`, `base64` and `ed25519_dalek`. -/
structure Crypto where
  sha256 : List UInt8 → List UInt8
  encodeBase64 : List UInt8 → String
  decodeBase64 : String → Option (List UInt8)
  validKey : List UInt8 → Bool
  verifyStrict : List UInt8 → List UInt8 → List UInt8 → Bool

inductive DeviceAuthError
  | incomplete
  | unknown
  | badSecret
  deriving DecidableEq

def DeviceAuthError.message : DeviceAuthError → String
  | .incomplete => "device authentication failed: both device_id and device_secret are required"
  | .unknown | .badSecret => "device authentication failed: invalid device credentials"

inductive DeviceRegError
  | duplicate
  | unknown
  | invalidSecret (msg : String)
  | invalidPublicKey (msg : String)
  deriving DecidableEq

inductive Entry
  | secret (hash : String)
  | publicKey (vk : String) (name : Option String)
  deriving DecidableEq

structure DeviceRegistry where
  devices : FiniteMap String Entry
  dummyHash : String

structure Uuid where
  text : String
  noColon : 58 ∉ asBytes text

def dummyId (u : Uuid) : String := "ms-dummy-" ++ u.text

namespace Crypto

variable (c : Crypto)

def hashSecret (deviceId secret : String) : String :=
  "sha256:" ++ hex (c.sha256 (asBytes deviceId ++ asBytes ":" ++ asBytes secret))

def newDummyHash (u : Uuid) : String := c.hashSecret (dummyId u) "dummy"

def decodeVk (vk : String) : Except String (List UInt8) :=
  match c.decodeBase64 vk with
  | none => .error "not valid base64"
  | some raw =>
      if raw.length ≠ 32 then .error "decoded length != 32 bytes"
      else if c.validKey raw then .ok raw
      else .error "invalid ed25519 public key"

def verifySignature (vk nonce deviceId roomId sig : String) : Except DeviceAuthError Unit :=
  match c.decodeVk vk, c.decodeBase64 nonce, c.decodeBase64 sig with
  | .ok key, some raw, some sigBytes =>
      if raw.length = 32 ∧ sigBytes.length = 64 ∧
          c.verifyStrict key (raw ++ asBytes deviceId ++ asBytes roomId) sigBytes then .ok ()
      else .error .badSecret
  | _, _, _ => .error .badSecret

end Crypto

namespace DeviceRegistry

def entryOf (r : DeviceRegistry) (deviceId : String) : Option Entry := r.devices.get deviceId

def stored (r : DeviceRegistry) (deviceId : String) : String :=
  match r.devices.get deviceId with
  | some (.secret h) => h
  | _ => r.dummyHash

def verify (c : Crypto) (r : DeviceRegistry) (deviceId secret : String) :
    Except DeviceAuthError Unit :=
  let known := r.devices.contains deviceId
  let matched := ctEq (asBytes (r.stored deviceId)) (asBytes (c.hashSecret deviceId secret))
  match matched, known with
  | true, _ => .ok ()
  | false, true => .error .badSecret
  | false, false => .error .unknown

/-- `fresh` is the secret that the server generates when none is given. -/
def registerWithSecret (c : Crypto) (r : DeviceRegistry) (deviceId : String)
    (secret : Option String) (fresh : String) :
    Except DeviceRegError (DeviceRegistry × String × String) :=
  if r.devices.contains deviceId then .error .duplicate
  else
    let admitted (s : String) : DeviceRegistry × String × String :=
      let hash := c.hashSecret deviceId s
      ({ r with devices := r.devices.set deviceId (.secret hash) }, hash, s)
    match secret with
    | some s =>
        if s.isEmpty ∨ s.utf8ByteSize < 8 ∨ 128 < s.utf8ByteSize ∨ s.toList.any isWhitespace then
          .error (.invalidSecret "secret: 8-128 chars, no whitespace")
        else .ok (admitted s)
    | none => .ok (admitted fresh)

def revoke (r : DeviceRegistry) (deviceId : String) : Except DeviceRegError DeviceRegistry :=
  if r.devices.contains deviceId then .ok { r with devices := r.devices.remove deviceId }
  else .error .unknown

def resetSecret (c : Crypto) (r : DeviceRegistry) (deviceId fresh : String) :
    Except DeviceRegError (DeviceRegistry × String × String) :=
  match r.devices.get deviceId with
  | some (.secret _) =>
      let hash := c.hashSecret deviceId fresh
      .ok ({ r with devices := r.devices.set deviceId (.secret hash) }, hash, fresh)
  | _ => .error .unknown

def enrollAuto (c : Crypto) (r : DeviceRegistry) (deviceId vk : String) (name : Option String) :
    Except DeviceRegError DeviceRegistry :=
  match c.decodeVk vk with
  | .error e => .error (.invalidPublicKey ("public_key not canonical: " ++ e))
  | .ok _ =>
      if r.devices.contains deviceId then .error .duplicate
      else .ok { r with devices := r.devices.set deviceId (.publicKey vk name) }

def authenticate (c : Crypto) (r : DeviceRegistry) (deviceId deviceSecret : Option String) :
    Option (Except DeviceAuthError Unit) :=
  match deviceId, deviceSecret with
  | none, none => none
  | some d, some secret => some (r.verify c d secret)
  | _, _ => some (.error .incomplete)

end DeviceRegistry

structure PendingEntry where
  vk : String
  firstSeenMs : ℕ
  verified : Bool
  deriving DecidableEq

abbrev PendingTable := FiniteMap String PendingEntry

def PendingTable.insert (t : PendingTable) (nowMs : ℕ) (deviceId vk : String) (verified : Bool) :
    PendingTable :=
  t.set deviceId ⟨vk, nowMs, verified⟩

lemma eq_of_append_cons {α : Type} {k : α} {xs ys us vs : List α} (hu : k ∉ us) (hv : k ∉ vs)
    (h : xs ++ k :: ys = us ++ k :: vs) : xs = us := by
  obtain ⟨as, rfl, ha⟩ | ⟨as, rfl, ha⟩ := List.append_eq_append_iff.mp h
  · cases as with
    | nil => simp
    | cons a as => simp_all
  · cases as with
    | nil => simp
    | cons a as => simp_all

variable {c : Crypto}

lemma hashSecret_bytes (hsha : Function.Injective c.sha256) {d e s t : String}
    (h : c.hashSecret d s = c.hashSecret e t) :
    asBytes d ++ asBytes ":" ++ asBytes s = asBytes e ++ asBytes ":" ++ asBytes t :=
  hsha (hex_injective (String.append_right_inj _ |>.mp h))

lemma eq_dummyId (hsha : Function.Injective c.sha256) {u : Uuid} {d s : String}
    (h : c.hashSecret d s = c.newDummyHash u) : d = dummyId u := by
  have hb := hashSecret_bytes hsha h
  have hu : 58 ∉ asBytes (dummyId u) := by
    rw [dummyId, asBytes_append, List.mem_append]
    rintro (hm | hm)
    · revert hm; decide
    · exact u.noColon hm
  have hv : 58 ∉ asBytes "dummy" := by decide
  have hk : asBytes ":" = [58] := by decide
  rw [hk, List.append_assoc, List.append_assoc] at hb
  exact asBytes_injective (eq_of_append_cons hu hv hb)

def Crypto.Signed (c : Crypto) (vk nonce deviceId roomId sig : String) : Prop :=
  ∃ key raw sigBytes, c.decodeVk vk = .ok key ∧ c.decodeBase64 nonce = some raw ∧
    raw.length = 32 ∧ c.decodeBase64 sig = some sigBytes ∧ sigBytes.length = 64 ∧
    c.verifyStrict key (raw ++ asBytes deviceId ++ asBytes roomId) sigBytes = true

lemma verifySignature_eq_ok {vk nonce d room sig : String} :
    c.verifySignature vk nonce d room sig = .ok () ↔ c.Signed vk nonce d room sig := by
  rw [Crypto.verifySignature, Crypto.Signed]
  constructor
  · intro h
    split at h
    · next key raw sigBytes hk hn hs =>
      split at h
      · next hc => exact ⟨key, raw, sigBytes, hk, hn, hc.1, hs, hc.2.1, hc.2.2⟩
      · cases h
    · cases h
  · rintro ⟨key, raw, sigBytes, hk, hn, hr, hs, hl, hv⟩
    simp [hk, hn, hs, hr, hl, hv, -List.append_assoc]

namespace DeviceRegistry

variable {r r' : DeviceRegistry}

lemma verify_eq_ok {d secret : String} :
    r.verify c d secret = .ok () ↔ r.stored d = c.hashSecret d secret := by
  rw [verify]
  cases hm : ctEq (asBytes (r.stored d)) (asBytes (c.hashSecret d secret)) with
  | true =>
    rw [ctEq_iff, asBytes_injective.eq_iff] at hm
    simp [hm]
  | false =>
    have hne : r.stored d ≠ c.hashSecret d secret := by
      intro he
      rw [he, (ctEq_iff _ _).mpr rfl] at hm
      cases hm
    cases hk : r.devices.contains d <;> simp [hne]

lemma entryOf_of_verify (hsha : Function.Injective c.sha256) {u : Uuid} {d secret : String}
    (hdummy : r.dummyHash = c.newDummyHash u) (hd : d ≠ dummyId u)
    (hv : r.verify c d secret = .ok ()) :
    r.entryOf d = some (.secret (c.hashSecret d secret)) := by
  have hs := verify_eq_ok.1 hv
  rw [stored] at hs
  split at hs
  · next h hg => rw [← hs]; exact hg
  · rw [hdummy] at hs
    exact absurd (eq_dummyId hsha hs.symm) hd

lemma enrollAuto_eq_ok {d vk : String} {name : Option String} :
    r.enrollAuto c d vk name = .ok r' ↔ (∃ key, c.decodeVk vk = .ok key) ∧
      r.entryOf d = none ∧ r' = { r with devices := r.devices.set d (.publicKey vk name) } := by
  rw [enrollAuto, entryOf, FiniteMap.contains]
  cases hk : c.decodeVk vk with
  | error e => simp
  | ok key => cases hg : r.devices.get d <;> simp [eq_comm]

end DeviceRegistry

end MediaServo.Server
