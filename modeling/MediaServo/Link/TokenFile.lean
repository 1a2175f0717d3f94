import Mathlib.Tactic
import MediaServo.Foundations.Utf8

/-! The file that carries a capability token: the verifying key and the JWT, each behind a length
of two bytes. -/

namespace MediaServo.Link

open Foundations (asBytes fromUtf8)

abbrev Bytes := List UInt8

inductive LinkError
  | token (message : String)
  deriving DecidableEq

/-- The cast of a length to `u16`. -/
def asU16 (n : ℕ) : ℕ := n % 2 ^ 16

def toLeBytes (n : ℕ) : Bytes := [UInt8.ofNat n, UInt8.ofNat (n / 256)]

def fromLeBytes (lo hi : UInt8) : ℕ := lo.toNat + 256 * hi.toNat

/-- The slice `b[lo..hi]`, or `none` where the code would panic. -/
def slice (b : Bytes) (lo hi : ℕ) : Option Bytes :=
  if lo ≤ hi ∧ hi ≤ b.length then some ((b.take hi).drop lo) else none

namespace TokenFile

def MAGIC : Bytes := [77, 83, 84, 75]

def VERSION : UInt8 := 1

def encode (token : String) (key : Bytes) : Bytes :=
  let raw := asBytes token
  MAGIC ++ [VERSION] ++ toLeBytes (asU16 key.length) ++ key ++ toLeBytes (asU16 raw.length) ++ raw

section Decode

-- the check of a JWT against a key at the time of the call, and the text of a UTF-8 error
variable {Claims : Type} (verify : Bytes → String → Except LinkError Claims)
variable (utf8Error : Bytes → String)

def err (m : String) : LinkError := .token ("token file: " ++ m)

def decodeToken (key : Bytes) (raw : Bytes) : Except LinkError (Bytes × String) :=
  match fromUtf8 raw with
  | none => .error (err (utf8Error raw))
  | some token =>
      match verify key token with
      | .error e => .error e
      | .ok _ => .ok (key, token)

/-- The part behind the length of the key, as `rest` holds it after each cut. -/
def decodeRest (keyLen : ℕ) (rest : Bytes) : Option (Except LinkError (Bytes × String)) :=
  if rest.length < keyLen + 2 then some (.error (err "truncated key"))
  else do
    let key ← slice rest 0 keyLen
    let rest ← slice rest keyLen rest.length
    let lo ← rest[0]?
    let hi ← rest[1]?
    let raw ← slice rest 2 rest.length
    if raw.length ≠ fromLeBytes lo hi then some (.error (err "truncated token"))
    else some (decodeToken verify utf8Error key raw)

/-- What `decode` answers, or `none` where an index would be past the end. -/
def decode (bytes : Bytes) : Option (Except LinkError (Bytes × String)) :=
  if bytes.length < 9 then some (.error (err "bad magic or too short"))
  else do
    let magic ← slice bytes 0 4
    if magic ≠ MAGIC then some (.error (err "bad magic or too short"))
    else do
      let version ← bytes[4]?
      if version ≠ VERSION then
        some (.error (err ("unsupported version " ++ toString version)))
      else do
        let lo ← bytes[5]?
        let hi ← bytes[6]?
        let rest ← slice bytes 7 bytes.length
        decodeRest verify utf8Error (fromLeBytes lo hi) rest

end Decode

end TokenFile

end MediaServo.Link
