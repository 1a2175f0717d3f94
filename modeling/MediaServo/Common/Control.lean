import MediaServo.Common.Wire
import MediaServo.Foundations.Digits

/-! The envelopes of the control channel: their JSON, the signature of an emergency stop, and the
reply. -/

namespace MediaServo.Common

open MediaServo.Foundations

structure ControlEnvelope where
  seq : ℕ
  cmd : String
  payload : JsonValue
  sig : Option String
  deriving DecidableEq

structure ControlAck where
  ack : ℕ
  result : JsonValue
  deriving DecidableEq

/-- `serde_json` on texts: what it writes for a tree, and the tree that it reads in some bytes. -/
structure SerdeJson (Bytes : Type) extends SerdeValue where
  print : Json → Bytes
  parse : Bytes → Option Json

section Json

variable (serde : SerdeValue)

def defaultControlPayload : JsonValue := serde.value (.obj [])

def ControlEnvelope.row : Row (ℕ × String × JsonValue × Option String × Unit) :=
  .cons (.required "seq" (.uint 64)) <| .cons (.required "cmd" .str) <|
  .cons (.defaulted "payload" serde.codec (defaultControlPayload serde)) <|
  .cons (.skipNone "sig" .str true) <| .nil

def controlEnvelope : Codec ControlEnvelope :=
  .struct (ControlEnvelope.row serde) (of_decide_eq_true rfl)
    (fun e => (e.seq, e.cmd, e.payload, e.sig, ()))
    (fun (seq, cmd, payload, sig, ()) => ⟨seq, cmd, payload, sig⟩) fun _ => rfl

def ControlAck.row : Row (ℕ × JsonValue × Unit) :=
  .cons (.required "ack" (.uint 64)) <| .cons (.required "result" serde.codec) <| .nil

def controlAck : Codec ControlAck :=
  .struct (ControlAck.row serde) (of_decide_eq_true rfl) (fun a => (a.ack, a.result, ()))
    (fun (ack, result, ()) => ⟨ack, result⟩) fun _ => rfl

def ControlAck.ok (seq : ℕ) (result : JsonValue) : ControlAck := ⟨seq, result⟩

def ControlAck.err (seq : ℕ) (message : String) : ControlAck :=
  ⟨seq, serde.value (.obj [("error", .str message)])⟩

end Json

def isEstopCmd (cmd : String) : Bool :=
  cmd = "estop" || startsWith cmd "estop_" || startsWith cmd "estop-"

section Hex

open Digits (hexValue)

/-- `u8::from_str_radix` on two characters; a plus sign may be the first. -/
def fromStrRadix (a b : Char) : Option UInt8 :=
  if a = '+' then (hexValue b).map UInt8.ofNat
  else do
    let high ← hexValue a
    let low ← hexValue b
    pure (UInt8.ofNat (16 * high + low))

/-- The chunks of two. A byte beyond ASCII is no digit, so characters stand for the bytes. -/
def hexChunks : List Char → Option (List UInt8)
  | [] => some []
  | [_] => none
  | a :: b :: rest => do
      let byte ← fromStrRadix a b
      let bytes ← hexChunks rest
      pure (byte :: bytes)

def fromHex (h : String) : Option (List UInt8) := hexChunks h.toList

end Hex

section Signature

variable {Bytes : Type} (serde : SerdeJson Bytes) (hmac : String → Bytes → List UInt8)

def canonicalEnvelopeBytes (env : ControlEnvelope) : Bytes :=
  serde.print ((controlEnvelope serde.toSerdeValue).enc { env with sig := none })

def controlHmacSign (key : String) (env : ControlEnvelope) : String :=
  Digits.hex (hmac key (canonicalEnvelopeBytes serde env))

def controlHmacVerify (key : String) (env : ControlEnvelope) (sigHex : String) : Bool :=
  match fromHex sigHex with
  | none => false
  | some given => given = hmac key (canonicalEnvelopeBytes serde env)

def parseEnvelope (data : Bytes) : Option ControlEnvelope :=
  (serde.parse data).bind (controlEnvelope serde.toSerdeValue).dec

end Signature

end MediaServo.Common
