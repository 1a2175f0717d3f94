import MediaServo.Common.Control

/-! The command loop of the controller: the gate for emergency stops, and what it does with each
payload of a data channel. -/

namespace MediaServo.Host.Controller

open MediaServo.Common MediaServo.Foundations

structure CommandPolicy where
  hmacKey : Option String
  allowUnsignedEstop : Bool
  actuationLog : Option String

inductive SigState
  | notApplicable
  | signedUnconfigured
  | unsignedUnconfigured
  | ok
  | invalid
  | absentAllowed
  | absent
  deriving DecidableEq

def SigState.text : SigState → String
  | .notApplicable => "n/a"
  | .signedUnconfigured => "signed-unconfigured"
  | .unsignedUnconfigured => "unsigned-unconfigured"
  | .ok => "ok"
  | .invalid => "invalid"
  | .absentAllowed => "absent-allowed"
  | .absent => "absent"

def topicCmd : String := "control/cmd"
def topicAck : String := "control/ack"

structure AuditLine where
  channel : String
  cmd : String
  seq : ℕ
  sig : String
  exec : String
  deriving DecidableEq

inductive Effect (Bytes : Type)
  | actuate (label : String) (env : ControlEnvelope)
  | publish (topic : String) (payload : Bytes)
  | audit (path : String) (line : AuditLine)
  | ack (text : Bytes)

section

variable {Bytes : Type} (serde : SerdeJson Bytes) (hmac : String → Bytes → List UInt8)

def estopVerdict (policy : CommandPolicy) (env : ControlEnvelope) : SigState × Bool :=
  if !isEstopCmd env.cmd then (.notApplicable, true)
  else
    match policy.hmacKey, env.sig with
    | none, some _ => (.signedUnconfigured, true)
    | none, none => (.unsignedUnconfigured, true)
    | some key, some sig =>
        if controlHmacVerify serde hmac key env sig then (.ok, true) else (.invalid, false)
    | some _, none => if policy.allowUnsignedEstop then (.absentAllowed, true) else (.absent, false)

def publishBus (bus : Bool) (topic : String) (payload : Bytes) : List (Effect Bytes) :=
  if bus then [.publish topic payload] else []

def actuationAudit (policy : CommandPolicy) (label : String) (env : ControlEnvelope)
    (sig : SigState) (exec : String) : List (Effect Bytes) :=
  policy.actuationLog.toList.map fun path => .audit path ⟨label, env.cmd, env.seq, sig.text, exec⟩

/-- The state for the audit and the reply that follow from what the actuator returns. -/
def answer (seq : ℕ) : Except String JsonValue → String × ControlAck
  | .ok result => ("ok", .ok seq result)
  | .error e => ("error", .err serde.toSerdeValue seq e)

/-- `handle_command`, with the actuator as a function. -/
def handleCommand (onCommand : String → ControlEnvelope → Except String JsonValue) (bus : Bool)
    (policy : CommandPolicy) (label : String) (data : Bytes) : List (Effect Bytes) :=
  match parseEnvelope serde data with
  | none => []
  | some env =>
      let ackText a := serde.print ((controlAck serde.toSerdeValue).enc a)
      match estopVerdict serde hmac policy env with
      | (sigState, false) =>
          actuationAudit policy label env sigState "rejected" ++
            [.ack (ackText (.err serde.toSerdeValue env.seq "estop_signature_rejected"))]
      | (sigState, true) =>
          let (execState, ack) := answer serde env.seq (onCommand label env)
          publishBus bus topicCmd data ++ [.actuate label env] ++
            actuationAudit policy label env sigState execState ++
            publishBus bus topicAck (ackText ack) ++ [.ack (ackText ack)]

def routeDc (onCommand : String → ControlEnvelope → Except String JsonValue) (bus : Bool)
    (policy : CommandPolicy) (label : String) (messages : List Bytes) : List (Effect Bytes) :=
  messages.flatMap (handleCommand serde hmac onCommand bus policy label)

end

end MediaServo.Host.Controller
