import MediaServo.Foundations.Runs

/-! The emergency stop: triggers that run beside each other on one actuator, with a counter, a latch
and an audit file. Each access to one of the three is a step of its own. -/

namespace MediaServo.Host.Emergency

open MediaServo.Foundations

def emergencyStop : String := "stop"

inductive EmergencySource
  | dc
  | localFallback
  deriving DecidableEq

def EmergencySource.asStr : EmergencySource → String
  | .dc => "dc"
  | .localFallback => "local"

structure AuditLine where
  source : String
  seq : Option ℕ
  cmd : String
  latched : Bool
  triggerCount : ℕ
  deriving DecidableEq

structure EmergencyTrigger where
  latched : Bool
  triggerCount : ℕ
  audit : Except String Unit
  deriving DecidableEq

structure StubEmergencyActuator where
  latch : Bool
  count : ℕ
  audit : List AuditLine
  deriving DecidableEq

/-- Where a call of `trigger` is: before its access to the counter, to the latch, to the file, and
back with its result. -/
inductive CallPhase
  | called
  | counted (triggerCount : ℕ)
  | swapped (triggerCount : ℕ) (latched : Bool)
  | returned (t : EmergencyTrigger)
  deriving DecidableEq

structure TriggerCall where
  source : EmergencySource
  seq : Option ℕ
  phase : CallPhase
  deriving DecidableEq

def TriggerCall.auditLine (c : TriggerCall) (latched : Bool) (triggerCount : ℕ) : AuditLine :=
  ⟨c.source.asStr, c.seq, emergencyStop, latched, triggerCount⟩

structure EmergencyPlane extends StubEmergencyActuator where
  calls : List TriggerCall
  deriving DecidableEq

namespace EmergencyPlane

def start (triggers : List (EmergencySource × Option ℕ)) : EmergencyPlane :=
  ⟨⟨false, 0, []⟩, triggers.map fun t => ⟨t.1, t.2, .called⟩⟩

def fetchAdd (s : EmergencyPlane) (i : ℕ) (c : TriggerCall) : EmergencyPlane :=
  let next := (s.count + 1) % 2 ^ 64
  { s with count := next, calls := s.calls.set i { c with phase := .counted next } }

def swapLatch (s : EmergencyPlane) (i : ℕ) (c : TriggerCall) (triggerCount : ℕ) : EmergencyPlane :=
  { s with
    latch := true
    calls := s.calls.set i { c with phase := .swapped triggerCount (!s.latch) } }

def appendAudit (s : EmergencyPlane) (i : ℕ) (c : TriggerCall) (triggerCount : ℕ) (latched : Bool) :
    Option String → EmergencyPlane
  | none =>
      { s with
        audit := s.audit ++ [c.auditLine latched triggerCount]
        calls := s.calls.set i { c with phase := .returned ⟨latched, triggerCount, .ok ()⟩ } }
  | some e =>
      { s with
        calls := s.calls.set i
          { c with phase := .returned ⟨latched, triggerCount, .error ("audit append: " ++ e)⟩ } }

def step (s : EmergencyPlane) (a : ℕ × Option String) : EmergencyPlane :=
  match s.calls[a.1]? with
  | none => s
  | some c =>
      match c.phase with
      | .called => s.fetchAdd a.1 c
      | .counted n => s.swapLatch a.1 c n
      | .swapped n latched => s.appendAudit a.1 c n latched a.2
      | .returned _ => s

end EmergencyPlane

def TriggerCall.result (c : TriggerCall) : Option EmergencyTrigger :=
  match c.phase with
  | .returned t => some t
  | _ => none

def TriggerCall.done (c : TriggerCall) : Bool := c.result.isSome

namespace EmergencyPlane

def results (s : EmergencyPlane) : List EmergencyTrigger := s.calls.filterMap TriggerCall.result

end EmergencyPlane

end MediaServo.Host.Emergency
