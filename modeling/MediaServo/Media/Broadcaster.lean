import Mathlib.Tactic

/-! The combinator that sends a frame to several sinks and aggregates what they want. The builds
differ in a product that does not fit: one with checks panics, one without wraps around. -/

namespace MediaServo.Media

structure VideoSinkWants where
  isActive : Bool
  maxPixelCount : UInt32
  maxFramerateFps : UInt32
  resolutionAlignment : UInt32
  rotationApplied : Bool
  deriving DecidableEq

def VideoSinkWants.default : VideoSinkWants := ⟨true, 0, 0, 1, false⟩

/-- `sink` is `on_frame`, which may fail. -/
structure SinkEntry (F ε : Type) where
  id : ℕ
  sink : F → Except ε VideoSinkWants
  wants : VideoSinkWants

def gcd (a b : UInt32) : UInt32 := if _h : b = 0 then a else gcd b (a % b)
termination_by b.toNat
decreasing_by
  rw [UInt32.toNat_mod]
  apply Nat.mod_lt
  rw [pos_iff_ne_zero]
  intro h0
  exact _h (UInt32.toNat_inj.mp h0)

/-- `none` is the panic of a build with checks. -/
def mulU32 (checks : Bool) (a b : UInt32) : Option UInt32 :=
  if checks ∧ 2 ^ 32 ≤ a.toNat * b.toNat then none else some (a * b)

def lcm (checks : Bool) (a b : UInt32) : Option UInt32 :=
  if a = 0 ∨ b = 0 then some (if a ≤ b then b else a) else mulU32 checks (a / gcd a b) b

def limit (m x : UInt32) : UInt32 := if x ≠ 0 then (if m ≤ x then m else x) else m

namespace VideoBroadcaster

variable {F ε : Type} (checks : Bool)

def aggregate (acc : VideoSinkWants) (e : SinkEntry F ε) : Option VideoSinkWants :=
  match lcm checks acc.resolutionAlignment e.wants.resolutionAlignment with
  | none => none
  | some alignment =>
      some
        { isActive := acc.isActive || e.wants.isActive
          maxPixelCount := limit acc.maxPixelCount e.wants.maxPixelCount
          maxFramerateFps := limit acc.maxFramerateFps e.wants.maxFramerateFps
          resolutionAlignment := alignment
          rotationApplied := acc.rotationApplied }

def wants (sinks : List (SinkEntry F ε)) : Option VideoSinkWants :=
  if sinks.isEmpty then some .default
  else
    match sinks.foldlM (aggregate checks) ⟨false, 0xFFFFFFFF, 0xFFFFFFFF, 1, false⟩ with
    | none => none
    | some w => some (if w.isActive then w else { w with maxPixelCount := 0, maxFramerateFps := 0 })

def deliver (frame : F) : List (SinkEntry F ε) → List ℕ × Except ε Unit
  | [] => ([], .ok ())
  | e :: rest =>
      if e.wants.isActive then
        match e.sink frame with
        | .error err => ([e.id], .error err)
        | .ok _ => ((deliver frame rest).1.cons e.id, (deliver frame rest).2)
      else deliver frame rest

/-- What comes back after the delivery; `none` is a panic in the aggregation. -/
def sendFrame (sinks : List (SinkEntry F ε)) (frame : F) :
    List ℕ × Option (Except ε VideoSinkWants) :=
  match deliver frame sinks with
  | (given, .error err) => (given, some (.error err))
  | (given, .ok ()) => (given, (wants checks sinks).map .ok)

end VideoBroadcaster

end MediaServo.Media
