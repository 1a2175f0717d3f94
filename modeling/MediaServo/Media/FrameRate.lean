import MediaServo.Foundations.Binary64
import MediaServo.Foundations.Checked

/-! The controller that lets frames through at a rate, by their timestamps in nanoseconds, and the
adapter that puts it before a local sink together with a cap on the size of the pictures. The builds
differ in what becomes of a number that does not fit. -/

namespace MediaServo.Media

open MediaServo.Foundations
open MediaServo.Foundations.I64 (Fault)

def kMinFramerate : Binary64 := .finite (mkRat 1 2)

def nsecsPerSec : ℤ := 1000000000

/-- The cast to `i64`: towards zero, and saturating. -/
def toI64 : Binary64 → ℤ
  | .nan => 0
  | .negInf => -2 ^ 63
  | .posInf => 2 ^ 63 - 1
  | .finite q => max (-2 ^ 63) (min (2 ^ 63 - 1) (if 0 ≤ q then ⌊q⌋ else ⌈q⌉))

structure FramerateController where
  maxFramerate : Binary64
  nextFrameTimestampNs : Option ℤ
  deriving DecidableEq

namespace FramerateController

def withMaxFramerate (fps : Binary64) : FramerateController := ⟨fps, none⟩

def new : FramerateController := withMaxFramerate (.finite ((2 - 1 / 2 ^ 52) * 2 ^ 1023))

def setMaxFramerate (c : FramerateController) (fps : Binary64) : FramerateController :=
  { c with maxFramerate := fps }

variable (checks : Bool)

/-- The first frame, or one out of the range: the next one is expected half an interval later. -/
def resetAt (c : FramerateController) (tsNs interval : ℤ) :
    Except Fault (Bool × FramerateController) := do
  let next ← I64.result checks (tsNs + interval / 2)
  pure (false, { c with nextFrameTimestampNs := some next })

def throttle (c : FramerateController) (tsNs interval : ℤ) :
    Except Fault (Bool × FramerateController) :=
  match c.nextFrameTimestampNs with
  | none => c.resetAt checks tsNs interval
  | some next => do
      let untilNext ← I64.result checks (next - tsNs)
      let magnitude ← I64.abs checks untilNext
      if magnitude < 2 * interval then
        if 0 < untilNext then pure (true, c)
        else do
          let advanced ← I64.result checks (next + interval)
          pure (false, { c with nextFrameTimestampNs := some advanced })
      else c.resetAt checks tsNs interval

def shouldDropFrame (c : FramerateController) (tsNs : ℤ) :
    Except Fault (Bool × FramerateController) :=
  if c.maxFramerate.lt kMinFramerate then .ok (true, c)
  else do
    let interval ← I64.quot nsecsPerSec (toI64 c.maxFramerate)
    if interval ≤ 0 then pure (false, c) else c.throttle checks tsNs interval

def keepFrame (c : FramerateController) (tsNs : ℤ) : Except Fault FramerateController := do
  let (dropped, c) ← c.shouldDropFrame checks tsNs
  if !dropped then pure c
  else if c.maxFramerate.lt kMinFramerate then pure c
  else do
    let interval ← I64.quot nsecsPerSec (toI64 c.maxFramerate)
    if interval ≤ 0 then pure c
    else
      match c.nextFrameTimestampNs with
      | none => pure c
      | some next => do
          let advanced ← I64.result checks (next + interval)
          pure { c with nextFrameTimestampNs := some advanced }

end FramerateController

structure VideoAdapter where
  framerateController : FramerateController
  framesDropped : ℕ

def VideoAdapter.new : VideoAdapter := ⟨.new, 0⟩

def VideoAdapter.setMaxFramerate (a : VideoAdapter) (fps : Binary64) : VideoAdapter :=
  { a with framerateController := a.framerateController.setMaxFramerate fps }

def VideoAdapter.shouldDropFrame (checks : Bool) (a : VideoAdapter) (tsNs : ℤ) :
    Except Fault (Bool × VideoAdapter) := do
  let (drop, c) ← a.framerateController.shouldDropFrame checks tsNs
  pure (drop, ⟨c, if drop then a.framesDropped + 1 else a.framesDropped⟩)

structure ScalingAdapter extends VideoAdapter where
  scaleResolutionDownTo : Option (ℕ × ℕ)
  framesScaled : ℕ

namespace ScalingAdapter

def new : ScalingAdapter := { VideoAdapter.new with scaleResolutionDownTo := none, framesScaled := 0 }

def setScaleResolutionDownTo (a : ScalingAdapter) (cap : Option (ℕ × ℕ)) : ScalingAdapter :=
  { a with scaleResolutionDownTo := cap }

def outSide (scale : Binary64) (side : ℕ) : ℕ :=
  max (Binary64.toU32 (Binary64.roundAway ((Binary64.ofInt side).mul scale))) 2

def adaptResolution (a : ScalingAdapter) (width height : ℕ) : Option (ℕ × ℕ) × ScalingAdapter :=
  match a.scaleResolutionDownTo with
  | none => (none, a)
  | some (maxW, maxH) =>
    if width ≤ maxW ∧ height ≤ maxH then (none, a)
    else
      let scaleW := (Binary64.ofInt maxW).div (.ofInt width)
      let scaleH := (Binary64.ofInt maxH).div (.ofInt height)
      let scale := scaleW.minNum scaleH
      let outW := outSide scale width
      let outH := outSide scale height
      if outW = width ∧ outH = height then (none, a)
      else (some (outW, outH), { a with framesScaled := a.framesScaled + 1 })

end ScalingAdapter

end MediaServo.Media
