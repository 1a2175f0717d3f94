import MediaServo.Foundations.Digits
import MediaServo.Link.TokenFile

/-! The metadata in front of a frame, in a fixed number of bytes. -/

namespace MediaServo.Link

open LittleEndian

structure FrameMeta where
  seq : UInt64
  width : UInt32
  height : UInt32
  format : UInt8
  version : UInt8
  isKeyframe : Bool
  tsMonoNs : UInt64
  tsEpochNs : UInt64
  deriving DecidableEq

inductive BusError
  | bus (message : String)
  deriving DecidableEq

/-- `b[lo..hi].copy_from_slice(src)`, or `none` where the code would panic. -/
def copyFromSlice (b : Bytes) (lo hi : ℕ) (src : Bytes) : Option Bytes :=
  if lo ≤ hi ∧ hi ≤ b.length ∧ src.length = hi - lo then some (b.take lo ++ src ++ b.drop hi)
  else none

namespace FrameMeta

def WIRE_VERSION : UInt8 := 0

def WIRE_LEN : ℕ := 36

def encode (m : FrameMeta) : Option Bytes := do
  let b := List.replicate WIRE_LEN 0
  let b ← copyFromSlice b 0 8 (leBytes 8 m.seq.toNat)
  let b ← copyFromSlice b 8 12 (leBytes 4 m.width.toNat)
  let b ← copyFromSlice b 12 16 (leBytes 4 m.height.toNat)
  let b := b.set 16 m.format
  let b := b.set 17 m.version
  let b := b.set 18 (if m.isKeyframe then 1 else 0)
  let b := b.set 19 0
  let b ← copyFromSlice b 20 28 (leBytes 8 m.tsMonoNs.toNat)
  copyFromSlice b 28 36 (leBytes 8 m.tsEpochNs.toNat)

/-- The fields, read at the offsets at which `encode` writes them. -/
def readFields (b : Bytes) : Option FrameMeta := do
  let seq ← slice b 0 8
  let width ← slice b 8 12
  let height ← slice b 12 16
  let format : UInt8 ← b[16]?
  let version : UInt8 ← b[17]?
  let keyframe : UInt8 ← b[18]?
  let mono ← slice b 20 28
  let epoch ← slice b 28 36
  some
    { seq := UInt64.ofNat (leValue seq)
      width := UInt32.ofNat (leValue width)
      height := UInt32.ofNat (leValue height)
      format := format
      version := version
      isKeyframe := keyframe != 0
      tsMonoNs := UInt64.ofNat (leValue mono)
      tsEpochNs := UInt64.ofNat (leValue epoch) }

/-- What `decode` answers, or `none` where an index would be past the end. -/
def decode (b : Bytes) : Option (Except BusError FrameMeta) :=
  if b.length < WIRE_LEN then
    some (.error (.bus ("frame meta too short: " ++ toString b.length ++ " < " ++
      toString WIRE_LEN)))
  else do
    let version : UInt8 ← b[17]?
    if version ≠ WIRE_VERSION then
      some (.error (.bus ("frame meta wire version " ++ toString version ++
        " unsupported (expected " ++ toString WIRE_VERSION ++ ")")))
    else
      let m ← readFields b
      some (.ok m)

end FrameMeta

end MediaServo.Link
