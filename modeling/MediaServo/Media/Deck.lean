import MediaServo.Foundations.Raster

/-! Recording and playback: the planes of a frame on their way into the picture of the encoder and
out of the picture of the decoder, and the two loops that a recording runs, with a queue of frames
from the bridge to the encoding worker and a flag by which both are stopped. -/

namespace MediaServo.Media

open MediaServo.Foundations.Raster

structure VideoFrame where
  width : ℕ
  height : ℕ
  planes : List (Plane UInt8)
  pts : ℕ
  keyframe : Bool

/-- A plane of an FFmpeg picture: all its rows, padding included. The stride is a C int. -/
structure AvPlane where
  data : List UInt8
  stride : ℕ
  width : ℕ
  height : ℕ
  wide : width ≤ stride
  cint : stride < 2 ^ 31
  whole : data.length = stride * height

/-- A picture of the format YUV420P, whose planes of chroma have half the size, rounded up. -/
structure AvFrame where
  width : ℕ
  height : ℕ
  y : AvPlane
  u : AvPlane
  v : AvPlane
  pts : Option ℤ
  sizeY : y.width = width ∧ y.height = height
  sizeU : u.width = (width + 1) / 2 ∧ u.height = (height + 1) / 2
  sizeV : v.width = (width + 1) / 2 ∧ v.height = (height + 1) / 2

def AvPlane.plane (p : AvPlane) : Plane UInt8 := ⟨p.data, p.stride⟩

def AvFrame.planes (f : AvFrame) : List AvPlane := [f.y, f.u, f.v]

namespace Recorder

def copyPlane (src dst : List UInt8) : List UInt8 :=
  let n := min dst.length src.length
  src.take n ++ dst.drop n

lemma copyPlane_length (src dst : List UInt8) : (copyPlane src dst).length = dst.length := by
  simp only [copyPlane, List.length_append, List.length_take, List.length_drop]
  omega

def fillPlane (src : Option (Plane UInt8)) (dst : AvPlane) : AvPlane :=
  match src with
  | none => dst
  | some p =>
      { dst with
        data := copyPlane p.samples dst.data
        whole := (copyPlane_length _ _).trans dst.whole }

/-- The picture that `encode_and_mux` hands to the encoder; the time stamp is a cast to `i64`. -/
def fill (frame : VideoFrame) (basePts : ℕ) (avframe : AvFrame) : AvFrame where
  width := avframe.width
  height := avframe.height
  y := fillPlane frame.planes[0]? avframe.y
  u := fillPlane frame.planes[1]? avframe.u
  v := fillPlane frame.planes[2]? avframe.v
  pts := some (Int.bmod (frame.pts - basePts : ℕ) (2 ^ 64))
  sizeY := by cases frame.planes[0]? <;> exact avframe.sizeY
  sizeU := by cases frame.planes[1]? <;> exact avframe.sizeU
  sizeV := by cases frame.planes[2]? <;> exact avframe.sizeV

variable {F : Type}

/-- What waiting 50 ms for a frame of the source comes to. -/
inductive Poll (F : Type)
  | frame (f : F)
  | ended
  | elapsed

inductive Bridge (F : Type)
  | check
  | polling
  | holding (f : F)
  | ended

/-- Where the worker is: `first` and `looking` are before `try_recv`, `firstEmpty` and `lookedEmpty`
behind one that found nothing, and `top` is the head of the loop over the frames. -/
inductive Worker (F : Type)
  | starting
  | first
  | firstEmpty
  | opening (f : F)
  | encoding (f : F)
  | top
  | looking
  | lookedEmpty
  | finishing
  | exited

inductive Entry (F : Type)
  | header
  | frame (f : F)
  | trailer
  deriving DecidableEq

/-- `taken` is what the bridge has had of the source so far. -/
structure State (F : Type) where
  running : Bool
  bridge : Bridge F
  worker : Worker F
  queue : List F
  log : List (Entry F)
  taken : List F

/-- A step of the bridge with the answer of the source, should it be waiting for one; a step of the
worker, with whether the calls into FFmpeg succeed; a request to stop. -/
inductive Action (F : Type)
  | bridge (poll : Poll F)
  | worker (ok : Bool)
  | stop

def start : State F := ⟨true, .check, .starting, [], [], []⟩

def bridgeStep (s : State F) (poll : Poll F) : State F :=
  match s.bridge with
  | .check => { s with bridge := if s.running then .polling else .ended }
  | .polling =>
      match poll with
      | .frame f => { s with bridge := .holding f, taken := s.taken ++ [f] }
      | .ended => { s with bridge := .ended }
      | .elapsed => { s with bridge := .check }
  | .holding f =>
      match s.worker with
      | .exited => { s with bridge := .ended } -- the receiver is gone
      | _ => { s with bridge := .check, queue := s.queue ++ [f] }
  | .ended => s

/-- `try_recv` finds a frame, or nothing while the sender is there, or nothing without it. -/
def receive (s : State F) (got : F → Worker F) (empty disconnected : Worker F) : State F :=
  match s.queue with
  | f :: rest => { s with queue := rest, worker := got f }
  | [] =>
      match s.bridge with
      | .ended => { s with worker := disconnected }
      | _ => { s with worker := empty }

def workerStep (s : State F) (ok : Bool) : State F :=
  match s.worker with
  | .starting => { s with worker := if ok then .first else .exited }
  | .first => receive s .opening .firstEmpty .exited
  | .firstEmpty => { s with worker := if s.running then .first else .exited }
  | .opening f =>
      if ok then { s with worker := .encoding f, log := s.log ++ [.header] }
      else { s with worker := .exited }
  | .encoding f =>
      if ok then { s with worker := .top, log := s.log ++ [.frame f] }
      else { s with worker := .exited }
  | .top => { s with worker := if s.running then .looking else .finishing }
  | .looking => receive s .encoding .lookedEmpty .finishing
  | .lookedEmpty => { s with worker := if s.running then .looking else .finishing }
  | .finishing =>
      if ok then { s with worker := .exited, log := s.log ++ [.trailer] }
      else { s with worker := .exited }
  | .exited => s

def step (s : State F) : Action F → State F
  | .bridge poll => bridgeStep s poll
  | .worker ok => workerStep s ok
  | .stop => { s with running := false }

end Recorder

namespace PlayerInner

def planeLen (w h i : ℕ) : ℕ := if i = 0 then w * h % 2 ^ 32 else w * h % 2 ^ 32 / 4

/-- The planes from the `i`th on, up to the first that gives no bytes; `none` is the panic of a
build with checks. -/
def takePlanes (checks : Bool) (w h : ℕ) : ℕ → List AvPlane → Option (List (Plane UInt8))
  | _, [] => some []
  | i, p :: rest =>
      if checks ∧ 2 ^ 32 ≤ w * h then none
      else
        let data := if 0 < p.stride then p.data.take (planeLen w h i) else []
        if data.isEmpty then some []
        else (takePlanes checks w h (i + 1) rest).map (⟨data, p.stride⟩ :: ·)

def videoFrame (checks : Bool) (avframe : AvFrame) : Option VideoFrame :=
  (takePlanes checks avframe.width avframe.height 0 avframe.planes).map fun planes =>
    { width := avframe.width
      height := avframe.height
      planes := planes
      pts := (avframe.pts.getD 0).toNat
      keyframe := false }

end PlayerInner

end MediaServo.Media
