import MediaServo.Foundations.Raster

/-! Pictures of three planes, and the transforms that move their samples. The planes of chroma have
half the width and half the height, rounded down. A result is missing where the code panics. -/

namespace MediaServo.Media

open MediaServo.Foundations.Raster

structure I420BufferRef where
  y : List UInt8
  u : List UInt8
  v : List UInt8
  strideY : ℕ
  strideU : ℕ
  strideV : ℕ
  deriving DecidableEq

structure I420Buffer where
  dataY : List UInt8
  dataU : List UInt8
  dataV : List UInt8
  strideY : ℕ
  strideU : ℕ
  strideV : ℕ
  width : ℕ
  height : ℕ
  deriving DecidableEq

namespace I420Buffer

def new (width height : ℕ) : I420Buffer where
  dataY := List.replicate (width * height % 2 ^ 32) 0
  dataU := List.replicate (width / 2 * (height / 2) % 2 ^ 32) 128
  dataV := List.replicate (width / 2 * (height / 2) % 2 ^ 32) 128
  strideY := width
  strideU := width / 2
  strideV := width / 2
  width := width
  height := height

def asI420Ref (b : I420Buffer) : I420BufferRef :=
  ⟨b.dataY, b.dataU, b.dataV, b.strideY, b.strideU, b.strideV⟩

end I420Buffer

inductive VideoRotation
  | rotation0
  | rotation90
  | rotation180
  | rotation270
  deriving DecidableEq

namespace NativeTransform

def scalePlane (src : List UInt8) (srcStride srcW srcH : ℕ) (dstStride dstW dstH : ℕ) :
    List UInt8 → Option (List UInt8) :=
  forGrid dstH dstW fun dy dx =>
    copyAt src (dy * srcH / dstH * srcStride + dx * srcW / dstW) (dy * dstStride + dx)

def scale (src : I420BufferRef) (srcW srcH : ℕ) (dst : I420BufferRef) (dstW dstH : ℕ) :
    Option I420BufferRef := do
  let y ← scalePlane src.y src.strideY srcW srcH dst.strideY dstW dstH dst.y
  let u ← scalePlane src.u src.strideU (srcW / 2) (srcH / 2) dst.strideU (dstW / 2) (dstH / 2) dst.u
  let v ← scalePlane src.v src.strideV (srcW / 2) (srcH / 2) dst.strideV (dstW / 2) (dstH / 2) dst.v
  pure { dst with y, u, v }

/-- Left and right exchanged. One loop serves both planes of chroma, by the strides of U. -/
def mirror (src : I420BufferRef) (w h : ℕ) (dst : I420BufferRef) : Option I420BufferRef := do
  let y ← forGrid h w (fun y x =>
    copyAt src.y (y * src.strideY + x) (y * dst.strideY + (w - 1 - x))) dst.y
  let halfW := w / 2
  let halfH := h / 2
  let (u, v) ← forGrid halfH halfW (fun y x =>
    both (copyAt src.u (y * src.strideU + x) (y * dst.strideU + (halfW - 1 - x)))
      (copyAt src.v (y * src.strideU + x) (y * dst.strideU + (halfW - 1 - x)))) (dst.u, dst.v)
  pure { dst with y, u, v }

/-- The rectangle at `x` and `y`. One loop serves both planes of chroma, by the strides of U. -/
def crop (src : I420BufferRef) (x y w h : ℕ) (dst : I420BufferRef) : Option I420BufferRef := do
  let y' ← forRange h (fun row =>
    copySlice src.y ((y + row) * src.strideY + x) (row * dst.strideY) w) dst.y
  let halfX := x / 2
  let halfY := y / 2
  let halfW := w / 2
  let halfH := h / 2
  let (u, v) ← forRange halfH (fun row =>
    both (copySlice src.u ((halfY + row) * src.strideU + halfX) (row * dst.strideU) halfW)
      (copySlice src.v ((halfY + row) * src.strideU + halfX) (row * dst.strideU) halfW)) (dst.u, dst.v)
  pure { dst with y := y', u, v }

/-- The place, as column and row, that a sample of a plane of the given size is turned to. -/
def turnedTo (rot : VideoRotation) (w h sx sy : ℕ) : ℕ × ℕ :=
  match rot with
  | .rotation0 => (sx, sy)
  | .rotation90 => (h - 1 - sy, sx)
  | .rotation180 => (w - 1 - sx, h - 1 - sy)
  | .rotation270 => (sy, w - 1 - sx)

/-- The loop over a plane in the rotations by a right angle or more. -/
def rotatePlane (rot : VideoRotation) (src : List UInt8) (srcStride w h dstStride : ℕ) :
    List UInt8 → Option (List UInt8) :=
  forGrid h w fun sy sx =>
    let (dx, dy) := turnedTo rot w h sx sy
    copyAt src (sy * srcStride + sx) (dy * dstStride + dx)

def rotate (src : I420BufferRef) (w h : ℕ) (rot : VideoRotation) (dst : I420BufferRef) :
    Option I420BufferRef :=
  let halfW := w / 2
  let halfH := h / 2
  match rot with
  | .rotation0 => do
      let y ← forRange h (fun y => copySlice src.y (y * src.strideY) (y * dst.strideY) w) dst.y
      let (u, v) ← forRange halfH (fun y =>
        both (copySlice src.u (y * src.strideU) (y * dst.strideU) halfW)
          (copySlice src.v (y * src.strideU) (y * dst.strideU) halfW)) (dst.u, dst.v)
      pure { dst with y, u, v }
  | rot => do
      let y ← rotatePlane rot src.y src.strideY w h dst.strideY dst.y
      let u ← rotatePlane rot src.u src.strideU halfW halfH dst.strideU dst.u
      let v ← rotatePlane rot src.v src.strideV halfW halfH dst.strideV dst.v
      pure { dst with y, u, v }

def i420ToNv12 (src : I420BufferRef) (w h : ℕ) (dstY dstUv : List UInt8) :
    Option (List UInt8 × List UInt8) := do
  let dstY ← forRange h (fun row => copySlice src.y (row * src.strideY) (row * w) w) dstY
  let halfW := w / 2
  let halfH := h / 2
  let dstUv ← forGrid halfH halfW (fun y x dstUv => do
    let dstUv ← copyAt src.u (y * src.strideU + x) ((y * halfW + x) * 2) dstUv
    copyAt src.v (y * src.strideU + x) ((y * halfW + x) * 2 + 1) dstUv) dstUv
  pure (dstY, dstUv)

def nv12ToI420 (srcY srcUv : List UInt8) (w h : ℕ) (dst : I420BufferRef) : Option I420BufferRef := do
  let y ← forRange h (fun row => copySlice srcY (row * w) (row * dst.strideY) w) dst.y
  let halfW := w / 2
  let halfH := h / 2
  let (u, v) ← forGrid halfH halfW (fun y x =>
    both (copyAt srcUv ((y * halfW + x) * 2) (y * dst.strideU + x))
      (copyAt srcUv ((y * halfW + x) * 2 + 1) (y * dst.strideU + x))) (dst.u, dst.v)
  pure { dst with y, u, v }

end NativeTransform

def I420Buffer.scale (b : I420Buffer) (newWidth newHeight : ℕ) : Option I420Buffer := do
  let out := new newWidth newHeight
  let ref ← NativeTransform.scale b.asI420Ref b.width b.height out.asI420Ref newWidth newHeight
  pure { out with dataY := ref.y, dataU := ref.u, dataV := ref.v }

end MediaServo.Media
