import MediaServo.Foundations.Checked
import MediaServo.Media.Planes

/-! The conversions between packed pixels and pictures of three planes, in integers with overflow
checks. A result is missing where the code panics. -/

namespace MediaServo.Media

open MediaServo.Foundations.Raster
open MediaServo.Foundations.Checked

inductive Rgb
  | red
  | green
  | blue
  deriving DecidableEq

inductive Yuv
  | luma
  | cb
  | cr
  deriving DecidableEq

inductive PixelFormat
  | argb
  | bgra
  | abgr
  | rgba
  | i420
  | i422
  | i444
  | nv12
  | i010
  | p010
  deriving DecidableEq

def clamp (lo hi n : ℤ) : ℤ := max lo (min hi n)

def asU8 (n : ℤ) : UInt8 := UInt8.ofNat (n % 2 ^ 8).toNat

namespace NativeTransform

/-- The one variant of `MediaError` that the transform makes. -/
inductive MediaError
  | unsupportedFormat (fmt : PixelFormat)
  deriving DecidableEq

section FromRgb

variable (r g b : Arith Rgb)

def yVal : Arith Rgb := ((66 * r + 129 * g + 25 * b + 128) >>> 8) + 16

def uVal : Arith Rgb := ((-38 * r - 74 * g + 112 * b + 128) >>> 8) + 128

def vVal : Arith Rgb := ((112 * r - 94 * g - 18 * b + 128) >>> 8) + 128

end FromRgb

section FromYuv

variable (yp up vp : Arith Yuv)

def red : Arith Yuv := (298 * yp + 409 * vp + 128) >>> 8

def green : Arith Yuv := (298 * yp - 100 * up - 208 * vp + 128) >>> 8

def blue : Arith Yuv := (298 * yp + 516 * up + 128) >>> 8

end FromYuv

def ofRgb (e : Arith Rgb → Arith Rgb → Arith Rgb → Arith Rgb) : Arith Rgb :=
  e (.var .red) (.var .green) (.var .blue)

def ofYuv (e : Arith Yuv → Arith Yuv → Arith Yuv → Arith Yuv) : Arith Yuv :=
  e (.var .luma - 16) (.var .cb - 128) (.var .cr - 128)

structure Bgr where
  b : UInt8
  g : UInt8
  r : UInt8
  deriving DecidableEq

def Bgr.env (p : Bgr) : Rgb → ℤ
  | .red => p.r.toNat
  | .green => p.g.toNat
  | .blue => p.b.toNat

def pixelAt (argb : List UInt8) (pxIdx : ℕ) : Option Bgr := do
  let b ← argb[pxIdx]?
  let g ← argb[pxIdx + 1]?
  let r ← argb[pxIdx + 2]?
  pure ⟨b, g, r⟩

def lumaOf (p : Bgr) : Option UInt8 :=
  ((ofRgb yVal).eval .i32 p.env).map fun n => asU8 (clamp 16 235 n)

def chromaOf (e : Arith Rgb → Arith Rgb → Arith Rgb → Arith Rgb) (p : Bgr) : Option ℤ :=
  ((ofRgb e).eval .i32 p.env).map (clamp 16 240)

section ToI420

variable (argb : List UInt8)

def storeLuma (pxIdx yPos : ℕ) (dstY : List UInt8) : Option (List UInt8) :=
  ((pixelAt argb pxIdx).bind lumaOf).bind fun y => store yPos y dstY

def addChroma (e : Arith Rgb → Arith Rgb → Arith Rgb → Arith Rgb) (pxIdx : ℕ) (sum : ℤ) : Option ℤ :=
  ((pixelAt argb pxIdx).bind (chromaOf e)).bind fun c => Interval.u32.check (sum + c)

def meanOf (sum : ℤ) : Option UInt8 := (Interval.u32.check (sum + 2)).map fun s => asU8 (s / 4)

/-- A block of four pixels: a sample of luma for each, one of each chroma for all. -/
def argbBlock (strideArgb strideY strideU row col : ℕ) (planes : List UInt8 × List UInt8 × List UInt8) :
    Option (List UInt8 × List UInt8 × List UInt8) := do
  let (y, uSum, vSum) ← forGrid 2 2 (fun dy dx =>
    let pxIdx := (row * 2 + dy) * strideArgb + (col * 2 + dx) * 4
    both (storeLuma argb pxIdx ((row * 2 + dy) * strideY + (col * 2 + dx)))
      (both (addChroma argb uVal pxIdx) (addChroma argb vVal pxIdx))) (planes.1, 0, 0)
  let uvPos := row * strideU + col
  let u ← (meanOf uSum).bind fun m => store uvPos m planes.2.1
  let v ← (meanOf vSum).bind fun m => store uvPos m planes.2.2
  pure (y, u, v)

def argbToI420 (w h : ℕ) (dst : I420BufferRef) : Option I420BufferRef := do
  let (y, u, v) ← forGrid (h / 2) (w / 2) (argbBlock argb (w * 4) dst.strideY dst.strideU)
    (dst.y, dst.u, dst.v)
  pure { dst with y, u, v }

end ToI420

section ToArgb

structure Yuv8 where
  y : UInt8
  u : UInt8
  v : UInt8
  deriving DecidableEq

def Yuv8.env (s : Yuv8) : Yuv → ℤ
  | .luma => s.y.toNat
  | .cb => s.u.toNat
  | .cr => s.v.toNat

/-- The samples behind a pixel: chroma is shared by blocks of four. -/
def samplesAt (src : I420BufferRef) (x y : ℕ) : Option Yuv8 := do
  let yy ← src.y[y * src.strideY + x]?
  let u ← src.u[y / 2 * src.strideU + x / 2]?
  let v ← src.v[y / 2 * src.strideV + x / 2]?
  pure ⟨yy, u, v⟩

def colourOf (e : Arith Yuv → Arith Yuv → Arith Yuv → Arith Yuv) (s : Yuv8) : Option UInt8 :=
  ((ofYuv e).eval .i32 s.env).map fun n => asU8 (clamp 0 255 n)

def bgrOf (s : Yuv8) : Option Bgr := do
  let r ← colourOf (fun yp _ vp => red yp vp) s
  let g ← colourOf green s
  let b ← colourOf (fun yp up _ => blue yp up) s
  pure ⟨b, g, r⟩

def pack : PixelFormat → Option (Bgr → List UInt8)
  | .argb => some fun p => [255, p.r, p.g, p.b]
  | .bgra => some fun p => [p.b, p.g, p.r, 255]
  | .abgr => some fun p => [255, p.b, p.g, p.r]
  | .rgba => some fun p => [p.r, p.g, p.b, 255]
  | .i420 | .i422 | .i444 | .nv12 | .i010 | .p010 => none

def storePixel (dstOffset : ℕ) (bytes : List UInt8) (dst : List UInt8) : Option (List UInt8) :=
  forRange 4 (fun k => copyAt bytes k (dstOffset + k)) dst

/-- A format that is not packed is refused at the first pixel, after that pixel has been read. -/
def i420ToArgb (src : I420BufferRef) (w h : ℕ) (fmt : PixelFormat) (dst : List UInt8) :
    Option (Except MediaError (List UInt8)) :=
  match pack fmt with
  | some bytes => (forGrid h w (fun y x dst => ((samplesAt src x y).bind bgrOf).bind fun p =>
      storePixel ((y * w + x) * 4) (bytes p) dst) dst).map .ok
  | none =>
      if h = 0 ∨ w = 0 then some (.ok dst)
      else ((samplesAt src 0 0).bind bgrOf).map fun _ => .error (.unsupportedFormat fmt)

end ToArgb

end NativeTransform

end MediaServo.Media
