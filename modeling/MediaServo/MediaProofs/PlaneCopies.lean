import MediaServo.Media.Planes

/-! What each transform draws, plane by plane: the picture that it makes of the picture it was given. -/

namespace MediaServo.Media

open MediaServo.Foundations.Raster

/-- The sizes and strides of the planes of a buffer. -/
structure PictureLayout where
  lenY : ℕ
  lenU : ℕ
  lenV : ℕ
  strideY : ℕ
  strideU : ℕ
  strideV : ℕ
  deriving DecidableEq

structure PictureLayout.Holds (L : PictureLayout) (w h : ℕ) : Prop where
  y : Room L.lenY L.strideY w h
  u : Room L.lenU L.strideU (w / 2) (h / 2)
  v : Room L.lenV L.strideV (w / 2) (h / 2)

namespace I420BufferRef

def layout (b : I420BufferRef) : PictureLayout :=
  ⟨b.y.length, b.u.length, b.v.length, b.strideY, b.strideU, b.strideV⟩

def yPlane (b : I420BufferRef) : Plane UInt8 := ⟨b.y, b.strideY⟩

def uPlane (b : I420BufferRef) : Plane UInt8 := ⟨b.u, b.strideU⟩

def vPlane (b : I420BufferRef) : Plane UInt8 := ⟨b.v, b.strideV⟩

def vByU (b : I420BufferRef) : Plane UInt8 := ⟨b.v, b.strideU⟩

lemma vByU_eq {b : I420BufferRef} (h : b.strideU = b.strideV) : b.vByU = b.vPlane := by
  rw [vByU, vPlane, h]

end I420BufferRef

/-- Two buffers show the same picture. -/
structure SamePicture (w h : ℕ) (a b : I420BufferRef) : Prop where
  y : Plane.Agree w h a.yPlane b.yPlane
  u : Plane.Agree (w / 2) (h / 2) a.uPlane b.uPlane
  v : Plane.Agree (w / 2) (h / 2) a.vPlane b.vPlane

structure DrawnInto (w h : ℕ) (imgY imgU imgV : ℕ → ℕ → Option UInt8) (lineV : ℕ)
    (dst d : I420BufferRef) : Prop where
  strideY : d.strideY = dst.strideY
  strideU : d.strideU = dst.strideU
  strideV : d.strideV = dst.strideV
  y : Drawn w h imgY dst.strideY dst.y d.y
  u : Drawn (w / 2) (h / 2) imgU dst.strideU dst.u d.u
  v : Drawn (w / 2) (h / 2) imgV lineV dst.v d.v

lemma DrawnInto.layout_eq {w h lineV : ℕ} {imgY imgU imgV : ℕ → ℕ → Option UInt8}
    {dst d : I420BufferRef} (hd : DrawnInto w h imgY imgU imgV lineV dst d) :
    d.layout = dst.layout := by
  rw [I420BufferRef.layout, I420BufferRef.layout, hd.y.length, hd.u.length, hd.v.length, hd.strideY,
    hd.strideU, hd.strideV]

section Turns

def mirrored (w h : ℕ) : Turns h w w h where
  x _ c := w - 1 - c
  y r _ := r
  row _ j := j
  col i _ := w - 1 - i
  place_mem _ _ _ _ := by omega
  turn_mem _ _ _ _ := by omega
  place_turn _ _ _ _ := by omega
  turn_place _ _ _ _ := by omega

def turnedSize (rot : VideoRotation) (w h : ℕ) : ℕ × ℕ :=
  match rot with
  | .rotation0 | .rotation180 => (w, h)
  | .rotation90 | .rotation270 => (h, w)

def turnedFrom (rot : VideoRotation) (w h x y : ℕ) : ℕ × ℕ :=
  match rot with
  | .rotation0 => (x, y)
  | .rotation90 => (y, h - 1 - x)
  | .rotation180 => (w - 1 - x, h - 1 - y)
  | .rotation270 => (w - 1 - y, x)

def turned (rot : VideoRotation) (w h : ℕ) : Turns h w (turnedSize rot w h).1 (turnedSize rot w h).2 where
  x r c := (NativeTransform.turnedTo rot w h c r).1
  y r c := (NativeTransform.turnedTo rot w h c r).2
  row i j := (turnedFrom rot w h i j).2
  col i j := (turnedFrom rot w h i j).1
  place_mem r hr c hc := by cases rot <;> simp only [turnedSize, NativeTransform.turnedTo] <;> omega
  turn_mem i hi j hj := by cases rot <;> simp only [turnedSize, turnedFrom] at * <;> omega
  place_turn i hi j hj := by
    cases rot <;> simp only [turnedSize, turnedFrom, NativeTransform.turnedTo, and_true, true_and] at * <;> omega
  turn_place r hr c hc := by
    cases rot <;> simp only [turnedFrom, NativeTransform.turnedTo, and_true, true_and] <;> omega

end Turns

def planewise (fy fu fv : List UInt8 → Option (List UInt8)) (dst : I420BufferRef) :
    Option I420BufferRef := do
  let y ← fy dst.y
  let u ← fu dst.u
  let v ← fv dst.v
  pure { dst with y, u, v }

section Planewise

variable {fy fu fv : List UInt8 → Option (List UInt8)} {dst d : I420BufferRef}

lemma planewise_eq_some : planewise fy fu fv dst = some d ↔
    ∃ y u v, fy dst.y = some y ∧ fu dst.u = some u ∧ fv dst.v = some v ∧ { dst with y, u, v } = d := by
  simp only [planewise, Option.bind_eq_bind, Option.bind_eq_some_iff, Option.pure_def, Option.some.injEq]
  constructor
  · rintro ⟨y, hy, u, hu, v, hv, rfl⟩
    exact ⟨y, u, v, hy, hu, hv, rfl⟩
  · rintro ⟨y, u, v, hy, hu, hv, rfl⟩
    exact ⟨y, hy, u, hu, v, hv, rfl⟩

lemma planewise_of_both {g : List UInt8 × List UInt8 → Option (List UInt8 × List UInt8)}
    (hg : ∀ s s', g s = some s' ↔ fu s.1 = some s'.1 ∧ fv s.2 = some s'.2) :
    (do
      let y ← fy dst.y
      let (u, v) ← g (dst.u, dst.v)
      pure { dst with y, u, v }) = planewise fy fu fv dst := by
  ext d
  simp only [planewise, Option.bind_eq_bind, Option.bind_eq_some_iff, Option.pure_def, Option.some.injEq,
    Prod.exists, hg]
  constructor
  · rintro ⟨y, hy, u, v, ⟨hu, hv⟩, rfl⟩
    exact ⟨y, hy, u, hu, v, hv, rfl⟩
  · rintro ⟨y, hy, u, hu, v, hv, rfl⟩
    exact ⟨y, hy, u, v, ⟨hu, hv⟩, rfl⟩

lemma planewise_drawn {w h lineV : ℕ} {imgY imgU imgV : ℕ → ℕ → Option UInt8}
    (hy : ∃ y, fy dst.y = some y ∧ Drawn w h imgY dst.strideY dst.y y)
    (hu : ∃ u, fu dst.u = some u ∧ Drawn (w / 2) (h / 2) imgU dst.strideU dst.u u)
    (hv : ∃ v, fv dst.v = some v ∧ Drawn (w / 2) (h / 2) imgV lineV dst.v v) :
    ∃ d, planewise fy fu fv dst = some d ∧ DrawnInto w h imgY imgU imgV lineV dst d := by
  obtain ⟨y, hy, hdrawnY⟩ := hy
  obtain ⟨u, hu, hdrawnU⟩ := hu
  obtain ⟨v, hv, hdrawnV⟩ := hv
  exact ⟨_, planewise_eq_some.2 ⟨y, u, v, hy, hu, hv, rfl⟩, rfl, rfl, rfl, hdrawnY, hdrawnU, hdrawnV⟩

end Planewise

namespace NativeTransform

variable {p : Plane UInt8} {w h stride : ℕ} {dst : List UInt8}

section Planes

lemma scalePlane_drawn {dw dh : ℕ} (hp : Room p.samples.length p.stride w h)
    (hsome : 0 < dw → 0 < dh → 0 < w ∧ 0 < h) (hdst : Room dst.length stride dw dh) :
    ∃ d, scalePlane p.samples p.stride w h stride dw dh dst = some d ∧
      Drawn dw dh (fun x y => p.sample (x * w / dw) (y * h / dh)) stride dst d := by
  apply (Turns.straight dw dh).exists_copied hdst
  intro dy hdy dx hdx
  obtain ⟨hw, hh⟩ := hsome (by omega) (by omega)
  apply hp.index_lt
  · rw [Nat.div_lt_iff_lt_mul (by omega), Nat.mul_comm w]
    exact Nat.mul_lt_mul_of_pos_right hdx hw
  · rw [Nat.div_lt_iff_lt_mul (by omega), Nat.mul_comm h]
    exact Nat.mul_lt_mul_of_pos_right hdy hh

lemma rotatePlane_drawn (rot : VideoRotation) (hp : Room p.samples.length p.stride w h)
    (hdst : Room dst.length stride (turnedSize rot w h).1 (turnedSize rot w h).2) :
    ∃ d, rotatePlane rot p.samples p.stride w h stride dst = some d ∧
      Drawn (turnedSize rot w h).1 (turnedSize rot w h).2
        (fun x y => p.sample (turnedFrom rot w h x y).1 (turnedFrom rot w h x y).2) stride dst d :=
  (turned rot w h).exists_copied hdst fun _ hy _ hx => hp.index_lt hx hy

lemma cropPlane_drawn {x y : ℕ} {d : List UInt8} (hwide : w ≤ stride)
    (hrun : forRange h (fun row =>
      copySlice p.samples ((y + row) * p.stride + x) (row * stride) w) dst = some d) :
    Drawn w h (fun i j => p.sample (x + i) (y + j)) stride dst d := by
  have himg : (fun i j => p.sample (x + i) (y + j)) =
      fun i j => p.samples[(y + j) * p.stride + x + i]? := by
    funext i j
    rw [Plane.sample, ← Nat.add_assoc]
  rw [himg]
  exact slices_drawn hwide hrun

end Planes

section Pictures

variable {src dst d : I420BufferRef}

lemma scale_drawn {dw dh : ℕ} (hsrc : src.layout.Holds w h) (hdst : dst.layout.Holds dw dh)
    (hluma : 0 < dw → 0 < dh → 0 < w ∧ 0 < h)
    (hchroma : 0 < dw / 2 → 0 < dh / 2 → 0 < w / 2 ∧ 0 < h / 2) :
    ∃ d, scale src w h dst dw dh = some d ∧
      DrawnInto dw dh (fun x y => src.yPlane.sample (x * w / dw) (y * h / dh))
        (fun x y => src.uPlane.sample (x * (w / 2) / (dw / 2)) (y * (h / 2) / (dh / 2)))
        (fun x y => src.vPlane.sample (x * (w / 2) / (dw / 2)) (y * (h / 2) / (dh / 2)))
        dst.strideV dst d :=
  planewise_drawn (scalePlane_drawn (p := src.yPlane) hsrc.y hluma hdst.y)
    (scalePlane_drawn (p := src.uPlane) hsrc.u hchroma hdst.u)
    (scalePlane_drawn (p := src.vPlane) hsrc.v hchroma hdst.v)

lemma mirror_planewise : mirror src w h dst = planewise
    (forGrid h w fun y x => copyAt src.y (y * src.strideY + x) (y * dst.strideY + (w - 1 - x)))
    (forGrid (h / 2) (w / 2) fun y x =>
      copyAt src.u (y * src.strideU + x) (y * dst.strideU + (w / 2 - 1 - x)))
    (forGrid (h / 2) (w / 2) fun y x =>
      copyAt src.v (y * src.strideU + x) (y * dst.strideU + (w / 2 - 1 - x))) dst :=
  planewise_of_both fun _ _ => forGrid_both

lemma mirror_isSome_iff (hsrc : src.layout.Holds w h) (hdst : dst.layout.Holds w h) :
    (∃ d, mirror src w h dst = some d) ↔ Within src.v.length src.strideU (w / 2) (h / 2) ∧
      Within dst.v.length dst.strideU (w / 2) (h / 2) := by
  simp only [mirror_planewise, planewise_eq_some]
  constructor
  · rintro ⟨d, y, u, v, -, -, hv, -⟩
    obtain ⟨hread, hwrite⟩ := (mirrored (w / 2) (h / 2)).copies_isSome_iff.1 ⟨v, hv⟩
    exact ⟨fun x hx y hy => hread y hy x hx, hwrite⟩
  · rintro ⟨hread, hwrite⟩
    obtain ⟨y, hy⟩ := (mirrored w h).copies_isSome_iff.2
      ⟨fun y hy x hx => hsrc.y.index_lt hx hy, hdst.y.within⟩
    obtain ⟨u, hu⟩ := (mirrored (w / 2) (h / 2)).copies_isSome_iff.2
      ⟨fun y hy x hx => hsrc.u.index_lt hx hy, hdst.u.within⟩
    obtain ⟨v, hv⟩ := (mirrored (w / 2) (h / 2)).copies_isSome_iff.2
      ⟨fun y hy x hx => hread x hx y hy, hwrite⟩
    exact ⟨_, y, u, v, hy, hu, hv, rfl⟩

lemma mirror_drawn (hwideY : w ≤ dst.strideY) (hwideU : w / 2 ≤ dst.strideU)
    (hrun : mirror src w h dst = some d) :
    DrawnInto w h (fun x y => src.yPlane.sample (w - 1 - x) y)
      (fun x y => src.uPlane.sample (w / 2 - 1 - x) y)
      (fun x y => src.vByU.sample (w / 2 - 1 - x) y) dst.strideU dst d := by
  rw [mirror_planewise] at hrun
  obtain ⟨y, u, v, hy, hu, hv, rfl⟩ := planewise_eq_some.1 hrun
  exact ⟨rfl, rfl, rfl, (mirrored w h).copies_drawn hwideY hy,
    (mirrored (w / 2) (h / 2)).copies_drawn hwideU hu, (mirrored (w / 2) (h / 2)).copies_drawn hwideU hv⟩

lemma rotate_drawn {rot : VideoRotation} (hrot : rot ≠ .rotation0) (hsrc : src.layout.Holds w h)
    (hdst : dst.layout.Holds (turnedSize rot w h).1 (turnedSize rot w h).2) :
    ∃ d, rotate src w h rot dst = some d ∧
      DrawnInto (turnedSize rot w h).1 (turnedSize rot w h).2
        (fun x y => src.yPlane.sample (turnedFrom rot w h x y).1 (turnedFrom rot w h x y).2)
        (fun x y => src.uPlane.sample (turnedFrom rot (w / 2) (h / 2) x y).1
          (turnedFrom rot (w / 2) (h / 2) x y).2)
        (fun x y => src.vPlane.sample (turnedFrom rot (w / 2) (h / 2) x y).1
          (turnedFrom rot (w / 2) (h / 2) x y).2) dst.strideV dst d := by
  have hhalf : ((turnedSize rot w h).1 / 2, (turnedSize rot w h).2 / 2) =
      turnedSize rot (w / 2) (h / 2) := by cases rot <;> rfl
  obtain ⟨hhalfW, hhalfH⟩ := Prod.ext_iff.1 hhalf
  have hrun : rotate src w h rot dst = planewise
      (rotatePlane rot src.y src.strideY w h dst.strideY)
      (rotatePlane rot src.u src.strideU (w / 2) (h / 2) dst.strideU)
      (rotatePlane rot src.v src.strideV (w / 2) (h / 2) dst.strideV) dst := by
    cases rot with
    | rotation0 => exact absurd rfl hrot
    | rotation90 => rfl
    | rotation180 => rfl
    | rotation270 => rfl
  have hu := hdst.u
  have hv := hdst.v
  rw [hrun]
  apply planewise_drawn (rotatePlane_drawn (p := src.yPlane) rot hsrc.y hdst.y)
  · change _ / 2 = _ at hhalfW
    change _ / 2 = _ at hhalfH
    rw [hhalfW, hhalfH] at hu ⊢
    exact rotatePlane_drawn (p := src.uPlane) rot hsrc.u hu
  · change _ / 2 = _ at hhalfW
    change _ / 2 = _ at hhalfH
    rw [hhalfW, hhalfH] at hv ⊢
    exact rotatePlane_drawn (p := src.vPlane) rot hsrc.v hv

lemma crop_planewise {x y : ℕ} : crop src x y w h dst = planewise
    (forRange h fun row => copySlice src.y ((y + row) * src.strideY + x) (row * dst.strideY) w)
    (forRange (h / 2) fun row =>
      copySlice src.u ((y / 2 + row) * src.strideU + x / 2) (row * dst.strideU) (w / 2))
    (forRange (h / 2) fun row =>
      copySlice src.v ((y / 2 + row) * src.strideU + x / 2) (row * dst.strideU) (w / 2)) dst :=
  planewise_of_both fun _ _ => forRange_both

/-- The rows that a crop reads are in the plane. -/
def CropRows (len stride x y w h : ℕ) : Prop := ∀ row < h, (y + row) * stride + x + w ≤ len

lemma crop_isSome_iff {x y : ℕ} (hwideY : w ≤ dst.strideY) (hwideU : w / 2 ≤ dst.strideU) :
    (∃ d, crop src x y w h dst = some d) ↔
      (CropRows src.y.length src.strideY x y w h ∧ Room dst.y.length dst.strideY w h) ∧
      (CropRows src.u.length src.strideU (x / 2) (y / 2) (w / 2) (h / 2) ∧
        Room dst.u.length dst.strideU (w / 2) (h / 2)) ∧
      (CropRows src.v.length src.strideU (x / 2) (y / 2) (w / 2) (h / 2) ∧
        Room dst.v.length dst.strideU (w / 2) (h / 2)) := by
  rw [crop_planewise]
  simp only [CropRows, ← slices_iff hwideY, ← slices_iff hwideU, planewise_eq_some]
  constructor
  · rintro ⟨d, y, u, v, hy, hu, hv, -⟩
    exact ⟨⟨y, hy⟩, ⟨u, hu⟩, v, hv⟩
  · rintro ⟨⟨y, hy⟩, ⟨u, hu⟩, v, hv⟩
    exact ⟨_, y, u, v, hy, hu, hv, rfl⟩

lemma crop_drawn {x y : ℕ} (hwideY : w ≤ dst.strideY) (hwideU : w / 2 ≤ dst.strideU)
    (hrun : crop src x y w h dst = some d) :
    DrawnInto w h (fun i j => src.yPlane.sample (x + i) (y + j))
      (fun i j => src.uPlane.sample (x / 2 + i) (y / 2 + j))
      (fun i j => src.vByU.sample (x / 2 + i) (y / 2 + j)) dst.strideU dst d := by
  rw [crop_planewise] at hrun
  obtain ⟨y, u, v, hy, hu, hv, rfl⟩ := planewise_eq_some.1 hrun
  refine ⟨rfl, rfl, rfl, ?_, ?_, ?_⟩
  · exact cropPlane_drawn (p := src.yPlane) hwideY hy
  · exact cropPlane_drawn (p := src.uPlane) hwideU hu
  · exact cropPlane_drawn (p := src.vByU) hwideU hv

end Pictures

section Nv12

variable {src dst : I420BufferRef} {nvY nvUv : List UInt8}

def chromaWrites (src : I420BufferRef) (halfW y x : ℕ) : List (ℕ × Option UInt8) :=
  [((y * halfW + x) * 2, src.u[y * src.strideU + x]?),
    ((y * halfW + x) * 2 + 1, src.v[y * src.strideU + x]?)]

lemma i420ToNv12_eq_some {r : List UInt8 × List UInt8} : i420ToNv12 src w h nvY nvUv = some r ↔
    forRange h (fun row => copySlice src.y (row * src.strideY) (row * w) w) nvY = some r.1 ∧
      writeAll (turnWrites (h / 2) (w / 2) (chromaWrites src (w / 2))) nvUv = some r.2 := by
  have hturn : (fun (y x : ℕ) (dstUv : List UInt8) => (do
      let dstUv ← copyAt src.u (y * src.strideU + x) ((y * (w / 2) + x) * 2) dstUv
      copyAt src.v (y * src.strideU + x) ((y * (w / 2) + x) * 2 + 1) dstUv : Option (List UInt8))) =
      fun y x => writeAll (chromaWrites src (w / 2) y x) := by
    funext y x d
    rw [chromaWrites, copyAt_eq]
    simp only [copyAt_eq, Option.bind_eq_bind]
    exact (@writeAll_append _ [_] d [_]).symm
  rw [i420ToNv12]
  simp only [hturn, forGrid_writeAll]
  simp only [Option.bind_eq_bind, Option.bind_eq_some_iff, Option.pure_def, Option.some.injEq]
  constructor
  · rintro ⟨y, hy, uv, huv, rfl⟩
    exact ⟨hy, huv⟩
  · rintro ⟨hy, huv⟩
    exact ⟨_, hy, _, huv, rfl⟩

lemma chromaWrites_agree : ∀ w' ∈ turnWrites (h / 2) (w / 2) (chromaWrites src (w / 2)),
    ∀ w'' ∈ turnWrites (h / 2) (w / 2) (chromaWrites src (w / 2)), w'.1 = w''.1 → w'.2 = w''.2 := by
  intro a ha b hb heq
  obtain ⟨r, hr, c, hc, ha⟩ := mem_turnWrites.1 ha
  obtain ⟨r', hr', c', hc', hb⟩ := mem_turnWrites.1 hb
  simp only [chromaWrites, List.mem_cons, List.not_mem_nil, or_false] at ha hb
  have hsame : r * (w / 2) + c = r' * (w / 2) + c' → c = c' ∧ r = r' := index_inj (le_refl _) hc hc'
  rcases ha with rfl | rfl <;> rcases hb with rfl | rfl <;> simp only at heq ⊢
  · obtain ⟨rfl, rfl⟩ := hsame (by omega)
    rfl
  · omega
  · omega
  · obtain ⟨rfl, rfl⟩ := hsame (by omega)
    rfl

/-- Buffers of at least these sizes hold the two planes of the format. -/
structure Nv12Room (w h lenY lenUv : ℕ) : Prop where
  y : w * h ≤ lenY
  uv : w / 2 * (h / 2) * 2 ≤ lenUv

lemma packed_le {w h len : ℕ} (hlen : w * h ≤ len) {y : ℕ} (hy : y < h) : y * w + w ≤ len := by
  have : (y + 1) * w ≤ h * w := Nat.mul_le_mul_right w hy
  rw [Nat.add_one_mul, Nat.mul_comm h] at this
  omega

lemma chroma_index_lt {lenUv x y : ℕ} (hlen : w / 2 * (h / 2) * 2 ≤ lenUv) (hx : x < w / 2)
    (hy : y < h / 2) : (y * (w / 2) + x) * 2 + 1 < lenUv := by
  have := packed_le (le_refl (w / 2 * (h / 2))) hy
  omega

lemma i420ToNv12_isSome_iff (hsrc : src.layout.Holds w h) (hnv : Nv12Room w h nvY.length nvUv.length) :
    (∃ r, i420ToNv12 src w h nvY nvUv = some r) ↔ Within src.v.length src.strideU (w / 2) (h / 2) := by
  simp only [i420ToNv12_eq_some]
  constructor
  · rintro ⟨r, -, huv⟩ x hx y hy
    have hwrites := writeAll_isSome_iff.1 ⟨_, huv⟩
    have hread := (hwrites _ (mem_turnWrites.2 ⟨y, hy, x, hx,
      List.mem_cons_of_mem _ List.mem_cons_self⟩)).1
    simpa only [isSome_getElem?] using hread
  · intro hread
    obtain ⟨y, hy⟩ : ∃ y, forRange h
        (fun row => copySlice src.y (row * src.strideY) (row * w) w) nvY = some y := (slices_iff (le_refl w)).2
      ⟨hsrc.y.long, le_refl w, fun row hrow => packed_le hnv.y hrow⟩
    have hsome : ∀ a ∈ turnWrites (h / 2) (w / 2) (chromaWrites src (w / 2)),
        a.2.isSome ∧ a.1 < nvUv.length := by
      intro a ha
      obtain ⟨r, hr, c, hc, ha⟩ := mem_turnWrites.1 ha
      have hplace := chroma_index_lt hnv.uv hc hr
      simp only [chromaWrites, List.mem_cons, List.not_mem_nil, or_false] at ha
      rcases ha with rfl | rfl
      · simp only [isSome_getElem?]
        exact ⟨hsrc.u.index_lt hc hr, by omega⟩
      · simp only [isSome_getElem?]
        exact ⟨hread c hc r hr, hplace⟩
    obtain ⟨uv, huv⟩ := writeAll_isSome_iff.2 hsome
    exact ⟨(y, uv), hy, huv⟩

lemma i420ToNv12_drawn {r : List UInt8 × List UInt8} (hrun : i420ToNv12 src w h nvY nvUv = some r) :
    Drawn w h (fun x y => src.yPlane.sample x y) w nvY r.1 ∧ r.2.length = nvUv.length ∧
      ∀ x < w / 2, ∀ y < h / 2, r.2[(y * (w / 2) + x) * 2]? = src.uPlane.sample x y ∧
        r.2[(y * (w / 2) + x) * 2 + 1]? = src.vByU.sample x y := by
  obtain ⟨hy, huv⟩ := i420ToNv12_eq_some.1 hrun
  refine ⟨slices_drawn (le_refl w) hy, writeAll_length huv, fun x hx j hj => ?_⟩
  have hwritten (a : ℕ × Option UInt8) (ha : a ∈ chromaWrites src (w / 2) j x) : r.2[a.1]? = a.2 :=
    writeAll_written huv chromaWrites_agree (mem_turnWrites.2 ⟨j, hj, x, hx, ha⟩)
  exact ⟨hwritten _ List.mem_cons_self, hwritten _ (List.mem_cons_of_mem _ List.mem_cons_self)⟩

lemma nv12ToI420_planewise : nv12ToI420 nvY nvUv w h dst = planewise
    (forRange h fun row => copySlice nvY (row * w) (row * dst.strideY) w)
    (forGrid (h / 2) (w / 2) fun y x => copyAt nvUv ((y * (w / 2) + x) * 2) (y * dst.strideU + x))
    (forGrid (h / 2) (w / 2) fun y x => copyAt nvUv ((y * (w / 2) + x) * 2 + 1) (y * dst.strideU + x))
    dst :=
  planewise_of_both fun _ _ => forGrid_both

lemma nv12ToI420_isSome_iff (hdst : dst.layout.Holds w h) (hnv : Nv12Room w h nvY.length nvUv.length) :
    (∃ d, nv12ToI420 nvY nvUv w h dst = some d) ↔ Within dst.v.length dst.strideU (w / 2) (h / 2) := by
  simp only [nv12ToI420_planewise, planewise_eq_some]
  constructor
  · rintro ⟨d, y, u, v, -, -, hv, -⟩
    exact ((Turns.straight (w / 2) (h / 2)).copies_isSome_iff.1 ⟨v, hv⟩).2
  · intro hwrite
    obtain ⟨y, hy⟩ := (slices_iff hdst.y.wide).2 ⟨fun row hrow => packed_le hnv.y hrow, hdst.y⟩
    have hread (y : ℕ) (hy : y < h / 2) (x : ℕ) (hx : x < w / 2) := chroma_index_lt hnv.uv hx hy
    obtain ⟨u, hu⟩ := (Turns.straight (w / 2) (h / 2)).copies_isSome_iff.2
      ⟨fun y hy x hx => Nat.lt_of_succ_lt (hread y hy x hx), hdst.u.within⟩
    obtain ⟨v, hv⟩ := (Turns.straight (w / 2) (h / 2)).copies_isSome_iff.2 ⟨hread, hwrite⟩
    exact ⟨_, y, u, v, hy, hu, hv, rfl⟩

lemma nv12ToI420_drawn {d : I420BufferRef} (hwideY : w ≤ dst.strideY) (hwideU : w / 2 ≤ dst.strideU)
    (hrun : nv12ToI420 nvY nvUv w h dst = some d) :
    DrawnInto w h (fun x y => nvY[y * w + x]?) (fun x y => nvUv[(y * (w / 2) + x) * 2]?)
      (fun x y => nvUv[(y * (w / 2) + x) * 2 + 1]?) dst.strideU dst d := by
  rw [nv12ToI420_planewise] at hrun
  obtain ⟨y, u, v, hy, hu, hv, rfl⟩ := planewise_eq_some.1 hrun
  exact ⟨rfl, rfl, rfl, slices_drawn hwideY hy,
    (Turns.straight (w / 2) (h / 2)).copies_drawn hwideU hu,
    (Turns.straight (w / 2) (h / 2)).copies_drawn hwideU hv⟩

end Nv12

end NativeTransform

end MediaServo.Media
