import MediaServo.MediaProofs.Colour

/-! For which sizes the transforms stay within planes made for those sizes, and write every visible
sample of them. -/

namespace MediaServo.Media

open MediaServo.Foundations.Raster

def newLayout (w h : ℕ) : PictureLayout := (I420Buffer.new w h).asI420Ref.layout

lemma newLayout_eq {w h : ℕ} (hsize : w * h < 2 ^ 31) : newLayout w h =
    ⟨w * h, w / 2 * (h / 2), w / 2 * (h / 2), w, w / 2, w / 2⟩ := by
  have hhalf : w / 2 * (h / 2) ≤ w * h := Nat.mul_le_mul (Nat.div_le_self w 2) (Nat.div_le_self h 2)
  have hluma : w * h % 2 ^ 32 = w * h := Nat.mod_eq_of_lt (by omega)
  have hchroma : w / 2 * (h / 2) % 2 ^ 32 = w / 2 * (h / 2) := Nat.mod_eq_of_lt (by omega)
  simp only [newLayout, I420Buffer.new, I420Buffer.asI420Ref, I420BufferRef.layout, List.length_replicate,
    hluma, hchroma]

lemma room_packed (w h : ℕ) : Room (w * h) w w h :=
  ⟨le_refl w, fun _ hy => NativeTransform.packed_le (le_refl _) hy⟩

lemma newLayout_holds {w h : ℕ} (hsize : w * h < 2 ^ 31) : (newLayout w h).Holds w h := by
  rw [newLayout_eq hsize]
  exact ⟨room_packed w h, room_packed _ _, room_packed _ _⟩

/-- Whatever buffer of a layout is drawn into, the operation stays within its planes, and no visible
sample is left of what was there. -/
def Overwrites (L : PictureLayout) (w h : ℕ) (op : I420BufferRef → Option I420BufferRef) : Prop :=
  ∀ dst dst', dst.layout = L → dst'.layout = L →
    ∃ d d', op dst = some d ∧ op dst' = some d' ∧ SamePicture w h d d'

section Overwriting

variable {L : PictureLayout} {w h : ℕ} {op : I420BufferRef → Option I420BufferRef}
  {imgY imgU imgV : ℕ → ℕ → Option UInt8}

lemma DrawnInto.same_new {dst dst' d d' : I420BufferRef}
    (hd : DrawnInto w h imgY imgU imgV dst.strideV dst d)
    (hd' : DrawnInto w h imgY imgU imgV dst'.strideV dst' d') : SamePicture w h d d' := by
  refine ⟨fun x hx y hy => ?_, fun x hx y hy => ?_, fun x hx y hy => ?_⟩
  · rw [I420BufferRef.yPlane, I420BufferRef.yPlane, Plane.sample, Plane.sample, hd.strideY, hd'.strideY,
      hd.y.visible x hx y hy, hd'.y.visible x hx y hy]
  · rw [I420BufferRef.uPlane, I420BufferRef.uPlane, Plane.sample, Plane.sample, hd.strideU, hd'.strideU,
      hd.u.visible x hx y hy, hd'.u.visible x hx y hy]
  · rw [I420BufferRef.vPlane, I420BufferRef.vPlane, Plane.sample, Plane.sample, hd.strideV, hd'.strideV,
      hd.v.visible x hx y hy, hd'.v.visible x hx y hy]

lemma overwrites_of_drawn (hop : ∀ dst, dst.layout = L →
    ∃ d, op dst = some d ∧ DrawnInto w h imgY imgU imgV dst.strideV dst d) : Overwrites L w h op := by
  intro dst dst' hdst hdst'
  obtain ⟨d, hrun, hdrawn⟩ := hop dst hdst
  obtain ⟨d', hrun', hdrawn'⟩ := hop dst' hdst'
  exact ⟨d, d', hrun, hrun', hdrawn.same_new hdrawn'⟩

end Overwriting

namespace NativeTransform

variable {sw sh w h dw dh : ℕ}

section Fixed

variable {L : PictureLayout} {src dst : I420BufferRef}

lemma new_strides (hsize : w * h < 2 ^ 31) (hdst : dst.layout = newLayout w h) :
    dst.strideU = dst.strideV := by
  rw [newLayout_eq hsize] at hdst
  exact (congrArg PictureLayout.strideU hdst).trans (congrArg PictureLayout.strideV hdst).symm

lemma new_holds (hsize : w * h < 2 ^ 31) (hdst : dst.layout = newLayout w h) : dst.layout.Holds w h :=
  hdst ▸ newLayout_holds hsize

lemma new_room_v (hsize : w * h < 2 ^ 31) (hdst : dst.layout = newLayout w h) :
    Room dst.v.length dst.strideU (w / 2) (h / 2) := by
  rw [new_strides hsize hdst]
  exact (new_holds hsize hdst).v

lemma mirror_overwrites (hsize : w * h < 2 ^ 31) (hsrc : src.layout = newLayout w h) :
    Overwrites (newLayout w h) w h (mirror src w h) := by
  apply overwrites_of_drawn
  intro dst hdst
  have hD := new_holds hsize hdst
  obtain ⟨d, hrun⟩ := (mirror_isSome_iff (new_holds hsize hsrc) hD).2
    ⟨(new_room_v hsize hsrc).within, (new_room_v hsize hdst).within⟩
  have hdrawn := mirror_drawn hD.y.wide hD.u.wide hrun
  rw [new_strides hsize hdst] at hdrawn
  exact ⟨d, hrun, hdrawn⟩

lemma rotate_overwrites (rot : VideoRotation) (hsize : w * h < 2 ^ 31) (hsrc : src.layout = newLayout w h) :
    Overwrites (newLayout (turnedSize rot w h).1 (turnedSize rot w h).2) (turnedSize rot w h).1
      (turnedSize rot w h).2 (rotate src w h rot) := by
  have hS := new_holds hsize hsrc
  by_cases hrot : rot = .rotation0
  · subst hrot
    apply overwrites_of_drawn
    intro dst hdst
    have hD : dst.layout.Holds w h := new_holds hsize hdst
    have hrun : rotate src w h .rotation0 dst = planewise
        (forRange h fun y => copySlice src.y (y * src.strideY) (y * dst.strideY) w)
        (forRange (h / 2) fun y => copySlice src.u (y * src.strideU) (y * dst.strideU) (w / 2))
        (forRange (h / 2) fun y => copySlice src.v (y * src.strideU) (y * dst.strideU) (w / 2)) dst :=
      planewise_of_both fun _ _ => forRange_both
    have hplane {s t : List UInt8} {a b w h : ℕ} (hs : Room s.length a w h) (ht : Room t.length b w h) :
        ∃ d, forRange h (fun y => copySlice s (y * a) (y * b) w) t = some d ∧
          Drawn w h (fun x y => s[y * a + x]?) b t d := by
      obtain ⟨d, hd⟩ := (slices_iff ht.wide).2 ⟨hs.long, ht⟩
      exact ⟨d, hd, slices_drawn ht.wide hd⟩
    rw [hrun, ← new_strides hsize hdst]
    exact planewise_drawn (hplane hS.y hD.y) (hplane hS.u hD.u)
      (hplane (new_room_v hsize hsrc) (new_room_v hsize hdst))
  · have hturned : (turnedSize rot w h).1 * (turnedSize rot w h).2 < 2 ^ 31 := by
      cases rot with
      | rotation0 | rotation180 => exact hsize
      | rotation90 | rotation270 => exact (Nat.mul_comm h w).trans_lt hsize
    exact overwrites_of_drawn fun dst hdst => rotate_drawn hrot hS (new_holds hturned hdst)

lemma nv12_overwrites {srcY srcUv : List UInt8} (hsize : w * h < 2 ^ 31)
    (hsrc : Nv12Room w h srcY.length srcUv.length) :
    Overwrites (newLayout w h) w h (nv12ToI420 srcY srcUv w h) := by
  apply overwrites_of_drawn
  intro dst hdst
  have hD := new_holds hsize hdst
  obtain ⟨d, hrun⟩ := (nv12ToI420_isSome_iff hD hsrc).2 (new_room_v hsize hdst).within
  have hdrawn := nv12ToI420_drawn hD.y.wide hD.u.wide hrun
  rw [new_strides hsize hdst] at hdrawn
  exact ⟨d, hrun, hdrawn⟩

lemma nv12_overwritten {dstY dstUv dstY' dstUv' : List UInt8} (hsize : w * h < 2 ^ 31)
    (hsrc : src.layout = newLayout w h) (hdst : Nv12Room w h dstY.length dstUv.length)
    (hdst' : Nv12Room w h dstY'.length dstUv'.length) :
    ∃ d d', i420ToNv12 src w h dstY dstUv = some d ∧ i420ToNv12 src w h dstY' dstUv' = some d' ∧
      Plane.Agree w h ⟨d.1, w⟩ ⟨d'.1, w⟩ ∧
      Plane.Agree (w / 2 * 2) (h / 2) ⟨d.2, w / 2 * 2⟩ ⟨d'.2, w / 2 * 2⟩ := by
  have hread := (new_room_v hsize hsrc).within
  obtain ⟨d, hd⟩ := (i420ToNv12_isSome_iff (new_holds hsize hsrc) hdst).2 hread
  obtain ⟨d', hd'⟩ := (i420ToNv12_isSome_iff (new_holds hsize hsrc) hdst').2 hread
  obtain ⟨hluma, -, hchroma⟩ := i420ToNv12_drawn hd
  obtain ⟨hluma', -, hchroma'⟩ := i420ToNv12_drawn hd'
  refine ⟨d, d', hd, hd', fun x hx y hy => ?_, fun x hx y hy => ?_⟩
  · rw [Plane.sample, Plane.sample, hluma.visible x hx y hy, hluma'.visible x hx y hy]
  · have hx' : x / 2 < w / 2 := by omega
    have hrow : y * (w / 2 * 2) = y * (w / 2) * 2 := (Nat.mul_assoc _ _ _).symm
    rw [Plane.sample, Plane.sample]
    rcases Nat.mod_two_eq_zero_or_one x with heven | hodd
    · have hindex : y * (w / 2 * 2) + x = (y * (w / 2) + x / 2) * 2 := by omega
      rw [hindex, (hchroma _ hx' y hy).1, (hchroma' _ hx' y hy).1]
    · have hindex : y * (w / 2 * 2) + x = (y * (w / 2) + x / 2) * 2 + 1 := by omega
      rw [hindex, (hchroma _ hx' y hy).2, (hchroma' _ hx' y hy).2]

end Fixed

end NativeTransform

def PictureLayout.filled (L : PictureLayout) (a : UInt8) : I420BufferRef where
  y := List.replicate L.lenY a
  u := List.replicate L.lenU a
  v := List.replicate L.lenV a
  strideY := L.strideY
  strideU := L.strideU
  strideV := L.strideV

lemma PictureLayout.layout_filled (L : PictureLayout) (a : UInt8) : (L.filled a).layout = L := by
  simp only [I420BufferRef.layout, filled, List.length_replicate]

namespace NativeTransform

variable {sw sh w h : ℕ}

section Conditional

/-- A picture without chroma can be scaled to one that has none either. -/
def ScalesChroma (sw sh w h : ℕ) : Prop := w < 2 ∨ h < 2 ∨ 2 ≤ sw ∧ 2 ≤ sh

lemma exists_scaled {src dst : I420BufferRef} (hsw : 0 < sw) (hsh : 0 < sh) (hsizeS : sw * sh < 2 ^ 31)
    (hsize : w * h < 2 ^ 31) (hsrc : src.layout = newLayout sw sh) (hdst : dst.layout = newLayout w h)
    (hchroma : ScalesChroma sw sh w h) : ∃ d, scale src sw sh dst w h = some d ∧
      DrawnInto w h (fun x y => src.yPlane.sample (x * sw / w) (y * sh / h))
        (fun x y => src.uPlane.sample (x * (sw / 2) / (w / 2)) (y * (sh / 2) / (h / 2)))
        (fun x y => src.vPlane.sample (x * (sw / 2) / (w / 2)) (y * (sh / 2) / (h / 2)))
        dst.strideV dst d := by
  have hhalf : 0 < w / 2 → 0 < h / 2 → 0 < sw / 2 ∧ 0 < sh / 2 := by
    obtain hw | hh | hs := hchroma <;> omega
  exact scale_drawn (new_holds hsizeS hsrc) (new_holds hsize hdst) (fun _ _ => ⟨hsw, hsh⟩) hhalf

lemma scale_fails {src dst d : I420BufferRef} (hsizeS : sw * sh < 2 ^ 31)
    (hsrc : src.layout = newLayout sw sh) (hrun : scale src sw sh dst w h = some d) :
    ScalesChroma sw sh w h := by
  by_contra hnot
  simp only [ScalesChroma, not_or, Nat.not_lt, not_and_or, Nat.not_le] at hnot
  obtain ⟨hw, hh, hs⟩ := hnot
  obtain ⟨y, u, v, -, hu, -, -⟩ := planewise_eq_some.1 hrun
  have hread := ((Turns.straight (w / 2) (h / 2)).copies_isSome_iff.1 ⟨u, hu⟩).1 0 (by omega) 0 (by omega)
  have hlen : src.u.length = sw / 2 * (sh / 2) := by
    rw [newLayout_eq hsizeS] at hsrc
    exact congrArg PictureLayout.lenU hsrc
  have hempty : sw / 2 * (sh / 2) = 0 := by
    rcases hs with hs | hs
    · rw [show sw / 2 = 0 by omega, Nat.zero_mul]
    · rw [show sh / 2 = 0 by omega, Nat.mul_zero]
  rw [hlen, hempty] at hread
  exact Nat.not_lt_zero _ hread

theorem scale_overwrites_iff (hsw : 0 < sw) (hsh : 0 < sh) (hsizeS : sw * sh < 2 ^ 31)
    (hsize : w * h < 2 ^ 31) :
    (∀ src, src.layout = newLayout sw sh →
      Overwrites (newLayout w h) w h fun dst => scale src sw sh dst w h) ↔ ScalesChroma sw sh w h := by
  constructor
  · intro hall
    obtain ⟨d, -, hrun, -⟩ := hall ((newLayout sw sh).filled 0) (PictureLayout.layout_filled _ _)
      ((newLayout w h).filled 0) ((newLayout w h).filled 0) (PictureLayout.layout_filled _ _)
      (PictureLayout.layout_filled _ _)
    exact scale_fails hsizeS (PictureLayout.layout_filled _ _) hrun
  · intro hchroma src hsrc
    exact overwrites_of_drawn fun dst hdst => exists_scaled hsw hsh hsizeS hsize hsrc hdst hchroma

theorem buffer_scale_iff (hsw : 0 < sw) (hsh : 0 < sh) (hsizeS : sw * sh < 2 ^ 31)
    (hsize : w * h < 2 ^ 31) :
    (∀ b : I420Buffer, b.width = sw → b.height = sh → b.asI420Ref.layout = newLayout sw sh →
      ∃ out, b.scale w h = some out ∧ ∀ dst d, dst.layout = newLayout w h →
        scale b.asI420Ref sw sh dst w h = some d → SamePicture w h out.asI420Ref d) ↔
      ScalesChroma sw sh w h := by
  have hmade : (I420Buffer.new w h).asI420Ref.layout = newLayout w h := rfl
  constructor
  · intro hall
    obtain ⟨out, hout, -⟩ := hall (I420Buffer.new sw sh) rfl rfl rfl
    simp only [I420Buffer.scale, Option.bind_eq_bind, Option.bind_eq_some_iff] at hout
    obtain ⟨d, hrun, -⟩ := hout
    exact scale_fails hsizeS rfl hrun
  · rintro hchroma b rfl rfl hb
    obtain ⟨d, hrun, hdrawn⟩ := exists_scaled hsw hsh hsizeS hsize hb hmade hchroma
    have hout : b.scale w h = some ⟨d.y, d.u, d.v, w, w / 2, w / 2, w, h⟩ := by
      rw [I420Buffer.scale]
      simp only [hrun, Option.bind_eq_bind, Option.bind_some]
      rfl
    refine ⟨_, hout, fun dst d' hdst hrun' => ?_⟩
    obtain ⟨e, he, hdrawn'⟩ := exists_scaled hsw hsh hsizeS hsize hb hdst hchroma
    obtain rfl := Option.some.inj (he.symm.trans hrun')
    have hstrides (e : I420BufferRef) (hY : e.strideY = w) (hU : e.strideU = w / 2)
        (hV : e.strideV = w / 2) : (⟨e.y, e.u, e.v, w, w / 2, w / 2⟩ : I420BufferRef) = e := by
      cases e
      simp only at hY hU hV
      rw [hY, hU, hV]
    have href : (I420Buffer.asI420Ref ⟨d.y, d.u, d.v, w, w / 2, w / 2, w, h⟩) = d :=
      hstrides d hdrawn.strideY hdrawn.strideU hdrawn.strideV
    rw [href]
    exact hdrawn.same_new hdrawn'

theorem crop_overwrites_iff {x y : ℕ} (hsizeS : sw * sh < 2 ^ 31) (hsize : w * h < 2 ^ 31) :
    (∀ src, src.layout = newLayout sw sh → Overwrites (newLayout w h) w h (crop src x y w h)) ↔
      CropRows (sw * sh) sw x y w h ∧
        CropRows (sw / 2 * (sh / 2)) (sw / 2) (x / 2) (y / 2) (w / 2) (h / 2) := by
  have hparts {src : I420BufferRef} (hsrc : src.layout = newLayout sw sh) : src.y.length = sw * sh ∧
      src.u.length = sw / 2 * (sh / 2) ∧ src.v.length = sw / 2 * (sh / 2) ∧ src.strideY = sw ∧
      src.strideU = sw / 2 := by
    rw [newLayout_eq hsizeS] at hsrc
    exact ⟨congrArg PictureLayout.lenY hsrc, congrArg PictureLayout.lenU hsrc,
      congrArg PictureLayout.lenV hsrc, congrArg PictureLayout.strideY hsrc,
      congrArg PictureLayout.strideU hsrc⟩
  constructor
  · intro hall
    have hsrc := PictureLayout.layout_filled (newLayout sw sh) 0
    have hdst := PictureLayout.layout_filled (newLayout w h) 0
    obtain ⟨d, -, hrun, -⟩ := hall _ hsrc _ _ hdst hdst
    have hD := new_holds hsize hdst
    obtain ⟨⟨hluma, -⟩, ⟨hchroma, -⟩, -⟩ := (crop_isSome_iff hD.y.wide hD.u.wide).1 ⟨d, hrun⟩
    obtain ⟨hlenY, hlenU, -, hstrideY, hstrideU⟩ := hparts hsrc
    rw [hlenY, hstrideY] at hluma
    rw [hlenU, hstrideU] at hchroma
    exact ⟨hluma, hchroma⟩
  · rintro ⟨hluma, hchroma⟩ src hsrc
    apply overwrites_of_drawn
    intro dst hdst
    have hD := new_holds hsize hdst
    obtain ⟨hlenY, hlenU, hlenV, hstrideY, hstrideU⟩ := hparts hsrc
    obtain ⟨d, hrun⟩ := (@crop_isSome_iff w h src dst x y hD.y.wide hD.u.wide).2 (by
      rw [hlenY, hlenU, hlenV, hstrideY, hstrideU]
      exact ⟨⟨hluma, hD.y⟩, ⟨hchroma, hD.u⟩, hchroma, new_room_v hsize hdst⟩)
    have hdrawn := crop_drawn hD.y.wide hD.u.wide hrun
    rw [new_strides hsize hdst] at hdrawn
    exact ⟨d, hrun, hdrawn⟩

end Conditional

section Colours

lemma room_even {len stride : ℕ} (hroom : Room len stride w h) : Room len stride (w / 2 * 2) (h / 2 * 2) := by
  refine ⟨(Nat.div_mul_le_self w 2).trans hroom.wide, fun y hy => ?_⟩
  have := hroom.long y (by omega)
  omega

theorem argb_overwrites_iff (hw : 0 < w) (hh : 0 < h) (hsize : w * h < 2 ^ 31) :
    (∀ argb : List UInt8, argb.length = w * h * 4 →
      Overwrites (newLayout w h) w h (argbToI420 argb w h)) ↔ Even w ∧ Even h := by
  have hrun {argb : List UInt8} (hargb : argb.length = w * h * 4) {dst : I420BufferRef}
      (hdst : dst.layout = newLayout w h) := argbToI420_drawn hargb.ge
    (room_even (new_holds hsize hdst).y) (new_holds hsize hdst).u (new_room_v hsize hdst)
  constructor
  · intro hall
    have hargb : (List.replicate (w * h * 4) (0 : UInt8)).length = w * h * 4 := List.length_replicate
    have hlayout (a : UInt8) := PictureLayout.layout_filled (newLayout w h) a
    obtain ⟨d, d', hd, hd', hsame⟩ := hall _ hargb _ _ (hlayout 0) (hlayout 1)
    have hlen : (newLayout w h).lenY = w * h := congrArg PictureLayout.lenY (newLayout_eq hsize)
    have hstride : (newLayout w h).strideY = w := congrArg PictureLayout.strideY (newLayout_eq hsize)
    -- a sample outside the blocks is still what was there
    have hleft {x y : ℕ} (hx : x < w) (hy : y < h) (hout : w / 2 * 2 ≤ x ∨ h / 2 * 2 ≤ y) : False := by
      have hsample {a : UInt8} {e : I420BufferRef}
          (he : argbToI420 (List.replicate (w * h * 4) 0) w h ((newLayout w h).filled a) = some e) :
          e.yPlane.sample x y = some a := by
        obtain ⟨e', he', hstrideY, -, -, hdrawn, -⟩ := hrun hargb (hlayout a)
        obtain rfl := Option.some.inj (he'.symm.trans he)
        have hkept := hdrawn.kept (y * w + x) fun x' hx' y' hy' heq => by
          rw [PictureLayout.filled, hstride] at heq
          obtain ⟨rfl, rfl⟩ := index_inj (le_refl w) (by omega) hx heq
          omega
        rw [I420BufferRef.yPlane, Plane.sample]
        simp only
        rw [hstrideY, PictureLayout.filled, hstride]
        rw [hkept, PictureLayout.filled, hlen]
        exact List.getElem?_replicate_of_lt ((room_packed w h).index_lt hx hy)
      have hagree := hsame.y x hx y hy
      rw [hsample hd, hsample hd'] at hagree
      exact absurd hagree (by decide)
    constructor
    · by_contra hodd
      have hodd := Nat.not_even_iff.1 hodd
      exact hleft (by omega : w - 1 < w) hh (.inl (by omega))
    · by_contra hodd
      have hodd := Nat.not_even_iff.1 hodd
      exact hleft hw (by omega : h - 1 < h) (.inr (by omega))
  · rintro ⟨hevenW, hevenH⟩ argb hargb
    have hw2 : w / 2 * 2 = w := Nat.div_mul_cancel hevenW.two_dvd
    have hh2 : h / 2 * 2 = h := Nat.div_mul_cancel hevenH.two_dvd
    apply overwrites_of_drawn
    intro dst hdst
    obtain ⟨d, hd, hsy, hsu, hsv, hdrawnY, hdrawnU, hdrawnV⟩ := hrun hargb hdst
    rw [hw2, hh2] at hdrawnY
    rw [new_strides hsize hdst] at hdrawnV
    exact ⟨d, hd, hsy, hsu, hsv, hdrawnY, hdrawnU, hdrawnV⟩

/-- A packed buffer is filled, whatever was in it. -/
def OverwritesPacked (w h : ℕ) (op : List UInt8 → Option (Except MediaError (List UInt8))) : Prop :=
  ∀ dst dst' : List UInt8, dst.length = w * h * 4 → dst'.length = w * h * 4 →
    ∃ d d', op dst = some (.ok d) ∧ op dst' = some (.ok d') ∧
      Plane.Agree (w * 4) h ⟨d, w * 4⟩ ⟨d', w * 4⟩

theorem unpacked_overwrites_iff (hw : 0 < w) (hh : 0 < h) (hsize : w * h < 2 ^ 31) {fmt : PixelFormat}
    {bytes : Bgr → List UInt8} (hfmt : pack fmt = some bytes) :
    (∀ src, src.layout = newLayout w h → OverwritesPacked w h (i420ToArgb src w h fmt)) ↔
      Even w ∧ Even h := by
  have hparts {src : I420BufferRef} (hsrc : src.layout = newLayout w h) : src.u.length = w / 2 * (h / 2) ∧
      src.strideU = w / 2 := by
    rw [newLayout_eq hsize] at hsrc
    exact ⟨congrArg PictureLayout.lenU hsrc, congrArg PictureLayout.strideU hsrc⟩
  constructor
  · intro hall
    have hsrc := PictureLayout.layout_filled (newLayout w h) 0
    have hdst : (List.replicate (w * h * 4) (0 : UInt8)).length = w * h * 4 := List.length_replicate
    obtain ⟨d, -, hd, -⟩ := hall _ hsrc _ _ hdst hdst
    have hread := (i420ToArgb_isSome_iff hfmt hdst.ge).1 ⟨d, hd⟩
    obtain ⟨hlenU, hstrideU⟩ := hparts hsrc
    have hchroma {x y : ℕ} (hx : x < w) (hy : y < h) : y / 2 * (w / 2) + x / 2 < w / 2 * (h / 2) := by
      obtain ⟨s, hs⟩ := Option.isSome_iff_exists.1 (hread x hx y hy)
      simp only [samplesAt, Option.bind_eq_bind, Option.bind_eq_some_iff] at hs
      obtain ⟨-, -, u, hu, -⟩ := hs
      rw [hstrideU] at hu
      obtain ⟨hlt, -⟩ := List.getElem?_eq_some_iff.1 hu
      rwa [hlenU] at hlt
    have hlast := hchroma (by omega : w - 1 < w) (by omega : h - 1 < h)
    constructor
    · by_contra hodd
      have hodd := Nat.not_even_iff.1 hodd
      have hrows : h / 2 * (w / 2) ≤ ((h - 1) / 2 + 1) * (w / 2) := Nat.mul_le_mul_right _ (by omega)
      have hcol : (w - 1) / 2 = w / 2 := by omega
      rw [Nat.add_one_mul, Nat.mul_comm (h / 2)] at hrows
      omega
    · by_contra hodd
      have hodd := Nat.not_even_iff.1 hodd
      have hrow : (h - 1) / 2 = h / 2 := by omega
      rw [hrow, Nat.mul_comm (w / 2)] at hlast
      omega
  · rintro ⟨hevenW, hevenH⟩ src hsrc dst dst' hdst hdst'
    have hS := new_holds hsize hsrc
    have hread : ∀ x < w, ∀ y < h, (samplesAt src x y).isSome := by
      intro x hx y hy
      obtain ⟨i, hi⟩ := hevenW
      obtain ⟨j, hj⟩ := hevenH
      have hx' : x / 2 < w / 2 := by omega
      have hy' : y / 2 < h / 2 := by omega
      have hluma : y * src.strideY + x < src.y.length := hS.y.index_lt hx hy
      have hcb : y / 2 * src.strideU + x / 2 < src.u.length := hS.u.index_lt hx' hy'
      have hcr : y / 2 * src.strideV + x / 2 < src.v.length := hS.v.index_lt hx' hy'
      rw [samplesAt, List.getElem?_eq_getElem hluma, List.getElem?_eq_getElem hcb,
        List.getElem?_eq_getElem hcr]
      rfl
    obtain ⟨d, hd⟩ := (i420ToArgb_isSome_iff hfmt hdst.ge).2 hread
    obtain ⟨d', hd'⟩ := (i420ToArgb_isSome_iff hfmt hdst'.ge).2 hread
    refine ⟨d, d', hd, hd', fun x hx y hy => ?_⟩
    rw [Plane.sample, Plane.sample, (i420ToArgb_drawn hfmt hd).visible x hx y hy,
      (i420ToArgb_drawn hfmt hd').visible x hx y hy]

end Colours

/-- Mirroring, turning and the conversions through two planes fit planes of every size. Scaling needs
chroma in the source if the destination has it, a crop its last row in the planes, and the conversions
of packed pictures even sides. -/
theorem plane_bounds {sw sh w h : ℕ} (hsw : 0 < sw) (hsh : 0 < sh) (hw : 0 < w) (hh : 0 < h)
    (hsizeS : sw * sh < 2 ^ 31) (hsize : w * h < 2 ^ 31) :
    (∀ src, src.layout = newLayout w h → Overwrites (newLayout w h) w h (mirror src w h)) ∧
    (∀ rot src, src.layout = newLayout w h →
      Overwrites (newLayout (turnedSize rot w h).1 (turnedSize rot w h).2) (turnedSize rot w h).1
        (turnedSize rot w h).2 (rotate src w h rot)) ∧
    (∀ srcY srcUv : List UInt8, Nv12Room w h srcY.length srcUv.length →
      Overwrites (newLayout w h) w h (nv12ToI420 srcY srcUv w h)) ∧
    (∀ (src : I420BufferRef) (dstY dstUv dstY' dstUv' : List UInt8), src.layout = newLayout w h →
      Nv12Room w h dstY.length dstUv.length → Nv12Room w h dstY'.length dstUv'.length →
      ∃ d d', i420ToNv12 src w h dstY dstUv = some d ∧ i420ToNv12 src w h dstY' dstUv' = some d' ∧
        Plane.Agree w h ⟨d.1, w⟩ ⟨d'.1, w⟩ ∧
        Plane.Agree (w / 2 * 2) (h / 2) ⟨d.2, w / 2 * 2⟩ ⟨d'.2, w / 2 * 2⟩) ∧
    ((∀ src, src.layout = newLayout sw sh →
      Overwrites (newLayout w h) w h fun dst => scale src sw sh dst w h) ↔ ScalesChroma sw sh w h) ∧
    ((∀ b : I420Buffer, b.width = sw → b.height = sh → b.asI420Ref.layout = newLayout sw sh →
      ∃ out, b.scale w h = some out ∧ ∀ dst d, dst.layout = newLayout w h →
        scale b.asI420Ref sw sh dst w h = some d → SamePicture w h out.asI420Ref d) ↔
      ScalesChroma sw sh w h) ∧
    (∀ x y, (∀ src, src.layout = newLayout sw sh →
      Overwrites (newLayout w h) w h (crop src x y w h)) ↔
        CropRows (sw * sh) sw x y w h ∧
          CropRows (sw / 2 * (sh / 2)) (sw / 2) (x / 2) (y / 2) (w / 2) (h / 2)) ∧
    ((∀ argb : List UInt8, argb.length = w * h * 4 →
      Overwrites (newLayout w h) w h (argbToI420 argb w h)) ↔ Even w ∧ Even h) ∧
    ∀ fmt bytes, pack fmt = some bytes →
      ((∀ src, src.layout = newLayout w h → OverwritesPacked w h (i420ToArgb src w h fmt)) ↔
        Even w ∧ Even h) :=
  ⟨fun _ => mirror_overwrites hsize, fun rot _ => rotate_overwrites rot hsize,
    fun _ _ => nv12_overwrites hsize, fun _ _ _ _ _ => nv12_overwritten hsize,
    scale_overwrites_iff hsw hsh hsizeS hsize, buffer_scale_iff hsw hsh hsizeS hsize,
    fun _ _ => crop_overwrites_iff hsizeS hsize, argb_overwrites_iff hw hh hsize,
    fun _ _ => unpacked_overwrites_iff hw hh hsize⟩

theorem plane_bounds_three :
    (∀ src, src.layout = newLayout 3 3 → Overwrites (newLayout 3 3) 3 3 (mirror src 3 3)) ∧
      ((∀ src, src.layout = newLayout 1 3 →
        Overwrites (newLayout 3 3) 3 3 fun dst => scale src 1 3 dst 3 3) ↔ ScalesChroma 1 3 3 3) := by
  obtain ⟨hmirror, -, -, -, hscale, -⟩ := @plane_bounds 1 3 3 3 (by decide) (by decide) (by decide)
    (by decide) (by decide) (by decide)
  exact ⟨hmirror, hscale⟩

/-- A picture of three by three cannot be made from packed pixels or turned into them, and one without
chroma cannot be scaled to that size. -/
theorem odd_sizes_fail : ¬∀ sw sh w h : ℕ, 0 < sw → 0 < sh → 0 < w → 0 < h → sw * sh < 2 ^ 31 →
    w * h < 2 ^ 31 →
    (∀ src, src.layout = newLayout sw sh →
      Overwrites (newLayout w h) w h fun dst => scale src sw sh dst w h) ∧
    (∀ argb : List UInt8, argb.length = w * h * 4 →
      Overwrites (newLayout w h) w h (argbToI420 argb w h)) ∧
    ∀ src, src.layout = newLayout w h → OverwritesPacked w h (i420ToArgb src w h .bgra) := by
  intro hall
  obtain ⟨-, hargb, -⟩ := hall 3 3 3 3 (by decide) (by decide) (by decide) (by decide) (by decide) (by decide)
  exact absurd ((argb_overwrites_iff (by decide) (by decide) (by decide)).1 hargb).1 (by decide)

end NativeTransform

end MediaServo.Media
