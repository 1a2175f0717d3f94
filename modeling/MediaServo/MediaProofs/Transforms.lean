import MediaServo.MediaProofs.PlaneCopies

/-! The transforms as maps of pictures: which of them undo one another, and which add up. -/

namespace MediaServo.Media

open MediaServo.Foundations.Raster
open NativeTransform

/-- A quarter turn and its reverse give the picture back. -/
def TurnsBack (w h : ℕ) : Prop :=
  ∀ src mid dst : I420BufferRef, src.layout.Holds w h → mid.layout.Holds h w → dst.layout.Holds w h →
    ∃ m d, rotate src w h .rotation90 mid = some m ∧ rotate m h w .rotation270 dst = some d ∧
      SamePicture w h d src

/-- Two quarter turns are a half turn. -/
def TurnsTwice (w h : ℕ) : Prop :=
  ∀ src mid dst dst' : I420BufferRef, src.layout.Holds w h → mid.layout.Holds h w →
    dst.layout.Holds w h → dst'.layout.Holds w h →
    ∃ m d d', rotate src w h .rotation90 mid = some m ∧ rotate m h w .rotation90 dst = some d ∧
      rotate src w h .rotation180 dst' = some d' ∧ SamePicture w h d d'

def ScalesSame (w h : ℕ) : Prop :=
  ∀ src dst : I420BufferRef, src.layout.Holds w h → dst.layout.Holds w h →
    ∃ d, scale src w h dst w h = some d ∧ SamePicture w h d src

def MirrorsBack (w h : ℕ) (S M D : PictureLayout) : Prop :=
  ∀ src mid dst : I420BufferRef, src.layout = S → mid.layout = M → dst.layout = D →
    ∃ m d, mirror src w h mid = some m ∧ mirror m w h dst = some d ∧ SamePicture w h d src

/-- A rectangle of a rectangle is one at the sum of the offsets. -/
def CropsAdd (x₁ y₁ w₁ h₁ x₂ y₂ w₂ h₂ : ℕ) (S M D D' : PictureLayout) : Prop :=
  ∀ src mid dst dst' : I420BufferRef, src.layout = S → mid.layout = M → dst.layout = D → dst'.layout = D' →
    ∃ m d d', crop src x₁ y₁ w₁ h₁ mid = some m ∧ crop m x₂ y₂ w₂ h₂ dst = some d ∧
      crop src (x₁ + x₂) (y₁ + y₂) w₂ h₂ dst' = some d' ∧ SamePicture w₂ h₂ d d'

def ConvertsBack (w h : ℕ) (S : PictureLayout) (lenY lenUv : ℕ) (D : PictureLayout) : Prop :=
  ∀ (src dst : I420BufferRef) (nvY nvUv : List UInt8), src.layout = S → nvY.length = lenY →
    nvUv.length = lenUv → dst.layout = D →
    ∃ r d, i420ToNv12 src w h nvY nvUv = some r ∧ nv12ToI420 r.1 r.2 w h dst = some d ∧
      SamePicture w h d src

section Drawn

variable {w h lineV x y : ℕ} {imgY imgU imgV : ℕ → ℕ → Option UInt8} {dst d : I420BufferRef}

lemma DrawnInto.sampleY (hd : DrawnInto w h imgY imgU imgV lineV dst d) (hx : x < w) (hy : y < h) :
    d.yPlane.sample x y = imgY x y := by
  rw [Plane.sample, I420BufferRef.yPlane, hd.strideY]
  exact hd.y.visible x hx y hy

lemma DrawnInto.sampleU (hd : DrawnInto w h imgY imgU imgV lineV dst d) (hx : x < w / 2) (hy : y < h / 2) :
    d.uPlane.sample x y = imgU x y := by
  rw [Plane.sample, I420BufferRef.uPlane, hd.strideU]
  exact hd.u.visible x hx y hy

lemma DrawnInto.sampleV (hd : DrawnInto w h imgY imgU imgV dst.strideV dst d) (hx : x < w / 2)
    (hy : y < h / 2) : d.vPlane.sample x y = imgV x y := by
  rw [Plane.sample, I420BufferRef.vPlane, hd.strideV]
  exact hd.v.visible x hx y hy

lemma DrawnInto.sampleByU (hd : DrawnInto w h imgY imgU imgV dst.strideU dst d) (hx : x < w / 2)
    (hy : y < h / 2) : d.vByU.sample x y = imgV x y := by
  rw [Plane.sample, I420BufferRef.vByU, hd.strideU]
  exact hd.v.visible x hx y hy

end Drawn

/-- The samples of a buffer come from the places of another that a map of the size of the plane
names. -/
structure Gathered (w h W H : ℕ) (g : ℕ → ℕ → ℕ → ℕ → ℕ × ℕ) (d src : I420BufferRef) : Prop where
  y : ∀ x < w, ∀ y < h, d.yPlane.sample x y = src.yPlane.sample (g W H x y).1 (g W H x y).2
  u : ∀ x < w / 2, ∀ y < h / 2, d.uPlane.sample x y =
    src.uPlane.sample (g (W / 2) (H / 2) x y).1 (g (W / 2) (H / 2) x y).2
  v : ∀ x < w / 2, ∀ y < h / 2, d.vPlane.sample x y =
    src.vPlane.sample (g (W / 2) (H / 2) x y).1 (g (W / 2) (H / 2) x y).2

section Rotations

variable {w h : ℕ} {src mid dst d d' : I420BufferRef}

lemma Gathered.same {g g' : ℕ → ℕ → ℕ → ℕ → ℕ × ℕ} (hd : Gathered w h w h g d src)
    (hd' : Gathered w h w h g' d' src) (hmap : ∀ W H x y, x < W → y < H → g W H x y = g' W H x y) :
    SamePicture w h d d' := by
  refine ⟨fun x hx y hy => ?_, fun x hx y hy => ?_, fun x hx y hy => ?_⟩
  · rw [hd.y x hx y hy, hd'.y x hx y hy, hmap w h x y hx hy]
  · rw [hd.u x hx y hy, hd'.u x hx y hy, hmap _ _ x y hx hy]
  · rw [hd.v x hx y hy, hd'.v x hx y hy, hmap _ _ x y hx hy]

lemma gathered_self (w h : ℕ) (src : I420BufferRef) : Gathered w h w h (fun _ _ x y => (x, y)) src src :=
  ⟨fun _ _ _ _ => rfl, fun _ _ _ _ => rfl, fun _ _ _ _ => rfl⟩

lemma rotate_gathered (rot : VideoRotation) (hrot : rot ≠ .rotation0) (hsrc : src.layout.Holds w h)
    (hdst : dst.layout.Holds (turnedSize rot w h).1 (turnedSize rot w h).2) :
    ∃ d, rotate src w h rot dst = some d ∧ d.layout = dst.layout ∧
      Gathered (turnedSize rot w h).1 (turnedSize rot w h).2 w h (turnedFrom rot) d src := by
  obtain ⟨d, hrun, hdrawn⟩ := rotate_drawn hrot hsrc hdst
  exact ⟨d, hrun, hdrawn.layout_eq, fun x hx y hy => hdrawn.sampleY hx hy,
    fun x hx y hy => hdrawn.sampleU hx hy, fun x hx y hy => hdrawn.sampleV hx hy⟩

lemma half_turnedSize (rot : VideoRotation) (w h : ℕ) :
    (turnedSize rot w h).1 / 2 = (turnedSize rot (w / 2) (h / 2)).1 ∧
      (turnedSize rot w h).2 / 2 = (turnedSize rot (w / 2) (h / 2)).2 := by
  cases rot <;> exact ⟨rfl, rfl⟩

def turnedFromTwice (r₁ r₂ : VideoRotation) (W H x y : ℕ) : ℕ × ℕ :=
  let mid := turnedFrom r₂ (turnedSize r₁ W H).1 (turnedSize r₁ W H).2 x y
  turnedFrom r₁ W H mid.1 mid.2

lemma rotate_twice (r₁ r₂ : VideoRotation) (h₁ : r₁ ≠ .rotation0) (h₂ : r₂ ≠ .rotation0) (hsrc : src.layout.Holds w h)
    (hmid : mid.layout.Holds (turnedSize r₁ w h).1 (turnedSize r₁ w h).2)
    (hdst : dst.layout.Holds (turnedSize r₂ (turnedSize r₁ w h).1 (turnedSize r₁ w h).2).1
      (turnedSize r₂ (turnedSize r₁ w h).1 (turnedSize r₁ w h).2).2) :
    ∃ m d, rotate src w h r₁ mid = some m ∧
      rotate m (turnedSize r₁ w h).1 (turnedSize r₁ w h).2 r₂ dst = some d ∧
      Gathered (turnedSize r₂ (turnedSize r₁ w h).1 (turnedSize r₁ w h).2).1
        (turnedSize r₂ (turnedSize r₁ w h).1 (turnedSize r₁ w h).2).2 w h (turnedFromTwice r₁ r₂) d src := by
  obtain ⟨m, hm, hlayout, hfirst⟩ := rotate_gathered r₁ h₁ hsrc hmid
  rw [← hlayout] at hmid
  obtain ⟨d, hd, -, hsecond⟩ := rotate_gathered r₂ h₂ hmid hdst
  -- the place in between is one of the picture in between
  have hrange (W H x y : ℕ) (hx : x < (turnedSize r₂ W H).1) (hy : y < (turnedSize r₂ W H).2) :
      (turnedFrom r₂ W H x y).1 < W ∧ (turnedFrom r₂ W H x y).2 < H :=
    ((turned r₂ W H).turn_mem x hx y hy).symm
  obtain ⟨hw, hh⟩ := half_turnedSize r₁ w h
  refine ⟨m, d, hm, hd, fun x hx y hy => ?_, fun x hx y hy => ?_, fun x hx y hy => ?_⟩
  · obtain ⟨hi, hj⟩ := hrange _ _ x y hx hy
    rw [hsecond.y x hx y hy, hfirst.y _ hi _ hj, turnedFromTwice]
  · obtain ⟨hw', hh'⟩ := half_turnedSize r₂ (turnedSize r₁ w h).1 (turnedSize r₁ w h).2
    obtain ⟨hi, hj⟩ := hrange _ _ x y (hw' ▸ hx) (hh' ▸ hy)
    rw [hsecond.u x hx y hy, hfirst.u _ hi _ hj, turnedFromTwice, hw, hh]
  · obtain ⟨hw', hh'⟩ := half_turnedSize r₂ (turnedSize r₁ w h).1 (turnedSize r₁ w h).2
    obtain ⟨hi, hj⟩ := hrange _ _ x y (hw' ▸ hx) (hh' ▸ hy)
    rw [hsecond.v x hx y hy, hfirst.v _ hi _ hj, turnedFromTwice, hw, hh]

theorem turnsBack (w h : ℕ) : TurnsBack w h := by
  intro src mid dst hsrc hmid hdst
  obtain ⟨m, d, hm, hd, hgathered⟩ := rotate_twice .rotation90 .rotation270
    (by decide) (by decide) hsrc hmid hdst
  refine ⟨m, d, hm, hd, hgathered.same (gathered_self w h src) fun W H x y hx hy => ?_⟩
  simp only [turnedFromTwice, turnedFrom, turnedSize, Prod.mk.injEq, true_and]
  omega

theorem turnsTwice (w h : ℕ) : TurnsTwice w h := by
  intro src mid dst dst' hsrc hmid hdst hdst'
  obtain ⟨m, d, hm, hd, hgathered⟩ := rotate_twice .rotation90 .rotation90
    (by decide) (by decide) hsrc hmid hdst
  obtain ⟨d', hd', -, hhalf⟩ := rotate_gathered .rotation180 (by decide) hsrc hdst'
  exact ⟨m, d, d', hm, hd, hd', hgathered.same hhalf fun W H x y hx hy => rfl⟩

theorem scalesSame (w h : ℕ) : ScalesSame w h := by
  intro src dst hsrc hdst
  obtain ⟨d, hd, hdrawn⟩ := scale_drawn hsrc hdst (fun hw hh => ⟨hw, hh⟩) fun hw hh => ⟨hw, hh⟩
  have hself (n x : ℕ) (hx : x < n) : x * n / n = x := Nat.mul_div_cancel x (by omega)
  refine ⟨d, hd, fun x hx y hy => ?_, fun x hx y hy => ?_, fun x hx y hy => ?_⟩
  · rw [hdrawn.sampleY hx hy, hself w x hx, hself h y hy]
  · rw [hdrawn.sampleU hx hy, hself _ x hx, hself _ y hy]
  · rw [hdrawn.sampleV hx hy, hself _ x hx, hself _ y hy]

end Rotations

section Chroma

variable {w h : ℕ} {S M D : PictureLayout}

def PictureLayout.buffer (L : PictureLayout) (v : List UInt8) : I420BufferRef :=
  ⟨List.replicate L.lenY 0, List.replicate L.lenU 0, v, L.strideY, L.strideU, L.strideV⟩

lemma PictureLayout.layout_buffer {L : PictureLayout} {v : List UInt8} (hv : v.length = L.lenV) :
    (L.buffer v).layout = L := by
  rw [buffer, I420BufferRef.layout, List.length_replicate, List.length_replicate, hv]

def PictureLayout.blank (L : PictureLayout) (a : UInt8) : I420BufferRef :=
  L.buffer (List.replicate L.lenV a)

lemma PictureLayout.layout_blank (L : PictureLayout) (a : UInt8) : (L.blank a).layout = L :=
  layout_buffer List.length_replicate

/-- The stride of U serves for V in both buffers, or there is no second row of chroma. -/
def ChromaTogether (w h : ℕ) (S D : PictureLayout) : Prop :=
  w / 2 = 0 ∨ h / 2 ≤ 1 ∨ S.strideU = S.strideV ∧ D.strideU = D.strideV

lemma agree_vByU {b : I420BufferRef} (hsame : w / 2 = 0 ∨ h / 2 ≤ 1 ∨ b.strideU = b.strideV) :
    Plane.Agree (w / 2) (h / 2) b.vByU b.vPlane := by
  obtain hw | hh | hstride := hsame
  · intro x hx
    omega
  · exact Plane.agree_of_row hh _ _ _
  · rw [I420BufferRef.vByU_eq hstride]
    exact fun _ _ _ _ => rfl

lemma within_vByU {L : PictureLayout} (hL : L.Holds w h)
    (hsame : w / 2 = 0 ∨ h / 2 ≤ 1 ∨ L.strideU = L.strideV) : Within L.lenV L.strideU (w / 2) (h / 2) := by
  obtain hw | hh | hstride := hsame
  · intro x hx
    omega
  · exact hL.v.within_row hh
  · rw [hstride]
    exact hL.v.within

lemma ChromaTogether.src (h' : ChromaTogether w h S D) :
    w / 2 = 0 ∨ h / 2 ≤ 1 ∨ S.strideU = S.strideV := by
  obtain hw | hh | hstride := h'
  · exact .inl hw
  · exact .inr (.inl hh)
  · exact .inr (.inr hstride.1)

lemma ChromaTogether.dst (h' : ChromaTogether w h S D) :
    w / 2 = 0 ∨ h / 2 ≤ 1 ∨ D.strideU = D.strideV := by
  obtain hw | hh | hstride := h'
  · exact .inl hw
  · exact .inr (.inl hh)
  · exact .inr (.inr hstride.2)

lemma chromaTogether_of_copies (hS : S.Holds w h) (hD : D.Holds w h)
    (hall : ∀ src dst : List UInt8, src.length = S.lenV → dst.length = D.lenV →
      ∃ d, Drawn (w / 2) (h / 2) (fun x y => (Plane.mk src S.strideU).sample x y) D.strideU dst d ∧
        Plane.Agree (w / 2) (h / 2) ⟨d, D.strideV⟩ ⟨src, S.strideV⟩) :
    ChromaTogether w h S D := by
  by_cases hw : w / 2 = 0
  · exact .inl hw
  by_cases hh : h / 2 ≤ 1
  · exact .inr (.inl hh)
  · exact .inr (.inr (Drawn.strides_eq (a := (0 : UInt8)) (b := 1) (by decide) (by omega) (by omega)
      hS.v hD.v hall))

lemma mirror_twice {src mid dst m d : I420BufferRef} (hmid : mid.layout.Holds w h)
    (hdst : dst.layout.Holds w h) (hm : mirror src w h mid = some m) (hd : mirror m w h dst = some d) :
    DrawnInto w h (fun x y => src.yPlane.sample x y) (fun x y => src.uPlane.sample x y)
      (fun x y => src.vByU.sample x y) dst.strideU dst d := by
  have hfirst := mirror_drawn hmid.y.wide hmid.u.wide hm
  have hsecond := mirror_drawn hdst.y.wide hdst.u.wide hd
  have hback (n x : ℕ) (hx : x < n) : n - 1 - (n - 1 - x) = x := by omega
  refine ⟨hsecond.strideY, hsecond.strideU, hsecond.strideV, ?_, ?_, ?_⟩
  · refine ⟨hsecond.y.length, fun x hx y hy => ?_, hsecond.y.kept⟩
    rw [hsecond.y.visible x hx y hy, hfirst.sampleY (by omega) hy, hback w x hx]
  · refine ⟨hsecond.u.length, fun x hx y hy => ?_, hsecond.u.kept⟩
    rw [hsecond.u.visible x hx y hy, hfirst.sampleU (by omega) hy, hback _ x hx]
  · refine ⟨hsecond.v.length, fun x hx y hy => ?_, hsecond.v.kept⟩
    rw [hsecond.v.visible x hx y hy, hfirst.sampleByU (by omega) hy, hback _ x hx]

lemma DrawnInto.same {src dst d : I420BufferRef}
    (hd : DrawnInto w h (fun x y => src.yPlane.sample x y) (fun x y => src.uPlane.sample x y)
      (fun x y => src.vByU.sample x y) dst.strideU dst d)
    (htogether : ChromaTogether w h src.layout dst.layout) : SamePicture w h d src := by
  refine ⟨fun x hx y hy => hd.sampleY hx hy, fun x hx y hy => hd.sampleU hx hy, fun x hx y hy => ?_⟩
  have hdst : w / 2 = 0 ∨ h / 2 ≤ 1 ∨ d.strideU = d.strideV := by
    rw [hd.strideU, hd.strideV]
    exact htogether.dst
  rw [← agree_vByU hdst x hx y hy, hd.sampleByU hx hy, agree_vByU htogether.src x hx y hy]

theorem mirrorsBack_iff (hS : S.Holds w h) (hM : M.Holds w h) (hD : D.Holds w h) :
    MirrorsBack w h S M D ↔
      ChromaTogether w h S D ∧ Within M.lenV M.strideU (w / 2) (h / 2) := by
  constructor
  · intro hback
    have hrun (src dst : List UInt8) (hsrc : src.length = S.lenV) (hdst : dst.length = D.lenV) :=
      hback (S.buffer src) (M.buffer (List.replicate M.lenV 0)) (D.buffer dst)
        (S.layout_buffer hsrc) (M.layout_buffer List.length_replicate) (D.layout_buffer hdst)
    have hlayout := M.layout_buffer (v := List.replicate M.lenV 0) List.length_replicate
    constructor
    · apply chromaTogether_of_copies hS hD
      intro src dst hsrc hdst
      obtain ⟨m, d, hm, hd, hsame⟩ := hrun src dst hsrc hdst
      have hdrawn := mirror_twice (hlayout.symm ▸ hM) ((D.layout_buffer hdst).symm ▸ hD) hm hd
      have hv := hsame.v
      rw [I420BufferRef.vPlane, hdrawn.strideV] at hv
      exact ⟨d.v, hdrawn.v, hv⟩
    · obtain ⟨m, d, hm, -⟩ := hrun (List.replicate S.lenV 0) (List.replicate D.lenV 0)
        List.length_replicate List.length_replicate
      have hsrc := S.layout_buffer (v := List.replicate S.lenV 0) List.length_replicate
      have hwrite := ((mirror_isSome_iff (hsrc.symm ▸ hS) (hlayout.symm ▸ hM)).1 ⟨m, hm⟩).2
      rwa [PictureLayout.buffer, List.length_replicate] at hwrite
  · rintro ⟨htogether, hmidV⟩ src mid dst rfl rfl rfl
    obtain ⟨m, hm⟩ := (mirror_isSome_iff hS hM).2 ⟨within_vByU hS htogether.src, hmidV⟩
    have hlayout := (mirror_drawn hM.y.wide hM.u.wide hm).layout_eq
    rw [← hlayout] at hM hmidV
    obtain ⟨d, hd⟩ := (mirror_isSome_iff hM hD).2 ⟨hmidV, within_vByU hD htogether.dst⟩
    exact ⟨m, d, hm, hd, (mirror_twice (hlayout ▸ hM) hD hm hd).same htogether⟩

lemma nv12_there_and_back {src dst d : I420BufferRef} {nvY nvUv : List UInt8}
    {r : List UInt8 × List UInt8} (hdst : dst.layout.Holds w h)
    (hr : i420ToNv12 src w h nvY nvUv = some r) (hd : nv12ToI420 r.1 r.2 w h dst = some d) :
    DrawnInto w h (fun x y => src.yPlane.sample x y) (fun x y => src.uPlane.sample x y)
      (fun x y => src.vByU.sample x y) dst.strideU dst d := by
  obtain ⟨hluma, -, hchroma⟩ := i420ToNv12_drawn hr
  have hback := nv12ToI420_drawn hdst.y.wide hdst.u.wide hd
  refine ⟨hback.strideY, hback.strideU, hback.strideV, ?_, ?_, ?_⟩
  · refine ⟨hback.y.length, fun x hx y hy => ?_, hback.y.kept⟩
    rw [hback.y.visible x hx y hy, hluma.visible x hx y hy]
  · refine ⟨hback.u.length, fun x hx y hy => ?_, hback.u.kept⟩
    rw [hback.u.visible x hx y hy, (hchroma x hx y hy).1]
  · refine ⟨hback.v.length, fun x hx y hy => ?_, hback.v.kept⟩
    rw [hback.v.visible x hx y hy, (hchroma x hx y hy).2]

theorem convertsBack_iff {lenY lenUv : ℕ} (hS : S.Holds w h) (hnv : Nv12Room w h lenY lenUv)
    (hD : D.Holds w h) : ConvertsBack w h S lenY lenUv D ↔ ChromaTogether w h S D := by
  constructor
  · intro hback
    apply chromaTogether_of_copies hS hD
    intro src dst hsrc hdst
    obtain ⟨r, d, hr, hd, hsame⟩ := hback (S.buffer src) (D.buffer dst) (List.replicate lenY 0)
      (List.replicate lenUv 0) (S.layout_buffer hsrc) List.length_replicate List.length_replicate
      (D.layout_buffer hdst)
    have hdrawn := nv12_there_and_back ((D.layout_buffer hdst).symm ▸ hD) hr hd
    have hv := hsame.v
    rw [I420BufferRef.vPlane, hdrawn.strideV] at hv
    exact ⟨d.v, hdrawn.v, hv⟩
  · rintro htogether src dst nvY nvUv rfl rfl rfl rfl
    obtain ⟨r, hr⟩ := (i420ToNv12_isSome_iff hS hnv).2 (within_vByU hS htogether.src)
    obtain ⟨hluma, hlen, -⟩ := i420ToNv12_drawn hr
    have hnv' : Nv12Room w h r.1.length r.2.length := by
      rw [hluma.length, hlen]
      exact hnv
    obtain ⟨d, hd⟩ := (nv12ToI420_isSome_iff hD hnv').2 (within_vByU hD htogether.dst)
    exact ⟨r, d, hr, hd, (nv12_there_and_back hD hr hd).same htogether⟩

end Chroma

section Crops

variable {W H x₁ y₁ w₁ h₁ x₂ y₂ w₂ h₂ : ℕ} {S M D D' : PictureLayout} {src mid dst dst' m d d' : I420BufferRef}

/-- The rectangles of two crops, the second within the first and that within the picture. -/
structure Nested (W H x₁ y₁ w₁ h₁ x₂ y₂ w₂ h₂ : ℕ) : Prop where
  outerX : x₁ + w₁ ≤ W
  outerY : y₁ + h₁ ≤ H
  innerX : x₂ + w₂ ≤ w₁
  innerY : y₂ + h₂ ≤ h₁
  evenX : Even x₁
  evenY : Even y₁

/-- The condition on the planes of V, whose rows are read and written at the strides of U. -/
structure CropsTogether (x₁ y₁ w₁ h₁ w₂ h₂ : ℕ) (S M D D' : PictureLayout) : Prop where
  src : CropRows S.lenV S.strideU (x₁ / 2) (y₁ / 2) (w₁ / 2) (h₁ / 2)
  mid : Room M.lenV M.strideU (w₁ / 2) (h₁ / 2)
  dst : Room D.lenV D.strideU (w₂ / 2) (h₂ / 2)
  dst' : Room D'.lenV D'.strideU (w₂ / 2) (h₂ / 2)
  strides : w₂ / 2 = 0 ∨ h₂ / 2 ≤ 1 ∨ D.strideU = D.strideV ∧ D'.strideU = D'.strideV

lemma Nested.half (hn : Nested W H x₁ y₁ w₁ h₁ x₂ y₂ w₂ h₂) :
    (x₁ + x₂) / 2 = x₁ / 2 + x₂ / 2 ∧ (y₁ + y₂) / 2 = y₁ / 2 + y₂ / 2 := by
  obtain ⟨i, hi⟩ := hn.evenX
  obtain ⟨j, hj⟩ := hn.evenY
  omega

lemma CropRows.inner {len stride x y w h x' y' w' h' : ℕ} (hrows : CropRows len stride x y w h)
    (hx : x' + w' ≤ w) (hy : y' + h' ≤ h) : CropRows len stride (x + x') (y + y') w' h' := by
  intro row hrow
  have := hrows (y' + row) (by omega)
  rw [← Nat.add_assoc] at this
  omega

lemma cropRows_of_room {len stride x y w h W H : ℕ} (hroom : Room len stride W H) (hx : x + w ≤ W)
    (hy : y + h ≤ H) : CropRows len stride x y w h := by
  intro row hrow
  have := hroom.long (y + row) (by omega)
  omega

lemma crop_iff_chroma {x y w h W H : ℕ} (hsrc : src.layout.Holds W H) (hdst : dst.layout.Holds w h)
    (hx : x + w ≤ W) (hy : y + h ≤ H) :
    (∃ d, crop src x y w h dst = some d) ↔
      CropRows src.v.length src.strideU (x / 2) (y / 2) (w / 2) (h / 2) ∧
        Room dst.v.length dst.strideU (w / 2) (h / 2) := by
  rw [crop_isSome_iff hdst.y.wide hdst.u.wide]
  exact ⟨fun h => h.2.2, fun h => ⟨⟨cropRows_of_room hsrc.y hx hy, hdst.y⟩,
    ⟨cropRows_of_room hsrc.u (by omega) (by omega), hdst.u⟩, h⟩⟩

lemma crop_twice (hn : Nested W H x₁ y₁ w₁ h₁ x₂ y₂ w₂ h₂) (hmid : mid.layout.Holds w₁ h₁)
    (hdst : dst.layout.Holds w₂ h₂) (hm : crop src x₁ y₁ w₁ h₁ mid = some m)
    (hd : crop m x₂ y₂ w₂ h₂ dst = some d) :
    DrawnInto w₂ h₂ (fun i j => src.yPlane.sample (x₁ + x₂ + i) (y₁ + y₂ + j))
      (fun i j => src.uPlane.sample ((x₁ + x₂) / 2 + i) ((y₁ + y₂) / 2 + j))
      (fun i j => src.vByU.sample ((x₁ + x₂) / 2 + i) ((y₁ + y₂) / 2 + j)) dst.strideU dst d := by
  have hfirst := crop_drawn hmid.y.wide hmid.u.wide hm
  have hsecond := crop_drawn hdst.y.wide hdst.u.wide hd
  have hx := hn.innerX
  have hy := hn.innerY
  obtain ⟨hhalfX, hhalfY⟩ := hn.half
  refine ⟨hsecond.strideY, hsecond.strideU, hsecond.strideV, ?_, ?_, ?_⟩
  · refine ⟨hsecond.y.length, fun i hi j hj => ?_, hsecond.y.kept⟩
    rw [hsecond.y.visible i hi j hj, hfirst.sampleY (by omega) (by omega), Nat.add_assoc x₁,
      Nat.add_assoc y₁]
  · refine ⟨hsecond.u.length, fun i hi j hj => ?_, hsecond.u.kept⟩
    rw [hsecond.u.visible i hi j hj, hfirst.sampleU (by omega) (by omega), hhalfX, hhalfY,
      Nat.add_assoc (x₁ / 2), Nat.add_assoc (y₁ / 2)]
  · refine ⟨hsecond.v.length, fun i hi j hj => ?_, hsecond.v.kept⟩
    rw [hsecond.v.visible i hi j hj, hfirst.sampleByU (by omega) (by omega), hhalfX, hhalfY,
      Nat.add_assoc (x₁ / 2), Nat.add_assoc (y₁ / 2)]

lemma Nested.sum (hn : Nested W H x₁ y₁ w₁ h₁ x₂ y₂ w₂ h₂) :
    x₁ + x₂ + w₂ ≤ W ∧ y₁ + y₂ + h₂ ≤ H := by
  have := hn.outerX
  have := hn.outerY
  have := hn.innerX
  have := hn.innerY
  omega

lemma cropStride {w h : ℕ} {img img' : ℕ → ℕ → Option UInt8} {t t' u u' len len' : ℕ} {d d' : List UInt8}
    (hw : 0 < w) (hh : 1 < h) (hroom : Room len t' w h)
    (hdrawn : Drawn w h img t (List.replicate len 1) d)
    (hdrawn' : Drawn w h img' u (List.replicate len' 0) d') (himg : ∀ x y, img' x y ≠ some 1)
    (hagree : Plane.Agree w h ⟨d, t'⟩ ⟨d', u'⟩) : t = t' := by
  apply Drawn.stride_eq hw hh hroom hdrawn
  intro x hx y hy
  rw [hagree x hx y hy]
  exact hdrawn'.ne_some (by decide) himg _

theorem cropsAdd_iff (hn : Nested W H x₁ y₁ w₁ h₁ x₂ y₂ w₂ h₂) (hS : S.Holds W H)
    (hM : M.Holds w₁ h₁) (hD : D.Holds w₂ h₂) (hD' : D'.Holds w₂ h₂) :
    CropsAdd x₁ y₁ w₁ h₁ x₂ y₂ w₂ h₂ S M D D' ↔ CropsTogether x₁ y₁ w₁ h₁ w₂ h₂ S M D D' := by
  obtain ⟨hsumX, hsumY⟩ := hn.sum
  obtain ⟨hhalfX, hhalfY⟩ := hn.half
  constructor
  · intro hadd
    have hrun (a b : UInt8) := hadd (S.blank 0) (M.blank 0) (D.blank a) (D'.blank b)
      (S.layout_blank 0) (M.layout_blank 0) (D.layout_blank a) (D'.layout_blank b)
    have hholds (L : PictureLayout) (a : UInt8) {w h : ℕ} (hL : L.Holds w h) :
        (L.blank a).layout.Holds w h := by
      rw [L.layout_blank]
      exact hL
    obtain ⟨m, d, d', hm, hd, hd', hsame⟩ := hrun 1 0
    obtain ⟨m', e, e', hm', he, he', hsame'⟩ := hrun 0 1
    obtain ⟨hsrcV, hmidV⟩ := (crop_iff_chroma (hholds S 0 hS) (hholds M 0 hM) hn.outerX hn.outerY).1 ⟨m, hm⟩
    have hlayout := (crop_drawn (hholds M 0 hM).y.wide (hholds M 0 hM).u.wide hm).layout_eq
    have hmHolds : m.layout.Holds w₁ h₁ := hlayout.symm ▸ hholds M 0 hM
    obtain ⟨-, hdstV⟩ := (crop_iff_chroma hmHolds (hholds D 1 hD) hn.innerX hn.innerY).1 ⟨d, hd⟩
    obtain ⟨-, hdstV'⟩ := (crop_iff_chroma (hholds S 0 hS) (hholds D' 0 hD') hsumX hsumY).1 ⟨d', hd'⟩
    have hlen (L : PictureLayout) (a : UInt8) : (L.blank a).v.length = L.lenV := List.length_replicate
    rw [hlen] at hsrcV hmidV hdstV hdstV'
    refine ⟨hsrcV, hmidV, hdstV, hdstV', ?_⟩
    by_cases hw : w₂ / 2 = 0
    · exact .inl hw
    by_cases hh : h₂ / 2 ≤ 1
    · exact .inr (.inl hh)
    have hzero (x y : ℕ) : (S.blank 0).vByU.sample x y ≠ some 1 := by
      intro heq
      exact absurd (List.eq_of_mem_replicate (List.mem_of_getElem? heq)) (by decide)
    refine .inr (.inr ⟨?_, ?_⟩)
    · have hdrawn := crop_twice hn (hholds M 0 hM) (hholds D 1 hD) hm hd
      have hdrawn' := crop_drawn (hholds D' 0 hD').y.wide (hholds D' 0 hD').u.wide hd'
      have hv := hsame.v
      rw [I420BufferRef.vPlane, I420BufferRef.vPlane, hdrawn.strideV] at hv
      exact cropStride (by omega) (by omega) hD.v hdrawn.v hdrawn'.v (fun _ _ => hzero _ _) hv
    · have hdrawn := crop_twice hn (hholds M 0 hM) (hholds D 0 hD) hm' he
      have hdrawn' := crop_drawn (hholds D' 1 hD').y.wide (hholds D' 1 hD').u.wide he'
      have hv := hsame'.v
      rw [I420BufferRef.vPlane, I420BufferRef.vPlane, hdrawn'.strideV] at hv
      exact cropStride (by omega) (by omega) hD'.v hdrawn'.v hdrawn.v (fun _ _ => hzero _ _)
        fun x hx y hy => (hv x hx y hy).symm
  · rintro htogether src mid dst dst' rfl rfl rfl rfl
    obtain ⟨m, hm⟩ := (crop_iff_chroma hS hM hn.outerX hn.outerY).2 ⟨htogether.src, htogether.mid⟩
    have hlayout := (crop_drawn hM.y.wide hM.u.wide hm).layout_eq
    have hmHolds : m.layout.Holds w₁ h₁ := hlayout.symm ▸ hM
    have hmRoom : Room m.layout.lenV m.layout.strideU (w₁ / 2) (h₁ / 2) := hlayout.symm ▸ htogether.mid
    have hx := hn.innerX
    have hy := hn.innerY
    obtain ⟨d, hd⟩ := (crop_iff_chroma hmHolds hD hn.innerX hn.innerY).2
      ⟨cropRows_of_room hmRoom (by omega) (by omega), htogether.dst⟩
    have hsum : CropRows src.v.length src.strideU ((x₁ + x₂) / 2) ((y₁ + y₂) / 2) (w₂ / 2) (h₂ / 2) := by
      rw [hhalfX, hhalfY]
      exact CropRows.inner htogether.src (by omega) (by omega)
    obtain ⟨d', hd'⟩ := (crop_iff_chroma hS hD' hsumX hsumY).2 ⟨hsum, htogether.dst'⟩
    have hdrawn := crop_twice hn hM hD hm hd
    have hdrawn' := crop_drawn hD'.y.wide hD'.u.wide hd'
    refine ⟨m, d, d', hm, hd, hd', fun x hx y hy => ?_, fun x hx y hy => ?_, fun x hx y hy => ?_⟩
    · rw [hdrawn.sampleY hx hy, hdrawn'.sampleY hx hy]
    · rw [hdrawn.sampleU hx hy, hdrawn'.sampleU hx hy]
    · have hstrides : (w₂ / 2 = 0 ∨ h₂ / 2 ≤ 1 ∨ d.strideU = d.strideV) ∧
          (w₂ / 2 = 0 ∨ h₂ / 2 ≤ 1 ∨ d'.strideU = d'.strideV) := by
        rw [hdrawn.strideU, hdrawn.strideV, hdrawn'.strideU, hdrawn'.strideV]
        obtain hw | hh | hstride := htogether.strides
        · exact ⟨.inl hw, .inl hw⟩
        · exact ⟨.inr (.inl hh), .inr (.inl hh)⟩
        · exact ⟨.inr (.inr hstride.1), .inr (.inr hstride.2)⟩
      rw [← agree_vByU hstrides.1 x hx y hy, ← agree_vByU hstrides.2 x hx y hy, hdrawn.sampleByU hx hy,
        hdrawn'.sampleByU hx hy]

end Crops

/-- Turning and scaling are exact in every layout. Mirroring, cropping and the conversion through two
planes are exact where the stride of U serves for V. -/
theorem transforms_exact (w h : ℕ) :
    TurnsBack w h ∧ TurnsTwice w h ∧ ScalesSame w h ∧
    (∀ S M D : PictureLayout, S.Holds w h → M.Holds w h → D.Holds w h →
      (MirrorsBack w h S M D ↔
        ChromaTogether w h S D ∧ Within M.lenV M.strideU (w / 2) (h / 2))) ∧
    (∀ (S D : PictureLayout) (lenY lenUv : ℕ), S.Holds w h → D.Holds w h → Nv12Room w h lenY lenUv →
      (ConvertsBack w h S lenY lenUv D ↔ ChromaTogether w h S D)) ∧
    ∀ (x₁ y₁ w₁ h₁ x₂ y₂ w₂ h₂ : ℕ) (S M D D' : PictureLayout),
      Nested w h x₁ y₁ w₁ h₁ x₂ y₂ w₂ h₂ → S.Holds w h → M.Holds w₁ h₁ → D.Holds w₂ h₂ → D'.Holds w₂ h₂ →
      (CropsAdd x₁ y₁ w₁ h₁ x₂ y₂ w₂ h₂ S M D D' ↔ CropsTogether x₁ y₁ w₁ h₁ w₂ h₂ S M D D') :=
  ⟨turnsBack w h, turnsTwice w h, scalesSame w h, fun _ _ _ => mirrorsBack_iff,
    fun _ _ _ _ hS hD hnv => convertsBack_iff hS hnv hD,
    fun _ _ _ _ _ _ _ _ _ _ _ _ => cropsAdd_iff⟩

def rowsApart (s c h : ℕ) : PictureLayout := ⟨s * h, c * (h / 2), c * (h / 2), s, c, c⟩

theorem paddedRows_exact :
    MirrorsBack 8 8 (rowsApart 12 6 8) (rowsApart 8 4 8) (rowsApart 8 5 8) ∧
      ConvertsBack 8 8 (rowsApart 12 6 8) 64 32 (rowsApart 8 4 8) ∧
      CropsAdd 2 2 6 6 2 2 4 4 (rowsApart 12 6 8) (rowsApart 6 3 6) (rowsApart 4 2 4)
        (rowsApart 8 4 4) := by
  have hroom : ∀ {s w h : ℕ}, w ≤ s → Room (s * h) s w h := by
    intro s w h hw
    refine ⟨hw, fun y hy => ?_⟩
    nlinarith [Nat.mul_le_mul_right s (Nat.succ_le_of_lt hy)]
  have hholds : ∀ {s c w h : ℕ}, w ≤ s → w / 2 ≤ c → (rowsApart s c h).Holds w h :=
    fun hs hc => ⟨hroom hs, hroom hc, hroom hc⟩
  have hwide : (rowsApart 12 6 8).Holds 8 8 := hholds (by decide) (by decide)
  have htight : (rowsApart 8 4 8).Holds 8 8 := hholds (by decide) (by decide)
  have hmid : (rowsApart 8 5 8).Holds 8 8 := hholds (by decide) (by decide)
  have hsix : (rowsApart 6 3 6).Holds 6 6 := hholds (by decide) (by decide)
  have hfour : (rowsApart 4 2 4).Holds 4 4 := hholds (by decide) (by decide)
  have hfour' : (rowsApart 8 4 4).Holds 4 4 := hholds (by decide) (by decide)
  obtain ⟨-, -, -, hmirror, hconvert, hcrop⟩ := transforms_exact 8 8
  refine ⟨(hmirror _ _ _ hwide htight hmid).2 ⟨.inr (.inr ⟨rfl, rfl⟩), htight.v.within⟩,
    (hconvert _ _ _ _ hwide htight ⟨by decide, by decide⟩).2 (.inr (.inr ⟨rfl, rfl⟩)),
    (hcrop 2 2 6 6 2 2 4 4 _ _ _ _ ⟨by decide, by decide, by decide, by decide, by decide, by decide⟩
      hwide hsix hfour hfour').2 ?_⟩
  exact ⟨cropRows_of_room hwide.v (by decide) (by decide), hsix.v, hfour.v, hfour'.v,
    .inr (.inr ⟨rfl, rfl⟩)⟩

/-- With the rows of V further apart than those of U, mirroring twice is not the identity. -/
theorem mirror_loses_v : ¬∀ (w h : ℕ) (S M D : PictureLayout), Even w → Even h → S.Holds w h →
    M.Holds w h → D.Holds w h → MirrorsBack w h S M D := by
  intro hall
  have hholds : (⟨16, 4, 6, 4, 2, 3⟩ : PictureLayout).Holds 4 4 :=
    ⟨⟨by decide, by decide⟩, ⟨by decide, by decide⟩, ⟨by decide, by decide⟩⟩
  have hback := hall 4 4 _ _ _ (by decide) (by decide) hholds hholds hholds
  obtain h | h | h := ((mirrorsBack_iff hholds hholds hholds).1 hback).1
  · exact absurd h (by decide)
  · exact absurd h (by decide)
  · exact absurd h (by decide)

end MediaServo.Media
