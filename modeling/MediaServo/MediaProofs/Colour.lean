import MediaServo.Media.Colour
import MediaServo.MediaProofs.PlaneCopies

/-! The colour conversions: what they write, that their integers fit, and how far a colour moves when
it is converted and back. -/

namespace MediaServo.Media

open MediaServo.Foundations.Raster
open MediaServo.Foundations.Checked

namespace NativeTransform

section Values

variable {p : Bgr} {s : Yuv8}

def bytes {ι : Type} : ι → Interval := fun _ => ⟨0, 255⟩

lemma rgb_contains (p : Bgr) (c : Rgb) : (bytes c).Contains (p.env c) := by
  have hr := p.r.toNat_lt
  have hg := p.g.toNat_lt
  have hb := p.b.toNat_lt
  cases c <;> simp only [bytes, Bgr.env, Interval.Contains] <;> omega

lemma yuv_contains (s : Yuv8) (c : Yuv) : (bytes c).Contains (s.env c) := by
  have hy := s.y.toNat_lt
  have hu := s.u.toNat_lt
  have hv := s.v.toNat_lt
  cases c <;> simp only [bytes, Yuv8.env, Interval.Contains] <;> omega

lemma lumaOf_eq (p : Bgr) : lumaOf p = some (asU8 (clamp 16 235 ((ofRgb yVal).value p.env))) := by
  rw [lumaOf, Arith.eval_eq_value (rgb_contains p) (by decide)]
  rfl

lemma chromaOf_eq {e : Arith Rgb → Arith Rgb → Arith Rgb → Arith Rgb}
    (hfits : (ofRgb e).Fits .i32 bytes) (p : Bgr) :
    chromaOf e p = some (clamp 16 240 ((ofRgb e).value p.env)) := by
  rw [chromaOf, Arith.eval_eq_value (rgb_contains p) hfits]
  rfl

lemma uVal_fits : (ofRgb uVal).Fits .i32 bytes := by decide

lemma vVal_fits : (ofRgb vVal).Fits .i32 bytes := by decide

lemma colourOf_eq {e : Arith Yuv → Arith Yuv → Arith Yuv → Arith Yuv}
    (hfits : (ofYuv e).Fits .i32 bytes) (s : Yuv8) :
    colourOf e s = some (asU8 (clamp 0 255 ((ofYuv e).value s.env))) := by
  rw [colourOf, Arith.eval_eq_value (yuv_contains s) hfits]
  rfl

lemma bgrOf_eq (s : Yuv8) : bgrOf s = some
    ⟨asU8 (clamp 0 255 ((ofYuv fun yp up _ => blue yp up).value s.env)),
      asU8 (clamp 0 255 ((ofYuv green).value s.env)),
      asU8 (clamp 0 255 ((ofYuv fun yp _ vp => red yp vp).value s.env))⟩ := by
  rw [bgrOf, colourOf_eq (by decide), colourOf_eq (by decide), colourOf_eq (by decide)]
  rfl

lemma clamp_between {lo hi : ℤ} (h : lo ≤ hi) (n : ℤ) : lo ≤ clamp lo hi n ∧ clamp lo hi n ≤ hi := by
  simp only [clamp]
  omega

lemma toNat_asU8 {n : ℤ} (hlo : 0 ≤ n) (hhi : n ≤ 255) : ((asU8 n).toNat : ℤ) = n := by
  have hlow : (n % 2 ^ 8).toNat < 2 ^ 8 := by omega
  rw [asU8, UInt8.toNat_ofNat', Nat.mod_eq_of_lt hlow]
  omega

lemma meanOf_eq {sum : ℤ} (hlo : 0 ≤ sum) (hhi : sum ≤ 4 * 240) : meanOf sum = some (asU8 ((sum + 2) / 4)) := by
  rw [meanOf, Interval.check_of_contains (by simp only [Interval.Contains, Interval.u32]; omega)]
  rfl

end Values

section ToI420

variable {argb : List UInt8} {w h : ℕ} {dst d : I420BufferRef}
  {e : Arith Rgb → Arith Rgb → Arith Rgb → Arith Rgb}

def pixel (argb : List UInt8) (w x y : ℕ) : Option Bgr := pixelAt argb (y * (w * 4) + x * 4)

def blockMean (argb : List UInt8) (w : ℕ) (e : Arith Rgb → Arith Rgb → Arith Rgb → Arith Rgb) (x y : ℕ) :
    Option UInt8 :=
  (forGrid 2 2 (fun dy dx => addChroma argb e ((y * 2 + dy) * (w * 4) + (x * 2 + dx) * 4)) 0).bind meanOf

def lumaWrites (argb : List UInt8) (w stride row col : ℕ) : List (ℕ × Option UInt8) :=
  gridWrites 2 2 (fun dy dx => (row * 2 + dy) * stride + (col * 2 + dx))
    fun dy dx => (pixel argb w (col * 2 + dx) (row * 2 + dy)).bind lumaOf

lemma argbBlock_eq (strideY strideU : ℕ) : argbBlock argb (w * 4) strideY strideU = fun row col =>
    both (writeAll (lumaWrites argb w strideY row col))
      (both (writeAll [(row * strideU + col, blockMean argb w uVal col row)])
        (writeAll [(row * strideU + col, blockMean argb w vVal col row)])) := by
  funext row col planes
  have hluma (plane : List UInt8) : forGrid 2 2 (fun dy dx =>
      storeLuma argb ((row * 2 + dy) * (w * 4) + (col * 2 + dx) * 4)
        ((row * 2 + dy) * strideY + (col * 2 + dx))) plane =
      writeAll (lumaWrites argb w strideY row col) plane := by
    apply forGrid_writes
    intro dy dx
    funext plane
    exact (writeAll_single _ _).symm
  ext s'
  simp only [argbBlock, Option.bind_eq_bind, Option.bind_eq_some_iff, Option.pure_def, Option.some.injEq,
    Prod.exists, forGrid_both, both_eq_some, hluma, writeAll_single, blockMean]
  constructor
  · rintro ⟨y, uSum, vSum, ⟨hy, hu, hv⟩, u, ⟨mu, hmu, hsu⟩, v, ⟨mv, hmv, hsv⟩, rfl⟩
    exact ⟨hy, ⟨mu, ⟨uSum, hu, hmu⟩, hsu⟩, mv, ⟨vSum, hv, hmv⟩, hsv⟩
  · rintro ⟨hy, ⟨mu, ⟨uSum, hu, hmu⟩, hsu⟩, mv, ⟨vSum, hv, hmv⟩, hsv⟩
    exact ⟨_, uSum, vSum, ⟨hy, hu, hv⟩, _, ⟨mu, hmu, hsu⟩, _, ⟨mv, hmv, hsv⟩, rfl⟩

lemma argbToI420_planewise : argbToI420 argb w h dst = planewise
    (writeAll (turnWrites (h / 2) (w / 2) (lumaWrites argb w dst.strideY)))
    (writeAll (gridWrites (h / 2) (w / 2) (fun row col => row * dst.strideU + col)
      fun row col => blockMean argb w uVal col row))
    (writeAll (gridWrites (h / 2) (w / 2) (fun row col => row * dst.strideU + col)
      fun row col => blockMean argb w vVal col row)) dst := by
  have hgrid (val : ℕ → ℕ → Option UInt8) (plane : List UInt8) :
      forGrid (h / 2) (w / 2) (fun row col => writeAll [(row * dst.strideU + col, val row col)]) plane =
        writeAll (gridWrites (h / 2) (w / 2) (fun row col => row * dst.strideU + col) val) plane :=
    forGrid_writes fun _ _ => rfl
  rw [argbToI420, argbBlock_eq]
  ext d
  rw [planewise_eq_some]
  simp only [Option.bind_eq_bind, Option.bind_eq_some_iff, Option.pure_def, Option.some.injEq,
    Prod.exists, forGrid_both, forGrid_writeAll (lumaWrites argb w dst.strideY), hgrid]
  constructor
  · rintro ⟨y, u, v, ⟨hy, hu, hv⟩, rfl⟩
    exact ⟨y, u, v, hy, hu, hv, rfl⟩
  · rintro ⟨y, u, v, hy, hu, hv, rfl⟩
    exact ⟨y, u, v, ⟨hy, hu, hv⟩, rfl⟩

lemma lumaWrites_draws (stride : ℕ) : Draws (turnWrites (h / 2) (w / 2) (lumaWrites argb w stride))
    (w / 2 * 2) (h / 2 * 2) (fun x y => (pixel argb w x y).bind lumaOf) stride := by
  intro a
  simp only [mem_turnWrites, lumaWrites, mem_gridWrites]
  constructor
  · rintro ⟨row, hrow, col, hcol, dy, hdy, dx, hdx, rfl⟩
    exact ⟨col * 2 + dx, by omega, row * 2 + dy, by omega, rfl⟩
  · rintro ⟨x, hx, y, hy, rfl⟩
    have hxe : x / 2 * 2 + x % 2 = x := by omega
    have hye : y / 2 * 2 + y % 2 = y := by omega
    exact ⟨y / 2, by omega, x / 2, by omega, y % 2, by omega, x % 2, by omega, by rw [hxe, hye]⟩

lemma mean_draws {e : Arith Rgb → Arith Rgb → Arith Rgb → Arith Rgb} (stride : ℕ) :
    Draws (gridWrites (h / 2) (w / 2) (fun row col => row * stride + col)
      fun row col => blockMean argb w e col row) (w / 2) (h / 2) (blockMean argb w e) stride :=
  (Turns.straight (w / 2) (h / 2)).draws

lemma pixelAt_isSome {i : ℕ} (hi : i + 3 < argb.length) : ∃ p, pixelAt argb i = some p := by
  refine ⟨⟨argb[i], argb[i + 1], argb[i + 2]⟩, ?_⟩
  rw [pixelAt, List.getElem?_eq_getElem (by omega), List.getElem?_eq_getElem (by omega),
    List.getElem?_eq_getElem (by omega)]
  rfl

lemma packed_index_lt {len x y : ℕ} (hlen : w * h * 4 ≤ len) (hx : x < w) (hy : y < h) :
    y * (w * 4) + x * 4 + 3 < len := by
  have hrow : (y + 1) * w ≤ h * w := Nat.mul_le_mul_right w hy
  rw [Nat.add_one_mul, Nat.mul_comm h] at hrow
  rw [← Nat.mul_assoc]
  omega

lemma exists_pixel (hlen : w * h * 4 ≤ argb.length) {x y : ℕ} (hx : x < w) (hy : y < h) :
    ∃ p, pixel argb w x y = some p :=
  pixelAt_isSome (packed_index_lt hlen hx hy)

lemma addChroma_eq (hfits : (ofRgb e).Fits .i32 bytes) {i : ℕ} {p : Bgr} {sum : ℤ}
    (hp : pixelAt argb i = some p) (hlo : 0 ≤ sum) (hhi : sum ≤ 3 * 240) :
    addChroma argb e i sum = some (sum + clamp 16 240 ((ofRgb e).value p.env)) := by
  obtain ⟨hclo, hchi⟩ := clamp_between (by decide : (16 : ℤ) ≤ 240) ((ofRgb e).value p.env)
  rw [addChroma, hp, Option.bind_some, chromaOf_eq hfits, Option.bind_some,
    Interval.check_of_contains (by simp only [Interval.Contains, Interval.u32]; omega)]

lemma blockMean_eq (hfits : (ofRgb e).Fits .i32 bytes) {x y : ℕ} (p : ℕ → ℕ → Bgr)
    (hp : ∀ dx < 2, ∀ dy < 2, pixel argb w (x * 2 + dx) (y * 2 + dy) = some (p dx dy)) :
    blockMean argb w e x y = some (asU8 ((clamp 16 240 ((ofRgb e).value (p 0 0).env) +
      clamp 16 240 ((ofRgb e).value (p 1 0).env) + clamp 16 240 ((ofRgb e).value (p 0 1).env) +
      clamp 16 240 ((ofRgb e).value (p 1 1).env) + 2) / 4)) := by
  have hc (dx dy : ℕ) := clamp_between (by decide : (16 : ℤ) ≤ 240) ((ofRgb e).value (p dx dy).env)
  have h00 := hc 0 0
  have h10 := hc 1 0
  have h01 := hc 0 1
  have h11 := hc 1 1
  have hadd (dx dy : ℕ) (hdx : dx < 2) (hdy : dy < 2) (sum : ℤ) (hlo : 0 ≤ sum) (hhi : sum ≤ 3 * 240) :=
    addChroma_eq hfits (hp dx hdx dy hdy) hlo hhi
  rw [blockMean, forGrid_two, hadd 0 0 (by decide) (by decide) 0 (by decide) (by decide),
    Option.bind_some, hadd 1 0 (by decide) (by decide) _ (by omega) (by omega), Option.bind_some,
    hadd 0 1 (by decide) (by decide) _ (by omega) (by omega), Option.bind_some,
    hadd 1 1 (by decide) (by decide) _ (by omega) (by omega), Option.bind_some,
    meanOf_eq (by omega) (by omega), zero_add]

lemma exists_blockMean (hfits : (ofRgb e).Fits .i32 bytes) (hlen : w * h * 4 ≤ argb.length) {x y : ℕ}
    (hx : x < w / 2) (hy : y < h / 2) : (blockMean argb w e x y).isSome := by
  have hpixel (dx dy : ℕ) : ∃ p, dx < 2 → dy < 2 → pixel argb w (x * 2 + dx) (y * 2 + dy) = some p := by
    by_cases hd : dx < 2 ∧ dy < 2
    · obtain ⟨p, hp⟩ := exists_pixel hlen (by omega : x * 2 + dx < w) (by omega : y * 2 + dy < h)
      exact ⟨p, fun _ _ => hp⟩
    · exact ⟨⟨0, 0, 0⟩, fun hdx hdy => absurd ⟨hdx, hdy⟩ hd⟩
  choose p hp using hpixel
  rw [blockMean_eq hfits p fun dx hdx dy hdy => hp dx dy hdx hdy]
  rfl

lemma argbToI420_drawn (hlen : w * h * 4 ≤ argb.length) (hy : Room dst.y.length dst.strideY (w / 2 * 2) (h / 2 * 2))
    (hu : Room dst.u.length dst.strideU (w / 2) (h / 2)) (hv : Room dst.v.length dst.strideU (w / 2) (h / 2)) :
    ∃ d, argbToI420 argb w h dst = some d ∧
      d.strideY = dst.strideY ∧ d.strideU = dst.strideU ∧ d.strideV = dst.strideV ∧
      Drawn (w / 2 * 2) (h / 2 * 2) (fun x y => (pixel argb w x y).bind lumaOf) dst.strideY dst.y d.y ∧
      Drawn (w / 2) (h / 2) (blockMean argb w uVal) dst.strideU dst.u d.u ∧
      Drawn (w / 2) (h / 2) (blockMean argb w vVal) dst.strideU dst.v d.v := by
  have hluma (x : ℕ) (hx : x < w / 2 * 2) (y : ℕ) (hy : y < h / 2 * 2) :
      ((pixel argb w x y).bind lumaOf).isSome := by
    obtain ⟨p, hp⟩ := exists_pixel hlen (by omega : x < w) (by omega : y < h)
    rw [hp, Option.bind_some, lumaOf_eq]
    rfl
  obtain ⟨y, hrunY⟩ := (lumaWrites_draws dst.strideY).isSome_iff.2 ⟨hluma, hy.within⟩
  obtain ⟨u, hrunU⟩ := (mean_draws dst.strideU).isSome_iff.2
    ⟨fun x hx y hy => exists_blockMean uVal_fits hlen hx hy, hu.within⟩
  obtain ⟨v, hrunV⟩ := (mean_draws dst.strideU).isSome_iff.2
    ⟨fun x hx y hy => exists_blockMean vVal_fits hlen hx hy, hv.within⟩
  rw [argbToI420_planewise]
  exact ⟨_, planewise_eq_some.2 ⟨y, u, v, hrunY, hrunU, hrunV, rfl⟩, rfl, rfl, rfl,
    (lumaWrites_draws _).drawn hy.wide hrunY, (mean_draws _).drawn hu.wide hrunU,
    (mean_draws _).drawn hv.wide hrunV⟩

end ToI420

section ToArgb

variable {src : I420BufferRef} {w h : ℕ} {fmt : PixelFormat} {bytes : Bgr → List UInt8} {dst d : List UInt8}

lemma pack_length (hfmt : pack fmt = some bytes) (p : Bgr) : (bytes p).length = 4 := by
  cases fmt <;> cases hfmt <;> rfl

def pixelWrites (src : I420BufferRef) (w : ℕ) (bytes : Bgr → List UInt8) (y x : ℕ) :
    List (ℕ × Option UInt8) :=
  (List.range 4).map fun k => ((y * w + x) * 4 + k, ((samplesAt src x y).bind bgrOf).bind fun p => (bytes p)[k]?)

lemma storePixel_eq (x y : ℕ) : (fun dst => ((samplesAt src x y).bind bgrOf).bind fun p =>
    storePixel ((y * w + x) * 4) (bytes p) dst) = writeAll (pixelWrites src w bytes y x) := by
  funext d
  rw [pixelWrites]
  cases (samplesAt src x y).bind bgrOf with
  | none => rfl
  | some p =>
    simp only [Option.bind_some, storePixel, copyAt_eq]
    rw [forRange_writeAll, List.map_eq_flatMap]

lemma pixelWrites_draws : Draws (turnWrites h w (pixelWrites src w bytes)) (w * 4) h
    (fun i y => ((samplesAt src (i / 4) y).bind bgrOf).bind fun p => (bytes p)[i % 4]?) (w * 4) := by
  intro a
  simp only [mem_turnWrites, pixelWrites, List.mem_map, List.mem_range]
  constructor
  · rintro ⟨y, hy, x, hx, k, hk, rfl⟩
    refine ⟨x * 4 + k, by omega, y, hy, ?_⟩
    have hx : (x * 4 + k) / 4 = x := by omega
    have hk : (x * 4 + k) % 4 = k := by omega
    rw [hx, hk, Nat.add_mul, Nat.mul_assoc, ← Nat.add_assoc]
  · rintro ⟨i, hi, y, hy, rfl⟩
    refine ⟨y, hy, i / 4, by omega, i % 4, by omega, ?_⟩
    have hsum : (y * w + i / 4) * 4 + i % 4 = y * (w * 4) + i := by
      rw [Nat.add_mul, Nat.mul_assoc]
      omega
    rw [hsum]

lemma i420ToArgb_eq_some (hfmt : pack fmt = some bytes) : i420ToArgb src w h fmt dst = some (.ok d) ↔
    writeAll (turnWrites h w (pixelWrites src w bytes)) dst = some d := by
  have hturn : (fun y x dst => ((samplesAt src x y).bind bgrOf).bind fun p =>
      storePixel ((y * w + x) * 4) (bytes p) dst) =
      fun y x => writeAll (pixelWrites src w bytes y x) := by
    funext y x
    exact storePixel_eq x y
  rw [i420ToArgb, hfmt]
  simp only [hturn, forGrid_writeAll, Option.map_eq_some_iff, Except.ok.injEq, exists_eq_right]

lemma i420ToArgb_isSome_iff (hfmt : pack fmt = some bytes) (hlen : w * h * 4 ≤ dst.length) :
    (∃ d, i420ToArgb src w h fmt dst = some (.ok d)) ↔ ∀ x < w, ∀ y < h, (samplesAt src x y).isSome := by
  simp only [i420ToArgb_eq_some hfmt]
  rw [pixelWrites_draws.isSome_iff]
  constructor
  · rintro ⟨hread, -⟩ x hx y hy
    have hsome := hread (x * 4) (by omega) y hy
    rw [Nat.mul_div_cancel x (by decide : 0 < 4)] at hsome
    cases hs : samplesAt src x y with
    | none =>
      rw [hs] at hsome
      cases hsome
    | some s => rfl
  · intro hread
    refine ⟨fun i hi y hy => ?_, fun i hi y hy => ?_⟩
    · obtain ⟨s, hs⟩ := Option.isSome_iff_exists.1 (hread (i / 4) (by omega) y hy)
      rw [hs, Option.bind_some, bgrOf_eq, Option.bind_some,
        List.getElem?_eq_getElem (by rw [pack_length hfmt]; omega)]
      rfl
    · have := packed_index_lt hlen (by omega : i / 4 < w) hy
      omega

lemma i420ToArgb_drawn (hfmt : pack fmt = some bytes) (hrun : i420ToArgb src w h fmt dst = some (.ok d)) :
    Drawn (w * 4) h
      (fun i y => ((samplesAt src (i / 4) y).bind bgrOf).bind fun p => (bytes p)[i % 4]?) (w * 4) dst d :=
  pixelWrites_draws.drawn (le_refl _) ((i420ToArgb_eq_some hfmt).1 hrun)

lemma pixel_of_bgra (hrun : i420ToArgb src w h .bgra dst = some (.ok d)) {x y : ℕ} (hx : x < w)
    (hy : y < h) : pixel d w x y = (samplesAt src x y).bind bgrOf := by
  have hdrawn := i420ToArgb_drawn rfl hrun
  have hbyte (k : ℕ) (hk : k < 4) : d[y * (w * 4) + x * 4 + k]? =
      ((samplesAt src x y).bind bgrOf).bind fun p => [p.b, p.g, p.r, 255][k]? := by
    have hread := hdrawn.visible (x * 4 + k) (by omega) y hy
    have hx : (x * 4 + k) / 4 = x := by omega
    have hk : (x * 4 + k) % 4 = k := by omega
    rw [hx, hk, ← Nat.add_assoc] at hread
    exact hread
  have h0 := hbyte 0 (by decide)
  have h1 := hbyte 1 (by decide)
  have h2 := hbyte 2 (by decide)
  rw [Nat.add_zero] at h0
  rw [pixel, pixelAt, h0, h1, h2]
  cases (samplesAt src x y).bind bgrOf <;> rfl

end ToArgb

section RoundTrip

def samplesOf (p : Bgr) : Yuv8 :=
  ⟨asU8 ((ofRgb yVal).value p.env), asU8 ((ofRgb uVal).value p.env), asU8 ((ofRgb vVal).value p.env)⟩

/-- No channel of one pixel is further from that of the other. -/
structure Near (n : ℤ) (p q : Bgr) : Prop where
  b : |(p.b.toNat : ℤ) - q.b.toNat| ≤ n
  g : |(p.g.toNat : ℤ) - q.g.toNat| ≤ n
  r : |(p.r.toNat : ℤ) - q.r.toNat| ≤ n

lemma yVal_value (p : Bgr) : (ofRgb yVal).value p.env =
    (66 * (p.r.toNat : ℤ) + 129 * p.g.toNat + 25 * p.b.toNat + 128) / 256 + 16 := rfl

lemma uVal_value (p : Bgr) : (ofRgb uVal).value p.env =
    (-38 * (p.r.toNat : ℤ) - 74 * p.g.toNat + 112 * p.b.toNat + 128) / 256 + 128 := rfl

lemma vVal_value (p : Bgr) : (ofRgb vVal).value p.env =
    (112 * (p.r.toNat : ℤ) - 94 * p.g.toNat - 18 * p.b.toNat + 128) / 256 + 128 := rfl

lemma red_value (s : Yuv8) : (ofYuv fun yp _ vp => red yp vp).value s.env =
    (298 * ((s.y.toNat : ℤ) - 16) + 409 * ((s.v.toNat : ℤ) - 128) + 128) / 256 := rfl

lemma green_value (s : Yuv8) : (ofYuv green).value s.env = (298 * ((s.y.toNat : ℤ) - 16) -
    100 * ((s.u.toNat : ℤ) - 128) - 208 * ((s.v.toNat : ℤ) - 128) + 128) / 256 := rfl

lemma blue_value (s : Yuv8) : (ofYuv fun yp up _ => blue yp up).value s.env =
    (298 * ((s.y.toNat : ℤ) - 16) + 516 * ((s.u.toNat : ℤ) - 128) + 128) / 256 := rfl

lemma clamp_of_between {lo hi n : ℤ} (hlo : lo ≤ n) (hhi : n ≤ hi) : clamp lo hi n = n := by
  simp only [clamp]
  omega

lemma values_between (p : Bgr) :
    (16 ≤ (ofRgb yVal).value p.env ∧ (ofRgb yVal).value p.env ≤ 235) ∧
    (16 ≤ (ofRgb uVal).value p.env ∧ (ofRgb uVal).value p.env ≤ 240) ∧
    (16 ≤ (ofRgb vVal).value p.env ∧ (ofRgb vVal).value p.env ≤ 240) := by
  have hr := p.r.toNat_lt
  have hg := p.g.toNat_lt
  have hb := p.b.toNat_lt
  rw [yVal_value, uVal_value, vVal_value]
  omega

lemma near_clamp {n m c : ℤ} (hn : 0 ≤ n) (hn' : n ≤ 255) (hnear : |n - m| ≤ c) :
    |n - (asU8 (clamp 0 255 m)).toNat| ≤ c := by
  obtain ⟨hlo, hhi⟩ := clamp_between (by decide : (0 : ℤ) ≤ 255) m
  rw [toNat_asU8 hlo hhi]
  rw [abs_le] at hnear ⊢
  simp only [clamp]
  omega

lemma near_samplesOf (p : Bgr) : ∃ q, bgrOf (samplesOf p) = some q ∧ Near 15 p q := by
  obtain ⟨⟨hylo, hyhi⟩, ⟨hulo, huhi⟩, hvlo, hvhi⟩ := values_between p
  have hr := p.r.toNat_lt
  have hg := p.g.toNat_lt
  have hb := p.b.toNat_lt
  have hy : ((samplesOf p).y.toNat : ℤ) = (ofRgb yVal).value p.env := toNat_asU8 (by omega) (by omega)
  have hu : ((samplesOf p).u.toNat : ℤ) = (ofRgb uVal).value p.env := toNat_asU8 (by omega) (by omega)
  have hv : ((samplesOf p).v.toNat : ℤ) = (ofRgb vVal).value p.env := toNat_asU8 (by omega) (by omega)
  rw [yVal_value] at hy
  rw [uVal_value] at hu
  rw [vVal_value] at hv
  refine ⟨_, bgrOf_eq _, ?_, ?_, ?_⟩
  · apply near_clamp (by omega) (by omega)
    rw [blue_value, abs_le]
    omega
  · apply near_clamp (by omega) (by omega)
    rw [green_value, abs_le]
    omega
  · apply near_clamp (by omega) (by omega)
    rw [red_value, abs_le]
    omega

variable {argb : List UInt8} {w h : ℕ}

/-- The pixels of a block of four have one colour. -/
def UniformBlocks (argb : List UInt8) (w h : ℕ) : Prop :=
  ∀ x < w, ∀ y < h, pixel argb w x y = pixel argb w (x / 2 * 2) (y / 2 * 2)

instance (argb : List UInt8) (w h : ℕ) : Decidable (UniformBlocks argb w h) :=
  inferInstanceAs (Decidable (∀ x < w, ∀ y < h, _))

lemma blockMean_uniform {e : Arith Rgb → Arith Rgb → Arith Rgb → Arith Rgb}
    (hfits : (ofRgb e).Fits .i32 bytes) {x y : ℕ} {p : Bgr}
    (hp : ∀ dx < 2, ∀ dy < 2, pixel argb w (x * 2 + dx) (y * 2 + dy) = some p)
    (hlo : 16 ≤ (ofRgb e).value p.env) (hhi : (ofRgb e).value p.env ≤ 240) :
    blockMean argb w e x y = some (asU8 ((ofRgb e).value p.env)) := by
  rw [blockMean_eq hfits (fun _ _ => p) hp, clamp_of_between hlo hhi]
  congr 2
  omega

/-- Every colour comes back, changed a little, and no step of either conversion overflows. -/
theorem colour_round_trip {buf : I420BufferRef} {out : List UInt8} (hw : Even w) (hh : Even h)
    (hargb : argb.length = w * h * 4) (huniform : UniformBlocks argb w h) (hbuf : buf.layout.Holds w h)
    (hstrides : buf.strideU = buf.strideV) (hout : out.length = w * h * 4) :
    ∃ yuv back, argbToI420 argb w h buf = some yuv ∧ i420ToArgb yuv w h .bgra out = some (.ok back) ∧
      ∀ x < w, ∀ y < h, ∃ p q, pixel argb w x y = some p ∧ pixel back w x y = some q ∧ Near 15 p q := by
  have hevenW : w / 2 * 2 = w := Nat.div_mul_cancel hw.two_dvd
  have hevenH : h / 2 * 2 = h := Nat.div_mul_cancel hh.two_dvd
  have hroomV := hbuf.v
  change Room buf.v.length buf.strideV (w / 2) (h / 2) at hroomV
  rw [← hstrides] at hroomV
  obtain ⟨yuv, hrun, hsy, hsu, hsv, hdrawnY, hdrawnU, hdrawnV⟩ :=
    @argbToI420_drawn argb w h buf hargb.ge (by rw [hevenW, hevenH]; exact hbuf.y) hbuf.u hroomV
  -- the samples behind a pixel are those of its colour
  have hsamples (x : ℕ) (hx : x < w) (y : ℕ) (hy : y < h) :
      ∃ p, pixel argb w x y = some p ∧ samplesAt yuv x y = some (samplesOf p) := by
    obtain ⟨p, hp⟩ := exists_pixel hargb.ge hx hy
    obtain ⟨⟨hylo, hyhi⟩, ⟨hulo, huhi⟩, hvlo, hvhi⟩ := values_between p
    have hblock : ∀ dx < 2, ∀ dy < 2, pixel argb w (x / 2 * 2 + dx) (y / 2 * 2 + dy) = some p := by
      intro dx hdx dy hdy
      have hx' : (x / 2 * 2 + dx) / 2 = x / 2 := by omega
      have hy' : (y / 2 * 2 + dy) / 2 = y / 2 := by omega
      rw [huniform _ (by omega) _ (by omega), hx', hy', ← huniform x hx y hy, hp]
    refine ⟨p, hp, ?_⟩
    have hluma := hdrawnY.visible x (by omega) y (by omega)
    have hcb := hdrawnU.visible (x / 2) (by omega) (y / 2) (by omega)
    have hcr := hdrawnV.visible (x / 2) (by omega) (y / 2) (by omega)
    rw [hp, Option.bind_some, lumaOf_eq, clamp_of_between hylo hyhi] at hluma
    rw [blockMean_uniform uVal_fits hblock hulo huhi] at hcb
    rw [blockMean_uniform vVal_fits hblock hvlo hvhi] at hcr
    rw [samplesAt, hsy, hsu, hsv, ← hstrides, hluma, hcb, hcr]
    rfl
  obtain ⟨back, hback⟩ := (i420ToArgb_isSome_iff (show pack .bgra = some _ from rfl) hout.ge).2 fun x hx y hy => by
    obtain ⟨p, -, hs⟩ := hsamples x hx y hy
    rw [hs]
    rfl
  refine ⟨yuv, back, hrun, hback, fun x hx y hy => ?_⟩
  obtain ⟨p, hp, hs⟩ := hsamples x hx y hy
  obtain ⟨q, hq, hnear⟩ := near_samplesOf p
  exact ⟨p, q, hp, by rw [pixel_of_bgra hback hx hy, hs, Option.bind_some, hq], hnear⟩

def redBlock : List UInt8 := [0, 0, 255, 255, 0, 0, 255, 255, 0, 0, 255, 255, 0, 0, 255, 255]

theorem colour_round_trip_red :
    ∃ yuv back, argbToI420 redBlock 2 2 (I420Buffer.new 2 2).asI420Ref = some yuv ∧
      i420ToArgb yuv 2 2 .bgra redBlock = some (.ok back) ∧
      ∀ x < 2, ∀ y < 2, ∃ p q, pixel redBlock 2 x y = some p ∧ pixel back 2 x y = some q ∧ Near 15 p q :=
  colour_round_trip (by decide) (by decide) rfl (by decide)
    ⟨⟨by decide, by decide⟩, ⟨by decide, by decide⟩, ⟨by decide, by decide⟩⟩ rfl rfl

end RoundTrip

end NativeTransform

end MediaServo.Media
