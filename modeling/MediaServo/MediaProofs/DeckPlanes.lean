import MediaServo.Media.Deck

/-! When the plane copies of recording and of playback keep the pixels of a picture. -/

namespace MediaServo.Media

open MediaServo.Foundations.Raster

lemma AvPlane.room (p : AvPlane) {w h : ℕ} (hw : w ≤ p.width) (hh : h ≤ p.height) :
    Room p.data.length p.stride w h where
  wide := hw.trans p.wide
  long y hy := by
    rw [p.whole]
    have hrows : (y + 1) * p.stride ≤ p.height * p.stride := Nat.mul_le_mul_right _ (by omega)
    have hwide := p.wide
    rw [Nat.mul_comm p.stride]
    rw [Nat.add_mul, Nat.one_mul] at hrows
    omega

namespace AvFrame

variable (f : AvFrame) {p : AvPlane}

lemma planes_size {i : ℕ} (hp : f.planes[i]? = some p) :
    (p.width = f.width ∨ p.width = (f.width + 1) / 2) ∧
      (p.height = f.height ∨ p.height = (f.height + 1) / 2) := by
  obtain rfl | rfl | rfl : p = f.y ∨ p = f.u ∨ p = f.v := by
    simpa [planes] using List.mem_of_getElem? hp
  · exact ⟨Or.inl f.sizeY.1, Or.inl f.sizeY.2⟩
  · exact ⟨Or.inr f.sizeU.1, Or.inr f.sizeU.2⟩
  · exact ⟨Or.inr f.sizeV.1, Or.inr f.sizeV.2⟩

lemma planes_pos (hw : 0 < f.width) (hh : 0 < f.height) :
    ∀ p ∈ f.planes, 0 < p.width ∧ 0 < p.height := by
  intro p hp
  obtain ⟨i, hi⟩ := List.mem_iff_getElem?.mp hp
  have := f.planes_size hi
  omega

lemma no_pixel {i x y : ℕ} (hsize : f.width = 0 ∨ f.height = 0) (hp : f.planes[i]? = some p)
    (hx : x < p.width) (hy : y < p.height) : False := by
  have := f.planes_size hp
  omega

end AvFrame

namespace Recorder

lemma copyPlane_getElem? (src dst : List UInt8) (k : ℕ) (hk : k < dst.length) :
    (copyPlane src dst)[k]? = if k < src.length then src[k]? else dst[k]? := by
  simp only [copyPlane]
  split_ifs with hsrc
  · rw [List.getElem?_append_left (by rw [List.length_take]; omega),
      List.getElem?_take_of_lt (by omega)]
  · rw [List.getElem?_append_right (by rw [List.length_take]; omega), List.getElem?_drop,
      List.length_take]
    congr 1
    omega

lemma copyPlane_agree {w h s t : ℕ} {src dst : List UInt8} (hsrc : Room src.length s w h)
    (hdst : Room dst.length t w h) (hsame : w = 0 ∨ h ≤ 1 ∨ s = t) :
    Plane.Agree w h ⟨copyPlane src dst, t⟩ ⟨src, s⟩ := by
  intro x hx y hy
  have hfrom := hsrc.index_lt hx hy
  have hto := hdst.index_lt hx hy
  have hindex : y * t + x = y * s + x := by
    rcases hsame with h0 | h1 | heq
    · omega
    · obtain rfl : y = 0 := by omega
      omega
    · rw [heq]
  simp only [Plane.sample]
  rw [copyPlane_getElem? _ _ _ hto, hindex, if_pos hfrom]

def marked (len s : ℕ) : List UInt8 := (List.replicate len 0).set s 1

lemma strides_of_agree {w h s t len len' : ℕ} (hsrc : Room len s w h) (hdst : Room len' t w h)
    (h' : Plane.Agree w h ⟨copyPlane (marked len s) (List.replicate len' 0), t⟩ ⟨marked len s, s⟩) :
    w = 0 ∨ h ≤ 1 ∨ s = t := by
  by_contra hne
  push Not at hne
  obtain ⟨hw, hh, hne⟩ := hne
  have hfrom := hsrc.index_lt (x := 0) (y := 1) (by omega) hh
  have hto := hdst.index_lt (x := 0) (y := 1) (by omega) hh
  rw [Nat.one_mul, Nat.add_zero] at hfrom hto
  have hlen : (marked len s).length = len := by simp [marked]
  have hread := h' 0 (by omega) 1 hh
  simp only [Plane.sample, Nat.one_mul, Nat.add_zero] at hread
  rw [copyPlane_getElem? _ _ _ (by rw [List.length_replicate]; exact hto), hlen] at hread
  have hone : (marked len s)[s]? = some 1 := by
    rw [marked, List.getElem?_set_self (by rw [List.length_replicate]; exact hfrom)]
  rw [hone] at hread
  split_ifs at hread with hlt
  · rw [marked, List.getElem?_set_ne hne, List.getElem?_replicate_of_lt hlt] at hread
    cases hread
  · rw [List.getElem?_replicate_of_lt hto] at hread
    cases hread

variable {frame frame₀ : VideoFrame} {av av₀ : AvFrame} {size : ℕ → ℕ × ℕ}

/-- The lengths and strides of the planes, whatever their bytes. -/
def Alike (frame frame₀ : VideoFrame) (av av₀ : AvFrame) : Prop :=
  frame.planes.map (fun q => (q.samples.length, q.stride)) =
      frame₀.planes.map (fun q => (q.samples.length, q.stride)) ∧
    av.planes.map (fun p => (p.stride, p.width, p.height)) =
      av₀.planes.map (fun p => (p.stride, p.width, p.height))

/-- The planes of a frame show a picture, which the planes of the encoder have room for. -/
def Shows (frame : VideoFrame) (av : AvFrame) (size : ℕ → ℕ × ℕ) : Prop :=
  ∀ (i : ℕ) (q : Plane UInt8) (p : AvPlane), frame.planes[i]? = some q → av.planes[i]? = some p →
    Room q.samples.length q.stride (size i).1 (size i).2 ∧
      (size i).1 ≤ p.width ∧ (size i).2 ≤ p.height

/-- Each pixel of the frame is where it was, in the picture that goes to the encoder. -/
def Copies (frame : VideoFrame) (basePts : ℕ) (av : AvFrame) (size : ℕ → ℕ × ℕ) : Prop :=
  ∀ (i : ℕ) (q : Plane UInt8) (p : AvPlane), frame.planes[i]? = some q →
    (fill frame basePts av).planes[i]? = some p → Plane.Agree (size i).1 (size i).2 p.plane q

lemma fill_planes (frame : VideoFrame) (basePts : ℕ) (av : AvFrame) (i : ℕ) :
    (fill frame basePts av).planes[i]? = (av.planes[i]?).map (fillPlane frame.planes[i]?) :=
  match i with
  | 0 | 1 | 2 | _ + 3 => rfl

lemma alike_getElem? (h : Alike frame frame₀ av av₀) {i : ℕ} {q : Plane UInt8} {p : AvPlane}
    (hq : frame.planes[i]? = some q) (hp : av.planes[i]? = some p) : ∃ q₀ p₀,
      frame₀.planes[i]? = some q₀ ∧ av₀.planes[i]? = some p₀ ∧ q₀.samples.length = q.samples.length ∧
      q₀.stride = q.stride ∧ p₀.stride = p.stride ∧ p₀.width = p.width ∧ p₀.height = p.height := by
  have hframe := congrArg (fun l : List (ℕ × ℕ) => l[i]?) h.1
  have hav := congrArg (fun l : List (ℕ × ℕ × ℕ) => l[i]?) h.2
  simp only [List.getElem?_map, hq, hp, Option.map_some] at hframe hav
  obtain ⟨q₀, hq₀, heq⟩ := Option.map_eq_some_iff.mp hframe.symm
  obtain ⟨p₀, hp₀, hep⟩ := Option.map_eq_some_iff.mp hav.symm
  simp only [Prod.mk.injEq] at heq hep
  exact ⟨q₀, p₀, hq₀, hp₀, heq.1, heq.2, hep.1, hep.2.1, hep.2.2⟩

def blank (p : AvPlane) : AvPlane :=
  { p with
    data := List.replicate (p.stride * p.height) 0
    whole := List.length_replicate }

def blankFrame (f : AvFrame) : AvFrame :=
  { f with y := blank f.y, u := blank f.u, v := blank f.v }

def markedFrame (f : VideoFrame) : VideoFrame :=
  { f with planes := f.planes.map fun q => ⟨marked q.samples.length q.stride, q.stride⟩ }

lemma marked_alike (frame : VideoFrame) (av : AvFrame) :
    Alike (markedFrame frame) frame (blankFrame av) av := by
  refine ⟨?_, rfl⟩
  simp [markedFrame, marked, Function.comp_def]

lemma copies_iff (hshows : Shows frame₀ av₀ size) :
    (∀ frame av basePts, Alike frame frame₀ av av₀ → Copies frame basePts av size) ↔
      ∀ (i : ℕ) (q : Plane UInt8) (p : AvPlane), frame₀.planes[i]? = some q →
        av₀.planes[i]? = some p → (size i).1 = 0 ∨ (size i).2 ≤ 1 ∨ q.stride = p.stride := by
  constructor
  · intro h i q p hq hp
    obtain ⟨hroom, hw, hh⟩ := hshows i q p hq hp
    have hagree := h _ _ 0 (marked_alike frame₀ av₀) i ⟨marked q.samples.length q.stride, q.stride⟩
      (fillPlane (some ⟨marked q.samples.length q.stride, q.stride⟩) (blank p)) ?_ ?_
    · exact strides_of_agree hroom (p.whole ▸ p.room hw hh) hagree
    · simp [markedFrame, hq]
    · have hblank : (blankFrame av₀).planes[i]? = some (blank p) := by
        have hmap : (blankFrame av₀).planes = av₀.planes.map blank := rfl
        rw [hmap, List.getElem?_map, hp]
        rfl
      rw [fill_planes, hblank]
      simp [markedFrame, hq]
  · intro h frame av basePts halike i q p hq hp
    rw [fill_planes, hq] at hp
    obtain ⟨p', hp', rfl⟩ := Option.map_eq_some_iff.mp hp
    obtain ⟨q₀, p₀, hq₀, hp₀, hlen, hs, ht, hw, hh⟩ := alike_getElem? halike hq hp'
    obtain ⟨hroom, hwide, htall⟩ := hshows i q₀ p₀ hq₀ hp₀
    rw [hlen, hs] at hroom
    apply copyPlane_agree hroom (p'.room (hw ▸ hwide) (hh ▸ htall))
    rw [← hs, ← ht]
    exact h i q₀ p₀ hq₀ hp₀

end Recorder

namespace PlayerInner

lemma taken_iff (p : AvPlane) (n : ℕ) (hw : 0 < p.width) (hh : 0 < p.height) :
    Plane.Agree p.width p.height ⟨p.data.take n, p.stride⟩ p.plane ↔
      (p.height - 1) * p.stride + p.width ≤ n := by
  have hroom := p.room le_rfl le_rfl
  constructor
  · intro h
    have hlast := hroom.index_lt (x := p.width - 1) (y := p.height - 1) (by omega) (by omega)
    have hread := h (p.width - 1) (by omega) (p.height - 1) (by omega)
    simp only [Plane.sample, AvPlane.plane] at hread
    rw [List.getElem?_eq_getElem hlast] at hread
    have htaken := (List.getElem?_eq_some_iff.mp hread).1
    rw [List.length_take] at htaken
    omega
  · intro hn x hx y hy
    have hrow : y * p.stride ≤ (p.height - 1) * p.stride := Nat.mul_le_mul_right _ (by omega)
    simp only [Plane.sample, AvPlane.plane]
    rw [List.getElem?_take_of_lt (by omega)]

/-- Each plane is read back, pixel by pixel. -/
def ReadBack (planes : List (Plane UInt8)) (ps : List AvPlane) : Prop :=
  ∀ (i : ℕ) (p : AvPlane), ps[i]? = some p → ∀ x < p.width, ∀ y < p.height,
    (planes[i]?).bind (fun q : Plane UInt8 => q.sample x y) = p.plane.sample x y

def Reaches (p : AvPlane) (n : ℕ) : Prop := (p.height - 1) * p.stride + p.width ≤ n

lemma forall_getElem?_cons {α : Type} {P : ℕ → α → Prop} {a : α} {l : List α} :
    (∀ i b, (a :: l)[i]? = some b → P i b) ↔ P 0 a ∧ ∀ i b, l[i]? = some b → P (i + 1) b := by
  constructor
  · intro h
    exact ⟨h 0 a rfl, fun i b hb => h (i + 1) b hb⟩
  · rintro ⟨h0, h⟩ i b hb
    cases i with
    | zero =>
      cases hb
      exact h0
    | succ i => exact h i b hb

lemma readBack_cons {q : Plane UInt8} {qs : List (Plane UInt8)} {p : AvPlane} {ps : List AvPlane} :
    ReadBack (q :: qs) (p :: ps) ↔ Plane.Agree p.width p.height q p.plane ∧ ReadBack qs ps :=
  forall_getElem?_cons

lemma not_readBack_nil {p : AvPlane} {ps : List AvPlane} (hw : 0 < p.width) (hh : 0 < p.height) :
    ¬ ReadBack [] (p :: ps) := by
  intro h
  have hread := h 0 p rfl 0 hw 0 hh
  have hin := (p.room le_rfl le_rfl).index_lt hw hh
  rw [Plane.sample, AvPlane.plane, List.getElem?_eq_getElem hin] at hread
  cases hread

lemma takePlanes_some {checks : Bool} {w h : ℕ} (hfits : ¬ (checks ∧ 2 ^ 32 ≤ w * h)) (i : ℕ)
    (ps : List AvPlane) : ∃ planes, takePlanes checks w h i ps = some planes := by
  induction ps generalizing i with
  | nil => exact ⟨[], rfl⟩
  | cons p ps ih =>
    obtain ⟨planes, hplanes⟩ := ih (i + 1)
    rw [takePlanes, if_neg hfits, hplanes]
    dsimp only
    generalize hdata : (if 0 < p.stride then p.data.take (planeLen w h i) else []) = data
    cases data with
    | nil => exact ⟨[], rfl⟩
    | cons b data => exact ⟨_, rfl⟩

lemma readBack_iff {checks : Bool} {w h i : ℕ} {ps : List AvPlane} {planes : List (Plane UInt8)}
    (hpos : ∀ p ∈ ps, 0 < p.width ∧ 0 < p.height)
    (hrun : takePlanes checks w h i ps = some planes) :
    ReadBack planes ps ↔
      ∀ (j : ℕ) (p : AvPlane), ps[j]? = some p → Reaches p (planeLen w h (i + j)) := by
  induction ps generalizing i planes with
  | nil => simp [ReadBack]
  | cons p ps ih =>
    obtain ⟨hw, hh⟩ := hpos p List.mem_cons_self
    have hstride : 0 < p.stride := Nat.lt_of_lt_of_le hw p.wide
    have hdata : p.data ≠ [] := by
      intro hnil
      have := (p.room le_rfl le_rfl).index_lt hw hh
      rw [hnil] at this
      exact Nat.not_lt_zero _ this
    rw [takePlanes, if_pos hstride] at hrun
    split_ifs at hrun with hfits
    dsimp only at hrun
    rw [forall_getElem?_cons (P := fun j q => Reaches q (planeLen w h (i + j))), Nat.add_zero]
    split_ifs at hrun with hempty
    · -- nothing is taken of this plane, and none follows
      cases hrun
      rw [List.isEmpty_iff, List.take_eq_nil_iff] at hempty
      have hzero : planeLen w h i = 0 := hempty.resolve_right hdata
      constructor
      · exact fun hread => absurd hread (not_readBack_nil hw hh)
      · rintro ⟨hreach, -⟩
        rw [Reaches, hzero] at hreach
        omega
    · obtain ⟨rest, hrest, rfl⟩ := Option.map_eq_some_iff.mp hrun
      rw [readBack_cons, taken_iff p _ hw hh, ih (fun q hq => hpos q (List.mem_cons_of_mem p hq)) hrest]
      simp only [Reaches, Nat.add_assoc, Nat.add_comm 1]

lemma luma_iff {w h s m : ℕ} (hw : 0 < w) (hh : 0 < h) (hs : w ≤ s) :
    (h - 1) * s + w ≤ w * h % m ↔ w * h % m = w * h ∧ (h = 1 ∨ s = w) := by
  obtain ⟨k, rfl⟩ := Nat.exists_eq_succ_of_ne_zero hh.ne'
  have hmod : w * (k + 1) % m ≤ w * (k + 1) := Nat.mod_le _ _
  have hrow : w * (k + 1) = k * w + w := by ring
  have hpad : k * w ≤ k * s := Nat.mul_le_mul_left k hs
  rw [Nat.succ_eq_add_one, Nat.add_sub_cancel]
  constructor
  · intro h
    refine ⟨by omega, ?_⟩
    rcases Nat.eq_zero_or_pos k with rfl | hk
    · exact Or.inl rfl
    · have hle : k * s ≤ k * w := by omega
      exact Or.inr (Nat.le_antisymm (Nat.le_of_mul_le_mul_left hle hk) hs)
  · rintro ⟨hfull, h1 | rfl⟩
    · obtain rfl : k = 0 := by omega
      omega
    · omega

lemma chroma_iff {w h t : ℕ} (hw : 0 < w) (hh : 0 < h) (ht : (w + 1) / 2 ≤ t) :
    ((h + 1) / 2 - 1) * t + (w + 1) / 2 ≤ w * h / 4 ↔
      2 ∣ w ∧ 2 ∣ h ∧ (h = 2 ∨ t = w / 2) := by
  obtain ⟨b, hb⟩ : ∃ b, b = (w + 1) / 2 := ⟨_, rfl⟩
  obtain ⟨m, hm⟩ : ∃ m, m + 1 = (h + 1) / 2 := ⟨(h + 1) / 2 - 1, by omega⟩
  have hpad : m * b ≤ m * t := Nat.mul_le_mul_left m (hb ▸ ht)
  have harea : (m + 1) * b = m * b + b := by ring
  rw [← hb, ← hm, Nat.add_sub_cancel]
  constructor
  · intro hreach
    have hquarter : 4 * ((m + 1) * b) ≤ w * h := by omega
    have heven : 2 * b = w ∧ 2 * (m + 1) = h := by
      by_contra hodd
      have hb2 : w ≤ 2 * b := by omega
      have hm2 : h ≤ 2 * (m + 1) := by omega
      have hlt : w * h < 2 * b * (2 * (m + 1)) := by
        rcases Nat.lt_or_ge w (2 * b) with hlt | hge
        · exact Nat.mul_lt_mul_of_lt_of_le hlt hm2 (by omega)
        · exact Nat.mul_lt_mul_of_le_of_lt hb2 (by omega) (by omega)
      have hfour : 2 * b * (2 * (m + 1)) = 4 * ((m + 1) * b) := by ring
      omega
    obtain ⟨rfl, rfl⟩ := heven
    refine ⟨Dvd.intro _ rfl, Dvd.intro _ rfl, ?_⟩
    have hfour : 2 * b * (2 * (m + 1)) = 4 * ((m + 1) * b) := by ring
    rw [hfour, Nat.mul_div_cancel_left _ (by omega)] at hreach
    rcases Nat.eq_zero_or_pos m with rfl | hpos
    · exact Or.inl rfl
    · have hle : m * t ≤ m * b := by omega
      have := Nat.le_of_mul_le_mul_left hle hpos
      exact Or.inr (by omega)
  · rintro ⟨⟨b', rfl⟩, ⟨m', rfl⟩, hrow⟩
    obtain rfl : b = b' := by omega
    obtain rfl : m' = m + 1 := by omega
    have hfour : 2 * b * (2 * (m + 1)) = 4 * ((m + 1) * b) := by ring
    rw [hfour, Nat.mul_div_cancel_left _ (by omega)]
    rcases hrow with h2 | rfl
    · obtain rfl : m = 0 := by omega
      omega
    · have : 2 * b / 2 = b := by omega
      rw [this]
      omega

/-- The sizes and strides at which the bytes that are taken hold the whole picture. -/
def Unpadded (f : AvFrame) : Prop :=
  2 ∣ f.width ∧ 2 ∣ f.height ∧ f.width * f.height < 2 ^ 32 ∧ f.y.stride = f.width ∧
    (f.height = 2 ∨ f.u.stride = f.width / 2 ∧ f.v.stride = f.width / 2)

lemma reaches_iff (f : AvFrame) (hw : 0 < f.width) (hh : 0 < f.height) :
    (∀ (j : ℕ) (p : AvPlane), f.planes[j]? = some p → Reaches p (planeLen f.width f.height j)) ↔
      Unpadded f := by
  have hy := f.y.wide
  have hu := f.u.wide
  have hv := f.v.wide
  rw [f.sizeY.1] at hy
  rw [f.sizeU.1] at hu
  rw [f.sizeV.1] at hv
  rw [AvFrame.planes, forall_getElem?_cons, forall_getElem?_cons, forall_getElem?_cons]
  simp only [Reaches, planeLen, f.sizeY, f.sizeU, f.sizeV, if_true, Nat.add_eq_zero_iff,
    Nat.one_ne_zero, and_false, if_false, List.getElem?_nil, reduceCtorEq, IsEmpty.forall_iff,
    implies_true, and_true]
  rw [luma_iff hw hh hy, Unpadded]
  constructor
  · rintro ⟨⟨hfull, hrow⟩, hcu, hcv⟩
    rw [hfull, chroma_iff hw hh hu] at hcu
    rw [hfull, chroma_iff hw hh hv] at hcv
    have hlt : f.width * f.height < 2 ^ 32 := by
      have := Nat.mod_lt (f.width * f.height) (by norm_num : 0 < 2 ^ 32)
      omega
    refine ⟨hcu.1, hcu.2.1, hlt, by omega, ?_⟩
    omega
  · rintro ⟨h2w, h2h, hlt, hrow, hrows⟩
    have hfull := Nat.mod_eq_of_lt hlt
    rw [hfull, chroma_iff hw hh hu, chroma_iff hw hh hv]
    exact ⟨⟨rfl, Or.inr hrow⟩, ⟨h2w, h2h, by omega⟩, h2w, h2h, by omega⟩

end PlayerInner

/-- The pixels of a frame reach the encoder exactly when each plane has one stride on both sides or
one row, and those of a decoded picture are read back exactly when its size is even and fits and no
row that is followed by another is padded. -/
theorem pixels_kept_iff (checks : Bool) :
    (∀ (frame₀ : VideoFrame) (av₀ : AvFrame) (size : ℕ → ℕ × ℕ), Recorder.Shows frame₀ av₀ size →
      ((∀ frame av basePts, Recorder.Alike frame frame₀ av av₀ →
          Recorder.Copies frame basePts av size) ↔
        ∀ (i : ℕ) (q : Plane UInt8) (p : AvPlane), frame₀.planes[i]? = some q →
          av₀.planes[i]? = some p → (size i).1 = 0 ∨ (size i).2 ≤ 1 ∨ q.stride = p.stride)) ∧
    ∀ f : AvFrame,
      (∃ frame, PlayerInner.videoFrame checks f = some frame ∧
          PlayerInner.ReadBack frame.planes f.planes) ↔
        f.width = 0 ∨ f.height = 0 ∨ PlayerInner.Unpadded f := by
  refine ⟨fun frame₀ av₀ size hshows => Recorder.copies_iff hshows, ?_⟩
  intro f
  have hsome (hfits : ¬ (checks ∧ 2 ^ 32 ≤ f.width * f.height)) :
      ∃ frame, PlayerInner.videoFrame checks f = some frame ∧
        PlayerInner.takePlanes checks f.width f.height 0 f.planes = some frame.planes := by
    obtain ⟨planes, hplanes⟩ := PlayerInner.takePlanes_some hfits 0 f.planes
    rw [PlayerInner.videoFrame, hplanes]
    exact ⟨_, rfl, rfl⟩
  by_cases hsize : f.width = 0 ∨ f.height = 0
  · -- there is no pixel
    obtain ⟨frame, hframe, -⟩ := hsome fun h => by
      rcases hsize with h0 | h0 <;> simp [h0] at h
    refine ⟨fun _ => hsize.imp_right Or.inl, fun _ => ⟨frame, hframe, ?_⟩⟩
    intro i p hp x hx y hy
    exact (f.no_pixel hsize hp hx hy).elim
  · push Not at hsize
    obtain ⟨hw, hh⟩ := hsize
    have hpos := f.planes_pos (Nat.pos_of_ne_zero hw) (Nat.pos_of_ne_zero hh)
    have hiff {planes : List (Plane UInt8)}
        (hrun : PlayerInner.takePlanes checks f.width f.height 0 f.planes = some planes) :
        PlayerInner.ReadBack planes f.planes ↔ PlayerInner.Unpadded f := by
      rw [PlayerInner.readBack_iff hpos hrun,
        ← PlayerInner.reaches_iff f (Nat.pos_of_ne_zero hw) (Nat.pos_of_ne_zero hh)]
      simp only [Nat.zero_add]
    simp only [hw, hh, false_or]
    constructor
    · rintro ⟨frame, hframe, hread⟩
      obtain ⟨planes, hrun, rfl⟩ := Option.map_eq_some_iff.mp hframe
      exact (hiff hrun).1 hread
    · intro hun
      have hlt := hun.2.2.1
      obtain ⟨frame, hframe, hrun⟩ := hsome fun h => by omega
      exact ⟨frame, hframe, (hiff hrun).2 hun⟩

def black (stride width height : ℕ) (wide : width ≤ stride) (cint : stride < 2 ^ 31) : AvPlane :=
  ⟨List.replicate (stride * height) 0, stride, width, height, wide, cint, List.length_replicate⟩

def tightPicture : AvFrame where
  width := 4
  height := 4
  y := black 4 4 4 (by omega) (by omega)
  u := black 2 2 2 (by omega) (by omega)
  v := black 2 2 2 (by omega) (by omega)
  pts := none
  sizeY := ⟨rfl, rfl⟩
  sizeU := ⟨rfl, rfl⟩
  sizeV := ⟨rfl, rfl⟩

def tightFrame : VideoFrame :=
  ⟨4, 4, [⟨List.range 16 |>.map (·.toUInt8), 4⟩, ⟨[1, 2, 3, 4], 2⟩, ⟨[5, 6, 7, 8], 2⟩], 0, false⟩

def tightSize (i : ℕ) : ℕ × ℕ := if i = 0 then (4, 4) else (2, 2)

lemma tightFrame_shows : Recorder.Shows tightFrame tightPicture tightSize := by
  intro i q p hq hp
  rcases i with _ | _ | _ | i
  · cases hq
    cases hp
    exact ⟨⟨by decide, by decide⟩, by decide, by decide⟩
  · cases hq
    cases hp
    exact ⟨⟨by decide, by decide⟩, by decide, by decide⟩
  · cases hq
    cases hp
    exact ⟨⟨by decide, by decide⟩, by decide, by decide⟩
  · cases hp

theorem pixels_kept_tight :
    (∀ frame av basePts, Recorder.Alike frame tightFrame av tightPicture →
      Recorder.Copies frame basePts av tightSize) ∧
    ∃ frame, PlayerInner.videoFrame true tightPicture = some frame ∧
      PlayerInner.ReadBack frame.planes tightPicture.planes := by
  obtain ⟨hcopies, hreads⟩ := pixels_kept_iff true
  refine ⟨(hcopies tightFrame tightPicture tightSize tightFrame_shows).2 ?_, (hreads tightPicture).2 ?_⟩
  · intro i q p hq hp
    rcases i with _ | _ | _ | i
    · cases hq
      cases hp
      exact Or.inr (Or.inr rfl)
    · cases hq
      cases hp
      exact Or.inr (Or.inr rfl)
    · cases hq
      cases hp
      exact Or.inr (Or.inr rfl)
    · cases hp
  · exact Or.inr (Or.inr ⟨by decide, by decide, by decide, rfl, Or.inr ⟨rfl, rfl⟩⟩)

def alignedPicture (height : ℕ) : AvFrame where
  width := 2
  height := height
  y := black 32 2 height (by omega) (by omega)
  u := black 32 1 ((height + 1) / 2) (by omega) (by omega)
  v := black 32 1 ((height + 1) / 2) (by omega) (by omega)
  pts := none
  sizeY := ⟨rfl, rfl⟩
  sizeU := ⟨rfl, rfl⟩
  sizeV := ⟨rfl, rfl⟩

def smallFrame : VideoFrame := ⟨2, 2, [⟨[1, 2, 3, 4], 2⟩, ⟨[5], 1⟩, ⟨[6], 1⟩], 0, false⟩

def smallSize (i : ℕ) : ℕ × ℕ := if i = 0 then (2, 2) else (1, 1)

theorem aligned_pixels_lost :
    ¬ Recorder.Copies smallFrame 0 (alignedPicture 2) smallSize ∧
      ¬ ∃ frame, PlayerInner.videoFrame true (alignedPicture 4) = some frame ∧
        PlayerInner.ReadBack frame.planes (alignedPicture 4).planes := by
  constructor
  · intro h
    have hread := h 0 _ _ rfl rfl 0 (by decide) 1 (by decide)
    revert hread
    decide
  · rintro ⟨frame, hframe, hread⟩
    cases hframe
    have hpixel := hread 0 _ rfl 0 (by decide) 1 (by decide)
    revert hpixel
    decide

end MediaServo.Media
