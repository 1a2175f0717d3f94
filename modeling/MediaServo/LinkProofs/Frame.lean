import MediaServo.Link.Frame
import Mathlib.Tactic.Common

namespace MediaServo.Link.FrameMeta

open LittleEndian

def layout (m : FrameMeta) : Bytes :=
  leBytes 8 m.seq.toNat ++ leBytes 4 m.width.toNat ++ leBytes 4 m.height.toNat ++
    [m.format, m.version, if m.isKeyframe then 1 else 0, 0] ++
    leBytes 8 m.tsMonoNs.toNat ++ leBytes 8 m.tsEpochNs.toNat

lemma encode_layout (m : FrameMeta) : encode m = some (layout m) := by
  simp [encode, layout, copyFromSlice, leBytes, WIRE_LEN]

lemma layout_length (m : FrameMeta) : (layout m).length = WIRE_LEN := rfl

lemma layout_version (m : FrameMeta) : (layout m)[17]? = some m.version := rfl

lemma keyframe_read (k : Bool) : ((if k then (1 : UInt8) else 0) != 0) = k := by
  cases k <;> rfl

lemma readFields_layout (m : FrameMeta) : readFields (layout m) = some m := by
  have hread : readFields (layout m) = some
      { seq := UInt64.ofNat (leValue (leBytes 8 m.seq.toNat))
        width := UInt32.ofNat (leValue (leBytes 4 m.width.toNat))
        height := UInt32.ofNat (leValue (leBytes 4 m.height.toNat))
        format := m.format
        version := m.version
        isKeyframe := (if m.isKeyframe then (1 : UInt8) else 0) != 0
        tsMonoNs := UInt64.ofNat (leValue (leBytes 8 m.tsMonoNs.toNat))
        tsEpochNs := UInt64.ofNat (leValue (leBytes 8 m.tsEpochNs.toNat)) } := rfl
  rw [hread]
  simp only [ofNat_leValue64, ofNat_leValue32, keyframe_read]

lemma slice_of_le (b : Bytes) (lo hi : ℕ) (h : lo ≤ hi) (hb : hi ≤ b.length) :
    ∃ s, slice b lo hi = some s := ⟨_, if_pos ⟨h, hb⟩⟩

lemma readFields_total (b : Bytes) (h : WIRE_LEN ≤ b.length) : ∃ m, readFields b = some m := by
  have hlen : 36 ≤ b.length := h
  obtain ⟨seq, hseq⟩ := slice_of_le b 0 8 (by omega) (by omega)
  obtain ⟨width, hwidth⟩ := slice_of_le b 8 12 (by omega) (by omega)
  obtain ⟨height, hheight⟩ := slice_of_le b 12 16 (by omega) (by omega)
  obtain ⟨mono, hmono⟩ := slice_of_le b 20 28 (by omega) (by omega)
  obtain ⟨epoch, hepoch⟩ := slice_of_le b 28 36 (by omega) (by omega)
  have h16 : b[16]? = some b[16] := List.getElem?_eq_getElem (by omega)
  have h17 : b[17]? = some b[17] := List.getElem?_eq_getElem (by omega)
  have h18 : b[18]? = some b[18] := List.getElem?_eq_getElem (by omega)
  simp [readFields, hseq, hwidth, hheight, hmono, hepoch, h16, h17, h18]

lemma decode_short (b : Bytes) (h : b.length < WIRE_LEN) : ∃ e, decode b = some (.error e) := by
  rw [decode, if_pos h]
  exact ⟨_, rfl⟩

lemma decode_foreign (b : Bytes) (h : WIRE_LEN ≤ b.length) (v : UInt8) (hv : b[17]? = some v)
    (hne : v ≠ WIRE_VERSION) : ∃ e, decode b = some (.error e) := by
  rw [decode, if_neg (by omega)]
  simp [hv, hne]

lemma decode_current (b : Bytes) (h : WIRE_LEN ≤ b.length) (hv : b[17]? = some WIRE_VERSION) :
    decode b = (readFields b).map .ok := by
  rw [decode, if_neg (by omega)]
  simp only [hv, Option.bind_eq_bind, Option.bind_some, ne_eq, not_true_eq_false, if_false]
  cases readFields b <;> rfl

/-- What the module asks of a reader: every buffer gets an answer, and only a short one or one of
another version is refused. -/
def Total (b : Bytes) : Prop :=
  ∃ r, decode b = some r ∧ (r.isOk ↔ WIRE_LEN ≤ b.length ∧ b[17]? = some WIRE_VERSION)

lemma decode_total (b : Bytes) : Total b := by
  by_cases h : WIRE_LEN ≤ b.length
  · have hlen : 17 < b.length := lt_of_lt_of_le (by decide : 17 < WIRE_LEN) h
    have h17 : b[17]? = some b[17] := List.getElem?_eq_getElem hlen
    by_cases hv : b[17]? = some WIRE_VERSION
    · obtain ⟨m, hm⟩ := readFields_total b h
      refine ⟨.ok m, ?_, by simp [Except.isOk, Except.toBool, h, hv]⟩
      rw [decode_current b h hv, hm, Option.map_some]
    · obtain ⟨e, he⟩ := decode_foreign b h _ h17 (fun hne => hv (hne ▸ h17))
      exact ⟨_, he, by simp [Except.isOk, Except.toBool, hv]⟩
  · obtain ⟨e, he⟩ := decode_short b (by omega)
    exact ⟨_, he, by simp [Except.isOk, Except.toBool, h]⟩

/-- The wire carries `m`: its bytes decode to its fields, under the version of the wire. -/
def RoundTrips (m : FrameMeta) : Prop :=
  ∃ b, encode m = some b ∧ decode b = some (.ok { m with version := WIRE_VERSION })

lemma not_roundTrips (m : FrameMeta) (hne : m.version ≠ WIRE_VERSION) : ¬RoundTrips m := by
  rintro ⟨b, hb, hdec⟩
  obtain rfl : layout m = b := Option.some.inj ((encode_layout m).symm.trans hb)
  obtain ⟨e, he⟩ := decode_foreign (layout m) (layout_length m).ge _ (layout_version m) hne
  rw [he] at hdec
  cases hdec

theorem frame_round_trip_iff (m : FrameMeta) :
    (RoundTrips m ∧ ∀ b, Total b) ↔ m.version = WIRE_VERSION := by
  constructor
  · rintro ⟨hm, _⟩
    by_contra hne
    exact not_roundTrips m hne hm
  · intro hv
    refine ⟨⟨layout m, encode_layout m, ?_⟩, decode_total⟩
    rw [decode_current _ (layout_length m).ge (hv ▸ layout_version m), readFields_layout,
      Option.map_some, ← hv]

def versioned : FrameMeta := ⟨7, 4, 2, 1, 9, true, 0, 0⟩

theorem versioned_frame_lost : ¬ ∀ m, RoundTrips m ∧ ∀ b, Total b :=
  fun h => not_roundTrips versioned (by decide) (h versioned).1

end MediaServo.Link.FrameMeta
