import MediaServo.Common.Wire

/-! Every message comes back from the wire, but for an optional value that is `null`: that is read
as nothing. The rows of the variants have what the general results about rows ask for, which is
that no key comes twice. -/

namespace MediaServo.Common

open MediaServo.Foundations

variable {serde : SerdeValue}

namespace Tag

lemma named_name (t : Tag) : named t.name = some t := by
  cases t <;> rfl

lemma row_nodup (t : Tag) : (t.row serde).keys.Nodup := by
  cases t <;> exact of_decide_eq_true rfl

lemma type_not_mem (t : Tag) : "type" ∉ (t.row serde).keys := by
  cases t <;> exact of_decide_eq_true rfl

end Tag

namespace SignalingMessage

lemma ofArgs_args (m : SignalingMessage) : ofArgs m.tag m.args = m := by
  cases m <;> rfl

/-- The numbers fit in their types, and the floats are finite. -/
def InRange (serde : SerdeValue) (m : SignalingMessage) : Prop := (m.tag.row serde).dom m.args

def optionals (serde : SerdeValue) (m : SignalingMessage) : List Optional :=
  (m.tag.row serde).optionals m.args

/-- The parameters of the association are given, and given as `null`. -/
def SomeNull (serde : SerdeValue) : SignalingMessage → Prop
  | .webRtcTransportCreated _ _ _ _ _ _ (some v) => serde.tree v = .null
  | _ => False

lemma kept_of_not_someNull {m : SignalingMessage} (hr : m.InRange serde) (h : ¬m.SomeNull serde) :
    (m.tag.row serde).kept m.args := by
  cases m
  case webRtcTransportCreated roomId peerId transportId ice dtls candidates sctp =>
    refine ⟨trivial, trivial, trivial, trivial, trivial, by rintro _ _ ⟨⟩, ?_, trivial⟩
    rintro v rfl
    exact h
  case encoderStatus roomId peerId codec backend implementation fps width height avg =>
    refine ⟨trivial, trivial, trivial, trivial, by rintro _ _ ⟨⟩, trivial, trivial, trivial, ?_,
      trivial⟩
    obtain ⟨-, -, -, -, -, -, -, -, havg, -⟩ := hr
    intro f hf
    have hfinite : Json.finiteBits f.bits := havg f hf
    simp [float64, Codec.imap, Codec.float, Json.ofFloat, hfinite]
  all_goals
    repeat' refine And.intro ?_ ?_
    all_goals first | trivial | rintro _ _ ⟨⟩

lemma required_tag (m : SignalingMessage) :
    Json.required Json.asStr "type"
      (("type", .str m.tag.name) :: (m.tag.row serde).write m.args) = some m.tag.name := by
  have hrow : Json.values "type" ((m.tag.row serde).write m.args) = [] :=
    Row.values_write (Tag.type_not_mem m.tag)
  simp [Json.required, Json.field, hrow]

lemma decode_encode {m : SignalingMessage} (hr : m.InRange serde) (h : ¬m.SomeNull serde) :
    decode serde (encode serde m) = some m := by
  have hread : (m.tag.row serde).read
      (("type", .str m.tag.name) :: (m.tag.row serde).write m.args) = some m.args := by
    refine Row.read_write (Tag.row_nodup m.tag) hr (kept_of_not_someNull hr h)
      [("type", .str m.tag.name)] ?_
    intro k hk
    have hne : "type" ≠ k := fun heq => Tag.type_not_mem m.tag (heq ▸ hk)
    simp [hne]
  simp [decode, encode, required_tag, Tag.named_name, hread, ofArgs_args]

lemma ofArgs_inj {t t' : Tag} {a : t.Args} {a' : t'.Args} (ht : t = t') (ha : (t.row serde).dom a)
    (ha' : (t'.row serde).dom a') (h : (t.row serde).write a = (t'.row serde).write a') :
    ofArgs t a = ofArgs t' a' := by
  subst ht
  rw [Row.write_inj (Tag.row_nodup t) ha ha' h]

lemma encode_inj {m m' : SignalingMessage} (hr : m.InRange serde) (hr' : m'.InRange serde)
    (h : encode serde m = encode serde m') : m = m' := by
  simp only [encode, Json.obj.injEq, List.cons.injEq, Prod.mk.injEq, Json.str.injEq, true_and] at h
  obtain ⟨hname, hargs⟩ := h
  have htag : m.tag = m'.tag := by
    have hnamed := Tag.named_name m.tag
    rw [hname, Tag.named_name] at hnamed
    exact (Option.some.inj hnamed).symm
  rw [← ofArgs_args m, ← ofArgs_args m']
  exact ofArgs_inj htag hr hr' hargs

/-- An optional field with the attribute is written exactly when it is not empty, and one that is
not there is read as empty. -/
def SkipsNone {α : Type} (r : Row α) : Prop :=
  (∀ a, ∀ o ∈ r.optionals a, o.skipped → (o.key ∈ (r.write a).map Prod.fst ↔ o.present)) ∧
    ∀ fs a, r.read fs = some a → ∀ o ∈ r.optionals a, o.key ∉ fs.map Prod.fst → o.present = false

lemma skipsNone {α : Type} {r : Row α} (hr : r.keys.Nodup) : SkipsNone r :=
  ⟨fun _ _ ho hs => Row.mem_keys_iff hr ho hs, fun _ _ h _ ho hk => Row.not_present_of_absent h ho hk⟩

lemma optionals_ofArgs (t : Tag) (a : t.Args) :
    (ofArgs t a).optionals serde = (t.row serde).optionals a := by
  cases t <;> rfl

lemma read_of_decode {fs : Json.Fields} {m : SignalingMessage}
    (h : decode serde (.obj fs) = some m) :
    ∃ t a, (Tag.row serde t).read fs = some a ∧ m = ofArgs t a := by
  simp only [decode, Option.bind_eq_bind, Option.bind_eq_some_iff] at h
  obtain ⟨s, -, t, -, a, ha, hm⟩ := h
  cases hm
  exact ⟨t, a, ha, rfl⟩

def wireKeys (serde : SerdeValue) (m : SignalingMessage) : List String :=
  "type" :: ((m.tag.row serde).write m.args).map Prod.fst

theorem wire_round_trip (serde : SerdeValue) :
    (∀ m : SignalingMessage, m.InRange serde → ¬m.SomeNull serde →
      decode serde (encode serde m) = some m) ∧
    (∀ m : SignalingMessage, ∀ o ∈ m.optionals serde, o.skipped →
      (o.key ∈ m.wireKeys serde ↔ o.present)) ∧
    (∀ fs m, decode serde (.obj fs) = some m → ∀ o ∈ m.optionals serde,
      o.key ∉ fs.map Prod.fst → o.present = false) ∧
    SkipsNone SctpStreamParameters.row ∧ SkipsNone SignalStatusJson.row ∧
    ∀ m m' : SignalingMessage, m.InRange serde → m'.InRange serde →
      encode serde m = encode serde m' → m = m' := by
  refine ⟨fun m hr h => decode_encode hr h, ?_, ?_, skipsNone (by decide), skipsNone (by decide),
    fun m m' hr hr' h => encode_inj hr hr' h⟩
  · intro m o ho hs
    have hne : o.key ≠ "type" := fun h => Tag.type_not_mem m.tag (h ▸ Row.mem_keys_of_optional ho)
    rw [wireKeys, List.mem_cons, or_iff_right hne]
    exact Row.mem_keys_iff (Tag.row_nodup m.tag) ho hs
  · intro fs m hm o ho hk
    obtain ⟨t, a, ha, rfl⟩ := read_of_decode hm
    rw [optionals_ofArgs] at ho
    exact Row.not_present_of_absent ha ho hk

def wordValues : SerdeValue where
  tree v := if v.text = "null" then .null else .str v.text
  value
    | .null => ⟨"null"⟩
    | .str s => ⟨s⟩
    | _ => ⟨""⟩
  value_tree := by
    rintro ⟨text⟩
    by_cases h : text = "null" <;> simp [h]

def associated : SignalingMessage :=
  .webRtcTransportCreated "car1" "p1" "t1" ⟨"frag", "pass"⟩ ⟨[], "auto"⟩ none (some ⟨"5000"⟩)

theorem wire_round_trip_associated :
    decode wordValues (encode wordValues associated) = some associated := by
  apply (wire_round_trip wordValues).1 associated
  · refine ⟨trivial, trivial, trivial, ⟨?_, ?_⟩, ⟨?_, ?_⟩, nofun, fun _ _ => trivial, trivial⟩
    · exact ⟨trivial, trivial, trivial⟩
    · exact ⟨trivial, trivial, trivial⟩
    · exact ⟨nofun, trivial, trivial⟩
    · exact ⟨trivial, trivial, trivial⟩
  · rintro ⟨⟩

def nullAssociation : SignalingMessage :=
  .webRtcTransportCreated "car1" "p1" "t1" ⟨"frag", "pass"⟩ ⟨[], "auto"⟩ none (some ⟨"null"⟩)

theorem null_association_lost :
    nullAssociation.InRange wordValues ∧
      decode wordValues (encode wordValues nullAssociation) ≠ some nullAssociation := by
  refine ⟨?_, by decide⟩
  refine ⟨trivial, trivial, trivial, ⟨?_, ?_⟩, ⟨?_, ?_⟩, nofun, fun _ _ => trivial, trivial⟩
  · exact ⟨trivial, trivial, trivial⟩
  · exact ⟨trivial, trivial, trivial⟩
  · exact ⟨nofun, trivial, trivial⟩
  · exact ⟨trivial, trivial, trivial⟩

end SignalingMessage

end MediaServo.Common
