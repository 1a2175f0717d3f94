import MediaServo.Client.Codecs
import MediaServo.Foundations.Lines

/-! What of a negotiated format line reaches a consumer. -/

namespace MediaServo.Client.Codecs

open MediaServo.Foundations
open MediaServo.Foundations.Digits

variable {pr : Printer} {line : String} {fs : Json.Fields} {i j : Text × Text} {k : String} {v : Json}

def items (line : String) : List (Text × Text) :=
  (line.toList.splitOn ';').filterMap (Lines.splitOnce '=')

def itemsOf : Option String → List (Text × Text)
  | some line => items line
  | none => []

def canonical (v : Text) : Text :=
  match readI64 v with
  | some n => textOfInt n
  | none => v

def normal (i : Text × Text) : Text × Text := (trim i.1, canonical i.2)

def entry (i : Text × Text) : String × Json := (.ofList (trim i.1), fmtpValue i.2)

lemma mem_insert (h : k ∉ fs.map Prod.fst) (e : String × Json) :
    e ∈ insert k v fs ↔ e = (k, v) ∨ e ∈ fs := by
  induction fs with
  | nil => simp [insert]
  | cons f fs ih =>
    obtain ⟨hf, hfs⟩ : k ≠ f.1 ∧ k ∉ fs.map Prod.fst := by
      simpa only [List.map_cons, List.mem_cons, not_or] using h
    rw [insert, if_neg hf]
    split
    · simp
    · rw [List.mem_cons, ih hfs, List.mem_cons]
      tauto

lemma mem_foldl_insert {l : List (Text × Text)} (hkeys : (l.map fun i => (entry i).1).Nodup)
    (hfresh : ∀ i ∈ l, (entry i).1 ∉ fs.map Prod.fst) (e : String × Json) :
    e ∈ l.foldl (fun map i => insert (entry i).1 (entry i).2 map) fs ↔
      e ∈ fs ∨ ∃ i ∈ l, e = entry i := by
  induction l generalizing fs with
  | nil => simp
  | cons i l ih =>
    obtain ⟨hi, hl⟩ := List.nodup_cons.mp hkeys
    have hins := mem_insert (v := (entry i).2) (hfresh i (by simp))
    rw [List.foldl_cons, ih hl, hins]
    · simp
      tauto
    · intro j hj hmem
      obtain ⟨e, he, hek⟩ := List.mem_map.mp hmem
      obtain rfl | he := (hins e).mp he
      · exact hi (List.mem_map.mpr ⟨j, hj, hek.symm⟩)
      · exact hfresh j (by simp [hj]) (List.mem_map.mpr ⟨e, he, hek⟩)

lemma mem_fmtpParameters (hkeys : ((items line).map fun i => trim i.1).Nodup) (e : String × Json) :
    e ∈ fmtpParameters line ↔ ∃ i ∈ items line, e = entry i := by
  have hfold : fmtpParameters line =
      (items line).foldl (fun map i => insert (entry i).1 (entry i).2 map) [] := by
    rw [items, List.foldl_filterMap, fmtpParameters]
    congr 1
    funext map kv
    cases Lines.splitOnce '=' kv <;> rfl
  have hdistinct : ((items line).map fun i => (entry i).1).Nodup := by
    have hmap : ((items line).map fun i => (entry i).1) =
        ((items line).map fun i => trim i.1).map String.ofList := by
      simp [entry]
    rw [hmap]
    exact hkeys.map fun _ _ h => String.ofList_injective h
  rw [hfold, mem_foldl_insert hdistinct (by simp)]
  simp

lemma fmtpPair_entry (pr : Printer) (i : Text × Text) :
    fmtpPair pr (entry i) = (normal i).1 ++ '=' :: (normal i).2 := by
  simp only [entry, fmtpValue, normal, canonical]
  cases readI64 i.2 <;> simp [fmtpPair, pr.print_int]

lemma items_clean (h : i ∈ items line) : ';' ∉ i.1 ∧ ';' ∉ i.2 ∧ '=' ∉ i.1 := by
  obtain ⟨t, ht, hi⟩ := List.mem_filterMap.mp h
  obtain ⟨rfl, hk⟩ := Lines.splitOnce_eq (a := i.1) (b := i.2) hi
  have hsep : ';' ∉ i.1 ++ '=' :: i.2 := by
    intro hc
    simpa using Words.mem_splitOnP (p := (· == ';')) ht ';' hc
  simp only [List.mem_append, List.mem_cons, not_or] at hsep
  exact ⟨hsep.1, hsep.2.2, hk⟩

lemma not_mem_canonical {v : Text} (h : ';' ∉ v) : ';' ∉ canonical v := by
  rw [canonical]
  split
  · exact not_mem_textOfInt (by decide) (by decide) _
  · exact h

lemma canonical_canonical (v : Text) : canonical (canonical v) = canonical v := by
  cases h : readI64 v with
  | none => simp [canonical, h]
  | some n => simp [canonical, h, readI64_textOfInt h]

lemma normal_normal (i : Text × Text) : normal (normal i) = normal i := by
  simp only [normal, trim, Lines.trim_trim, canonical_canonical]

lemma splitOnce_fmtpPair (h : i ∈ items line) :
    Lines.splitOnce '=' (fmtpPair pr (entry i)) = some (normal i) := by
  have heq : '=' ∉ (normal i).1 := fun hc => (items_clean h).2.2 (Lines.mem_of_mem_trim hc)
  rw [fmtpPair_entry, Lines.splitOnce_append heq]

lemma mem_itemsOf_fmtpOf (pr : Printer) (hkeys : ((items line).map fun i => trim i.1).Nodup) :
    i ∈ itemsOf (fmtpOf pr (.obj (fmtpParameters line))) ↔ ∃ j ∈ items line, i = normal j := by
  have hmem := mem_fmtpParameters hkeys
  cases hfs : fmtpParameters line with
  | nil =>
    have hnone : items line = [] := by
      rw [List.eq_nil_iff_forall_not_mem]
      intro j hj
      have := (hmem (entry j)).mpr ⟨j, hj, rfl⟩
      simp [hfs] at this
    simp [fmtpOf, itemsOf, hnone]
  | cons f fs =>
    have hclean : ∀ t ∈ (f :: fs).map (fmtpPair pr), ';' ∉ t := by
      intro t ht
      obtain ⟨e, he, rfl⟩ := List.mem_map.mp ht
      obtain ⟨j, hj, rfl⟩ := (hmem e).mp (hfs ▸ he)
      obtain ⟨hk, hv, -⟩ := items_clean hj
      rw [fmtpPair_entry]
      simp only [List.mem_append, List.mem_cons, not_or]
      exact ⟨fun hc => hk (Lines.mem_of_mem_trim hc), by decide, not_mem_canonical hv⟩
    have hsplit : items (.ofList ([';'].intercalate ((f :: fs).map (fmtpPair pr)))) =
        ((f :: fs).map (fmtpPair pr)).filterMap (Lines.splitOnce '=') := by
      rw [items, String.toList_ofList, List.splitOn_intercalate _ hclean (by simp)]
    have hfmtp : itemsOf (fmtpOf pr (.obj (f :: fs))) =
        items (.ofList ([';'].intercalate ((f :: fs).map (fmtpPair pr)))) := rfl
    rw [hfmtp, hsplit, List.filterMap_map, List.mem_filterMap, ← hfs]
    constructor
    · rintro ⟨e, he, hi⟩
      obtain ⟨j, hj, rfl⟩ := (hmem e).mp he
      rw [Function.comp_apply, splitOnce_fmtpPair hj] at hi
      exact ⟨j, hj, (Option.some.inj hi).symm⟩
    · rintro ⟨j, hj, rfl⟩
      exact ⟨entry j, (hmem _).mpr ⟨j, hj, rfl⟩, splitOnce_fmtpPair hj⟩

lemma notRtx_produceCodec (c : RTCRtpCodecParameters) :
    notRtx (produceCodec c) = !isRtx c.mimeType := by
  simp [notRtx, produceCodec, get, Json.asStr]

variable (pr) in
lemma codecFromConsumer_build {params : RTCRtpParameters} {c : RTCRtpCodecParameters}
    (hc : params.codecs.find? (fun c => !isRtx c.mimeType) = some c) :
    ∃ name, codecFromConsumer pr (buildProduceRtpParametersFromRtp params) =
      some (c.payloadType.toNat, name, c.clockRate.toNat,
        fmtpOf pr (.obj ((c.sdpFmtpLine.map fmtpParameters).getD []))) := by
  have hfind : (params.codecs.map produceCodec).find? notRtx = some (produceCodec c) := by
    have hcomp : notRtx ∘ produceCodec = fun c => !isRtx c.mimeType := funext notRtx_produceCodec
    rw [List.find?_map, hcomp, hc]
    rfl
  obtain ⟨name, hname⟩ : ∃ name, (c.mimeType.toList.splitOn '/').getLast? = some name :=
    ⟨_, List.getLast?_eq_some_getLast (List.splitOn_ne_nil _ _)⟩
  have hpt := c.payloadType.toNat_lt
  have hclock := c.clockRate.toNat_lt
  have hcodecs : (get "codecs" (buildProduceRtpParametersFromRtp params)).bind asArray =
      some (params.codecs.map produceCodec) := by
    simp [get, buildProduceRtpParametersFromRtp, asArray]
  have hptRead : (get "payloadType" (produceCodec c)).bind (Json.asNat (2 ^ 64)) =
      some c.payloadType.toNat := by
    have hget : get "payloadType" (produceCodec c) = some (.nat c.payloadType.toNat) := by
      simp [get, produceCodec]
    rw [hget, Option.bind_some, Json.asNat_nat (by omega)]
  have hmime : (get "mimeType" (produceCodec c)).bind Json.asStr = some c.mimeType := by
    simp [get, produceCodec, Json.asStr]
  have hclockRead : (get "clockRate" (produceCodec c)).bind (Json.asNat (2 ^ 64)) =
      some c.clockRate.toNat := by
    have hget : get "clockRate" (produceCodec c) = some (.nat c.clockRate.toNat) := by
      simp [get, produceCodec]
    rw [hget, Option.bind_some, Json.asNat_nat (by omega)]
  have hparams : get "parameters" (produceCodec c) =
      some (.obj ((c.sdpFmtpLine.map fmtpParameters).getD [])) := by
    simp [get, produceCodec]
  refine ⟨.ofList name, ?_⟩
  rw [codecFromConsumer, hcodecs]
  simp only [Option.bind_eq_bind]
  rw [Option.bind_some, hfind, Option.bind_some, hptRead, Option.bind_some, hmime,
    Option.bind_some, hname, Option.bind_some, hclockRead, Option.bind_some, hparams,
    Option.bind_some, Option.pure_def, Nat.mod_eq_of_lt (by omega), Nat.mod_eq_of_lt (by omega)]

/-- A consumer is told the items of the line in their normal form, and so the same items exactly
when each is in normal form. -/
theorem codec_items_normal (pr : Printer) (params : RTCRtpParameters) (c : RTCRtpCodecParameters)
    (line : String) (hc : params.codecs.find? (fun c => !isRtx c.mimeType) = some c)
    (hline : c.sdpFmtpLine = some line) (hkeys : ((items line).map fun i => trim i.1).Nodup) :
    ∃ name fmtp, codecFromConsumer pr (buildProduceRtpParametersFromRtp params) =
        some (c.payloadType.toNat, name, c.clockRate.toNat, fmtp) ∧
      (∀ i, i ∈ itemsOf fmtp ↔ ∃ j ∈ items line, i = normal j) ∧
      ((∀ i, i ∈ itemsOf fmtp ↔ i ∈ items line) ↔ ∀ i ∈ items line, normal i = i) := by
  obtain ⟨name, hname⟩ := codecFromConsumer_build pr hc
  have hmem : ∀ i, i ∈ itemsOf (fmtpOf pr (.obj (fmtpParameters line))) ↔
      ∃ j ∈ items line, i = normal j := fun i => mem_itemsOf_fmtpOf pr hkeys
  rw [hline] at hname
  refine ⟨name, _, hname, hmem, ?_⟩
  constructor
  · intro hsame i hi
    obtain ⟨j, -, rfl⟩ := (hmem i).mp ((hsame i).mpr hi)
    exact normal_normal j
  · intro hnormal i
    refine (hmem i).trans ⟨?_, fun hi => ⟨i, hi, (hnormal i hi).symm⟩⟩
    rintro ⟨j, hj, rfl⟩
    rwa [hnormal j hj]

def h264 (line : String) : RTCRtpCodecParameters := ⟨"video/H264", 101, 90000, some line⟩

def h264Params (line : String) : RTCRtpParameters := ⟨[h264 line], [], [], false⟩

def plainPrinter : Printer where
  print
    | .int n => textOfInt n
    | .bool true => "true".toList
    | .bool false => "false".toList
    | _ => "null".toList
  print_int _ := rfl

theorem codec_items_normal_h264 :
    ∃ name fmtp, codecFromConsumer plainPrinter
        (buildProduceRtpParametersFromRtp (h264Params "profile-level-id=42e01f;packetization-mode=1")) =
        some (101, name, 90000, fmtp) ∧
      (∀ i, i ∈ itemsOf fmtp ↔
        ∃ j ∈ items "profile-level-id=42e01f;packetization-mode=1", i = normal j) ∧
      ((∀ i, i ∈ itemsOf fmtp ↔ i ∈ items "profile-level-id=42e01f;packetization-mode=1") ↔
        ∀ i ∈ items "profile-level-id=42e01f;packetization-mode=1", normal i = i) :=
  codec_items_normal plainPrinter (h264Params "profile-level-id=42e01f;packetization-mode=1")
    (h264 "profile-level-id=42e01f;packetization-mode=1") _ rfl rfl (by decide)

/-- A leading zero is lost. -/
theorem codec_leading_zero_lost : ∃ name, codecFromConsumer plainPrinter
      (buildProduceRtpParametersFromRtp (h264Params "profile-level-id=042001")) =
      some (101, name, 90000, some "profile-level-id=42001") ∧
    ((items "profile-level-id=042001").map fun i => trim i.1).Nodup ∧
    ¬ ∀ i, i ∈ itemsOf (some "profile-level-id=42001") ↔ i ∈ items "profile-level-id=042001" := by
  refine ⟨"H264", rfl, by decide, ?_⟩
  intro h
  have hin : ("profile-level-id".toList, "042001".toList) ∈ items "profile-level-id=042001" := by
    decide
  exact absurd ((h _).mpr hin) (by decide)

end MediaServo.Client.Codecs
