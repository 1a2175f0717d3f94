import MediaServo.Foundations.JsonText
import MediaServo.Host.Controller

/-! The gate for emergency stops: what it lets through, that a signed envelope gets through it from
the other end of the wire, and what every command is answered with. -/

namespace MediaServo.Host.Controller

open MediaServo.Common MediaServo.Foundations

section Hex

lemma digitChar_ne_plus {n : ℕ} (h : n < 16) : Nat.digitChar n ≠ '+' := by
  revert n
  decide

lemma fromStrRadix_digitChar (b : UInt8) :
    fromStrRadix (Nat.digitChar (b.toNat / 16)) (Nat.digitChar (b.toNat % 16)) = some b := by
  have hb := b.toNat_lt
  have hhigh : b.toNat / 16 < 16 := by omega
  have hlow : b.toNat % 16 < 16 := by omega
  have hsum : 16 * (b.toNat / 16) + b.toNat % 16 = b.toNat := by omega
  simp only [fromStrRadix, if_neg (digitChar_ne_plus hhigh), Digits.hexValue_digitChar hhigh,
    Digits.hexValue_digitChar hlow, Option.bind_eq_bind, Option.bind_some, Option.pure_def, hsum,
    UInt8.ofNat_toNat]

lemma fromHex_hex (bs : List UInt8) : fromHex (Digits.hex bs) = some bs := by
  simp only [fromHex, Digits.hex, String.toList_ofList]
  induction bs with
  | nil => rfl
  | cons b bs ih => simp [Digits.hexByte, hexChunks, fromStrRadix_digitChar, ih]

end Hex

variable {Bytes : Type} {serde : SerdeJson Bytes} {hmac : String → Bytes → List UInt8}

/-- What is relied on of `serde_json`. A tree with finite floats and integers of 64 bits is read from
its text up to 127 levels, with each float read again by a parser that may miss it. Texts of different
trees differ, a value has such a tree, and a tree that is read again in its place is one of a value. -/
structure ReadsBack (serde : SerdeJson Bytes) (reread : BitVec 64 → Option (BitVec 64)) : Prop where
  parse_print : ∀ t : Json, t.Proper → serde.parse (serde.print t) = t.readAs reread 127
  print_inj : ∀ t u : Json, t.Proper → u.Proper → serde.print t = serde.print u → t = u
  tree_proper : ∀ v, (serde.tree v).Proper
  tree_value : ∀ v d t, (serde.tree v).readAs reread d = some t → serde.tree (serde.value t) = t

section Wire

variable {reread : BitVec 64 → Option (BitVec 64)} {env : ControlEnvelope}

lemma enc_envelope (serde : SerdeValue) (env : ControlEnvelope) :
    (controlEnvelope serde).enc env =
      .obj ([("seq", .int env.seq), ("cmd", .str env.cmd), ("payload", serde.tree env.payload)] ++
        (env.sig.map fun sig => ("sig", .str sig)).toList) := by
  obtain ⟨seq, cmd, payload, sig⟩ := env
  cases sig <;> rfl

lemma enc_proper (hserde : ReadsBack serde reread) {e : ControlEnvelope} (hseq : e.seq < 2 ^ 64) :
    ((controlEnvelope serde.toSerdeValue).enc e).Proper := by
  have hpayload := hserde.tree_proper e.payload
  have hint : (Json.int e.seq).HasText := by
    simp only [Json.HasText]
    omega
  rw [enc_envelope]
  cases e.sig with
  | none =>
    intro l hl
    simp only [Option.map_none, Option.toList_none, List.append_nil, Json.leaves, Json.entryLeaves,
      List.cons_append, List.nil_append, List.mem_cons] at hl
    obtain rfl | rfl | hl := hl
    · exact hint
    · trivial
    · exact hpayload l hl
  | some sig =>
    intro l hl
    simp only [Option.map_some, Option.toList_some, Json.leaves, Json.entryLeaves, List.cons_append,
      List.nil_append, List.append_nil, List.mem_cons, List.mem_append, List.not_mem_nil, or_false] at hl
    obtain rfl | rfl | hl | rfl := hl
    · exact hint
    · trivial
    · exact hpayload l hl
    · trivial

lemma parseEnvelope_print (hserde : ReadsBack serde reread) {e : ControlEnvelope}
    (hseq : e.seq < 2 ^ 64) :
    parseEnvelope serde (serde.print ((controlEnvelope serde.toSerdeValue).enc e)) =
      ((serde.tree e.payload).readAs reread 126).map fun t =>
        { e with payload := serde.value t } := by
  rw [parseEnvelope, hserde.parse_print _ (enc_proper hserde hseq), enc_envelope]
  cases hread : (serde.tree e.payload).readAs reread 126 with
  | none => cases hsig : e.sig <;> simp [Json.readAs, hread]
  | some t =>
    have henc : (Json.obj ([("seq", .int e.seq), ("cmd", .str e.cmd),
        ("payload", serde.tree e.payload)] ++
          (e.sig.map fun sig => ("sig", .str sig)).toList)).readAs reread 127 =
        some ((controlEnvelope serde.toSerdeValue).enc { e with payload := serde.value t }) := by
      rw [enc_envelope, hserde.tree_value _ _ _ hread]
      cases hsig : e.sig <;> simp [Json.readAs, hread]
    rw [henc, Option.bind_some, Option.map_some]
    apply (controlEnvelope serde.toSerdeValue).sound
    refine ⟨⟨hseq, trivial, trivial, fun _ _ => trivial, trivial⟩, ?_⟩
    refine ⟨trivial, trivial, trivial, ?_, trivial⟩
    rintro _ _ hnull
    cases hnull

lemma canonical_payload (hserde : ReadsBack serde reread) {other : ControlEnvelope}
    (h : canonicalEnvelopeBytes serde env = canonicalEnvelopeBytes serde other)
    (hseq : env.seq < 2 ^ 64) (hother : other.seq < 2 ^ 64) :
    serde.tree env.payload = serde.tree other.payload := by
  have hsame := hserde.print_inj _ _ (enc_proper hserde (e := { env with sig := none }) hseq)
    (enc_proper hserde (e := { other with sig := none }) hother) h
  simp only [enc_envelope, Option.map_none, Option.toList_none, List.append_nil, Json.obj.injEq,
    List.cons.injEq, Prod.mk.injEq, true_and, and_true] at hsame
  exact hsame.2.2

end Wire

/-- Signed, written, read and verified. -/
def SignedPasses (serde : SerdeJson Bytes) (hmac : String → Bytes → List UInt8) (key : String)
    (env : ControlEnvelope) : Prop :=
  ∃ received sig,
    parseEnvelope serde (serde.print ((controlEnvelope serde.toSerdeValue).enc
      { env with sig := some (controlHmacSign serde hmac key env) })) = some received ∧
    received.sig = some sig ∧ controlHmacVerify serde hmac key received sig

lemma verify_sign {key : String} {env received : ControlEnvelope} :
    controlHmacVerify serde hmac key received (controlHmacSign serde hmac key env) ↔
      hmac key (canonicalEnvelopeBytes serde env) =
        hmac key (canonicalEnvelopeBytes serde received) := by
  simp [controlHmacVerify, controlHmacSign, fromHex_hex]

lemma signedPasses_iff {reread : BitVec 64 → Option (BitVec 64)} (hserde : ReadsBack serde reread)
    (hideal : ∀ key, Function.Injective (hmac key)) {key : String} {env : ControlEnvelope}
    (hseq : env.seq < 2 ^ 64) :
    SignedPasses serde hmac key env ↔
      (serde.tree env.payload).readAs reread 126 = some (serde.tree env.payload) := by
  have hparsed := parseEnvelope_print
    (e := { env with sig := some (controlHmacSign serde hmac key env) }) hserde hseq
  rw [SignedPasses, hparsed]
  constructor
  · rintro ⟨received, sig, hparse, hsig, hverify⟩
    obtain ⟨t, hread, rfl⟩ := Option.map_eq_some_iff.1 hparse
    cases hsig
    have hcanonical := hideal key (verify_sign.1 hverify)
    have hsame := canonical_payload hserde hcanonical hseq hseq
    rw [hread, hsame, hserde.tree_value _ _ _ hread]
  · intro hread
    rw [hread, Option.map_some, serde.value_tree]
    exact ⟨_, _, rfl, rfl, verify_sign.2 rfl⟩

def Effect.ackText? : Effect Bytes → Option Bytes
  | .ack text => some text
  | _ => none

def Effect.actuated? : Effect Bytes → Option ControlEnvelope
  | .actuate _ env => some env
  | _ => none

lemma verdict_iff {policy : CommandPolicy} {key : String} (hkey : policy.hmacKey = some key)
    (hunsigned : policy.allowUnsignedEstop = false) {env : ControlEnvelope}
    (hestop : isEstopCmd env.cmd) :
    (estopVerdict serde hmac policy env).2 ↔
      ∃ sig, env.sig = some sig ∧ fromHex sig = some (hmac key (canonicalEnvelopeBytes serde env)) := by
  simp only [estopVerdict, hestop, hkey]
  cases hsig : env.sig with
  | none => simp [hunsigned]
  | some sig =>
    cases hhex : fromHex sig with
    | none => simp [controlHmacVerify, hhex]
    | some given =>
      by_cases heq : given = hmac key (canonicalEnvelopeBytes serde env)
      · simp [controlHmacVerify, hhex, heq]
      · simp [controlHmacVerify, hhex, heq]

section Handling

variable {onCommand : String → ControlEnvelope → Except String JsonValue} {bus : Bool}
  {policy : CommandPolicy} {label : String}

lemma publishBus_acks {topic : String} {payload : Bytes} :
    (publishBus bus topic payload).filterMap Effect.ackText? = [] := by
  cases bus <;> rfl

lemma publishBus_actuated {topic : String} {payload : Bytes} :
    (publishBus bus topic payload).filterMap Effect.actuated? = [] := by
  cases bus <;> rfl

lemma actuationAudit_acks {env : ControlEnvelope} {sig : SigState} {exec : String} :
    (actuationAudit policy label env sig exec : List (Effect Bytes)).filterMap Effect.ackText? =
      [] := by
  cases hlog : policy.actuationLog <;> simp [actuationAudit, hlog, Effect.ackText?]

lemma actuationAudit_actuated {env : ControlEnvelope} {sig : SigState} {exec : String} :
    (actuationAudit policy label env sig exec : List (Effect Bytes)).filterMap Effect.actuated? =
      [] := by
  cases hlog : policy.actuationLog <;> simp [actuationAudit, hlog, Effect.actuated?]

lemma answer_seq {seq : ℕ} {r : Except String JsonValue} : (answer serde seq r).2.ack = seq := by
  cases r <;> rfl

lemma handleCommand_parsed {data : Bytes} {env : ControlEnvelope}
    (h : parseEnvelope serde data = some env) :
    (∃ a : ControlAck, a.ack = env.seq ∧
      (handleCommand serde hmac onCommand bus policy label data).filterMap Effect.ackText? =
        [serde.print ((controlAck serde.toSerdeValue).enc a)]) ∧
    (handleCommand serde hmac onCommand bus policy label data).filterMap Effect.actuated? =
      if (estopVerdict serde hmac policy env).2 then [env] else [] := by
  simp only [handleCommand, h]
  obtain ⟨sigState, allow⟩ := estopVerdict serde hmac policy env
  cases allow with
  | false =>
    refine ⟨⟨.err serde.toSerdeValue env.seq "estop_signature_rejected", rfl, ?_⟩, ?_⟩
    · simp only [List.filterMap_append, actuationAudit_acks]
      rfl
    · simp only [List.filterMap_append, actuationAudit_actuated]
      rfl
  | true =>
    refine ⟨⟨(answer serde env.seq (onCommand label env)).2, answer_seq, ?_⟩, ?_⟩
    · simp only [List.filterMap_append, actuationAudit_acks, publishBus_acks]
      rfl
    · simp only [List.filterMap_append, actuationAudit_actuated, publishBus_actuated]
      rfl

lemma handleCommand_unparsed {data : Bytes} (h : parseEnvelope serde data = none) :
    handleCommand serde hmac onCommand bus policy label data = [] := by
  simp only [handleCommand, h]

lemma routeDc_answers (messages : List Bytes) :
    (∃ acks : List ControlAck,
      acks.map ControlAck.ack = (messages.filterMap (parseEnvelope serde)).map ControlEnvelope.seq ∧
      (routeDc serde hmac onCommand bus policy label messages).filterMap Effect.ackText? =
        acks.map fun a => serde.print ((controlAck serde.toSerdeValue).enc a)) ∧
    ((routeDc serde hmac onCommand bus policy label messages).filterMap Effect.actuated?).Sublist
      (messages.filterMap (parseEnvelope serde)) := by
  induction messages with
  | nil => exact ⟨⟨[], rfl, rfl⟩, .slnil⟩
  | cons data messages ih =>
    obtain ⟨⟨acks, hseqs, htexts⟩, hsub⟩ := ih
    simp only [routeDc, List.flatMap_cons, List.filterMap_append] at htexts hsub ⊢
    cases hp : parseEnvelope serde data with
    | none =>
      rw [handleCommand_unparsed hp, List.filterMap_cons_none hp]
      exact ⟨⟨acks, hseqs, htexts⟩, hsub⟩
    | some env =>
      obtain ⟨⟨a, ha, htext⟩, hact⟩ := handleCommand_parsed hp
      rw [htext, hact, htexts, List.filterMap_cons_some hp]
      refine ⟨⟨a :: acks, by simp [ha, hseqs], rfl⟩, ?_⟩
      split_ifs
      · exact hsub.cons_cons env
      · exact hsub.cons env

end Handling

theorem estop_gate {reread : BitVec 64 → Option (BitVec 64)} (hserde : ReadsBack serde reread)
    (hideal : ∀ key, Function.Injective (hmac key)) (key : String) (policy : CommandPolicy)
    (hkey : policy.hmacKey = some key) (hunsigned : policy.allowUnsignedEstop = false)
    (onCommand : String → ControlEnvelope → Except String JsonValue) (bus : Bool) (label : String) :
    (∀ data env, parseEnvelope serde data = some env → isEstopCmd env.cmd →
      (env ∈ (handleCommand serde hmac onCommand bus policy label data).filterMap
          Effect.actuated? ↔
        ∃ sig, env.sig = some sig ∧
          fromHex sig = some (hmac key (canonicalEnvelopeBytes serde env)))) ∧
    (∀ env : ControlEnvelope, env.seq < 2 ^ 64 →
      (SignedPasses serde hmac key env ↔ (serde.tree env.payload).depth ≤ 126 ∧
        ∀ bits ∈ (serde.tree env.payload).floats, reread bits = some bits)) ∧
    (∀ data env, parseEnvelope serde data = some env →
      (∃ a : ControlAck, a.ack = env.seq ∧
        (handleCommand serde hmac onCommand bus policy label data).filterMap Effect.ackText? =
          [serde.print ((controlAck serde.toSerdeValue).enc a)]) ∧
      ((handleCommand serde hmac onCommand bus policy label data).filterMap
        Effect.actuated?).length ≤ 1) ∧
    ∀ messages : List Bytes,
      (∃ acks : List ControlAck,
        acks.map ControlAck.ack =
          (messages.filterMap (parseEnvelope serde)).map ControlEnvelope.seq ∧
        (routeDc serde hmac onCommand bus policy label messages).filterMap Effect.ackText? =
          acks.map fun a => serde.print ((controlAck serde.toSerdeValue).enc a)) ∧
      ((routeDc serde hmac onCommand bus policy label messages).filterMap
        Effect.actuated?).Sublist (messages.filterMap (parseEnvelope serde)) := by
  refine ⟨?_, ?_, ?_, routeDc_answers⟩
  · intro data env hp hestop
    rw [(handleCommand_parsed hp).2, ← verdict_iff hkey hunsigned hestop]
    split_ifs with h <;> simp [h]
  · intro env hseq
    rw [signedPasses_iff hserde hideal hseq, Json.readAs_eq_self_iff]
  · intro data env hp
    refine ⟨(handleCommand_parsed hp).1, ?_⟩
    rw [(handleCommand_parsed hp).2]
    split_ifs <;> simp

section Texts

def half : BitVec 64 := 0x3fe0000000000000
def below : BitVec 64 := 0x4034028f5c28f5c2
def above : BitVec 64 := 0x4034028f5c28f5c3

def writeFloat (bits : BitVec 64) : List Char :=
  if bits = half then "0.5".toList
  else if bits = below then "20.009999999999998".toList
  else if bits = above then "20.01".toList
  else Nat.toDigits 10 bits.toNat ++ ['e', '0']

/-- Seventeen digits are more than a float takes up exactly, and the division by a power of ten that
comes after rounds once more. -/
def readFloat (cs : List Char) : Option (BitVec 64) :=
  if cs = "0.5".toList then some half
  else if cs = "20.009999999999998".toList ∨ cs = "20.01".toList then some above
  else (Digits.value? (cs.take (cs.length - 2))).map (BitVec.ofNat 64)

lemma writeFloat_cases (bits : BitVec 64) :
    writeFloat bits = "0.5".toList ∨ writeFloat bits = "20.009999999999998".toList ∨
      writeFloat bits = "20.01".toList ∨ writeFloat bits = Nat.toDigits 10 bits.toNat ++ ['e', '0'] := by
  rw [writeFloat]
  split_ifs
  · exact .inl rfl
  · exact .inr (.inl rfl)
  · exact .inr (.inr (.inl rfl))
  · exact .inr (.inr (.inr rfl))

lemma readInt_eq_none {c : Char} {cs : List Char} (hc : c ∈ cs) (hdigit : ¬c.isDigit)
    (hminus : c ≠ '-') : Json.readInt cs = none := by
  rw [Json.readInt, Option.filter_eq_none_iff]
  intro i _ heq
  rw [← of_decide_eq_true heq] at hc
  exact Digits.not_mem_textOfInt hdigit hminus i hc

lemma writeFloat_writes : Json.Writes writeFloat where
  ne_nil bits _ := by
    rcases writeFloat_cases bits with h | h | h | h <;> simp [h]
  numeric bits _ := by
    rcases writeFloat_cases bits with h | h | h | h <;> rw [h]
    · decide
    · decide
    · decide
    · intro c hc
      rcases List.mem_append.1 hc with hc | hc
      · simp [Json.isNumeric, Nat.isDigit_of_mem_toDigits (by decide) (by decide) hc]
      · obtain rfl | rfl : c = 'e' ∨ c = '0' := by simpa using hc
        · rfl
        · rfl
  not_int bits _ := by
    rcases writeFloat_cases bits with h | h | h | h <;> rw [h]
    · exact readInt_eq_none (c := '.') (by decide) (by decide) (by decide)
    · exact readInt_eq_none (c := '.') (by decide) (by decide) (by decide)
    · exact readInt_eq_none (c := '.') (by decide) (by decide) (by decide)
    · exact readInt_eq_none (c := 'e') (by simp) (by decide) (by decide)

lemma writeFloat_dot (bits : BitVec 64) :
    '.' ∈ writeFloat bits ↔ bits = half ∨ bits = below ∨ bits = above := by
  have hraw : '.' ∉ Nat.toDigits 10 bits.toNat ++ ['e', '0'] := by
    intro h
    rcases List.mem_append.1 h with hdot | hdot
    · exact absurd (Nat.isDigit_of_mem_toDigits (by decide) (by decide) hdot) (by decide)
    · exact absurd hdot (by decide)
  rw [writeFloat]
  split_ifs with h1 h2 h3
  · exact iff_of_true (by decide) (.inl h1)
  · exact iff_of_true (by decide) (.inr (.inl h2))
  · exact iff_of_true (by decide) (.inr (.inr h3))
  · exact iff_of_false hraw (by simp [h1, h2, h3])

lemma writeFloat_injective : Function.Injective writeFloat := by
  intro a b h
  by_cases ha : '.' ∈ writeFloat a
  · have hb : '.' ∈ writeFloat b := h ▸ ha
    rcases (writeFloat_dot a).1 ha with rfl | rfl | rfl <;>
      rcases (writeFloat_dot b).1 hb with rfl | rfl | rfl <;>
      first | rfl | exact absurd h (by decide)
  · have hb : '.' ∉ writeFloat b := h ▸ ha
    rw [writeFloat_dot, not_or, not_or] at ha hb
    rw [writeFloat, if_neg ha.1, if_neg ha.2.1, if_neg ha.2.2, writeFloat, if_neg hb.1, if_neg hb.2.1,
      if_neg hb.2.2] at h
    have hdigits := congrArg Digits.value? (List.append_cancel_right h)
    rw [Digits.value?_toDigits, Digits.value?_toDigits] at hdigits
    exact BitVec.eq_of_toNat_eq (Option.some.inj hdigits)

def speed (text : String) : JsonValue := ⟨"\x7b\"v\":" ++ text ++ "\x7d"⟩

def serdeText : SerdeJson (List UInt8) where
  tree v :=
    if v = ⟨"null"⟩ then .null
    else if v = ⟨"\x7b\x7d"⟩ then .obj []
    else if v = speed "0.5" then .obj [("v", .float half)]
    else if v = speed "20.009999999999998" then .obj [("v", .float below)]
    else if v = speed "20.01" then .obj [("v", .float above)]
    else .obj [("text", .str v.text)]
  value
    | .obj [] => ⟨"\x7b\x7d"⟩
    | .obj [("v", .float bits)] =>
        if bits = half then speed "0.5"
        else if bits = below then speed "20.009999999999998"
        else speed "20.01"
    | .obj [("text", .str s)] => ⟨s⟩
    | _ => ⟨"null"⟩
  value_tree v := by
    split_ifs with h1 h2 h3 h4 h5
    · exact h1.symm
    · exact h2.symm
    · rw [h3]
      rfl
    · rw [h4]
      rfl
    · rw [h5]
      rfl
    · rfl
  print t := asBytes (String.ofList (t.text writeFloat))
  parse b := (fromUtf8 b).bind fun s => Json.parse readFloat 127 s.toList

lemma serdeText_readsBack : ReadsBack serdeText fun bits => readFloat (writeFloat bits) where
  parse_print t ht := by
    rw [← Json.parse_text readFloat writeFloat_writes ht]
    simp only [serdeText, fromUtf8_asBytes, Option.bind_some, String.toList_ofList]
  print_inj t u ht hu h := by
    apply Json.text_injective writeFloat_writes (fun a b _ _ hab => writeFloat_injective hab) ht hu
    exact String.ofList_injective (asBytes_injective h)
  tree_proper v := by
    simp only [serdeText]
    split_ifs
    all_goals
      intro l hl
      simp only [Json.leaves, Json.entryLeaves, List.append_nil, List.mem_singleton,
        List.not_mem_nil] at hl
    · subst hl
      trivial
    · subst hl
      exact (by decide : Json.finiteBits half = true)
    · subst hl
      exact (by decide : Json.finiteBits below = true)
    · subst hl
      exact (by decide : Json.finiteBits above = true)
    · subst hl
      trivial
  tree_value v d t h := by
    have hhalf : readFloat (writeFloat half) = some half := by decide
    have hbelow : readFloat (writeFloat below) = some above := by decide
    have habove : readFloat (writeFloat above) = some above := by decide
    by_cases hv : v = speed "20.009999999999998"
    · have ht : t = serdeText.tree (speed "20.01") := by
        subst hv
        cases d with
        | zero => cases h
        | succ d =>
          have htree : serdeText.tree (speed "20.009999999999998") = .obj [("v", .float below)] := rfl
          rw [htree] at h
          simp only [Json.readAs, List.mapM_cons, List.mapM_nil, hbelow, Option.map_some,
            Option.bind_eq_bind, Option.bind_some, Option.pure_def, Option.some.injEq] at h
          exact h.symm
      rw [ht, serdeText.value_tree]
    · have ht : t = serdeText.tree v := by
        simp only [serdeText] at h ⊢
        split_ifs at h ⊢ with h1 h2 h3 h4
        all_goals
          cases d with
          | zero => first | (cases h; done) | exact (Option.some.inj h).symm
          | succ d =>
            simp only [Json.readAs, List.mapM_cons, List.mapM_nil, hhalf, habove, Option.map_some,
              Option.bind_eq_bind, Option.bind_some, Option.pure_def, Option.some.injEq] at h
            exact h.symm
      rw [ht, serdeText.value_tree]

def stopText (v : String) : String :=
  "\x7b\"seq\":7,\"cmd\":\"estop\",\"payload\":\x7b\"v\":" ++ v ++ "\x7d\x7d"

def halfSig : String := "c5c6fd0fc2e0bb1f309e15eacb0e45d77259096c13c019e5cbed4bc35d427d58"
def belowSig : String := "1ff008066e4ca6a7e83ed418f412f00101ba85c2d574cfe291c0502ec1cb10e0"
def aboveSig : String := "95323d92af5eb391b47c29b1e82d2891bf1e3950cc119bf959db58551a3bdf99"

def digest (sig : String) : List UInt8 := (fromHex sig).getD []

def trueHmac (key : String) (bytes : List UInt8) : List UInt8 :=
  if key = "secret" ∧ bytes = asBytes (stopText "0.5") then digest halfSig
  else if key = "secret" ∧ bytes = asBytes (stopText "20.009999999999998") then digest belowSig
  else if key = "secret" ∧ bytes = asBytes (stopText "20.01") then digest aboveSig
  else List.replicate 33 0 ++ bytes

lemma trueHmac_injective (key : String) : Function.Injective (trueHmac key) := by
  have hlong : ∀ {sig : String} {bytes : List UInt8}, (digest sig).length = 32 →
      digest sig ≠ List.replicate 33 0 ++ bytes := by
    intro sig bytes hsig h
    have := congrArg List.length h
    rw [hsig, List.length_append, List.length_replicate] at this
    omega
  have hhalf : (digest halfSig).length = 32 := by decide
  have hbelow : (digest belowSig).length = 32 := by decide
  have habove : (digest aboveSig).length = 32 := by decide
  have h1 : digest halfSig ≠ digest belowSig := by decide
  have h2 : digest halfSig ≠ digest aboveSig := by decide
  have h3 : digest belowSig ≠ digest aboveSig := by decide
  intro x y h
  simp only [trueHmac] at h
  split_ifs at h with hx hy hy hy hx hy hy hy hx hy hy hy hy hy hy
  · rw [hx.2, hy.2]
  · exact absurd h h1
  · exact absurd h h2
  · exact absurd h (hlong hhalf)
  · exact absurd h.symm h1
  · rw [hx.2, hy.2]
  · exact absurd h h3
  · exact absurd h (hlong hbelow)
  · exact absurd h.symm h2
  · exact absurd h.symm h3
  · rw [hx.2, hy.2]
  · exact absurd h (hlong habove)
  · exact absurd h.symm (hlong hhalf)
  · exact absurd h.symm (hlong hbelow)
  · exact absurd h.symm (hlong habove)
  · exact List.append_cancel_left h

def stop (v : String) : ControlEnvelope := ⟨7, "estop", speed v, none⟩

lemma stopText_toList (v : String) : (stopText v).toList =
    '\x7b' :: (Json.quoted "seq" ++ ':' :: Digits.textOfInt 7 ++ ',' ::
      (Json.quoted "cmd" ++ ':' :: Json.quoted "estop" ++ ',' :: (Json.quoted "payload" ++ ':' ::
        ('\x7b' :: (Json.quoted "v" ++ [':']))))) ++ v.toList ++ ['\x7d', '\x7d'] := by
  have hpre : "\x7b\"seq\":7,\"cmd\":\"estop\",\"payload\":\x7b\"v\":".toList =
      '\x7b' :: (Json.quoted "seq" ++ ':' :: Digits.textOfInt 7 ++ ',' ::
        (Json.quoted "cmd" ++ ':' :: Json.quoted "estop" ++ ',' :: (Json.quoted "payload" ++ ':' ::
          ('\x7b' :: (Json.quoted "v" ++ [':']))))) := by decide
  have hpost : "\x7d\x7d".toList = ['\x7d', '\x7d'] := by decide
  unfold stopText
  simp only [String.toList_append, hpre, hpost]

lemma canonical_stop {v : String} {b : BitVec 64}
    (htree : serdeText.tree (speed v) = .obj [("v", .float b)])
    (hwrite : writeFloat b = v.toList) :
    canonicalEnvelopeBytes serdeText (stop v) = asBytes (stopText v) := by
  have htext : Json.text writeFloat (.obj [("seq", .int 7), ("cmd", .str "estop"),
      ("payload", .obj [("v", .float b)])]) = (stopText v).toList := by
    refine Eq.trans ?_ (stopText_toList v).symm
    simp only [Json.text, Json.entryTexts, Json.commas, hwrite, List.append_assoc, List.cons_append,
      List.nil_append]
  have hbytes : ∀ l : List Char, l = (stopText v).toList →
      asBytes (String.ofList l) = asBytes (stopText v) := by
    rintro l rfl
    rw [String.ofList_toList]
  rw [canonicalEnvelopeBytes, enc_envelope]
  simp only [stop, htree, Option.map_none, Option.toList_none, List.append_nil]
  exact hbytes _ htext

def strictPolicy : CommandPolicy := ⟨some "secret", false, none⟩

def performed (data : List UInt8) : List ControlEnvelope :=
  (handleCommand serdeText trueHmac (fun _ _ => .ok ⟨"null"⟩) false strictPolicy "chassis"
    data).filterMap Effect.actuated?

theorem estop_gate_signed :
    let signed := { stop "0.5" with sig := some halfSig }
    SignedPasses serdeText trueHmac "secret" (stop "0.5") ∧
      signed ∈ performed (serdeText.print ((controlEnvelope serdeText.toSerdeValue).enc signed)) := by
  intro signed
  have hcanonical := canonical_stop (v := "0.5") (b := half) rfl (by decide)
  have htree : serdeText.tree (speed "0.5") = .obj [("v", .float half)] := rfl
  have hfloat : readFloat (writeFloat half) = some half := by decide
  obtain ⟨hgate, hpasses, -, -⟩ := estop_gate serdeText_readsBack trueHmac_injective "secret"
    strictPolicy rfl rfl (fun _ _ => .ok ⟨"null"⟩) false "chassis"
  refine ⟨(hpasses (stop "0.5") (by decide)).mpr ?_, (hgate _ signed ?_ (by decide)).mpr ?_⟩
  · simp only [stop, htree]
    refine ⟨by decide, fun bits hbits => ?_⟩
    cases List.mem_singleton.1 hbits
    exact hfloat
  · have hread : (serdeText.tree signed.payload).readAs (fun bits => readFloat (writeFloat bits)) 126 =
        some (serdeText.tree signed.payload) := by
      have hpayload : signed.payload = speed "0.5" := rfl
      rw [hpayload, htree, Json.readAs_eq_self_iff]
      refine ⟨by decide, fun bits hbits => ?_⟩
      cases List.mem_singleton.1 hbits
      exact hfloat
    rw [parseEnvelope_print serdeText_readsBack (by decide), hread, Option.map_some,
      serdeText.value_tree]
  · refine ⟨halfSig, rfl, ?_⟩
    have hsame : canonicalEnvelopeBytes serdeText signed =
        canonicalEnvelopeBytes serdeText (stop "0.5") := rfl
    have hhash : trueHmac "secret" (asBytes (stopText "0.5")) = digest halfSig := if_pos ⟨rfl, rfl⟩
    rw [hsame, hcanonical, hhash]
    decide

/-- The signature is right, but the speed that is read is another float than the one signed. -/
theorem estop_float_refused :
    let signed := { stop "20.009999999999998" with sig := some belowSig }
    let received := { signed with payload := speed "20.01" }
    let data := serdeText.print ((controlEnvelope serdeText.toSerdeValue).enc signed)
    controlHmacSign serdeText trueHmac "secret" (stop "20.009999999999998") = belowSig ∧
      parseEnvelope serdeText data = some received ∧ performed data = [] ∧
      ¬∀ env : ControlEnvelope, env.seq < 2 ^ 64 → SignedPasses serdeText trueHmac "secret" env := by
  intro signed received data
  have hsigned := canonical_stop (v := "20.009999999999998") (b := below) rfl (by decide)
  have hreceived := canonical_stop (v := "20.01") (b := above) rfl (by decide)
  have hsign : controlHmacSign serdeText trueHmac "secret" (stop "20.009999999999998") = belowSig := by
    have hhash : trueHmac "secret" (asBytes (stopText "20.009999999999998")) = digest belowSig := by
      rw [trueHmac, if_neg, if_pos ⟨rfl, rfl⟩]
      rintro ⟨-, h⟩
      exact absurd (asBytes_injective h) (by decide)
    rw [controlHmacSign, hsigned, hhash]
    decide
  have hparse : parseEnvelope serdeText data = some received := by
    have hread : (serdeText.tree signed.payload).readAs (fun bits => readFloat (writeFloat bits)) 126 =
        some (serdeText.tree (speed "20.01")) := by
      have hfloat : readFloat (writeFloat below) = some above := by decide
      have htree : serdeText.tree signed.payload = .obj [("v", .float below)] := rfl
      rw [htree]
      simp only [Json.readAs, List.mapM_cons, List.mapM_nil, hfloat, Option.map_some,
        Option.bind_eq_bind, Option.bind_some, Option.pure_def]
      rfl
    rw [parseEnvelope_print serdeText_readsBack (by decide), hread, Option.map_some,
      serdeText.value_tree]
  have hrefused : ¬controlHmacVerify serdeText trueHmac "secret" received belowSig := by
    have hhash : trueHmac "secret" (canonicalEnvelopeBytes serdeText received) = digest aboveSig := by
      have hsame : canonicalEnvelopeBytes serdeText received =
          canonicalEnvelopeBytes serdeText (stop "20.01") := rfl
      rw [hsame, hreceived, trueHmac, if_neg, if_neg, if_pos ⟨rfl, rfl⟩]
      · rintro ⟨-, h⟩
        exact absurd (asBytes_injective h) (by decide)
      · rintro ⟨-, h⟩
        exact absurd (asBytes_injective h) (by decide)
    rw [controlHmacVerify, hhash]
    decide
  refine ⟨hsign, hparse, ?_, fun h => ?_⟩
  · rw [performed, (handleCommand_parsed hparse).2, if_neg]
    intro hallow
    have hkey : strictPolicy.hmacKey = some "secret" := rfl
    obtain ⟨sig, hsig, hhex⟩ := (verdict_iff hkey rfl (by decide)).1 hallow
    cases hsig
    apply hrefused
    rw [controlHmacVerify, hhex]
    exact decide_eq_true rfl
  · obtain ⟨env, sig, hread, hsig, hverify⟩ := h (stop "20.009999999999998") (by decide)
    rw [hsign] at hread
    cases Option.some.inj (hread.symm.trans hparse)
    cases hsig
    exact hrefused hverify

end Texts

end MediaServo.Host.Controller
