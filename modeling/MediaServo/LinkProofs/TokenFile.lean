import MediaServo.Link.TokenFile
import Mathlib.Tactic.Ring
import Mathlib.Data.List.Basic

/-! What a token file carries is read back as it was written, as long as both lengths fit their
two bytes. -/

namespace MediaServo.Link

open Foundations (asBytes fromUtf8 fromUtf8_asBytes asBytes_of_fromUtf8)

@[simp] lemma toLeBytes_length (n : ℕ) : (toLeBytes n).length = 2 := rfl

lemma fromLeBytes_lt (lo hi : UInt8) : fromLeBytes lo hi < 2 ^ 16 := by
  have hlo := lo.toNat_lt
  have hhi := hi.toNat_lt
  simp only [fromLeBytes]
  omega

lemma fromLeBytes_toLeBytes (n : ℕ) (h : n < 2 ^ 16) :
    fromLeBytes (UInt8.ofNat n) (UInt8.ofNat (n / 256)) = n := by
  simp only [fromLeBytes, UInt8.toNat_ofNat']
  omega

lemma toLeBytes_fromLeBytes (lo hi : UInt8) : toLeBytes (fromLeBytes lo hi) = [lo, hi] := by
  have hlo := lo.toNat_lt
  have hhi := hi.toNat_lt
  have hfst : UInt8.ofNat (fromLeBytes lo hi) = lo := by
    apply UInt8.toNat_inj.mp
    simp only [UInt8.toNat_ofNat', fromLeBytes]
    omega
  have hsnd : UInt8.ofNat (fromLeBytes lo hi / 256) = hi := by
    apply UInt8.toNat_inj.mp
    simp only [UInt8.toNat_ofNat', fromLeBytes]
    omega
  simp [toLeBytes, hfst, hsnd]

lemma asU16_of_lt {n : ℕ} (h : n < 2 ^ 16) : asU16 n = n := Nat.mod_eq_of_lt h

lemma slice_prefix (key rest : Bytes) : slice (key ++ rest) 0 key.length = some key := by
  simp [slice]

lemma slice_suffix (key rest : Bytes) :
    slice (key ++ rest) key.length (key ++ rest).length = some rest := by
  have hdrop : ((key ++ rest).take (key ++ rest).length).drop key.length = rest := by
    rw [List.take_length, List.drop_left]
  have hle : key.length ≤ (key ++ rest).length ∧ (key ++ rest).length ≤ (key ++ rest).length := by
    simp
  rw [slice, if_pos hle, hdrop]

namespace TokenFile

variable {Claims : Type} (verify : Bytes → String → Except LinkError Claims)
variable (utf8Error : Bytes → String)

lemma decodeRest_append (key raw : Bytes) (lo hi : UInt8) :
    decodeRest verify utf8Error key.length (key ++ lo :: hi :: raw) =
      some (if raw.length ≠ fromLeBytes lo hi then .error (err "truncated token")
        else decodeToken verify utf8Error key raw) := by
  have hraw : slice (lo :: hi :: raw) 2 (lo :: hi :: raw).length = some raw := by
    simp [slice]
  have hlen : ¬ (key ++ lo :: hi :: raw).length < key.length + 2 := by
    simp
  simp only [decodeRest, if_neg hlen, slice_prefix, slice_suffix, Option.bind_eq_bind,
    Option.bind_some, List.getElem?_cons_zero, List.getElem?_cons_succ, hraw]
  split <;> rfl

lemma exists_append_of_length (rest : Bytes) (n : ℕ) (h : ¬ rest.length < n + 2) :
    ∃ key lo hi raw, key.length = n ∧ rest = key ++ lo :: hi :: raw := by
  obtain ⟨lo, hi, raw, hraw⟩ : ∃ lo hi raw, rest.drop n = lo :: hi :: raw := by
    have hlen : (rest.drop n).length = rest.length - n := List.length_drop
    match hd : rest.drop n with
    | [] => rw [hd] at hlen; simp at hlen; omega
    | [_] => rw [hd] at hlen; simp at hlen; omega
    | lo :: hi :: raw => exact ⟨lo, hi, raw, rfl⟩
  refine ⟨rest.take n, lo, hi, raw, by simp; omega, ?_⟩
  rw [← hraw, List.take_append_drop]

lemma decode_cons (m : Bytes) (hm : m.length = 4) (v lo hi : UInt8) (rest : Bytes)
    (hrest : 2 ≤ rest.length) :
    decode verify utf8Error (m ++ v :: lo :: hi :: rest) =
      if m ≠ MAGIC then some (.error (err "bad magic or too short"))
      else if v ≠ VERSION then some (.error (err ("unsupported version " ++ toString v)))
      else decodeRest verify utf8Error (fromLeBytes lo hi) rest := by
  match m, hm with
  | [a, b, c, d], _ =>
    have hlen : ¬ rest.length + 7 < 9 := by omega
    simp [decode, slice, hlen]

structure Laid (b key raw : Bytes) : Prop where
  keyLt : key.length < 2 ^ 16
  rawLt : raw.length < 2 ^ 16
  eq : b = MAGIC ++ VERSION :: (toLeBytes key.length ++ key ++ toLeBytes raw.length ++ raw)

lemma decode_cases (b : Bytes) :
    (∃ e, decode verify utf8Error b = some (.error e)) ∨
      ∃ key raw, Laid b key raw ∧
        decode verify utf8Error b = some (decodeToken verify utf8Error key raw) := by
  by_cases hlen : b.length < 9
  · exact .inl ⟨_, if_pos hlen⟩
  obtain ⟨m, v, lo, tail, hm, rfl⟩ := exists_append_of_length b 4 (by omega)
  obtain ⟨hi, rest, rfl⟩ : ∃ hi rest, tail = hi :: rest := by
    cases tail with
    | nil => simp [hm] at hlen
    | cons hi rest => exact ⟨hi, rest, rfl⟩
  have hrest : 2 ≤ rest.length := by
    simp [hm] at hlen
    omega
  simp only [decode_cons verify utf8Error m hm v lo hi rest hrest]
  by_cases hmagic : m ≠ MAGIC
  · exact .inl ⟨_, if_pos hmagic⟩
  by_cases hversion : v ≠ VERSION
  · exact .inl ⟨_, by rw [if_neg hmagic, if_pos hversion]⟩
  simp only [if_neg hmagic, if_neg hversion]
  by_cases hkey : rest.length < fromLeBytes lo hi + 2
  · exact .inl ⟨_, if_pos hkey⟩
  obtain ⟨key, l, h, raw, hk, rfl⟩ := exists_append_of_length rest _ hkey
  simp only [← hk, decodeRest_append]
  by_cases hraw : raw.length ≠ fromLeBytes l h
  · exact .inl ⟨_, by rw [if_pos hraw]⟩
  · refine .inr ⟨key, raw, ⟨?_, ?_, ?_⟩, by rw [if_neg hraw]⟩
    · simpa only [hk] using fromLeBytes_lt lo hi
    · simpa only [not_not.mp hraw] using fromLeBytes_lt l h
    · rw [hk, not_not.mp hraw, toLeBytes_fromLeBytes, toLeBytes_fromLeBytes, not_not.mp hmagic,
        not_not.mp hversion]
      simp

lemma decode_total (b : Bytes) : decode verify utf8Error b ≠ none := by
  obtain ⟨e, he⟩ | ⟨key, raw, -, hd⟩ := decode_cases verify utf8Error b
  · simp [he]
  · simp [hd]

lemma decodeToken_ok {key raw : Bytes} {r : Bytes × String}
    (h : decodeToken verify utf8Error key raw = .ok r) :
    r.1 = key ∧ asBytes r.2 = raw := by
  simp only [decodeToken] at h
  split at h
  · cases h
  · rename_i token htoken
    split at h
    · cases h
    · cases h
      exact ⟨rfl, asBytes_of_fromUtf8 htoken⟩

lemma decode_ok {b key : Bytes} {token : String}
    (h : decode verify utf8Error b = some (.ok (key, token))) :
    key.length < 2 ^ 16 ∧ (asBytes token).length < 2 ^ 16 ∧ encode token key = b := by
  obtain ⟨e, he⟩ | ⟨key', raw, hlaid, hd⟩ := decode_cases verify utf8Error b
  · simp [he] at h
  · rw [hd, Option.some.injEq] at h
    obtain ⟨rfl, rfl⟩ := decodeToken_ok verify utf8Error h
    refine ⟨hlaid.keyLt, hlaid.rawLt, ?_⟩
    rw [hlaid.eq, encode, asU16_of_lt hlaid.keyLt, asU16_of_lt hlaid.rawLt]
    simp

lemma decode_encode {key : Bytes} {token : String} (hkey : key.length < 2 ^ 16)
    (htoken : (asBytes token).length < 2 ^ 16) :
    decode verify utf8Error (encode token key) =
      some (decodeToken verify utf8Error key (asBytes token)) := by
  have heq : encode token key = MAGIC ++ VERSION :: UInt8.ofNat key.length ::
      UInt8.ofNat (key.length / 256) :: (key ++ UInt8.ofNat (asBytes token).length ::
        UInt8.ofNat ((asBytes token).length / 256) :: asBytes token) := by
    simp [encode, toLeBytes, asU16_of_lt hkey, asU16_of_lt htoken]
  have hraw : ¬ (asBytes token).length ≠ fromLeBytes (UInt8.ofNat (asBytes token).length)
      (UInt8.ofNat ((asBytes token).length / 256)) := by
    simp only [fromLeBytes_toLeBytes _ htoken, ne_eq, not_true_eq_false, not_false_eq_true]
  rw [heq, decode_cons verify utf8Error MAGIC rfl _ _ _ _ (by simp; omega), if_neg (not_not.mpr rfl),
    if_neg (not_not.mpr rfl), fromLeBytes_toLeBytes _ hkey, decodeRest_append, if_neg hraw]

lemma decodeToken_asBytes {key : Bytes} {token : String} {claims : Claims}
    (h : verify key token = .ok claims) :
    decodeToken verify utf8Error key (asBytes token) = .ok (key, token) := by
  simp [decodeToken, fromUtf8_asBytes, h]

lemma decode_encode_iff {key : Bytes} {token : String} {claims : Claims}
    (h : verify key token = .ok claims) :
    decode verify utf8Error (encode token key) = some (.ok (key, token)) ↔
      key.length < 2 ^ 16 ∧ (asBytes token).length < 2 ^ 16 := by
  refine ⟨?_, ?_⟩
  · intro hd
    obtain ⟨hkey, htoken, -⟩ := decode_ok verify utf8Error hd
    exact ⟨hkey, htoken⟩
  · intro ⟨hkey, htoken⟩
    rw [decode_encode verify utf8Error hkey htoken, decodeToken_asBytes verify utf8Error h]

section Device

def devicePem : Bytes := asBytes "-----BEGIN PUBLIC KEY-----\nMCowBQYDK2Vw\n-----END PUBLIC KEY-----\n"

def verifyOne (signed : String) (key : Bytes) (token : String) : Except LinkError Unit :=
  if key = devicePem ∧ token = signed then .ok () else .error (.token "InvalidSignature")

lemma verifyOne_self (signed : String) : verifyOne signed devicePem signed = .ok () := by
  simp [verifyOne]

def jwt (payload : List Char) : String :=
  "eyJhbGciOiJFZERTQSJ9." ++ String.ofList payload ++ ".c2ln"

def longToken : String := jwt (List.replicate 65536 'Z')

end Device

theorem token_file_round_trip :
    (∀ key token claims, verify key token = .ok claims →
      (decode verify utf8Error (encode token key) = some (.ok (key, token)) ↔
        key.length < 2 ^ 16 ∧ (asBytes token).length < 2 ^ 16)) ∧
    ∀ b, decode verify utf8Error b ≠ none ∧
      ∀ key token, decode verify utf8Error b = some (.ok (key, token)) → encode token key = b := by
  refine ⟨?_, ?_⟩
  · intro key token claims h
    exact decode_encode_iff verify utf8Error h
  · intro b
    refine ⟨decode_total verify utf8Error b, ?_⟩
    intro key token h
    exact (decode_ok verify utf8Error h).2.2

theorem token_file_round_trip_short :
    decode (verifyOne (jwt ['Z'])) (fun _ => "") (encode (jwt ['Z']) devicePem) =
      some (.ok (devicePem, jwt ['Z'])) := by
  have h := (token_file_round_trip (verifyOne (jwt ['Z'])) (fun _ => "")).1 devicePem (jwt ['Z']) ()
    (verifyOne_self _)
  exact h.mpr ⟨by decide, by decide⟩

lemma length_le_utf8ByteSize (l : List Char) : l.length ≤ (String.ofList l).utf8ByteSize := by
  induction l with
  | nil => simp
  | cons c l ih =>
    have hpos := c.utf8Size_pos
    rw [String.ofList_cons, String.utf8ByteSize_append, String.utf8ByteSize_singleton]
    simp only [List.length_cons]
    omega

lemma utf8ByteSize_le_append (before s after : String) :
    s.utf8ByteSize ≤ (asBytes (before ++ s ++ after)).length := by
  have hsize : (asBytes (before ++ s ++ after)).length = (before ++ s ++ after).utf8ByteSize := rfl
  rw [hsize, String.utf8ByteSize_append, String.utf8ByteSize_append]
  omega

lemma length_le_jwt (payload : List Char) : payload.length ≤ (asBytes (jwt payload)).length :=
  (length_le_utf8ByteSize payload).trans (utf8ByteSize_le_append _ _ _)

lemma longToken_length : 2 ^ 16 ≤ (asBytes longToken).length := by
  have h := length_le_jwt (List.replicate 65536 'Z')
  rwa [List.length_replicate] at h

theorem long_token_not_read_back :
    ∃ verify : Bytes → String → Except LinkError Unit, ∃ key token, verify key token = .ok () ∧
      decode verify (fun _ => "") (encode token key) ≠ some (.ok (key, token)) := by
  refine ⟨verifyOne longToken, devicePem, longToken, verifyOne_self longToken, ?_⟩
  intro h
  have htoken := (decode_ok _ _ h).2.1
  exact absurd longToken_length (Nat.not_le.mpr htoken)

end TokenFile

end MediaServo.Link
