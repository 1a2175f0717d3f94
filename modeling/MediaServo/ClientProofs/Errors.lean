import MediaServo.Client.Errors

/-! Which failures of a connect the client classifies as the server meant them. -/

namespace MediaServo.Client.Errors

open MediaServo.Foundations
open MediaServo.Foundations.Digits

variable {code : UInt16} {a t message : Text}

def HoldsCode (t : Text) : Prop :=
  ∃ a b c n, t = a ++ '[' :: (b ++ ']' :: c) ∧ '[' ∉ a ∧ ']' ∉ b ∧ readUnsigned (2 ^ 16) b = some n

/-- A refusal gives the verdicts of its code, and any other failure has no code. -/
def RightlyClassified : ConnectFailure → Prop
  | .refused r code message =>
    (classifyLinkError (r.error code message)).wireCode = (fromWireError code message).wireCode ∧
      (classifyLinkError (r.error code message)).isRetryable =
        (fromWireError code message).isRetryable
  | f => (classifyLinkError f.error).wireCode = none

/-- The codes and texts that the classification is right for. -/
def Clear : ConnectFailure → Prop
  | .refused _ code _ => isTerminal code ∨ 5000 ≤ code
  | f => ¬ HoldsCode f.detail

lemma extractWireCode_append (h : '[' ∉ a) (t : Text) :
    extractWireCode (a ++ t) = extractWireCode t := by
  have hall : ∀ c ∈ a, (c != '[') = true := by
    intro c hc
    simpa using ne_of_mem_of_not_mem hc h
  have hsplit : Lines.splitOnce '[' (a ++ t) =
      (Lines.splitOnce '[' t).map fun p => (a ++ p.1, p.2) := by
    simp only [Lines.splitOnce, List.dropWhile_append_of_pos hall, List.takeWhile_append_of_pos hall]
    cases t.dropWhile (· != '[') <;> rfl
  rw [extractWireCode, extractWireCode, hsplit]
  cases Lines.splitOnce '[' t <;> rfl

lemma extractWireCode_bracket {b : Text} (h : ']' ∉ b) (c : Text) :
    extractWireCode ('[' :: (b ++ ']' :: c)) = (readUnsigned (2 ^ 16) b).map UInt16.ofNat := by
  have hopen : Lines.splitOnce '[' ('[' :: (b ++ ']' :: c)) = some ([], b ++ ']' :: c) :=
    Lines.splitOnce_append (a := []) (by simp) _
  simp only [extractWireCode, hopen, Option.bind_eq_bind, Option.bind_some, Lines.splitOnce_append h]

lemma extractWireCode_eq_none_iff : extractWireCode t = none ↔ ¬ HoldsCode t := by
  constructor
  · rintro h ⟨a, b, c, n, rfl, ha, hb, hn⟩
    rw [extractWireCode_append ha, extractWireCode_bracket hb, hn] at h
    cases h
  · intro h
    by_contra hne
    obtain ⟨code, hcode⟩ := Option.ne_none_iff_exists'.mp hne
    simp only [extractWireCode, Option.bind_eq_bind, Option.bind_eq_some_iff, Option.map_eq_some_iff]
      at hcode
    obtain ⟨⟨a, rest⟩, hopen, ⟨b, c⟩, hclose, n, hn, -⟩ := hcode
    obtain ⟨rfl, ha⟩ := Lines.splitOnce_eq hopen
    obtain ⟨rfl, hb⟩ := Lines.splitOnce_eq hclose
    exact h ⟨a, b, c, n, rfl, ha, hb, hn⟩

lemma wireCode_fromWireError (code : UInt16) (message : Text) :
    (fromWireError code message).wireCode = some code.toUInt32 := by
  rw [fromWireError]
  split_ifs with h₁ h₂
  · rw [h₁]
    rfl
  · rw [h₂]
    rfl
  · rfl
  · rfl

lemma isRetryable_fromWireError (code : UInt16) (message : Text) :
    (fromWireError code message).isRetryable = (!isTerminal code && decide (5000 ≤ code)) := by
  rw [fromWireError]
  split_ifs with h₁ h₂ h₃
  · simp [ClientError.isRetryable, isTerminal, h₁]
  · simp [ClientError.isRetryable, isTerminal, h₂]
  · simp only [ClientError.isRetryable, isTerminal]
    rcases h₃ with rfl | rfl | rfl | rfl <;> rfl
  · simp only [not_or] at h₃
    simp [ClientError.isRetryable, isTerminal, h₁, h₂, h₃]

def signalWords : Text := "signal error: ".toList

def closingWords : Text := "]: ".toList

lemma display_signal (message : Text) : (LinkError.signal message).display = signalWords ++ message :=
  rfl

lemma error_refused (r : Refusal) (code : UInt16) (message : Text) : r.error code message =
    .signal (r.words ++ Nat.toDigits 10 code.toNat ++ closingWords ++ message) := rfl

lemma signal_clear : '[' ∉ signalWords := by
  have h : signalWords.contains '[' = false := rfl
  simpa using h

lemma extractWireCode_refused (r : Refusal) (code : UInt16) (message : Text) :
    extractWireCode (r.error code message).display = some code := by
  have hdigits : ']' ∉ Nat.toDigits 10 code.toNat := fun h =>
    absurd (Nat.isDigit_of_mem_toDigits (by decide) (by decide) h) (by decide)
  have hlt := code.toNat_lt
  obtain ⟨words, hwords, hclear⟩ : ∃ words : Text, r.words = words ++ ['['] ∧
      words.contains '[' = false := by
    cases r with
    | auth => exact ⟨"auth denied ".toList, rfl, rfl⟩
    | join => exact ⟨"room join failed ".toList, rfl, rfl⟩
  have hbefore : '[' ∉ signalWords ++ words := by
    simp only [List.mem_append, not_or]
    exact ⟨signal_clear, by simpa using hclear⟩
  obtain ⟨after, hafter⟩ : ∃ after, closingWords = ']' :: after := ⟨[':', ' '], rfl⟩
  have hdisplay : (r.error code message).display = (signalWords ++ words) ++
      '[' :: (Nat.toDigits 10 code.toNat ++ ']' :: (after ++ message)) := by
    rw [error_refused, display_signal, hwords, hafter]
    simp only [List.append_assoc, List.cons_append, List.nil_append]
  rw [hdisplay, extractWireCode_append hbefore, extractWireCode_bracket hdigits,
    readUnsigned_toDigits (by omega)]
  simp

lemma refused_rightly_iff (r : Refusal) (code : UInt16) (message : Text) :
    RightlyClassified (.refused r code message) ↔ (isTerminal code ∨ 5000 ≤ code) := by
  have hcode := extractWireCode_refused r code message
  simp only [RightlyClassified, classifyLinkError, hcode, wireCode_fromWireError,
    isRetryable_fromWireError]
  cases ht : isTerminal code with
  | true => simp [wireCode_fromWireError, isRetryable_fromWireError, ht]
  | false => simp [ClientError.wireCode, ClientError.isRetryable, hcode, ht]

lemma wireCode_classify_eq_none_iff (err : LinkError) :
    (classifyLinkError err).wireCode = none ↔ extractWireCode err.display = none := by
  cases h : extractWireCode err.display with
  | none => simp [classifyLinkError, ClientError.wireCode, h]
  | some code =>
    have hsome : (classifyLinkError err).wireCode = some code.toUInt32 := by
      simp only [classifyLinkError, h]
      split_ifs
      · exact wireCode_fromWireError code _
      · simp [ClientError.wireCode, h]
    simp [hsome]

lemma head_clear (f : ConnectFailure) (hf : ∀ r code message, f ≠ .refused r code message) :
    '[' ∉ f.head := by
  have h : f.head.contains '[' = false := by
    cases f with
    | refused r code message => exact absurd rfl (hf r code message)
    | caused p cause => cases p <;> rfl
    | bare b => cases b <;> rfl
    | _ => rfl
  simpa using h

lemma extractWireCode_codeless (f : ConnectFailure)
    (hf : ∀ r code message, f ≠ .refused r code message) :
    extractWireCode f.error.display = extractWireCode f.detail := by
  have hbefore : '[' ∉ signalWords ++ f.head := by
    simp only [List.mem_append, not_or]
    exact ⟨signal_clear, head_clear f hf⟩
  have hsignal : (∃ id, f = .enrollPending id) ∨ f.error = .signal (f.head ++ f.detail) := by
    cases f with
    | enrollPending id => exact .inl ⟨id, rfl⟩
    | _ => exact .inr rfl
  obtain ⟨id, rfl⟩ | herror := hsignal
  · have hpending : '[' ∉ "device enroll pending: ".toList := by simp
    exact extractWireCode_append hpending id
  · have hdisplay : f.error.display = (signalWords ++ f.head) ++ f.detail := by
      rw [herror, display_signal, List.append_assoc]
    rw [hdisplay, extractWireCode_append hbefore]

/-- The classification is right exactly for refusals with a code of the terminal family or from
5000 on, and for other failures whose text holds no number in its first brackets. -/
theorem classification_right_iff (f : ConnectFailure) : RightlyClassified f ↔ Clear f := by
  have hcodeless : (∀ r code message, f ≠ .refused r code message) →
      ((classifyLinkError f.error).wireCode = none ↔ ¬ HoldsCode f.detail) := by
    intro hf
    rw [wireCode_classify_eq_none_iff, extractWireCode_codeless f hf, extractWireCode_eq_none_iff]
  cases f with
  | refused r code message => exact refused_rightly_iff r code message
  | _ => exact hcodeless (by simp)

/-- A refusal of room 4031 is retried, which the typed error forbids; and a number in brackets in
the path of a URL is read as a code. -/
theorem classification_wrong :
    ¬ RightlyClassified (.refused .join 4031 "denied".toList) ∧
      ¬ RightlyClassified (.connect "ws://host/[4010]".toList "refused".toList) := by
  refine ⟨?_, ?_⟩
  · rw [refused_rightly_iff]
    decide
  · intro h
    have hnone := (wireCode_classify_eq_none_iff _).mp h
    rw [extractWireCode_codeless _ (by simp), extractWireCode_eq_none_iff] at hnone
    exact hnone ⟨"ws://host/".toList, "4010".toList, ": refused".toList, 4010, rfl, by simp, by simp,
      rfl⟩

end MediaServo.Client.Errors
