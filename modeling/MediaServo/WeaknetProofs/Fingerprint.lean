import Mathlib.Tactic
import MediaServo.Weaknet.Fingerprint
import MediaServo.WeaknetProofs.Recovery

/-! What the line of a leaf says about the spec that it was installed from. -/

namespace MediaServo.Weaknet

open MediaServo.Foundations
open Lines (Text)

inductive Arg
  | word (name : Text)
  | ms (n : ℕ)
  | num (t : Text)
  deriving DecidableEq

def Arg.text : Arg → Text
  | .word name => name
  | .ms n => decimal n ++ "ms".toList
  | .num t => t

def lossArgs : Option LossSpec → List Arg
  | some (.geModel loss r h k) =>
      if loss = "0" ∨ loss = "0%" then [.word "loss".toList, .num "0%".toList]
      else [.word "loss".toList, .word "gemodel".toList, .num (stripPct loss.toList),
        .num (stripPct r.toList), .num (stripPct h.toList), .num (stripPct k.toList)]
  | some (.simple p) =>
      if p ≠ "" ∧ stripPct p.toList ≠ "0".toList then [.word "loss".toList, .num p.toList] else []
  | none => []

def reorderArgs : Option String → List Arg
  | some rp => if rp ≠ "" then [.word "reorder".toList, .num (rp.toList ++ "%".toList)] else []
  | none => []

def seedArgs : Option ℕ → List Arg
  | some seed => [.word "seed".toList, .num (decimal seed)]
  | none => []

def moreArgs (s : ImpairSpec) (d j : ℕ) : List Arg :=
  [.num (decimal s.limit)] ++ (if 0 < d then [.word "delay".toList, .ms d] else []) ++
    (if 0 < j then [.ms j, .word "distribution".toList, .word "normal".toList] else []) ++
    lossArgs s.loss ++ reorderArgs s.reorderPct ++ seedArgs s.seed

def args (s : ImpairSpec) : List Arg :=
  .word "limit".toList ::
    match s.dir with
    | .both => moreArgs s (s.rttMs / 2) (s.jitterMs / 2)
    | .out | .in => moreArgs s s.rttMs s.jitterMs

section Rendering

def spaced (l : List Arg) : Text := (l.map Arg.text).flatMap (' ' :: ·)

lemma spaced_append (l m : List Arg) : spaced (l ++ m) = spaced l ++ spaced m := by
  rw [spaced, List.map_append, List.flatMap_append]
  rfl

lemma spaced_cons (a : Arg) (l : List Arg) : spaced (a :: l) = ' ' :: (a.text ++ spaced l) := rfl

lemma renderLoss_eq (l : Option LossSpec) : renderLoss l = spaced (lossArgs l) := by
  cases l with
  | none => rfl
  | some l =>
    cases l with
    | simple p =>
      rw [renderLoss, lossArgs]
      split_ifs
      · simp [spaced, Arg.text]
      · rfl
    | geModel loss r h k =>
      rw [renderLoss, lossArgs]
      split_ifs
      · rfl
      · simp [spaced, Arg.text]

lemma renderReorder_eq (rp : Option String) : renderReorder rp = spaced (reorderArgs rp) := by
  cases rp with
  | none => rfl
  | some rp =>
    rw [renderReorder, reorderArgs]
    split_ifs
    · simp [spaced, Arg.text]
    · rfl

lemma renderSeed_eq (seed : Option ℕ) : renderSeed seed = spaced (seedArgs seed) := by
  cases seed with
  | none => rfl
  | some n =>
    change " seed ".toList ++ decimal n = spaced [.word "seed".toList, .num (decimal n)]
    simp [spaced, Arg.text]

lemma renderDelay_eq (d : ℕ) :
    (if 0 < d then " delay ".toList ++ decimal d ++ "ms".toList else []) =
      spaced (if 0 < d then [.word "delay".toList, .ms d] else []) := by
  split_ifs
  · simp [spaced, Arg.text]
  · rfl

lemma renderJitter_eq (j : ℕ) :
    (if 0 < j then " ".toList ++ decimal j ++ "ms distribution normal".toList else []) =
      spaced (if 0 < j then [.ms j, .word "distribution".toList, .word "normal".toList] else []) := by
  split_ifs
  · simp [spaced, Arg.text]
  · rfl

lemma renderNetemSpecWith_eq (s : ImpairSpec) (d j : ℕ) :
    renderNetemSpecWith s d j = "limit".toList ++ spaced (moreArgs s d j) := by
  have hlimit : "limit ".toList ++ decimal s.limit =
      "limit".toList ++ spaced [.num (decimal s.limit)] := by simp [spaced, Arg.text]
  delta renderNetemSpecWith
  rw [hlimit, renderLoss_eq, renderReorder_eq, renderSeed_eq, renderDelay_eq, renderJitter_eq,
    moreArgs]
  simp only [spaced_append, List.append_assoc]

lemma render_args (s : ImpairSpec) :
    renderNetemSpecLeg s = "limit".toList ++ spaced (args s).tail := by
  cases hd : s.dir <;>
    simp only [renderNetemSpecLeg, renderNetemSpec, args, hd, List.tail_cons, renderNetemSpecWith_eq]

end Rendering

section Proper

def Arg.Proper : Arg → Prop
  | .word name => name ≠ [] ∧ ∀ c ∈ name, c.isAlpha
  | .ms _ => True
  | .num t => ∃ c core, c.isDigit ∧ (∀ x ∈ core, isNumeric x) ∧
      (t = c :: core ∨ t = c :: core ++ ['%'])

lemma proper_decimal (n : ℕ) : (Arg.num (decimal n)).Proper := by
  cases hd : decimal n with
  | nil =>
    have hne : (toString n).toList ≠ [] := by simp [Nat.toDigits_ne_nil]
    exact absurd hd hne
  | cons c rest =>
    have hdigit : ∀ x ∈ c :: rest, x.isDigit := fun x hx => isDigit_of_mem_natText (hd ▸ hx)
    refine ⟨c, rest, hdigit c List.mem_cons_self, fun x hx => ?_, .inl rfl⟩
    simp [isNumeric, hdigit x (List.mem_cons_of_mem _ hx)]

lemma proper_percent {p : String} {v : Binary64} (h : parsePctBounded p = some v) :
    (Arg.num p.toList).Proper ∧ (Arg.num (stripPct p.toList)).Proper := by
  obtain ⟨hcore, c, rest, hlist, hc⟩ := stripPct_of_parse h
  rw [hlist] at hcore
  have hrest : ∀ x ∈ rest, isNumeric x := by
    intro x hx
    simpa [isNumeric] using hcore x (List.mem_cons_of_mem _ hx)
  have hcases := stripPct_cases p.toList
  rw [hlist] at hcases
  refine ⟨⟨c, rest, hc, hrest, hcases⟩, c, rest, hc, hrest, .inl hlist⟩

lemma parsed_of_validateGemodelValue {p : String} (h : validateGemodelValue p = .ok ()) :
    ∃ v, parsePctBounded p = some v := by
  simp only [validateGemodelValue] at h
  split at h
  next => cases h
  next v hv => exact ⟨v, hv⟩

lemma proper_loss {l : Option LossSpec} (h : validateOpt LossSpec.validate l = .ok ()) :
    ∀ a ∈ lossArgs l, a.Proper := by
  cases l with
  | none => simp [lossArgs]
  | some l =>
    cases l with
    | simple p =>
      obtain ⟨v, hp⟩ := parsed_of_validateLoss h
      rw [lossArgs]
      split_ifs
      · simp only [List.forall_mem_cons, List.not_mem_nil, false_implies, implies_true, and_true]
        exact ⟨⟨by decide, by decide⟩, (proper_percent hp).1⟩
      · simp
    | geModel loss r g k =>
      obtain ⟨hl, hr, hg, hk⟩ := loss_validate_geModel.1 h
      obtain ⟨_, hl⟩ := parsed_of_validateLoss hl
      obtain ⟨_, hr⟩ := parsed_of_validateGemodelValue hr
      obtain ⟨_, hg⟩ := parsed_of_validateGemodelValue hg
      obtain ⟨_, hk⟩ := parsed_of_validateGemodelValue hk
      have hloss : (Arg.word "loss".toList).Proper := ⟨by decide, by decide⟩
      have hmodel : (Arg.word "gemodel".toList).Proper := ⟨by decide, by decide⟩
      have hzero : (Arg.num "0%".toList).Proper := ⟨'0', [], rfl, by simp, .inr rfl⟩
      rw [lossArgs]
      split_ifs
      · simp only [List.forall_mem_cons]
        exact ⟨hloss, hzero, by simp⟩
      · simp only [List.forall_mem_cons]
        exact ⟨hloss, hmodel, (proper_percent hl).2, (proper_percent hr).2, (proper_percent hg).2,
          (proper_percent hk).2, by simp⟩

lemma proper_reorder {rp : Option String} (h : validateOpt validateReorder rp = .ok ()) :
    ∀ a ∈ reorderArgs rp, a.Proper := by
  cases rp with
  | none => simp [reorderArgs]
  | some rp =>
    simp only [validateOpt, validateReorder] at h
    split at h
    next => cases h
    next hdigits =>
      simp only [not_or, not_not, digits, List.all_eq_true] at hdigits
      rw [reorderArgs]
      split_ifs with hne
      · have hlist : rp.toList ≠ [] := by simpa using hne
        obtain ⟨c, rest, hc⟩ := List.exists_cons_of_ne_nil hlist
        rw [hc] at hdigits
        simp only [List.forall_mem_cons, List.not_mem_nil, false_implies, implies_true, and_true]
        refine ⟨⟨by decide, by decide⟩, c, rest, hdigits.2 c List.mem_cons_self, ?_, ?_⟩
        · intro x hx
          simp [isNumeric, hdigits.2 x (List.mem_cons_of_mem _ hx)]
        · rw [hc]
          exact .inr rfl
      · simp

lemma proper_args {fmt : FloatText} {s : ImpairSpec} (h : s.validate fmt = .ok ()) :
    ∀ a ∈ args s, a.Proper := by
  obtain ⟨-, hloss, hreorder, -⟩ := validate_iff.1 h
  have hmore : ∀ d j, ∀ a ∈ moreArgs s d j, a.Proper := by
    intro d j a ha
    simp only [moreArgs, List.mem_append] at ha
    obtain ((((ha | ha) | ha) | ha) | ha) | ha := ha
    · rw [List.mem_singleton.1 ha]
      exact proper_decimal _
    · split_ifs at ha
      · simp only [List.mem_cons, List.not_mem_nil, or_false] at ha
        obtain rfl | rfl := ha
        · exact ⟨by decide, by decide⟩
        · exact trivial
      · cases ha
    · split_ifs at ha
      · simp only [List.mem_cons, List.not_mem_nil, or_false] at ha
        obtain rfl | rfl | rfl := ha
        · exact trivial
        · exact ⟨by decide, by decide⟩
        · exact ⟨by decide, by decide⟩
      · cases ha
    · exact proper_loss hloss a ha
    · exact proper_reorder hreorder a ha
    · cases hs : s.seed with
      | none => simp [hs, seedArgs] at ha
      | some n =>
        simp only [hs, seedArgs, List.mem_cons, List.not_mem_nil, or_false] at ha
        obtain rfl | rfl := ha
        · exact ⟨by decide, by decide⟩
        · exact proper_decimal n
  intro a ha
  rw [args, List.mem_cons] at ha
  obtain rfl | ha := ha
  · exact ⟨by decide, by decide⟩
  · cases hd : s.dir <;> rw [hd] at ha <;> exact hmore _ _ a ha

end Proper

section Tokens

def Arg.token : Arg → Arg
  | .num t => .num (normalizeNumToken (t.rdropWhile (· == '%')))
  | a => a

lemma isNumeric_of_digit {c : Char} (h : c.isDigit) : isNumeric c := by simp [isNumeric, h]

lemma char_of_proper {a : Arg} (h : a.Proper) :
    ∀ c ∈ a.text, c.isAlpha ∨ isNumeric c ∨ c = '%' := by
  intro c hc
  cases a with
  | word name => exact .inl (h.2 c hc)
  | ms n =>
    rw [Arg.text, List.mem_append] at hc
    obtain hc | hc := hc
    · exact .inr (.inl (isNumeric_of_digit (isDigit_of_mem_natText hc)))
    · left
      revert c
      decide
  | num t =>
    obtain ⟨d, core, hd, hcore, rfl | rfl⟩ := h
    · right; left
      obtain rfl | hc := List.mem_cons.1 hc
      · exact isNumeric_of_digit hd
      · exact hcore c hc
    · right
      rw [Arg.text, List.mem_append, List.mem_singleton] at hc
      obtain hc | rfl := hc
      · left
        obtain rfl | hc := List.mem_cons.1 hc
        · exact isNumeric_of_digit hd
        · exact hcore c hc
      · exact .inr rfl

lemma isWhitespace_of_char {c : Char} (h : c.isAlpha ∨ isNumeric c ∨ c = '%') :
    isWhitespace c = false := by
  have hrange : 33 ≤ c.toNat ∧ c.toNat ≤ 126 := by
    delta Char.isAlpha Char.isUpper Char.isLower at h
    simp only [isNumeric, Char.isDigit, Bool.or_eq_true, Bool.and_eq_true, decide_eq_true_eq,
      beq_iff_eq, ge_iff_le, UInt32.le_iff_toNat_le] at h
    rcases h with (h | h) | (h | rfl) | rfl
    · exact ⟨le_trans (by decide) h.1, le_trans h.2 (by decide)⟩
    · exact ⟨le_trans (by decide) h.1, le_trans h.2 (by decide)⟩
    · exact ⟨le_trans (by decide) h.1, le_trans h.2 (by decide)⟩
    · decide
    · decide
  simp only [isWhitespace, Bool.or_eq_false_iff, Bool.and_eq_false_iff, decide_eq_false_iff_not,
    beq_eq_false_iff_ne]
  omega

lemma head_of_proper {a : Arg} (h : a.Proper) :
    ∃ c rest, a.text = c :: rest ∧ (c.isAlpha ∨ c.isDigit) := by
  cases a with
  | word name =>
    obtain ⟨c, rest, rfl⟩ := List.exists_cons_of_ne_nil h.1
    exact ⟨c, rest, rfl, .inl (h.2 c List.mem_cons_self)⟩
  | ms n =>
    obtain ⟨c, core, hc, -, hn⟩ := proper_decimal n
    obtain hn | hn := hn <;> exact ⟨c, _, by rw [Arg.text, hn]; rfl, .inr hc⟩
  | num t =>
    obtain ⟨c, core, hc, -, rfl | rfl⟩ := h <;> exact ⟨c, _, rfl, .inr hc⟩

lemma solid_of_proper {a : Arg} (h : a.Proper) : Words.Solid isWhitespace a.text := by
  refine ⟨?_, fun c hc => isWhitespace_of_char (char_of_proper h c hc)⟩
  obtain ⟨c, rest, htext, -⟩ := head_of_proper h
  rw [htext]
  exact List.cons_ne_nil _ _

lemma normalize_noPoint {w : Text} (h : '.' ∉ w) : normalizeNumToken w = w := by
  have hnum : '.' ∉ w.takeWhile isNumeric := fun hmem =>
    h ((List.takeWhile_prefix isNumeric).subset hmem)
  rw [normalizeNumToken, if_pos hnum]

lemma rdropWhile_percent {w : Text} (h : '%' ∉ w) : w.rdropWhile (· == '%') = w := by
  rw [List.rdropWhile_eq_self_iff]
  intro hne hlast
  have hmem := List.getLast_mem hne
  rw [beq_iff_eq.1 hlast] at hmem
  exact h hmem

lemma token_num {c : Char} {core t : Text} (hc : c.isDigit) (hcore : ∀ x ∈ core, isNumeric x)
    (ht : t = c :: core ∨ t = c :: core ++ ['%']) :
    (Arg.num t).token = .num (normalizeNumToken (c :: core)) := by
  have hpercent : '%' ∉ c :: core := by
    rintro hmem
    obtain rfl | hmem := List.mem_cons.1 hmem
    · exact absurd hc (by decide)
    · exact absurd (hcore _ hmem) (by decide)
  obtain rfl | rfl := ht
  · rw [Arg.token, rdropWhile_percent hpercent]
  · rw [Arg.token, List.rdropWhile_concat_pos _ _ _ (by decide), rdropWhile_percent hpercent]

lemma token_text {a : Arg} (h : a.Proper) :
    normalizeNumToken (a.text.rdropWhile (· == '%')) = a.token.text := by
  cases a with
  | word name =>
    have hmem : ∀ c, ¬c.isAlpha → c ∉ name := fun c hc hin => hc (h.2 c hin)
    rw [Arg.text, rdropWhile_percent (hmem '%' (by decide)), normalize_noPoint (hmem '.' (by decide))]
    rfl
  | ms n =>
    have hmem : ∀ c, ¬c.isDigit → c ∉ "ms".toList → c ∉ decimal n ++ "ms".toList := by
      intro c hc hms hin
      obtain hin | hin := List.mem_append.1 hin
      · exact hc (isDigit_of_mem_natText hin)
      · exact hms hin
    rw [Arg.text, rdropWhile_percent (hmem '%' (by decide) (by decide)),
      normalize_noPoint (hmem '.' (by decide) (by decide))]
    rfl
  | num t => rfl

lemma trim_text {a : Arg} (h : a.Proper) :
    Lines.trim isWrapping a.text = a.text.rdropWhile (· == '%') := by
  obtain ⟨c, rest, htext, hc⟩ := head_of_proper h
  have hhead : isWrapping c = false := by
    simp only [isWrapping, Bool.or_eq_false_iff, beq_eq_false_iff_ne]
    refine ⟨⟨?_, ?_⟩, ?_⟩ <;> rintro rfl <;> exact absurd hc (by decide)
  have hparens : ∀ x ∈ a.text, isWrapping x = (x == '%') := by
    intro x hx
    have hchar := char_of_proper h x hx
    have hopen : x ≠ '(' := by
      rintro rfl
      exact absurd hchar (by decide)
    have hclose : x ≠ ')' := by
      rintro rfl
      exact absurd hchar (by decide)
    simp [isWrapping, hopen, hclose]
  rw [Lines.trim, ← Lines.rdropWhile_congr hparens, htext, Lines.dropWhile_of_head hhead]

lemma normalize_digit {c : Char} {core : Text} (hc : c.isDigit) :
    c ∈ normalizeNumToken (c :: core) := by
  have hnum : isNumeric c := isNumeric_of_digit hc
  simp only [normalizeNumToken, List.takeWhile_cons, List.dropWhile_cons, hnum, if_true]
  split_ifs with hpoint
  · obtain ⟨int, frac, hsplit, hint⟩ := List.eq_append_cons_of_mem hpoint
    have hmem : c ∈ int := by
      cases int with
      | nil =>
        have hdot : c = '.' := (List.cons.inj hsplit).1
        rw [hdot] at hc
        exact absurd hc (by decide)
      | cons d int =>
        rw [(List.cons.inj hsplit).1]
        exact List.mem_cons_self
    have hzeros := Lines.rdropWhile_append (p := (· == '0')) (a := int ++ ['.'])
      (fun hne => by simp) frac
    have hpoints := Lines.rdropWhile_append (p := (· == '.')) (a := int)
      (fun hne => by
        have hlast := List.getLast_mem hne
        rw [beq_eq_false_iff_ne]
        rintro heq
        exact hint (heq ▸ hlast)) ('.' :: frac.rdropWhile (· == '0'))
    rw [List.append_assoc, List.append_assoc, List.singleton_append, List.singleton_append] at hzeros
    rw [hsplit, hzeros, hpoints]
    simp [hmem]
  · exact List.mem_cons_self

lemma normalize_subset (w : Text) : ∀ x ∈ normalizeNumToken w, x ∈ w := by
  intro x hx
  simp only [normalizeNumToken] at hx
  split_ifs at hx
  · obtain hx | hx := List.mem_append.1 hx
    · have hpoints := (List.rdropWhile_prefix _ _).subset hx
      exact (List.takeWhile_prefix _).subset ((List.rdropWhile_prefix _ _).subset hpoints)
    · exact (List.dropWhile_suffix _).subset hx
  · exact hx

lemma token_kinds {a : Arg} (h : a.Proper) :
    (∃ name, a.token = .word name ∧ ∀ c ∈ a.token.text, c.isAlpha) ∨
    (∃ n, a.token = .ms n ∧ 'm' ∈ a.token.text ∧ ∃ c ∈ a.token.text, c.isDigit) ∨
    (∃ t, a.token = .num t ∧ (∀ c ∈ a.token.text, isNumeric c) ∧ ∃ c ∈ a.token.text, c.isDigit) := by
  cases a with
  | word name => exact .inl ⟨name, rfl, h.2⟩
  | ms n =>
    obtain ⟨c, core, hc, -, hn⟩ := proper_decimal n
    refine .inr (.inl ⟨n, rfl, ?_, c, ?_, hc⟩)
    · exact List.mem_append_right _ (by decide)
    · refine List.mem_append_left _ ?_
      obtain hn | hn := hn <;> rw [hn] <;> simp
  | num t =>
    obtain ⟨c, core, hc, hcore, ht⟩ := h
    rw [token_num hc hcore ht]
    refine .inr (.inr ⟨_, rfl, fun x hx => ?_, c, normalize_digit hc, hc⟩)
    obtain rfl | hx := List.mem_cons.1 (normalize_subset _ x hx)
    · exact isNumeric_of_digit hc
    · exact hcore x hx

lemma decimal_inj {m n : ℕ} (h : decimal m = decimal n) : m = n := by
  have htext : ∀ k : ℕ, Nat.ofDigitChars 10 (decimal k) 0 = k := by
    intro k
    have hlist : decimal k = Nat.toDigits 10 k := by simp [decimal]
    rw [hlist, Nat.ofDigitChars_ten_toDigits]
  rw [← htext m, h, htext]

lemma not_digit_of_alpha {c : Char} (ha : c.isAlpha) (hd : c.isDigit) : False := by
  delta Char.isAlpha Char.isUpper Char.isLower at ha
  simp only [Char.isDigit, Bool.or_eq_true, Bool.and_eq_true, decide_eq_true_eq, ge_iff_le,
    UInt32.le_iff_toNat_le] at ha hd
  obtain ha | ha := ha
  · exact absurd (le_trans ha.1 hd.2) (by decide)
  · exact absurd (le_trans ha.1 hd.2) (by decide)

lemma token_inj {a b : Arg} (ha : a.Proper) (hb : b.Proper) (h : a.token.text = b.token.text) :
    a.token = b.token := by
  obtain ⟨x, hx, halpha⟩ | ⟨x, hx, hm, hdigit⟩ | ⟨x, hx, hnum, hdigit⟩ := token_kinds ha
  · obtain ⟨y, hy, -⟩ | ⟨y, hy, -, c, hc, hd⟩ | ⟨y, hy, -, c, hc, hd⟩ := token_kinds hb
    · rw [hx, hy] at h ⊢
      exact congrArg Arg.word h
    · exact (not_digit_of_alpha (halpha c (h ▸ hc)) hd).elim
    · exact (not_digit_of_alpha (halpha c (h ▸ hc)) hd).elim
  · obtain ⟨c, hc, hd⟩ := hdigit
    obtain ⟨y, hy, halpha⟩ | ⟨y, hy, -⟩ | ⟨y, hy, hnum, -⟩ := token_kinds hb
    · exact (not_digit_of_alpha (halpha c (h ▸ hc)) hd).elim
    · rw [hx, hy] at h ⊢
      exact congrArg Arg.ms (decimal_inj (List.append_cancel_right h))
    · exact absurd (hnum 'm' (h ▸ hm)) (by decide)
  · obtain ⟨c, hc, hd⟩ := hdigit
    obtain ⟨y, hy, halpha⟩ | ⟨y, hy, hm, -⟩ | ⟨y, hy, -⟩ := token_kinds hb
    · exact (not_digit_of_alpha (halpha c (h ▸ hc)) hd).elim
    · exact absurd (hnum 'm' (h ▸ hm)) (by decide)
    · rw [hx, hy] at h ⊢
      exact congrArg Arg.num h

end Tokens

structure Handle where
  text : Text
  ne_nil : text ≠ []
  alphanum : ∀ c ∈ text, c.isAlphanum

/-- What the kernel prints before the arguments of a leaf. -/
inductive LeafHead
  | parent (handle : Handle)
  | root (handle : Handle) (refcnt : ℕ)

namespace LeafHead

def form : LeafHead → LeafForm
  | .parent _ => .parent110
  | .root _ _ => .root

def text : LeafHead → Text
  | .parent handle =>
      "qdisc netem ".toList ++ handle.text ++ ": parent 1:10 handle 10: ".toList
  | .root handle refcnt =>
      "qdisc netem ".toList ++ handle.text ++ ": root refcnt ".toList ++ decimal refcnt ++ " ".toList

def refcnt : LeafHead → Option ℕ
  | .parent _ => none
  | .root _ n => some n

end LeafHead

def leafLine (head : LeafHead) (s : ImpairSpec) : Text := head.text ++ renderNetemSpecLeg s

section Line

def LeafHead.rest : LeafHead → List Text
  | .parent handle =>
      ["netem".toList, handle.text ++ ":".toList, "parent".toList, "1:10".toList, "handle".toList,
        "10:".toList]
  | .root handle n =>
      ["netem".toList, handle.text ++ ":".toList, "root".toList, "refcnt".toList, decimal n]

def isPlainChar (c : Char) : Bool := c.isAlphanum || c == ':'

lemma isPlainChar_cases {c : Char} (h : isPlainChar c) :
    isWhitespace c = false ∧ isWrapping c = false ∧ c ≠ '.' := by
  have hrange : c = ':' ∨ c.isAlpha ∨ c.isDigit := by
    simp only [isPlainChar, Char.isAlphanum, Bool.or_eq_true, beq_iff_eq] at h
    tauto
  obtain rfl | h := hrange
  · decide
  · refine ⟨isWhitespace_of_char (h.imp_right fun hd => .inl (isNumeric_of_digit hd)), ?_, ?_⟩
    · simp only [isWrapping, Bool.or_eq_false_iff, beq_eq_false_iff_ne]
      refine ⟨⟨?_, ?_⟩, ?_⟩ <;> rintro rfl <;> exact absurd h (by decide)
    · rintro rfl
      exact absurd h (by decide)

lemma plain_word {w : Text} (hne : w ≠ []) (h : ∀ c ∈ w, isPlainChar c) :
    Words.Solid isWhitespace w ∧ normalizeNumToken (Lines.trim isWrapping w) = w := by
  refine ⟨⟨hne, fun c hc => (isPlainChar_cases (h c hc)).1⟩, ?_⟩
  obtain ⟨c, rest, rfl⟩ := List.exists_cons_of_ne_nil hne
  have htrim := Lines.trim_solid (isPlainChar_cases (h c List.mem_cons_self)).2.1
    (isPlainChar_cases (h _ (List.getLast_mem (by simp)))).2.1
  rw [htrim]
  exact normalize_noPoint fun hmem => (isPlainChar_cases (h _ hmem)).2.2 rfl

lemma plain_decimal (n : ℕ) : decimal n ≠ [] ∧ ∀ c ∈ decimal n, isPlainChar c := by
  obtain ⟨c, core, -, -, hn⟩ := proper_decimal n
  refine ⟨by obtain hn | hn := hn <;> rw [hn] <;> simp, fun x hx => ?_⟩
  simp [isPlainChar, Char.isAlphanum, isDigit_of_mem_natText hx]

lemma plain_handle (handle : Handle) :
    handle.text ++ ":".toList ≠ [] ∧ ∀ c ∈ handle.text ++ ":".toList, isPlainChar c := by
  refine ⟨by simp [handle.ne_nil], fun c hc => ?_⟩
  obtain hc | hc := List.mem_append.1 hc
  · simp [isPlainChar, handle.alphanum c hc]
  · rw [List.mem_singleton.1 hc]
    rfl

lemma plain_head (head : LeafHead) :
    ∀ w ∈ "qdisc".toList :: head.rest, w ≠ [] ∧ ∀ c ∈ w, isPlainChar c := by
  cases head with
  | parent handle =>
    simp only [LeafHead.rest, List.forall_mem_cons]
    exact ⟨by decide, by decide, plain_handle handle, by decide, by decide, by decide, by decide,
      by simp⟩
  | root handle n =>
    simp only [LeafHead.rest, List.forall_mem_cons]
    exact ⟨by decide, by decide, plain_handle handle, by decide, by decide, plain_decimal n, by simp⟩

lemma headText_eq (head : LeafHead) :
    head.text = "qdisc".toList ++ head.rest.flatMap (' ' :: ·) ++ " ".toList := by
  cases head with
  | parent handle =>
    change "qdisc netem ".toList ++ handle.text ++ ": parent 1:10 handle 10: ".toList = _
    simp [LeafHead.rest]
  | root handle n =>
    change "qdisc netem ".toList ++ handle.text ++ ": root refcnt ".toList ++ decimal n ++
      " ".toList = _
    simp [LeafHead.rest]

lemma leafLine_eq (head : LeafHead) (s : ImpairSpec) :
    leafLine head s = "qdisc".toList ++ (head.rest ++ (args s).map Arg.text).flatMap (' ' :: ·) := by
  have hargs : args s = .word "limit".toList :: (args s).tail := rfl
  have hspaced : spaced (args s) = " ".toList ++ ("limit".toList ++ spaced (args s).tail) := by
    rw [hargs, spaced_cons]
    rfl
  rw [leafLine, headText_eq, render_args, List.append_assoc, ← hspaced, List.append_assoc,
    List.flatMap_append, spaced]

variable {fmt : FloatText} {a b : ImpairSpec}

lemma normWords_leafLine (head : LeafHead) (ha : a.validate fmt = .ok ()) :
    normWords (leafLine head a) =
      ("qdisc".toList :: head.rest) ++ (args a).map fun x => x.token.text := by
  have hsolid : ∀ w ∈ "qdisc".toList :: (head.rest ++ (args a).map Arg.text),
      Words.Solid isWhitespace w := by
    intro w hw
    rw [← List.cons_append, List.mem_append, List.mem_map] at hw
    obtain hw | ⟨x, hx, rfl⟩ := hw
    · obtain ⟨hne, hplain⟩ := plain_head head w hw
      exact (plain_word hne hplain).1
    · exact solid_of_proper (proper_args ha x hx)
  rw [normWords, leafLine_eq, Words.words_spaced rfl hsolid, ← List.cons_append, List.map_append,
    List.map_map]
  congr 1
  · refine (List.map_congr_left fun w hw => ?_).trans (List.map_id _)
    obtain ⟨hne, hplain⟩ := plain_head head w hw
    exact (plain_word hne hplain).2
  · refine List.map_congr_left fun x hx => ?_
    rw [Function.comp_apply, trim_text (proper_args ha x hx), token_text (proper_args ha x hx)]

lemma fingerprintTokens_render (hb : b.validate fmt = .ok ()) :
    fingerprintTokens (renderNetemSpecLeg b) =
      ((args b).map fun x => x.token.text).filter distinguishes := by
  have hsolid : ∀ w ∈ "limit".toList :: (args b).tail.map Arg.text, Words.Solid isWhitespace w := by
    intro w hw
    have hmem : w ∈ (args b).map Arg.text := hw
    obtain ⟨x, hx, rfl⟩ := List.mem_map.1 hmem
    exact solid_of_proper (proper_args hb x hx)
  rw [fingerprintTokens, render_args, spaced, Words.words_spaced rfl hsolid]
  change List.filter _ (List.map _ ((args b).map Arg.text)) = _
  rw [List.map_map]
  congr 1
  refine List.map_congr_left fun x hx => ?_
  rw [Function.comp_apply, token_text (proper_args hb x hx)]

end Line

def Arg.kept : Arg → Bool
  | .word name => specKeywords.contains name
  | .ms _ => true
  | .num _ => true

/-- Each name, time and number of the second spec is found among those of the first, in whatever
place, or is the number that the head of the line has. -/
def Covered (head : LeafHead) (a b : ImpairSpec) : Prop :=
  ∀ x ∈ args b, x.kept → x.token ∈ (args a).map Arg.token ∨
    ∃ n ∈ head.refcnt, x.token = .num (decimal n)

inductive Param
  | name (text : Text)
  | ms (n : ℕ)
  | number (q : ℚ)

def Arg.param : Arg → Param
  | .word name => .name name
  | .ms n => .ms n
  | .num t => .number (decimalValue (stripPct t))

def netemParams (s : ImpairSpec) : List Param := (args s).map Arg.param

section Match

lemma token_subset {x : Arg} {c : Char} (h : c ∈ x.token.text) : c ∈ x.text := by
  cases x with
  | word name => exact h
  | ms n => exact h
  | num t => exact (List.rdropWhile_prefix _ _).subset (normalize_subset _ c h)

lemma distinguishes_token {x : Arg} (h : x.Proper) : distinguishes x.token.text = x.kept := by
  rw [distinguishes]
  cases x with
  | word name =>
    have hany : (Arg.word name).token.text.any Char.isDigit = false := by
      rw [List.any_eq_false]
      exact fun c hc hd => not_digit_of_alpha (h.2 c hc) hd
    rw [hany, Bool.false_or]
    rfl
  | ms n =>
    obtain ⟨_, hw, -⟩ | ⟨_, -, -, c, hc, hd⟩ | ⟨_, hw, -⟩ := token_kinds h
    · cases hw
    · rw [List.any_eq_true.2 ⟨c, hc, hd⟩, Bool.true_or, Arg.kept]
    · cases hw
  | num t =>
    obtain ⟨_, hw, -⟩ | ⟨_, hw, -⟩ | ⟨_, -, -, c, hc, hd⟩ := token_kinds h
    · cases hw
    · cases hw
    · rw [List.any_eq_true.2 ⟨c, hc, hd⟩, Bool.true_or, Arg.kept]

lemma token_decimal (n : ℕ) : (Arg.num (decimal n)).token = .num (decimal n) := by
  have hmem : ∀ c, ¬c.isDigit → c ∉ decimal n := fun c hc hin => hc (isDigit_of_mem_natText hin)
  rw [Arg.token, rdropWhile_percent (hmem '%' (by decide)), normalize_noPoint (hmem '.' (by decide))]

def headNames : List Text :=
  ["qdisc".toList, "netem".toList, "parent".toList, "handle".toList, "root".toList, "refcnt".toList]

lemma head_cases (head : LeafHead) : ∀ w ∈ "qdisc".toList :: head.rest,
    w ∈ headNames ∨ ':' ∈ w ∨ ∃ n ∈ head.refcnt, w = decimal n := by
  have hcolon : ∀ handle : Handle, ':' ∈ handle.text ++ ":".toList := fun handle =>
    List.mem_append_right _ (by decide)
  cases head with
  | parent handle =>
    simp only [LeafHead.rest, List.forall_mem_cons]
    exact ⟨.inl (by decide), .inl (by decide), .inr (.inl (hcolon handle)), .inl (by decide),
      .inr (.inl (by decide)), .inl (by decide), .inr (.inl (by decide)), by simp⟩
  | root handle n =>
    simp only [LeafHead.rest, List.forall_mem_cons]
    exact ⟨.inl (by decide), .inl (by decide), .inr (.inl (hcolon handle)), .inl (by decide),
      .inl (by decide), .inr (.inr ⟨n, rfl, rfl⟩), by simp⟩

lemma mem_head_iff (head : LeafHead) {x : Arg} (h : x.Proper) (hk : x.kept) :
    x.token.text ∈ "qdisc".toList :: head.rest ↔
      ∃ n ∈ head.refcnt, x.token = .num (decimal n) := by
  constructor
  · intro hmem
    obtain hname | hcolon | ⟨n, hn, htext⟩ := head_cases head _ hmem
    · have hplain : ∀ w ∈ headNames, w ∉ specKeywords ∧ ∀ c ∈ w, ¬c.isDigit := by decide
      obtain ⟨hkey, hdigit⟩ := hplain _ hname
      rw [← distinguishes_token h, distinguishes, Bool.or_eq_true, List.any_eq_true] at hk
      obtain ⟨c, hc, hd⟩ | hk := hk
      · exact absurd hd (hdigit c hc)
      · exact absurd (List.contains_iff_mem.1 hk) hkey
    · exact absurd (char_of_proper h ':' (token_subset hcolon)) (by decide)
    · refine ⟨n, hn, ?_⟩
      rw [← token_decimal]
      apply token_inj h (proper_decimal n)
      rw [htext, token_decimal]
      rfl
  · rintro ⟨n, hn, hx⟩
    rw [hx]
    cases head with
    | parent handle => cases hn
    | root handle m =>
      cases hn
      simp [LeafHead.rest, Arg.text]

variable {fmt : FloatText} {a b : ImpairSpec}

lemma assert_iff {qdiscShow spec leaf : Text} {form : LeafForm}
    (hleaf : findLeafLineForm qdiscShow form = some leaf) :
    assertFingerprintForm qdiscShow spec form = .ok () ↔
      ∀ t ∈ fingerprintTokens spec, t ∈ normWords leaf := by
  rw [assertFingerprintForm, hleaf]
  simp only
  split_ifs with hempty
  · simp only [true_iff]
    intro t ht
    rw [List.isEmpty_iff, List.filter_eq_nil_iff] at hempty
    simpa using hempty t ht
  · simp only [false_iff]
    intro hall
    apply hempty
    rw [List.isEmpty_iff, List.filter_eq_nil_iff]
    intro t ht
    simpa using hall t ht

lemma matches_iff (head : LeafHead) (ha : a.validate fmt = .ok ()) (hb : b.validate fmt = .ok ()) :
    (∀ t ∈ fingerprintTokens (renderNetemSpecLeg b), t ∈ normWords (leafLine head a)) ↔
      Covered head a b := by
  rw [fingerprintTokens_render hb, normWords_leafLine head ha]
  constructor
  · intro hall x hx hk
    have hproper := proper_args hb x hx
    have hmem := hall x.token.text (List.mem_filter.2
      ⟨List.mem_map.2 ⟨x, hx, rfl⟩, (distinguishes_token hproper).trans hk⟩)
    obtain hmem | hmem := List.mem_append.1 hmem
    · exact .inr ((mem_head_iff head hproper hk).1 hmem)
    · obtain ⟨y, hy, heq⟩ := List.mem_map.1 hmem
      exact .inl (List.mem_map.2 ⟨y, hy, token_inj (proper_args ha y hy) hproper heq⟩)
  · intro hcov t ht
    obtain ⟨ht, hd⟩ := List.mem_filter.1 ht
    obtain ⟨x, hx, rfl⟩ := List.mem_map.1 ht
    have hproper := proper_args hb x hx
    have hk := (distinguishes_token hproper).symm.trans hd
    obtain hmem | hmem := hcov x hx hk
    · obtain ⟨y, hy, heq⟩ := List.mem_map.1 hmem
      exact List.mem_append_right _ (List.mem_map.2 ⟨y, hy, congrArg Arg.text heq⟩)
    · exact List.mem_append_left _ ((mem_head_iff head hproper hk).2 hmem)

end Match

theorem fingerprint_iff (fmt : FloatText) (a b : ImpairSpec) (head : LeafHead) (qdiscShow : Text)
    (ha : a.validate fmt = .ok ()) (hb : b.validate fmt = .ok ())
    (hleaf : findLeafLineForm qdiscShow head.form = some (leafLine head a)) :
    assertFingerprintForm qdiscShow (renderNetemSpecLeg a) head.form = .ok () ∧
      ((assertFingerprintForm qdiscShow (renderNetemSpecLeg b) head.form = .ok () →
          netemParams a = netemParams b) ↔
        ¬Covered head a b ∨ netemParams a = netemParams b) := by
  rw [assert_iff hleaf, assert_iff hleaf, matches_iff head ha ha, matches_iff head ha hb]
  refine ⟨fun x hx _ => .inl (List.mem_map_of_mem hx), ?_⟩
  rw [imp_iff_not_or]

def handle8001 : Handle := ⟨"8001".toList, by decide, by decide⟩

def delayOnly : ImpairSpec := { ImpairSpec.default with rttMs := 80 }

def delayReorder : ImpairSpec := { delayOnly with reorderPct := some "5" }

lemma delayOnly_valid : delayOnly.validate plainText = .ok () := by decide

lemma delayReorder_valid : delayReorder.validate plainText = .ok () := by decide

lemma delayOnly_leaf : findLeafLineForm (leafLine (.parent handle8001) delayOnly)
    (LeafHead.parent handle8001).form = some (leafLine (.parent handle8001) delayOnly) := by
  rfl

lemma delayReorder_leaf : findLeafLineForm (leafLine (.parent handle8001) delayReorder)
    (LeafHead.parent handle8001).form = some (leafLine (.parent handle8001) delayReorder) := by
  rfl

theorem fingerprint_delay :
    assertFingerprintForm (leafLine (.parent handle8001) delayOnly)
        (renderNetemSpecLeg delayOnly) .parent110 = .ok () ∧
      (assertFingerprintForm (leafLine (.parent handle8001) delayOnly)
          (renderNetemSpecLeg delayReorder) .parent110 = .ok () →
        netemParams delayOnly = netemParams delayReorder) := by
  obtain ⟨hown, hother⟩ := fingerprint_iff plainText delayOnly delayReorder (.parent handle8001) _
    delayOnly_valid delayReorder_valid delayOnly_leaf
  refine ⟨hown, hother.mpr (.inl fun hcov => ?_)⟩
  obtain h | ⟨n, hn, -⟩ := hcov (.word "reorder".toList) (by decide) (by decide)
  · exact absurd h (by decide)
  · cases hn

/-- The leaf of a delay with a reordering passes for that of the delay alone. -/
theorem fingerprint_of_part : ¬∀ (a b : ImpairSpec) (head : LeafHead) (qdiscShow : Text),
    a.validate plainText = .ok () → b.validate plainText = .ok () →
    findLeafLineForm qdiscShow head.form = some (leafLine head a) →
    assertFingerprintForm qdiscShow (renderNetemSpecLeg a) head.form = .ok () ∧
      (assertFingerprintForm qdiscShow (renderNetemSpecLeg b) head.form = .ok () →
        netemParams a = netemParams b) := by
  intro hall
  have hparams := (hall delayReorder delayOnly (.parent handle8001) _ delayReorder_valid
    delayOnly_valid delayReorder_leaf).2
  have hpasses : assertFingerprintForm (leafLine (.parent handle8001) delayReorder)
    (renderNetemSpecLeg delayOnly) .parent110 = .ok () := rfl
  exact absurd (congrArg List.length (hparams hpasses)) (by decide)

end MediaServo.Weaknet
