import MediaServo.Weaknet.Timeline
import MediaServo.WeaknetProofs.Schedule

/-! The judge takes a step for the recovery by two texts in the summary of its parameters. A
summary has the first when there is no delay, and the second when the loss is written `0%` or not
at all; the phases of a repeat leave no event that the judge looks at. -/

namespace MediaServo.Weaknet

open MediaServo.Foundations

variable {fmt : FloatText} {debug : Yaml → String}

section Texts

lemma strContains_iff {s p : String} : strContains s p ↔ p.toList <:+: s.toList := by
  simp [strContains, isInfix, List.any_eq_true, List.infix_iff_prefix_suffix, and_comm]

lemma infix_append_iff {c : Char} {p pre rest : List Char} (h : c ∉ pre) :
    c :: p <:+: pre ++ rest ↔ c :: p <:+: rest := by
  induction pre with
  | nil => rfl
  | cons d pre ih =>
    simp only [List.mem_cons, not_or] at h
    rw [List.cons_append, List.infix_cons_iff, ih h.2]
    refine or_iff_right ?_
    intro hp
    exact h.1 (List.cons_prefix_cons.mp hp).1

lemma not_infix_of_not_mem {c : Char} {p l : List Char} (h : c ∉ l) : ¬c :: p <:+: l := by
  intro hp
  exact h (hp.subset List.mem_cons_self)

lemma isDigit_of_mem_natText {n : ℕ} {c : Char} (h : c ∈ (toString n).toList) : c.isDigit := by
  have hmem : c ∈ Nat.toDigits 10 n := by simpa using h
  exact Nat.isDigit_of_mem_toDigits (by norm_num) (by norm_num) hmem

lemma natText_prefix_iff {n : ℕ} {c : Char} {p rest : List Char} (hc : ¬c.isDigit) :
    '0' :: c :: p <+: (toString n).toList ++ c :: rest ↔ n = 0 ∧ p <+: rest := by
  have hlist : (toString n).toList = Nat.toDigits 10 n := by simp
  refine ⟨?_, ?_⟩
  · intro hp
    cases hd : (toString n).toList with
    | nil => exact absurd (hlist ▸ hd) Nat.toDigits_ne_nil
    | cons d ds =>
      rw [hd, List.cons_append, List.cons_prefix_cons] at hp
      obtain ⟨rfl, hp⟩ := hp
      cases ds with
      | nil =>
        have hn : n = 0 := by
          have := Nat.ofDigitChars_ten_toDigits (n := n)
          rw [← hlist, hd] at this
          exact this.symm
        exact ⟨hn, (List.cons_prefix_cons.mp hp).2⟩
      | cons e es =>
        rw [List.cons_append, List.cons_prefix_cons] at hp
        have he : e ∈ (toString n).toList := by
          rw [hd]
          simp
        exact absurd (isDigit_of_mem_natText he) (hp.1 ▸ hc)
  · rintro ⟨rfl, hp⟩
    have hzero : (toString 0).toList = ['0'] := by decide
    rw [hzero]
    simpa using hp

lemma not_infix_append_cons {c d e : Char} {p rest : List Char} (pre : List Char) (hpre : c ∉ pre)
    (hde : d ≠ e) (hrest : ¬c :: d :: p <:+: e :: rest) : ¬c :: d :: p <:+: pre ++ c :: e :: rest := by
  rw [infix_append_iff hpre, List.infix_cons_iff]
  rintro (hp | hp)
  · exact hde (List.cons_prefix_cons.mp (List.cons_prefix_cons.mp hp).2).1
  · exact hrest hp

lemma mem_splitPoint {l : List Char} {c : Char} (h : c ∈ l) :
    c ∈ (splitPoint l).1 ∨ c = '.' ∨ ∃ f, (splitPoint l).2 = some f ∧ c ∈ f := by
  simp only [splitPoint]
  have happ := List.takeWhile_append_dropWhile (p := fun x => decide (x ≠ '.')) (l := l)
  rw [← happ, List.mem_append] at h
  obtain h | h := h
  · exact .inl h
  cases hd : l.dropWhile (fun x => decide (x ≠ '.')) with
  | nil =>
    rw [hd] at h
    cases h
  | cons x xs =>
    have hx : x = '.' := by
      have hhead := List.head?_dropWhile_not (fun x => decide (x ≠ '.')) l
      rw [hd] at hhead
      simpa using hhead
    have hmem : '.' ∈ l := by
      rw [← happ, hd, hx]
      simp
    rw [hd] at h
    obtain rfl | h := List.mem_cons.mp h
    · exact .inr (.inl hx)
    · exact .inr (.inr ⟨xs, by simp [hmem], h⟩)

lemma stripPct_cases (l : List Char) : l = stripPct l ∨ l = stripPct l ++ ['%'] := by
  simp only [stripPct]
  split
  next hlast =>
    have hne : l ≠ [] := by
      intro hnil
      simp [hnil] at hlast
    rw [List.getLast?_eq_some_getLast hne, Option.some.injEq] at hlast
    rw [← hlast]
    exact .inr (List.dropLast_append_getLast hne).symm
  next => exact .inl rfl

lemma stripPct_of_parse {s : String} {v : Binary64} (h : parsePctBounded s = some v) :
    (∀ c ∈ stripPct s.toList, c.isDigit ∨ c = '.') ∧
      ∃ c rest, stripPct s.toList = c :: rest ∧ c.isDigit := by
  simp only [parsePctBounded, scanPct] at h
  split at h
  next => cases h
  next hint =>
    split at h
    next => cases h
    next hfrac =>
      simp only [not_or, not_not, digits, List.all_eq_true] at hint
      constructor
      · intro c hc
        obtain hc | rfl | ⟨f, hf, hc⟩ := mem_splitPoint hc
        · exact .inl (hint.2.2 c hc)
        · exact .inr rfl
        · rw [hf] at hfrac
          simp only [Option.any_some, Bool.or_eq_true, not_or, Bool.not_eq_true',
            Bool.not_eq_false, digits, List.all_eq_true] at hfrac
          exact .inl (hfrac.2 c hc)
      · cases hcore : stripPct s.toList with
        | nil => simp [hcore, splitPoint] at hint
        | cons c rest =>
          refine ⟨c, rest, rfl, ?_⟩
          rw [hcore] at hint
          by_cases hc : c = '.'
          · simp [splitPoint, hc] at hint
          · exact hint.2.2 c (by simp [splitPoint, hc])

lemma pctText_of_parse {s : String} {v : Binary64} (h : parsePctBounded s = some v) :
    ∃ core, (∀ c ∈ core, c.isDigit ∨ c = '.') ∧ (s.toList = core ∨ s.toList = core ++ ['%']) :=
  ⟨stripPct s.toList, (stripPct_of_parse h).1, stripPct_cases s.toList⟩

lemma pctText_prefix_iff {s : String} {v : Binary64} (h : parsePctBounded s = some v)
    (rest : List Char) : ['0', '%'] <+: s.toList ++ '/' :: rest ↔ s = "0%" := by
  obtain ⟨core, hcore, hs⟩ := pctText_of_parse h
  refine ⟨?_, ?_⟩
  · intro hp
    match core, hcore, hs with
    | [], _, .inl hs => simp [hs] at hp
    | [], _, .inr hs => simp [hs] at hp
    | [d], _, .inl hs => simp [hs] at hp
    | [d], _, .inr hs =>
      have hd : '0' = d := by
        rw [hs] at hp
        exact (List.cons_prefix_cons.mp hp).1
      apply String.toList_injective
      rw [hs, ← hd]
      decide
    | d :: e :: core, hcore, hs =>
      have he : '%' = e := by
        obtain hs | hs := hs <;> rw [hs] at hp <;>
          exact (List.cons_prefix_cons.mp (List.cons_prefix_cons.mp hp).2).1
      have := hcore e (by simp)
      rw [← he] at this
      exact absurd this (by decide)
  · rintro rfl
    exact ⟨'/' :: rest, rfl⟩

end Texts

/-- The text of a finite number has digits, a point and a sign. -/
def FloatText.Numeric (fmt : FloatText) : Prop :=
  ∀ f : Binary64, f.isFinite → ∀ c ∈ (fmt.display f).toList, c.isDigit ∨ c = '.' ∨ c = '-'

def plainLoss : Option LossSpec → Bool
  | none => true
  | some (.simple p) => p = "0%"
  | some (.geModel loss _ _ _) => loss = "0%"

section Summary

lemma parsed_of_validateLoss {p : String} (h : validateLoss p = .ok ()) :
    ∃ v, parsePctBounded p = some v := by
  simp only [validateLoss] at h
  split at h
  next => cases h
  next v hv => exact ⟨v, hv⟩

lemma lossText_of_valid {l : Option LossSpec} (hv : validateOpt LossSpec.validate l = .ok ()) :
    ∃ x mode v, lossText l = x ++ "/" ++ mode ∧ parsePctBounded x = some v ∧
      (mode = "uniform" ∨ mode = "gemodel") ∧ (plainLoss l ↔ x = "0%") := by
  cases l with
  | none =>
    exact ⟨"0%", "uniform", .finite 0, by decide, parsePctBounded_zero, .inl rfl, by simp [plainLoss]⟩
  | some l =>
    cases l with
    | simple p =>
      obtain ⟨v, hp⟩ := parsed_of_validateLoss hv
      have hne : p.isEmpty = false := by
        by_contra hempty
        have hnil : p = "" := String.isEmpty_iff.mp (by simpa using hempty)
        rw [hnil] at hp
        exact absurd hp (by simp [parsePctBounded, scanPct, stripPct, splitPoint])
      refine ⟨p, "uniform", v, ?_, hp, .inl rfl, by simp [plainLoss]⟩
      simp only [lossText, hne, String.append_assoc]
      rfl
    | geModel loss r h k =>
      obtain ⟨v, hp⟩ := parsed_of_validateLoss (loss_validate_geModel.1 hv).1
      refine ⟨loss, "gemodel", v, ?_, hp, .inr rfl, by simp [plainLoss]⟩
      simp only [lossText, String.append_assoc]
      rfl

lemma not_mem_natText (n : ℕ) : 'l' ∉ (toString n).toList := by
  intro h
  exact absurd (isDigit_of_mem_natText h) (by decide)

lemma rateText_of_valid (hfmt : fmt.Numeric) {r : Option Binary64}
    (hv : validateOpt (validateRate fmt) r = .ok ()) :
    'l' ∉ (rateText fmt r).toList ∨ rateText fmt r = "sentinel" := by
  cases r with
  | none => exact .inr rfl
  | some n =>
    refine .inl ?_
    simp only [rateText]
    split
    next => exact not_mem_natText _
    next =>
      have hfin : n.isFinite := by
        simp only [validateOpt, validateRate] at hv
        split at hv
        next => cases hv
        next h => exact of_not_not (not_or.mp h).1
      intro hl
      exact absurd (hfmt n hfin _ hl) (by decide)

lemma reorderText_of_valid {r : Option String} (hv : validateOpt validateReorder r = .ok ()) :
    'l' ∉ (r.getD "0").toList := by
  cases r with
  | none => decide
  | some p =>
    simp only [validateOpt, validateReorder] at hv
    split at hv
    next => cases hv
    next h =>
      intro hl
      have hdigits : digits p.toList := of_not_not (not_or.mp h).2
      exact absurd (List.all_eq_true.mp hdigits _ hl) (by decide)

lemma not_mem_seedText (r : Option ℕ) : 'l' ∉ (seedText r).toList := by
  cases r with
  | none => decide
  | some n => exact not_mem_natText n

lemma not_infix_tail (hfmt : fmt.Numeric) {s : ImpairSpec} (hv : s.validate fmt = .ok ())
    {mode : String} (hmode : mode = "uniform" ∨ mode = "gemodel") (p : List Char) :
    ¬ 'l' :: 'o' :: p <:+: '/' :: (mode.toList ++ ' ' :: ("rate=".toList ++
      ((rateText fmt s.rateMbps).toList ++ ' ' :: ("reorder=".toList ++
        ((s.reorderPct.getD "0").toList ++ (" seed=".toList ++ (seedText s.seed).toList)))))) := by
  obtain ⟨-, -, hreorder, hrate⟩ := validate_iff.1 hv
  have hlast : 'l' ∉ ' ' :: ("reorder=".toList ++
      ((s.reorderPct.getD "0").toList ++ (" seed=".toList ++ (seedText s.seed).toList))) := by
    simp [reorderText_of_valid hreorder, not_mem_seedText]
  have hrates : ¬ 'l' :: 'o' :: p <:+: ' ' :: ("rate=".toList ++
      ((rateText fmt s.rateMbps).toList ++ ' ' :: ("reorder=".toList ++
        ((s.reorderPct.getD "0").toList ++ (" seed=".toList ++ (seedText s.seed).toList))))) := by
    obtain hr | hr := rateText_of_valid hfmt hrate
    · apply not_infix_of_not_mem
      simp at hlast
      simp [hr, hlast]
    · rw [hr]
      exact not_infix_append_cons " rate=sentine".toList (by decide) (by decide)
        (not_infix_of_not_mem hlast)
  obtain rfl | rfl := hmode
  · have hpre : 'l' ∉ "/uniform".toList := by decide
    exact fun hp => hrates ((infix_append_iff hpre).mp hp)
  · exact not_infix_append_cons "/gemode".toList (by decide) (by decide) hrates

lemma prefix_summary_iff {n : ℕ} {rest : List Char} :
    "rtt=0ms".toList <+: "rtt=".toList ++ ((toString n).toList ++ ("ms jitter=".toList ++ rest)) ↔
      n = 0 := by
  have hpat : "rtt=0ms".toList = "rtt=".toList ++ ['0', 'm', 's'] := by decide
  have hrest : "ms jitter=".toList ++ rest = 'm' :: ("s jitter=".toList ++ rest) := rfl
  rw [hpat, List.prefix_append_right_inj, hrest, natText_prefix_iff (by decide)]
  refine and_iff_left ?_
  exact ⟨" jitter=".toList ++ rest, rfl⟩

lemma infix_summary_iff {n m : ℕ} {x : String} {v : Binary64} (hx : parsePctBounded x = some v)
    {rest : List Char} (hrest : ¬"loss=0%".toList <:+: '/' :: rest) :
    "loss=0%".toList <:+: "rtt=".toList ++ ((toString n).toList ++ ("ms jitter=".toList ++
      ((toString m).toList ++ ("ms loss=".toList ++ (x.toList ++ '/' :: rest))))) ↔ x = "0%" := by
  have hpat : "loss=0%".toList = 'l' :: ("oss=".toList ++ ['0', '%']) := by decide
  have hsplit : "ms loss=".toList ++ (x.toList ++ '/' :: rest) =
      "ms ".toList ++ 'l' :: ("oss=".toList ++ (x.toList ++ '/' :: rest)) := rfl
  have hxl : 'l' ∉ x.toList := by
    intro hmem
    obtain ⟨core, hcore, hs | hs⟩ := pctText_of_parse hx
    · exact absurd (hcore _ (hs ▸ hmem)) (by decide)
    · rw [hs, List.mem_append] at hmem
      obtain hmem | hmem := hmem
      · exact absurd (hcore _ hmem) (by decide)
      · exact absurd hmem (by decide)
  rw [hpat] at hrest ⊢
  rw [hsplit, infix_append_iff (by decide), infix_append_iff (not_mem_natText n),
    infix_append_iff (by decide), infix_append_iff (not_mem_natText m), infix_append_iff (by decide),
    List.infix_cons_iff, List.cons_prefix_cons, List.prefix_append_right_inj, pctText_prefix_iff hx,
    infix_append_iff (by decide), infix_append_iff hxl]
  simp only [true_and, or_iff_left hrest]

lemma zeroed_paramSummary (hfmt : fmt.Numeric) {s : ImpairSpec} (hv : s.validate fmt = .ok ()) :
    zeroed (paramSummary fmt s) ↔ s.rttMs = 0 ∧ plainLoss s.loss := by
  obtain ⟨-, hl, -, -⟩ := validate_iff.1 hv
  obtain ⟨x, mode, v, htext, hx, hmode, hplain⟩ := lossText_of_valid hl
  have htail := not_infix_tail hfmt hv hmode "ss=0%".toList
  have hlist : (paramSummary fmt s).toList = "rtt=".toList ++ ((toString s.rttMs).toList ++
      ("ms jitter=".toList ++ ((toString s.jitterMs).toList ++ ("ms loss=".toList ++
      (x.toList ++ '/' :: (mode.toList ++ ' ' :: ("rate=".toList ++
      ((rateText fmt s.rateMbps).toList ++ ' ' :: ("reorder=".toList ++
        ((s.reorderPct.getD "0").toList ++
          (" seed=".toList ++ (seedText s.seed).toList))))))))))) := by
    delta paramSummary
    simp only [htext, String.toList_append, List.append_assoc]
    rfl
  simp only [zeroed, Bool.and_eq_true, strContains_iff, List.isPrefixOf_iff_prefix]
  rw [hlist, prefix_summary_iff, infix_summary_iff hx htail, hplain]

end Summary

section Scan

variable {delay : ℕ → Delay}

lemma lt_setAt {tr : List (Phase × ImpairSpec)} {k now : ℕ} :
    ∀ x ∈ stampPhases delay k now tr, now / 1000 < x.setAt := by
  induction tr generalizing k now with
  | nil => simp [stampPhases]
  | cons ps tr ih =>
    intro x hx
    obtain rfl | hx := List.mem_cons.mp hx
    · simp only [verifyMs]
      omega
    · refine lt_of_le_of_lt ?_ (ih x hx)
      apply Nat.div_le_div_right
      omega

lemma stampPhases_pairwise {tr : List (Phase × ImpairSpec)} {k now : ℕ} :
    (stampPhases delay k now tr).Pairwise fun a b => a.noteAt < b.setAt := by
  induction tr generalizing k now with
  | nil => exact .nil
  | cons ps tr ih => exact .cons (fun x hx => lt_setAt x hx) ih

lemma setAt_le_noteAt {tr : List (Phase × ImpairSpec)} {k now : ℕ} :
    ∀ x ∈ stampPhases delay k now tr, x.setAt ≤ x.noteAt := by
  induction tr generalizing k now with
  | nil => simp [stampPhases]
  | cons ps tr ih =>
    intro x hx
    obtain rfl | hx := List.mem_cons.mp hx
    · apply Nat.div_le_div_right
      omega
    · exact ih x hx

def Stamped.setEntry (fmt : FloatText) (x : Stamped) : ℕ × Option String :=
  (x.setAt, some (paramSummary fmt x.spec))

lemma collectSets_append {as bs : List Event} {xs ys : List (ℕ × Option String)}
    (ha : collectSets as = .ok xs) (hb : collectSets bs = .ok ys) :
    collectSets (as ++ bs) = .ok (xs ++ ys) := by
  simp only [collectSets] at ha hb ⊢
  rw [List.filter_append, List.mapM_append, ha, hb]
  rfl

lemma collectSets_events (fmt : FloatText) (done : List Stamped) :
    collectSets (done.flatMap (Stamped.events fmt)) = .ok (done.map (Stamped.setEntry fmt)) := by
  induction done with
  | nil => rfl
  | cons x done ih =>
    have hx : collectSets (x.events fmt) = .ok [x.setEntry fmt] := by
      cases hk : x.phase.kind <;> simp [collectSets, Stamped.events, noteEv, hk] <;> rfl
    exact collectSets_append hx ih

lemma collectSets_none {l : List Event} (h : ∀ e ∈ l, e.ev ≠ .set) : collectSets l = .ok [] := by
  have hfilter : l.filter (fun e => decide (e.ev = .set)) = [] := by
    simpa [List.filter_eq_nil_iff] using h
  simp only [collectSets, hfilter]
  rfl

lemma lastAfter_own {pre post : List Stamped} {x : Stamped} (hx : x.setAt ≤ x.noteAt)
    (hpost : ∀ y ∈ post, x.noteAt < y.setAt) :
    lastAfter ((pre ++ x :: post).map (Stamped.setEntry fmt)) x.noteAt = paramSummary fmt x.spec := by
  have hnone : (post.map (Stamped.setEntry fmt)).reverse.find?
      (fun s => decide (s.1 ≤ x.noteAt) && s.2.isSome) = none := by
    rw [List.find?_eq_none]
    intro e he
    obtain ⟨y, hy, rfl⟩ := List.mem_map.mp (List.mem_reverse.mp he)
    simp only [Stamped.setEntry, Option.isSome_some, Bool.and_true]
    intro h
    exact absurd (of_decide_eq_true h) (Nat.not_le.mpr (hpost y hy))
  simp only [lastAfter, List.map_append, List.map_cons, List.reverse_append, List.reverse_cons,
    List.append_assoc, List.find?_append, hnone]
  simp [Stamped.setEntry, hx]

def judged (fmt : FloatText) (done : List Stamped) : Option Stamped :=
  done.find? fun x => x.phase.kind = .step && zeroed (paramSummary fmt x.spec)

lemma firstZeroed_skip {sets : List (ℕ × Option String)} {pre rest : List Event}
    (h : ∀ e ∈ pre, e.ev ≠ .scenarioStep) :
    firstZeroed sets (pre ++ rest) = firstZeroed sets rest := by
  induction pre with
  | nil => rfl
  | cons e pre ih =>
    rw [List.cons_append, firstZeroed, if_pos (h e (by simp))]
    exact ih fun e he => h e (by simp [he])

lemma firstZeroed_rest {sets : List (ℕ × Option String)} {rest : List Event}
    (h : ∀ e ∈ rest, e.ev ≠ .scenarioStep) : firstZeroed sets rest = .ok none := by
  have hskip : firstZeroed sets (rest ++ []) = firstZeroed sets [] := firstZeroed_skip h
  rwa [List.append_nil] at hskip

lemma firstZeroed_phase {sets : List (ℕ × Option String)} {x : Stamped} {rest : List Event}
    (hown : lastAfter sets x.noteAt = paramSummary fmt x.spec) :
    firstZeroed sets (x.events fmt ++ rest) =
      if x.phase.kind = .step ∧ zeroed (paramSummary fmt x.spec) then .ok (some x.noteAt)
      else firstZeroed sets rest := by
  cases hk : x.phase.kind with
  | step =>
    simp only [Stamped.events, noteEv, hk, List.cons_append, List.nil_append, firstZeroed, ← hown,
      true_and]
    rfl
  | on => simp [Stamped.events, noteEv, hk, firstZeroed]
  | off => simp [Stamped.events, noteEv, hk, firstZeroed]

lemma firstZeroed_events {post : List Stamped} (pre : List Stamped) {rest : List Event}
    (hle : ∀ x ∈ pre ++ post, x.setAt ≤ x.noteAt)
    (hlt : (pre ++ post).Pairwise fun a b => a.noteAt < b.setAt)
    (hrest : ∀ e ∈ rest, e.ev ≠ .scenarioStep) :
    firstZeroed ((pre ++ post).map (Stamped.setEntry fmt))
        (post.flatMap (Stamped.events fmt) ++ rest) =
      .ok ((judged fmt post).map Stamped.noteAt) := by
  induction post generalizing pre with
  | nil => exact firstZeroed_rest hrest
  | cons x post ih =>
    have hown : lastAfter ((pre ++ x :: post).map (Stamped.setEntry fmt)) x.noteAt =
        paramSummary fmt x.spec := by
      refine lastAfter_own (hle x (by simp)) ?_
      exact (List.pairwise_cons.mp (List.pairwise_append.mp hlt).2.1).1
    have hrec := ih (pre ++ [x]) (by simpa using hle) (by simpa using hlt)
    rw [List.append_assoc, List.singleton_append] at hrec
    rw [List.flatMap_cons, List.append_assoc, firstZeroed_phase hown, hrec]
    simp only [judged, List.find?_cons]
    split_ifs with h
    · simp [h]
    · have hfalse : (decide (x.phase.kind = .step) && zeroed (paramSummary fmt x.spec)) = false := by
        simpa using h
      rw [hfalse]

lemma recoveryFrom_timeline (frame : Frame) (window keep : Bool) {done : List Stamped}
    (hle : ∀ x ∈ done, x.setAt ≤ x.noteAt)
    (hlt : done.Pairwise fun a b => a.noteAt < b.setAt) :
    recoveryFrom (timeline fmt frame window keep done) =
      .ok ((judged fmt done).map Stamped.noteAt) := by
  obtain ⟨opening, closing, htl, hopening, hclosing⟩ : ∃ opening closing,
      timeline fmt frame window keep done =
        opening ++ (done.flatMap (Stamped.events fmt) ++ closing) ∧
      (∀ e ∈ opening, e.ev ≠ .set ∧ e.ev ≠ .scenarioStep) ∧
      ∀ e ∈ closing, e.ev ≠ .set ∧ e.ev ≠ .scenarioStep := by
    simp only [timeline, List.append_assoc]
    rw [← List.append_assoc]
    refine ⟨_, _, rfl, ?_, ?_⟩
    · cases window <;> simp
    · cases keep <;> simp
  have hsets : collectSets (timeline fmt frame window keep done) =
      .ok (done.map (Stamped.setEntry fmt)) := by
    rw [htl]
    have hinner := collectSets_append (collectSets_events fmt done)
      (collectSets_none fun e he => (hclosing e he).1)
    rw [List.append_nil] at hinner
    exact collectSets_append (collectSets_none fun e he => (hopening e he).1) hinner
  rw [recoveryFrom, hsets, htl]
  refine (firstZeroed_skip fun e he => (hopening e he).2).trans ?_
  exact firstZeroed_events [] hle hlt fun e he => (hclosing e he).2

lemma map_stampPhases (delay : ℕ → Delay) (k now : ℕ) (tr : List (Phase × ImpairSpec)) :
    (stampPhases delay k now tr).map (fun x => (x.phase, x.spec)) = tr := by
  induction tr generalizing k now with
  | nil => rfl
  | cons ps tr ih => simp [stampPhases, ih]

lemma find?_agree {α : Type} {f : α → ℕ} {A B : α → Bool} {l : List α}
    (hAB : ∀ x ∈ l, A x → B x) (hlt : l.Pairwise fun a b => f a < f b) :
    (l.find? A).map f = (l.find? B).map f ↔ ∀ x, l.find? B = some x → A x := by
  induction l with
  | nil => simp
  | cons x l ih =>
    obtain ⟨hx, hl⟩ := List.pairwise_cons.mp hlt
    have hrec := ih (fun y hy => hAB y (by simp [hy])) hl
    by_cases hB : B x
    · by_cases hA : A x
      · simp [hA, hB]
      · have hne : (l.find? A).map f ≠ some (f x) := by
          intro heq
          obtain ⟨y, hy, hfy⟩ := Option.map_eq_some_iff.mp heq
          have := hx y (List.mem_of_find?_eq_some hy)
          omega
        simp [hA, hB, hne]
    · have hA : A x = false := by
        simpa using mt (hAB x (by simp)) hB
      simpa [hA, hB] using hrec

lemma find?_first {α : Type} {B : α → Bool} {Q : α → Prop} {l : List α} :
    (∀ x, l.find? B = some x → Q x) ↔
      ∀ (k : ℕ) x, l[k]? = some x → B x → (∀ j < k, ∀ y, l[j]? = some y → ¬B y) → Q x := by
  refine ⟨?_, ?_⟩
  · intro h k x hk hB hfirst
    apply h
    rw [List.find?_eq_some_iff_getElem]
    obtain ⟨hlen, hx⟩ := List.getElem?_eq_some_iff.mp hk
    refine ⟨hB, k, hlen, hx, ?_⟩
    intro j hj
    simpa using hfirst j hj _ (List.getElem?_eq_getElem (hj.trans hlen))
  · intro h x hx
    obtain ⟨hB, k, hlen, hk, hfirst⟩ := List.find?_eq_some_iff_getElem.mp hx
    refine h k x (List.getElem?_eq_some_iff.mpr ⟨hlen, hk⟩) hB ?_
    intro j hj y hy
    obtain ⟨hjl, rfl⟩ := List.getElem?_eq_some_iff.mp hy
    simpa using hfirst j hj

end Scan

def ImpairSpec.quiet (s : ImpairSpec) : Bool := s.rttMs = 0 && s.loss.all LossSpec.isFree

def recovered (done : List Stamped) : Option Stamped :=
  done.find? fun x => x.phase.kind ≠ .on && x.spec.quiet

lemma quiet_of_plain {s : ImpairSpec} (hr : s.rttMs = 0) (hl : plainLoss s.loss) : s.quiet := by
  simp only [ImpairSpec.quiet, hr, decide_true, Bool.true_and]
  cases h : s.loss with
  | none => rfl
  | some l =>
    rw [h] at hl
    cases l with
    | simple p =>
      have hp : p = "0%" := by simpa [plainLoss] using hl
      subst hp
      simp [LossSpec.isFree, zeroPct, parsePctBounded_zero]
    | geModel loss r hh k =>
      have hp : loss = "0%" := by simpa [plainLoss] using hl
      simp [LossSpec.isFree, hp]

lemma valid_of_mergeAll {ovs : List StepOverride} {base s : ImpairSpec}
    (hb : base.validate fmt = .ok ()) (h : mergeAll fmt base ovs = .ok s) :
    s.validate fmt = .ok () := by
  induction ovs generalizing base with
  | nil =>
    cases h
    exact hb
  | cons ov ovs ih =>
    rw [mergeAll, List.foldlM_cons, bind_eq_ok] at h
    obtain ⟨mid, hmid, hrest⟩ := h
    exact ih (merge_keeps hmid).1 hrest

def recorded (fmt : FloatText) (plan : ScenarioPlan) (start : ImpairSpec) (delay : ℕ → Delay)
    (now : ℕ) : List Stamped :=
  stampPhases delay 0 now (uninterrupted fmt start plan).trace

/-- The k-th phase is a step or an off-phase, and the fold of the overrides up to it has neither
delay nor loss. -/
def RecoversAt (fmt : FloatText) (plan : ScenarioPlan) (k : ℕ) : Prop :=
  ∃ p s, (phases plan)[k]? = some p ∧ p.kind ≠ .on ∧
    mergeAll fmt .default (((phases plan).take (k + 1)).map Phase.ov) = .ok s ∧ s.quiet

/-- The k-th phase is a step, and the loss after it is unset or written `0%`. -/
def PlainStepAt (fmt : FloatText) (plan : ScenarioPlan) (k : ℕ) : Prop :=
  ∃ p s, (phases plan)[k]? = some p ∧ p.kind = .step ∧
    mergeAll fmt .default (((phases plan).take (k + 1)).map Phase.ov) = .ok s ∧ plainLoss s.loss

lemma recorded_getElem {plan : ScenarioPlan} {spec start : ImpairSpec} (hlast : plan.RepeatLast)
    (hvalid : validateFullPlan fmt plan = .ok spec) (hstart : startSpec fmt plan = .ok start)
    (delay : ℕ → Delay) (now k : ℕ) (p : Phase) (s : ImpairSpec) :
    (phases plan)[k]? = some p ∧
        mergeAll fmt .default (((phases plan).take (k + 1)).map Phase.ov) = .ok s ↔
      ∃ x, (recorded fmt plan start delay now)[k]? = some x ∧ x.phase = p ∧ x.spec = s := by
  obtain ⟨-, hphases, hspecs⟩ := uninterrupted_trace hlast hvalid hstart
  have htrace : (uninterrupted fmt start plan).trace[k]? = some (p, s) ↔
      ∃ x, (recorded fmt plan start delay now)[k]? = some x ∧ x.phase = p ∧ x.spec = s := by
    have hmap := map_stampPhases delay 0 now (uninterrupted fmt start plan).trace
    nth_rewrite 1 [← hmap]
    simp [recorded, List.getElem?_map, Option.map_eq_some_iff, Prod.mk.injEq]
  rw [← htrace]
  refine ⟨?_, ?_⟩
  · rintro ⟨hp, hs⟩
    rw [← hphases, List.getElem?_map, Option.map_eq_some_iff] at hp
    obtain ⟨⟨q, t⟩, hq, rfl⟩ := hp
    have ht := hspecs k q t hq
    rw [hs] at ht
    cases ht
    exact hq
  · intro hk
    refine ⟨?_, hspecs k p s hk⟩
    rw [← hphases, List.getElem?_map, hk]
    rfl

theorem recovery_agreement (hfmt : fmt.Numeric) (doc : Yaml) (plan : ScenarioPlan)
    (spec : ImpairSpec) (hparse : parsePlanDoc fmt debug doc = .ok plan)
    (hvalid : validateFullPlan fmt plan = .ok spec) (delay : ℕ → Delay) (now : ℕ) (frame : Frame)
    (window keep : Bool) :
    ∃ start, startSpec fmt plan = .ok start ∧
      (recoveryFrom (timeline fmt frame window keep (recorded fmt plan start delay now)) =
          .ok ((recovered (recorded fmt plan start delay now)).map Stamped.noteAt) ↔
        ∀ k, RecoversAt fmt plan k → (∀ j < k, ¬RecoversAt fmt plan j) → PlainStepAt fmt plan k) ∧
      ∀ t, recoveryFrom (timeline fmt frame window keep (recorded fmt plan start delay now)) =
          .ok (some t) →
        ∃ x ∈ recorded fmt plan start delay now, x.noteAt = t ∧ x.spec.quiet := by
  obtain ⟨start, hstart, -, -⟩ := startSpec_of_validate hvalid
  refine ⟨start, hstart, ?_⟩
  have hget := recorded_getElem (repeatLast_of_parse hparse) hvalid hstart delay now
  have hle : ∀ x ∈ recorded fmt plan start delay now, x.setAt ≤ x.noteAt := setAt_le_noteAt
  have hlt : (recorded fmt plan start delay now).Pairwise fun a b => a.noteAt < b.setAt :=
    stampPhases_pairwise
  rw [recoveryFrom_timeline frame window keep hle hlt]
  generalize recorded fmt plan start delay now = done at hget hle hlt ⊢
  have hnote : done.Pairwise fun a b => a.noteAt < b.noteAt :=
    hlt.imp_of_mem fun _ hb h => h.trans_le (hle _ hb)
  have hzero : ∀ x ∈ done, zeroed (paramSummary fmt x.spec) ↔
      x.spec.rttMs = 0 ∧ plainLoss x.spec.loss := by
    intro x hx
    obtain ⟨k, hk⟩ := List.mem_iff_getElem?.mp hx
    obtain ⟨-, hs⟩ := (hget k x.phase x.spec).mpr ⟨x, hk, rfl, rfl⟩
    exact zeroed_paramSummary hfmt (valid_of_mergeAll (by rfl) hs)
  have hrecovers : ∀ k, RecoversAt fmt plan k ↔
      ∃ x, done[k]? = some x ∧ (decide (x.phase.kind ≠ .on) && x.spec.quiet) := by
    intro k
    refine ⟨?_, ?_⟩
    · rintro ⟨p, s, hp, hon, hs, hq⟩
      obtain ⟨x, hx, rfl, rfl⟩ := (hget k p s).mp ⟨hp, hs⟩
      exact ⟨x, hx, by simp [hon, hq]⟩
    · rintro ⟨x, hx, hB⟩
      simp only [ne_eq, Bool.and_eq_true, decide_eq_true_eq] at hB
      obtain ⟨hp, hs⟩ := (hget k x.phase x.spec).mpr ⟨x, hx, rfl, rfl⟩
      exact ⟨x.phase, x.spec, hp, hB.1, hs, hB.2⟩
  refine ⟨?_, ?_⟩
  · rw [Except.ok.injEq, judged, recovered, find?_agree ?_ hnote, find?_first]
    · refine ⟨?_, ?_⟩
      · intro h k hk hfirst
        obtain ⟨x, hx, hB⟩ := (hrecovers k).mp hk
        have hA := h k x hx hB fun j hj y hy hBy => hfirst j hj ((hrecovers j).mpr ⟨y, hy, hBy⟩)
        simp only [Bool.and_eq_true, decide_eq_true_eq] at hA
        obtain ⟨hp, hs⟩ := (hget k x.phase x.spec).mpr ⟨x, hx, rfl, rfl⟩
        have hz := (hzero x (List.mem_of_getElem? hx)).mp hA.2
        exact ⟨x.phase, x.spec, hp, hA.1, hs, hz.2⟩
      · intro h k x hx hB hfirst
        obtain ⟨p, s, hp, hstep, hs, hl⟩ := h k ((hrecovers k).mpr ⟨x, hx, hB⟩)
          fun j hj hr => by
            obtain ⟨y, hy, hBy⟩ := (hrecovers j).mp hr
            exact hfirst j hj y hy hBy
        obtain ⟨y, hy, rfl, rfl⟩ := (hget k p s).mp ⟨hp, hs⟩
        rw [hx] at hy
        cases hy
        simp only [ne_eq, ImpairSpec.quiet, Bool.and_eq_true, decide_eq_true_eq] at hB
        simp [hstep, (hzero x (List.mem_of_getElem? hx)).mpr ⟨hB.2.1, hl⟩]
    · intro x hx hA
      simp only [Bool.and_eq_true, decide_eq_true_eq] at hA
      obtain ⟨hr, hl⟩ := (hzero x hx).mp hA.2
      simp [hA.1, quiet_of_plain hr hl]
  · intro t ht
    rw [Except.ok.injEq, Option.map_eq_some_iff] at ht
    obtain ⟨x, hx, rfl⟩ := ht
    have hmem := List.mem_of_find?_eq_some hx
    have hA := List.find?_some hx
    simp only [Bool.and_eq_true, decide_eq_true_eq] at hA
    obtain ⟨hr, hl⟩ := (hzero x hmem).mp hA.2
    exact ⟨x, hmem, rfl, quiet_of_plain hr hl⟩

def promptly : ℕ → Delay := fun _ => ⟨0, 0, 0⟩

theorem recovery_agreement_steps :
    ∃ start, startSpec plainText stepsOnlyPlan = .ok start ∧
      recoveryFrom (timeline plainText ⟨0, 0, 60, 150, 150⟩ true false
          (recorded plainText stepsOnlyPlan start promptly 60000)) =
        .ok ((recovered (recorded plainText stepsOnlyPlan start promptly 60000)).map
          Stamped.noteAt) := by
  have hnumeric : plainText.Numeric := by
    intro f _ c hc
    simp [plainText] at hc
  have hvalid : validateFullPlan plainText stepsOnlyPlan = .ok ImpairSpec.default := by
    decide
  obtain ⟨start, hstart, hiff, -⟩ := recovery_agreement hnumeric stepsOnly stepsOnlyPlan _
    stepsOnly_parses hvalid promptly 60000 ⟨0, 0, 60, 150, 150⟩ true false
  refine ⟨start, hstart, hiff.mpr ?_⟩
  intro k hk _
  obtain ⟨p, s, hp, -, hs, hq⟩ := hk
  match k with
  | 0 =>
    have hdelay : mergeAll plainText .default
        (((phases stepsOnlyPlan).take 1).map Phase.ov) =
          .ok { ImpairSpec.default with rttMs := 100 } := by
      decide
    rw [hdelay] at hs
    cases hs
    exact absurd hq (by decide)
  | 1 =>
    exact ⟨⟨.step, { StepOverride.empty with rttMs := some 0 }, 60⟩, ImpairSpec.default,
      by decide, rfl, by decide, rfl⟩
  | k + 2 => simp [phases, stepsOnlyPlan, phasesFrom, linePhases] at hp

def roundsOnly : Yaml :=
  .map [(.str "scenario", .map
    [(.str "repeat", .map
      [(.str "rounds", .int 2), (.str "on_s", .int 5), (.str "off_s", .int 5),
        (.str "set", .map [(.str "loss", .str "5%")])])])]

def roundsOnlyPlan : ScenarioPlan where
  baselineS := 20
  lines :=
    [.repeat 2 5 5 "--loss 5%" "--rtt 0 --jitter 0 --loss 0%"
      { StepOverride.empty with loss := some "5%" } offOverride]
  totalS := 20
  clear := true

/-- The first off-phase takes the loss away, and the judge sees no recovery. -/
theorem rounds_without_recovery :
    parsePlanDoc plainText (fun _ => "") roundsOnly = .ok roundsOnlyPlan ∧
      (validateFullPlan plainText roundsOnlyPlan).toOption.isSome ∧
      startSpec plainText roundsOnlyPlan =
        .ok { ImpairSpec.default with loss := some (.simple "5%") } ∧
      (recovered (recorded plainText roundsOnlyPlan
        { ImpairSpec.default with loss := some (.simple "5%") } promptly 20000)).map
          Stamped.noteAt = some 22 ∧
      recoveryFrom (timeline plainText ⟨0, 0, 20, 50, 50⟩ true false
        (recorded plainText roundsOnlyPlan { ImpairSpec.default with loss := some (.simple "5%") }
          promptly 20000)) = .ok none := by
  decide +kernel

end MediaServo.Weaknet
