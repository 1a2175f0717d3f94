import MediaServo.Host.Emergency

/-! What concurrent triggers of the emergency stop agree on. -/

namespace MediaServo.Host.Emergency

open MediaServo.Foundations

namespace TriggerCall

def number (c : TriggerCall) : Option ℕ :=
  match c.phase with
  | .called => none
  | .counted n | .swapped n _ => some n
  | .returned t => some t.triggerCount

def verdict (c : TriggerCall) : Option Bool :=
  match c.phase with
  | .swapped _ b => some b
  | .returned t => some t.latched
  | _ => none

def line (c : TriggerCall) : Option AuditLine :=
  c.result.map fun t => c.auditLine t.latched t.triggerCount

def written (c : TriggerCall) : Option AuditLine :=
  match c.result with
  | some ⟨latched, n, .ok ()⟩ => some (c.auditLine latched n)
  | _ => none

end TriggerCall

/-- One call arms the latch and it is the first in the count, the counts are one to the number of
calls, and every call has its line. -/
structure Linear (s : EmergencyPlane) : Prop where
  oneLatched : s.results.countP EmergencyTrigger.latched = 1
  first : ∀ t ∈ s.results, t.latched = true ↔ t.triggerCount = 1
  counts : (s.results.map EmergencyTrigger.triggerCount).Perm (List.range' 1 s.calls.length)
  audited : s.audit.Perm (s.calls.filterMap TriggerCall.line)

/-- The latch is armed by the call that has counted first, and no append fails. -/
def Orderly (s : EmergencyPlane) (a : ℕ × Option String) : Prop :=
  ∀ c, s.calls[a.1]? = some c →
    (∀ n, c.phase = .counted n → s.latch = false → n = 1) ∧
      ∀ n b, c.phase = .swapped n b → a.2 = none

lemma set_split {α : Type} {l : List α} {i : ℕ} {x : α} (h : l[i]? = some x) :
    ∃ as bs, l = as ++ x :: bs ∧ ∀ y, l.set i y = as ++ y :: bs := by
  obtain ⟨hi, rfl⟩ := List.getElem?_eq_some_iff.mp h
  refine ⟨l.take i, l.drop (i + 1), ?_, ?_⟩
  · rw [List.getElem_cons_drop, List.take_append_drop]
  · intro y
    rw [List.set_eq_take_append_cons_drop, if_pos hi]

lemma filterMap_swap {α β : Type} (f : α → Option β) {as bs : List α} {x y : α} (h : f x = f y) :
    (as ++ x :: bs).filterMap f = (as ++ y :: bs).filterMap f := by
  simp only [List.filterMap_append, List.filterMap_cons, h]

lemma filterMap_fill {α β : Type} (f : α → Option β) {as bs : List α} {x y : α} {b : β}
    (hx : f x = none) (hy : f y = some b) :
    ((as ++ y :: bs).filterMap f).Perm (b :: (as ++ x :: bs).filterMap f) := by
  simp only [List.filterMap_append, List.filterMap_cons, hx, hy]
  exact List.perm_middle

lemma forall_split {as bs : List TriggerCall} {c c' : TriggerCall} {P : TriggerCall → Prop}
    (h : ∀ x ∈ as ++ c :: bs, P x) (hc : P c') : ∀ x ∈ as ++ c' :: bs, P x := by
  intro x hx
  rw [List.mem_append, List.mem_cons] at hx
  obtain hx | rfl | hx := hx
  · exact h x (by simp [hx])
  · exact hc
  · exact h x (by simp [hx])

lemma exists_split {as bs : List TriggerCall} {c c' : TriggerCall} {P : TriggerCall → Prop}
    (h : ∃ x ∈ as ++ c :: bs, P x) (hc : P c → P c') : ∃ x ∈ as ++ c' :: bs, P x := by
  obtain ⟨x, hx, hp⟩ := h
  rw [List.mem_append, List.mem_cons] at hx
  obtain hx | rfl | hx := hx
  · exact ⟨x, by simp [hx], hp⟩
  · exact ⟨c', by simp, hc hp⟩
  · exact ⟨x, by simp [hx], hp⟩

section Step

variable {s : EmergencyPlane} {i : ℕ} {io : Option String}

lemma step_cases (s : EmergencyPlane) (i : ℕ) (io : Option String) :
    s.step (i, io) = s ∨ ∃ as c bs, s.calls[i]? = some c ∧ s.calls = as ++ c :: bs ∧
      ((c.phase = .called ∧ s.step (i, io) =
          ⟨⟨s.latch, (s.count + 1) % 2 ^ 64, s.audit⟩,
            as ++ { c with phase := .counted ((s.count + 1) % 2 ^ 64) } :: bs⟩) ∨
        (∃ n, c.phase = .counted n ∧ s.step (i, io) =
          ⟨⟨true, s.count, s.audit⟩, as ++ { c with phase := .swapped n (!s.latch) } :: bs⟩) ∨
        (∃ n b, c.phase = .swapped n b ∧ io = none ∧ s.step (i, io) =
          ⟨⟨s.latch, s.count, s.audit ++ [c.auditLine b n]⟩,
            as ++ { c with phase := .returned ⟨b, n, .ok ()⟩ } :: bs⟩) ∨
        ∃ n b e, c.phase = .swapped n b ∧ io = some e ∧ s.step (i, io) =
          ⟨⟨s.latch, s.count, s.audit⟩,
            as ++ { c with phase := .returned ⟨b, n, .error ("audit append: " ++ e)⟩ } :: bs⟩) := by
  cases hc : s.calls[i]? with
  | none =>
    left
    simp only [EmergencyPlane.step, hc]
  | some c =>
    obtain ⟨as, bs, hl, hset⟩ := set_split hc
    cases hp : c.phase with
    | returned t =>
      left
      simp only [EmergencyPlane.step, hc, hp]
    | called =>
      refine Or.inr ⟨as, c, bs, rfl, hl, Or.inl ⟨hp, ?_⟩⟩
      simp only [EmergencyPlane.step, hc, hp, EmergencyPlane.fetchAdd, hset]
    | counted n =>
      refine Or.inr ⟨as, c, bs, rfl, hl, Or.inr (Or.inl ⟨n, hp, ?_⟩)⟩
      simp only [EmergencyPlane.step, hc, hp, EmergencyPlane.swapLatch, hset]
    | swapped n b =>
      cases io with
      | none =>
        refine Or.inr ⟨as, c, bs, rfl, hl, Or.inr (Or.inr (Or.inl ⟨n, b, hp, rfl, ?_⟩))⟩
        simp only [EmergencyPlane.step, hc, hp, EmergencyPlane.appendAudit, hset]
      | some e =>
        refine Or.inr ⟨as, c, bs, rfl, hl, Or.inr (Or.inr (Or.inr ⟨n, b, e, hp, rfl, ?_⟩))⟩
        simp only [EmergencyPlane.step, hc, hp, EmergencyPlane.appendAudit, hset]

end Step

section Always

variable {s : EmergencyPlane} {triggers : List (EmergencySource × Option ℕ)}
  {acts : List (ℕ × Option String)}

/-- The file holds the lines that were written, and a count fits into 64 bits. -/
structure Sound (s : EmergencyPlane) : Prop where
  audit : s.audit.Perm (s.calls.filterMap TriggerCall.written)
  bounded : ∀ c ∈ s.calls, ∀ n, c.number = some n → n < 2 ^ 64

lemma Sound.step (hs : Sound s) (a : ℕ × Option String) : Sound (s.step a) := by
  obtain ⟨i, io⟩ := a
  obtain he | ⟨as, c, bs, _, hl, h⟩ := step_cases s i io
  · rwa [he]
  have haudit := hs.audit
  have hbound := hs.bounded
  rw [hl] at haudit hbound
  have hown := hbound c (by simp)
  obtain ⟨hp, he⟩ | ⟨n, hp, he⟩ | ⟨n, b, hp, _, he⟩ | ⟨n, b, e, hp, _, he⟩ := h
  · rw [he]
    refine ⟨?_, forall_split hbound ?_⟩
    · rwa [filterMap_swap _ (show _ = c.written by simp [TriggerCall.written, TriggerCall.result, hp])]
    · rintro m ⟨⟩
      exact Nat.mod_lt _ (by decide)
  · rw [he]
    refine ⟨?_, forall_split hbound ?_⟩
    · rwa [filterMap_swap _ (show _ = c.written by simp [TriggerCall.written, TriggerCall.result, hp])]
    · rintro m ⟨⟩
      exact hown n (by simp [TriggerCall.number, hp])
  · rw [he]
    refine ⟨?_, forall_split hbound ?_⟩
    · have hw : c.written = none := by simp [TriggerCall.written, TriggerCall.result, hp]
      exact (List.perm_append_singleton _ _).trans
        ((haudit.cons _).trans (filterMap_fill _ hw rfl).symm)
    · rintro m ⟨⟩
      exact hown n (by simp [TriggerCall.number, hp])
  · rw [he]
    refine ⟨?_, forall_split hbound ?_⟩
    · rwa [filterMap_swap _ (show _ = c.written by simp [TriggerCall.written, TriggerCall.result, hp])]
    · rintro m ⟨⟩
      exact hown n (by simp [TriggerCall.number, hp])

lemma sound_run (triggers : List (EmergencySource × Option ℕ)) (acts : List (ℕ × Option String)) :
    Sound (run EmergencyPlane.step (EmergencyPlane.start triggers) acts) := by
  apply run_preserves
  · refine ⟨?_, ?_⟩
    · have hnone : (EmergencyPlane.start triggers).calls.filterMap TriggerCall.written = [] := by
        rw [List.filterMap_eq_nil_iff]
        intro c hc
        obtain ⟨t, _, rfl⟩ := List.mem_map.mp hc
        rfl
      rw [hnone]
      exact .nil
    · intro c hc n hn
      obtain ⟨t, _, rfl⟩ := List.mem_map.mp hc
      cases hn
  · exact fun s a hs => hs.step a

def TriggerCall.Tainted (c : TriggerCall) : Prop :=
  (c.verdict = some true ∧ ∃ n, c.number = some n ∧ n ≠ 1) ∨ c.line.isSome ∧ c.written = none

lemma tainted_step {s : EmergencyPlane} (a : ℕ × Option String)
    (h : ∃ c ∈ s.calls, c.Tainted) : ∃ c ∈ (s.step a).calls, c.Tainted := by
  obtain ⟨i, io⟩ := a
  obtain he | ⟨as, c, bs, _, hl, hcase⟩ := step_cases s i io
  · rwa [he]
  rw [hl] at h
  obtain ⟨hp, he⟩ | ⟨n, hp, he⟩ | ⟨n, b, hp, _, he⟩ | ⟨n, b, e, hp, _, he⟩ := hcase
  · rw [he]
    apply exists_split h
    simp [TriggerCall.Tainted, TriggerCall.verdict, TriggerCall.line, TriggerCall.result, hp]
  · rw [he]
    apply exists_split h
    simp [TriggerCall.Tainted, TriggerCall.verdict, TriggerCall.line, TriggerCall.result, hp]
  · rw [he]
    apply exists_split h
    simp [TriggerCall.Tainted, TriggerCall.verdict, TriggerCall.number, TriggerCall.line,
      TriggerCall.written, TriggerCall.result, hp]
  · rw [he]
    apply exists_split h
    simp [TriggerCall.Tainted, TriggerCall.line, TriggerCall.written, TriggerCall.result]

lemma disorderly_taints {s : EmergencyPlane} (a : ℕ × Option String) (h : ¬Orderly s a) :
    ∃ c ∈ (s.step a).calls, c.Tainted := by
  by_contra hno
  apply h
  intro c hc
  obtain ⟨as, bs, _, hset⟩ := set_split hc
  refine ⟨?_, ?_⟩
  · intro n hp hlatch
    by_contra hn
    apply hno
    refine ⟨{ c with phase := .swapped n (!s.latch) }, ?_, Or.inl ⟨?_, n, rfl, hn⟩⟩
    · simp [EmergencyPlane.step, hc, hp, EmergencyPlane.swapLatch, hset]
    · simp [TriggerCall.verdict, hlatch]
  · intro n b hp
    cases hio : a.2 with
    | none => rfl
    | some e =>
      exfalso
      apply hno
      refine ⟨{ c with phase := .returned ⟨b, n, .error ("audit append: " ++ e)⟩ }, ?_,
        Or.inr ⟨rfl, rfl⟩⟩
      simp [EmergencyPlane.step, hc, hp, hio, EmergencyPlane.appendAudit, hset]

lemma calls_length (s : EmergencyPlane) (acts : List (ℕ × Option String)) :
    (run EmergencyPlane.step s acts).calls.length = s.calls.length := by
  have hstep : ∀ (t : EmergencyPlane) a, t.calls.length = s.calls.length →
      (EmergencyPlane.step t a).calls.length = s.calls.length := by
    intro t a ht
    obtain he | ⟨as, c, bs, _, hl, h⟩ := step_cases t a.1 a.2
    · rwa [he]
    · rw [hl] at ht
      obtain ⟨_, he⟩ | ⟨_, _, he⟩ | ⟨_, _, _, _, he⟩ | ⟨_, _, _, _, _, he⟩ := h <;>
        · rw [he]
          simpa using ht
  exact run_preserves (I := fun (t : EmergencyPlane) => t.calls.length = s.calls.length) rfl hstep acts

end Always

section Returned

variable {s : EmergencyPlane}

lemma result_of_done {c : TriggerCall} (h : c.done = true) :
    ∃ t, c.phase = .returned t ∧ c.result = some t := by
  rw [TriggerCall.done, TriggerCall.result] at h
  rw [TriggerCall.result]
  cases hp : c.phase with
  | returned t => exact ⟨t, rfl, rfl⟩
  | called | counted _ | swapped _ _ => simp [hp] at h

lemma Linear.untainted (h : Linear s) (hs : Sound s) (hdone : ∀ c ∈ s.calls, c.done = true) :
    ¬∃ c ∈ s.calls, c.Tainted := by
  intro ⟨c, hc, ht⟩
  obtain ⟨t, hp, hr⟩ := result_of_done (hdone c hc)
  obtain ⟨hv, n, hn, hne⟩ | ⟨_, hw⟩ := ht
  · simp only [TriggerCall.verdict, TriggerCall.number, hp, Option.some.injEq] at hv hn
    have hmem : t ∈ s.results := List.mem_filterMap.mpr ⟨c, hc, hr⟩
    exact hne (hn ▸ (h.first t hmem).mp hv)
  · have hall : (s.calls.filterMap TriggerCall.line).length = s.calls.length := by
      apply List.filterMap_length_eq_length.mpr
      intro c hc
      obtain ⟨t, _, hr⟩ := result_of_done (hdone c hc)
      simp [TriggerCall.line, hr]
    have hwritten : (s.calls.filterMap TriggerCall.written).length = s.calls.length := by
      rw [← hs.audit.length_eq, h.audited.length_eq, hall]
    have hsome := List.filterMap_length_eq_length.mp hwritten c hc
    simp [hw] at hsome

lemma Linear.small (h : Linear s) (hs : Sound s) : s.calls.length < 2 ^ 64 := by
  obtain hz | hpos := Nat.eq_zero_or_pos s.calls.length
  · rw [hz]
    decide
  · have hmem : s.calls.length ∈ List.range' 1 s.calls.length := by
      rw [List.mem_range'_1]
      omega
    obtain ⟨t, ht, heq⟩ := List.mem_map.mp (h.counts.mem_iff.mpr hmem)
    obtain ⟨c, hc, hr⟩ := List.mem_filterMap.mp ht
    have hbound := hs.bounded c hc t.triggerCount
    apply heq ▸ hbound
    rw [TriggerCall.result] at hr
    rw [TriggerCall.number]
    cases hp : c.phase with
    | returned t' =>
      rw [hp] at hr
      cases hr
      exact congrArg some heq
    | called | counted _ | swapped _ _ =>
      rw [hp] at hr
      cases hr

end Returned

section Agreement

variable {s : EmergencyPlane}

/-- What holds while the calls agree: `numbers` says that no count is drawn twice, `armed` that the
one call with the count one has armed the latch. -/
structure Inv (s : EmergencyPlane) : Prop where
  size : s.calls.length < 2 ^ 64
  numbers : (s.calls.filterMap TriggerCall.number).Perm (List.range' 1 s.count)
  verdicts : ∀ c ∈ s.calls, ∀ b, c.verdict = some b → (b = true ↔ c.number = some 1)
  armed : s.latch = true → ∃ c ∈ s.calls, c.verdict = some true
  lines : ∀ c ∈ s.calls, c.written = c.line

lemma number_fresh {as bs : List TriggerCall} {c x : TriggerCall} {n k : ℕ}
    (h : ((as ++ c :: bs).filterMap TriggerCall.number).Perm (List.range' 1 k))
    (hc : c.number = some n) (hx : x ∈ as ++ c :: bs) (hne : x ≠ c) : x.number ≠ some n := by
  intro hn
  have hnodup := h.nodup_iff.mpr (List.nodup_range' (s := 1) (n := k))
  rw [List.filterMap_append, List.filterMap_cons_some hc, List.nodup_middle, List.nodup_cons,
    List.mem_append] at hnodup
  apply hnodup.1
  rw [List.mem_append, List.mem_cons] at hx
  obtain hx | rfl | hx := hx
  · exact Or.inl (List.mem_filterMap.mpr ⟨x, hx, hn⟩)
  · exact absurd rfl hne
  · exact Or.inr (List.mem_filterMap.mpr ⟨x, hx, hn⟩)

lemma Inv.step (hs : Inv s) {a : ℕ × Option String} (ha : Orderly s a) : Inv (s.step a) := by
  obtain ⟨i, io⟩ := a
  obtain he | ⟨as, c, bs, hget, hl, h⟩ := step_cases s i io
  · rwa [he]
  obtain ⟨hcount, happend⟩ := ha c hget
  have hsize := hs.size
  have hnumbers := hs.numbers
  have hverdicts := hs.verdicts
  have harmed := hs.armed
  have hlines := hs.lines
  rw [hl] at hsize hnumbers hverdicts harmed hlines
  obtain ⟨hp, he⟩ | ⟨n, hp, he⟩ | ⟨n, b, hp, _, he⟩ | ⟨n, b, e, hp, hio, _⟩ := h
  · have hnone : c.number = none := by simp [TriggerCall.number, hp]
    have hroom : s.count + 1 < 2 ^ 64 := by
      have hlen := hnumbers.length_eq
      rw [List.length_range', List.filterMap_append, List.filterMap_cons_none hnone,
        List.length_append] at hlen
      have h₁ := List.length_filterMap_le TriggerCall.number as
      have h₂ := List.length_filterMap_le TriggerCall.number bs
      rw [List.length_append, List.length_cons] at hsize
      omega
    rw [he, Nat.mod_eq_of_lt hroom]
    refine ⟨by simpa using hsize, ?_, ?_, ?_, ?_⟩
    · refine (filterMap_fill _ hnone rfl).trans ?_
      rw [List.range'_1_concat]
      refine ((hnumbers.cons _).trans ?_)
      rw [Nat.add_comm 1]
      exact (List.perm_append_singleton _ _).symm
    · exact forall_split hverdicts nofun
    · intro h
      exact exists_split (harmed h) (by simp [TriggerCall.verdict, hp])
    · exact forall_split hlines rfl
  · rw [he]
    refine ⟨by simpa using hsize, ?_, ?_, ?_, ?_⟩
    · rwa [filterMap_swap _ (show _ = c.number by simp [TriggerCall.number, hp])]
    · apply forall_split hverdicts
      rintro b ⟨⟩
      cases hlatch : s.latch with
      | false => simp [TriggerCall.number, hcount n hp hlatch]
      | true =>
        -- the call that has armed the latch has the count one
        obtain ⟨x, hx, hv⟩ := harmed hlatch
        have hone := (hverdicts x hx true hv).mp rfl
        have hne : x ≠ c := by
          rintro rfl
          simp [TriggerCall.verdict, hp] at hv
        have hn : n ≠ 1 := by
          rintro rfl
          exact number_fresh hnumbers (by simp [TriggerCall.number, hp]) hx hne hone
        simp [TriggerCall.number, hn]
    · intro _
      cases hlatch : s.latch with
      | false => exact ⟨_, List.mem_append_right _ List.mem_cons_self, rfl⟩
      | true => exact exists_split (harmed hlatch) (by simp [TriggerCall.verdict, hp])
    · exact forall_split hlines rfl
  · have hn : c.number = some n := by simp [TriggerCall.number, hp]
    have hv : c.verdict = some b := by simp [TriggerCall.verdict, hp]
    rw [he]
    refine ⟨by simpa using hsize, ?_, ?_, ?_, ?_⟩
    · rwa [filterMap_swap _ (show _ = c.number by rw [hn]; rfl)]
    · apply forall_split hverdicts
      rintro b' ⟨⟩
      have hown := hverdicts c (by simp) b hv
      rwa [hn] at hown
    · intro h
      exact exists_split (harmed h) fun ht => ht ▸ hv.symm
    · exact forall_split hlines rfl
  · exact absurd (happend n b hp) (by simp [hio])

lemma returned_parts {c : TriggerCall} {t : EmergencyTrigger} (h : c.phase = .returned t) :
    c.number = some t.triggerCount ∧ c.verdict = some t.latched := by
  simp [TriggerCall.number, TriggerCall.verdict, h]

lemma counts_of_done (hdone : ∀ c ∈ s.calls, c.done = true) :
    s.results.map EmergencyTrigger.triggerCount = s.calls.filterMap TriggerCall.number := by
  rw [EmergencyPlane.results, List.map_filterMap]
  apply List.filterMap_congr
  intro c hc
  obtain ⟨t, hp, hr⟩ := result_of_done (hdone c hc)
  rw [hr, (returned_parts hp).1, Option.map_some]

lemma Inv.linear (hs : Inv s) (hsound : Sound s) (hdone : ∀ c ∈ s.calls, c.done = true)
    (hne : s.calls ≠ []) : Linear s := by
  have hcount : s.count = s.calls.length := by
    have hall : (s.calls.filterMap TriggerCall.number).length = s.calls.length := by
      apply List.filterMap_length_eq_length.mpr
      intro c hc
      obtain ⟨t, hp, _⟩ := result_of_done (hdone c hc)
      rw [(returned_parts hp).1, Option.isSome_some]
    rw [← hall, hs.numbers.length_eq, List.length_range']
  have hcounts : (s.results.map EmergencyTrigger.triggerCount).Perm
      (List.range' 1 s.calls.length) := by
    rw [counts_of_done hdone, ← hcount]
    exact hs.numbers
  have hfirst : ∀ t ∈ s.results, t.latched = true ↔ t.triggerCount = 1 := by
    intro t ht
    obtain ⟨c, hc, hr⟩ := List.mem_filterMap.mp ht
    obtain ⟨t', hp, hr'⟩ := result_of_done (hdone c hc)
    obtain rfl := Option.some.inj (hr.symm.trans hr')
    have h := hs.verdicts c hc t.latched (returned_parts hp).2
    rwa [(returned_parts hp).1, Option.some.injEq] at h
  refine ⟨?_, hfirst, hcounts, ?_⟩
  · have hone : 1 ∈ List.range' 1 s.calls.length := by
      have hpos := List.length_pos_iff.mpr hne
      rw [List.mem_range'_1]
      omega
    calc s.results.countP EmergencyTrigger.latched
        = s.results.countP (fun t => t.triggerCount == 1) := by
          apply List.countP_congr
          intro t ht
          rw [hfirst t ht, beq_iff_eq]
      _ = (s.results.map EmergencyTrigger.triggerCount).count 1 := by
          rw [List.count, List.countP_map]
          rfl
      _ = (List.range' 1 s.calls.length).count 1 := hcounts.count_eq 1
      _ = 1 := List.count_eq_one_of_mem List.nodup_range' hone
  · rw [← List.filterMap_congr hs.lines]
    exact hsound.audit

lemma inv_start {triggers : List (EmergencySource × Option ℕ)} (h : triggers.length < 2 ^ 64) :
    Inv (EmergencyPlane.start triggers) := by
  have hcalled : ∀ c ∈ (EmergencyPlane.start triggers).calls, c.phase = .called := by
    intro c hc
    obtain ⟨t, _, rfl⟩ := List.mem_map.mp hc
    rfl
  refine ⟨by simpa [EmergencyPlane.start] using h, ?_, ?_, nofun, ?_⟩
  · have hnone : (EmergencyPlane.start triggers).calls.filterMap TriggerCall.number = [] := by
      rw [List.filterMap_eq_nil_iff]
      intro c hc
      rw [TriggerCall.number, hcalled c hc]
    rw [hnone]
    exact .nil
  · intro c hc b hb
    rw [TriggerCall.verdict, hcalled c hc] at hb
    cases hb
  · intro c hc
    simp [TriggerCall.written, TriggerCall.line, TriggerCall.result, hcalled c hc]

theorem latch_linear_iff (triggers : List (EmergencySource × Option ℕ))
    (acts : List (ℕ × Option String)) (hne : triggers ≠ [])
    (hdone : ∀ c ∈ (run EmergencyPlane.step (EmergencyPlane.start triggers) acts).calls,
      c.done = true) :
    Linear (run EmergencyPlane.step (EmergencyPlane.start triggers) acts) ↔
      triggers.length < 2 ^ 64 ∧
        Along EmergencyPlane.step Orderly (EmergencyPlane.start triggers) acts := by
  have hsound := sound_run triggers acts
  have hlength : (run EmergencyPlane.step (EmergencyPlane.start triggers) acts).calls.length =
      triggers.length := by
    rw [calls_length, EmergencyPlane.start, List.length_map]
  constructor
  · intro h
    refine ⟨hlength ▸ h.small hsound, ?_⟩
    exact along_of_no_trace (T := fun t : EmergencyPlane => ∃ c ∈ t.calls, c.Tainted)
      (fun _ a ha => disorderly_taints a ha) (fun _ a ht => tainted_step a ht)
      (h.untainted hsound hdone)
  · intro ⟨hsize, halong⟩
    have hinv := run_invariant (inv_start hsize) (fun _ _ hs ha => hs.step ha) halong
    apply hinv.linear hsound hdone
    rw [← List.length_pos_iff, hlength]
    exact List.length_pos_iff.mpr hne

def remoteAndLocal : List (EmergencySource × Option ℕ) := [(.dc, some 7), (.localFallback, none)]

theorem second_follows_first :
    Linear (run EmergencyPlane.step (EmergencyPlane.start remoteAndLocal)
      [(0, none), (0, none), (0, none), (1, none), (1, none), (1, none)]) := by
  refine (latch_linear_iff remoteAndLocal _ (by decide) (by decide)).mpr ⟨by decide, ?_⟩
  refine ⟨?_, ?_, ?_, ?_, ?_, ?_, trivial⟩ <;> intro c hc <;> cases hc <;> simp <;> decide

/-- The second in the count arms the latch. -/
theorem second_arms_latch :
    ¬Linear (run EmergencyPlane.step (EmergencyPlane.start remoteAndLocal)
      [(0, none), (1, none), (1, none), (0, none), (0, none), (1, none)]) := by
  intro h
  have hfirst := h.first ⟨true, 2, .ok ()⟩ (by decide)
  exact absurd (hfirst.mp rfl) (by decide)

end Agreement

end MediaServo.Host.Emergency
