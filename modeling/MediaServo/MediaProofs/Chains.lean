import MediaServo.Media.Engine

/-! The table of chains and the tasks, in every run: a source is taken from the table once, and the
task that has it is its chain's alone. -/

namespace MediaServo.Media

open MediaServo.Foundations

namespace PipelineEngine

structure Wired (s : PipelineEngine) : Prop where
  distinct : ∀ id k c d, s.chains.get id = some c → s.chains.get k = some d →
    c.registered = d.registered → id = k
  chainOld : ∀ id c, s.chains.get id = some c → c.registered < s.next
  taskOld : ∀ t a, s.tasks.get t = some a → t < s.next ∧ a.registered < s.next
  source : ∀ id c t a, s.chains.get id = some c → c.source → s.tasks.get t = some a →
    a.registered ≠ c.registered
  once : ∀ t u a b, s.tasks.get t = some a → s.tasks.get u = some b →
    a.registered = b.registered → t = u
  handle : ∀ id c t, s.chains.get id = some c → c.task = some t →
    ∃ a, s.tasks.get t = some a ∧ a.registered = c.registered ∧ a.aborted = false
  ended : ∀ t a, s.tasks.get t = some a → a.ended → a.aborted ∨ s.shutdown
  callOld : ∀ i v, s.calls.get i = some v → i < s.next

variable {s s' : PipelineEngine} {i pick : ℕ} {id : String}

lemma wired_new : new.Wired := by
  constructor <;> intros <;> simp_all [new]

lemma Wired.insert (hs : s.Wired) : (s.insert id).Wired := by
  have hget : ∀ k c, (s.insert id).chains.get k = some c →
      k = id ∧ c = ⟨true, none, s.next⟩ ∨ s.chains.get k = some c := by
    intro k c hk
    simp only [PipelineEngine.insert, FiniteMap.get_set] at hk
    split_ifs at hk with h
    · cases hk
      exact Or.inl ⟨h, rfl⟩
    · exact Or.inr hk
  constructor
  · intro a b c d ha hb h
    obtain ⟨rfl, rfl⟩ | ha' := hget a c ha
    · obtain ⟨rfl, _⟩ | hb' := hget b d hb
      · rfl
      · exact absurd h (hs.chainOld b d hb').ne'
    · obtain ⟨rfl, rfl⟩ | hb' := hget b d hb
      · exact absurd h (hs.chainOld a c ha').ne
      · exact hs.distinct a b c d ha' hb' h
  · intro k c hk
    obtain ⟨rfl, rfl⟩ | hk := hget k c hk
    · exact Nat.lt_succ_self _
    · exact Nat.lt_succ_of_lt (hs.chainOld k c hk)
  · intro t a ht
    obtain ⟨h₁, h₂⟩ := hs.taskOld t a ht
    exact ⟨Nat.lt_succ_of_lt h₁, Nat.lt_succ_of_lt h₂⟩
  · intro k c t a hk hc ht
    obtain ⟨rfl, rfl⟩ | hk := hget k c hk
    · exact (hs.taskOld t a ht).2.ne
    · exact hs.source k c t a hk hc ht
  · exact hs.once
  · intro k c t hk hc
    obtain ⟨rfl, rfl⟩ | hk := hget k c hk
    · cases hc
    · exact hs.handle k c t hk hc
  · exact hs.ended
  · intro i v hi
    exact Nat.lt_succ_of_lt (hs.callOld i v hi)

lemma spawnChain_ok (h : s.spawnChain id = .ok s') : ∃ c, s.chains.get id = some c ∧ c.source ∧
    s' = { s with
      chains := s.chains.adjust id fun c => { c with source := false, task := some s.next }
      tasks := s.tasks.set s.next ⟨c.registered, false, false⟩
      next := s.next + 1 } := by
  cases hc : s.chains.get id with
  | none => simp [spawnChain, hc] at h
  | some c =>
    simp only [spawnChain, hc] at h
    split_ifs at h with hsrc
    cases h
    exact ⟨c, rfl, hsrc, rfl⟩

lemma Wired.spawnChain (hs : s.Wired) (h : s.spawnChain id = .ok s') : s'.Wired := by
  obtain ⟨c, hc, hsrc, rfl⟩ := spawnChain_ok h
  have hget : ∀ k d, (s.chains.adjust id fun c => { c with
      source := false, task := some s.next }).get k = some d →
      k = id ∧ d = ⟨false, some s.next, c.registered⟩ ∨ k ≠ id ∧ s.chains.get k = some d := by
    intro k d hk
    rw [FiniteMap.get_adjust] at hk
    split_ifs at hk with hki
    · subst hki
      rw [hc] at hk
      cases hk
      exact Or.inl ⟨rfl, rfl⟩
    · exact Or.inr ⟨hki, hk⟩
  have htask : ∀ t a, (s.tasks.set s.next ⟨c.registered, false, false⟩).get t = some a →
      t = s.next ∧ a = ⟨c.registered, false, false⟩ ∨ s.tasks.get t = some a := by
    intro t a ht
    rw [FiniteMap.get_set] at ht
    split_ifs at ht with hti
    · cases ht
      exact Or.inl ⟨hti, rfl⟩
    · exact Or.inr ht
  have hreg : ∀ k d, (s.chains.adjust id fun c => { c with
      source := false, task := some s.next }).get k = some d →
      ∃ d', s.chains.get k = some d' ∧ d'.registered = d.registered := by
    intro k d hk
    obtain ⟨rfl, rfl⟩ | ⟨_, hk⟩ := hget k d hk
    · exact ⟨c, hc, rfl⟩
    · exact ⟨d, hk, rfl⟩
  constructor
  · intro a b x y ha hb hxy
    obtain ⟨x', ha', hx⟩ := hreg a x ha
    obtain ⟨y', hb', hy⟩ := hreg b y hb
    apply hs.distinct a b x' y' ha' hb'
    rw [hx, hy, hxy]
  · intro k d hk
    obtain ⟨d', hk', hd⟩ := hreg k d hk
    rw [← hd]
    exact Nat.lt_succ_of_lt (hs.chainOld k d' hk')
  · intro t a ht
    obtain ⟨rfl, rfl⟩ | ht := htask t a ht
    · exact ⟨Nat.lt_succ_self _, Nat.lt_succ_of_lt (hs.chainOld id c hc)⟩
    · obtain ⟨h₁, h₂⟩ := hs.taskOld t a ht
      exact ⟨Nat.lt_succ_of_lt h₁, Nat.lt_succ_of_lt h₂⟩
  · intro k d t a hk hd ht
    obtain ⟨rfl, rfl⟩ | ⟨hne, hk⟩ := hget k d hk
    · cases hd
    · obtain ⟨rfl, rfl⟩ | ht := htask t a ht
      · intro h
        exact hne (hs.distinct k id d c hk hc h.symm)
      · exact hs.source k d t a hk hd ht
  · intro t u a b ht hu hab
    obtain ⟨rfl, rfl⟩ | ht := htask t a ht
    · obtain ⟨rfl, _⟩ | hu := htask u b hu
      · rfl
      · exact absurd hab.symm (hs.source id c u b hc hsrc hu)
    · obtain ⟨rfl, rfl⟩ | hu := htask u b hu
      · exact absurd hab (hs.source id c t a hc hsrc ht)
      · exact hs.once t u a b ht hu hab
  · intro k d t hk hd
    obtain ⟨rfl, rfl⟩ | ⟨_, hk⟩ := hget k d hk
    · cases hd
      exact ⟨_, FiniteMap.get_set_self _ _ _, rfl, rfl⟩
    · obtain ⟨a, ha, h⟩ := hs.handle k d t hk hd
      refine ⟨a, ?_, h⟩
      rw [FiniteMap.get_set_ne _ _ (hs.taskOld t a ha).1.ne]
      exact ha
  · intro t a ht he
    obtain ⟨rfl, rfl⟩ | ht := htask t a ht
    · cases he
    · exact hs.ended t a ht he
  · intro i v hi
    exact Nat.lt_succ_of_lt (hs.callOld i v hi)

lemma Wired.shrink (hs : s.Wired) {m : FiniteMap String ChainState}
    (h : ∀ k c, m.get k = some c → ∃ d, s.chains.get k = some d ∧ d.registered = c.registered ∧
      (c.source → d.source) ∧ ∀ t, c.task = some t → d.task = some t) :
    Wired { s with chains := m } := by
  constructor
  · intro a b x y ha hb hxy
    obtain ⟨x', ha', hx, _⟩ := h a x ha
    obtain ⟨y', hb', hy, _⟩ := h b y hb
    apply hs.distinct a b x' y' ha' hb'
    rw [hx, hy, hxy]
  · intro k c hk
    obtain ⟨d, hk', hd, _⟩ := h k c hk
    rw [← hd]
    exact hs.chainOld k d hk'
  · exact hs.taskOld
  · intro k c t a hk hc ht
    obtain ⟨d, hk', hd, hsrc, _⟩ := h k c hk
    rw [← hd]
    exact hs.source k d t a hk' (hsrc hc) ht
  · exact hs.once
  · intro k c t hk hc
    obtain ⟨d, hk', hd, _, htask⟩ := h k c hk
    rw [← hd]
    exact hs.handle k d t hk' (htask t hc)
  · exact hs.ended
  · exact hs.callOld

lemma Wired.adjust (hs : s.Wired) (t₀ : ℕ) {f : ChainTask → ChainTask}
    (hreg : ∀ a, (f a).registered = a.registered)
    (habort : ∀ id c, s.chains.get id = some c → c.task = some t₀ →
      ∀ a, a.aborted = false → (f a).aborted = false)
    (hended : ∀ a, (a.ended → a.aborted ∨ s.shutdown) → (f a).ended → (f a).aborted ∨ s.shutdown) :
    Wired { s with tasks := s.tasks.adjust t₀ f } := by
  have hget : ∀ t a, (s.tasks.adjust t₀ f).get t = some a →
      ∃ b, s.tasks.get t = some b ∧ a.registered = b.registered ∧ (a = b ∨ a = f b) := by
    intro t a ht
    rw [FiniteMap.get_adjust] at ht
    split_ifs at ht
    · obtain ⟨b, hb, rfl⟩ := Option.map_eq_some_iff.mp ht
      exact ⟨b, hb, hreg b, Or.inr rfl⟩
    · exact ⟨a, ht, rfl, Or.inl rfl⟩
  constructor
  · exact hs.distinct
  · exact hs.chainOld
  · intro t a ht
    obtain ⟨b, hb, hab, _⟩ := hget t a ht
    rw [hab]
    exact hs.taskOld t b hb
  · intro k c t a hk hc ht
    obtain ⟨b, hb, hab, _⟩ := hget t a ht
    rw [hab]
    exact hs.source k c t b hk hc hb
  · intro t u a b ht hu hab
    obtain ⟨a', ha', ha, _⟩ := hget t a ht
    obtain ⟨b', hb', hb, _⟩ := hget u b hu
    apply hs.once t u a' b' ha' hb'
    rw [← ha, ← hb, hab]
  · intro k c t hk hc
    obtain ⟨a, ha, hac, hlive⟩ := hs.handle k c t hk hc
    by_cases h : t = t₀
    · subst h
      exact ⟨f a, by simp [FiniteMap.get_adjust, ha], by rw [hreg, hac], habort k c hk hc a hlive⟩
    · exact ⟨a, by simp [FiniteMap.get_adjust, h, ha], hac, hlive⟩
  · intro t a ht he
    obtain ⟨b, hb, _, rfl | rfl⟩ := hget t a ht
    · exact hs.ended t a hb he
    · exact hended b (hs.ended t b hb) he
  · exact hs.callOld

lemma Wired.remove (hs : s.Wired) {c : ChainState} (hc : s.chains.get id = some c) :
    (PipelineEngine.abort { s with chains := s.chains.remove id } c.task).Wired := by
  have hrest : Wired { s with chains := s.chains.remove id } := by
    apply hs.shrink
    intro k d hk
    exact ⟨d, FiniteMap.get_of_remove hk, rfl, fun h => h, fun _ h => h⟩
  cases ht : c.task with
  | none => exact hrest
  | some t =>
    apply hrest.adjust t
    · exact fun _ => rfl
    · intro k d hk hd
      have hk' : s.chains.get k = some d := FiniteMap.get_of_remove hk
      obtain ⟨a, ha, hac, _⟩ := hs.handle id c t hc ht
      obtain ⟨b, hb, hbd, _⟩ := hs.handle k d t hk' hd
      rw [ha] at hb
      cases hb
      obtain rfl := hs.distinct k id d c hk' hc (by rw [← hac, ← hbd])
      simp at hk
    · exact fun _ _ _ => Or.inl rfl

lemma Wired.poll (hs : s.Wired) (t : ℕ) : (s.poll t).Wired := by
  apply hs.adjust t
  · exact fun _ => rfl
  · exact fun _ _ _ _ _ h => h
  · intro a ha he
    simp only [Bool.or_eq_true] at he
    obtain (he | he) | he := he
    · exact ha he
    · exact Or.inl he
    · exact Or.inr he

lemma Wired.send (hs : s.Wired) : s.send.Wired := by
  obtain ⟨h₁, h₂, h₃, h₄, h₅, h₆, h₇, h₈⟩ := hs
  refine ⟨h₁, h₂, h₃, h₄, h₅, h₆, ?_, h₈⟩
  intro t a ht he
  obtain h | h := h₇ t a ht he
  · exact Or.inl h
  · exact Or.inr (by simp [PipelineEngine.send, h])

lemma Wired.takeTasks (hs : s.Wired) : s.takeTasks.Wired := by
  apply hs.shrink
  intro k c hk
  rw [FiniteMap.get_mapValues] at hk
  obtain ⟨d, hd, rfl⟩ := Option.map_eq_some_iff.mp hk
  exact ⟨d, hd, rfl, fun h => h, nofun⟩

lemma Wired.flags (hs : s.Wired) (r : Bool) (w : Option ℕ) :
    Wired { s with running := r, writer := w } := by
  obtain ⟨h₁, h₂, h₃, h₄, h₅, h₆, h₇, h₈⟩ := hs
  exact ⟨h₁, h₂, h₃, h₄, h₅, h₆, h₇, h₈⟩

lemma Wired.spawned (hs : s.Wired) (next : Call) :
    (Call.spawned s next (s.spawnChain id)).1.Wired := by
  cases h : s.spawnChain id with
  | error e => exact hs
  | ok s' => exact hs.spawnChain h

lemma Wired.call (hs : s.Wired) (c : Call) : (c.step s i pick).1.Wired := by
  cases c with
  | add id stage =>
    cases stage with
    | start =>
      simp only [Call.step]
      split_ifs
      · exact hs
      · exact hs
      · exact hs.insert.flags _ _
    | inserted => exact hs.flags _ _
    | spawning =>
      simp only [Call.step]
      split_ifs
      · exact hs
      · exact hs.spawned _
  | remove id =>
    simp only [Call.step]
    split_ifs
    · exact hs
    · cases hc : s.chains.get id with
      | none => exact hs
      | some c => exact hs.remove hc
  | start stage =>
    cases stage with
    | swap =>
      simp only [Call.step]
      split_ifs
      · exact hs
      · exact hs.flags _ _
    | list =>
      simp only [Call.step]
      split_ifs <;> exact hs
    | spawning rest =>
      cases rest with
      | nil => exact hs
      | cons id rest =>
        simp only [Call.step]
        cases (id :: rest)[pick]? with
        | none => exact hs
        | some k =>
          simp only
          split_ifs
          · exact hs
          · exact hs.spawned _
  | stop stage =>
    cases stage with
    | swap =>
      simp only [Call.step]
      split_ifs
      · exact hs.flags _ _
      · exact hs
    | send => exact hs.send
    | take =>
      simp only [Call.step]
      split_ifs
      · exact hs
      · exact hs.takeTasks
    | join => exact hs
  | returned e => exact hs

lemma spawned_calls (next : Call) :
    (Call.spawned s next (s.spawnChain id)).1.calls = s.calls := by
  cases h : s.spawnChain id with
  | error e => rfl
  | ok s' =>
    obtain ⟨c, _, _, rfl⟩ := spawnChain_ok h
    rfl

lemma step_calls (c : Call) : (c.step s i pick).1.calls = s.calls := by
  cases c with
  | add id stage =>
    cases stage with
    | start =>
      simp only [Call.step]
      split_ifs <;> rfl
    | inserted => rfl
    | spawning =>
      simp only [Call.step]
      split_ifs
      · rfl
      · exact spawned_calls _
  | remove id =>
    simp only [Call.step]
    split_ifs
    · rfl
    · cases s.chains.get id with
      | none => rfl
      | some c => cases h : c.task <;> simp [PipelineEngine.abort, h]
  | start stage =>
    cases stage with
    | spawning rest =>
      cases rest with
      | nil => rfl
      | cons id rest =>
        simp only [Call.step]
        cases (id :: rest)[pick]? with
        | none => rfl
        | some k =>
          simp only
          split_ifs
          · rfl
          · exact spawned_calls _
    | _ =>
      simp only [Call.step]
      split_ifs <;> rfl
  | stop stage =>
    cases stage with
    | send | join => rfl
    | _ =>
      simp only [Call.step]
      split_ifs <;> rfl
  | returned e => rfl

lemma Wired.recall (hs : s.Wired) (hi : i < s.next) (v : Invocation) :
    Wired { s with calls := s.calls.set i v } := by
  obtain ⟨h₁, h₂, h₃, h₄, h₅, h₆, h₇, h₈⟩ := hs
  refine ⟨h₁, h₂, h₃, h₄, h₅, h₆, h₇, ?_⟩
  intro k w hk
  rw [FiniteMap.get_set] at hk
  split_ifs at hk with h
  · rwa [h]
  · exact h₈ k w hk

theorem Wired.step (hs : s.Wired) (ev : Event) : (s.step ev).Wired := by
  cases ev with
  | call r =>
    have hgrow : Wired { s with next := s.next + 1 } := by
      obtain ⟨h₁, h₂, h₃, h₄, h₅, h₆, h₇, h₈⟩ := hs
      refine ⟨h₁, ?_, ?_, h₄, h₅, h₆, h₇, ?_⟩
      · exact fun k c hk => Nat.lt_succ_of_lt (h₂ k c hk)
      · exact fun t a ht => ⟨Nat.lt_succ_of_lt (h₃ t a ht).1, Nat.lt_succ_of_lt (h₃ t a ht).2⟩
      · exact fun k w hk => Nat.lt_succ_of_lt (h₈ k w hk)
    exact hgrow.recall (Nat.lt_succ_self _) ⟨r.call, false⟩
  | act i pick =>
    simp only [PipelineEngine.step]
    split
    · next v hi =>
      have hcall : (v.call.step s i pick).1.Wired := hs.call v.call
      apply hcall.recall
      apply hcall.callOld i v
      rw [step_calls]
      exact hi
    · exact hs
  | poll t => exact hs.poll t

end PipelineEngine

end MediaServo.Media
