import MediaServo.MediaProofs.Chains

/-! The engine as long as each spawn finds its chain unspawned and the running flag is turned on
before the watch has been told to shut down. -/

namespace MediaServo.Media

open MediaServo.Foundations

namespace Call

def pends (id : String) : Call → Bool
  | .add k .inserted | .add k .spawning => k = id
  | .start .list => true
  | .start (.spawning rest) => rest.contains id
  | _ => false

def stopping : Call → Bool
  | .stop .send | .stop .take => true
  | _ => false

def fresh : Call → Bool
  | .add _ .start | .remove _ | .start .swap | .stop .swap | .returned (some _) => true
  | _ => false

def done : Call → Bool
  | .returned _ => true
  | _ => false

end Call

namespace PipelineEngine

def idle (s : PipelineEngine) : Bool := s.calls.toList.all fun p => p.2.call.done

def unspawned (s : PipelineEngine) (id : String) : Bool := (s.chains.get id).any (·.source)

/-- A start turns the flag on before the watch has been told and beside no stop, and each spawn finds
its chain with its source. -/
def orderly (s : PipelineEngine) : Event → Bool
  | .act i pick =>
      (s.calls.get i).all fun v =>
        match v.call with
        | .start .swap =>
            s.running || !s.shutdown && s.calls.toList.all fun p => !p.2.call.stopping
        | .add id .spawning => s.writer.isSome || s.unspawned id
        | .start (.spawning rest) => s.writer.isSome || rest[pick]?.all s.unspawned
        | _ => true
  | _ => true

def Live (s : PipelineEngine) (c : ChainState) : Prop :=
  ∃ t a, c.task = some t ∧ s.tasks.get t = some a ∧ a.registered = c.registered ∧
    a.aborted = false ∧ a.ended = false ∧ s.shutdown = false

structure Sound (s : PipelineEngine) : Prop where
  kept : ∀ i v e, s.calls.get i = some v → v.call = .returned (some e) → v.changed = false
  live : s.running → s.idle → ∀ id c, s.chains.get id = some c → s.Live c
  once : ∀ t u a b, s.tasks.get t = some a → s.tasks.get u = some b →
    a.registered = b.registered → t = u

variable {s s' : PipelineEngine} {i pick : ℕ} {id : String} {v : Invocation}

lemma spawnChain_of_unspawned (h : s.unspawned id) : ∃ s', s.spawnChain id = .ok s' := by
  cases hc : s.chains.get id with
  | none => simp [unspawned, hc] at h
  | some c =>
    simp only [unspawned, hc, Option.any_some] at h
    simp [spawnChain, hc, h]

/-- What the calls under way leave of a running engine. -/
structure Steady (s : PipelineEngine) : Prop where
  quiet : s.running → s.shutdown = false
  unstopped : s.running → ∀ i v, s.calls.get i = some v → v.call.stopping = false
  covered : s.running → ∀ id c, s.chains.get id = some c →
    c.task.isSome ∨ ∃ i v, s.calls.get i = some v ∧ v.call.pends id
  kept : ∀ i v, s.calls.get i = some v → v.call.fresh → v.changed = false

lemma steady_new : new.Steady := by
  constructor <;> intros <;> simp_all [new]

lemma Sound.of_steady (hw : s.Wired) (hs : s.Steady) : s.Sound := by
  constructor
  · intro i v e hi he
    exact hs.kept i v hi (by rw [he, Call.fresh])
  · intro hr hidle id c hc
    obtain h | ⟨i, v, hi, hp⟩ := hs.covered hr id c hc
    · obtain ⟨t, ht⟩ := Option.isSome_iff_exists.mp h
      obtain ⟨a, ha, hac, hlive⟩ := hw.handle id c t hc ht
      refine ⟨t, a, ht, ha, hac, hlive, ?_, hs.quiet hr⟩
      by_contra he
      rw [Bool.not_eq_false] at he
      obtain h | h := hw.ended t a ha he
      · rw [hlive] at h
        cases h
      · rw [hs.quiet hr] at h
        cases h
    · have hdone : v.call.done := by
        simp only [idle, List.all_eq_true] at hidle
        exact hidle (i, v) (by simpa using hi)
      cases hcall : v.call <;> simp_all [Call.done, Call.pends]
  · exact hw.once

structure Advances (s : PipelineEngine) (i : ℕ) (v : Invocation) (s' : PipelineEngine) (c : Call) :
    Prop where
  quiet : s'.running → s'.shutdown = false
  unstopped : s'.running → c.stopping = false ∧
    ∀ k w, s.calls.get k = some w → k ≠ i → w.call.stopping = false
  covered : s'.running → ∀ id d, s'.chains.get id = some d → d.task.isSome ∨ c.pends id ∨
    ∃ k w, k ≠ i ∧ s.calls.get k = some w ∧ w.call.pends id
  kept : c.fresh → v.call.fresh ∧ s'.ids = s.ids ∧ s'.running = s.running

lemma Steady.act (hs : s.Steady) (hi : s.calls.get i = some v)
    (h : s.Advances i v (v.call.step s i pick).1 (v.call.step s i pick).2) :
    (s.act i pick v).Steady := by
  have hget : ∀ k w, (s.act i pick v).calls.get k = some w →
      k = i ∧ w.call = (v.call.step s i pick).2 ∨ k ≠ i ∧ s.calls.get k = some w := by
    intro k w hk
    simp only [PipelineEngine.act, FiniteMap.get_set, step_calls] at hk
    split_ifs at hk with hki
    · cases hk
      exact Or.inl ⟨hki, rfl⟩
    · exact Or.inr ⟨hki, hk⟩
  constructor
  · exact h.quiet
  · intro hr k w hk
    obtain ⟨rfl, hw⟩ | ⟨hne, hk⟩ := hget k w hk
    · rw [hw]
      exact (h.unstopped hr).1
    · exact (h.unstopped hr).2 k w hk hne
  · intro hr id d hd
    obtain hsome | hp | ⟨k, w, hne, hk, hp⟩ := h.covered hr id d hd
    · exact Or.inl hsome
    · exact Or.inr ⟨i, _, FiniteMap.get_set_self _ _ _, hp⟩
    · refine Or.inr ⟨k, w, ?_, hp⟩
      simp only [PipelineEngine.act, FiniteMap.get_set_ne _ _ hne, step_calls]
      exact hk
  · intro k w hk hf
    obtain ⟨rfl, hw⟩ | ⟨_, hk'⟩ := hget k w hk
    · rw [hw] at hf
      obtain ⟨hv, hids, hrun⟩ := h.kept hf
      simp only [PipelineEngine.act, FiniteMap.get_set_self, Option.some.injEq] at hk
      subst hk
      simp [hs.kept k v hi hv, hids, hrun]
    · exact hs.kept k w hk' hf

lemma Steady.pending (hs : s.Steady) (hi : s.calls.get i = some v) (hr : s.running)
    {c : ChainState} (hc : s.chains.get id = some c) :
    c.task.isSome ∨ v.call.pends id ∨ ∃ k w, k ≠ i ∧ s.calls.get k = some w ∧ w.call.pends id := by
  obtain h | ⟨k, w, hk, hp⟩ := hs.covered hr id c hc
  · exact Or.inl h
  · by_cases hki : k = i
    · subst hki
      rw [hi] at hk
      cases hk
      exact Or.inr (Or.inl hp)
    · exact Or.inr (Or.inr ⟨k, w, hki, hk, hp⟩)

lemma Steady.stays (hs : s.Steady) (hi : s.calls.get i = some v) {c : Call}
    (hstop : c.stopping → v.call.stopping) (hpends : ∀ id, v.call.pends id → c.pends id)
    (hfresh : c.fresh → v.call.fresh) : s.Advances i v s c := by
  constructor
  · exact hs.quiet
  · intro hr
    refine ⟨?_, fun k w hk _ => hs.unstopped hr k w hk⟩
    by_contra h
    rw [Bool.not_eq_false] at h
    have := hs.unstopped hr i v hi
    rw [hstop h] at this
    cases this
  · intro hr id d hd
    obtain h | h | h := hs.pending hi hr hd
    · exact Or.inl h
    · exact Or.inr (Or.inl (hpends id h))
    · exact Or.inr (Or.inr h)
  · exact fun hf => ⟨hfresh hf, rfl, rfl⟩

lemma advances_off {c : Call} (hr : s'.running = false)
    (hfresh : c.fresh → v.call.fresh ∧ s'.ids = s.ids ∧ s'.running = s.running) :
    s.Advances i v s' c := by
  constructor
  · simp [hr]
  · simp [hr]
  · simp [hr]
  · exact hfresh

lemma Steady.spawns (hs : s.Steady) (hi : s.calls.get i = some v) (hu : s.unspawned id) {next : Call}
    (hstop : next.stopping = false) (hfresh : next.fresh = false)
    (hpends : ∀ k, v.call.pends k → k = id ∨ next.pends k) :
    s.Advances i v (Call.spawned s next (s.spawnChain id)).1
      (Call.spawned s next (s.spawnChain id)).2 := by
  obtain ⟨s', h⟩ := spawnChain_of_unspawned hu
  rw [h]
  obtain ⟨c, hc, _, rfl⟩ := spawnChain_ok h
  constructor
  · exact hs.quiet
  · exact fun hr => ⟨hstop, fun k w hk _ => hs.unstopped hr k w hk⟩
  · intro hr k d hd
    simp only [Call.spawned, FiniteMap.get_adjust] at hd
    split_ifs at hd with hk
    · obtain ⟨d', _, rfl⟩ := Option.map_eq_some_iff.mp hd
      exact Or.inl rfl
    · obtain h | h | h := hs.pending hi hr hd
      · exact Or.inl h
      · exact Or.inr (Or.inl ((hpends k h).resolve_left hk))
      · exact Or.inr (Or.inr h)
  · intro hf
    simp only [Call.spawned, hfresh] at hf
    cases hf

lemma Steady.add (hs : s.Steady) {stage : AddStage} {b : Bool}
    (hi : s.calls.get i = some ⟨.add id stage, b⟩) (ho : s.orderly (.act i pick)) :
    s.Advances i ⟨.add id stage, b⟩ (Call.step s i pick (.add id stage)).1
      (Call.step s i pick (.add id stage)).2 := by
  cases stage with
  | start =>
    simp only [Call.step]
    split_ifs with hw hc
    · exact hs.stays hi (fun h => h) (fun _ h => h) (fun h => h)
    · exact hs.stays hi (fun h => h) (by rintro _ ⟨⟩) (fun _ => rfl)
    · constructor
      · exact hs.quiet
      · exact fun hr => ⟨rfl, fun k w hk _ => hs.unstopped hr k w hk⟩
      · intro hr k d hd
        simp only [PipelineEngine.insert, FiniteMap.get_set] at hd
        split_ifs at hd with hk
        · exact Or.inr (Or.inl (by simp [Call.pends, hk]))
        · obtain h | h | h := hs.pending hi hr hd
          · exact Or.inl h
          · cases h
          · exact Or.inr (Or.inr h)
      · rintro ⟨⟩
  | inserted =>
    simp only [Call.step]
    split_ifs with hr
    · constructor
      · exact hs.quiet
      · exact fun _ => ⟨rfl, fun k w hk _ => hs.unstopped hr k w hk⟩
      · exact fun _ k d hd => hs.pending hi hr hd
      · rintro ⟨⟩
    · apply advances_off
      · simpa using hr
      · rintro ⟨⟩
  | spawning =>
    simp only [Call.step]
    split_ifs with hw
    · exact hs.stays hi (fun h => h) (fun _ h => h) (fun h => h)
    · apply hs.spawns hi
      · simpa [orderly, hi, hw] using ho
      · rfl
      · rfl
      · intro k hk
        left
        simpa [Call.pends, eq_comm] using hk

lemma Steady.remove (hs : s.Steady) {b : Bool} (hi : s.calls.get i = some ⟨.remove id, b⟩) :
    s.Advances i ⟨.remove id, b⟩ (Call.step s i pick (.remove id)).1
      (Call.step s i pick (.remove id)).2 := by
  simp only [Call.step]
  split_ifs with hw
  · exact hs.stays hi (fun h => h) (fun _ h => h) (fun h => h)
  · cases hc : s.chains.get id with
    | none => exact hs.stays hi (fun h => h) (by rintro _ ⟨⟩) (fun _ => rfl)
    | some c =>
      have habort : ∀ t, (PipelineEngine.abort { s with chains := s.chains.remove id } t).running =
          s.running ∧ (PipelineEngine.abort { s with chains := s.chains.remove id } t).shutdown =
          s.shutdown ∧ (PipelineEngine.abort { s with chains := s.chains.remove id } t).chains =
          s.chains.remove id := by
        intro t
        cases t <;> exact ⟨rfl, rfl, rfl⟩
      obtain ⟨hrun, hdown, hchains⟩ := habort c.task
      constructor
      · simp only [hrun, hdown]
        exact hs.quiet
      · simp only [hrun]
        exact fun hr => ⟨rfl, fun k w hk _ => hs.unstopped hr k w hk⟩
      · simp only [hrun, hchains]
        intro hr k d hd
        obtain h | h | h := hs.pending hi hr (FiniteMap.get_of_remove hd)
        · exact Or.inl h
        · cases h
        · exact Or.inr (Or.inr h)
      · rintro ⟨⟩

lemma mem_ids {c : ChainState} (h : s.chains.get id = some c) : id ∈ s.ids :=
  List.mem_map.mpr ⟨(id, c), by simpa using h, rfl⟩

lemma Steady.start (hs : s.Steady) {stage : StartStage} {b : Bool}
    (hi : s.calls.get i = some ⟨.start stage, b⟩) (ho : s.orderly (.act i pick)) :
    s.Advances i ⟨.start stage, b⟩ (Call.step s i pick (.start stage)).1
      (Call.step s i pick (.start stage)).2 := by
  cases stage with
  | swap =>
    simp only [Call.step]
    split_ifs with hr
    · exact hs.stays hi (by rintro ⟨⟩) (by rintro _ ⟨⟩) (by rintro ⟨⟩)
    · simp only [orderly, hi, Option.all_some, hr, Bool.or_eq_true, Bool.and_eq_true,
        Bool.not_eq_true', List.all_eq_true, Bool.false_eq_true, false_or] at ho
      constructor
      · exact fun _ => ho.1
      · exact fun _ => ⟨rfl, fun k w hk _ => ho.2 (k, w) (by simpa using hk)⟩
      · exact fun _ k d _ => Or.inr (Or.inl rfl)
      · rintro ⟨⟩
  | list =>
    simp only [Call.step]
    split_ifs with hw
    · exact hs.stays hi (fun h => h) (fun _ h => h) (fun h => h)
    · constructor
      · exact hs.quiet
      · exact fun hr => ⟨rfl, fun k w hk _ => hs.unstopped hr k w hk⟩
      · exact fun _ k d hd => Or.inr (Or.inl (by simpa [Call.pends] using mem_ids hd))
      · rintro ⟨⟩
  | spawning rest =>
    cases rest with
    | nil =>
      apply hs.stays hi
      · rintro ⟨⟩
      · intro k hk
        simp [Call.pends] at hk
      · rintro ⟨⟩
    | cons id rest =>
      cases hp : (id :: rest)[pick]? with
      | none =>
        simp only [Call.step, hp]
        exact hs.stays hi (fun h => h) (fun _ h => h) (fun h => h)
      | some k =>
        simp only [Call.step, hp]
        split_ifs with hw
        · exact hs.stays hi (fun h => h) (fun _ h => h) (fun h => h)
        · apply hs.spawns hi
          · simpa [orderly, hi, hw, hp] using ho
          · rfl
          · rfl
          · intro j hj
            simp only [Call.pends, List.contains_iff_mem] at hj ⊢
            obtain ⟨n, hn, rfl⟩ := List.mem_iff_getElem.mp hj
            by_cases h : n = pick
            · subst h
              rw [List.getElem?_eq_getElem hn] at hp
              cases hp
              exact Or.inl rfl
            · exact Or.inr (List.mem_eraseIdx_iff_getElem.mpr ⟨n, hn, h, rfl⟩)

lemma Steady.stop (hs : s.Steady) {stage : StopStage} {b : Bool}
    (hi : s.calls.get i = some ⟨.stop stage, b⟩) :
    s.Advances i ⟨.stop stage, b⟩ (Call.step s i pick (.stop stage)).1
      (Call.step s i pick (.stop stage)).2 := by
  have hoff : stage = .send ∨ stage = .take → s.running = false := by
    intro h
    by_contra hr
    rw [Bool.not_eq_false] at hr
    have := hs.unstopped hr i _ hi
    obtain rfl | rfl := h <;> cases this
  cases stage with
  | swap =>
    simp only [Call.step]
    split_ifs with hr
    · exact advances_off rfl (by rintro ⟨⟩)
    · exact hs.stays hi (by rintro ⟨⟩) (by rintro _ ⟨⟩) (by rintro ⟨⟩)
  | send => exact advances_off (hoff (Or.inl rfl)) (by rintro ⟨⟩)
  | take =>
    simp only [Call.step]
    split_ifs
    · exact hs.stays hi (fun h => h) (fun _ h => h) (fun h => h)
    · exact advances_off (hoff (Or.inr rfl)) (by rintro ⟨⟩)
  | join => exact hs.stays hi (by rintro ⟨⟩) (by rintro _ ⟨⟩) (by rintro ⟨⟩)

theorem Steady.step (hs : s.Steady) (hw : s.Wired) (ev : Event) (ho : s.orderly ev) :
    (s.step ev).Steady := by
  cases ev with
  | call r =>
    have hget : ∀ k w, (s.calls.set s.next ⟨r.call, false⟩).get k = some w →
        w = ⟨r.call, false⟩ ∨ s.calls.get k = some w := by
      intro k w hk
      rw [FiniteMap.get_set] at hk
      split_ifs at hk
      · cases hk
        exact Or.inl rfl
      · exact Or.inr hk
    constructor
    · exact hs.quiet
    · intro hr k w hk
      obtain rfl | hk := hget k w hk
      · cases r <;> rfl
      · exact hs.unstopped hr k w hk
    · intro hr id d hd
      obtain h | ⟨k, w, hk, hp⟩ := hs.covered hr id d hd
      · exact Or.inl h
      · refine Or.inr ⟨k, w, ?_, hp⟩
        simp only [PipelineEngine.step, FiniteMap.get_set_ne _ _ (hw.callOld k w hk).ne]
        exact hk
    · intro k w hk hf
      obtain rfl | hk := hget k w hk
      · rfl
      · exact hs.kept k w hk hf
  | act i pick =>
    simp only [PipelineEngine.step]
    split
    · next v hi =>
      obtain ⟨c, b⟩ := v
      apply hs.act hi
      cases c with
      | add id stage => exact hs.add hi ho
      | remove id => exact hs.remove hi
      | start stage => exact hs.start hi ho
      | stop stage => exact hs.stop hi
      | returned e => exact hs.stays hi (by rintro ⟨⟩) (by rintro _ ⟨⟩) (fun h => h)
    · exact hs
  | poll t => exact ⟨hs.quiet, hs.unstopped, hs.covered, hs.kept⟩

/-- The engine in an orderly run: no failed call has changed it, every chain of a running engine at
rest is live, and none has been spawned twice. -/
theorem engine_sound (events : List Event)
    (h : Along PipelineEngine.step (fun s ev => s.orderly ev) new events) :
    (run PipelineEngine.step new events).Sound := by
  have hboth : (run PipelineEngine.step new events).Wired ∧
      (run PipelineEngine.step new events).Steady := by
    refine run_invariant (I := fun s => s.Wired ∧ s.Steady) ⟨wired_new, steady_new⟩ ?_ h
    intro s ev hs ho
    exact ⟨hs.1.step ev, hs.2.step hs.1 ev ho⟩
  exact Sound.of_steady hboth.1 hboth.2

theorem engine_sound_hot_plug :
    (run PipelineEngine.step new
      [.call (.add "a"), .act 0 0, .act 0 0, .call .start, .act 2 0, .act 2 0, .act 2 0, .act 2 0,
        .call (.add "b"), .act 4 0, .act 4 0, .act 4 0, .call (.add "b"), .act 7 0,
        .call (.remove "a"), .act 8 0, .poll 3]).Sound :=
  engine_sound _ (by decide)

/-- A start after a stop turns the flag on and fails. -/
theorem restart_fails :
    ¬(run PipelineEngine.step new
      [.call (.add "a"), .act 0 0, .act 0 0, .call .start, .act 2 0, .act 2 0, .act 2 0, .act 2 0,
        .call .stop, .act 4 0, .act 4 0, .act 4 0, .act 4 0, .call .start, .act 5 0, .act 5 0,
        .act 5 0]).Sound := by
  intro h
  have := h.kept 5 ⟨.returned (some (.consumed "a")), true⟩ (.consumed "a") (by decide) rfl
  cases this

end PipelineEngine

end MediaServo.Media
