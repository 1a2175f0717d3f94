import MediaServo.ServerProofs.Persistence

/-! What the rollback of an operation whose save failed takes out of the registry. -/

namespace MediaServo.Server.Persistence

open MediaServo.Foundations

variable {R : Registry} {β : Type} {yaml : FiniteMap String R.Form → List β} {s : Store R β}
variable {acts before : List (Action R)} {i j : ℕ} {op : R.Op} {k : String}

def Accepts (s : Store R β) (i : ℕ) (op : R.Op) : Prop :=
  s.tasks.get i = none ∧ ∃ m, R.exec op s.memory = .ok m

def RollsBack (s : Store R β) (i : ℕ) (op : R.Op) : Prop :=
  s.tasks.get i = some ⟨op, .failing⟩ ∧ R.rollsBack op

def Stands (yaml : FiniteMap String R.Form → List β) (s : Store R β) (before : List (Action R))
    (j : ℕ) (k : String) : Prop :=
  ∃ c₁ op c₂, before = c₁ ++ .start j op :: c₂ ∧ Accepts (run (step yaml) s c₁) j op ∧
    R.key op = k ∧ (run (step yaml) s before).tasks.get j = some ⟨op, .done⟩ ∧
    ∀ d₁ d₂, c₂ = d₁ ++ d₂ →
      (run (step yaml) s (c₁ ++ .start j op :: d₁)).memory.contains k

/-- Each rollback takes the operation's own entry out of the registry, changes no other key, and
undoes no completed operation of another request. -/
def RollsBackOwn (yaml : FiniteMap String R.Form → List β) (s : Store R β)
    (acts : List (Action R)) : Prop :=
  ∀ before i fault after op, acts = before ++ .next i fault :: after →
    RollsBack (run (step yaml) s before) i op →
      (run (step yaml) s (before ++ [.next i fault])).memory.get (R.key op) = none ∧
      (∀ k, k ≠ R.key op → (run (step yaml) s (before ++ [.next i fault])).memory.get k =
        (run (step yaml) s before).memory.get k) ∧
      ∀ j, j ≠ i → ¬ Stands yaml s before j (R.key op)

/-- At each rollback that finds an entry, no other operation on its key was accepted since the
insertion. -/
def Undisturbed (yaml : FiniteMap String R.Form → List β) (s : Store R β)
    (acts : List (Action R)) : Prop :=
  ∀ before i fault after op, acts = before ++ .next i fault :: after →
    RollsBack (run (step yaml) s before) i op →
    (run (step yaml) s before).memory.contains (R.key op) →
    ∀ b₁ b₂, before = b₁ ++ .start i op :: b₂ → Accepts (run (step yaml) s b₁) i op →
    ∀ c₁ j op' c₂, b₂ = c₁ ++ .start j op' :: c₂ →
      Accepts (run (step yaml) s (b₁ ++ .start i op :: c₁)) j op' → R.key op' ≠ R.key op

variable (yaml) in
lemma advance_tasks (s : Store R β) (i : ℕ) (t : Task R β) (fault : Option ℕ) :
    advance yaml s i t fault = s ∨ t.phase ≠ .refused ∧
      ∃ p, (advance yaml s i t fault).tasks = s.tasks.set i { t with phase := p } := by
  obtain ⟨op, phase⟩ := t
  cases phase with
  | done => exact .inl (by cases fault <;> rfl)
  | refused => exact .inl (by cases fault <;> rfl)
  | failed => exact .inl (by cases fault <;> rfl)
  | written text fd =>
    right
    refine ⟨by simp, ?_⟩
    cases fault with
    | some n => exact ⟨_, rfl⟩
    | none =>
      simp only [advance]
      split <;> exact ⟨_, rfl⟩
  | _ =>
    right
    refine ⟨by simp, ?_⟩
    cases fault <;> exact ⟨_, rfl⟩

lemma exists_start (hidle : s.tasks = ∅) {p : Phase β}
    (h : (run (step yaml) s before).tasks.get i = some ⟨op, p⟩) (hp : p ≠ .refused) :
    ∃ b₁ b₂, before = b₁ ++ .start i op :: b₂ ∧ Accepts (run (step yaml) s b₁) i op := by
  induction before using List.reverseRecOn generalizing p with
  | nil => simp [hidle] at h
  | append_singleton before a ih =>
    have hold : ∀ q, q ≠ .refused → (run (step yaml) s before).tasks.get i = some ⟨op, q⟩ →
        ∃ b₁ b₂, before ++ [a] = b₁ ++ .start i op :: b₂ ∧ Accepts (run (step yaml) s b₁) i op := by
      intro q hq hget
      obtain ⟨b₁, b₂, rfl, hacc⟩ := ih hget hq
      exact ⟨b₁, b₂ ++ [a], by simp, hacc⟩
    rw [run_snoc] at h
    cases a with
    | start j op' =>
      simp only [step, start] at h
      split at h
      · exact hold p hp h
      rename_i hnew
      split at h
      · obtain ⟨-, heq⟩ | ⟨-, hget⟩ := FiniteMap.get_of_set h
        · cases heq
          exact absurd rfl hp
        · exact hold p hp hget
      · next m hm =>
        obtain ⟨rfl, heq⟩ | ⟨-, hget⟩ := FiniteMap.get_of_set h
        · cases heq
          refine ⟨before, [], rfl, ?_, m, hm⟩
          simpa [FiniteMap.contains] using hnew
        · exact hold p hp hget
    | next j fault =>
      simp only [step] at h
      split at h
      · exact hold p hp h
      · next t ht =>
        obtain hsame | ⟨hne, q, hset⟩ :=
          advance_tasks yaml (run (step yaml) s before) j t fault
        · rw [hsame] at h
          exact hold p hp h
        · rw [hset] at h
          obtain ⟨rfl, heq⟩ | ⟨-, hget⟩ := FiniteMap.get_of_set h
          · cases heq
            exact hold t.phase hne ht
          · exact hold p hp hget

lemma rollback_memory (h : RollsBack (run (step yaml) s before) i op) (fault : Option ℕ) :
    (run (step yaml) s (before ++ [.next i fault])).memory =
      (run (step yaml) s before).memory.remove (R.key op) := by
  obtain ⟨ht, hback⟩ := h
  rw [run_snoc, step, ht]
  simp [advance, hback, Store.setPhase]

lemma not_stands (hidle : s.tasks = ∅)
    (hinsert : ∀ {op m m'}, R.rollsBack op → R.exec op m = .ok m' → m.contains (R.key op) = false)
    (h : Undisturbed yaml s acts) {fault : Option ℕ} {after : List (Action R)}
    (heq : acts = before ++ .next i fault :: after)
    (hback : RollsBack (run (step yaml) s before) i op) (hji : j ≠ i) :
    ¬ Stands yaml s before j (R.key op) := by
  rintro ⟨c₁, op', c₂, hj, hjacc, hkey, -, hpresent⟩
  have hnow : (run (step yaml) s before).memory.contains (R.key op) := by
    rw [hj]
    exact hpresent c₂ [] (by simp)
  obtain ⟨b₁, b₂, hi, hiacc⟩ := exists_start hidle hback.1 (by simp)
  have hne : (Action.start i op : Action R) ≠ .start j op' := by
    intro heq
    cases heq
    exact hji rfl
  obtain ⟨d, hc₁, hrest⟩ | ⟨d, hb₁, hrest⟩ := List.append_eq_append_iff.mp (hi.symm.trans hj)
  · -- the other operation came after the insertion
    cases d with
    | nil => exact hne (List.cons.inj hrest).1
    | cons a d =>
      obtain ⟨rfl, hb₂⟩ := List.cons.inj hrest
      rw [hc₁] at hjacc
      exact h before i fault after op heq hback hnow b₁ b₂ hi hiacc d j op' c₂ hb₂ hjacc hkey
  · -- it came before, and the insertion found the key free
    cases d with
    | nil => exact hne (List.cons.inj hrest).1.symm
    | cons a d =>
      obtain ⟨rfl, hc₂⟩ := List.cons.inj hrest
      obtain ⟨-, m, hm⟩ := hiacc
      have hfree := hinsert hback.2 hm
      rw [hb₁] at hfree
      exact absurd (hpresent d (.start i op :: b₂) hc₂) (by simp [hfree])

lemma rollsBack_inserts (c : Crypto) (name : RegistryName) {op : (name.registry c).Op}
    {m m' : FiniteMap String (name.registry c).Entry} (hback : (name.registry c).rollsBack op)
    (hm : (name.registry c).exec op m = .ok m') : m.contains ((name.registry c).key op) = false := by
  cases name with
  | devices =>
    cases op with
    | register d secret fresh =>
      by_contra hc
      simp only [RegistryName.registry, deviceRegistry, DeviceOp.exec,
        DeviceRegistry.registerWithSecret, DeviceOp.key, Bool.not_eq_false] at hc hm
      rw [if_pos hc] at hm
      cases hm
    | approve d vk n =>
      by_contra hc
      simp only [RegistryName.registry, deviceRegistry, DeviceOp.exec, DeviceRegistry.enrollAuto,
        DeviceOp.key, Bool.not_eq_false] at hc hm
      cases hvk : c.decodeVk vk <;> simp [hvk, hc, Except.map] at hm
    | revoke d => cases hback
    | resetSecret d fresh => cases hback
    | autoEnroll d vk => cases hback
  | accounts =>
    cases op with
    | create u password role vehicles =>
      by_contra hc
      simp only [RegistryName.registry, accountRegistry, AccountOp.exec,
        AccountRegistry.createAccount, AccountOp.key, Bool.not_eq_false] at hc hm
      split at hm
      · cases hm
      · split at hm
        · cases hm
        · rw [if_pos hc] at hm
          cases hm
    | update u role vehicles newPassword => cases hback
    | delete u => cases hback
  | apiKeys =>
    cases op with
    | register keyId role vehicles label secret =>
      by_contra hc
      simp only [RegistryName.registry, apiKeyRegistry, ApiKeyOp.exec, ApiKeyRegistry.register,
        ApiKeyOp.key, Bool.not_eq_false] at hc hm
      split at hm
      · cases hm
      · split at hm
        · cases hm
        · simp at hm
    | revoke keyId => cases hback

/-- Failed writes roll back exactly their own change in every run in which no other operation on
the key is accepted between an insertion and its rollback. -/
theorem rollback_own (c : Crypto) (name : RegistryName)
    (yaml : FiniteMap String (name.registry c).Form → List β) (s : Store (name.registry c) β)
    (hidle : s.tasks = ∅) (acts : List (Action (name.registry c)))
    (hquiet : Undisturbed yaml s acts) : RollsBackOwn yaml s acts := by
  intro before i fault after op heq hback
  have hmemory := rollback_memory hback fault
  refine ⟨?_, ?_, ?_⟩
  · rw [hmemory, FiniteMap.get_remove, if_pos rfl]
  · intro k hk
    rw [hmemory, FiniteMap.get_remove_ne _ hk]
  · intro j hji
    exact not_stands hidle (rollsBack_inserts c name) hquiet heq hback hji

def registerCam (secret : String) : (RegistryName.devices.registry noCrypto).Op :=
  DeviceOp.register "cam-c" (some secret) ""

def failedRegistration : List (Action (RegistryName.devices.registry noCrypto)) :=
  [.start 0 (registerCam "secret-0"), .next 0 (some 0), .start 1 (DeviceOp.revoke "cam-a")] ++ save 1

theorem rollback_own_registration :
    RollsBack (run (step entries) twoDevices failedRegistration) 0 (registerCam "secret-0") ∧
      RollsBackOwn entries twoDevices (failedRegistration ++ [.next 0 none]) := by
  refine ⟨⟨rfl, rfl⟩, ?_⟩
  apply rollback_own noCrypto .devices entries twoDevices rfl
  intro before i fault after op heq _ _ b₁ b₂ hi _ c₁ j op' c₂ hb₂ _ hkey
  have honce : ∀ k, List.countP (fun a : Action (RegistryName.devices.registry noCrypto) =>
      match a with
      | .start _ op => DeviceOp.key op = k
      | .next _ _ => false) (failedRegistration ++ [.next 0 none]) ≤ 1 := by
    intro k
    by_cases hk : k = "cam-c"
    · subst hk
      decide
    · have hne : ¬"cam-c" = k := fun h => hk h.symm
      simp [failedRegistration, save, registerCam, DeviceOp.key, hne, List.countP_cons]
      split_ifs <;> simp
  have htwice := honce (DeviceOp.key op)
  rw [heq, hi, hb₂] at htwice
  simp [show DeviceOp.key op' = DeviceOp.key op from hkey] at htwice
  omega

def disturbed : List (Action (RegistryName.devices.registry noCrypto)) :=
  [.start 0 (registerCam "secret-0"), .next 0 (some 0), .start 1 (DeviceOp.revoke "cam-c")] ++ save 1

/-- The rollback takes out what the other request has registered and saved. -/
theorem rollback_takes_other :
    ¬ RollsBackOwn entries twoDevices
      (disturbed ++ .start 2 (registerCam "secret-2") :: save 2 ++ [.next 0 none]) := by
  intro h
  have hnone := (h (disturbed ++ .start 2 (registerCam "secret-2") :: save 2) 0 none []
    (registerCam "secret-0") rfl ⟨rfl, rfl⟩).2.2 2 (by decide)
  apply hnone
  refine ⟨disturbed, registerCam "secret-2", save 2, rfl, ⟨rfl, _, rfl⟩, rfl, rfl, ?_⟩
  have hall : ∀ d ∈ (save 2).inits, (run (step entries) twoDevices
      (disturbed ++ .start 2 (registerCam "secret-2") :: d)).memory.contains "cam-c" := by
    intro d hd
    simp only [save, List.replicate, List.inits, List.map_cons, List.map_nil, List.mem_cons,
      List.not_mem_nil, or_false] at hd
    obtain rfl | rfl | rfl | rfl | rfl := hd <;> rfl
  intro d₁ d₂ hd
  exact hall d₁ ((List.mem_inits d₁ (save 2)).mpr ⟨d₂, hd.symm⟩)

end MediaServo.Server.Persistence
