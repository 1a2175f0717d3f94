import MediaServo.WeaknetProofs.JobInvariant

/-! One move of a task keeps the invariant, when it is orderly. -/

namespace MediaServo.Weaknet

open MediaServo.Foundations

section Moves

variable {s : Dirs} {i pid : ℕ} {reaping : Bool}

lemma Entry.follows_guarded {e : Entry} {t : Task} (hq : t.quiet → s.busy = false)
    (hc : t.carried = none) (hs : t.stepped = none) (hm : t.mayClear → e.task.mayClear)
    (hk : ∀ n p, Entry.knows { e with task := t } n p → e.knows n p)
    (hg : ∀ x k f, Entry.guards { e with task := t } = some x → k ≠ i → s.tasks.get k = some f →
      f.inTheWay x = false) : e.Follows s i t := by
  constructor
  · exact hq
  · intro j hj
    rw [hc] at hj
    cases hj
  · exact hm
  · exact hk
  · intro j hj
    rw [hs] at hj
    cases hj
  · exact hg

lemma Entry.follows_plain {e : Entry} {t : Task} (hq : t.quiet → s.busy = false)
    (hc : t.carried = none) (hs : t.stepped = none) (hm : t.mayClear → e.task.mayClear)
    (hk : ∀ n p, Entry.knows { e with task := t } n p → e.knows n p)
    (hg : Entry.guards { e with task := t } = none) : e.Follows s i t := by
  apply follows_guarded hq hc hs hm hk
  intro x k f hx
  rw [hg] at hx
  cases hx

lemma RunSpec.mayClear_of_going {r : RunSpec} {stage : RunStage} (hg : stage.going)
    (hk : r.keep = false) : (Task.run r stage).mayClear := by
  cases stage <;> simp_all [Task.mayClear, RunStage.going]

lemma RunSpec.follows_end {r : RunSpec} {stage : RunStage} (hg : stage.going) (b : Bool)
    (hb : b = false → r.keep = false) :
    Entry.Follows s i ⟨pid, reaping, .run r stage⟩ (.run r (if b then .tail else .clearing)) := by
  apply Entry.follows_plain
  · cases b <;> simp [Task.quiet, Task.waiting]
  · cases b <;> rfl
  · cases b <;> rfl
  · intro hc
    cases b with
    | true => cases hc
    | false => exact r.mayClear_of_going hg (hb rfl)
  · intro n p hn
    cases b <;> simp [Entry.knows, RunStage.going, RunStage.finishing] at hn <;>
      simp [Entry.knows, hn, hg]
  · cases b <;> rfl

variable {e : Entry}

lemma Task.failed_inv (hs : s.Inv) {t : Task} (hi : s.tasks.get i = some ⟨pid, reaping, t⟩) :
    (s.perform i ⟨pid, reaping, t⟩ t.failed).Inv := by
  cases t with
  | run r stage =>
    cases stage with
    | recorded | start | passed | gated | locked | mounted | installed | recording | tail
    | disowning | ownSeen | ownLocked | ownRead => exact hs.stop hi
    | driving | stepLocked | stepReady j | stepMounted j =>
      apply hs.go hi (RunSpec.follows_end rfl r.keep id)
      cases r.keep <;> nofun
    | clearing | torn =>
      exact hs.go hi (Entry.follows_plain (by nofun) rfl rfl (by nofun) (fun _ _ h => h) rfl)
        (by nofun)
  | _ => exact hs.stop hi

lemma Entry.holdsLock_of_guards {x : Option (String × ℕ)} (h : e.guards = some x) :
    e.task.holdsLock := by
  obtain ⟨_, _, t⟩ := e
  cases t with
  | write cmd stage => cases stage <;> simp_all [guards, Task.holdsLock]
  | stop stage => cases stage <;> simp_all [guards, Task.holdsLock]
  | run r stage => cases stage <;> simp_all [guards, Task.holdsLock]
  | clear torn => cases h

lemma Task.holdsLock_of_stepped {t : Task} {j : JobRef} (h : t.stepped = some j) : t.holdsLock := by
  cases t with
  | run r stage => cases stage <;> simp_all [stepped, holdsLock]
  | _ => cases h

lemma Task.waiting_or_holdsLock {t : Task} (h : t.quiet) : t.waiting ∨ t.holdsLock := by
  cases t with
  | write cmd stage => cases stage <;> simp_all [quiet, waiting, holdsLock]
  | stop stage => cases stage <;> simp_all [quiet, waiting, holdsLock]
  | run r stage => cases stage <;> simp_all [quiet, waiting, holdsLock]
  | clear torn => cases h

lemma Dirs.Inv.settle (hs : s.Inv) {m : Move} (hi : s.tasks.get i = some e)
    (hlock : m.effect ≠ .lock) (hreap : m.effect ≠ .reap) (hsus : m.effect ≠ .suspect)
    (hhold : (m.effect.apply s i e.pid).lock = s.lock)
    (hdead : (s.perform i e m).busy = false)
    (htime : ∀ j, (s.perform i e m).job = some j → j.starttime < s.clock)
    (howns : ∀ k f, k ≠ i → s.tasks.get k = some f → f.task.mayClear →
      (s.perform i e m).state = none)
    (hsteps : (s.perform i e m).state = none ∨ e.task.holdsLock)
    (hnext : ∀ t, m.next = some t → (t.holdsLock → e.task.holdsLock) ∧ t.carried = none ∧
      t.stepped = none ∧ t.mayClear = false ∧
      (∀ n p, Entry.knows { e with task := t } n p → e.knows n p) ∧
      ∀ x, Entry.guards { e with task := t } = some x → e.guards = some x) :
    (s.perform i e m).Inv := by
  have halive : ∀ j, (s.perform i e m).job = some j → s.jobAlive j = false := by
    intro j hj
    have := busy_eq_false_iff.1 hdead j hj
    rwa [jobAlive_congr perform_procs] at this
  apply hs.perform hi htime
  · intro t ht
    obtain ⟨h₁, h₂, h₃, h₄, _, _⟩ := hnext t ht
    have hok := hs.ok i e hi
    constructor
    · simpa using hok.runs
    · intro h
      simp [hsus] at h
    · intro hl
      obtain ⟨q, hq, hq'⟩ := hok.holds (h₁ hl)
      exact ⟨q, by simpa [Dirs.perform, ht, hl, hhold] using hq, by simpa using hq'⟩
    · intro _
      exact hdead
    · intro j hj
      rw [h₂] at hj
      cases hj
    · intro hc
      rw [h₄] at hc
      cases hc
    · intro j hj ha
      rw [jobAlive_congr perform_procs, halive j hj] at ha
      cases ha
    · intro j hj
      rw [h₃] at hj
      cases hj
  · intro k f hk hf
    apply (hs.ok k f hf).reseat perform_procs perform_clock
    · intro hl
      exact perform_lock hs hi hf hk hl (fun h => absurd h hlock) (fun h => absurd h hreap)
    · intro _
      exact hdead
    · intro hc
      exact Or.inl (howns k f hk hf hc)
    · intro j hj ha
      rw [halive j hj] at ha
      cases ha
    · intro j hj
      obtain h | h := hsteps
      · exact Or.inl h
      · exact absurd (hs.lock_excl hf hi (Task.holdsLock_of_stepped hj) h) hk
  · intro t x k f ht hk hf hx
    exact hs.alone i k e f x hk.symm hi hf ((hnext t ht).2.2.2.2.2 x hx)
  · intro t x k f ht hk hf hx
    have hw := hs.alone k i f e x hk hf hi hx
    obtain ⟨_, _, _, h₄, h₅, _⟩ := hnext t ht
    simp only [Entry.inTheWay, Bool.or_eq_false_iff, Option.any_eq_false] at hw ⊢
    refine ⟨h₄, ?_⟩
    intro p hp
    by_contra hc
    rw [Bool.not_eq_false] at hc
    have := hw.2 p hp
    rw [h₅ _ _ hc] at this
    cases this

lemma Dirs.Inv.enter (hs : s.Inv) {m : Move} (hi : s.tasks.get i = some e) {j : JobRef}
    {r : RunSpec} {stage : RunStage} (hm : m.next = some (.run r stage))
    (hstage : stage = .recorded ∨ stage = .driving) (hl : e.task.holdsLock)
    (hsus : m.effect ≠ .suspect)
    (hjob : (s.perform i e m).job = some j) (hrun : j.run = i) (hname : j.name = r.name)
    (hpid : j.pid = e.pid) (ha : s.jobAlive j) (htime : j.starttime < s.clock)
    (hg : e.guards = some (some (r.name, e.pid))) (hun : s.busy = true ∨ s.unobserved) :
    (s.perform i e m).Inv := by
  have hexcl : ∀ k f, k ≠ i → s.tasks.get k = some f → f.task.holdsLock = false := by
    intro k f hk hf
    by_contra h
    rw [Bool.not_eq_false] at h
    exact hk (hs.lock_excl hf hi h hl)
  have haway : ∀ k f, k ≠ i → s.tasks.get k = some f →
      f.task.mayClear = false ∧ f.knows r.name e.pid = false := by
    intro k f hk hf
    simpa [Entry.inTheWay] using hs.alone i k e f _ hk.symm hi hf hg
  apply hs.perform hi
  · intro j' hj'
    rw [hjob] at hj'
    cases hj'
    exact htime
  · intro t ht
    rw [hm] at ht
    cases ht
    have hown : (s.perform i e m).jobAlive j := by
      rw [jobAlive_congr perform_procs]
      exact ha
    constructor
    · simpa using (hs.ok i e hi).runs
    · intro h
      simp [hsus] at h
    · obtain rfl | rfl := hstage <;> rintro ⟨⟩
    · obtain rfl | rfl := hstage <;> rintro ⟨⟩
    · obtain rfl | rfl := hstage <;> rintro _ ⟨⟩
    · intro _
      exact Or.inr ⟨j, hjob, hrun, hpid, hown⟩
    · intro j' hj'
      rw [hjob] at hj'
      cases hj'
      intro _ _
      exact ⟨hrun, hpid⟩
    · obtain rfl | rfl := hstage <;> rintro _ ⟨⟩
  · intro k f hk hf
    have hok := hs.ok k f hf
    apply hok.reseat perform_procs perform_clock
    · intro h
      rw [hexcl k f hk hf] at h
      cases h
    · intro hq
      obtain h | h := hun
      · rw [hok.quiet hq] at h
        cases h
      · obtain hw | hw := Task.waiting_or_holdsLock hq
        · rw [unobserved_iff.1 h k f hf] at hw
          cases hw
        · rw [hexcl k f hk hf] at hw
          cases hw
    · intro hc
      rw [(haway k f hk hf).1] at hc
      cases hc
    · intro j' hj' _ hn
      rw [hjob] at hj'
      cases hj'
      rw [hname, hpid, (haway k f hk hf).2] at hn
      cases hn
    · intro j' hj'
      have := Task.holdsLock_of_stepped hj'
      rw [hexcl k f hk hf] at this
      cases this
  · intro t x k f ht hk hf hx
    rw [hm] at ht
    cases ht
    obtain rfl | rfl := hstage <;> cases hx
  · intro t x k f ht hk hf hx
    have := Entry.holdsLock_of_guards hx
    rw [hexcl k f hk hf] at this
    cases this

namespace Dirs

@[simp] lemma perform_put_job (job : Option JobRef) (next : Option Task) :
    (s.perform i e ⟨.put job, next⟩).job = job := rfl

@[simp] lemma perform_remove_job (next : Option Task) :
    (s.perform i e ⟨.remove, next⟩).job = none := rfl

lemma busy_of_job_none (h : s.job = none) : s.busy = false := by simp [busy, h]

lemma Inv.remove (hs : s.Inv) (hi : s.tasks.get i = some e) {next : Option Task}
    (hnext : ∀ t, next = some t → t.holdsLock = false ∧ t.carried = none ∧ t.stepped = none ∧
      t.mayClear = false ∧ (∀ n p, Entry.knows { e with task := t } n p → e.knows n p) ∧
      Entry.guards { e with task := t } = none) : (s.perform i e ⟨.remove, next⟩).Inv := by
  apply hs.settle hi (by simp) (by simp) (by simp) rfl
  · exact busy_of_job_none rfl
  · intro j hj
    cases hj
  · intro k f _ _ _
    rfl
  · exact Or.inl rfl
  · intro t ht
    obtain ⟨h₁, h₂, h₃, h₄, h₅, h₆⟩ := hnext t ht
    refine ⟨?_, h₂, h₃, h₄, h₅, ?_⟩
    · intro h
      rw [h₁] at h
      cases h
    · intro x hx
      rw [h₆] at hx
      cases hx

lemma Inv.inTheWay_none (hs : s.Inv) {k : ℕ} {f : Entry} (hk : s.tasks.get k = some f)
    (hst : s.state.isSome) (hrun : ∀ j, s.job = some j → s.jobAlive j → j.run ≠ k) :
    f.inTheWay none = false := by
  simp only [Entry.inTheWay, Option.any_none, Bool.or_false]
  by_contra hc
  rw [Bool.not_eq_false] at hc
  obtain h | ⟨j, hj, hr, _, ha⟩ := (hs.ok k f hk).owns hc
  · rw [h] at hst
    cases hst
  · exact hrun j hj ha hr

lemma Inv.unmark (hs : s.Inv) (hi : s.tasks.get i = some e) (hg : e.guards = some none) :
    (s.perform i e ⟨.put none, none⟩).Inv := by
  apply hs.settle hi (by simp) (by simp) (by simp) rfl
  · exact busy_of_job_none rfl
  · rintro _ ⟨⟩
  · intro k f hk hf hc
    have := hs.alone i k e f _ hk.symm hi hf hg
    simp [Entry.inTheWay, hc] at this
  · exact Or.inr (Entry.holdsLock_of_guards hg)
  · rintro _ ⟨⟩

end Dirs

lemma WriteCmd.prepare_quiet {cmd : WriteCmd} {job : Option JobRef} (h : cmd.prepare s = some job)
    (hq : s.busy = false ∨ cmd = .postApply ∨ cmd = .postSet) : s.busy = false := by
  cases cmd with
  | postApply | postSet =>
    by_contra hb
    rw [Bool.not_eq_false] at hb
    simp [prepare, hb] at h
  | _ => simpa using hq

lemma WriteCmd.prepare_job {cmd : WriteCmd} {j : JobRef} (h : cmd.prepare s = some (some j)) :
    s.job = some j := by
  cases cmd with
  | set => simpa [prepare, Dirs.job, Option.map_eq_some_iff, Option.bind_eq_some_iff] using h
  | postApply | postSet => simp [prepare] at h
  | _ => cases h

lemma WriteCmd.move_inv (hs : s.Inv) {cmd : WriteCmd} {stage : WriteStage}
    (hi : s.tasks.get i = some ⟨pid, false, .write cmd stage⟩)
    (ho : Entry.orderly s i ⟨pid, false, .write cmd stage⟩) :
    (s.perform i ⟨pid, false, .write cmd stage⟩ (cmd.move s stage)).Inv := by
  have hok := hs.ok i _ hi
  cases stage with
  | start =>
    by_cases hg : cmd.gatesFirst
    · by_cases hb : s.busy
      · simpa [move, hg, hb] using hs.stop hi
      · simp only [move, hg, hb, if_true, Bool.false_eq_true, if_false]
        refine hs.go hi (Entry.follows_plain ?_ rfl rfl (by rintro ⟨⟩) (by rintro _ _ ⟨⟩) rfl)
          (by rintro ⟨⟩)
        intro _
        simpa using hb
    · simp only [move, hg, Bool.false_eq_true, if_false]
      refine hs.acquire hi rfl (Entry.follows_plain ?_ rfl rfl (by rintro ⟨⟩)
        (by rintro _ _ ⟨⟩) rfl) (by simp)
      simp [Task.quiet, hg]
  | gated =>
    refine hs.acquire hi rfl (Entry.follows_plain ?_ rfl rfl (by rintro ⟨⟩) (by rintro _ _ ⟨⟩) rfl)
      (by simp)
    intro _
    exact hok.quiet rfl
  | locked =>
    cases hp : cmd.prepare s with
    | none => simpa [move, hp] using hs.stop hi
    | some job =>
      have hq : s.busy = false := by
        apply prepare_quiet hp
        cases cmd with
        | apply | set => exact Or.inl (hok.quiet rfl)
        | up => simpa [Entry.orderly] using ho
        | _ => simp
      simp only [move, hp]
      apply hs.go hi _ (by simp [Task.holdsLock])
      constructor
      · intro _
        exact hq
      · rintro j ⟨⟩
        have hj := prepare_job hp
        exact ⟨Dirs.busy_eq_false_iff.1 hq j hj, hs.jobTime j hj⟩
      · rintro ⟨⟩
      · rintro _ _ ⟨⟩
      · rintro _ ⟨⟩
      · rintro _ _ _ ⟨⟩
  | ready job =>
    apply hs.go hi _ (by simp [Task.holdsLock])
    constructor
    · intro _
      exact hok.quiet rfl
    · exact hok.stale
    · rintro ⟨⟩
    · rintro _ _ ⟨⟩
    · rintro _ ⟨⟩
    · rintro x k f ⟨⟩ hk hf
      simp only [Entry.orderly, Bool.false_eq_true, if_false] at ho
      exact Entry.alone_iff.1 ho k f hf hk
  | mounted job =>
    apply hs.settle hi (by simp [move]) (by simp [move]) (by simp [move]) rfl
    · rw [Dirs.busy_eq_false_iff]
      rintro j hj
      rw [Dirs.jobAlive_congr Dirs.perform_procs]
      exact (hok.stale j hj).1
    · intro j hj
      exact (hok.stale j hj).2
    · intro k f hk hf hc
      have := hs.alone i k _ f _ hk.symm hi hf rfl
      simp [Entry.inTheWay, hc] at this
    · exact Or.inr rfl
    · rintro _ ⟨⟩

lemma clearMove_inv (hs : s.Inv) {torn : Bool}
    (hi : s.tasks.get i = some ⟨pid, false, .clear torn⟩) :
    (s.perform i ⟨pid, false, .clear torn⟩ (clearMove torn)).Inv := by
  cases torn with
  | false =>
    exact hs.go hi (Entry.follows_plain (by nofun) rfl rfl (by nofun) (by nofun) rfl) (by nofun)
  | true => exact hs.remove hi (by nofun)

lemma StopStage.move_inv (hs : s.Inv) {stage : StopStage}
    (hi : s.tasks.get i = some ⟨pid, false, .stop stage⟩) :
    (s.perform i ⟨pid, false, .stop stage⟩ (stage.move s)).Inv := by
  have hok := hs.ok i _ hi
  cases stage with
  | start =>
    simp only [move]
    split
    · exact hs.go hi (Entry.follows_plain (by rintro ⟨⟩) rfl rfl (by rintro ⟨⟩)
        (by rintro _ _ ⟨⟩) rfl) (by rintro ⟨⟩)
    · next hb =>
      split
      · refine hs.go hi (Entry.follows_plain ?_ rfl rfl (by rintro ⟨⟩) (by rintro _ _ ⟨⟩) rfl)
          (by rintro ⟨⟩)
        intro _
        simpa using hb
      · exact hs.go hi (Entry.follows_plain (by rintro ⟨⟩) rfl rfl (by rintro ⟨⟩)
          (by rintro _ _ ⟨⟩) rfl) (by rintro ⟨⟩)
  | flagging | unflagging => exact hs.flag hi (by rintro _ ⟨⟩)
  | staleSeen =>
    refine hs.acquire hi rfl (Entry.follows_plain ?_ rfl rfl (by rintro ⟨⟩) (by rintro _ _ ⟨⟩) rfl)
      (by rintro _ ⟨⟩)
    intro _
    exact hok.quiet rfl
  | staleLocked =>
    simp only [move]
    split
    · next hst =>
      apply hs.go hi (Entry.follows_guarded _ rfl rfl (by rintro ⟨⟩) (by rintro _ _ ⟨⟩) _)
        (fun _ => rfl)
      · intro _
        exact hok.quiet rfl
      · rintro x k f ⟨⟩ _ hf
        apply hs.inTheWay_none hf hst
        intro j hj ha
        rw [Dirs.busy_eq_false_iff.1 (hok.quiet rfl) j hj] at ha
        cases ha
    · exact hs.stop hi
  | staleRead => exact hs.unmark hi rfl

namespace RunSpec

variable {r : RunSpec} {stage : RunStage}

lemma ownName_eq_some {j : JobRef} :
    r.ownName s = some j ↔ s.job = some j ∧ j.name = r.name ∧ s.jobAlive j := by
  simp [ownName, Option.filter_eq_some_iff]

lemma follows_stepReady (hs : s.Inv)
    (hi : s.tasks.get i = some ⟨pid, false, .run r .stepLocked⟩) {j : JobRef}
    (hj : r.ownName s = some j) :
    Entry.Follows s i ⟨pid, false, .run r .stepLocked⟩ (.run r (.stepReady j)) := by
  obtain ⟨hjob, hname, ha⟩ := ownName_eq_some.1 hj
  obtain ⟨hrun, hpid⟩ := (hs.ok i _ hi).known j hjob ha
    (by simp [Entry.knows, hname, RunStage.going])
  constructor
  · nofun
  · nofun
  · exact id
  · exact fun _ _ h => h
  · rintro _ ⟨⟩
    exact ⟨hrun, hpid, ha, by simp [Entry.knows, hname, RunStage.going], Or.inr hjob⟩
  · rintro x k f ⟨⟩ hk hf
    have hok := hs.ok k f hf
    have hne : j.run ≠ k := by
      rw [hrun]
      exact hk.symm
    simp only [Entry.inTheWay, Option.any_some, Bool.or_eq_false_iff]
    refine ⟨?_, ?_⟩
    · by_contra hc
      rw [Bool.not_eq_false] at hc
      obtain h | ⟨j', hj', hr, _, _⟩ := hok.owns hc
      · rw [Dirs.job_of_state_none h] at hjob
        cases hjob
      · rw [hjob] at hj'
        cases hj'
        exact hne hr
    · by_contra hc
      have hpid' : j.pid = pid := hpid
      rw [Bool.not_eq_false, ← hname, ← hpid'] at hc
      exact hne (hok.known j hjob ha hc).1

lemma start_inv (hs : s.Inv) (hi : s.tasks.get i = some ⟨pid, false, .run r stage⟩)
    (ho : Entry.orderly s i ⟨pid, false, .run r stage⟩) (c : Choice)
    (hstage : stage = .start ∨ stage = .passed ∨ stage = .gated ∨ stage = .locked ∨
      stage = .mounted ∨ stage = .installed ∨ stage = .recording) :
    (s.perform i ⟨pid, false, .run r stage⟩ (r.move s i pid c stage)).Inv := by
  have hok := hs.ok i _ hi
  obtain rfl | rfl | rfl | rfl | rfl | rfl | rfl := hstage
  · simp only [move]
    split
    · exact hs.stop hi
    · next hb =>
      refine hs.go hi (Entry.follows_plain ?_ rfl rfl (by rintro ⟨⟩) (by rintro _ _ ⟨⟩) rfl)
        (by rintro ⟨⟩)
      intro _
      simpa using hb
  · apply hs.flag hi
    rintro t ⟨⟩
    refine ⟨Entry.follows_plain ?_ rfl rfl (by rintro ⟨⟩) (by rintro _ _ ⟨⟩) rfl, rfl⟩
    intro _
    exact hok.quiet rfl
  · refine hs.acquire hi rfl (Entry.follows_plain ?_ rfl rfl (by rintro ⟨⟩) (by rintro _ _ ⟨⟩) rfl)
      (by rintro _ ⟨⟩)
    intro _
    exact hok.quiet rfl
  · apply hs.go hi (Entry.follows_guarded _ rfl rfl (by rintro ⟨⟩) (by rintro _ _ ⟨⟩) _)
      (fun _ => rfl)
    · intro _
      exact hok.quiet rfl
    · rintro x k f ⟨⟩ hk hf
      simp only [Entry.orderly, Bool.false_eq_true, if_false] at ho
      exact Entry.alone_iff.1 ho k f hf hk
  · apply hs.settle hi (by simp [move]) (by simp [move]) (by simp [move]) rfl
    · exact Dirs.busy_of_job_none rfl
    · rintro _ ⟨⟩
    · intro k f hk hf hc
      have := hs.alone i k _ f _ hk.symm hi hf rfl
      simp [Entry.inTheWay, hc] at this
    · exact Or.inr rfl
    · rintro t ⟨⟩
      exact ⟨fun _ => rfl, rfl, rfl, rfl, fun _ _ h => h, fun _ h => h⟩
  · simp only [move]
    split
    · apply hs.go hi (Entry.follows_guarded _ rfl rfl (by rintro ⟨⟩) (by rintro _ _ ⟨⟩) _)
        (fun _ => rfl)
      · intro _
        exact hok.quiet rfl
      · rintro x k f ⟨⟩ hk hf
        exact hs.alone i k _ f _ hk.symm hi hf rfl
    · exact hs.stop hi
  · obtain ⟨t, ht⟩ := hok.runs
    have ht' : s.procs.get pid = some t := ht
    simp only [Entry.orderly, Bool.false_eq_true, if_false] at ho
    apply hs.enter hi (j := ⟨r.name, pid, (s.readProcStarttime pid).getD 0, i⟩) rfl (Or.inl rfl)
      rfl (by simp [move]) rfl rfl rfl rfl _ _ rfl (Or.inr ho)
    · simp [Dirs.jobAlive_iff, Dirs.readProcStarttime, ht']
    · simpa [Dirs.readProcStarttime, ht'] using hs.procTime pid t ht'

lemma drive_inv (hs : s.Inv) (hi : s.tasks.get i = some ⟨pid, false, .run r stage⟩)
    (ho : Entry.orderly s i ⟨pid, false, .run r stage⟩) (c : Choice) (hg : stage.going) :
    (s.perform i ⟨pid, false, .run r stage⟩ (r.move s i pid c stage)).Inv := by
  have hok := hs.ok i _ hi
  have habort : ∀ b : Bool, (Task.run r (if b then .tail else .clearing)).holdsLock = false := by
    intro b
    cases b <;> rfl
  have hend : ∀ b : Bool, (b = false → r.keep = false) →
      (s.perform i ⟨pid, false, .run r stage⟩
        (.go (.run r (if b then .tail else .clearing)))).Inv := by
    intro b hb
    apply hs.go hi (follows_end hg b hb)
    rw [habort b]
    nofun
  cases stage with
  | recorded =>
    exact hs.go hi (Entry.follows_plain (by nofun) rfl rfl id (fun _ _ h => h) rfl) (by nofun)
  | driving =>
    have hself : (s.perform i ⟨pid, false, .run r .driving⟩ (.go (.run r .driving))).Inv :=
      hs.go hi (hs.follows_self hi) id
    have hgo : (s.perform i ⟨pid, false, .run r .driving⟩
        (if r.cancelReason s then .go r.finishAbort else .go (.run r .driving))).Inv := by
      split
      · exact hend r.keep id
      · exact hself
    cases c with
    | step =>
      have hlocked : Entry.Follows s i ⟨pid, false, .run r .driving⟩ (.run r .stepLocked) :=
        Entry.follows_plain (by nofun) rfl rfl id (fun _ _ h => h) rfl
      apply hs.acquire hi rfl hlocked
      rintro t ⟨⟩
      exact ⟨follows_end hg r.keep id, habort r.keep⟩
    | finish =>
      apply hend (r.keep || !r.planClear)
      intro h
      simp at h
      exact h.1
    | go | fail => exact hgo
  | stepLocked =>
    cases hn : r.ownName s with
    | none => simpa [move, hn, finishAbort] using hend r.keep id
    | some j =>
      simp only [move, hn]
      exact hs.go hi (follows_stepReady hs hi hn) (fun _ => rfl)
  | stepReady j =>
    apply hs.go hi _ (fun _ => rfl)
    obtain ⟨h₁, h₂, h₃, h₄, h₅, h₆⟩ := hs.follows_self hi
    exact ⟨by nofun, by nofun, id, fun _ _ h => h, h₅, h₆⟩
  | stepMounted j =>
    obtain ⟨hrun, hpid, ha, hk, hj⟩ := hok.steps j rfl
    simp [Entry.knows, RunStage.going] at hk
    simp only [Entry.orderly, Bool.false_eq_true, if_false, Bool.or_eq_true] at ho
    apply hs.enter hi rfl (Or.inr rfl) rfl (by simp [move]) rfl hrun hk.symm hpid ha _ rfl
    · obtain h | h := ho
      · obtain hj | hj := hj
        · rw [hj] at h
          cases h
        · exact Or.inl (by simp [Dirs.busy, hj, ha])
      · exact Or.inr h
    · exact hs.procTime _ _ (Dirs.jobAlive_iff.1 ha)
  | _ => cases hg

lemma finish_inv (hs : s.Inv) (hi : s.tasks.get i = some ⟨pid, false, .run r stage⟩) (c : Choice)
    (hf : stage.finishing) :
    (s.perform i ⟨pid, false, .run r stage⟩ (r.move s i pid c stage)).Inv := by
  have hok := hs.ok i _ hi
  cases stage with
  | clearing =>
    exact hs.go hi (Entry.follows_plain (by nofun) rfl rfl id (fun _ _ h => h) rfl) (by nofun)
  | torn =>
    apply hs.remove hi
    rintro t ⟨⟩
    exact ⟨rfl, rfl, rfl, rfl, fun _ _ h => h, rfl⟩
  | tail =>
    apply hs.flag hi
    rintro t ⟨⟩
    exact ⟨Entry.follows_plain (by nofun) rfl rfl (by nofun) (fun _ _ h => h) rfl, rfl⟩
  | disowning =>
    cases hn : r.ownName s with
    | none => simpa [move, hn] using hs.stop hi
    | some j =>
      simp only [move, hn]
      split
      · exact hs.go hi (Entry.follows_plain (by nofun) rfl rfl (by nofun) (fun _ _ h => h) rfl)
          (by nofun)
      · exact hs.stop hi
  | ownSeen =>
    exact hs.acquire hi rfl (Entry.follows_plain (by nofun) rfl rfl (by nofun) (fun _ _ h => h) rfl)
      (by nofun)
  | ownLocked =>
    cases hj : s.job with
    | none => simpa [move, hj] using hs.stop hi
    | some j =>
      simp only [move, hj]
      split
      · next h =>
        have hst : s.state.isSome := by
          by_contra hn
          rw [Bool.not_eq_true, Option.isSome_eq_false_iff, Option.isNone_iff_eq_none] at hn
          rw [Dirs.job_of_state_none hn] at hj
          cases hj
        refine hs.go hi (Entry.follows_guarded (by nofun) rfl rfl (by nofun) (fun _ _ h => h) ?_)
          (fun _ => rfl)
        rintro x k f ⟨⟩ hk hf
        apply hs.inTheWay_none hf hst
        intro j' hj' ha hr
        rw [hj] at hj'
        cases hj'
        have := (hok.known j hj ha (by simp [Entry.knows, h, RunStage.finishing])).1
        exact hk (hr.symm.trans this)
      · exact hs.stop hi
  | ownRead => exact hs.unmark hi rfl
  | _ => cases hf

end RunSpec

lemma RunSpec.move_inv (hs : s.Inv) {r : RunSpec} {stage : RunStage}
    (hi : s.tasks.get i = some ⟨pid, false, .run r stage⟩)
    (ho : Entry.orderly s i ⟨pid, false, .run r stage⟩) (c : Choice) :
    (s.perform i ⟨pid, false, .run r stage⟩ (r.move s i pid c stage)).Inv := by
  by_cases hg : stage.going
  · exact drive_inv hs hi ho c hg
  · by_cases hf : stage.finishing
    · exact finish_inv hs hi c hf
    · apply start_inv hs hi ho c
      cases stage <;> simp_all [RunStage.going, RunStage.finishing]

lemma Entry.move_inv (hs : s.Inv) (hi : s.tasks.get i = some e) (c : Choice)
    (ho : c = .fail ∨ e.orderly s i) : (s.perform i e (e.move s i c)).Inv := by
  obtain ⟨pid, reaping, t⟩ := e
  by_cases hc : c = .fail
  · simpa [Entry.move, hc] using Task.failed_inv hs hi
  · have ho := ho.resolve_left hc
    cases reaping with
    | true =>
      simp only [Entry.move, hc, if_false, if_true]
      simp only [Entry.orderly, if_true] at ho
      exact hs.reap hi ((hs.ok i _ hi).free rfl) ho
    | false =>
      simp only [Entry.move, hc, if_false, Bool.false_eq_true]
      cases t with
      | write cmd stage => exact WriteCmd.move_inv hs hi ho
      | clear torn => exact clearMove_inv hs hi
      | stop stage => exact StopStage.move_inv hs hi
      | run r stage => exact RunSpec.move_inv hs hi ho c

end Moves

end MediaServo.Weaknet
