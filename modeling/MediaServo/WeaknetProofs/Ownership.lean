import MediaServo.WeaknetProofs.JobMoves

/-! Who may change a site: over every run whose steps are orderly, one drive at a time, and nobody's
site in the place of a live job's. -/

namespace MediaServo.Weaknet

open MediaServo.Foundations

namespace Task

def clears : Task → Bool
  | .run _ .clearing | .run _ .torn => true
  | _ => false

def installs : Task → Bool
  | .write _ (.ready _) | .write _ (.mounted _) => true
  | .run _ .locked | .run _ .mounted | .run _ .installed | .run _ .recording => true
  | _ => false

def halfway : Task → Bool
  | .write _ (.mounted _) | .run _ .mounted | .run _ .installed | .run _ .recording
  | .run _ (.stepMounted _) => true
  | _ => false

def applies (s : Dirs) : Task → Bool
  | .run r .recorded | .run r .driving | .run r .stepLocked => (r.ownName s).isSome
  | .run _ (.stepReady _) | .run _ (.stepMounted _) => true
  | _ => false

end Task

namespace Dirs

def owned (s : Dirs) (i : ℕ) : Prop := s.state = none ∨ ∃ j, s.job = some j ∧ j.run = i

/-- One drive at a time, no site put in the place of a live job's, and no step and no clear of a run
on a site that is not its own. -/
structure Exclusive (s : Dirs) : Prop where
  oneDrive : ∀ i k e f, s.tasks.get i = some e → s.tasks.get k = some f → e.task.applies s →
    f.task.applies s → i = k
  installs : ∀ i e, s.tasks.get i = some e → e.task.installs → s.busy = false
  steps : ∀ i e, s.tasks.get i = some e → e.task.stepped.isSome → s.owned i
  clears : ∀ i e, s.tasks.get i = some e → e.task.clears → s.owned i ∧
    ∀ k f, s.tasks.get k = some f → f.task.halfway → k = i

variable {s : Dirs} {i k : ℕ} {e f : Entry}

lemma Inv.boot (hs : s.Inv) {pid : ℕ} (h : s.procs.get pid = none) :
    Inv { s with procs := s.procs.set pid s.clock, clock := s.clock + 1 } := by
  have hget : ∀ p t, t < s.clock →
      ((s.procs.set pid s.clock).get p = some t ↔ s.procs.get p = some t) := by
    intro p t ht
    rw [FiniteMap.get_set]
    by_cases hp : p = pid
    · subst hp
      simp [h]
      omega
    · simp [hp]
  have halive : ∀ j : JobRef, j.starttime < s.clock →
      Dirs.jobAlive { s with procs := s.procs.set pid s.clock, clock := s.clock + 1 } j =
        s.jobAlive j := by
    intro j hj
    rw [Bool.eq_iff_iff, jobAlive_iff, jobAlive_iff]
    exact hget j.pid j.starttime hj
  constructor
  · intro k f hk
    have hok := hs.ok k f hk
    constructor
    · obtain ⟨t, ht⟩ := hok.runs
      exact ⟨t, (hget _ _ (hs.procTime _ _ ht)).mpr ht⟩
    · exact hok.free
    · intro hl
      obtain ⟨t, ht, hp⟩ := hok.holds hl
      exact ⟨t, ht, (hget _ _ (hs.procTime _ _ hp)).mpr hp⟩
    · intro hq
      rw [busy_eq_false_iff]
      intro j hj
      rw [halive j (hs.jobTime j hj)]
      exact busy_eq_false_iff.1 (hok.quiet hq) j hj
    · intro j hj
      obtain ⟨hd, ht⟩ := hok.stale j hj
      exact ⟨by rwa [halive j ht], Nat.lt_succ_of_lt ht⟩
    · intro hc
      obtain ho | ⟨j, hj, hr, hp, ha⟩ := hok.owns hc
      · exact Or.inl ho
      · exact Or.inr ⟨j, hj, hr, hp, by rwa [halive j (hs.jobTime j hj)]⟩
    · intro j hj ha hn
      rw [halive j (hs.jobTime j hj)] at ha
      exact hok.known j hj ha hn
    · intro j hj
      obtain ⟨h₁, h₂, h₃, h₄, h₅⟩ := hok.steps j hj
      refine ⟨h₁, h₂, ?_, h₄, h₅⟩
      rwa [halive j (hs.procTime _ _ (jobAlive_iff.1 h₃))]
  · exact hs.alone
  · exact hs.fresh
  · intro j hj
    exact Nat.lt_succ_of_lt (hs.jobTime j hj)
  · intro p t hp
    rw [FiniteMap.get_set] at hp
    split_ifs at hp
    · cases hp
      exact Nat.lt_succ_self _
    · exact Nat.lt_succ_of_lt (hs.procTime p t hp)

lemma Inv.die (hs : s.Inv) (pid : ℕ) : Inv { s with
    procs := s.procs.remove pid, tasks := s.tasks.retain fun _ e => e.pid ≠ pid } := by
  have hget : ∀ k f, (s.tasks.retain fun _ e => e.pid ≠ pid).get k = some f →
      s.tasks.get k = some f ∧ f.pid ≠ pid := by
    intro k f hk
    rw [FiniteMap.get_retain, Option.filter_eq_some_iff] at hk
    simpa using hk
  have halive : ∀ j : JobRef, j.pid ≠ pid → s.jobAlive j → Dirs.jobAlive { s with
      procs := s.procs.remove pid, tasks := s.tasks.retain fun _ e => e.pid ≠ pid } j := by
    intro j hj ha
    rw [jobAlive_iff] at ha ⊢
    rw [← ha]
    exact FiniteMap.get_remove_ne _ hj
  have hdead : ∀ j : JobRef, Dirs.jobAlive { s with
      procs := s.procs.remove pid, tasks := s.tasks.retain fun _ e => e.pid ≠ pid } j →
      s.jobAlive j := by
    intro j ha
    rw [jobAlive_iff] at ha ⊢
    exact FiniteMap.get_of_remove ha
  have hdead' : ∀ j : JobRef, s.jobAlive j = false → Dirs.jobAlive { s with
      procs := s.procs.remove pid, tasks := s.tasks.retain fun _ e => e.pid ≠ pid } j = false := by
    intro j hj
    by_contra ha
    rw [Bool.not_eq_false] at ha
    rw [hdead j ha] at hj
    cases hj
  constructor
  · intro k f hk
    obtain ⟨hk, hp⟩ := hget k f hk
    have hok := hs.ok k f hk
    constructor
    · obtain ⟨t, ht⟩ := hok.runs
      exact ⟨t, by rw [← ht]; exact FiniteMap.get_remove_ne _ hp⟩
    · exact hok.free
    · intro hl
      obtain ⟨t, ht, hp'⟩ := hok.holds hl
      exact ⟨t, ht, by rw [← hp']; exact FiniteMap.get_remove_ne _ hp⟩
    · intro hq
      rw [busy_eq_false_iff]
      intro j hj
      exact hdead' j (busy_eq_false_iff.1 (hok.quiet hq) j hj)
    · intro j hj
      obtain ⟨hd, ht⟩ := hok.stale j hj
      exact ⟨hdead' j hd, ht⟩
    · intro hc
      obtain ho | ⟨j, hj, hr, hp', ha⟩ := hok.owns hc
      · exact Or.inl ho
      · exact Or.inr ⟨j, hj, hr, hp', halive j (by rwa [hp']) ha⟩
    · intro j hj ha hn
      exact hok.known j hj (hdead j ha) hn
    · intro j hj
      obtain ⟨h₁, h₂, h₃, h₄, h₅⟩ := hok.steps j hj
      exact ⟨h₁, h₂, halive j (by rwa [h₂]) h₃, h₄, h₅⟩
  · intro a b g h x hab ha hb hg
    exact hs.alone a b g h x hab (hget a g ha).1 (hget b h hb).1 hg
  · intro k hk
    simp [FiniteMap.get_retain, hs.fresh k hk]
  · exact hs.jobTime
  · intro p t hp
    exact hs.procTime p t (FiniteMap.get_of_remove hp)

lemma Inv.spawn (hs : s.Inv) {pid t : ℕ} (h : s.procs.get pid = some t) (cmd : Command) :
    Inv { s with tasks := s.tasks.set s.next ⟨pid, false, cmd.task⟩, next := s.next + 1 } := by
  have hget : ∀ k f, (s.tasks.set s.next ⟨pid, false, cmd.task⟩).get k = some f →
      f = ⟨pid, false, cmd.task⟩ ∨ s.tasks.get k = some f := by
    intro k f hk
    rw [FiniteMap.get_set] at hk
    split_ifs at hk
    · cases hk
      exact Or.inl rfl
    · exact Or.inr hk
  constructor
  · intro k f hk
    obtain rfl | hk := hget k f hk
    · refine ⟨⟨t, h⟩, ?_, ?_, ?_, ?_, ?_, ?_, ?_⟩ <;> cases cmd <;> nofun
    · obtain ⟨h₁, h₂, h₃, h₄, h₅, h₆, h₇, h₈⟩ := hs.ok k f hk
      exact ⟨h₁, h₂, h₃, h₄, h₅, h₆, h₇, h₈⟩
  · intro a b g h' x hab ha hb hg
    obtain rfl | ha := hget a g ha
    · cases cmd <;> cases hg
    · obtain rfl | hb := hget b h' hb
      · cases cmd <;> cases x <;> simp [Entry.inTheWay, Command.task, Task.mayClear, Entry.knows,
          RunStage.going, RunStage.finishing]
      · exact hs.alone a b g h' x hab ha hb hg
  · intro k hk
    have hne : k ≠ s.next := Nat.ne_of_gt hk
    rw [FiniteMap.get_set_ne _ _ hne]
    exact hs.fresh k (Nat.le_of_succ_le hk)
  · exact hs.jobTime
  · exact hs.procTime

theorem Inv.step (hs : s.Inv) (ev : SiteEvent) (ho : s.orderly ev) : (s.step ev).Inv := by
  cases ev with
  | boot pid =>
    simp only [Dirs.step]
    split
    · next h => exact hs.boot h
    · exact hs
  | die pid => exact hs.die pid
  | spawn pid cmd =>
    simp only [Dirs.step]
    split
    · next h => exact hs.spawn h cmd
    · exact hs
  | act i c =>
    simp only [Dirs.step]
    split
    · next e h =>
      apply Entry.move_inv hs h c
      simpa [Dirs.orderly, h] using ho
    · exact hs

lemma inv_empty : empty.Inv := by
  constructor <;> intros <;> simp_all [empty, job]

lemma Inv.job_of_applies (hs : s.Inv) (hi : s.tasks.get i = some e) (ha : e.task.applies s) :
    (∃ j, s.job = some j ∧ j.run = i) ∨ s.state = none ∧ e.task.holdsLock := by
  have hok := hs.ok i e hi
  have hname : ∀ (r : RunSpec) j, r.ownName s = some j → (∀ n p, n = r.name → e.knows n p) →
      ∃ j, s.job = some j ∧ j.run = i := by
    intro r j hj hk
    obtain ⟨hjob, hn, hal⟩ := RunSpec.ownName_eq_some.1 hj
    exact ⟨j, hjob, (hok.known j hjob hal (hk _ _ hn)).1⟩
  have hstep : ∀ j, e.task.stepped = some j →
      (∃ j, s.job = some j ∧ j.run = i) ∨ s.state = none ∧ e.task.holdsLock := by
    intro j hj
    obtain ⟨hr, _, _, _, h | h⟩ := hok.steps j hj
    · exact Or.inr ⟨h, Task.holdsLock_of_stepped hj⟩
    · exact Or.inl ⟨j, h, hr⟩
  obtain ⟨pid, reaping, t⟩ := e
  cases t with
  | run r stage =>
    cases stage with
    | recorded | driving | stepLocked =>
      obtain ⟨j, hj⟩ := Option.isSome_iff_exists.mp ha
      left
      apply hname r j hj
      rintro n p rfl
      simp [Entry.knows, RunStage.going]
    | stepReady j | stepMounted j => exact hstep j rfl
    | _ => cases ha
  | _ => cases ha

lemma Inv.exclusive (hs : s.Inv) : s.Exclusive := by
  constructor
  · intro i k e f hi hk he hf
    obtain ⟨j, hj, rfl⟩ | ⟨hn, hl⟩ := hs.job_of_applies hi he
    · obtain ⟨j', hj', rfl⟩ | ⟨hn, _⟩ := hs.job_of_applies hk hf
      · rw [hj] at hj'
        cases hj'
        rfl
      · rw [job_of_state_none hn] at hj
        cases hj
    · obtain ⟨j', hj', rfl⟩ | ⟨_, hl'⟩ := hs.job_of_applies hk hf
      · rw [job_of_state_none hn] at hj'
        cases hj'
      · exact hs.lock_excl hi hk hl hl'
  · intro i e hi he
    apply (hs.ok i e hi).quiet
    obtain ⟨_, _, t⟩ := e
    cases t with
    | write cmd stage => cases stage <;> first | rfl | cases he
    | run r stage => cases stage <;> first | rfl | cases he
    | _ => cases he
  · intro i e hi he
    obtain ⟨j, hj⟩ := Option.isSome_iff_exists.mp he
    obtain ⟨hr, _, _, _, h | h⟩ := (hs.ok i e hi).steps j hj
    · exact Or.inl h
    · exact Or.inr ⟨j, h, hr⟩
  · intro i e hi he
    have hmay : e.task.mayClear := by
      obtain ⟨_, _, t⟩ := e
      cases t with
      | run r stage => cases stage <;> first | rfl | cases he
      | _ => cases he
    refine ⟨?_, ?_⟩
    · obtain h | ⟨j, hj, hr, _⟩ := (hs.ok i e hi).owns hmay
      · exact Or.inl h
      · exact Or.inr ⟨j, hj, hr⟩
    · intro k f hk hf
      by_contra hne
      have hguards : ∃ x, f.guards = some x := by
        obtain ⟨_, _, t⟩ := f
        cases t with
        | write cmd stage => cases stage <;> first | exact ⟨_, rfl⟩ | cases hf
        | run r stage => cases stage <;> first | exact ⟨_, rfl⟩ | cases hf
        | _ => cases hf
      obtain ⟨x, hx⟩ := hguards
      have := hs.alone k i f e x hne hk hi hx
      simp [Entry.inTheWay, hmay] at this

/-- In a run whose steps are all orderly, no site changes hands under a live job. -/
theorem site_exclusive (events : List SiteEvent)
    (h : Along Dirs.step (fun s ev => s.orderly ev) empty events) :
    (run Dirs.step empty events).Exclusive :=
  (run_invariant inv_empty (fun _ ev hs ho => hs.step ev ho) h).exclusive

theorem site_exclusive_steps :
    (run Dirs.step empty
      (([.boot 4, .spawn 4 (.run ⟨"ch", false, true⟩)] : List SiteEvent) ++
        List.replicate 8 (SiteEvent.act 0 .go) ++
        ([.boot 5, .spawn 5 (.write .apply), .act 1 .go, .act 0 .step, .act 0 .go, .act 0 .go,
          .act 0 .go, .spawn 5 .stop, .act 2 .go, .act 2 .go] : List SiteEvent) ++
        List.replicate 6 (SiteEvent.act 0 .go))).Exclusive :=
  site_exclusive _ (by decide)

/-- `up` takes the lock and goes on, with the job of a drive alive. -/
theorem up_over_live_job :
    ¬(run Dirs.step empty
      (([.boot 4, .spawn 4 (.run ⟨"ch", false, true⟩)] : List SiteEvent) ++
        List.replicate 8 (SiteEvent.act 0 .go) ++
        ([.boot 5, .spawn 5 (.write .up), .act 1 .go, .act 1 .go] : List SiteEvent))).Exclusive := by
  intro h
  have := h.installs 1 ⟨5, false, .write .up (.ready none)⟩ (by decide) rfl
  revert this
  decide

end Dirs

end MediaServo.Weaknet
