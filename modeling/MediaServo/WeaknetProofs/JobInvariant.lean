import MediaServo.Weaknet.Jobs

/-! What the tasks on a state directory can rely on. A recorded job is held to be a run's own by its
name, and by its process when the run ends, and every look at it is apart from what it decides. The
invariant carries what each task has seen from its look to its last write. -/

namespace MediaServo.Weaknet

open MediaServo.Foundations

def RunStage.going : RunStage → Bool
  | .recorded | .driving | .stepLocked | .stepReady _ | .stepMounted _ => true
  | _ => false

def RunStage.finishing : RunStage → Bool
  | .clearing | .torn | .tail | .disowning | .ownSeen | .ownLocked | .ownRead => true
  | _ => false

def Entry.knows (e : Entry) (name : String) (pid : ℕ) : Bool :=
  match e.task with
  | .run r stage => (stage.going || stage.finishing && e.pid = pid) && r.name = name
  | _ => false

namespace Task

def mayClear : Task → Bool
  | .run _ .clearing | .run _ .torn => true
  | .run r stage => stage.going && !r.keep
  | _ => false

def waiting : Task → Bool
  | .write _ .gated | .stop .staleSeen | .run _ .passed | .run _ .gated => true
  | _ => false

def quiet : Task → Bool
  | .write cmd .locked => cmd.gatesFirst
  | .write _ (.ready _) | .write _ (.mounted _) | .stop .staleLocked | .stop .staleRead => true
  | .run _ .locked | .run _ .mounted | .run _ .installed | .run _ .recording => true
  | t => t.waiting

def carried : Task → Option JobRef
  | .write _ (.ready job) | .write _ (.mounted job) => job
  | _ => none

def stepped : Task → Option JobRef
  | .run _ (.stepReady j) | .run _ (.stepMounted j) => some j
  | _ => none

end Task

def Entry.inTheWay (e : Entry) (name : Option (String × ℕ)) : Bool :=
  e.task.mayClear || name.any fun p => e.knows p.1 p.2

def Dirs.alone (s : Dirs) (i : ℕ) (name : Option (String × ℕ)) : Bool :=
  s.tasks.toList.all fun p => p.1 = i || !p.2.inTheWay name

def Dirs.unobserved (s : Dirs) : Bool := s.tasks.toList.all fun p => !p.2.task.waiting

/-- When a step of a task keeps the site in one hand. `up` goes on only beside no live job. A site
is installed beside no run that may still clear it, and a run's also beside none that would take the
new job for its own. No job comes alive between another command's look and its lock. And a lock is
removed only while its process is dead. -/
def Entry.orderly (s : Dirs) (i : ℕ) (e : Entry) : Bool :=
  if e.reaping then s.lock.all fun l => !s.holderAlive l
  else
    match e.task with
    | .write .up .locked => !s.busy
    | .write _ (.ready _) => s.alone i none
    | .run r .locked => s.alone i (some (r.name, e.pid))
    | .run _ .recording => s.unobserved
    | .run _ (.stepMounted _) => s.state.isSome || s.unobserved
    | _ => true

def Dirs.orderly (s : Dirs) : SiteEvent → Bool
  | .act i c => c = .fail || (s.tasks.get i).all (·.orderly s i)
  | _ => true

def Entry.guards (e : Entry) : Option (Option (String × ℕ)) :=
  match e.task with
  | .write _ (.mounted _) | .stop .staleRead | .run _ .ownRead => some none
  | .run r .mounted | .run r .installed | .run r .recording | .run r (.stepReady _)
  | .run r (.stepMounted _) => some (some (r.name, e.pid))
  | _ => none

structure Entry.Ok (s : Dirs) (i : ℕ) (e : Entry) : Prop where
  runs : ∃ t, s.procs.get e.pid = some t
  free : e.reaping → e.task.holdsLock = false
  holds : e.task.holdsLock → ∃ t, s.lock = some ⟨e.pid, t, i⟩ ∧ s.procs.get e.pid = some t
  quiet : e.task.quiet → s.busy = false
  stale : ∀ j, e.task.carried = some j → s.jobAlive j = false ∧ j.starttime < s.clock
  owns : e.task.mayClear → s.state = none ∨
    ∃ j, s.job = some j ∧ j.run = i ∧ j.pid = e.pid ∧ s.jobAlive j
  known : ∀ j, s.job = some j → s.jobAlive j → e.knows j.name j.pid → j.run = i ∧ j.pid = e.pid
  steps : ∀ j, e.task.stepped = some j → j.run = i ∧ j.pid = e.pid ∧ s.jobAlive j ∧
    e.knows j.name j.pid ∧ (s.state = none ∨ s.job = some j)

structure Dirs.Inv (s : Dirs) : Prop where
  ok : ∀ i e, s.tasks.get i = some e → e.Ok s i
  alone : ∀ i k e f x, i ≠ k → s.tasks.get i = some e → s.tasks.get k = some f →
    e.guards = some x → f.inTheWay x = false
  fresh : ∀ i, s.next ≤ i → s.tasks.get i = none
  jobTime : ∀ j, s.job = some j → j.starttime < s.clock
  procTime : ∀ p t, s.procs.get p = some t → t < s.clock

namespace Dirs

variable {s : Dirs} {i k : ℕ} {e f : Entry}

lemma busy_eq_false_iff : s.busy = false ↔ ∀ j, s.job = some j → s.jobAlive j = false := by
  cases h : s.job <;> simp [busy, h]

lemma jobAlive_iff {j : JobRef} : s.jobAlive j ↔ s.procs.get j.pid = some j.starttime :=
  decide_eq_true_iff

lemma job_of_state_none (h : s.state = none) : s.job = none := by simp [job, h]

namespace Inv

lemma lock_excl (hs : s.Inv) (hi : s.tasks.get i = some e) (hk : s.tasks.get k = some f)
    (he : e.task.holdsLock) (hf : f.task.holdsLock) : i = k := by
  obtain ⟨t, ht, _⟩ := (hs.ok i e hi).holds he
  obtain ⟨t', ht', _⟩ := (hs.ok k f hk).holds hf
  rw [ht] at ht'
  simp at ht'
  exact ht'.2.2

end Inv

end Dirs

lemma Entry.alone_iff {s : Dirs} {i : ℕ} {x : Option (String × ℕ)} :
    s.alone i x ↔ ∀ k f, s.tasks.get k = some f → k ≠ i → f.inTheWay x = false := by
  simp only [Dirs.alone, List.all_eq_true, Prod.forall, FiniteMap.mem_toList]
  apply forall_congr'
  intro k
  apply forall_congr'
  intro f
  by_cases h : k = i <;> simp [h]

lemma unobserved_iff {s : Dirs} :
    s.unobserved ↔ ∀ k f, s.tasks.get k = some f → f.task.waiting = false := by
  simp [Dirs.unobserved]

section Perform

variable {s s' : Dirs} {i k : ℕ} {e f : Entry} {m : Move}

@[simp] lemma Effect.apply_procs (x : Effect) (p : ℕ) : (x.apply s i p).procs = s.procs := by
  cases x <;> rfl

@[simp] lemma Effect.apply_clock (x : Effect) (p : ℕ) : (x.apply s i p).clock = s.clock := by
  cases x <;> rfl

@[simp] lemma Effect.apply_tasks (x : Effect) (p : ℕ) : (x.apply s i p).tasks = s.tasks := by
  cases x <;> rfl

@[simp] lemma Effect.apply_next (x : Effect) (p : ℕ) : (x.apply s i p).next = s.next := by
  cases x <;> rfl

namespace Dirs

@[simp] lemma perform_state : (s.perform i e m).state = (m.effect.apply s i e.pid).state := rfl

@[simp] lemma perform_procs : (s.perform i e m).procs = s.procs := by simp [perform]

@[simp] lemma perform_clock : (s.perform i e m).clock = s.clock := by simp [perform]

@[simp] lemma perform_next : (s.perform i e m).next = s.next := by simp [perform]

lemma perform_get_ne (h : k ≠ i) : (s.perform i e m).tasks.get k = s.tasks.get k := by
  cases hm : m.next with
  | none => simp [perform, hm, FiniteMap.get_remove_ne _ h]
  | some t => simp [perform, hm, FiniteMap.get_set_ne _ _ h]

lemma perform_get_self : (s.perform i e m).tasks.get i =
    m.next.map fun t => { e with reaping := m.effect = .suspect, task := t } := by
  cases hm : m.next <;> simp [perform, hm]

lemma jobAlive_congr (h : s'.procs = s.procs) : s'.jobAlive = s.jobAlive := by
  funext j
  rw [jobAlive, jobAlive, readProcStarttime, readProcStarttime, h]

lemma job_congr (h : s'.state = s.state) : s'.job = s.job := by simp only [job, h]

lemma busy_congr (h : s'.state = s.state) (hp : s'.procs = s.procs) : s'.busy = s.busy := by
  simp only [busy, job_congr h, jobAlive_congr hp]

lemma perform_lock (hs : s.Inv) (hi : s.tasks.get i = some e) (hk : s.tasks.get k = some f)
    (hne : k ≠ i) (hf : f.task.holdsLock) (hlock : m.effect = .lock → s.lock = none)
    (hreap : m.effect = .reap → ∀ l, s.lock = some l → s.holderAlive l = false) :
    (s.perform i e m).lock = s.lock := by
  have he : e.task.holdsLock = false := by
    by_contra he
    rw [Bool.not_eq_false] at he
    exact hne (hs.lock_excl hk hi hf he)
  obtain ⟨t, hl, ht⟩ := (hs.ok k f hk).holds hf
  cases hx : m.effect with
  | lock =>
    rw [hlock hx] at hl
    cases hl
  | reap =>
    have := hreap hx _ hl
    simp [holderAlive, readProcStarttime, ht] at this
  | _ => simp [perform, he, hx, Effect.apply]

end Dirs

lemma Entry.Ok.reseat (h : f.Ok s k) (hprocs : s'.procs = s.procs) (hclock : s'.clock = s.clock)
    (hlock : f.task.holdsLock → s'.lock = s.lock) (hquiet : f.task.quiet → s'.busy = false)
    (howns : f.task.mayClear → s'.state = none ∨
      ∃ j, s'.job = some j ∧ j.run = k ∧ j.pid = f.pid ∧ s.jobAlive j)
    (hknown : ∀ j, s'.job = some j → s.jobAlive j → f.knows j.name j.pid →
      j.run = k ∧ j.pid = f.pid)
    (hsteps : ∀ j, f.task.stepped = some j → s'.state = none ∨ s'.job = some j) : f.Ok s' k := by
  have ha := Dirs.jobAlive_congr hprocs
  constructor
  · rw [hprocs]
    exact h.runs
  · exact h.free
  · intro hf
    rw [hlock hf, hprocs]
    exact h.holds hf
  · exact hquiet
  · rw [ha, hclock]
    exact h.stale
  · rw [ha]
    exact howns
  · rw [ha]
    exact hknown
  · intro j hj
    obtain ⟨h₁, h₂, h₃, h₄, _⟩ := h.steps j hj
    rw [ha]
    exact ⟨h₁, h₂, h₃, h₄, hsteps j hj⟩

lemma Entry.Ok.frame (h : f.Ok s k) (hstate : s'.state = s.state) (hprocs : s'.procs = s.procs)
    (hclock : s'.clock = s.clock) (hlock : f.task.holdsLock → s'.lock = s.lock) : f.Ok s' k := by
  apply h.reseat hprocs hclock hlock
  · rw [Dirs.busy_congr hstate hprocs]
    exact h.quiet
  · rw [hstate, Dirs.job_congr hstate]
    exact h.owns
  · rw [Dirs.job_congr hstate]
    exact h.known
  · intro j hj
    rw [hstate, Dirs.job_congr hstate]
    exact (h.steps j hj).2.2.2.2

structure Entry.Follows (s : Dirs) (i : ℕ) (e : Entry) (t : Task) : Prop where
  quiet : t.quiet → s.busy = false
  stale : ∀ j, t.carried = some j → s.jobAlive j = false ∧ j.starttime < s.clock
  clear : t.mayClear → e.task.mayClear
  knows : ∀ n p, Entry.knows { e with task := t } n p → e.knows n p
  steps : ∀ j, t.stepped = some j → j.run = i ∧ j.pid = e.pid ∧ s.jobAlive j ∧
    Entry.knows { e with task := t } j.name j.pid ∧ (s.state = none ∨ s.job = some j)
  guards : ∀ x k f, Entry.guards { e with task := t } = some x → k ≠ i → s.tasks.get k = some f →
    f.inTheWay x = false

lemma Entry.Follows.inTheWay {t : Task} (h : e.Follows s i t) {x : Option (String × ℕ)}
    (hx : e.inTheWay x = false) : Entry.inTheWay { e with task := t } x = false := by
  simp only [Entry.inTheWay, Bool.or_eq_false_iff, Option.any_eq_false] at hx ⊢
  refine ⟨?_, ?_⟩
  · by_contra hc
    rw [Bool.not_eq_false] at hc
    rw [h.clear hc] at hx
    cases hx.1
  · intro p hp
    by_contra hc
    rw [Bool.not_eq_false] at hc
    have := hx.2 p hp
    rw [h.knows _ _ hc] at this
    cases this

lemma Dirs.Inv.perform (hs : s.Inv) (hi : s.tasks.get i = some e)
    (htime : ∀ j, (s.perform i e m).job = some j → j.starttime < s.clock)
    (hself : ∀ t, m.next = some t →
      Entry.Ok (s.perform i e m) i { e with reaping := m.effect = .suspect, task := t })
    (hothers : ∀ k f, k ≠ i → s.tasks.get k = some f → f.Ok (s.perform i e m) k)
    (hguards : ∀ t x k f, m.next = some t → k ≠ i → s.tasks.get k = some f →
      Entry.guards { e with task := t } = some x → f.inTheWay x = false)
    (hway : ∀ t x k f, m.next = some t → k ≠ i → s.tasks.get k = some f → f.guards = some x →
      Entry.inTheWay { e with task := t } x = false) : (s.perform i e m).Inv := by
  have hget : ∀ k f, (s.perform i e m).tasks.get k = some f → k = i →
      ∃ t, m.next = some t ∧ f = { e with reaping := m.effect = .suspect, task := t } := by
    rintro k f hk rfl
    rw [perform_get_self, Option.map_eq_some_iff] at hk
    obtain ⟨t, ht, rfl⟩ := hk
    exact ⟨t, ht, rfl⟩
  constructor
  · intro k f hk
    by_cases hki : k = i
    · obtain ⟨t, ht, rfl⟩ := hget k f hk hki
      subst hki
      exact hself t ht
    · rw [perform_get_ne hki] at hk
      exact hothers k f hki hk
  · intro a b g h x hab ha hb hg
    by_cases hai : a = i
    · obtain ⟨t, ht, rfl⟩ := hget a g ha hai
      have hbi : b ≠ i := by
        rintro rfl
        exact hab hai
      rw [perform_get_ne hbi] at hb
      exact hguards t x b h ht hbi hb hg
    · rw [perform_get_ne hai] at ha
      by_cases hbi : b = i
      · obtain ⟨t, ht, rfl⟩ := hget b h hb hbi
        exact hway t x a g ht hai ha hg
      · rw [perform_get_ne hbi] at hb
        exact hs.alone a b g h x hab ha hb hg
  · intro k hk
    rw [perform_next] at hk
    have hki : k ≠ i := by
      rintro rfl
      rw [hs.fresh k hk] at hi
      cases hi
    rw [perform_get_ne hki]
    exact hs.fresh k hk
  · rw [perform_clock]
    exact htime
  · rw [perform_procs, perform_clock]
    exact hs.procTime

lemma Dirs.Inv.still (hs : s.Inv) (hi : s.tasks.get i = some e)
    (hstate : (m.effect.apply s i e.pid).state = s.state)
    (hlock : m.effect = .lock → s.lock = none)
    (hreap : m.effect = .reap → ∀ l, s.lock = some l → s.holderAlive l = false)
    (hhold : ∀ t, m.next = some t → t.holdsLock →
      m.effect = .lock ∨ e.task.holdsLock ∧ m.effect = .nothing)
    (hnext : ∀ t, m.next = some t → e.Follows s i t) : (s.perform i e m).Inv := by
  have hst : (s.perform i e m).state = s.state := hstate
  apply hs.perform hi
  · rw [job_congr hst]
    exact hs.jobTime
  · intro t ht
    have hok := hs.ok i e hi
    have hf := hnext t ht
    constructor
    · simpa using hok.runs
    · intro hx
      by_contra hl
      rw [Bool.not_eq_false] at hl
      obtain h | ⟨_, h⟩ := hhold t ht hl
      · simp [h] at hx
      · simp [h] at hx
    · intro hl
      obtain ⟨p, hp⟩ := hok.runs
      obtain h | ⟨h, hx⟩ := hhold t ht hl
      · simp [Dirs.perform, ht, hl, h, Effect.apply, readProcStarttime, hp]
      · obtain ⟨q, hq, hq'⟩ := hok.holds h
        exact ⟨q, by simpa [Dirs.perform, ht, hl, hx, Effect.apply] using hq, by simpa using hq'⟩
    · intro hq
      rw [busy_congr hst perform_procs]
      exact hf.quiet hq
    · rw [jobAlive_congr perform_procs, perform_clock]
      exact hf.stale
    · intro hc
      rw [hst, job_congr hst, jobAlive_congr perform_procs]
      exact hok.owns (hf.clear hc)
    · rw [job_congr hst, jobAlive_congr perform_procs]
      intro j hj ha hn
      exact hok.known j hj ha (hf.knows _ _ hn)
    · rw [hst, job_congr hst, jobAlive_congr perform_procs]
      exact hf.steps
  · intro k f hk hf
    apply (hs.ok k f hf).frame hst perform_procs perform_clock
    intro hl
    exact perform_lock hs hi hf hk hl hlock hreap
  · intro t x k f ht hk hf hx
    exact (hnext t ht).guards x k f hx hk hf
  · intro t x k f ht hk hf hx
    exact (hnext t ht).inTheWay (hs.alone k i f e x hk hf hi hx)

lemma Dirs.Inv.follows_self (hs : s.Inv) (hi : s.tasks.get i = some e) : e.Follows s i e.task := by
  have hok := hs.ok i e hi
  constructor
  · exact hok.quiet
  · exact hok.stale
  · exact id
  · intro n p h
    exact h
  · exact hok.steps
  · intro x k f hx hk hf
    exact hs.alone i k e f x hk.symm hi hf hx

lemma Dirs.Inv.go (hs : s.Inv) (hi : s.tasks.get i = some e) {t : Task} (ht : e.Follows s i t)
    (hl : t.holdsLock → e.task.holdsLock) : (s.perform i e (.go t)).Inv := by
  apply hs.still hi rfl (by nofun) (by nofun)
  · intro t' ht' hl'
    cases ht'
    exact Or.inr ⟨hl hl', rfl⟩
  · intro t' ht'
    cases ht'
    exact ht

lemma Dirs.Inv.stop (hs : s.Inv) (hi : s.tasks.get i = some e) : (s.perform i e .stop).Inv :=
  hs.still hi rfl (by nofun) (by nofun) (by nofun) (by nofun)

lemma Dirs.Inv.flag (hs : s.Inv) (hi : s.tasks.get i = some e) {on : Bool} {next : Option Task}
    (ht : ∀ t, next = some t → e.Follows s i t ∧ t.holdsLock = false) :
    (s.perform i e ⟨.flag on, next⟩).Inv := by
  apply hs.still hi rfl (by nofun) (by nofun)
  · intro t h hl
    rw [(ht t h).2] at hl
    cases hl
  · intro t h
    exact (ht t h).1

lemma Dirs.Inv.acquire (hs : s.Inv) (hi : s.tasks.get i = some e) (he : e.task.holdsLock = false)
    {got : Task} {busy : Option Task} (hg : e.Follows s i got)
    (hb : ∀ t, busy = some t → e.Follows s i t ∧ t.holdsLock = false) :
    (s.perform i e (acquireWriteLock s e.task got busy)).Inv := by
  cases hl : s.lock with
  | none =>
    simp only [acquireWriteLock, hl]
    apply hs.still hi rfl (fun _ => hl) (by nofun)
    · intro t ht _
      exact Or.inl rfl
    · intro t ht
      cases ht
      exact hg
  | some l =>
    simp only [acquireWriteLock, hl]
    split
    · apply hs.still hi rfl (by nofun) (by nofun)
      · intro t ht htl
        rw [(hb t ht).2] at htl
        cases htl
      · intro t ht
        exact (hb t ht).1
    · apply hs.still hi rfl (by nofun) (by nofun)
      · intro t ht htl
        cases ht
        rw [he] at htl
        cases htl
      · intro t ht
        cases ht
        exact hs.follows_self hi

lemma Dirs.Inv.reap (hs : s.Inv) (hi : s.tasks.get i = some e) (he : e.task.holdsLock = false)
    (hr : s.lock.all fun l => !s.holderAlive l) :
    (s.perform i e ⟨.reap, some e.task⟩).Inv := by
  apply hs.still hi rfl (by nofun)
  · intro _ l hl
    simpa [hl] using hr
  · intro t ht htl
    cases ht
    rw [he] at htl
    cases htl
  · intro t ht
    cases ht
    exact hs.follows_self hi

end Perform

end MediaServo.Weaknet
