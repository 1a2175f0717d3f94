import MediaServo.Host.Cluster
import MediaServo.HostProofs.ConfigSteps

/-! What the outcome of a run says about the registry, the live oxfile and the running row. -/

namespace MediaServo.Host

section Runs

variable {y : Reader} {env : Env} {d : Dir} {hash : Content → String}
  {names : String → Except String (List String)} {w : Surroundings} {j : Job} {t t₀ : Scene}
  {s₀ : Device} {registry₀ : List OxProcess}

lemma steps_of_next {next : Except Ending Phase}
    (hm : (j.moveAt y env d hash names w t).next = next) :
    Steps y env d hash { j with phase := t.phase } t.device (j.moveAt y env d hash names w t).effect
      next :=
  hm ▸ move_within

lemma registryAt_quiet (hc : t.phase.commands = false) : w.registryAt t = t.registry := by
  simp [Surroundings.registryAt, hc]

lemma Job.Reaches.induct {I : Scene → Prop} (h : j.Reaches y env d hash names w t₀ t) (h₀ : I t₀)
    (hstep : ∀ t phase, I t → (j.moveAt y env d hash names w t).next = .ok phase →
      I (j.sceneAfter y env d hash names w t phase)) : I t := by
  induction h with
  | start => exact h₀
  | step h hm ih => exact hstep _ _ ih hm

def Scene.Keeps (s₀ : Device) (registry₀ : List OxProcess) (t : Scene) : Prop :=
  match t.phase with
  | .queued | .locked => t.device = s₀ ∧ t.registry = registry₀
  | .judging c => t.device = s₀ ∧ t.registry = registry₀ ∧ s₀.hostYaml = some c
  | .sweeping r | .staging r =>
      t.registry = registry₀ ∧ t.device.oxfile = s₀.oxfile ∧
        t.device.ledger.running = s₀.ledger.running ∧ r.led.running = s₀.ledger.running
  | .listing r =>
      t.registry = registry₀ ∧ t.device.staging = some r.rendered ∧
        t.device.oxfile = s₀.oxfile ∧ t.device.ledger.running = s₀.ledger.running ∧
        r.led.running = s₀.ledger.running
  | .tearing r _ | .verifying r | .preparing r | .activating r =>
      t.device.staging = some r.rendered ∧ t.device.oxfile = s₀.oxfile ∧
        t.device.ledger.running = s₀.ledger.running ∧ r.led.running = s₀.ledger.running
  | .residue r _ _ =>
      t.device.oxfile = s₀.oxfile ∧ t.device.ledger.running = s₀.ledger.running ∧
        r.led.running = s₀.ledger.running
  | .applying r | .refusing r _ _ | .reconciling r | .committing r =>
      t.device.oxfile = some r.rendered ∧ t.device.ledger.running = s₀.ledger.running ∧
        r.led.running = s₀.ledger.running
  | _ => False

lemma keeps_step (hj : j.push = none) {phase : Phase} (ht : t.Keeps s₀ registry₀)
    (hm : (j.moveAt y env d hash names w t).next = .ok phase) :
    (j.sceneAfter y env d hash names w t phase).Keeps s₀ registry₀ := by
  have hs := steps_of_next hm
  simp only [Job.sceneAfter]
  generalize (j.moveAt y env d hash names w t).effect = e at hs ⊢
  generalize hn : (Except.ok phase : Except Ending Phase) = next at hs
  obtain ⟨ph, dev, reg, seen⟩ := t
  cases hs with
  | current h _ =>
    simp [Job.finish, hj] at hn
  | committed h => simp [Job.finish, hj] at hn
  | bootDeclined h =>
    obtain ⟨_, h⟩ | ⟨_, _, h⟩ := h <;> simp only at h <;> subst h <;> exact ht.elim
  | _ => first
    | (cases hn; done)
    | (cases hn
       simp_all [Scene.Keeps, Effect.apply, Surroundings.registryAt, Phase.commands, Run.save])

lemma keeps_of_reached (hj : j.push = none)
    (h : j.Reaches y env d hash names w (Scene.core s₀ registry₀) t) : t.Keeps s₀ registry₀ :=
  h.induct (I := fun t => t.Keeps s₀ registry₀) ⟨rfl, rfl⟩ fun _ _ ht hm => keeps_step hj ht hm

lemma refused_keeps (hj : j.push = none) (ht : t.Keeps s₀ registry₀) {reason : String}
    (hm : (j.moveAt y env d hash names w t).next = .error (.outcome (.refused reason))) :
    ((j.moveAt y env d hash names w t).effect.apply t.device).ledger.running = s₀.ledger.running ∧
      ((∃ r result, t.phase = .refusing r reason result) ∨
        w.registryAt t = registry₀ ∧
          ((j.moveAt y env d hash names w t).effect.apply t.device).oxfile = s₀.oxfile) := by
  have hs := steps_of_next hm
  generalize (j.moveAt y env d hash names w t).effect = e at hs ⊢
  generalize hn : (Except.error (Ending.outcome (.refused reason)) : Except Ending Phase) = next
    at hs
  obtain ⟨ph, dev, reg, seen⟩ := t
  cases hs with
  | current h _ => simp [Job.finish, hj] at hn
  | committed h => simp [Job.finish, hj] at hn
  | bootEnds o h _ _ =>
    simp only at h
    subst h
    exact ht.elim
  | _ => first
    | (cases hn; done)
    | (cases hn
       simp_all [Scene.Keeps, Effect.apply, Surroundings.registryAt, Phase.commands])

lemma residue_keeps (hj : j.push = none) (ht : t.Keeps s₀ registry₀) {survivors : List SurvivorInfo}
    (hm : (j.moveAt y env d hash names w t).next = .error (.outcome (.residue survivors))) :
    ((j.moveAt y env d hash names w t).effect.apply t.device).oxfile = s₀.oxfile ∧
      ((j.moveAt y env d hash names w t).effect.apply t.device).ledger.running =
        s₀.ledger.running := by
  have hs := steps_of_next hm
  generalize (j.moveAt y env d hash names w t).effect = e at hs ⊢
  generalize hn : (Except.error (Ending.outcome (.residue survivors)) : Except Ending Phase) = next
    at hs
  obtain ⟨ph, dev, reg, seen⟩ := t
  cases hs with
  | current h _ => simp [Job.finish, hj] at hn
  | committed h => simp [Job.finish, hj] at hn
  | bootEnds o h _ _ =>
    simp only at h
    subst h
    exact ht.elim
  | _ => first
    | (cases hn; done)
    | (cases hn
       simp_all [Scene.Keeps, Effect.apply])

/-- A run that carries no push leaves host.yaml alone, and judges what it has read there. -/
def Scene.Reads (content : Option Content) (t : Scene) : Prop :=
  t.device.hostYaml = content ∧ ∀ c, t.phase = .judging c → content = some c

lemma reads_step (hj : j.push = none) {content : Option Content} {phase : Phase}
    (ht : t.Reads content) (hm : (j.moveAt y env d hash names w t).next = .ok phase) :
    (j.sceneAfter y env d hash names w t phase).Reads content := by
  have hs := steps_of_next hm
  simp only [Job.sceneAfter]
  generalize (j.moveAt y env d hash names w t).effect = e at hs ⊢
  generalize hn : (Except.ok phase : Except Ending Phase) = next at hs
  obtain ⟨hyaml, -⟩ := ht
  cases hs with
  | current h _ => simp [Job.finish, hj] at hn
  | committed h => simp [Job.finish, hj] at hn
  | _ => first
    | (cases hn; done)
    | (cases hn
       simp_all [Scene.Reads, Effect.apply])

def AllRunning (y : Reader) (env : Env) (hostYaml : Option Content) (registry : List OxProcess) :
    Prop :=
  ∃ cfg expected, hostYaml = some (.text cfg) ∧ expectedProcessNames y env cfg = .ok expected ∧
    ∀ n ∈ expected, ∃ p ∈ registry, p.name = n ∧ p.status = "running"

lemma allRunning_of_skip {answer : Listing} {content : Content} {m : Bool}
    (h : noopMaySkip y env answer content m = true) :
    ∃ registry, answer = .ok registry ∧ AllRunning y env (some content) registry := by
  cases content with
  | raw bytes => cases h
  | text cfg =>
    cases answer with
    | error e => cases he : expectedProcessNames y env cfg <;> simp [noopMaySkip, he] at h
    | ok registry =>
      cases he : expectedProcessNames y env cfg with
      | error e => simp [noopMaySkip, he] at h
      | ok expected =>
        have hdead : deadApps expected registry = [] := by
          by_contra hne
          simp [noopMaySkip, he, noopVerdict, hne] at h
        refine ⟨registry, rfl, cfg, expected, rfl, he, fun n hn => ?_⟩
        by_contra hno
        refine List.filter_eq_nil_iff.mp hdead n hn ?_
        simpa using hno

lemma gates_not_noOp {cfg h : String} : gates y env d s₀ cfg ≠ .error (.outcome (.noOp h)) := by
  simp only [gates]
  split
  · simp
  · split
    · simp
    · split
      · simp
      · split_ifs <;> simp

lemma judge_noOp {r : Reply} {content : Content} {h : String}
    (hm : (j.judge y env d hash r s₀ content).next = .error (.outcome (.noOp h))) :
    (∃ m, noopMaySkip y env r.answer content m = true) ∧
      (j.judge y env d hash r s₀ content).effect = .nothing := by
  simp only [Job.judge] at hm ⊢
  split_ifs at hm ⊢ with hskip
  · exact ⟨⟨_, ((Bool.and_eq_true _ _).mp hskip).2⟩, rfl⟩
  · cases content with
    | raw bytes => cases hm
    | text cfg =>
      cases hg : gates y env d s₀ cfg with
      | error e =>
        simp only [hg, Move.stop, Except.error.injEq] at hm
        exact absurd (hm ▸ hg) gates_not_noOp
      | ok rendered => simp [hg, Move.go] at hm

lemma bootDecide_noOp {r : Reply} {committed : Bool} {h : String}
    (hm : (Job.bootDecide y env hash r s₀ committed).next = .error (.outcome (.noOp h))) :
    (∃ content m, s₀.hostYaml = some content ∧ noopMaySkip y env r.answer content m = true) ∧
      (Job.bootDecide y env hash r s₀ committed).effect = .nothing := by
  rw [Job.bootDecide] at hm ⊢
  cases hc : s₀.hostYaml with
  | none => simp [hc, Move.fail, Move.stop] at hm
  | some content =>
    simp only [hc] at hm ⊢
    split_ifs at hm ⊢ with hcommitted hskip
    · cases hm
    · exact ⟨⟨content, _, rfl, ((Bool.and_eq_true _ _).mp hskip).2⟩, rfl⟩
    · cases hm

lemma noOp_checked (hj : j.push = none) {content : Option Content} (ht : t.Reads content)
    {h : String} (hm : (j.moveAt y env d hash names w t).next = .error (.outcome (.noOp h))) :
    AllRunning y env content (w.registryAt t) ∧
      (j.moveAt y env d hash names w t).effect = .nothing := by
  have hs := steps_of_next hm
  have hrun : ∀ c m, content = some c → noopMaySkip y env (w.replyAt t).answer c m = true →
      AllRunning y env content (w.registryAt t) := by
    rintro c m rfl hskip
    obtain ⟨registry, hans, hall⟩ := allRunning_of_skip hskip
    simp only [Surroundings.replyAt, Surroundings.listingAt] at hans
    split at hans
    · cases hans
    · cases hans
      exact hall
  generalize he : (j.moveAt y env d hash names w t).effect = e at hs
  generalize hn : (Except.error (Ending.outcome (.noOp h)) : Except Ending Phase) = next at hs
  rw [← he]
  cases hs with
  | @current c hp _ =>
    simp only at hp
    simp only [Job.moveAt, Job.move, hp, Job.coreMove] at hm ⊢
    obtain ⟨⟨m, hskip⟩, hquiet⟩ := judge_noOp hm
    exact ⟨hrun c m (ht.2 c hp) hskip, hquiet⟩
  | bootEnds o hp _ _ =>
    simp only at hp
    simp only [Job.moveAt, Job.move, hp, Job.bootMove] at hm ⊢
    obtain ⟨⟨c, m, hc, hskip⟩, hquiet⟩ := bootDecide_noOp hm
    exact ⟨hrun c m (ht.1 ▸ hc) hskip, hquiet⟩
  | committed hp => simp [Job.finish, hj] at hn
  | _ => cases hn

lemma noOp_keeps (hj : j.push = none) (ht : t.Keeps s₀ registry₀) {h : String}
    (hm : (j.moveAt y env d hash names w t).next = .error (.outcome (.noOp h))) :
    t.device = s₀ ∧ w.registryAt t = registry₀ := by
  have hs := steps_of_next hm
  generalize (j.moveAt y env d hash names w t).effect = e at hs
  generalize hn : (Except.error (Ending.outcome (.noOp h)) : Except Ending Phase) = next at hs
  obtain ⟨ph, dev, reg, seen⟩ := t
  cases hs with
  | committed hp => simp [Job.finish, hj] at hn
  | current hp _ => simp_all [Scene.Keeps, Surroundings.registryAt, Phase.commands]
  | bootEnds o hp _ _ =>
    simp only at hp
    subst hp
    exact ht.elim
  | _ => cases hn

lemma reads_of_reached (hj : j.push = none) (h₀ : ∀ c, t₀.phase ≠ .judging c)
    (h : j.Reaches y env d hash names w t₀ t) : t.Reads t₀.device.hostYaml :=
  h.induct (I := fun t => t.Reads t₀.device.hostYaml) ⟨rfl, fun c hc => absurd hc (h₀ c)⟩
    fun _ _ ht hm => reads_step hj ht hm

lemma hostYaml_of_ended (hj : j.push = none) {content : Option Content} (ht : t.Reads content)
    {e : Ending} (hm : (j.moveAt y env d hash names w t).next = .error e) :
    ((j.moveAt y env d hash names w t).effect.apply t.device).hostYaml = content := by
  have hs := steps_of_next hm
  obtain ⟨hyaml, -⟩ := ht
  generalize (j.moveAt y env d hash names w t).effect = e at hs ⊢
  generalize hn : (Except.error _ : Except Ending Phase) = next at hs
  cases hs with
  | _ => first
    | (cases hn; done)
    | simp_all [Effect.apply]

end Runs

section Outcomes

variable (y : Reader) (env : Env) (d : Dir) (hash : Content → String)
  (names : String → Except String (List String)) (w : Surroundings)

def Job.Leaves (j : Job) (t₀ : Scene) (s : Device) : Prop :=
  (∃ t, j.Reaches y env d hash names w t₀ t ∧ t.device = s) ∨
    ∃ e registry, j.Ends y env d hash names w t₀ e s registry

/-- The outcomes of a run of the core mean what they say: a refusal leaves the old cluster alone, a
residue its configuration, and NoOp is only said of a cluster that runs, by this run and by any
later one without force. -/
structure HonestOutcomes (j : Job) (s : Device) (registry : List OxProcess) : Prop where
  refused : ∀ reason s' g,
    j.Ends y env d hash names w (.core s registry) (.outcome (.refused reason)) s' g →
      g = registry ∧ s'.oxfile = s.oxfile ∧ s'.ledger.running = s.ledger.running
  residue : ∀ survivors s' g,
    j.Ends y env d hash names w (.core s registry) (.outcome (.residue survivors)) s' g →
      s'.oxfile = s.oxfile ∧ s'.ledger.running = s.ledger.running
  noOp : ∀ h s' g, j.Ends y env d hash names w (.core s registry) (.outcome (.noOp h)) s' g →
    s' = s ∧ g = registry ∧ AllRunning y env s.hostYaml registry
  rerun : ∀ s', j.Leaves y env d hash names w (.core s registry) s' →
    ∀ (w' : Surroundings) (j' : Job) (t : Scene), j'.push = none → j'.force = false →
      (∃ g, t = .core s' g ∨ t = .startup s' g) → ∀ h s'' g,
        j'.Ends y env d hash names w' t (.outcome (.noOp h)) s'' g → AllRunning y env s.hostYaml g

variable {y env d hash names w} {j : Job} {s : Device} {registry : List OxProcess}

lemma hostYaml_left (hj : j.push = none) {s' : Device}
    (h : j.Leaves y env d hash names w (.core s registry) s') : s'.hostYaml = s.hostYaml := by
  have h₀ : ∀ c, (Scene.core s registry).phase ≠ .judging c := by simp [Scene.core]
  obtain ⟨t, ht, rfl⟩ | ⟨e, g, ht⟩ := h
  · exact (reads_of_reached hj h₀ ht).1
  · cases ht with
    | intro ht hm => exact hostYaml_of_ended hj (reads_of_reached hj h₀ ht) hm

lemma noOp_running (hj : j.push = none) {t : Scene} {g : List OxProcess} {h : String} {s' : Device}
    (ht : ∃ g', t = .core s g' ∨ t = .startup s g')
    (he : j.Ends y env d hash names w t (.outcome (.noOp h)) s' g) :
    AllRunning y env s.hostYaml g := by
  have h₀ : ∀ c, t.phase ≠ .judging c := by
    obtain ⟨_, rfl | rfl⟩ := ht <;> simp [Scene.core, Scene.startup]
  have hdev : t.device = s := by
    obtain ⟨_, rfl | rfl⟩ := ht <;> rfl
  cases he with
  | intro hr hm => exact hdev ▸ (noOp_checked hj (reads_of_reached hj h₀ hr) hm).1

/-- The run is not refused after the apply, or the refusal finds the registry as it was and the
oxfile that was live is the one just activated, or it cannot be written down. -/
def LateRefusalHarmless (y : Reader) (env : Env) (d : Dir) (hash : Content → String)
    (names : String → Except String (List String)) (w : Surroundings) (j : Job) (s : Device)
    (registry : List OxProcess) : Prop :=
  ∀ t r reason result, j.Reaches y env d hash names w (.core s registry) t →
    t.phase = .refusing r reason result → (w.reply t.phase).io = none →
      t.registry = registry ∧ s.oxfile = some r.rendered

lemma refusing_ends {t : Scene} {r : Run} {reason result : String}
    (ht : j.Reaches y env d hash names w (.core s registry) t)
    (hp : t.phase = .refusing r reason result) (hio : (w.reply t.phase).io = none) :
    ∃ s', j.Ends y env d hash names w (.core s registry) (.outcome (.refused reason)) s' t.registry ∧
      s'.oxfile = t.device.oxfile := by
  have hio' : (w.replyAt t).io = none := hio
  have hm : (j.moveAt y env d hash names w t).next = .error (.outcome (.refused reason)) := by
    simp [Job.moveAt, Job.move, hp, Job.coreMove, Move.io, hio']
  have he := Job.Ends.intro ht hm
  have hg : w.registryAt t = t.registry := registryAt_quiet (by rw [hp]; rfl)
  rw [hg] at he
  refine ⟨_, he, ?_⟩
  simp [Job.moveAt, Job.move, hp, Job.coreMove, Move.io, hio', Effect.apply]

lemma refusing_saved {t : Scene} {r : Run} {reason result : String} {o : Outcome}
    (hp : t.phase = .refusing r reason result)
    (hm : (j.moveAt y env d hash names w t).next = .error (.outcome o)) :
    (w.reply t.phase).io = none ∧
      ((j.moveAt y env d hash names w t).effect.apply t.device).oxfile = t.device.oxfile := by
  cases hio : (w.reply t.phase).io with
  | none =>
    have hio' : (w.replyAt t).io = none := hio
    exact ⟨rfl, by simp [Job.moveAt, Job.move, hp, Job.coreMove, Move.io, hio', Effect.apply]⟩
  | some e =>
    have hio' : (w.replyAt t).io = some e := hio
    simp [Job.moveAt, Job.move, hp, Job.coreMove, Move.io, hio', Move.fail, Move.stop] at hm

/-- The outcomes of a run of the core are honest, whatever its commands do to the cluster, exactly
when no refusal comes too late to be harmless. -/
theorem outcomes_honest_iff (y : Reader) (env : Env) (d : Dir) (hash : Content → String)
    (names : String → Except String (List String)) (w : Surroundings) (topo : Topology)
    (force : Bool) (opts : ExecuteOpts) (s : Device) (registry : List OxProcess) :
    HonestOutcomes y env d hash names w (Site.execJob topo force opts) s registry ↔
      LateRefusalHarmless y env d hash names w (Site.execJob topo force opts) s registry := by
  have hj : (Site.execJob topo force opts).push = none := rfl
  constructor
  · intro h t r reason result ht hp hio
    obtain ⟨s', hends, hox⟩ := refusing_ends ht hp hio
    obtain ⟨hreg, hold, -⟩ := h.refused reason s' _ hends
    have hk := keeps_of_reached hj ht
    simp only [Scene.Keeps, hp] at hk
    exact ⟨hreg, by rw [← hold, hox, hk.1]⟩
  · intro h
    constructor
    · rintro reason s' g ⟨ht, hm⟩
      have hk := keeps_of_reached hj ht
      obtain ⟨hrun, ⟨r, result, hp⟩ | ⟨hreg, hox⟩⟩ := refused_keeps hj hk hm
      · obtain ⟨hio, hox⟩ := refusing_saved hp hm
        obtain ⟨hreg, hold⟩ := h _ r reason result ht hp hio
        simp only [Scene.Keeps, hp] at hk
        exact ⟨(registryAt_quiet (by rw [hp]; rfl)).trans hreg, by rw [hox, hk.1, hold], hrun⟩
      · exact ⟨hreg, hox, hrun⟩
    · rintro survivors s' g ⟨ht, hm⟩
      exact residue_keeps hj (keeps_of_reached hj ht) hm
    · rintro h s' g hends
      have hall := noOp_running hj ⟨_, Or.inl rfl⟩ hends
      obtain ⟨ht, hm⟩ := hends
      obtain ⟨hdev, hreg⟩ := noOp_keeps hj (keeps_of_reached hj ht) hm
      have hquiet := (noOp_checked hj (reads_of_reached hj (by simp [Scene.core]) ht) hm).2
      rw [hreg] at hall
      rw [hquiet]
      exact ⟨hdev, hreg, hall⟩
    · rintro s' hleft w' j' t hj' - ht h s'' g hends
      rw [← hostYaml_left hj hleft]
      exact noOp_running hj' ht hends

end Outcomes

section Camera

def Job.follow (y : Reader) (env : Env) (d : Dir) (hash : Content → String)
    (names : String → Except String (List String)) (w : Surroundings) (j : Job) : ℕ → Scene → Scene
  | 0, t => t
  | n + 1, t =>
      match (j.moveAt y env d hash names w t).next with
      | .ok phase => follow y env d hash names w j n (j.sceneAfter y env d hash names w t phase)
      | .error _ => t

lemma reaches_follow {y : Reader} {env : Env} {d : Dir} {hash : Content → String}
    {names : String → Except String (List String)} {w : Surroundings} {j : Job} {t₀ t : Scene}
    (n : ℕ) (h : j.Reaches y env d hash names w t₀ t) :
    j.Reaches y env d hash names w t₀ (j.follow y env d hash names w n t) := by
  induction n generalizing t with
  | zero => exact h
  | succ n ih =>
    rw [Job.follow]
    split
    · rename_i hm
      exact ih (h.step hm)
    · exact h

def editedRunning : Device := { runningDevice with hostYaml := some (.text newYaml) }

def running (apps : List String) : List OxProcess :=
  apps.map (fun n => ⟨n, "running", some "mediaservo-host"⟩)

def cameraRegistry : List OxProcess := running cameraRoster

def failingApply : Surroundings where
  reply
    | .applying _ => { applyError := some "oxmgr apply failed (exit 1): port in use" }
    | _ => default
  listError := fun _ => none
  after
    | .tearing _ (_ :: rest), _ => running rest
    | _, registry => registry

def editedSweeping (registry : List OxProcess) (rendered : String) : Scene where
  phase := .sweeping ⟨cameraHash (.text newYaml), newYaml, rendered, runningDevice.ledger⟩
  device := editedRunning
  registry := registry

lemma Job.Reaches.quiet {y : Reader} {env : Env} {d : Dir} {hash : Content → String}
    {names : String → Except String (List String)} {w : Surroundings} {j : Job} {t₀ t : Scene}
    {phase : Phase} (h : j.Reaches y env d hash names w t₀ t)
    (hm : j.moveAt y env d hash names w t = .go phase) (hc : t.phase.commands = false)
    (hl : t.phase.lists = false) :
    j.Reaches y env d hash names w t₀ { t with phase := phase } := by
  have hs := h.step (congrArg Move.next hm)
  rw [Job.sceneAfter, hm, registryAt_quiet hc, hl] at hs
  exact hs

lemma moveAt_judging {y : Reader} {env : Env} {d : Dir} {hash : Content → String}
    {names : String → Except String (List String)} {w : Surroundings} {j : Job} {t : Scene}
    {cfg rendered : String} (hp : t.phase = .judging (.text cfg))
    (hm : t.device.ledger.runningMatch (hash (.text cfg)) = false)
    (hg : gates y env d t.device cfg = .ok rendered) :
    j.moveAt y env d hash names w t =
      .go (.sweeping ⟨hash (.text cfg), cfg, rendered, t.device.ledger⟩) := by
  simp [Job.moveAt, Job.move, hp, Job.coreMove, Job.judge, shouldReconcile, hm, hg]

lemma editedRunning_sweeps {topo : Topology} {w : Surroundings} {registry : List OxProcess}
    (hw : ∀ phase, phase = .queued ∨ phase = .locked → w.reply phase = default) :
    (Site.execJob topo false ⟨"cli", none⟩).Reaches cameraReader plainEnv optDir cameraHash
      cameraNames w (.core editedRunning registry)
      (editedSweeping registry (cameraOxfile newYaml)) := by
  have hm : editedRunning.ledger.runningMatch (cameraHash (.text newYaml)) = false := by
    decide
  have hg : gates cameraReader plainEnv optDir editedRunning newYaml =
      .ok (cameraOxfile newYaml) := newYaml_gates rfl
  have hqueued : (Site.execJob topo false ⟨"cli", none⟩).moveAt cameraReader plainEnv optDir
      cameraHash cameraNames w (.core editedRunning registry) = .go .locked := by
    simp [Job.moveAt, Job.move, Scene.core, Job.coreMove, Move.io, Surroundings.replyAt, hw]
    rfl
  have hlocked : (Site.execJob topo false ⟨"cli", none⟩).moveAt cameraReader plainEnv optDir
      cameraHash cameraNames w ⟨.locked, editedRunning, registry, none⟩ =
      .go (.judging (.text newYaml)) := by
    simp [Job.moveAt, Job.move, Job.coreMove, Move.io, Surroundings.replyAt, hw, editedRunning]
    rfl
  have hmove : (Site.execJob topo false ⟨"cli", none⟩).moveAt cameraReader plainEnv optDir
      cameraHash cameraNames w ⟨.judging (.text newYaml), editedRunning, registry, none⟩ =
      .go (editedSweeping registry (cameraOxfile newYaml)).phase := moveAt_judging rfl hm hg
  exact ((Job.Reaches.start.quiet hqueued rfl rfl).quiet hlocked rfl rfl).quiet hmove rfl rfl

/-- A refusal after the cluster has been taken down. -/
theorem refused_over_torn_cluster :
    ¬∀ (y : Reader) (env : Env) (d : Dir) (hash : Content → String)
      (names : String → Except String (List String)) (w : Surroundings) (topo : Topology)
      (force : Bool) (opts : ExecuteOpts) (s : Device) (registry : List OxProcess),
      HonestOutcomes y env d hash names w (Site.execJob topo force opts) s registry := by
  intro hall
  have hrefuse : ∀ rendered, ∃ r reason result,
      ((Site.execJob .cliRun false ⟨"cli", none⟩).follow cameraReader plainEnv optDir cameraHash
        cameraNames failingApply 15 (editedSweeping cameraRegistry rendered)).phase =
          .refusing r reason result := fun rendered => ⟨_, _, _, rfl⟩
  have hempty : ∀ rendered,
      ((Site.execJob .cliRun false ⟨"cli", none⟩).follow cameraReader plainEnv optDir cameraHash
        cameraNames failingApply 15 (editedSweeping cameraRegistry rendered)).registry = [] := fun rendered => rfl
  obtain ⟨t, hr, ⟨r, reason, result, hp⟩, hg⟩ : ∃ t : Scene,
      (Site.execJob .cliRun false ⟨"cli", none⟩).Reaches cameraReader plainEnv optDir cameraHash
        cameraNames failingApply (.core editedRunning cameraRegistry) t ∧
      (∃ r reason result, t.phase = .refusing r reason result) ∧ t.registry = [] :=
    ⟨_, reaches_follow 15 (editedRunning_sweeps (by rintro _ (rfl | rfl) <;> rfl)), hrefuse _, hempty _⟩
  obtain ⟨s', hends, -⟩ := refusing_ends hr hp (by rw [hp]; rfl)
  have hsame := ((hall cameraReader plainEnv optDir cameraHash cameraNames failingApply .cliRun false
    ⟨"cli", none⟩ editedRunning cameraRegistry).refused _ _ _ hends).1
  rw [hg] at hsame
  cases hsame

end Camera

end MediaServo.Host
