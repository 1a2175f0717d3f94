import MediaServo.Host.Telemetry

/-! Which configuration the status reporter has monitored, and what it warns of, over every run of
commits and turns. -/

namespace MediaServo.Host.Telemetry

open MediaServo.Foundations

section

variable {hash : String → String} {token : Bool} {v : Instance} {t : Tick} {h : String}

def InStep (hash : String → String) (v : Instance) : Prop :=
  ∀ h, v.running = some h → hash v.reporter.topology.hostToml = h

/-- A turn that finds another hash than was seen last comes right after one that saw that, and reads
the configuration of the new hash. -/
def Followed (hash : String → String) (v : Instance) : Action → Prop
  | .tick t => ∀ h, v.running = some h → v.sighted = h ∨
      v.reporter.lastEpoch.isSome ∧ ∃ cfg, t.hostYaml = some cfg ∧ hash cfg = h
  | _ => True

structure Knows (hash : String → String) (v : Instance) : Prop where
  monitored : hash v.reporter.topology.hostToml = v.sighted
  epoch : ∀ h, v.reporter.lastEpoch = some h → v.sighted = h

lemma epochBump_eq_some {prev next : Option String} :
    epochBump prev next = some h ↔ ∃ p, prev = some p ∧ next = some h ∧ p ≠ h := by
  cases prev with
  | none => simp [epochBump]
  | some p =>
    cases next with
    | none => simp [epochBump]
    | some n =>
      by_cases hpn : p = n
      · subst hpn
        simp [epochBump]
      · simp [epochBump, hpn]
        rintro rfl
        exact hpn

lemma poll_lastEpoch (r : Reporter) (epoch : Option String) :
    (r.poll token epoch t).lastEpoch = epoch := by
  rw [Reporter.poll]
  cases epochBump r.lastEpoch epoch <;> rfl

lemma poll_quiet {r : Reporter} {epoch : Option String} (hq : epochBump r.lastEpoch epoch = none) :
    (r.poll token epoch t).topology = r.topology := by
  rw [Reporter.poll, hq]

lemma poll_bump {r : Reporter} {epoch : Option String} (hb : epochBump r.lastEpoch epoch = some h) :
    (r.poll token epoch t).topology =
      (t.hostYaml.map fun cfg => (⟨cfg, defaultGrace, t.now⟩ : TopologyMonitor)).getD r.topology := by
  rw [Reporter.poll, hb]
  simp only [Reporter.reattachMonitors]
  cases t.hostYaml <;> rfl

lemma Knows.step_tick (hk : Knows hash v) (hf : Followed hash v (.tick t)) :
    Knows hash (step hash token v (.tick t)) := by
  have hepoch : (v.reporter.poll token v.running t).lastEpoch = v.running := poll_lastEpoch _ _
  cases hr : v.running with
  | none =>
    rw [hr] at hepoch
    have htopology : (v.reporter.poll token none t).topology = v.reporter.topology := by
      apply poll_quiet
      simp [epochBump]
    constructor
    · simpa [step, hr, htopology] using hk.monitored
    · simp [step, hr, hepoch]
  | some h =>
    rw [hr] at hepoch
    have hmonitored : hash (v.reporter.poll token (some h) t).topology.hostToml = h := by
      by_cases hs : v.sighted = h
      · rw [poll_quiet, hk.monitored, hs]
        rw [Option.eq_none_iff_forall_ne_some]
        intro n hb
        obtain ⟨p, hp, hn, hne⟩ := epochBump_eq_some.mp hb
        apply hne
        rw [← hk.epoch p hp, hs, Option.some.inj hn]
      · obtain ⟨hsome, cfg, hread, hcfg⟩ := (hf h hr).resolve_left hs
        obtain ⟨p, hp⟩ := Option.isSome_iff_exists.mp hsome
        have hb : epochBump v.reporter.lastEpoch (some h) = some h :=
          epochBump_eq_some.mpr ⟨p, hp, rfl, fun heq => hs ((hk.epoch p hp).trans heq)⟩
        rw [poll_bump hb, hread]
        exact hcfg
    constructor
    · simpa [step, hr] using hmonitored
    · simp [step, hr, hepoch]

lemma Knows.step (hk : Knows hash v) {a : Action} (hf : Followed hash v a) :
    Knows hash (Telemetry.step hash token v a) := by
  cases a with
  | commit cfg => exact ⟨hk.monitored, hk.epoch⟩
  | lose => exact ⟨hk.monitored, hk.epoch⟩
  | tick t => exact hk.step_tick hf

lemma inStep_tick_iff (hk : Knows hash v) :
    InStep hash (step hash token v (.tick t)) ↔ Followed hash v (.tick t) := by
  constructor
  · intro hin h hr
    by_contra! hlost
    obtain ⟨hs, hread⟩ := hlost
    have hnow : hash (v.reporter.poll token v.running t).topology.hostToml = h := hin h hr
    cases hb : epochBump v.reporter.lastEpoch v.running with
    | none =>
      rw [poll_quiet hb, hk.monitored] at hnow
      exact hs hnow
    | some n =>
      obtain ⟨p, hp, -, -⟩ := epochBump_eq_some.mp hb
      rw [poll_bump hb] at hnow
      cases hy : t.hostYaml with
      | none =>
        rw [hy, Option.map_none, Option.getD_none, hk.monitored] at hnow
        exact hs hnow
      | some cfg =>
        rw [hy] at hnow
        exact hread (by rw [hp]; rfl) cfg hy hnow
  · intro hf h hr
    have hstep : Knows hash (step hash token v (.tick t)) := hk.step_tick hf
    rw [hstep.monitored]
    have hrun : v.running = some h := hr
    simp [step, hrun]

lemma inStep_run_iff (hk : Knows hash v) (acts : List Action) :
    (∀ before t after, acts = before ++ .tick t :: after →
        InStep hash (run (step hash token) v (before ++ [.tick t]))) ↔
      Along (step hash token) (Followed hash) v acts := by
  induction acts generalizing v with
  | nil => simp [Along]
  | cons a acts ih =>
    rw [Along]
    constructor
    · intro hin
      have hf : Followed hash v a := by
        cases a with
        | commit cfg => trivial
        | lose => trivial
        | tick t => exact (inStep_tick_iff hk).mp (hin [] t acts rfl)
      refine ⟨hf, (ih (hk.step hf)).mp ?_⟩
      intro before t after heq
      exact hin (a :: before) t after (by rw [heq, List.cons_append])
    · rintro ⟨hf, hrest⟩ before t after heq
      cases before with
      | nil =>
        obtain ⟨rfl, rfl⟩ := List.cons.inj heq
        exact (inStep_tick_iff hk).mpr hf
      | cons b before =>
        rw [List.cons_append] at heq
        obtain ⟨rfl, htail⟩ := List.cons.inj heq
        exact (ih (hk.step hf)).mpr hrest before t after htail

end

/-- The monitors are of the configuration in force after every turn exactly in the runs whose turns
follow: the first hash is that of the configuration at the start, and each turn that finds a hash
other than the last comes right after one that saw a hash, and can read the new configuration. -/
theorem monitors_in_step_iff (hash : String → String) (token : Bool) (hostToml : String)
    (started : ℕ) (flow running : Option String) (acts : List Action) :
    let v := start hash hostToml started flow running
    (∀ before t after, acts = before ++ .tick t :: after →
        InStep hash (run (step hash token) v (before ++ [.tick t]))) ↔
      Along (step hash token) (Followed hash) v acts := by
  intro v
  apply inStep_run_iff
  constructor
  · rfl
  · intro h hepoch
    cases hepoch

section

variable {y : Reader} {env : Env} {r : Reporter} {t : Tick}

/-- What is missing of a configuration. -/
inductive Missing (y : Reader) (env : Env) (cfg : String) (t : Tick) : Mismatch → Prop
  | process (name : String) (names : List String) (h : expectedProcessNames y env cfg = .ok names)
      (hname : name ∈ names)
      (hgone : ∀ ps, t.processes = .ok ps → ∀ p ∈ ps, p.name = name → p.status ≠ "running") :
      Missing y env cfg t (.processMissing name)
  | publisher (topic : String) (topics : List String) (h : expectedTopics y cfg = .ok topics)
      (htopic : topic ∈ topics)
      (hgone : ∀ ts, t.topics = .ok ts → ∀ nodes, (topic, nodes) ∈ ts → nodes = 0) :
      Missing y env cfg t (.publisherMissing topic)

lemma mem_getD_toOption {α ε : Type} {e : Except ε (List α)} {a : α} :
    a ∈ e.toOption.getD [] ↔ ∃ l, e = .ok l ∧ a ∈ l := by
  cases e <;> simp [Except.toOption]

lemma mem_diff {expectedProcs topics : List String} {actualProcs : List OxProcess}
    {actualTopics : List String} {m : Mismatch} :
    m ∈ diff expectedProcs topics actualProcs actualTopics ↔
      (∃ name ∈ expectedProcs, m = .processMissing name ∧
        ∀ p ∈ actualProcs, p.name = name → p.status ≠ "running") ∨
      ∃ topic ∈ topics, m = .publisherMissing topic ∧ topic ∉ actualTopics := by
  simp only [diff, List.mem_append, List.mem_map, List.mem_filter, Bool.not_eq_true',
    List.any_eq_false, Bool.and_eq_true, decide_eq_true_eq, not_and]
  constructor
  · rintro (⟨name, ⟨hname, hgone⟩, rfl⟩ | ⟨topic, ⟨htopic, hgone⟩, rfl⟩)
    · exact .inl ⟨name, hname, rfl, hgone⟩
    · exact .inr ⟨topic, htopic, rfl, hgone⟩
  · rintro (⟨name, hname, rfl, hgone⟩ | ⟨topic, htopic, rfl, hgone⟩)
    · exact .inl ⟨name, ⟨hname, hgone⟩, rfl⟩
    · exact .inr ⟨topic, ⟨htopic, hgone⟩, rfl⟩

lemma mem_activeTopics {topic : String} : topic ∈ activeTopics t ↔
    ∃ ts, t.topics = .ok ts ∧ ∃ nodes, (topic, nodes) ∈ ts ∧ nodes ≠ 0 := by
  simp only [activeTopics, List.mem_map, List.mem_filter, decide_eq_true_eq]
  constructor
  · rintro ⟨⟨_, nodes⟩, ⟨hmem, halive⟩, rfl⟩
    obtain ⟨ts, hts, hmem⟩ := mem_getD_toOption.mp hmem
    exact ⟨ts, hts, nodes, hmem, Nat.one_le_iff_ne_zero.mp halive⟩
  · rintro ⟨ts, hts, nodes, hmem, halive⟩
    exact ⟨(topic, nodes), ⟨mem_getD_toOption.mpr ⟨ts, hts, hmem⟩,
      Nat.one_le_iff_ne_zero.mpr halive⟩, rfl⟩

lemma mem_mismatches {topo : TopologyMonitor} {m : Mismatch} :
    m ∈ (topo.collect y env t).mismatches ↔ Missing y env topo.hostToml t m := by
  rw [TopologyMonitor.collect, mem_diff]
  constructor
  · rintro (⟨name, hname, rfl, hgone⟩ | ⟨topic, htopic, rfl, hgone⟩)
    · obtain ⟨names, h, hname⟩ := mem_getD_toOption.mp hname
      refine .process name names h hname ?_
      intro ps hps p hp
      exact hgone p (mem_getD_toOption.mpr ⟨ps, hps, hp⟩)
    · obtain ⟨topics, h, htopic⟩ := mem_getD_toOption.mp htopic
      refine .publisher topic topics h htopic ?_
      intro ts hts nodes hmem
      by_contra halive
      exact hgone (mem_activeTopics.mpr ⟨ts, hts, nodes, hmem, halive⟩)
  · intro h
    cases h with
    | process name names h hname hgone =>
      refine .inl ⟨name, mem_getD_toOption.mpr ⟨names, h, hname⟩, rfl, ?_⟩
      intro p hp
      obtain ⟨ps, hps, hp⟩ := mem_getD_toOption.mp hp
      exact hgone ps hps p hp
    | publisher topic topics h htopic hgone =>
      refine .inr ⟨topic, mem_getD_toOption.mpr ⟨topics, h, htopic⟩, rfl, ?_⟩
      intro hmem
      obtain ⟨ts, hts, nodes, hmem, halive⟩ := mem_activeTopics.mp hmem
      exact halive (hgone ts hts nodes hmem)

lemma mem_warnings {cfg : String} {since : ℕ} {m : Mismatch}
    (hr : r.topology = ⟨cfg, defaultGrace, since⟩) :
    m ∈ r.warnings y env t ↔ since + defaultGrace ≤ t.seen ∧ Missing y env cfg t m := by
  have hactive : (r.topology.collect y env t).graceActive = true ↔ t.seen - since < defaultGrace := by
    rw [hr]
    exact decide_eq_true_iff
  have hgrace : 0 < defaultGrace := by decide
  rw [Reporter.warnings]
  simp only [hactive]
  split_ifs with hearly
  · simp only [List.not_mem_nil, false_iff, not_and]
    omega
  · rw [mem_mismatches, hr]
    exact (and_iff_right (by omega)).symm

end

section

variable {hash : String → String} {token : Bool} {hostToml : String} {started : ℕ}
  {flow running : Option String} {acts : List Action}

def Attaches (cfg : String) (since : ℕ) (v : Instance) (a : Action) : Prop :=
  ∃ t p h, a = .tick t ∧ v.reporter.lastEpoch = some p ∧ v.running = some h ∧ p ≠ h ∧
    t.hostYaml = some cfg ∧ t.now = since

/-- The configuration that the monitors are of after a run, and since when: that of the last turn
that attached them, or that of the start. -/
def Monitored (hash : String → String) (token : Bool) (hostToml : String) (started : ℕ)
    (flow running : Option String) (acts : List Action) (cfg : String) (since : ℕ) : Prop :=
  let attached : Instance → Action → Prop := fun v a => ∃ cfg since, Attaches cfg since v a
  Since (step hash token) (Attaches cfg since) attached
      (start hash hostToml started flow running) acts ∨
    Along (step hash token) (fun v a => ¬attached v a)
      (start hash hostToml started flow running) acts ∧ cfg = hostToml ∧ since = started

lemma topology_attaches {v : Instance} {a : Action} {cfg : String} {since : ℕ}
    (h : Attaches cfg since v a) :
    (step hash token v a).reporter.topology = ⟨cfg, defaultGrace, since⟩ := by
  obtain ⟨t, p, h, rfl, hp, hr, hne, hy, rfl⟩ := h
  have hb : epochBump v.reporter.lastEpoch v.running = some h := epochBump_eq_some.mpr ⟨p, hp, hr, hne⟩
  change (v.reporter.poll token v.running t).topology = _
  rw [poll_bump hb, hy]
  rfl

lemma topology_kept {v : Instance} {a : Action} (h : ¬∃ cfg since, Attaches cfg since v a) :
    (step hash token v a).reporter.topology = v.reporter.topology := by
  cases a with
  | commit cfg => rfl
  | lose => rfl
  | tick t =>
    change (v.reporter.poll token v.running t).topology = _
    cases hb : epochBump v.reporter.lastEpoch v.running with
    | none => exact poll_quiet hb
    | some n =>
      obtain ⟨p, hp, hr, hne⟩ := epochBump_eq_some.mp hb
      rw [poll_bump hb]
      cases hy : t.hostYaml with
      | none => rfl
      | some cfg => exact absurd ⟨cfg, t.now, t, p, n, rfl, hp, hr, hne, hy, rfl⟩ h

lemma monitored_snoc {a : Action} {cfg : String} {since : ℕ} :
    Monitored hash token hostToml started flow running (acts ++ [a]) cfg since ↔
      Attaches cfg since
          (run (step hash token) (start hash hostToml started flow running) acts) a ∨
        Monitored hash token hostToml started flow running acts cfg since ∧
          ¬∃ cfg since, Attaches cfg since
            (run (step hash token) (start hash hostToml started flow running) acts) a := by
  rw [Monitored, since_snoc, along_append, Monitored]
  simp only [Along, and_true]
  tauto

lemma topology_run (acts : List Action) (cfg : String) (since : ℕ) :
    (run (step hash token) (start hash hostToml started flow running) acts).reporter.topology =
        ⟨cfg, defaultGrace, since⟩ ↔
      Monitored hash token hostToml started flow running acts cfg since := by
  induction acts using List.reverseRecOn with
  | nil =>
    constructor
    · intro h
      have hstart : (⟨hostToml, defaultGrace, started⟩ : TopologyMonitor) = ⟨cfg, defaultGrace, since⟩ := h
      cases hstart
      exact .inr ⟨trivial, rfl, rfl⟩
    · rintro (hsince | ⟨-, rfl, rfl⟩)
      · exact absurd hsince not_since_nil
      · rfl
  | append_singleton acts a ih =>
    rw [monitored_snoc, run_snoc]
    by_cases ha : ∃ cfg since,
        Attaches cfg since (run (step hash token) (start hash hostToml started flow running) acts) a
    · rw [or_iff_left (fun h => h.2 ha)]
      constructor
      · intro h
        obtain ⟨cfg', since', ha⟩ := ha
        have heq := (topology_attaches ha).symm.trans h
        cases heq
        exact ha
      · exact topology_attaches
    · rw [or_iff_right (fun h => ha ⟨cfg, since, h⟩), and_iff_left ha, topology_kept ha]
      exact ih

lemma grace_run (acts : List Action) : (run (step hash token)
    (start hash hostToml started flow running) acts).reporter.topology.grace = defaultGrace := by
  apply run_preserves (I := fun v : Instance => v.reporter.topology.grace = defaultGrace) rfl
  intro v a hv
  by_cases ha : ∃ cfg since, Attaches cfg since v a
  · obtain ⟨cfg, since, ha⟩ := ha
    rw [topology_attaches ha]
  · rw [topology_kept ha, hv]

end

/-- A turn warns of what is missing of the configuration that the monitors are of, once they have
been of it for the time of grace. -/
theorem warned_iff (y : Reader) (env : Env) (hash : String → String) (token : Bool)
    (hostToml : String) (started : ℕ) (flow running : Option String) (before : List Action)
    (t : Tick) (m : Mismatch) :
    m ∈ (run (step hash token) (start hash hostToml started flow running)
        (before ++ [.tick t])).reporter.warnings y env t ↔
      ∃ cfg since, Monitored hash token hostToml started flow running (before ++ [.tick t]) cfg since ∧
        since + defaultGrace ≤ t.seen ∧ Missing y env cfg t m := by
  constructor
  · intro h
    set v := run (step hash token) (start hash hostToml started flow running) (before ++ [.tick t])
    have htopology : v.reporter.topology =
        ⟨v.reporter.topology.hostToml, defaultGrace, v.reporter.topology.started⟩ := by
      rw [← grace_run (before ++ [.tick t])]
    exact ⟨_, _, (topology_run _ _ _).mp htopology, (mem_warnings htopology).mp h⟩
  · rintro ⟨cfg, since, hmonitored, h⟩
    exact (mem_warnings ((topology_run _ cfg since).mpr hmonitored)).mpr h

end MediaServo.Host.Telemetry
