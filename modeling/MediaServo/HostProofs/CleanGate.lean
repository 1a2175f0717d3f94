import MediaServo.HostProofs.Outcomes
import MediaServo.HostProofs.TeardownOrder

/-! The gate between the teardown and the activation: what it tolerates in the registry against
what the teardown exempts. -/

namespace MediaServo.Host

def OnlyOwn (env : Env) : Topology → List String → Prop
  | .cliRun, live => live = []
  | .agentRun, live => ∀ n ∈ live, n = env.appName "agent"

def CleanListing (env : Env) (topo : Topology) (listing : Option Listing) : Prop :=
  ∃ answer live, listing = some answer ∧ liveHostApps env answer = .ok live ∧ OnlyOwn env topo live

section Gate

variable (y : Reader) (env : Env) (d : Dir) (hash : Content → String)
  (names : String → Except String (List String)) (w : Surroundings)

/-- A run activates only over what it did not have to take down, and its gate tolerates what its
teardown exempts, and nothing else. -/
structure NeverOverSurvivors (j : Job) (s : Device) (registry : List OxProcess) : Prop where
  activates : ∀ t r, j.Reaches y env d hash names w (.core s registry) t →
    t.phase = .activating r → (j.moveAt y env d hash names w t).effect = .activate →
      CleanListing env j.topo t.listing
  tolerates : ∀ t r live, j.Reaches y env d hash names w (.core s registry) t →
    t.phase = .verifying r → liveHostApps env (w.listingAt t) = .ok live →
      (gateClean live j.topo = true ↔ ∀ n ∈ live, n ∉ teardownTargets env j.topo live)

/-- Where the gate of the agent finds nothing but names that end as its own does, they are its
own. -/
def NoForeignAgents (j : Job) (s : Device) (registry : List OxProcess) : Prop :=
  ∀ t r live, j.Reaches y env d hash names w (.core s registry) t → t.phase = .verifying r →
    liveHostApps env (w.listingAt t) = .ok live → j.topo = .agentRun →
      (∀ n ∈ live, endsWith n "agent" = true) → ∀ n ∈ live, n = env.appName "agent"

variable {y env d hash names w} {j : Job} {s : Device} {registry : List OxProcess} {t : Scene}

lemma mem_orderTeardown {names : List String} {n : String} : n ∈ orderTeardown names ↔ n ∈ names := by
  have hrank : teardownRank n ∈ [0, 1, 2, 3] := by
    rw [teardownRank]
    split_ifs <;> simp
  simp only [orderTeardown, List.mem_flatMap, List.mem_filter, decide_eq_true_eq]
  constructor
  · rintro ⟨_, _, hn, _⟩
    exact hn
  · intro hn
    exact ⟨_, hrank, hn, rfl⟩

lemma not_mem_targets {topo : Topology} {live : List String} {n : String} (hn : n ∈ live) :
    n ∉ teardownTargets env topo live ↔ topo = .agentRun ∧ n = env.appName "agent" := by
  simp [teardownTargets, mem_orderTeardown, hn]

lemma onlyOwn_of_gate {topo : Topology} {live : List String} (h : gateClean live topo = true)
    (hown : topo = .agentRun → (∀ n ∈ live, endsWith n "agent" = true) →
      ∀ n ∈ live, n = env.appName "agent") : OnlyOwn env topo live := by
  cases topo with
  | cliRun => exact List.isEmpty_iff.mp h
  | agentRun => exact hown rfl (List.all_eq_true.mp h)

lemma gate_of_exempt {topo : Topology} {live : List String}
    (h : ∀ n ∈ live, n ∉ teardownTargets env topo live) : gateClean live topo = true := by
  cases topo with
  | cliRun =>
    apply List.isEmpty_iff.mpr
    apply List.eq_nil_iff_forall_not_mem.mpr
    intro n hn
    cases ((not_mem_targets hn).mp (h n hn)).1
  | agentRun =>
    apply List.all_eq_true.mpr
    intro n hn
    rw [((not_mem_targets hn).mp (h n hn)).2]
    exact endsWith_fixed .agent

lemma into_preparing {r : Run} (hm : (j.moveAt y env d hash names w t).next = .ok (.preparing r)) :
    t.phase = .verifying r := by
  have hs := steps_of_next hm
  generalize (j.moveAt y env d hash names w t).effect = e at hs
  generalize hn : (Except.ok (Phase.preparing r) : Except Ending Phase) = next at hs
  cases hs with
  | current _ _ => cases finish_ok hn.symm
  | committed _ => cases finish_ok hn.symm
  | clean h =>
    cases hn
    exact h
  | _ => cases hn

lemma into_activating {r : Run}
    (hm : (j.moveAt y env d hash names w t).next = .ok (.activating r)) :
    ∃ r', t.phase = .preparing r' := by
  have hs := steps_of_next hm
  generalize (j.moveAt y env d hash names w t).effect = e at hs
  generalize hn : (Except.ok (Phase.activating r) : Except Ending Phase) = next at hs
  cases hs with
  | current _ _ => cases finish_ok hn.symm
  | committed _ => cases finish_ok hn.symm
  | prepared _ h _ _ _ => exact ⟨_, h⟩
  | _ => cases hn

lemma gate_passed {r : Run} (hp : t.phase = .verifying r)
    (hm : (j.moveAt y env d hash names w t).next = .ok (.preparing r)) :
    ∃ live, liveHostApps env (w.listingAt t) = .ok live ∧ gateClean live j.topo = true := by
  simp only [Job.moveAt, Job.move, hp, Job.coreMove, Job.verify, Surroundings.replyAt] at hm
  cases hl : liveHostApps env (w.listingAt t) with
  | error e => simp [hl] at hm
  | ok live =>
    refine ⟨live, rfl, ?_⟩
    by_contra hdirty
    simp [hl, hdirty] at hm

lemma clean_behind_gate (hown : NoForeignAgents y env d hash names w j s registry)
    (h : j.Reaches y env d hash names w (.core s registry) t) {r : Run}
    (hp : t.phase = .preparing r ∨ t.phase = .activating r) :
    CleanListing env j.topo t.listing := by
  induction h generalizing r with
  | start => simp [Scene.core] at hp
  | step h hm ih =>
    simp only [Job.sceneAfter] at hp ⊢
    obtain rfl | rfl := hp
    · have hv := into_preparing hm
      obtain ⟨live, hlive, hgate⟩ := gate_passed hv hm
      rw [if_pos (by rw [hv]; rfl)]
      exact ⟨_, live, rfl, hlive, onlyOwn_of_gate hgate (hown _ r live h hv hlive)⟩
    · obtain ⟨r', hv⟩ := into_activating hm
      rw [if_neg (by rw [hv]; simp [Phase.lists])]
      exact ih (Or.inl hv)

/-- The core never starts over survivors exactly when no other app passes for the agent at the
gate. -/
theorem never_over_survivors_iff (y : Reader) (env : Env) (d : Dir) (hash : Content → String)
    (names : String → Except String (List String)) (w : Surroundings) (topo : Topology)
    (force : Bool) (opts : ExecuteOpts) (s : Device) (registry : List OxProcess) :
    NeverOverSurvivors y env d hash names w (Site.execJob topo force opts) s registry ↔
      NoForeignAgents y env d hash names w (Site.execJob topo force opts) s registry := by
  constructor
  · intro h t r live ht hp hlive htopo hends n hn
    have hgate : gateClean live (Site.execJob topo force opts).topo = true := by
      rw [htopo]
      exact List.all_eq_true.mpr hends
    exact ((not_mem_targets hn).mp ((h.tolerates t r live ht hp hlive).mp hgate n hn)).2
  · intro h
    constructor
    · intro t r ht hp _
      exact clean_behind_gate h ht (Or.inr hp)
    · intro t r live ht hp hlive
      refine ⟨fun hgate n hn => ?_, gate_of_exempt⟩
      have hown := onlyOwn_of_gate hgate (h t r live ht hp hlive)
      rw [not_mem_targets hn]
      cases htopo : (Site.execJob topo force opts).topo with
      | cliRun =>
        rw [htopo] at hown
        rw [show live = [] from hown] at hn
        cases hn
      | agentRun =>
        rw [htopo] at hown
        exact ⟨rfl, hown n hn⟩

end Gate

section Camera

def stuckStreamer : Surroundings where
  reply := fun _ => default
  listError := fun _ => none
  after := fun _ registry => registry

def stuckRegistry : List OxProcess := running ["host-agent", "host-streamer-agent"]

/-- The agent activates a new configuration over a streamer that it could not take down. -/
theorem activated_over_streamer :
    ¬∀ (y : Reader) (env : Env) (d : Dir) (hash : Content → String)
      (names : String → Except String (List String)) (w : Surroundings) (topo : Topology)
      (force : Bool) (opts : ExecuteOpts) (s : Device) (registry : List OxProcess),
      NeverOverSurvivors y env d hash names w (Site.execJob topo force opts) s registry := by
  intro hall
  have hphase : ∀ rendered, ∃ r,
      ((Site.execJob .agentRun false ⟨"cli", none⟩).follow cameraReader plainEnv optDir cameraHash
        cameraNames stuckStreamer 7 (editedSweeping stuckRegistry rendered)).phase =
          .activating r := fun rendered => ⟨_, rfl⟩
  have hlisting : ∀ rendered,
      ((Site.execJob .agentRun false ⟨"cli", none⟩).follow cameraReader plainEnv optDir cameraHash
        cameraNames stuckStreamer 7 (editedSweeping stuckRegistry rendered)).listing =
          some (.ok stuckRegistry) := fun rendered => rfl
  have hactivate : ∀ rendered, ((Site.execJob .agentRun false ⟨"cli", none⟩).moveAt cameraReader
      plainEnv optDir cameraHash cameraNames stuckStreamer
      ((Site.execJob .agentRun false ⟨"cli", none⟩).follow cameraReader plainEnv optDir cameraHash
        cameraNames stuckStreamer 7 (editedSweeping stuckRegistry rendered))).effect = .activate :=
    fun rendered => rfl
  obtain ⟨r, hp⟩ := hphase (cameraOxfile newYaml)
  obtain ⟨answer, live, ha, hl, hown⟩ := (hall cameraReader plainEnv optDir cameraHash cameraNames
    stuckStreamer .agentRun false ⟨"cli", none⟩ editedRunning stuckRegistry).activates _ r
      (reaches_follow 7 (editedRunning_sweeps (fun _ _ => rfl))) hp (hactivate _)
  rw [hlisting] at ha
  cases ha
  have hlive : liveHostApps plainEnv (.ok stuckRegistry) =
      .ok ["host-agent", "host-streamer-agent"] := by decide
  rw [hlive] at hl
  cases hl
  exact absurd (hown "host-streamer-agent" (by simp)) (by decide)

end Camera

end MediaServo.Host
