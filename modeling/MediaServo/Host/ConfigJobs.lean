import MediaServo.Foundations.FiniteMap
import MediaServo.Foundations.Runs
import MediaServo.Host.ConfigCore

/-! The commands on an instance directory as processes that run beside each other: config pushes,
runs of the core, the boot pass of the agent and `host stop`. Each access to a file and each request
to the process manager is a step of its own, and a process may die between any two of them. -/

namespace MediaServo.Host

open MediaServo.Foundations

structure Run where
  hash : String
  cfg : String
  rendered : String
  led : Ledger
  deriving DecidableEq

structure Push where
  config : String
  version : ℕ
  deriving DecidableEq

/-- Where a process is. `received` to `writingOxfile` are `handle_config_push`, `queued` to
`committing` are `execute`, `storing` to `recordSaving` what the agent does after a push went live,
the `boot` phases `startup_reconcile_with`, and `stopping` to `clearing` are `cmd_stop`. -/
inductive Phase
  | received
  | backingUp
  | writingYaml
  | writingOxfile
  | queued
  | locked
  | judging (content : Content)
  | sweeping (r : Run)
  | staging (r : Run)
  | listing (r : Run)
  | tearing (r : Run) (targets : List String)
  | verifying (r : Run)
  | residue (r : Run) (detail : String) (survivors : List SurvivorInfo)
  | preparing (r : Run)
  | activating (r : Run)
  | applying (r : Run)
  | refusing (r : Run) (reason result : String)
  | reconciling (r : Run)
  | committing (r : Run)
  | storing
  | recordQueued
  | recordReading
  | recordLoading (hash : String)
  | recordSaving (l : Ledger)
  | bootQueued
  | bootReading
  | bootChecking (cfg : String)
  | bootJudging (cfg : String) (registry : List String)
  | bootSaving (cfg : String) (l : Ledger)
  | bootDeciding (committed : Bool)
  | stopping
  | stopSwept (failed : Bool)
  | clearing (l : Ledger)
  deriving DecidableEq

/-- The core lock is released when the process returns from the function that took it, or dies. -/
def Phase.holdsLock : Phase → Bool
  | .received | .backingUp | .writingYaml | .writingOxfile | .queued | .storing | .recordQueued
  | .bootQueued | .bootDeciding _ | .stopping | .stopSwept _ | .clearing _ => false
  | _ => true

def Phase.awaitsLock : Phase → Bool
  | .queued | .recordQueued | .bootQueued => true
  | _ => false

structure Job where
  topo : Topology
  force : Bool
  opts : ExecuteOpts
  push : Option Push
  boot : Bool
  phase : Phase
  deriving DecidableEq

/-- What the surroundings answer at a step: the error of a file operation that fails, whether a copy
that fails leaves a file, the list of the process manager, the processes that survive a teardown,
the error of its apply, and whether a stop touched an app or failed. -/
structure Reply where
  io : Option String := none
  partialCopy : Bool := false
  answer : Listing := .ok []
  survivors : List SurvivorInfo := []
  applyError : Option String := none
  touched : Bool := false
  stopFailed : Bool := false
  deriving Inhabited

/-- What a step does to the directory, to the cluster, or to the memory of the agent. -/
inductive Effect
  | nothing
  | backup (version : ℕ)
  | writeYaml (config : String)
  | writeOxfile (text : String)
  | unstage
  | stage (text : String)
  | tearDown
  | activate
  | save (l : Ledger)
  | store (version : ℕ)
  deriving DecidableEq

def Effect.apply (s : Device) : Effect → Device
  | .nothing => s
  | .backup v => { s with backups := v :: s.backups }
  | .writeYaml config => { s with hostYaml := some (.text config) }
  | .writeOxfile text => { s with oxfile := some text }
  | .unstage => { s with staging := none }
  | .stage text => { s with staging := some text }
  | .tearDown => s
  | .activate => { s with oxfile := s.staging, staging := none }
  | .save l => { s with ledger := l }
  | .store v => { s with version := v }

structure Move where
  effect : Effect
  next : Except Ending Phase

namespace Move

def go (p : Phase) : Move := ⟨.nothing, .ok p⟩

def stop (e : Ending) : Move := ⟨.nothing, .error e⟩

def fail (e : String) : Move := stop (.failed e)

def io (r : Reply) (what : String) (m : Move) : Move :=
  match r.io with
  | none => m
  | some e => fail (what ++ " failed: " ++ e)

end Move

def Job.finish (j : Job) (o : Outcome) : Except Ending Phase :=
  match j.push, o with
  | some _, .applied _ => .ok .storing
  | some _, .noOp _ => .ok .storing
  | _, _ => .error (.outcome o)

def Run.save (r : Run) (l : Ledger) : Run := { r with led := l }

def residueText (survivors : List SurvivorInfo) (registry : Except String (List String)) : String :=
  let note := match registry with
    | .ok names => Lines.debugList names
    | .error e => "list failed: " ++ e
  "refused-residue: survivors=[" ++
    ", ".intercalate (survivors.map (fun s => toString s.pid ++ "@" ++ s.owner)) ++ "] registry=" ++
    note

def Ledger.commit (l : Ledger) (running : Running) (result : String) : Ledger :=
  Ledger.pushHistory
    { l with
      running := some running
      pendingApply := none
      flags := flagsAfterCommit running l.lastPush }
    running.hash running.origin running.actor result

section Steps

variable (y : Reader) (env : Env) (d : Dir) (hash : Content → String)
  (names : String → Except String (List String))

def Run.committed (r : Run) (o : ExecuteOpts) : Ledger :=
  r.led.commit ⟨r.hash, o.origin, o.actor⟩ "applied"

def bootCommitted (l : Ledger) (h : String) : Ledger :=
  l.commit ⟨h, "boot-commit", none⟩ "pending-committed"

def teardownTargets (topo : Topology) (live : List String) : List String :=
  orderTeardown (live.filter (fun n => ¬(topo = .agentRun ∧ n = env.appName "agent")))

def oxfileAppNames (s : Device) : Except String (List String) :=
  match s.oxfile with
  | some text => names text
  | none => .error "read run/oxfile.toml failed"

namespace Job

def pushMove (p : Push) (r : Reply) (s : Device) : Phase → Move
  | .received =>
      if p.version ≤ s.version then .fail (expiredText p.version s.version)
      else
        match validate y p.config with
        | .error e => .fail e
        | .ok () => .go .backingUp
  | .backingUp =>
      match s.hostYaml, r.io with
      | some _, none => ⟨.backup p.version, .ok .writingYaml⟩
      | some _, some e =>
          ⟨if r.partialCopy then .backup p.version else .nothing,
            .error (.failed ("backup failed: " ++ e))⟩
      | none, _ => .fail "backup failed: no host.yaml"
  | .writingYaml => .io r "write host.yaml" ⟨.writeYaml p.config, .ok .writingOxfile⟩
  | .writingOxfile =>
      match validate y p.config with
      | .error e => .fail e
      | .ok () =>
          match missingKeyFile y d s p.config with
          | some path => .fail (missingKeyText path)
          | none =>
              match toOxfileInDir y env p.config d with
              | .error e => .fail e
              | .ok text => .io r "write oxfile.toml" ⟨.writeOxfile text, .ok .queued⟩
  | .storing => ⟨.store p.version, .ok .recordQueued⟩
  | _ => .stop .done

def judge (j : Job) (r : Reply) (s : Device) (content : Content) : Move :=
  let h := hash content
  let l := s.ledger
  if !shouldReconcile j.force (l.runningMatch h) (l.pendingMismatch h) false &&
      noopMaySkip y env r.answer content (l.runningMatch h) then
    ⟨.nothing, j.finish (.noOp h)⟩
  else
    match content with
    | .raw _ => .fail "host.yaml is not valid utf-8"
    | .text cfg =>
        match gates y env d s cfg with
        | .error e => .stop e
        | .ok rendered => .go (.sweeping ⟨h, cfg, rendered, l⟩)

def verify (j : Job) (r : Reply) (run : Run) : Move :=
  let registry := liveHostApps env r.answer
  let clean := match registry with
    | .ok live => gateClean live j.topo && r.survivors.isEmpty
    | .error _ => false
  if clean then .go (.preparing run)
  else ⟨.unstage, .ok (.residue run (residueText r.survivors registry) r.survivors)⟩

def reconcile (r : Reply) (s : Device) (run : Run) : Move :=
  match oxfileAppNames names s, liveHostApps env r.answer, expectedProcessNames y env run.cfg with
  | .ok roster, .ok registry, .ok expected =>
      match reconcileMismatch roster registry expected (env.appName "recorder") with
      | some detail => .go (.refusing run detail ("reconcile-mismatch: " ++ detail))
      | none => .go (.committing run)
  | _, _, _ => .fail "reconcile failed"

def coreMove (j : Job) (r : Reply) (s : Device) : Phase → Move
  | .queued => .io r "config-core lock" (.go .locked)
  | .locked =>
      match s.hostYaml with
      | some content => .io r "read host.yaml" (.go (.judging content))
      | none => .fail "read host.yaml failed"
  | .judging content => j.judge y env d hash r s content
  | .sweeping run => ⟨.unstage, .ok (.staging run)⟩
  | .staging run => .io r "write staging" ⟨.stage run.rendered, .ok (.listing run)⟩
  | .listing run =>
      match liveHostApps env r.answer with
      | .ok live => .go (.tearing run (teardownTargets env j.topo live))
      | .error e => ⟨.unstage, .error (.outcome (.refused ("teardown source unavailable: " ++ e)))⟩
  | .tearing run [] => .go (.verifying run)
  | .tearing run (_ :: rest) => ⟨.tearDown, .ok (.tearing run rest)⟩
  | .verifying run => j.verify env r run
  | .residue run detail survivors =>
      .io r "write config-state.json"
        ⟨.save (Ledger.pushHistory { run.led with flags := { run.led.flags with pending := true } }
            run.hash j.opts.origin j.opts.actor detail),
          .error (.outcome (.residue survivors))⟩
  | .preparing run =>
      let l := { run.led with pendingApply := some ⟨run.hash⟩ }
      .io r "write config-state.json" ⟨.save l, .ok (.activating (run.save l))⟩
  | .activating run =>
      match s.staging with
      | some _ => .io r "activate" ⟨.activate, .ok (.applying run)⟩
      | none => .fail "activate failed"
  | .applying run =>
      match r.applyError with
      | some e => .go (.refusing run e ("refused-apply: " ++ e))
      | none => .go (.reconciling run)
  | .refusing run reason result =>
      .io r "write config-state.json"
        ⟨.save (Ledger.pushHistory { run.led with flags := { run.led.flags with error := true } }
            run.hash j.opts.origin j.opts.actor result),
          .error (.outcome (.refused reason))⟩
  | .reconciling run => reconcile y env names r s run
  | .committing run =>
      .io r "write config-state.json" ⟨.save (run.committed j.opts), j.finish (.applied run.hash)⟩
  | _ => .stop .done

def recordMove (r : Reply) (s : Device) : Phase → Move
  | .recordQueued => .io r "config-core lock" (.go .recordReading)
  | .recordReading =>
      match s.hostYaml with
      | some content => .io r "read host.yaml" (.go (.recordLoading (hash content)))
      | none => .fail "read host.yaml failed"
  | .recordLoading h =>
      .go (.recordSaving { s.ledger with
        lastPush := some ⟨h, none⟩
        flags := { s.ledger.flags with conflict := s.ledger.running.any (fun r => r.hash ≠ h) } })
  | .recordSaving l => .io r "write config-state.json" ⟨.save l, .error .done⟩
  | _ => .stop .done

/-- The fast path on what is there already: the activated names, the registry and the file. -/
def bootJudge (s : Device) (cfg : String) (registry : List String) : Move :=
  if s.ledger.pendingMatch (hash (.text cfg)) then
    match oxfileAppNames names s, expectedProcessNames y env cfg with
    | .ok roster, .ok expected =>
        match reconcileMismatch roster registry expected (env.appName "recorder") with
        | some _ => .go (.bootDeciding false)
        | none => .go (.bootSaving cfg (bootCommitted s.ledger (hash (.text cfg))))
    | _, _ => .go (.bootDeciding false)
  else .go (.bootDeciding false)

def bootDecide (r : Reply) (s : Device) (committed : Bool) : Move :=
  match s.hostYaml with
  | none => .fail "read host.yaml failed"
  | some content =>
      let h := hash content
      if committed then .stop (.outcome (.applied h))
      else if !gateNeedsReconcile s.ledger h &&
          noopMaySkip y env r.answer content (s.ledger.runningMatch h) then
        .stop (.outcome (.noOp h))
      else .go .queued

def bootMove (r : Reply) (s : Device) : Phase → Move
  | .bootQueued => .io r "config-core lock" (.go .bootReading)
  | .bootReading =>
      match s.hostYaml with
      | some (.text cfg) => .io r "read host.yaml" (.go (.bootChecking cfg))
      | _ => .fail "read host.yaml failed"
  | .bootChecking cfg =>
      if s.ledger.pendingMatch (hash (.text cfg)) then
        .go (.bootJudging cfg ((liveHostApps env r.answer).toOption.getD []))
      else .go (.bootDeciding false)
  | .bootJudging cfg registry => bootJudge y env hash names s cfg registry
  | .bootSaving _ l => .io r "write config-state.json" ⟨.save l, .ok (.bootDeciding true)⟩
  | .bootDeciding committed => bootDecide y env hash r s committed
  | _ => .stop .done

def stopMove (r : Reply) (s : Device) : Phase → Move
  | .stopping => ⟨if r.touched then .tearDown else .nothing, .ok (.stopSwept r.stopFailed)⟩
  | .stopSwept failed =>
      if failed ∨ r.survivors ≠ [] then .fail "stop: not clean"
      else
        match s.ledger.running with
        | none => .stop .done
        | some _ => .go (.clearing { s.ledger with running := none })
  | .clearing l => .io r "stop: config-state ledger writeback" ⟨.save l, .error .done⟩
  | _ => .stop .done

def move (j : Job) (r : Reply) (s : Device) : Move :=
  match j.phase with
  | .received | .backingUp | .writingYaml | .writingOxfile | .storing =>
      match j.push with
      | some p => pushMove y env d p r s j.phase
      | none => .stop .done
  | .recordQueued | .recordReading | .recordLoading _ | .recordSaving _ =>
      recordMove hash r s j.phase
  | .bootQueued | .bootReading | .bootChecking _ | .bootJudging _ _ | .bootSaving _ _
  | .bootDeciding _ => bootMove y env hash names r s j.phase
  | .stopping | .stopSwept _ | .clearing _ => stopMove r s j.phase
  | _ => j.coreMove y env d hash names r s j.phase

end Job

def runPhases (p : Push) : List (Phase × Reply) → Device → Device × Except Ending Unit
  | [], s => (s, .ok ())
  | (phase, r) :: rest, s =>
      let m := Job.pushMove y env d p r s phase
      match m.next with
      | .ok _ => runPhases p rest (m.effect.apply s)
      | .error e => (m.effect.apply s, .error e)

instance fourReplies : NeZero 4 := ⟨by decide⟩

def handleConfigPush (rs : Fin 4 → Reply) (s : Device) :
    Common.SignalingMessage → Device × Except Ending ℕ
  | .configPush _ _ config version _ =>
      match runPhases y env d ⟨config, version⟩ [(.received, rs 0), (.backingUp, rs 1),
        (.writingYaml, rs 2), (.writingOxfile, rs 3)] s with
      | (s, .ok ()) => (s, .ok version)
      | (s, .error e) => (s, .error e)
  | _ => (s, .error (.failed "gateway pending message is not ConfigPush"))

end Steps

structure Site where
  device : Device
  jobs : FiniteMap ℕ Job

inductive SiteAction
  | push (i : ℕ) (p : Push)
  | exec (i : ℕ) (topo : Topology) (force : Bool) (opts : ExecuteOpts)
  | restart (i : ℕ) (actor : Option String)
  | stop (i : ℕ)
  | move (i : ℕ) (r : Reply)
  | kill (i : ℕ)
  | edit (content : Option Content)
  | provide (present : List String)

namespace Site

variable (y : Reader) (env : Env) (d : Dir) (hash : Content → String)
  (names : String → Except String (List String))

def lockFree (s : Site) : Bool := s.jobs.toList.all (fun e => !e.2.phase.holdsLock)

def pushable (s : Site) : Bool := s.jobs.toList.all (fun e => e.2.push.isNone && !e.2.boot)

def agentGone (s : Site) : Bool := s.jobs.toList.all (fun e => e.2.topo ≠ .agentRun)

def spawn (s : Site) (i : ℕ) (j : Job) : Site :=
  if s.jobs.contains i then s else { s with jobs := s.jobs.set i j }

def settle (s : Site) (i : ℕ) (j : Job) (m : Move) : Site :=
  { device := m.effect.apply s.device
    jobs := match m.next with
      | .ok phase => s.jobs.set i { j with phase := phase }
      | .error _ => s.jobs.remove i }

/-- A process that waits for the lock moves only when nobody holds it, or to give up. -/
def blocked (s : Site) (j : Job) (r : Reply) : Bool :=
  j.phase.awaitsLock && !s.lockFree && r.io.isNone

def pushJob (p : Push) : Job := ⟨.agentRun, false, ⟨"push", none⟩, some p, false, .received⟩

def execJob (topo : Topology) (force : Bool) (opts : ExecuteOpts) : Job :=
  ⟨topo, force, opts, none, false, .queued⟩

def bootJob (actor : Option String) : Job :=
  ⟨.agentRun, false, ⟨"boot", actor⟩, none, true, .bootQueued⟩

def stopJob : Job := ⟨.cliRun, false, ⟨"cli", none⟩, none, false, .stopping⟩

def step (s : Site) : SiteAction → Site
  | .push i p => if s.pushable then s.spawn i (pushJob p) else s
  | .exec i topo force opts => s.spawn i (execJob topo force opts)
  | .restart i actor =>
      if s.agentGone then
        { s with device := { s.device with version := s.device.recoverConfigVersion } }.spawn i
          (bootJob actor)
      else s
  | .stop i => s.spawn i stopJob
  | .move i r =>
      match s.jobs.get i with
      | some j => if s.blocked j r then s else s.settle i j (j.move y env d hash names r s.device)
      | none => s
  | .kill i => { s with jobs := s.jobs.remove i }
  | .edit content => { s with device := { s.device with hostYaml := content } }
  | .provide present => { s with device := { s.device with present := present } }

end Site

end MediaServo.Host
