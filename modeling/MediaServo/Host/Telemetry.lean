import MediaServo.Foundations.Runs
import MediaServo.Host.ConfigCore

/-! The status reporter, with the topology that it has monitored against the configuration in force.
Instants are in nanoseconds. -/

namespace MediaServo.Host.Telemetry

open MediaServo.Foundations

inductive Mismatch
  | processMissing (name : String)
  | publisherMissing (topic : String)
  deriving DecidableEq

def diff (expectedProcs expectedTopics : List String) (actualProcs : List OxProcess)
    (actualTopics : List String) : List Mismatch :=
  ((expectedProcs.filter fun name =>
      !actualProcs.any fun p => p.name = name && p.status = "running").map .processMissing) ++
    (expectedTopics.filter (· ∉ actualTopics)).map .publisherMissing

structure TopologySnapshot where
  expectedProcesses : List String
  actualProcesses : List OxProcess
  actualTopics : List String
  mismatches : List Mismatch
  graceActive : Bool
  deriving DecidableEq

structure TopologyMonitor where
  hostToml : String
  grace : ℕ
  started : ℕ
  deriving DecidableEq

def defaultGrace : ℕ := 15 * 10 ^ 9

/-- What a turn of the reporter finds: the instants of a new attachment and of the end of its
collection, what it reads of host.yaml should it attach, whether the subscriptions come about then,
the answer of the process manager, and the topics of the bus with their live nodes. -/
structure Tick where
  now : ℕ
  seen : ℕ
  hostYaml : Option String
  subscribed : Bool
  processes : Listing
  topics : Except String (List (String × ℕ))

def TopologyMonitor.graceActive (m : TopologyMonitor) (now : ℕ) : Bool := now - m.started < m.grace

def expectedTopics (y : Reader) (cfg : String) : Except String (List String) := do
  let c ← parse y cfg
  let sources ← c.cameraConfigs
  return sources.map fun src => "camera/" ++ src.id

def activeTopics (t : Tick) : List String :=
  ((t.topics.toOption.getD []).filter fun topic => 1 ≤ topic.2).map Prod.fst

def TopologyMonitor.collect (y : Reader) (env : Env) (m : TopologyMonitor) (t : Tick) :
    TopologySnapshot :=
  let expectedProcesses := (expectedProcessNames y env m.hostToml).toOption.getD []
  let actualProcesses := t.processes.toOption.getD []
  { expectedProcesses := expectedProcesses
    actualProcesses := actualProcesses
    actualTopics := activeTopics t
    mismatches := diff expectedProcesses ((expectedTopics y m.hostToml).toOption.getD [])
      actualProcesses (activeTopics t)
    graceActive := m.graceActive t.seen }

/-- The status reporter; `flow` is the configuration that the data-flow monitor is attached with. -/
structure Reporter where
  topology : TopologyMonitor
  flow : Option String
  lastEpoch : Option String
  deriving DecidableEq

def epochBump (prev next : Option String) : Option String :=
  if prev.isSome && next.any (fun h => prev ≠ some h) then next else none

/-- `token` is whether the agent has a token. -/
def Reporter.reattachMonitors (token : Bool) (r : Reporter) (t : Tick) : Reporter :=
  match t.hostYaml with
  | none => r
  | some hostToml =>
      { r with
        topology := ⟨hostToml, defaultGrace, t.now⟩
        flow := if token && t.subscribed then some hostToml else none }

def Reporter.poll (token : Bool) (r : Reporter) (epoch : Option String) (t : Tick) : Reporter :=
  match epochBump r.lastEpoch epoch with
  | some _ => { r.reattachMonitors token t with lastEpoch := epoch }
  | none => { r with lastEpoch := epoch }

def Reporter.warnings (y : Reader) (env : Env) (r : Reporter) (t : Tick) : List Mismatch :=
  let topo := r.topology.collect y env t
  if topo.graceActive then [] else topo.mismatches

/-- An instance with its reporter. `running` is the hash in the ledger, `none` also when the ledger
cannot be read. `sighted` is not in the source: the hash that the reporter saw last, at first that of
the configuration that it was started with. -/
structure Instance where
  running : Option String
  reporter : Reporter
  sighted : String
  deriving DecidableEq

inductive Action
  | commit (cfg : String)
  | lose
  | tick (t : Tick)

def start (hash : String → String) (hostToml : String) (started : ℕ) (flow running : Option String) :
    Instance :=
  ⟨running, ⟨⟨hostToml, defaultGrace, started⟩, flow, none⟩, hash hostToml⟩

def step (hash : String → String) (token : Bool) (v : Instance) : Action → Instance
  | .commit cfg => { v with running := some (hash cfg) }
  | .lose => { v with running := none }
  | .tick t =>
      { v with
        reporter := v.reporter.poll token v.running t
        sighted := v.running.getD v.sighted }

end MediaServo.Host.Telemetry
