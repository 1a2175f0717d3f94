import MediaServo.Foundations.FiniteMap
import MediaServo.Foundations.Runs

/-! The fuse: the watchdog processes beside `apply`, `set`, `clear` and the lazy self-heal, one system
call at a time. The write lock is that of `acquire_write_lock` without its race, and a process is
known by its number, which stands for a pid with its start time. One clock, in milliseconds, is the
wall clock and that of the sleeps, and no expiry comes to 2^64. -/

namespace MediaServo.Weaknet.Fuse

open MediaServo.Foundations

/-- What `state.json` says of a session. `session` is not in the file: it is the number of the
apply, which a set leaves with the expiry as it is. -/
structure State where
  session : ℕ
  expiresAtMs : ℕ
  steps : List String
  deriving DecidableEq

/-- A command to `tc` or `ip` that puts an object there, or takes it away. -/
inductive KernelStep
  | add (object : String)
  | del (object : String)
  deriving DecidableEq

/-- `undo` is the rollback of a failed apply, `teardown` its `plan_teardown`. -/
structure ApplyRequest where
  durationSecs : ℕ
  steps : List KernelStep
  undo : List String
  teardown : List String
  deriving DecidableEq

structure SetRequest where
  steps : List KernelStep
  teardown : List String
  deriving DecidableEq

/-- `kill_watchdog`: the look at the pidfile and the process, the group kill, the removal of the
pidfile. -/
inductive KillStage
  | read
  | kill (pid : ℕ)
  | unlink
  deriving DecidableEq

inductive ApplyStage
  | start
  | locked
  | mounting (session : ℕ) (rest : List KernelStep)
  | undoing (rest : List String)
  | writing (session : ℕ)
  | written (session : ℕ)
  | killing (session : ℕ) (stage : KillStage)
  | spawning (session : ℕ)
  | recording (session pid : ℕ)
  deriving DecidableEq

inductive SetStage
  | start
  | locked
  | mounting (prior : State) (rest : List KernelStep)
  | writing (prior : State)
  deriving DecidableEq

/-- `clear` kills first and reads then, `autoheal_if_expired` the other way round: `found` is what it
has read. -/
inductive ClearStage
  | look
  | killing (found : Option State) (stage : KillStage)
  | read
  | tearing (rest : List String)
  | removing
  deriving DecidableEq

structure Slept where
  session : ℕ
  expiry : ℕ
  deriving DecidableEq

/-- `starting` and `sleeping` are `watchdog_run`, the rest is `watchdog_expire`. -/
inductive WatchdogStage
  | starting
  | sleeping (e : Slept)
  | woken (e : Slept)
  | tearing (e : Slept) (st : State) (rest : List String)
  | removing (e : Slept) (st : State)
  deriving DecidableEq

/-- `spawned` is how many applies there were when the watchdog was spawned. -/
structure Watchdog where
  spawned : ℕ
  stage : WatchdogStage
  deriving DecidableEq

/-- `dev` is the device that a clear without a state is about. -/
inductive Proc
  | apply (req : ApplyRequest) (stage : ApplyStage)
  | set (req : SetRequest) (stage : SetStage)
  | clear (dev : String) (stage : ClearStage)
  | watchdog (w : Watchdog)
  deriving DecidableEq

def Proc.holdsLock : Proc → Bool
  | .apply _ .start | .set _ .start => false
  | .apply _ _ | .set _ _ => true
  | _ => false

/-- `kernel` has for each object the session whose apply or set has put it there. -/
structure Site where
  now : ℕ
  lock : Option ℕ
  state : Option State
  kernel : FiniteMap String ℕ
  pidfile : Option ℕ
  procs : FiniteMap ℕ Proc
  applied : ℕ
  next : ℕ

inductive Effect
  | nothing
  | take
  | begin
  | mount (session : ℕ) (object : String)
  | unmount (object : String)
  | put (st : State)
  | remove
  | kill (pid : ℕ)
  | pid (entry : Option ℕ)
  | spawn
  deriving DecidableEq

def KernelStep.effect (session : ℕ) : KernelStep → Effect
  | .add o => .mount session o
  | .del o => .unmount o

structure Move where
  effect : Effect
  next : Option Proc

namespace Site

def empty : Site := ⟨0, none, none, ∅, none, ∅, 0, 0⟩

def alive (s : Site) (i : ℕ) : Bool := s.procs.contains i

def lockFree (s : Site) : Bool := s.lock.all fun i => !s.alive i

def drop (s : Site) (i : ℕ) : Site := { s with procs := s.procs.remove i }

def add (s : Site) (i : ℕ) (p : Proc) : Site := { s with procs := s.procs.set i p }

def release (s : Site) : Site := { s with lock := none }

end Site

def Effect.apply (s : Site) (i : ℕ) : Effect → Site
  | .nothing => s
  | .take => { s with lock := some i }
  | .begin => { s with applied := s.applied + 1 }
  | .mount n o => { s with kernel := s.kernel.set o n }
  | .unmount o => { s with kernel := s.kernel.remove o }
  | .put st => { s with state := some st }
  | .remove => { s with state := none }
  | .kill i => s.drop i
  | .pid entry => { s with pidfile := entry }
  | .spawn => { s.add s.next (.watchdog ⟨s.applied, .starting⟩) with next := s.next + 1 }

namespace Move

def go (p : Proc) : Move := ⟨.nothing, some p⟩

def quit : Move := ⟨.nothing, none⟩

end Move

/-- `ok` is whether the system does as it is told. What fails to be killed or unlinked is logged, and
the caller goes on. -/
def KillStage.move (s : Site) (ok : Bool) (again : KillStage → Proc) (done : Proc) :
    KillStage → Move
  | .read =>
      match s.pidfile with
      | some pid =>
          if ok then .go (again (if s.alive pid then .kill pid else .unlink)) else .go done
      | none => .go done
  | .kill pid => ⟨if ok then .kill pid else .nothing, some (again .unlink)⟩
  | .unlink => ⟨if ok then .pid none else .nothing, some done⟩

/-- `replay` in the mode `Apply`, with `spawn_watchdog`. -/
def ApplyRequest.move (s : Site) (req : ApplyRequest) (ok : Bool) : ApplyStage → Move
  | .start => if s.lockFree then ⟨.take, some (.apply req .locked)⟩ else .quit
  | .locked =>
      if ok then ⟨.begin, some (.apply req (.mounting s.applied req.steps))⟩ else .quit
  | .mounting n (k :: rest) =>
      if ok then ⟨k.effect n, some (.apply req (.mounting n rest))⟩
      else .go (.apply req (.undoing req.undo))
  -- the read-back and the verify
  | .mounting n [] =>
      .go (.apply req (if ok then .writing n else .undoing req.undo))
  | .undoing (o :: rest) =>
      ⟨if ok then .unmount o else .nothing, some (.apply req (.undoing rest))⟩
  | .undoing [] => .quit
  | .writing n =>
      if ok then
        ⟨.put ⟨n, s.now + req.durationSecs * 1000, req.teardown⟩, some (.apply req (.written n))⟩
      else .quit
  -- the line of the timeline
  | .written n => if ok then .go (.apply req (.killing n .read)) else .quit
  | .killing n stage =>
      stage.move s ok (fun k => .apply req (.killing n k)) (.apply req (.spawning n))
  | .spawning n => if ok then ⟨.spawn, some (.apply req (.recording n s.next))⟩ else .quit
  | .recording _ pid => ⟨if ok then .pid (some pid) else .nothing, none⟩

/-- `replay` in the mode `Set`, which rolls nothing back. -/
def SetRequest.move (s : Site) (req : SetRequest) (ok : Bool) : SetStage → Move
  | .start => if s.lockFree then ⟨.take, some (.set req .locked)⟩ else .quit
  | .locked =>
      match s.state with
      | some prior => if ok then .go (.set req (.mounting prior req.steps)) else .quit
      | none => .quit
  | .mounting prior (k :: rest) =>
      if ok then ⟨k.effect prior.session, some (.set req (.mounting prior rest))⟩ else .quit
  | .mounting prior [] => if ok then .go (.set req (.writing prior)) else .quit
  | .writing prior =>
      ⟨if ok then .put { prior with steps := req.teardown } else .nothing, none⟩

/-- `is_expired`, in which an expiry of 0 is none. -/
def isExpired (expiresAtMs nowMs : ℕ) : Bool := expiresAtMs ≠ 0 && expiresAtMs < nowMs

def ClearStage.move (s : Site) (dev : String) (ok : Bool) : ClearStage → Move
  | .look =>
      match s.state with
      | some st =>
          if ok && isExpired st.expiresAtMs s.now then .go (.clear dev (.killing (some st) .read))
          else .quit
      | none => .quit
  | .killing found stage =>
      stage.move s ok (fun k => .clear dev (.killing found k))
        (.clear dev (match found with
          | some st => .tearing st.steps
          | none => .read))
  | .read =>
      if ok then
        .go (.clear dev (.tearing (match s.state with
          | some st => st.steps
          | none => [dev])))
      else .quit
  | .tearing (o :: rest) =>
      ⟨if ok then .unmount o else .nothing, some (.clear dev (.tearing rest))⟩
  | .tearing [] => .go (.clear dev .removing)
  | .removing => ⟨if ok then .remove else .nothing, none⟩

def Watchdog.move (s : Site) (w : Watchdog) (ok : Bool) : Move :=
  match w.stage with
  | .starting =>
      match s.state with
      | some st =>
          if ok && st.expiresAtMs ≠ 0 then
            .go (.watchdog { w with stage := .sleeping ⟨st.session, st.expiresAtMs⟩ })
          else .quit
      | none => .quit
  | .sleeping e =>
      .go (.watchdog { w with stage := if e.expiry ≤ s.now then .woken e else .sleeping e })
  | .woken e =>
      match s.state with
      | some st =>
          if ok then .go (.watchdog { w with stage := .tearing e st st.steps }) else .quit
      | none => .quit
  | .tearing e st (o :: rest) =>
      ⟨if ok then .unmount o else .nothing,
        some (.watchdog { w with stage := .tearing e st rest })⟩
  | .tearing e st [] => .go (.watchdog { w with stage := .removing e st })
  | .removing _ _ => ⟨if ok then .remove else .nothing, none⟩

def Proc.move (s : Site) (ok : Bool) : Proc → Move
  | .apply req stage => req.move s ok stage
  | .set req stage => req.move s ok stage
  | .clear dev stage => stage.move s dev ok
  | .watchdog w => w.move s ok

/-- A process does its move: the call, the release of the lock, and its next stage. -/
def Site.perform (s : Site) (i : ℕ) (p : Proc) (m : Move) : Site :=
  let s₁ := m.effect.apply (s.drop i) i
  let s₂ := if p.holdsLock && !m.next.any Proc.holdsLock then s₁.release else s₁
  match m.next with
  | some q => s₂.add i q
  | none => s₂

inductive Command
  | apply (req : ApplyRequest)
  | set (req : SetRequest)
  | clear (dev : String)
  | heal (dev : String)
  deriving DecidableEq

def Command.proc : Command → Proc
  | .apply req => .apply req .start
  | .set req => .set req .start
  | .clear dev => .clear dev (.killing none .read)
  | .heal dev => .clear dev .look

inductive Event
  | tick (ms : ℕ)
  | start (cmd : Command)
  | act (i : ℕ) (ok : Bool)
  | die (i : ℕ)
  deriving DecidableEq

def Site.step (s : Site) : Event → Site
  | .tick ms => { s with now := s.now + ms }
  | .start cmd => { s.add s.next cmd.proc with next := s.next + 1 }
  | .act i ok =>
      match s.procs.get i with
      | some p => s.perform i p (p.move s ok)
      | none => s
  | .die i => s.drop i

end MediaServo.Weaknet.Fuse
