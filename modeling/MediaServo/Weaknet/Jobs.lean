import MediaServo.Foundations.FiniteMap
import MediaServo.Foundations.Runs

/-! The commands on a state directory as tasks of processes that run beside each other: the external
writes, the clears, `scenario stop`, and the runs of a scenario from their gate to the removal of
their job. Each look at `state.json`, each access to the lock file, each change of the kernel and each
write of the state is a step of its own, and a process may die between any two of them. -/

namespace MediaServo.Weaknet

open MediaServo.Foundations

/-- The job in `state.json`. `run` is not in the file: it is the task that has written the job. -/
structure JobRef where
  name : String
  pid : ℕ
  starttime : ℕ
  run : ℕ
  deriving DecidableEq

structure StateFile where
  job : Option JobRef
  deriving DecidableEq

/-- The lock file. `task` is not in the file: it is the task that has created it. -/
structure WriteLock where
  pid : ℕ
  starttime : ℕ
  task : ℕ
  deriving DecidableEq

/-- The external writes: `Cmd::Apply`, `Cmd::Set`, `Cmd::Up`, `do_apply_http` and `do_set_http`. -/
inductive WriteCmd
  | apply
  | set
  | up
  | postApply
  | postSet
  deriving DecidableEq

/-- `ready` has read all it needs and is about to change the kernel, `mounted` has changed it and is
about to write the state with this job. -/
inductive WriteStage
  | start
  | gated
  | locked
  | ready (job : Option JobRef)
  | mounted (job : Option JobRef)
  deriving DecidableEq

inductive StopStage
  | start
  | flagging
  | unflagging
  | staleSeen
  | staleLocked
  | staleRead
  deriving DecidableEq

structure RunSpec where
  name : String
  keep : Bool
  planClear : Bool
  deriving DecidableEq

/-- `start` to `recorded` are `start_blocking`, `driving` to `stepMounted` the loop of `drive` with
`step_sync`, `clearing` and `torn` its `exec.clear`, and the rest `remove_cancel` and
`clear_own_job`. -/
inductive RunStage
  | start
  | passed
  | gated
  | locked
  | mounted
  | installed
  | recording
  | recorded
  | driving
  | stepLocked
  | stepReady (job : JobRef)
  | stepMounted (job : JobRef)
  | clearing
  | torn
  | tail
  | disowning
  | ownSeen
  | ownLocked
  | ownRead
  deriving DecidableEq

/-- A clear is one by hand, at the end of `serve`, of the watchdog, or of the lazy self-heal: all of
them take the kernel down and then remove the state, whoever holds the lock. -/
inductive Task
  | write (cmd : WriteCmd) (stage : WriteStage)
  | clear (torn : Bool)
  | stop (stage : StopStage)
  | run (spec : RunSpec) (stage : RunStage)
  deriving DecidableEq

/-- `reaping` has found the lock file of a dead process and is about to remove it. -/
structure Entry where
  pid : ℕ
  reaping : Bool
  task : Task
  deriving DecidableEq

structure Dirs where
  state : Option StateFile
  lock : Option WriteLock
  cancel : Bool
  procs : FiniteMap ℕ ℕ
  clock : ℕ
  tasks : FiniteMap ℕ Entry
  next : ℕ

namespace Dirs

def empty : Dirs := ⟨none, none, false, ∅, 0, ∅, 0⟩

def readProcStarttime (s : Dirs) (pid : ℕ) : Option ℕ := s.procs.get pid

def job (s : Dirs) : Option JobRef := s.state.bind StateFile.job

def jobAlive (s : Dirs) (j : JobRef) : Bool := s.readProcStarttime j.pid = some j.starttime

def holderAlive (s : Dirs) (l : WriteLock) : Bool := s.readProcStarttime l.pid = some l.starttime

/-- What `job_gate` refuses, in `scenario.rs` and in `server.rs`. -/
def busy (s : Dirs) : Bool := s.job.any s.jobAlive

end Dirs

def Task.holdsLock : Task → Bool
  | .write _ .locked | .write _ (.ready _) | .write _ (.mounted _) => true
  | .stop .staleLocked | .stop .staleRead => true
  | .run _ .locked | .run _ .mounted | .run _ .installed | .run _ .recording => true
  | .run _ .stepLocked | .run _ (.stepReady _) | .run _ (.stepMounted _) => true
  | .run _ .ownLocked | .run _ .ownRead => true
  | _ => false

inductive Effect
  | nothing
  | lock
  | suspect
  | reap
  | flag (on : Bool)
  | put (job : Option JobRef)
  | remove
  deriving DecidableEq

def Effect.apply (s : Dirs) (i pid : ℕ) : Effect → Dirs
  | .nothing | .suspect => s
  | .lock => { s with lock := some ⟨pid, (s.readProcStarttime pid).getD 0, i⟩ }
  | .reap => { s with lock := none }
  | .flag on => { s with cancel := on }
  | .put job => { s with state := some ⟨job⟩ }
  | .remove => { s with state := none }

structure Move where
  effect : Effect
  next : Option Task

namespace Move

def go (t : Task) : Move := ⟨.nothing, some t⟩

def stop : Move := ⟨.nothing, none⟩

end Move

/-- `acquire_write_lock`. The lock of a dead process is removed in a step of its own, and then the
file is tried again. -/
def acquireWriteLock (s : Dirs) (t got : Task) (busy : Option Task) : Move :=
  match s.lock with
  | none => ⟨.lock, some got⟩
  | some l => if s.holderAlive l then ⟨.nothing, busy⟩ else ⟨.suspect, some t⟩

def WriteCmd.gatesFirst : WriteCmd → Bool
  | .apply | .set => true
  | _ => false

/-- What a write reads under the lock: the job that it will write, or nothing when it gives up. -/
def WriteCmd.prepare (s : Dirs) : WriteCmd → Option (Option JobRef)
  | .apply | .up => some none
  | .set => s.state.map StateFile.job
  | .postApply => if s.busy then none else some none
  -- sanitize_job drops the job of a dead process, and the gate has refused every other
  | .postSet => if s.busy then none else s.state.map fun _ => none

def WriteCmd.move (s : Dirs) (cmd : WriteCmd) : WriteStage → Move
  | .start =>
      if cmd.gatesFirst then (if s.busy then .stop else .go (.write cmd .gated))
      else acquireWriteLock s (.write cmd .start) (.write cmd .locked) none
  | .gated => acquireWriteLock s (.write cmd .gated) (.write cmd .locked) none
  | .locked =>
      match cmd.prepare s with
      | some job => .go (.write cmd (.ready job))
      | none => .stop
  | .ready job => .go (.write cmd (.mounted job))
  | .mounted job => ⟨.put job, none⟩

def clearMove : Bool → Move
  | false => .go (.clear true)
  | true => ⟨.remove, none⟩

def StopStage.move (s : Dirs) : StopStage → Move
  | .start =>
      if s.busy then .go (.stop .flagging)
      else if s.job.isSome then .go (.stop .staleSeen)
      else .go (.stop .unflagging)
  | .flagging => ⟨.flag true, none⟩
  | .unflagging => ⟨.flag false, none⟩
  | .staleSeen => acquireWriteLock s (.stop .staleSeen) (.stop .staleLocked) none
  | .staleLocked => if s.state.isSome then .go (.stop .staleRead) else .stop
  | .staleRead => ⟨.put none, none⟩

/-- What the loop of a drive does next, where the plan and the clock decide: look at the cancel flag,
take a step, or come to its end. `fail` is an error of a file, of a command, or of the plan. -/
inductive Choice
  | go
  | step
  | finish
  | fail
  deriving DecidableEq

namespace RunSpec

def finishAbort (r : RunSpec) : Task := .run r (if r.keep then .tail else .clearing)

def finish (r : RunSpec) : Task := .run r (if r.keep || !r.planClear then .tail else .clearing)

def ownName (s : Dirs) (r : RunSpec) : Option JobRef :=
  s.job.filter fun j => j.name = r.name && s.jobAlive j

def cancelReason (s : Dirs) (r : RunSpec) : Bool := s.cancel || (r.ownName s).isNone

def move (s : Dirs) (i pid : ℕ) (r : RunSpec) (c : Choice) : RunStage → Move
  | .start => if s.busy then .stop else .go (.run r .passed)
  | .passed => ⟨.flag false, some (.run r .gated)⟩
  | .gated => acquireWriteLock s (.run r .gated) (.run r .locked) none
  | .locked => .go (.run r .mounted)
  | .mounted => ⟨.put none, some (.run r .installed)⟩
  | .installed => if s.state.isSome then .go (.run r .recording) else .stop
  | .recording =>
      ⟨.put (some ⟨r.name, pid, (s.readProcStarttime pid).getD 0, i⟩), some (.run r .recorded)⟩
  | .recorded => .go (.run r .driving)
  | .driving =>
      match c with
      | .step => acquireWriteLock s (.run r .driving) (.run r .stepLocked) (some r.finishAbort)
      | .finish => .go r.finish
      | _ => if r.cancelReason s then .go r.finishAbort else .go (.run r .driving)
  | .stepLocked =>
      match r.ownName s with
      | some j => .go (.run r (.stepReady j))
      | none => .go r.finishAbort
  | .stepReady j => .go (.run r (.stepMounted j))
  | .stepMounted j => ⟨.put (some j), some (.run r .driving)⟩
  | .clearing => .go (.run r .torn)
  | .torn => ⟨.remove, some (.run r .tail)⟩
  | .tail => ⟨.flag false, some (.run r .disowning)⟩
  | .disowning =>
      match r.ownName s with
      | some j => if j.pid = pid then .go (.run r .ownSeen) else .stop
      | none => .stop
  | .ownSeen => acquireWriteLock s (.run r .ownSeen) (.run r .ownLocked) none
  | .ownLocked =>
      match s.job with
      | some j => if j.name = r.name ∧ j.pid = pid then .go (.run r .ownRead) else .stop
      | none => .stop
  | .ownRead => ⟨.put none, none⟩

end RunSpec

/-- An error ends a command and a start, aborts a drive, and lets a drive go on behind its clear. -/
def Task.failed : Task → Move
  | .run r .driving | .run r .stepLocked | .run r (.stepReady _) | .run r (.stepMounted _) =>
      .go r.finishAbort
  | .run r .clearing | .run r .torn => .go (.run r .tail)
  | _ => .stop

def Entry.move (s : Dirs) (i : ℕ) (e : Entry) (c : Choice) : Move :=
  if c = .fail then e.task.failed
  else if e.reaping then ⟨.reap, some e.task⟩
  else
    match e.task with
    | .write cmd stage => cmd.move s stage
    | .clear torn => clearMove torn
    | .stop stage => stage.move s
    | .run r stage => r.move s i e.pid c stage

/-- The directory after a move: what the move does, then the release of the lock. -/
def Dirs.perform (s : Dirs) (i : ℕ) (e : Entry) (m : Move) : Dirs :=
  let s' := m.effect.apply s i e.pid
  { s' with
    lock := if e.task.holdsLock && !m.next.any Task.holdsLock then none else s'.lock
    tasks := match m.next with
      | some t => s'.tasks.set i { e with reaping := m.effect = .suspect, task := t }
      | none => s'.tasks.remove i }

inductive Command
  | write (cmd : WriteCmd)
  | clear
  | stop
  | run (r : RunSpec)
  deriving DecidableEq

def Command.task : Command → Task
  | .write cmd => .write cmd .start
  | .clear => .clear false
  | .stop => .stop .start
  | .run r => .run r .start

/-- `boot` is a process that comes up under a free process id. -/
inductive SiteEvent
  | boot (pid : ℕ)
  | die (pid : ℕ)
  | spawn (pid : ℕ) (cmd : Command)
  | act (i : ℕ) (c : Choice)
  deriving DecidableEq

def Dirs.step (s : Dirs) : SiteEvent → Dirs
  | .boot pid =>
      match s.procs.get pid with
      | none => { s with procs := s.procs.set pid s.clock, clock := s.clock + 1 }
      | some _ => s
  | .die pid =>
      { s with procs := s.procs.remove pid, tasks := s.tasks.retain fun _ e => e.pid ≠ pid }
  | .spawn pid cmd =>
      match s.procs.get pid with
      | some _ => { s with tasks := s.tasks.set s.next ⟨pid, false, cmd.task⟩, next := s.next + 1 }
      | none => s
  | .act i c =>
      match s.tasks.get i with
      | some e => s.perform i e (e.move s i c)
      | none => s

end MediaServo.Weaknet
