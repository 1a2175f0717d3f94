import MediaServo.Foundations.FiniteMap
import MediaServo.Foundations.Runs

/-! The pipeline engine: `add_chain`, `remove_chain`, `start` and `stop` by any number of callers,
with a step for each hold of the table's lock and each look at the running flag or the watch, and the
tasks that they spawn. What a chain does with its packets is left out. -/

namespace MediaServo.Media

open MediaServo.Foundations

/-- `source` is whether the source is still in the table. `registered` is the number of the
`add_chain` that has put the chain there. -/
structure ChainState where
  source : Bool
  task : Option ℕ
  registered : ℕ
  deriving DecidableEq

/-- A spawned `run_chain`. `aborted` is told to its handle, `ended` has come of it. -/
structure ChainTask where
  registered : ℕ
  aborted : Bool
  ended : Bool
  deriving DecidableEq

/-- The one variant of `MediaError` that the engine makes. -/
inductive MediaError
  | internal (text : String)
  deriving DecidableEq

namespace MediaError

def chainExists (id : String) : MediaError := .internal ("chain '" ++ id ++ "' already exists")

def notFound (id : String) : MediaError := .internal ("chain '" ++ id ++ "' not found")

def consumed (id : String) : MediaError :=
  .internal ("chain '" ++ id ++ "': source already consumed")

end MediaError

/-- `inserted` has the lock and is about to look at the running flag. -/
inductive AddStage
  | start
  | inserted
  | spawning
  deriving DecidableEq

inductive StartStage
  | swap
  | list
  | spawning (rest : List String)
  deriving DecidableEq

inductive StopStage
  | swap
  | send
  | take
  | join
  deriving DecidableEq

inductive Call
  | add (id : String) (stage : AddStage)
  | remove (id : String)
  | start (stage : StartStage)
  | stop (stage : StopStage)
  | returned (error : Option MediaError)
  deriving DecidableEq

/-- `changed` is whether a step of the call has changed which chains there are, or the flag. -/
structure Invocation where
  call : Call
  changed : Bool
  deriving DecidableEq

/-- `writer` is the call that has the lock between two steps, and `shutdown` the value of the
watch. -/
structure PipelineEngine where
  chains : FiniteMap String ChainState
  running : Bool
  shutdown : Bool
  writer : Option ℕ
  tasks : FiniteMap ℕ ChainTask
  calls : FiniteMap ℕ Invocation
  next : ℕ

namespace PipelineEngine

def new : PipelineEngine := ⟨∅, false, false, none, ∅, ∅, 0⟩

def ids (s : PipelineEngine) : List String := s.chains.toList.map Prod.fst

def insert (s : PipelineEngine) (id : String) : PipelineEngine :=
  { s with chains := s.chains.set id ⟨true, none, s.next⟩, next := s.next + 1 }

/-- `spawn_chain` under the lock. -/
def spawnChain (s : PipelineEngine) (id : String) : Except MediaError PipelineEngine :=
  match s.chains.get id with
  | none => .error (.notFound id)
  | some c =>
      if c.source then
        .ok { s with
          chains := s.chains.adjust id fun c => { c with source := false, task := some s.next }
          tasks := s.tasks.set s.next ⟨c.registered, false, false⟩
          next := s.next + 1 }
      else .error (.consumed id)

def abort (s : PipelineEngine) (task : Option ℕ) : PipelineEngine :=
  match task with
  | some t => { s with tasks := s.tasks.adjust t fun a => { a with aborted := true } }
  | none => s

/-- A watch without a receiver keeps its value, and each task that has not ended has a receiver. -/
def send (s : PipelineEngine) : PipelineEngine :=
  { s with shutdown := s.shutdown || s.tasks.toList.any fun p => !p.2.ended }

def takeTasks (s : PipelineEngine) : PipelineEngine :=
  { s with chains := s.chains.mapValues fun _ c => { c with task := none } }

end PipelineEngine

/-- The outcome of a `spawn_chain` in a call that goes on with `next`. -/
def Call.spawned (s : PipelineEngine) (next : Call) :
    Except MediaError PipelineEngine → PipelineEngine × Call
  | .ok s' => (s', next)
  | .error e => (s, .returned (some e))

/-- The next step of a call. A call that needs the lock stays where it is while another has it, and
`start` goes through its chains in any order. -/
def Call.step (s : PipelineEngine) (i pick : ℕ) : Call → PipelineEngine × Call
  | .add id .start =>
      if s.writer.isSome then (s, .add id .start)
      else if s.chains.contains id then (s, .returned (some (.chainExists id)))
      else ({ s.insert id with writer := some i }, .add id .inserted)
  | .add id .inserted =>
      ({ s with writer := none }, if s.running then .add id .spawning else .returned none)
  | .add id .spawning =>
      if s.writer.isSome then (s, .add id .spawning)
      else Call.spawned s (.returned none) (s.spawnChain id)
  | .remove id =>
      if s.writer.isSome then (s, .remove id)
      else
        match s.chains.get id with
        | none => (s, .returned (some (.notFound id)))
        | some c => ({ s with chains := s.chains.remove id }.abort c.task, .returned none)
  | .start .swap =>
      if s.running then (s, .returned none) else ({ s with running := true }, .start .list)
  | .start .list =>
      if s.writer.isSome then (s, .start .list) else (s, .start (.spawning s.ids))
  | .start (.spawning []) => (s, .returned none)
  | .start (.spawning rest) =>
      match rest[pick]? with
      | some id =>
          if s.writer.isSome then (s, .start (.spawning rest))
          else Call.spawned s (.start (.spawning (rest.eraseIdx pick))) (s.spawnChain id)
      | none => (s, .start (.spawning rest))
  | .stop .swap =>
      if s.running then ({ s with running := false }, .stop .send) else (s, .returned none)
  | .stop .send => (s.send, .stop .take)
  | .stop .take => if s.writer.isSome then (s, .stop .take) else (s.takeTasks, .stop .join)
  | .stop .join => (s, .returned none)
  | .returned e => (s, .returned e)

inductive Request
  | add (id : String)
  | remove (id : String)
  | start
  | stop
  deriving DecidableEq

def Request.call : Request → Call
  | .add id => .add id .start
  | .remove id => .remove id
  | .start => .start .swap
  | .stop => .stop .swap

/-- `poll` is a turn of a task, which looks at the watch before all else. -/
inductive Event
  | call (r : Request)
  | act (i pick : ℕ)
  | poll (t : ℕ)
  deriving DecidableEq

namespace PipelineEngine

def act (s : PipelineEngine) (i pick : ℕ) (v : Invocation) : PipelineEngine :=
  let (s', c) := v.call.step s i pick
  { s' with
    calls := s'.calls.set i
      ⟨c, v.changed || decide (s'.ids ≠ s.ids) || decide (s'.running ≠ s.running)⟩ }

def poll (s : PipelineEngine) (t : ℕ) : PipelineEngine :=
  { s with tasks := s.tasks.adjust t fun a => { a with ended := a.ended || a.aborted || s.shutdown } }

def step (s : PipelineEngine) : Event → PipelineEngine
  | .call r => { s with calls := s.calls.set s.next ⟨r.call, false⟩, next := s.next + 1 }
  | .act i pick =>
      match s.calls.get i with
      | some v => s.act i pick v
      | none => s
  | .poll t => s.poll t

end PipelineEngine

end MediaServo.Media
