import MediaServo.Foundations.Runs

/-! The file-watch bell of the host agent, with the boot pass before it and the config pushes beside
it. Contents of host.yaml stand as their fingerprints, `none` for a file that cannot be read. -/

namespace MediaServo.Host

open MediaServo.Foundations

inductive WatchAction
  | follow
  | wait
  | trigger (hash : String)
  deriving DecidableEq

def watchTick (cur prev : Option String) (baseline : String) : WatchAction :=
  match cur with
  | none => .follow
  | some h =>
      if h = baseline then .follow
      else if prev = some h then .trigger h
      else .wait

namespace Watch

/-- One turn of the sampling loop: what it read, the fingerprint that the core had last been handed
by then, and whether it rang. -/
structure Sample where
  value : Option String
  handed : Option String
  triggered : Bool
  deriving DecidableEq

/-- The bells go live after the boot pass; the watcher reads its baseline only then. -/
inductive Stage
  | booting
  | live
  | watching
  | executing
  deriving DecidableEq

/-- `handed` is the fingerprint of the configuration that the core took last, at boot, from a push
or from the bell. `samples` lists the turns of the loop, oldest first. -/
structure Agent where
  file : Option String
  handed : Option String
  stage : Stage
  baseline : String
  prev : Option String
  samples : List Sample
  deriving DecidableEq

inductive Action
  | edit (content : Option String)
  | boot
  | bells
  | spawn
  | sample
  | execute (read : Bool)
  | pushWrite (content : String)
  | pushExecute
  deriving DecidableEq

namespace Agent

def start (file : Option String) : Agent := ⟨file, none, .booting, "", none, []⟩

def take (s : Agent) : Agent := { s with handed := s.file.or s.handed }

def spawnWatcher (s : Agent) : Agent :=
  { s with stage := .watching, baseline := s.file.getD "", prev := none }

def sample (s : Agent) : Agent :=
  match watchTick s.file s.prev s.baseline with
  | .trigger hash =>
      { s with
        prev := s.file
        baseline := hash
        handed := some hash
        stage := .executing
        samples := s.samples ++ [⟨s.file, s.handed, true⟩] }
  | _ => { s with prev := s.file, samples := s.samples ++ [⟨s.file, s.handed, false⟩] }

def step (s : Agent) : Action → Agent
  | .edit content => { s with file := content }
  | .boot => if s.stage = .booting then s.take else s
  | .bells => if s.stage = .booting then { s with stage := .live } else s
  | .spawn => if s.stage = .live then s.spawnWatcher else s
  | .sample => if s.stage = .watching then s.sample else s
  | .execute read =>
      if s.stage = .executing then { (if read then s.take else s) with stage := .watching } else s
  | .pushWrite content => if s.stage = .booting then s else { s with file := some content }
  | .pushExecute => if s.stage = .booting then s else s.take

end Agent

end Watch

end MediaServo.Host
