import MediaServo.Host.Translate

/-! The configuration core of the host: the ledger, the files of an instance directory, and the
decisions that the executor takes on what it reads. -/

namespace MediaServo.Host

open MediaServo.Common MediaServo.Foundations

inductive Content
  | text (s : String)
  | raw (bytes : List UInt8)
  deriving DecidableEq

structure Running where
  hash : String
  origin : String
  actor : Option String
  deriving DecidableEq

structure LastPush where
  hash : String
  actor : Option String
  deriving DecidableEq

structure PendingApply where
  hash : String
  deriving DecidableEq

structure Flags where
  pending : Bool := false
  error : Bool := false
  conflict : Bool := false
  deriving DecidableEq

structure HistoryEntry where
  hash : String
  origin : String
  actor : Option String
  result : String
  deriving DecidableEq

structure Ledger where
  running : Option Running := none
  lastPush : Option LastPush := none
  pendingApply : Option PendingApply := none
  flags : Flags := {}
  history : List HistoryEntry := []
  deriving DecidableEq

def historyCap : ℕ := 64

def Ledger.pushHistory (l : Ledger) (hash origin : String) (actor : Option String)
    (result : String) : Ledger :=
  let rows := l.history ++ [⟨hash, origin, actor, result⟩]
  { l with history := rows.drop (rows.length - historyCap) }

def flagsAfterCommit (running : Running) (lastPush : Option LastPush) : Flags :=
  { pending := false, error := false, conflict := lastPush.any (fun p => p.hash ≠ running.hash) }

/-- An instance directory, and the version that its agent holds in memory. A ledger that is missing
is the empty one; `present` are the token and key files that exist, and `backups` the numbers N of
the files etc/host.yaml.bak-N. -/
structure Device where
  hostYaml : Option Content
  oxfile : Option String := none
  staging : Option String := none
  ledger : Ledger := {}
  backups : List ℕ := []
  present : List String := []
  version : ℕ := 0
  deriving DecidableEq

def Device.recoverConfigVersion (s : Device) : ℕ := s.backups.foldl max 0

inductive Topology
  | agentRun
  | cliRun
  deriving DecidableEq

structure ExecuteOpts where
  origin : String
  actor : Option String
  deriving DecidableEq

structure SurvivorInfo where
  pid : ℕ
  owner : String
  firstArg : String
  deriving DecidableEq

inductive Outcome
  | noOp (hash : String)
  | applied (hash : String)
  | refused (reason : String)
  | residue (survivors : List SurvivorInfo)
  deriving DecidableEq

/-- How a command ends: with an outcome of the core, with an error, or without anything to say. -/
inductive Ending
  | outcome (o : Outcome)
  | failed (e : String)
  | done
  deriving DecidableEq

structure OxProcess where
  name : String
  status : String
  nameSpace : Option String
  deriving DecidableEq

abbrev Listing := Except String (List OxProcess)

def liveHostApps (env : Env) (answer : Listing) : Except String (List String) := do
  let ps ← answer
  return (ps.filter (fun p => p.nameSpace = some env.mediaBrand.nameSpace)).map OxProcess.name

def shouldReconcile (force runningMatch pendingMismatch flagsPending : Bool) : Bool :=
  force || !runningMatch || pendingMismatch || flagsPending

def Ledger.runningMatch (l : Ledger) (hash : String) : Bool := l.running.any (fun r => r.hash = hash)

def Ledger.pendingMismatch (l : Ledger) (hash : String) : Bool :=
  l.pendingApply.any (fun p => p.hash ≠ hash)

def Ledger.pendingMatch (l : Ledger) (hash : String) : Bool :=
  l.pendingApply.any (fun p => p.hash = hash)

def gateNeedsReconcile (l : Ledger) (hash : String) : Bool :=
  shouldReconcile false (l.runningMatch hash) (l.pendingMismatch hash) l.flags.pending

inductive NoOpVerdict
  | noOp
  | execute
  deriving DecidableEq

def noopVerdict (fingerprintMatches rosterLiveOk : Bool) : NoOpVerdict :=
  if fingerprintMatches && rosterLiveOk then .noOp else .execute

def deadApps (expected : List String) (registry : List OxProcess) : List String :=
  expected.filter (fun n => ¬registry.any (fun p => p.name = n ∧ p.status = "running"))

def endsWith (s p : String) : Bool := p.toList.isSuffixOf s.toList

def containsText (s p : String) : Bool := decide (p.toList <:+: s.toList)

def teardownRank (n : String) : ℕ :=
  if endsWith n "agent" then 3
  else if ["streamer", "audio", "controller", "emergency", "recorder"].any (containsText n) then 0
  else if containsText n "capturer" then 1
  else 2

def orderTeardown (names : List String) : List String :=
  [0, 1, 2, 3].flatMap (fun k => names.filter (fun n => teardownRank n = k))

def gateClean (registry : List String) : Topology → Bool
  | .cliRun => registry.isEmpty
  | .agentRun => registry.all (fun n => endsWith n "agent")

def reconcileMismatch (roster registry expected : List String) (recorder : String) : Option String :=
  let missing := roster.filter (· ∉ registry)
  let extra := registry.filter (· ∉ roster)
  let unregistered := expected.filter (· ∉ roster)
  if missing ≠ [] ∨ extra ≠ [] then
    some ("registry != roster: missing=" ++ Lines.debugList missing ++ " extra=" ++ Lines.debugList extra)
  else if unregistered ≠ [] then
    some ("expected apps not in roster: " ++ Lines.debugList unregistered)
  else
    match roster.find? (fun n => n ∉ expected ∧ n ≠ recorder) with
    | some bad =>
        some ("roster carries unexpected app " ++ bad ++
          " (only the falsy recorder slot may exceed expected)")
    | none => none

def afterNeedle (needle : List Char) : List Char → Option (List Char)
  | [] => none
  | c :: rest =>
      if needle.isPrefixOf (c :: rest) then some ((c :: rest).drop needle.length)
      else afterNeedle needle rest

def endsToken (c : Char) : Bool := c == ' ' || c == '"' || c == '\n' || c == '\r' || c == '\t'

def tokenPathsFrom : ℕ → List Char → List String
  | 0, _ => []
  | fuel + 1, l =>
      match afterNeedle "--token ".toList l with
      | none => []
      | some rest =>
          let value := rest.takeWhile (fun c => !endsToken c)
          (if value = [] then [] else [String.ofList value]) ++
            tokenPathsFrom fuel (rest.dropWhile (fun c => !endsToken c))

/-- The values of the token arguments. Every turn of the search moves on in the text. -/
def tokenPaths (rendered : String) : List String :=
  tokenPathsFrom rendered.toList.length rendered.toList

section Config

variable (y : Reader) (env : Env) (d : Dir)

def missingKeyFile (s : Device) (cfg : String) : Option String :=
  match parse y cfg with
  | .ok c =>
      match c.controlHmacKeyFile with
      | some rel => if joinPath d.path rel ∈ s.present then none else some (joinPath d.path rel)
      | none => none
  | .error _ => none

def missingKeyText (path : String) : String :=
  "[control].hmac_key_file points to a missing file: " ++ path

def missingTokens (s : Device) (rendered : String) : List String :=
  (tokenPaths rendered).filter (· ∉ s.present)

def missingTokensText (missing : List String) : String :=
  "token pre-check (C40): missing " ++ ", ".intercalate missing ++ " — run `token issue --all " ++
    d.path ++ "`"

/-- The gates that a configuration passes before anything is touched, and its oxfile. -/
def gates (s : Device) (cfg : String) : Except Ending String :=
  match validate y cfg with
  | .error e => .error (.outcome (.refused e))
  | .ok () =>
      match missingKeyFile y d s cfg with
      | some path => .error (.outcome (.refused (missingKeyText path)))
      | none =>
          match toOxfileInDir y env cfg d with
          | .error e => .error (.failed e)
          | .ok rendered =>
              if missingTokens s rendered = [] then .ok rendered
              else .error (.outcome (.refused (missingTokensText d (missingTokens s rendered))))

def noopMaySkip (answer : Listing) (content : Content) (fingerprintMatches : Bool) : Bool :=
  match content with
  | .raw _ => false
  | .text cfg =>
      match expectedProcessNames y env cfg, answer with
      | .ok expected, .ok registry =>
          noopVerdict fingerprintMatches (deadApps expected registry).isEmpty = .noOp
      | _, _ => false

end Config

def expiredText (version current : ℕ) : String :=
  "ConfigPush version " ++ toString version ++ " expired (current " ++ toString current ++
    ") — reject stale/duplicate push"

end MediaServo.Host
