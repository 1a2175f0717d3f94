import Mathlib.Tactic

/-! The names that are derived from an instance directory, and the directory that a startup command
is for. -/

namespace MediaServo.Server.Startup

abbrev Text := List Char

section Paths

def pieces (t : Text) : List Text := (t.splitOn '/').filter fun c => c ≠ [] ∧ c ≠ ['.']

def join (dir name : Text) : Text :=
  if dir.getLast? = some '/' then dir ++ name else dir ++ '/' :: name

def parent (t : Text) : Option Text :=
  if pieces t = [] then none else some ('/' :: ['/'].intercalate (pieces t).dropLast)

def isAbsolute (t : Text) : Bool := t.head? = some '/'

/-- `std::path::absolute`: the empty path stays, as does a relative one when the working directory
is unknown; two leading slashes and a trailing one are kept. -/
def absolute (cwd : Option Text) (p : Text) : Text :=
  match p, isAbsolute p, cwd with
  | [], _, _ => []
  | p, true, _ =>
    let root : Text := if p.take 2 = ['/', '/'] ∧ p.take 3 ≠ ['/', '/', '/'] then ['/', '/'] else ['/']
    root ++ ['/'].intercalate (pieces p) ++ trailing p
  | p, false, some d => '/' :: ['/'].intercalate (pieces d ++ pieces p) ++ trailing p
  | p, false, none => p
where
  trailing (p : Text) : Text := if p.getLast? = some '/' ∧ pieces p ≠ [] then ['/'] else []

end Paths

section Names

/-- The separators and blanks of a path as hyphens, without those at its beginning. -/
def slug (dir : Text) : Text :=
  (dir.map fun c => if c = '/' ∨ c = '\\' ∨ c = ' ' then '-' else c).dropWhile (· = '-')

def startupUnitName (serverNamespace dir : Text) : Text :=
  "oxmgr-".toList ++ serverNamespace ++ '-' :: slug dir ++ ".service".toList

def byteSum (t : Text) : ℕ := ((t.flatMap String.utf8EncodeChar).map UInt8.toNat).sum % 2 ^ 32

def daemonPortBase : ℕ := 18500

def instanceDaemonPort (home : Text) : ℕ := daemonPortBase + byteSum home % 400

def oxmgrHome (dir : Text) : Text := join (join dir "run".toList) "oxmgr".toList

def daemonPort (cwd : Option Text) (dir : Text) : ℕ :=
  instanceDaemonPort (absolute cwd (oxmgrHome dir))

/-- The port in the daemon address of the host's instance, whose directory is canonicalized where
it exists. -/
def hostDaemonPort (canonicalize : Text → Option Text) (dir : Text) : ℕ :=
  18000 + byteSum (oxmgrHome ((canonicalize dir).getD dir)) % 400

end Names

section Commands

structure Env where
  serverNamespace : Text
  cwd : Option Text
  exeDir : Option Text
  present : Text → Bool

def serverYaml : Text := "etc/server.yaml".toList

def smartDefault (env : Env) : Text :=
  if env.present serverYaml then ".".toList
  else match env.exeDir with
    | none => ".server".toList
    | some exeDir =>
      if env.present (join exeDir serverYaml) then exeDir
      else match parent exeDir with
        | some root => if env.present (join root serverYaml) then root else ".server".toList
        | none => ".server".toList

def cwdComponents (env : Env) : List Text :=
  match env.cwd with
  | some d => ['/'] :: pieces d
  | none => []

/-- A relative argument that says the end of the working directory again. -/
def nestsInCwd (cwd arg : List Text) : Bool :=
  arg ≠ [] ∧ arg.length < cwd.length ∧ arg <:+ cwd

def parseDir (env : Env) : List Text → Except Text Text
  | [] => .ok (smartDefault env)
  | arg :: rest =>
    if "--".toList <+: arg then
      .error ("instance dir argument must not start with -- (dir is a positional arg): ".toList ++ arg)
    else if rest ≠ [] then .error "instance dir accepts only one positional argument".toList
    else if isAbsolute arg then .ok arg
    else if nestsInCwd (cwdComponents env) (pieces arg) then .ok ".".toList
    else .ok arg

inductive Sub
  | on
  | off
  | status
  deriving DecidableEq

def Sub.word : Sub → Text
  | .on => "on".toList
  | .off => "off".toList
  | .status => "status".toList

/-- What a startup command does: for the unit of a directory, over all units, or nothing. -/
inductive Action
  | unit (sub : Sub) (name : Text)
  | inventory (sub : Sub)
  | refused (message : Text)
  deriving DecidableEq

def usage (env : Env) : Text :=
  "Usage: ".toList ++ env.serverNamespace ++
    " startup <on|off|status> [<dir>] (status/off with no arg = full local inventory)".toList

def subOf (word : Text) : Option Sub := [Sub.on, .off, .status].find? fun s => s.word = word

/-- The test for a bare `status` or `off` takes the next argument. -/
def cmdStartup (env : Env) (args : List Text) : Action :=
  match subOf (args.headD []) with
  | none => .refused (usage env)
  | some sub =>
    if sub ≠ .on ∧ args.tail = [] then .inventory sub
    else
      let rest := if sub = .on then args.tail else args.tail.tail
      match parseDir env rest with
      | .ok dir => .unit sub (startupUnitName env.serverNamespace (absolute env.cwd dir))
      | .error message => .refused message

end Commands

end MediaServo.Server.Startup
