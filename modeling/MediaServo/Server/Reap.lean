import MediaServo.Foundations.Ranks

/-! The plan of a sweep: through which daemon each live process is stopped. -/

namespace MediaServo.Server

open MediaServo.Foundations

inductive Component
  | rootDir
  | curDir
  | parentDir
  | normal (name : String)
  deriving DecidableEq

/-- A path by its components; a `.` among them stands at the beginning only. -/
abbrev Path := List Component

def Path.isAbsolute (p : Path) : Bool := p.head? = some .rootDir

def stripCurDir : Path → Path
  | .curDir :: rest => rest
  | p => p

/-- `std::path::absolute`, with the path itself where it fails: on the empty path, and on a
relative one when the working directory is unknown. -/
def absolute (workingDir : Option Path) (p : Path) : Path :=
  if p = [] then p
  else if p.isAbsolute then p
  else match workingDir with
    | some d => d ++ stripCurDir p
    | none => p

structure ManagedEntry where
  name : String
  pid : Option ℕ
  cwd : Path
  deriving DecidableEq

structure LiveProc where
  pid : ℕ
  cwd : Option Path
  environOxmgrHome : Option Path
  deriving DecidableEq

structure RegistryTable where
  dir : Path
  entries : List ManagedEntry
  deriving DecidableEq

inductive DirectReason
  | noRegistry
  deriving DecidableEq

inductive ReapStep
  | viaDaemon (daemonDataDir : Path) (name : String) (pid : ℕ)
  | directKill (pid : ℕ) (reason : DirectReason)
  deriving DecidableEq

def matchesHome (workingDir : Option Path) (dir home : Path) : Bool :=
  absolute workingDir dir = absolute workingDir home

def lookup (entries : List ManagedEntry) (p : LiveProc) : Option ManagedEntry :=
  if entries.any fun e => e.pid = some p.pid then entries.find? fun e => e.pid = some p.pid
  else match p.cwd with
    | none => none
    | some cwd => entries.find? fun e => cwd.isPrefixOf e.cwd

/-- The key of the sort: the tables of the daemon named in the environ come first. -/
def homeRank (workingDir : Option Path) (p : LiveProc) (t : RegistryTable) : ℕ :=
  match p.environOxmgrHome with
  | some home => if matchesHome workingDir t.dir home then 0 else 1
  | none => 0

def consulted (workingDir : Option Path) (registries : List RegistryTable) (p : LiveProc) :
    List RegistryTable :=
  byRank (homeRank workingDir p) [0, 1] registries

def route (workingDir : Option Path) (registries : List RegistryTable) (p : LiveProc) :
    Option (RegistryTable × ManagedEntry) :=
  (consulted workingDir registries p).findSome? fun t => (lookup t.entries p).map (t, ·)

def stepOf (p : LiveProc) : Option (RegistryTable × ManagedEntry) → ReapStep
  | some (t, e) => .viaDaemon t.dir e.name p.pid
  | none => .directKill p.pid .noRegistry

def reapPlan (workingDir : Option Path) (procs : List LiveProc) (registries : List RegistryTable) :
    List ReapStep :=
  procs.map fun p => stepOf p (route workingDir registries p)

end MediaServo.Server
