import MediaServo.Foundations.FiniteMap
import MediaServo.Foundations.Runs

/-! `acquire_write_lock`, `holder_alive` and the drop of a `WriteLock`, one system call at a time, by
any number of callers in processes that come up and die. The path `lock` is a link to an inode, and
who has opened the inode keeps it when the link is gone. -/

namespace MediaServo.Weaknet

open MediaServo.Foundations

structure LockOwner where
  pid : ℕ
  starttime : ℕ
  deriving DecidableEq

/-- The next system call of a caller: `stamp` and `fill` are the read of its own start time and the
`writeln!`, `check` and `read` the open and the read of `read_to_string`, and `judge` the look at the
owner in `/proc`. A caller that is `held` has its guard, and drops it next. -/
inductive LockStage
  | create (attempt : ℕ)
  | stamp (file : ℕ)
  | fill (file starttime : ℕ)
  | held (file : ℕ)
  | check (attempt : ℕ)
  | read (attempt file : ℕ)
  | judge (attempt file : ℕ) (owner : LockOwner)
  | reap (attempt file : ℕ)
  deriving DecidableEq

def LockStage.holds : LockStage → Option ℕ
  | .stamp f | .fill f _ | .held f => some f
  | _ => none

structure LockCaller where
  pid : ℕ
  stage : LockStage
  deriving DecidableEq

/-- `owners` is what the inodes hold, with nothing for an inode that has no owner in it. -/
structure LockDir where
  path : Option ℕ
  owners : FiniteMap ℕ LockOwner
  procs : FiniteMap ℕ ℕ
  callers : FiniteMap ℕ LockCaller
  next : ℕ

namespace LockDir

def empty : LockDir := ⟨none, ∅, ∅, ∅, 0⟩

def go (s : LockDir) (i pid : ℕ) (stage : LockStage) : LockDir :=
  { s with callers := s.callers.set i ⟨pid, stage⟩ }

def quit (s : LockDir) (i : ℕ) : LockDir := { s with callers := s.callers.remove i }

def create (s : LockDir) : LockDir := { s with path := some s.next, next := s.next + 1 }

def write (s : LockDir) (file : ℕ) (owner : LockOwner) : LockDir :=
  { s with owners := s.owners.set file owner }

def unlink (s : LockDir) : LockDir := { s with path := none }

/-- The call of a caller, where `ok` is whether the system answers it. -/
def act (s : LockDir) (i pid : ℕ) (ok : Bool) : LockStage → LockDir
  | .create attempt =>
      if ok then
        match s.path with
        | none => s.create.go i pid (.stamp s.next)
        | some _ => s.go i pid (.check attempt)
      else s.quit i
  -- read_proc_starttime(pid).unwrap_or(0)
  | .stamp f => s.go i pid (.fill f (if ok then (s.procs.get pid).getD 0 else 0))
  -- a write that fails is logged, and the caller has the lock
  | .fill f starttime => (if ok then s.write f ⟨pid, starttime⟩ else s).go i pid (.held f)
  | .held _ => (if ok then s.unlink else s).quit i
  | .check attempt =>
      match s.path with
      | some f => if ok then s.go i pid (.read attempt f) else s.quit i
      | none => s.quit i
  | .read attempt f =>
      match s.owners.get f with
      | some owner => if ok then s.go i pid (.judge attempt f owner) else s.quit i
      -- no owner in it counts as held
      | none => s.quit i
  -- a start time that cannot be read counts as dead
  | .judge attempt f owner =>
      if ok ∧ s.procs.get owner.pid = some owner.starttime then s.quit i
      else s.go i pid (.reap attempt f)
  | .reap attempt _ =>
      if ok ∧ s.path.isSome then
        if attempt = 1 then s.unlink.quit i else s.unlink.go i pid (.create (attempt + 1))
      else s.quit i

end LockDir

/-- `boot` is a process that comes up under a free process id, and `acquire` a call of
`acquire_write_lock`. -/
inductive LockEvent
  | boot (pid starttime : ℕ)
  | die (pid : ℕ)
  | acquire (pid : ℕ)
  | act (i : ℕ) (ok : Bool)
  deriving DecidableEq

def LockDir.step (s : LockDir) : LockEvent → LockDir
  | .boot pid starttime =>
      match s.procs.get pid with
      | none => { s with procs := s.procs.set pid starttime }
      | some _ => s
  | .die pid =>
      { s with
        procs := s.procs.remove pid
        callers := s.callers.retain fun _ c => c.pid ≠ pid }
  | .acquire pid =>
      match s.procs.get pid with
      | some _ => { s with
          callers := s.callers.set s.next ⟨pid, .create 0⟩
          next := s.next + 1 }
      | none => s
  | .act i ok =>
      match s.callers.get i with
      | some c => s.act i c.pid ok c.stage
      | none => s

end MediaServo.Weaknet
