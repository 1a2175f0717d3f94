import MediaServo.Foundations.Lines

/-! What a connection of the panel is told of the timeline, while others append to it. -/

namespace MediaServo.Weaknet.Tail

open MediaServo.Foundations
open Lines (Text lines)

def maxEvLines : ℕ := 50

/-- `tail_ev`, with what is read of the timeline, and the cursor after it. A line that does not parse
is passed over. -/
def tailEv {V : Type} (parse : Text → Option V) (raw : Option Text) (cursor : ℕ) :
    Option (List V) × ℕ :=
  match raw with
  | none => (none, cursor)
  | some raw =>
    let ls := lines raw
    if ls.length ≤ cursor then (none, cursor)
    else
      let new := (ls.drop (min cursor ls.length)).filterMap parse
      let new := if maxEvLines < new.length then new.drop (new.length - maxEvLines) else new
      (if new.isEmpty then none else some new, ls.length)

/-- `FrameState::open`. -/
def openCursor (raw : Option Text) : ℕ :=
  match raw with
  | none => 0
  | some raw => (lines raw).length

/-- What `timeline_append` makes of an object. -/
structure EventLine where
  text : Text
  solid : text ≠ []
  single : '\n' ∉ text
  ended : text.getLast? ≠ some '\r'
  deriving DecidableEq

structure Panel (V : Type) where
  file : Text
  cursor : ℕ
  sent : List (List V)

/-- `writeln!` puts the line and its break there by two writes. No lock is taken: the watchdog, a
scenario and a command may append at once, and a frame may be built between any two writes. Of a
frame that fails the connection is left with a new cursor. -/
inductive TailAct
  | write (l : EventLine)
  | newline
  | tick (readable : Bool)
  | reopen (readable : Bool)

def Panel.read {V : Type} (p : Panel V) (readable : Bool) : Option Text :=
  if readable then some p.file else none

def Panel.step {V : Type} (parse : Text → Option V) (p : Panel V) : TailAct → Panel V
  | .write l => { p with file := p.file ++ l.text }
  | .newline => { p with file := p.file ++ ['\n'] }
  | .tick readable =>
      let (ev, cursor) := tailEv parse (p.read readable) p.cursor
      { p with cursor := cursor, sent := p.sent ++ ev.toList }
  | .reopen readable => { p with cursor := openCursor (p.read readable) }

def timeline (acts : List TailAct) : Text :=
  acts.flatMap fun
    | .write l => l.text
    | .newline => ['\n']
    | _ => []

def Panel.start {V : Type} (file : Text) : Panel V := ⟨file, openCursor (some file), []⟩

def Panel.fresh {V : Type} (parse : Text → Option V) (p : Panel V) : List V :=
  ((lines p.file).drop p.cursor).filterMap parse

def Panel.told {V : Type} (parse : Text → Option V) (p : Panel V) : List V :=
  p.sent.flatten ++ p.fresh parse

def appended (acts : List TailAct) : List EventLine :=
  acts.filterMap fun
    | .write l => some l
    | _ => none

end MediaServo.Weaknet.Tail
