import MediaServo.Foundations.Digits
import MediaServo.Weaknet.Drive

/-! The timeline of a run, as `drive` and `replay` write it, with its time stamps, and what the judge
reads from it: the moment of recovery, and the windows over which `judge_core` averages the probes. -/

namespace MediaServo.Weaknet

open MediaServo.Foundations.Digits (zeroPad zeroPadInt)

inductive Ev
  | apply
  | set
  | clear
  | scenarioStart
  | baselineDone
  | scenarioStep
  | repeatRound
  | scenarioEnd
  deriving DecidableEq

/-- A line of the timeline: its name, what `ts` makes of its `t_utc`, in seconds, and its `after`. -/
structure Event where
  ev : Ev
  stamp : Except String ℕ
  after : Option String

def zeroed (after : String) : Bool :=
  "rtt=0ms".toList.isPrefixOf after.toList && strContains after "loss=0%"

/-- The `set` events with their times. -/
def collectSets (tl : List Event) : Except String (List (ℕ × Option String)) :=
  (tl.filter (·.ev = .set)).mapM fun e => do
    let t ← e.stamp
    pure (t, e.after)

def lastAfter (sets : List (ℕ × Option String)) (t : ℕ) : String :=
  ((sets.reverse.find? fun s => s.1 ≤ t && s.2.isSome).bind Prod.snd).getD ""

def firstZeroed (sets : List (ℕ × Option String)) : List Event → Except String (Option ℕ)
  | [] => .ok none
  | e :: rest =>
      if e.ev ≠ .scenarioStep then firstZeroed sets rest
      else do
        let t ← e.stamp
        if zeroed (lastAfter sets t) then .ok (some t) else firstZeroed sets rest

def recoveryFrom (tl : List Event) : Except String (Option ℕ) := do
  let sets ← collectSets tl
  firstZeroed sets tl

/-- How long the parts of a phase take, in milliseconds: until it begins, until its commands are
run, and from its `set` event to its note. -/
structure Delay where
  wait : ℕ
  install : ℕ
  note : ℕ

/-- `verify_measure_form` looks at the counters a second apart before the event is written. -/
def verifyMs : ℕ := 1000

/-- A phase that is done, with the seconds that its two events are stamped with. -/
structure Stamped where
  phase : Phase
  spec : ImpairSpec
  setAt : ℕ
  noteAt : ℕ

def stampPhases (delay : ℕ → Delay) : ℕ → ℕ → List (Phase × ImpairSpec) → List Stamped
  | _, _, [] => []
  | k, now, (p, s) :: rest =>
      let setMs := now + (delay k).wait + (delay k).install + verifyMs
      let noteMs := setMs + (delay k).note
      ⟨p, s, setMs / 1000, noteMs / 1000⟩ :: stampPhases delay (k + 1) noteMs rest

def noteEv : PhaseKind → Ev
  | .step => .scenarioStep
  | .on | .off => .repeatRound

def Stamped.events (fmt : FloatText) (x : Stamped) : List Event :=
  [⟨.set, .ok x.setAt, some (paramSummary fmt x.spec)⟩, ⟨noteEv x.phase.kind, .ok x.noteAt, none⟩]

structure Frame where
  applied : ℕ
  started : ℕ
  baselineDone : ℕ
  ended : ℕ
  cleared : ℕ

def timeline (fmt : FloatText) (frame : Frame) (window keep : Bool) (done : List Stamped) :
    List Event :=
  [⟨.apply, .ok frame.applied, none⟩, ⟨.scenarioStart, .ok frame.started, none⟩] ++
    (if window then [⟨.baselineDone, .ok frame.baselineDone, none⟩] else []) ++
    done.flatMap (Stamped.events fmt) ++ [⟨.scenarioEnd, .ok frame.ended, none⟩] ++
    (if keep then [] else [⟨.clear, .ok frame.cleared, none⟩])

/-- What the first walk over the timeline keeps: the times of the first start and of the first end
of the baseline, the first `scenario-end`, and the steps. -/
structure Marks where
  start : Option ℕ
  baseDone : Option ℕ
  endEv : Option Event
  steps : List Event

def readEvent (m : Marks) (e : Event) : Except String Marks :=
  match e.ev with
  | .scenarioStart =>
      if m.start.isNone then do
        let t ← e.stamp
        pure { m with start := some t }
      else pure m
  | .baselineDone =>
      if m.baseDone.isNone then do
        let t ← e.stamp
        pure { m with baseDone := some t }
      else pure m
  | .scenarioStep => pure { m with steps := m.steps ++ [e] }
  | .scenarioEnd => pure (if m.endEv.isNone then { m with endEv := some e } else m)
  | _ => pure m

/-- The end of the run: its event, else the last step, else the end of the baseline. -/
def endOf (m : Marks) (baseDone : ℕ) : Except String ℕ :=
  match m.endEv with
  | some e => e.stamp
  | none =>
      match m.steps.getLast? with
      | some last => last.stamp
      | none => pure baseDone

def moveFault (baseDone : ℕ) (recovery : Option ℕ) (faultEnd t : ℕ) : ℕ :=
  if recovery = some t then min (max faultEnd baseDone) t else max faultEnd t

/-- The windows handed to `window_avg`: each is the times from the first number up to the second.
Where there is none, nothing is averaged. -/
structure Windows where
  base : ℕ × ℕ
  fault : Option (ℕ × ℕ)
  recovery : Option (ℕ × ℕ)
  deriving DecidableEq

def judgeWindows (tl : List Event) : Except String Windows := do
  let m ← tl.foldlM readEvent ⟨none, none, none, []⟩
  match m.start with
  | none => throw "timeline has no scenario-start"
  | some start =>
      let baseDone := m.baseDone.getD (start + 10)
      let ends ← endOf m baseDone
      let recovery ← recoveryFrom tl
      let times ← m.steps.mapM Event.stamp
      let faultEnd := times.foldl (moveFault baseDone recovery) baseDone
      let recoveryFrom := recovery.getD ends
      pure {
        base := (start, baseDone)
        fault :=
          if baseDone < faultEnd then
            some (max faultEnd baseDone, if faultEnd < recoveryFrom then recoveryFrom else ends)
          else none
        recovery := if recoveryFrom < ends then some (recoveryFrom, ends + 1) else none }


/-- The year, month and day of a number of days since 1970-01-01. The divisions in unsigned types
round down, the one that gives the era towards zero. -/
def civilFromDays (z : ℤ) : ℤ × ℕ × ℕ :=
  let z := z + 719468
  let era := (if 0 ≤ z then z else z - 146096).tdiv 146097
  let doe := (z - era * 146097).toNat
  let yoe := (doe - doe / 1460 + doe / 36524 - doe / 146096) / 365
  let y := (yoe : ℤ) + era * 400
  let doy := doe - (365 * yoe + yoe / 4 - yoe / 100)
  let mp := (5 * doy + 2) / 153
  let d := doy - (153 * mp + 2) / 5 + 1
  let m := if mp < 10 then mp + 3 else mp - 9
  (if m ≤ 2 then y + 1 else y, m, d)

def utcText (y : ℤ) (m d tod : ℕ) : List Char :=
  zeroPadInt 4 y ++ '-' :: (zeroPad 2 m ++ '-' :: (zeroPad 2 d ++ 'T' ::
    (zeroPad 2 (tod / 3600) ++ ':' :: (zeroPad 2 (tod % 3600 / 60) ++ ':' ::
      (zeroPad 2 (tod % 60) ++ ['Z'])))))

def formatUtcSecs (epoch : ℕ) : String :=
  let (y, m, d) := civilFromDays (epoch / 86400 : ℕ)
  .ofList (utcText y m d (epoch % 86400))

end MediaServo.Weaknet
