import MediaServo.Weaknet.Scenario

/-! The run of a scenario: the fuse that is set for it, the phases that `drive` goes through on its
schedule, and the specification that each of them puts in force. -/

namespace MediaServo.Weaknet

def recoveryDwellSecs : ℕ := 25

def coveringMarginSecs : ℕ := 90

/-- What `start_blocking` arms the fuse with, in the arithmetic of `u64`. -/
def covering (plan : ScenarioPlan) : ℕ :=
  (plan.baselineS + plan.totalS + coveringMarginSecs) % 2 ^ 64

/-- The time at which an apply expires, in milliseconds, in the arithmetic of `u64`. -/
def expiresAtMs (nowMs durationSecs : ℕ) : ℕ :=
  (nowMs + durationSecs * 1000 % 2 ^ 64) % 2 ^ 64

inductive PhaseKind
  | step
  | on
  | off
  deriving DecidableEq

/-- A call of `step_sync`: its override, and its second after the baseline window. -/
structure Phase where
  kind : PhaseKind
  ov : StepOverride
  second : ℕ
  deriving DecidableEq

def roundPhases (onS offS : ℕ) (onOv offOv : StepOverride) : ℕ → ℕ → List Phase
  | 0, _ => []
  | rounds + 1, now =>
      ⟨.on, onOv, now⟩ :: ⟨.off, offOv, now + onS⟩ ::
        roundPhases onS offS onOv offOv rounds (now + onS + offS)

/-- The phases of a line that begins at a second, and the second at which it is over. -/
def linePhases (now : ℕ) : PlanLine → List Phase × ℕ
  | .step _ atSecs _ ov => ([⟨.step, ov, max now atSecs⟩], max now atSecs)
  | .repeat rounds onS offS _ _ onOv offOv =>
      (roundPhases onS offS onOv offOv rounds now, now + rounds * (onS + offS))

def phasesFrom : ℕ → List PlanLine → List Phase × ℕ
  | now, [] => ([], now)
  | now, l :: rest =>
      let this := linePhases now l
      let later := phasesFrom this.2 rest
      (this.1 ++ later.1, later.2)

def phases (plan : ScenarioPlan) : List Phase := (phasesFrom 0 plan.lines).1

def isInfix (p : List Char) (l : List Char) : Bool := l.tails.any (p.isPrefixOf ·)

def strContains (s p : String) : Bool := isInfix p.toList s.toList

/-- A step whose flags put the delay back to zero asks for the dwell at the end. -/
def dwells (plan : ScenarioPlan) : Bool :=
  plan.lines.any fun
    | .step _ _ flags _ => strContains flags "--rtt 0"
    | .repeat .. => false

def dwellSecs (plan : ScenarioPlan) : ℕ := if dwells plan then recoveryDwellSecs else 0

/-- The second, from the start of the scenario, at which `drive` has performed its last action. -/
def lastAction (plan : ScenarioPlan) (noBaseline : Bool) : ℕ :=
  (if noBaseline then 0 else plan.baselineS) + (phasesFrom 0 plan.lines).2 + dwellSecs plan

def baselineWindow (plan : ScenarioPlan) (noBaseline : Bool) : Bool :=
  !noBaseline && decide (0 < plan.baselineS)

/-- What the world does to a phase: `cancel` covers the stop flag and a job that is not ours. -/
inductive Verdict
  | proceed
  | cancel
  | lockBusy
  | execFail (message : String)
  deriving DecidableEq

inductive Abort
  | user
  | lockBusy
  | merge (message : String)
  | exec (message : String)
  deriving DecidableEq

/-- The loop of `drive`: the specification it chains on, and what each finished phase installed. -/
structure Driving where
  cur : ImpairSpec
  trace : List (Phase × ImpairSpec)
  aborted : Option Abort
  deriving DecidableEq

section Run

variable (fmt : FloatText)

def drivePhase (d : Driving) (pv : Phase × Verdict) : Driving :=
  match d.aborted, pv.2 with
  | some _, _ => d
  | none, .cancel => { d with aborted := some .user }
  | none, .lockBusy => { d with aborted := some .lockBusy }
  | none, v =>
      match mergeStep fmt d.cur pv.1.ov with
      | .error e => { d with aborted := some (.merge e) }
      | .ok merged =>
          match v with
          | .execFail m => { d with aborted := some (.exec m) }
          | _ => { d with cur := merged, trace := d.trace ++ [(pv.1, merged)] }

/-- `start_blocking` installs the first override over the default, and `drive` chains on that. -/
def startSpec (plan : ScenarioPlan) : Except String ImpairSpec :=
  match firstOverride plan with
  | none => .error "scenario has no first-step params"
  | some ov => mergeStep fmt .default ov

def drive (start : ImpairSpec) (plan : ScenarioPlan) (world : List Verdict) : Driving :=
  ((phases plan).zip world).foldl (drivePhase fmt) ⟨start, [], none⟩

def uninterrupted (start : ImpairSpec) (plan : ScenarioPlan) : Driving :=
  drive fmt start plan ((phases plan).map fun _ => .proceed)

end Run

end MediaServo.Weaknet
