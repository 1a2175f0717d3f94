import MediaServo.Foundations.FiniteMap
import MediaServo.Foundations.Runs

/-! What weaknet puts into the kernel and what its state file remembers of it: `replay`, `clear` and
the cross-check at the start of `serve`, one command after the other, with any of their `tc` and `ip`
steps failing. The clear stands for the watchdog's and the self-heal too, which run the same plan. -/

namespace MediaServo.Weaknet.Teardown

open MediaServo.Foundations

def ifbDev : String := "ifb0"

inductive RootKind
  | htb
  | netem
  | other
  deriving DecidableEq

/-- `ours` is whether weaknet has put the qdisc there, or a class, a leaf or a filter on it. -/
structure Root where
  kind : RootKind
  ours : Bool
  deriving DecidableEq

/-- What there is beside the default qdiscs: the root and the ingress qdisc of each device, and the
link of `ifb0`, each with whether it is weaknet's. -/
structure Kernel where
  roots : FiniteMap String Root
  ingress : FiniteMap String Bool
  link : Option Bool

inductive Obj
  | root (dev : String)
  | ingress (dev : String)
  | link
  deriving DecidableEq

def Kernel.has (k : Kernel) : Obj → Bool
  | .root dev => (k.roots.get dev).any Root.ours
  | .ingress dev => k.ingress.get dev = some true
  | .link => k.link = some true

/-- A kernel before the first command. There is no qdisc on a link that is not there. -/
def Kernel.foreign (roots : FiniteMap String RootKind) (ingress : FiniteMap String Unit)
    (link : Bool) : Kernel where
  roots := (if link then roots else roots.remove ifbDev).mapValues fun _ kind => ⟨kind, false⟩
  ingress := (if link then ingress else ingress.remove ifbDev).mapValues fun _ _ => false
  link := if link then some false else none

/-- A step: `hang` changes or adds a class, the leaf or a filter at the root, `ifbChange` and `ifbAdd`
the netem of `ifb0`, and `mirred` a filter at the ingress. -/
inductive Op
  | rootDel (dev : String)
  | rootAdd (dev : String)
  | hang (dev : String)
  | flush (dev : String)
  | linkAdd
  | linkUp
  | linkDel
  | ifbChange
  | ifbAdd
  | ingressAdd (dev : String)
  | ingressFlush (dev : String)
  | mirred (dev : String)
  | ingressDel (dev : String)
  deriving DecidableEq

def Op.exec (k : Kernel) : Op → Option Kernel
  | .rootDel dev =>
      match k.roots.get dev with
      | some _ => some { k with roots := k.roots.remove dev }
      | none => none
  | .rootAdd dev =>
      if (k.roots.get dev).isNone && (dev != ifbDev || k.link.isSome) then
        some { k with roots := k.roots.set dev ⟨.htb, true⟩ }
      else none
  | .hang dev =>
      match k.roots.get dev with
      | some r => some { k with roots := k.roots.set dev { r with ours := true } }
      | none => none
  | .flush dev => if (k.roots.get dev).isSome then some k else none
  | .linkAdd => if k.link.isNone then some { k with link := some true } else none
  | .linkUp => if k.link.isSome then some k else none
  | .linkDel =>
      if k.link.isSome then
        some ⟨k.roots.remove ifbDev, k.ingress.remove ifbDev, none⟩
      else none
  | .ifbChange =>
      match k.roots.get ifbDev with
      | some ⟨.netem, _⟩ => some { k with roots := k.roots.set ifbDev ⟨.netem, true⟩ }
      | _ => none
  | .ifbAdd =>
      if (k.roots.get ifbDev).isNone && k.link.isSome then
        some { k with roots := k.roots.set ifbDev ⟨.netem, true⟩ }
      else none
  | .ingressAdd dev =>
      if (k.ingress.get dev).isNone && (dev != ifbDev || k.link.isSome) then
        some { k with ingress := k.ingress.set dev true }
      else none
  | .ingressFlush dev => if (k.ingress.get dev).isSome then some k else none
  | .mirred dev =>
      if (k.ingress.get dev).isSome && k.link.isSome then
        some { k with ingress := k.ingress.set dev true }
      else none
  | .ingressDel dev =>
      match k.ingress.get dev with
      | some _ => some { k with ingress := k.ingress.remove dev }
      | none => none

def Op.attempt (k : Kernel) (ok : Bool) (op : Op) : Option Kernel := if ok then op.exec k else none

structure StepPlan where
  run : Op
  alt : Option Op
  bestEffort : Bool
  deriving DecidableEq

/-- `run_steps`. The list says which of the attempts fail for a reason of their own, and those behind
its end do not. -/
def runSteps (k : Kernel) (oks : List Bool) : List StepPlan → Kernel × Bool
  | [] => (k, true)
  | step :: steps =>
      match step.run.attempt k (oks.headD true) with
      | some k' => runSteps k' oks.tail steps
      | none =>
          match step.alt with
          | some alt =>
              match alt.attempt k (oks.tail.headD true) with
              | some k' => runSteps k' oks.tail.tail steps
              | none => if step.bestEffort then runSteps k oks.tail.tail steps else (k, false)
          | none => if step.bestEffort then runSteps k oks.tail steps else (k, false)

def tryAll (k : Kernel) (oks : List Bool) : List Op → Kernel
  | [] => k
  | op :: ops => tryAll ((op.attempt k (oks.headD true)).getD k) oks.tail ops

def planSkeleton (dev : String) (addRoot : Bool) (legs : ℕ) (sigPort : Bool) : List StepPlan :=
  (if addRoot then [⟨.rootDel dev, none, true⟩, ⟨.rootAdd dev, none, false⟩] else []) ++
    -- the class 1:99, the class 1:10 and the leaf
    List.replicate 3 ⟨.hang dev, some (.hang dev), false⟩ ++ [⟨.flush dev, none, true⟩] ++
    List.replicate legs ⟨.hang dev, none, false⟩ ++
    (if sigPort then [⟨.hang dev, none, false⟩] else [])

def planIfb (dev : String) (legs : ℕ) (needLink : Bool) : List StepPlan :=
  (if needLink then [⟨.linkAdd, none, false⟩] else []) ++
    [⟨.linkUp, none, false⟩, ⟨.ifbChange, some .ifbAdd, false⟩, ⟨.ingressAdd dev, none, true⟩,
      ⟨.ingressFlush dev, none, true⟩] ++
    List.replicate legs ⟨.mirred dev, none, false⟩

def planTeardown (iface : String) (ifbUsed ifbCreated : Bool) : List Op :=
  (if ifbUsed then [.ingressDel iface, .rootDel ifbDev] else []) ++
    (if ifbCreated then [.linkDel] else []) ++ [.rootDel iface]

/-- The part of `state.json` that the teardown depends on. -/
structure State where
  iface : String
  ifbUsed : Bool
  createdIfb : Bool
  steps : List Op
  deriving DecidableEq

structure Site where
  state : Option State
  kernel : Kernel

inductive Dir
  | inbound
  | outbound
  | both
  deriving DecidableEq

/-- `ports` is how many ports or pairs the request is about, each with a leg for a direction. -/
structure ApplyRequest where
  iface : String
  dir : Dir
  ports : ℕ
  sigPort : Bool
  deriving DecidableEq

/-- What the system answers in a `replay`: whether the channel can be had and `tc` tells its version
and the qdiscs, how the probe for `ifb0` goes, what of the steps fails, whether the read-back gets an answer,
whether it and the verify are content, and whether the state can be written. -/
structure Outcome where
  channel : Bool
  sidecar : Bool
  moduleLoaded : Bool
  probeAdd : Bool
  probeUp : Bool
  probeDel : Bool
  gate : Bool
  closing : List Bool
  counters : Bool
  steps : List Bool
  shown : Bool
  verified : Bool
  rollback : List Bool
  written : Bool
  deriving DecidableEq

/-- `ifb_needed`, of which only `lo` is not a physical port. -/
def ApplyRequest.useIfb (req : ApplyRequest) : Bool := req.iface != "lo" && req.dir != .outbound

def ApplyRequest.legs (req : ApplyRequest) : Dir → ℕ
  | .both => 2 * req.ports
  | _ => req.ports

/-- The legs under the root: with the mirror in use, the ingress legs are not among them. -/
def ApplyRequest.rootLegs (req : ApplyRequest) : ℕ :=
  if !req.useIfb then req.legs req.dir
  else if req.dir = .both then req.legs .outbound
  else 0

/-- `ifb::probe` with `ifb_decision`: only the local channel tries to make a link, and takes it down
again. -/
def probe (k : Kernel) (o : Outcome) : Kernel × Bool :=
  if k.link.isSome then (k, true)
  else if o.sidecar then (k, o.moduleLoaded)
  else
    match Op.linkAdd.attempt k o.probeAdd with
    | none => (k, false)
    | some k' => ((Op.linkDel.attempt k' o.probeDel).getD k', o.probeUp)

/-- `guard_foreign_root`. -/
def rootAllowed (k : Kernel) (iface : String) (stateExists : Bool) : Bool :=
  match k.roots.get iface with
  | none => true
  | some ⟨.htb, _⟩ => stateExists
  | some _ => false

def rootIsHtb (k : Kernel) (iface : String) : Bool :=
  (k.roots.get iface).any fun r => r.kind = .htb

/-- `rollback_ifb`. -/
def rollbackIfb (dev : String) (createdIfb : Bool) : List Op :=
  [.ingressDel dev, .rootDel ifbDev] ++ if createdIfb then [.linkDel] else []

/-- `rollback_apply_failure`. -/
def rollbackSteps (dev : String) (useIfb createdIfb installSkeleton : Bool) : List Op :=
  (if installSkeleton then [.rootDel dev] else []) ++
    if useIfb then rollbackIfb dev createdIfb else []

namespace ApplyRequest

def installSkeleton (req : ApplyRequest) : Bool :=
  !req.useIfb || req.rootLegs != 0 || req.sigPort

def plan (req : ApplyRequest) (k : Kernel) (created : Bool) : List StepPlan :=
  (if req.installSkeleton then
    planSkeleton req.iface (!rootIsHtb k req.iface) req.rootLegs req.sigPort else []) ++
    if req.useIfb then planIfb req.iface (req.legs .inbound) created else []

/-- The state after a success. A set keeps what its predecessor has to take down of the mirror. -/
def newState (req : ApplyRequest) (prior : Option State) (created : Bool) : State :=
  let used := req.useIfb || prior.any State.ifbUsed
  let owned := created || prior.any State.createdIfb
  ⟨req.iface, used, owned, planTeardown req.iface used owned⟩

/-- `run_steps` to the end of `replay`, from a kernel in which the request may be carried out. A set is
not rolled back, nor is anything when the read-back gets no answer. -/
def mount (req : ApplyRequest) (s : Site) (prior : Option State) (o : Outcome) (created : Bool) :
    Site :=
  let r := runSteps s.kernel o.steps (req.plan s.kernel created)
  if !r.2 || o.shown && !o.verified then
    if prior.isSome then ⟨s.state, r.1⟩
    else
      ⟨s.state, tryAll r.1 o.rollback
        (rollbackSteps req.iface req.useIfb created req.installSkeleton)⟩
  else if o.shown && o.written then ⟨some (req.newState prior created), r.1⟩
  else ⟨s.state, r.1⟩

end ApplyRequest

def closeIngress (req : ApplyRequest) (prior : Option State) (k : Kernel) (oks : List Bool) : Kernel :=
  match prior with
  | some p => if p.ifbUsed && !req.useIfb then tryAll k oks (rollbackIfb p.iface false) else k
  | none => k

/-- `replay` up to its steps, and whether the link is among them when it gets there. -/
def prepare (s : Site) (req : ApplyRequest) (prior : Option State) (o : Outcome) :
    Site × Option Bool :=
  if req.ports = 0 || !o.channel then (s, none)
  else
    let p := probe s.kernel o
    if req.useIfb && !p.2 || !o.gate || !rootAllowed p.1 req.iface s.state.isSome then
      (⟨s.state, p.1⟩, none)
    else
      (⟨s.state, closeIngress req prior p.1 o.closing⟩,
        if prior.isSome && !o.counters then none else some (req.useIfb && p.1.link.isNone))

/-- `replay`, with a prior state in the mode `Set` and none in the mode `Apply`. -/
def replay (s : Site) (req : ApplyRequest) (prior : Option State) (o : Outcome) : Site :=
  match prepare s req prior o with
  | (s', some created) => req.mount s' prior o created
  | (s', none) => s'

/-- `read` is whether the state can be read and the channel be had. -/
structure ClearOutcome where
  read : Bool
  steps : List Bool
  removed : Bool
  deriving DecidableEq

def Site.clearSteps (s : Site) (dev : String) : List Op :=
  match s.state with
  | some st => st.steps
  | none => [.rootDel dev]

def clear (s : Site) (dev : String) (o : ClearOutcome) : Site :=
  if o.read then
    ⟨if o.removed then none else s.state, tryAll s.kernel o.steps (s.clearSteps dev)⟩
  else s

/-- `agrees` is whether the qdiscs that `tc` shows have the fingerprint of the state's spec. -/
structure CheckOutcome where
  readable : Bool
  agrees : Bool
  removed : Bool
  deriving DecidableEq

/-- `startup_cross_check` leaves the kernel as it is. -/
def startupCrossCheck (s : Site) (o : CheckOutcome) : Site :=
  if s.state.isSome && o.readable && !o.agrees && o.removed then { s with state := none } else s

inductive Command
  | apply (req : ApplyRequest) (o : Outcome)
  | set (req : ApplyRequest) (o : Outcome)
  | clear (dev : String) (o : ClearOutcome)
  | startup (o : CheckOutcome)
  deriving DecidableEq

def Site.step (s : Site) : Command → Site
  | .apply req o => replay s req none o
  | .set req o =>
      match s.state with
      | some prior => replay s req (some prior) o
      | none => s
  | .clear dev o => Teardown.clear s dev o
  | .startup o => startupCrossCheck s o

end MediaServo.Weaknet.Teardown
