import MediaServo.Weaknet.Spec

/-! Scenario plans: the grammar of a scenario document, and the dry run that a plan has to pass. -/

namespace MediaServo.Weaknet

open MediaServo.Foundations

/-- A document of the crate `serde_yaml`; an integer is one of `i64` or `u64`. -/
inductive Yaml
  | null
  | bool (b : Bool)
  | int (i : ℤ)
  | float (f : Binary64) (h : f.IsDouble)
  | str (s : String)
  | seq (items : List Yaml)
  | map (entries : List (Yaml × Yaml))
  | tagged (tag : String) (v : Yaml)

abbrev Mapping := List (Yaml × Yaml)

namespace Yaml

def untag : Yaml → Yaml
  | .tagged _ v => v.untag
  | v => v

def asStr (v : Yaml) : Option String :=
  match v.untag with
  | .str s => some s
  | _ => none

def asMapping (v : Yaml) : Option Mapping :=
  match v.untag with
  | .map m => some m
  | _ => none

def asSequence (v : Yaml) : Option (List Yaml) :=
  match v.untag with
  | .seq l => some l
  | _ => none

def isKey (k : String) : Yaml → Bool
  | .str s => s == k
  | _ => false

def asNum : Yaml → Option Binary64
  | .int i => some (Binary64.ofInt i)
  | .float f _ => some f
  | _ => none

def asInt : Yaml → Option ℤ
  | .int i => some (min i (2 ^ 63 - 1))
  | _ => none

end Yaml

def Mapping.get (m : Mapping) (k : String) : Option Yaml := (m.find? (fun e => e.1.isKey k)).map Prod.snd

inductive PlanLine
  | step (atDisp : String) (atSecs : ℕ) (flags : String) (ov : StepOverride)
  | «repeat» (rounds onS offS : ℕ) (onFlags offFlags : String) (onOv offOv : StepOverride)
  deriving DecidableEq

structure ScenarioPlan where
  baselineS : ℕ
  lines : List PlanLine
  totalS : ℕ
  clear : Bool
  deriving DecidableEq

section Parse

-- the texts of the standard library for a float, and for a value that is no scalar
variable (fmt : FloatText) (debug : Yaml → String)

def pyStr : Yaml → String
  | .null => "None"
  | .bool b => if b then "True" else "False"
  | .int i => toString i
  | .float f _ => if f.isIntegral then fmt.oneDigit f else fmt.display f
  | .str s => s
  | v => debug v

def legal : List String :=
  ["at_s", "clear", "gemodel", "jitter_ms", "loss", "rate_mbps", "reorder_pct", "repeat", "rtt_ms",
    "scenario", "scope", "seed", "set", "steps"]

/-- Digits, once points are left out and `%` at the end. -/
def lossShape (s : String) : Bool :=
  let core := ((s.toList.filter (· ≠ '.')).reverse.dropWhile (· = '%')).reverse
  !core.isEmpty && digits core

def unknownKey (p : Mapping) : Option String :=
  (p.map (fun e => (e.1.asStr).getD "")).find? (fun k => !legal.contains k)

def nonNegative (v : Yaml) : Bool := (v.asNum.map (fun n => Binary64.le (.finite 0) n)).getD false

def positive (v : Yaml) : Bool := (v.asNum.map (fun n => Binary64.lt (.finite 0) n)).getD false

def checkParams (p : Mapping) (ctx : String) : Except String Unit :=
  match unknownKey p with
  | some k => .error (ctx ++ ": unknown keys [" ++ k ++ "] (whitelist " ++ Lines.debugList legal ++ ")")
  | none =>
      match (p.get "loss").map (pyStr fmt debug) |>.filter (fun s => !lossShape s) with
      | some s => .error (ctx ++ ": loss must be a number/percentage, got " ++ Lines.debugString s)
      | none =>
          match ["rtt_ms", "jitter_ms", "reorder_pct", "seed"].find?
              (fun k => (p.get k).any (fun v => !nonNegative v)) with
          | some k => .error (ctx ++ ": " ++ k ++ " must be a non-negative number")
          | none =>
              if (p.get "rate_mbps").any (fun v => !positive v) then
                .error (ctx ++ ": rate_mbps must be positive")
              else .ok ()

def flagOf : String → Option String
  | "rtt_ms" => some "--rtt"
  | "jitter_ms" => some "--jitter"
  | "rate_mbps" => some "--rate"
  | "reorder_pct" => some "--reorder"
  | "seed" => some "--seed"
  | _ => none

/-- The three values of a `gemodel` dictionary. -/
def gemodelTrio (v : Yaml) : Option (String × String × String) := do
  let m ← v.asMapping
  let r ← Mapping.get m "r"
  let h ← Mapping.get m "h"
  let k ← Mapping.get m "k"
  pure (pyStr fmt debug r, pyStr fmt debug h, pyStr fmt debug k)

def gemodelError (v : Yaml) : String := "gemodel needs dict\x7br,h,k\x7d: " ++ pyStr fmt debug v

def flagWords (ctx : String) (e : Yaml × Yaml) : Except String (List String) :=
  match e.1.asStr with
  | none => .ok []
  | some k =>
      match flagOf k with
      | some fl => .ok [fl, pyStr fmt debug e.2]
      | none =>
          if k = "loss" then .ok ["--loss", pyStr fmt debug e.2]
          else if k = "gemodel" then
            match gemodelTrio fmt debug e.2 with
            | none => .error (ctx ++ ": " ++ gemodelError fmt debug e.2)
            | some (r, h, k) => .ok ["--gemodel", r, h, k]
          else .ok []

def flagsFrom (p : Mapping) (ctx : String) : Except String String := do
  let words ← p.mapM (flagWords fmt debug ctx)
  pure (" ".intercalate words.flatten)

def intSlot (p : Mapping) (k : String) : Except String (Option ℕ) :=
  match p.get k with
  | none => .ok none
  | some v =>
      match v.asInt with
      | some i =>
          if 0 ≤ i then .ok (some i.toNat)
          else .error (k ++ " must be an integer (bash flag domain), got " ++ pyStr fmt debug v)
      | none => .error (k ++ " must be an integer (bash flag domain), got " ++ pyStr fmt debug v)

def overrideFrom (p : Mapping) : Except String StepOverride := do
  let rtt ← intSlot fmt debug p "rtt_ms"
  let jitter ← intSlot fmt debug p "jitter_ms"
  let seed ← intSlot fmt debug p "seed"
  let reorder ← intSlot fmt debug p "reorder_pct"
  let gemodel ← match p.get "gemodel" with
    | none => .ok none
    | some g =>
        match gemodelTrio fmt debug g with
        | none => .error (gemodelError fmt debug g)
        | some t => .ok (some t)
  pure { rttMs := rtt, jitterMs := jitter, loss := (p.get "loss").map (pyStr fmt debug)
         gemodel := gemodel, rateMbps := (p.get "rate_mbps").bind Yaml.asNum
         reorderPct := reorder.map toString, seed := seed }

/-- The `set` of a step or of a repeat; nothing is an empty one. -/
def setMap (m : Mapping) (err : String) : Except String Mapping :=
  match (m.get "set").getD .null with
  | .null => .ok []
  | .map p => .ok p
  | _ => .error err

/-- What the loop over the steps carries: the lines so far, the last `at_s` and the total. -/
structure Planning where
  lines : List PlanLine
  prev : Binary64
  total : Binary64

def parseStep (acc : Planning) (i : ℕ) (st : Yaml) : Except String Planning := do
  let ctx := "step" ++ toString i
  match st.asMapping with
  | none => .error (ctx ++ ": must be a mapping")
  | some m =>
      let atS := (Mapping.get m "at_s").getD .null
      match atS.asNum with
      | none => .error (ctx ++ ": at_s must be a non-negative number")
      | some atf =>
          if atf.lt (.finite 0) then .error (ctx ++ ": at_s must be a non-negative number")
          else if atf.le acc.prev then
            .error (ctx ++ ": at_s must be strictly increasing (" ++ fmt.display atf ++ " <= " ++
              fmt.display acc.prev ++ ")")
          else do
            let set ← setMap m (ctx ++ ": set must be a mapping")
            checkParams fmt debug set ctx
            let flags ← flagsFrom fmt debug set ctx
            let ov ← overrideFrom fmt debug set
            pure ⟨acc.lines ++ [.step (pyStr fmt debug atS) atf.toU64 flags ov], atf,
              acc.total.max (atf.addRat 15)⟩

def parseSteps : Planning → ℕ → List Yaml → Except String Planning
  | acc, _, [] => .ok acc
  | acc, i, st :: rest => do
      let next ← parseStep fmt debug acc i st
      parseSteps next (i + 1) rest

/-- The low 64 bits of a number as an `i64`, which is what arithmetic on `i64` leaves. -/
def wrapI64 (i : ℤ) : ℤ := (i + 2 ^ 63) % 2 ^ 64 - 2 ^ 63

def offOverride : StepOverride :=
  { StepOverride.empty with rttMs := some 0, jitterMs := some 0, loss := some "0%" }

def repeatError : String := "repeat needs rounds>0 and on_s/off_s>=5"

def repeatNumber (m : Mapping) (k : String) : Option ℤ := ((m.get k).getD (.int 0)).asInt

def parseRepeat (acc : Planning) (m : Mapping) : Except String Planning :=
  match repeatNumber m "rounds", repeatNumber m "on_s", repeatNumber m "off_s" with
  | some r, some onS, some offS =>
      if r ≤ 0 ∨ onS < 5 ∨ offS < 5 then .error repeatError
      else do
        let set ← setMap m "repeat.set must be a mapping"
        checkParams fmt debug set "repeat.set"
        let onFlags ← flagsFrom fmt debug set "repeat.set"
        let onOv ← overrideFrom fmt debug set
        pure ⟨acc.lines ++ [.repeat r.toNat onS.toNat offS.toNat onFlags
            "--rtt 0 --jitter 0 --loss 0%" onOv offOverride], acc.prev,
          (acc.total.max acc.prev).max (Binary64.ofInt (wrapI64 (r * wrapI64 (onS + offS))))⟩
  | _, _, _ => .error repeatError

def truthy : Option Yaml → Bool
  | none => true
  | some .null => false
  | some (.bool b) => b
  | some (.int i) => i ≠ 0
  | some (.float f _) => f ≠ .finite 0
  | some (.str s) => !s.isEmpty
  | some _ => true

def parsePlanDoc (doc : Yaml) : Except String ScenarioPlan := do
  let root := doc.asMapping.getD []
  match ((Mapping.get root "scenario").getD doc).asMapping with
  | none => .error "scenario must be a mapping"
  | some sc =>
      let steps := ((Mapping.get sc "steps").bind Yaml.asSequence).getD []
      let rep := ((Mapping.get sc "repeat").bind Yaml.asMapping).getD []
      if steps.isEmpty ∧ rep.isEmpty then .error "scenario needs at least steps or repeat"
      else do
        let stepped ← parseSteps fmt debug ⟨[], .finite (-1), .finite 0⟩ 0 steps
        let planned ← if rep.isEmpty then .ok stepped else parseRepeat fmt debug stepped rep
        let total := (planned.total.max (.finite 0)).toU64
        let baseline := ((Mapping.get sc "baseline_s").bind Yaml.asNum).map
          (fun n => (n.max (.finite 0)).toU64)
        pure ⟨baseline.getD total, planned.lines, total, truthy (Mapping.get sc "clear")⟩

end Parse

section DryRun

variable (fmt : FloatText)

def firstOverride (plan : ScenarioPlan) : Option StepOverride :=
  plan.lines.head?.map fun
    | .step _ _ _ ov => ov
    | .repeat _ _ _ _ _ onOv _ => onOv

def dryOverrides : PlanLine → List StepOverride
  | .step _ _ _ ov => [ov]
  | .repeat _ _ _ _ _ onOv offOv => [onOv, offOv]

def mergeAll (base : ImpairSpec) (ovs : List StepOverride) : Except String ImpairSpec :=
  ovs.foldlM (mergeStep fmt) base

def validateFullPlan (plan : ScenarioPlan) : Except String ImpairSpec :=
  match firstOverride plan with
  | none => .error "scenario has no first-step params"
  | some ov => do
      let cur ← mergeStep fmt .default ov
      mergeAll fmt cur (plan.lines.flatMap dryOverrides)

end DryRun

end MediaServo.Weaknet
