import MediaServo.Foundations.Binary64
import MediaServo.Foundations.Lines

/-! The parameters of an impairment: their ranges, their summary in the timeline, and the merge of
the values that a step of a scenario sets. -/

namespace MediaServo.Weaknet

open MediaServo.Foundations

inductive Dir
  | out
  | in
  | both
  deriving DecidableEq

inductive LossSpec
  | simple (p : String)
  | geModel (loss r h k : String)
  deriving DecidableEq

structure ImpairSpec where
  rttMs : ℕ
  jitterMs : ℕ
  loss : Option LossSpec
  reorderPct : Option String
  rateMbps : Option Binary64
  seed : Option ℕ
  limit : ℕ
  dir : Dir
  deriving DecidableEq

def ImpairSpec.default : ImpairSpec := ⟨0, 0, none, none, none, none, 100000, .both⟩

/-- The texts that the standard library gives an `f64`: `{}` and `{:.1}`. -/
structure FloatText where
  display : Binary64 → String
  oneDigit : Binary64 → String

def digits (l : List Char) : Bool := l.all Char.isDigit

def stripPct (v : List Char) : List Char := if v.getLast? = some '%' then v.dropLast else v

/-- The parts before and after the first point, the second only if there is a point. -/
def splitPoint (l : List Char) : List Char × Option (List Char) :=
  (l.takeWhile (· ≠ '.'), if '.' ∈ l then some ((l.dropWhile (· ≠ '.')).drop 1) else none)

def digitsValue (l : List Char) : ℕ := l.foldl (fun n c => 10 * n + (c.toNat - '0'.toNat)) 0

def decimalValue (l : List Char) : ℚ :=
  let (int, frac) := splitPoint l
  digitsValue int + digitsValue (frac.getD []) / 10 ^ (frac.getD []).length

/-- The scan of `parse_pct_bounded`, with the number of its text and the bound on that. -/
def scanPct {α : Type} (parse : List Char → α) (bounded : α → Bool) (s : String) : Option α :=
  let core := stripPct s.toList
  let (int, frac) := splitPoint core
  if int.isEmpty ∨ 3 < int.length ∨ ¬digits int then none
  else if frac.any (fun f => f.isEmpty || !digits f) then none
  else if 2 < int.length ∧ int ≠ ['1', '0', '0'] then none
  else
    let v := parse core
    if bounded v then some v else none

def parsePctBounded : String → Option Binary64 :=
  scanPct (fun core => Binary64.round (decimalValue core)) (·.le (.finite 100))

def validateRtt (v : ℕ) : Except String Unit :=
  if 2000 < v then .error ("rtt invalid: " ++ toString v ++ " (legal domain 0-2000ms integer)")
  else .ok ()

def validateJitter (_ : ℕ) : Except String Unit := .ok ()

def validateLoss (s : String) : Except String Unit :=
  match parsePctBounded s with
  | none => .error ("loss invalid: " ++ Lines.debugString s ++ " (legal domain 0-100%, decimals allowed)")
  | some _ => .ok ()

def validateGemodelValue (s : String) : Except String Unit :=
  match parsePctBounded s with
  | none => .error ("gemodel params invalid: " ++ Lines.debugString s ++ " (legal domain 0-100, % allowed)")
  | some _ => .ok ()

def validateReorder (s : String) : Except String Unit :=
  if s.isEmpty ∨ ¬digits s.toList then
    .error ("reorder invalid: " ++ Lines.debugString s ++ " (needs a non-negative integer %)")
  else .ok ()

def validateRate (fmt : FloatText) (v : Binary64) : Except String Unit :=
  if ¬v.isFinite ∨ v.le (.finite 0) then
    .error ("rate invalid: " ++ fmt.display v ++ " (needs a numeric Mbps > 0)")
  else .ok ()

def validateDuration (secs : ℕ) : Except String Unit :=
  if secs < 5 then
    .error ("duration invalid: " ++ toString secs ++ " (needs >=5 seconds; 0 not accepted)")
  else .ok ()

def LossSpec.validate : LossSpec → Except String Unit
  | .simple p => validateLoss p
  | .geModel loss r h k => do
      validateLoss loss
      validateGemodelValue r
      validateGemodelValue h
      validateGemodelValue k

def validateOpt {α : Type} (f : α → Except String Unit) : Option α → Except String Unit
  | none => .ok ()
  | some a => f a

def ImpairSpec.validate (fmt : FloatText) (s : ImpairSpec) : Except String Unit := do
  validateRtt s.rttMs
  validateJitter s.jitterMs
  validateOpt LossSpec.validate s.loss
  validateOpt validateReorder s.reorderPct
  validateOpt (validateRate fmt) s.rateMbps

structure StepOverride where
  rttMs : Option ℕ
  jitterMs : Option ℕ
  loss : Option String
  gemodel : Option (String × String × String)
  rateMbps : Option Binary64
  reorderPct : Option String
  seed : Option ℕ
  deriving DecidableEq

def StepOverride.empty : StepOverride := ⟨none, none, none, none, none, none, none⟩

def LossSpec.inherited : Option LossSpec → Option String
  | some (.geModel loss _ _ _) => some loss
  | some (.simple p) => if p.isEmpty then none else some p
  | none => none

def mergeLoss (base : Option LossSpec) (ov : StepOverride) : Except String (Option LossSpec) :=
  match ov.gemodel with
  | some (r, h, k) =>
      match ov.loss.or (LossSpec.inherited base) with
      | none => .error ("gemodel needs loss (p13; the step inherits the previous value -- " ++
          "the base has no loss either)")
      | some loss => .ok (some (.geModel loss r h k))
  | none =>
      match ov.loss with
      | some p => .ok (some (.simple p))
      | none => .ok base

def mergeStep (fmt : FloatText) (base : ImpairSpec) (ov : StepOverride) :
    Except String ImpairSpec := do
  let loss ← mergeLoss base.loss ov
  let s : ImpairSpec :=
    { base with
      rttMs := ov.rttMs.getD base.rttMs
      jitterMs := ov.jitterMs.getD base.jitterMs
      loss := loss
      reorderPct := ov.reorderPct.or base.reorderPct
      rateMbps := ov.rateMbps.or base.rateMbps
      seed := ov.seed.or base.seed }
  s.validate fmt
  pure s

def rateText (fmt : FloatText) : Option Binary64 → String
  | some n => if n.isIntegral then toString n.toU64 else fmt.display n
  | none => "sentinel"

def lossText : Option LossSpec → String
  | some (.simple p) => (if p.isEmpty then "0%" else p) ++ "/uniform"
  | some (.geModel loss _ _ _) => loss ++ "/gemodel"
  | none => "0%/uniform"

def seedText : Option ℕ → String
  | some n => toString n
  | none => "off"

def paramSummary (fmt : FloatText) (s : ImpairSpec) : String :=
  "rtt=" ++ toString s.rttMs ++ "ms jitter=" ++ toString s.jitterMs ++ "ms loss=" ++
    lossText s.loss ++ " rate=" ++ rateText fmt s.rateMbps ++ " reorder=" ++
    s.reorderPct.getD "0" ++ " seed=" ++ seedText s.seed

end MediaServo.Weaknet
