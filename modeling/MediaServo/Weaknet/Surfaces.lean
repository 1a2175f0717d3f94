import MediaServo.Weaknet.Spec

/-! The merges of `set` on the command line and over REST, beside the one of a scenario step. The
command line goes over the base field by field; REST writes the base as a flat object, overwrites
its keys and reads the object again. -/

namespace MediaServo.Weaknet

open MediaServo.Foundations

/-- The arguments of `apply` and `set` that the merge reads. -/
structure ApplyArgs where
  rtt : Option ℕ
  jitter : Option ℕ
  loss : Option String
  lossMode : Option String
  gemodel : Option (String × String × String)
  reorder : Option String
  rate : Option Binary64
  seed : Option ℕ
  dir : Option Dir
  deriving DecidableEq

def cliLoss (base : Option LossSpec) (a : ApplyArgs) : Except String (Option LossSpec) :=
  match a.gemodel with
  | some (r, h, k) =>
      match a.loss.or (LossSpec.inherited base) with
      | none => .error "gemodel needs --loss (p13; profile or flag both fine)"
      | some loss => .ok (some (.geModel loss r h k))
  | none =>
      match a.loss with
      | some p =>
          match a.lossMode.getD "simple" with
          | "simple" | "uniform" => .ok (some (.simple p))
          | "gemodel" => .error "loss_mode=gemodel needs --gemodel r h k three params"
          | other => .error ("loss_mode must be simple|gemodel, got " ++ Lines.debugString other)
      | none => .ok base

def mergeSpec (fmt : FloatText) (base : ImpairSpec) (a : ApplyArgs) : Except String ImpairSpec := do
  let loss ← cliLoss base.loss a
  let s : ImpairSpec :=
    { base with
      rttMs := a.rtt.getD base.rttMs
      jitterMs := a.jitter.getD base.jitterMs
      reorderPct := a.reorder.or base.reorderPct
      rateMbps := a.rate.or base.rateMbps
      seed := a.seed.or base.seed
      dir := a.dir.getD base.dir
      loss := loss }
  s.validate fmt
  pure s

/-- A value of the crate `serde_json`. -/
inductive Value
  | null
  | bool (b : Bool)
  | posInt (n : ℕ)
  | negInt (i : ℤ)
  | float (f : Binary64)
  | string (s : String)
  | array (items : List Value)
  | object (entries : List (String × Value))

namespace Value

def asU64 : Value → Option ℕ
  | .posInt n => some n
  | _ => none

def asF64 : Value → Option Binary64
  | .posInt n => some (Binary64.ofInt n)
  | .negInt i => some (Binary64.ofInt i)
  | .float f => some f
  | _ => none

def isNumber : Value → Bool
  | .posInt _ | .negInt _ | .float _ => true
  | _ => false

def asStr : Value → Option String
  | .string s => some s
  | _ => none

def ofF64 (f : Binary64) : Value := if f.isFinite then .float f else .null

end Value

abbrev ValueMap := List (String × Value)

namespace ValueMap

def insert (m : ValueMap) (k : String) (v : Value) : ValueMap :=
  match m with
  | [] => [(k, v)]
  | e :: rest =>
      if e.1 = k then (k, v) :: rest
      else if k < e.1 then (k, v) :: e :: rest
      else e :: ValueMap.insert rest k v

def get (m : ValueMap) (k : String) : Option Value := (m.find? fun e => e.1 == k).map Prod.snd

def keys (m : ValueMap) : List String := m.map Prod.fst

def insertOpt (m : ValueMap) (k : String) : Option Value → ValueMap
  | some v => m.insert k v
  | none => m

end ValueMap

def Dir.text : Dir → String
  | .out => "out"
  | .in => "in"
  | .both => "both"

def insertLoss (m : ValueMap) : Option LossSpec → ValueMap
  | some (.simple p) => (m.insert "loss" (.string p)).insert "loss_mode" (.string "simple")
  | some (.geModel loss r h k) =>
      ((m.insert "loss" (.string loss)).insert "loss_mode" (.string "gemodel")).insert "gemodel"
        (.array [.string r, .string h, .string k])
  | none => m

def specToFlatMap (s : ImpairSpec) : ValueMap :=
  let m := ValueMap.insert [] "rtt_ms" (.posInt s.rttMs)
  let m := m.insert "jitter_ms" (.posInt s.jitterMs)
  let m := insertLoss m s.loss
  let m := m.insertOpt "reorder" (s.reorderPct.map Value.string)
  let m := m.insertOpt "rate_mbps" (s.rateMbps.map Value.ofF64)
  let m := m.insertOpt "seed" (s.seed.map Value.posInt)
  let m := m.insert "limit" (.posInt s.limit)
  m.insert "dir" (.string s.dir.text)

section Read

-- the text of a value in an error
variable (fmt : FloatText) (render : Value → String)

def known : List String :=
  ["rtt_ms", "jitter_ms", "loss", "loss_mode", "gemodel", "reorder", "rate_mbps", "seed", "limit",
    "dir"]

def knownText : String := Lines.debugList known

def getU64 (obj : ValueMap) (k : String) : Except String ℕ :=
  match obj.get k with
  | none | some .null => .ok 0
  | some v =>
      if v.isNumber then
        match v.asU64 with
        | some n => .ok n
        | none => .error (k ++ " must be a non-negative integer, got " ++ render v)
      else .error (k ++ " must be a number, got " ++ render v)

def getOptStr (obj : ValueMap) (k : String) : Except String (Option String) :=
  match obj.get k with
  | none | some .null => .ok none
  | some (.string s) => .ok (some s)
  | some other => .error (k ++ " must be a string, got " ++ render other)

def getGemodel (obj : ValueMap) : Except String (Option (String × String × String)) :=
  match obj.get "gemodel" with
  | none | some .null => .ok none
  | some (.array a) =>
      match a.mapM Value.asStr with
      | some [r, h, k] => .ok (some (r, h, k))
      | _ => .error ("gemodel needs 3 strings [r,h,k], got " ++ toString a.length)
  | some other => .error ("gemodel must be an array, got " ++ render other)

def lossOf (mode : String) (loss : Option String) (gemodel : Option (String × String × String)) :
    Except String (Option LossSpec) :=
  match mode with
  | "simple" | "uniform" => .ok (loss.map LossSpec.simple)
  | "gemodel" =>
      match loss, gemodel with
      | some l, some (r, h, k) => .ok (some (.geModel l r h k))
      | _, _ => .error "gemodel mode needs loss + gemodel[r,h,k]"
  | other => .error ("loss_mode must be simple|gemodel, got " ++ Lines.debugString other)

def getRate (obj : ValueMap) : Except String (Option Binary64) :=
  match obj.get "rate_mbps" with
  | none | some .null => .ok none
  | some v =>
      match v.asF64 with
      | some f => .ok (some f)
      | none => .error ("rate_mbps must be a number, got " ++ render v)

def getSeed (obj : ValueMap) : Except String (Option ℕ) :=
  match obj.get "seed" with
  | none | some .null => .ok none
  | some v =>
      if v.isNumber then
        match v.asU64 with
        | some n => .ok (some n)
        | none => .error ("seed must be a non-negative integer, got " ++ render v)
      else .error ("seed must be a number, got " ++ render v)

def getLimit (obj : ValueMap) : Except String ℕ :=
  match obj.get "limit" with
  | none | some .null => .ok 100000
  | some _ => getU64 render obj "limit"

def getDir (obj : ValueMap) : Except String Dir :=
  match obj.get "dir" with
  | none | some .null => .ok .both
  | some (.string s) =>
      match s with
      | "out" => .ok .out
      | "in" => .ok .in
      | "both" => .ok .both
      | other => .error ("dir must be out|in|both, got " ++ Lines.debugString other)
  | some other => .error ("dir must be a string, got " ++ render other)

def readSpec (obj : ValueMap) : Except String ImpairSpec := do
  let rttMs ← getU64 render obj "rtt_ms"
  let jitterMs ← getU64 render obj "jitter_ms"
  let loss ← getOptStr render obj "loss"
  let lossMode ← getOptStr render obj "loss_mode"
  let gemodel ← getGemodel render obj
  let lossSpec ← lossOf (lossMode.getD "simple") loss gemodel
  let rateMbps ← getRate render obj
  let seed ← getSeed render obj
  let limit ← getLimit render obj
  let dir ← getDir render obj
  let reorderPct ← getOptStr render obj "reorder"
  let s : ImpairSpec := ⟨rttMs, jitterMs, lossSpec, reorderPct, rateMbps, seed, limit, dir⟩
  s.validate fmt
  pure s

def fromFlatJson : Value → Except String ImpairSpec
  | .object obj =>
      match (ValueMap.keys obj).find? (fun k => !known.contains k) with
      | some key =>
          .error ("spec input unknown key \"" ++ key ++ "\" (legal set: " ++ knownText ++ ")")
      | none => readSpec fmt render obj
  | v => .error ("spec input is not an object: " ++ render v)

/-- The merge of `do_set_http`. -/
def mergeFlat (prior : ImpairSpec) (overrides : ValueMap) : Except String ImpairSpec :=
  fromFlatJson fmt render
    (.object (overrides.foldl (fun flat e => ValueMap.insert flat e.1 e.2) (specToFlatMap prior)))

end Read

namespace StepOverride

def args (ov : StepOverride) : ApplyArgs :=
  ⟨ov.rttMs, ov.jitterMs, ov.loss, none, ov.gemodel, ov.reorderPct, ov.rateMbps, ov.seed, none⟩

def body (ov : StepOverride) : ValueMap :=
  let m := ValueMap.insertOpt [] "rtt_ms" (ov.rttMs.map Value.posInt)
  let m := m.insertOpt "jitter_ms" (ov.jitterMs.map Value.posInt)
  let m := m.insertOpt "loss" (ov.loss.map Value.string)
  let m := m.insertOpt "gemodel" (ov.gemodel.map fun g =>
    .array [.string g.1, .string g.2.1, .string g.2.2])
  let m := m.insertOpt "reorder" (ov.reorderPct.map Value.string)
  let m := m.insertOpt "rate_mbps" (ov.rateMbps.map Value.float)
  m.insertOpt "seed" (ov.seed.map Value.posInt)

end StepOverride

end MediaServo.Weaknet
