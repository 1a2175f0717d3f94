import MediaServo.Foundations.Lines
import MediaServo.Weaknet.Drive

/-! The arguments that a spec is given to `netem` as, and the fingerprint that the line of the leaf is
checked against after they are installed. -/

namespace MediaServo.Weaknet

open MediaServo.Foundations
open Lines (Text lines)

section Render

def decimal (n : ℕ) : Text := (toString n).toList

def renderLoss : Option LossSpec → Text
  | some (.geModel loss r h k) =>
      if loss = "0" ∨ loss = "0%" then " loss 0%".toList
      else " loss gemodel ".toList ++ stripPct loss.toList ++ " ".toList ++ stripPct r.toList ++
        " ".toList ++ stripPct h.toList ++ " ".toList ++ stripPct k.toList
  | some (.simple p) =>
      if p ≠ "" ∧ stripPct p.toList ≠ "0".toList then " loss ".toList ++ p.toList else []
  | none => []

def renderReorder : Option String → Text
  | some rp => if rp ≠ "" then " reorder ".toList ++ rp.toList ++ "%".toList else []
  | none => []

def renderSeed : Option ℕ → Text
  | some seed => " seed ".toList ++ decimal seed
  | none => []

def renderNetemSpecWith (s : ImpairSpec) (d j : ℕ) : Text :=
  "limit ".toList ++ decimal s.limit ++
    (if 0 < d then " delay ".toList ++ decimal d ++ "ms".toList else []) ++
    (if 0 < j then " ".toList ++ decimal j ++ "ms distribution normal".toList else []) ++
    renderLoss s.loss ++ renderReorder s.reorderPct ++ renderSeed s.seed

def renderNetemSpec (s : ImpairSpec) : Text := renderNetemSpecWith s (s.rttMs / 2) (s.jitterMs / 2)

def renderNetemSpecLeg (s : ImpairSpec) : Text :=
  match s.dir with
  | .both => renderNetemSpec s
  | .out | .in => renderNetemSpecWith s s.rttMs s.jitterMs

end Render

section Fingerprint

def isNumeric (c : Char) : Bool := c.isDigit || c == '.'

def normalizeNumToken (w : Text) : Text :=
  let num := w.takeWhile isNumeric
  let unit := w.dropWhile isNumeric
  if '.' ∉ num then w else (num.rdropWhile (· == '0')).rdropWhile (· == '.') ++ unit

def isWrapping (c : Char) : Bool := c == '(' || c == ')' || c == '%'

def normWords (line : Text) : List Text :=
  (Words.words isWhitespace line).map fun w => normalizeNumToken (Lines.trim isWrapping w)

def specKeywords : List Text :=
  ["limit".toList, "delay".toList, "loss".toList, "gemodel".toList, "reorder".toList, "seed".toList]

def distinguishes (w : Text) : Bool := w.any Char.isDigit || specKeywords.contains w

def fingerprintTokens (netemSpec : Text) : List Text :=
  ((Words.words isWhitespace netemSpec).map fun w =>
    normalizeNumToken (w.rdropWhile (· == '%'))).filter distinguishes

inductive LeafForm
  | parent110
  | root
  deriving DecidableEq

def leafLineMatches (l : Text) (form : LeafForm) : Bool :=
  isInfix "netem".toList l &&
    match form with
    | .parent110 => isInfix "parent 1:10".toList l
    | .root => isInfix " root".toList l

def findLeafLineForm (qdiscShow : Text) (form : LeafForm) : Option Text :=
  (lines qdiscShow).find? (leafLineMatches · form)

/-- Why a read-back fails: no leaf of the form, or a leaf without some of the tokens. -/
inductive ReadBack
  | noLeaf (form : LeafForm)
  | missing (tokens : List Text) (leaf : Text)
  deriving DecidableEq

def assertFingerprintForm (qdiscShow netemSpec : Text) (form : LeafForm) : Except ReadBack Unit :=
  match findLeafLineForm qdiscShow form with
  | none => .error (.noLeaf form)
  | some leaf =>
      let missing := (fingerprintTokens netemSpec).filter fun t => !(normWords leaf).contains t
      if missing.isEmpty then .ok () else .error (.missing missing leaf)

end Fingerprint

end MediaServo.Weaknet
