import MediaServo.Server.Lifecycle
import MediaServo.Server.Persistence

/-! The rotation of the PSK: what it makes of the configuration file, and the requests of several
administrators. They take no lock, and share the temporary file. -/

namespace MediaServo.Server

open MediaServo.Foundations

namespace Rotation

open Lifecycle (trim)
open Lines (Text lines debugText)

section File

-- The characters that the debug form of a text leaves as they are.
variable (plain : Char → Bool)

def keyLine (psk : Text) : Text := "psk: ".toList ++ debugText plain psk

def isKeyLine (l : Text) : Bool := Lifecycle.startsWith "psk:" l && !l.head?.any isWhitespace

def commentOf (l : Text) : Option Text :=
  (Lines.rsplitOnce '"' l).bind fun (_, tail) =>
    ((Lines.splitOnce '#' tail).map Prod.snd).filter fun comment => trim comment ≠ []

def replaceLine (psk l : Text) : Text :=
  if isKeyLine l then
    match commentOf l with
    | some comment => keyLine plain psk ++ [' ', ' ', '#'] ++ comment
    | none => keyLine plain psk
  else l

/-- The text that `write_back_psk` writes. -/
def rewritten (psk text : Text) : Text :=
  if (lines text).any isKeyLine then
    ['\n'].intercalate ((lines text).map (replaceLine plain psk))
  else text ++ '\n' :: (keyLine plain psk ++ ['\n'])

end File

section Requests

open Persistence (FileName)

def maskPsk (psk : Text) : Text := if psk.length ≤ 2 then psk else psk.take 2 ++ ['·', '·']

def validPskValue (v : Text) : Bool :=
  v ≠ [] ∧ 8 ≤ byteLength v ∧ byteLength v ≤ 128 ∧ '"' ∉ v ∧ ∀ c ∈ v, isWhitespace c = false

inductive Refusal
  | badRequest (error : String)
  | serverError (error : Text)
  deriving DecidableEq

def newPsk (password : Option Text) (random : Text) : Except Refusal Text :=
  match password with
  | some p =>
      if validPskValue p then .ok p
      else .error (.badRequest "invalid psk: 8-128 chars, no whitespace")
  | none => .ok random

def toBytes (t : Text) : List UInt8 := asBytes (.ofList t)

def readText (bytes : List UInt8) : Except Text Text :=
  match fromUtf8 bytes with
  | some s => .ok s.toList
  | none => .error "stream did not contain valid UTF-8".toList

def notFound : Text := "No such file or directory (os error 2)".toList

/-- Where a rotation stands: before `write_back_psk` reads the file, with the text to be written and
the descriptor of the temporary file, with the file in place, and with the memory changed. -/
inductive Phase
  | chosen
  | composed (text : Text)
  | created (text : Text) (fd : ℕ)
  | written (text : Text) (fd : ℕ)
  | renamed
  | done
  | cleaning (error : Text)
  | refused (r : Refusal)
  deriving DecidableEq

structure Task where
  secret : Text
  phase : Phase
  deriving DecidableEq

/-- The files, the secret in memory, and the rotations. `renamed` and `effected` are those whose file
is in place and those that have taken effect, the last one first. -/
structure Store where
  files : Files FileName UInt8
  psk : Option Text
  tasks : FiniteMap ℕ Task
  renamed : List (ℕ × Text)
  effected : List (ℕ × Text)

/-- An error of the file system: for a write, after how many bytes. -/
structure Fault where
  bytes : ℕ
  error : Text

inductive Action
  | start (i : ℕ) (password : Option Text) (random : Text)
  | next (i : ℕ) (fault : Option Fault)

def start (files : Files FileName UInt8) (psk : Option Text) : Store := ⟨files, psk, ∅, [], []⟩

def Store.setPhase (s : Store) (i : ℕ) (t : Task) (p : Phase) : Store :=
  { s with tasks := s.tasks.set i { t with phase := p } }

variable (path : Text)

/-- The refusal for an error of `write_back_psk`. -/
def writeBackFailed (what e : Text) : Refusal :=
  .serverError ("server config write failed: server config ".toList ++ path ++ ": ".toList ++ what ++
    " failed: ".toList ++ e)

variable (plain : Char → Bool)

def compose (psk : Text) (bytes : Option (List UInt8)) : Except Text Text := do
  let text ← readText (← bytes.elim (.error notFound) .ok)
  pure (rewritten plain psk text)

def advance (s : Store) (i : ℕ) (t : Task) (fault : Option Fault) : Store :=
  match t.phase, fault with
  | .chosen, none =>
      match compose plain t.secret (s.files.read .target) with
      | .ok text => s.setPhase i t (.composed text)
      | .error e => s.setPhase i t (.refused (writeBackFailed path "read".toList e))
  | .chosen, some f => s.setPhase i t (.refused (writeBackFailed path "read".toList f.error))
  | .composed text, none =>
      let (files, fd) := s.files.create .tmp
      { s with files := files }.setPhase i t (.created text fd)
  | .composed _, some f => s.setPhase i t (.cleaning f.error)
  | .created text fd, none =>
      { s with files := s.files.write fd (toBytes text) }.setPhase i t (.written text fd)
  | .created text fd, some f =>
      { s with files := s.files.write fd ((toBytes text).take f.bytes) }.setPhase i t
        (.cleaning f.error)
  | .written _ _, none =>
      match s.files.rename .tmp .target with
      | some files =>
          { s with files := files, renamed := (i, t.secret) :: s.renamed }.setPhase i t .renamed
      | none => s.setPhase i t (.cleaning notFound)
  | .written _ _, some f => s.setPhase i t (.cleaning f.error)
  | .renamed, _ =>
      { s with psk := some t.secret, effected := (i, t.secret) :: s.effected }.setPhase i t .done
  | .cleaning e, _ =>
      { s with files := s.files.remove .tmp }.setPhase i t
        (.refused (writeBackFailed path "write".toList e))
  | .done, _ | .refused _, _ => s

def step (s : Store) : Action → Store
  | .start i password random =>
      if s.tasks.contains i then s
      else
        match newPsk password random with
        | .ok psk => { s with tasks := s.tasks.set i ⟨psk, .chosen⟩ }
        | .error r => { s with tasks := s.tasks.set i ⟨password.getD [], .refused r⟩ }
  | .next i fault =>
      match s.tasks.get i with
      | none => s
      | some t => advance path plain s i t fault

/-- The answer of a rotation that is over: the secret and its hint, or the refusal. -/
def Task.answer (t : Task) : Option (Except Refusal (Text × Text)) :=
  match t.phase with
  | .done => some (.ok (t.secret, maskPsk t.secret))
  | .refused r => some (.error r)
  | _ => none

end Requests

end Rotation

end MediaServo.Server
