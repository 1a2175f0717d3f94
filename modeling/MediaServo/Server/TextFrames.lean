import MediaServo.Foundations.Utf8
import MediaServo.Server.System

/-! The relay loop on the texts that come in: how a text is read, what is cut out of it for the log,
and a loop that stops in the middle of a frame. A cut inside a character ends the task of the
session, and nothing behind the loop runs. -/

namespace MediaServo.Server

open MediaServo.Foundations MediaServo.Common

inductive LogLevel
  | off
  | error
  | warn
  | info
  | debug
  | trace
  deriving DecidableEq

def LogLevel.enablesDebug : LogLevel → Bool
  | .debug | .trace => true
  | _ => false

/-- How a text is read: as a message, and as any JSON whose type is `frame`. -/
structure TextReader where
  message : String → Option SignalingMessage
  rawFrame : String → Bool

def consumedFirst : SignalingMessage → Bool
  | .roomLeave .. | .statusReport .. | .emergencyCommand .. | .configPush .. => true
  | _ => false

/-- `&text_str[..text_str.len().min(n)]` as an argument of `debug!`. -/
def debugCut (level : LogLevel) (text : String) (n : ℕ) : Option (List Char) :=
  if level.enablesDebug then sliceTo text.toList (min (byteLength text.toList) n) else some []

/-- `raw` is a text that is relayed to a room as it came. -/
structure TextRelayed extends Relayed where
  raw : Option (String × String)

def SignalingServer.relayText (rd : TextReader) (level : LogLevel) (s : SignalingServer)
    (c : Session) (text : String) (w : Worker) : Option TextRelayed :=
  match rd.message text with
  | some msg =>
      if consumedFirst msg then some ⟨s.relayMessage c msg w, none⟩
      else do
        let _ ← debugCut level text 200
        pure ⟨s.relayMessage c msg w, none⟩
  | none => do
      let _ ← debugCut level text 200
      let _ ← debugCut level text 100
      pure ⟨⟨s, none, false⟩, if rd.rawFrame text then some (c.roomId, text) else none⟩

/-- `raw` are the texts relayed as they came, `aborted` the sessions whose loop has stopped inside a
frame. -/
structure RelayLoops extends System where
  raw : List (String × String)
  aborted : List Session

inductive LoopAction
  | join (q : JoinRequest) (nonce : String)
  | frame (i : ℕ) (text : String) (w : Worker)
  | close (i : ℕ)
  | expire (i : ℕ)
  | kickPeer (peerId : String)
  | removeRoom (roomId : String)

namespace RelayLoops

def start : RelayLoops := { System.init with raw := [], aborted := [] }

def onSystem (s : RelayLoops) (a : Action) : RelayLoops := { s with toSystem := s.toSystem.step a }

def frame (rd : TextReader) (level : LogLevel) (s : RelayLoops) (i : ℕ) (text : String)
    (w : Worker) : RelayLoops :=
  match s.live i with
  | none => s
  | some c =>
      match s.server.relayText rd level c text w with
      | some r =>
          let relayed := { s with server := r.server, raw := s.raw ++ r.raw.toList }
          if r.ended then { relayed with toSystem := relayed.toSystem.close i } else relayed
      | none => { s with sessions := s.sessions.set i ⟨c, false⟩, aborted := c :: s.aborted }

def step (rd : TextReader) (level : LogLevel) (s : RelayLoops) : LoopAction → RelayLoops
  | .join q nonce => s.onSystem (.join q nonce)
  | .frame i text w => s.frame rd level i text w
  | .close i => s.onSystem (.close i)
  | .expire i => s.onSystem (.expire i)
  | .kickPeer p => s.onSystem (.kickPeer p)
  | .removeRoom r => s.onSystem (.removeRoom r)

end RelayLoops

end MediaServo.Server
