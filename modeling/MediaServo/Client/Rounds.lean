import MediaServo.Client.Calls

/-! One round of a call, alone with its event stream: what its waits read off the stream, and what
it does with the answers. -/

namespace MediaServo.Client

open MediaServo.Foundations MediaServo.Common

/-- What a look at the stream gives: an event, or the word that the oldest ones were lost. -/
inductive Heard
  | event (e : LinkEvent)
  | lagged
  deriving DecidableEq

def Heard.message (m : SignalingMessage) : Heard := .event (.message m)

/-- The wait for an answer: the answer, and the stream behind it. A stream that has nothing more is
a timeout. -/
def Request.await (r : Request) : List Heard → Option (SignalingMessage × List Heard)
  | [] => none
  | .lagged :: _ => none
  | .event e :: rest =>
      match r.verdict e, e with
      | .take, .message m => some (m, rest)
      | .skip, _ => r.await rest
      | _, _ => none

inductive Act
  | engine (op : EngineOp)
  | tell (m : SignalingMessage)
  | ask (r : Request)
  | establish (transportId : String)
  deriving DecidableEq

/-- What a round has done when it is over, and whether it has come to its end. The engine answers
with a view of all that was done before, or fails. -/
def Prog.exec (engine : List Act → Option EngineReply) :
    Prog → List Act → List Heard → List Act × Bool
  | .done, acts, _ => (acts, true)
  | .fail, acts, _ => (acts, false)
  | .lock _ k, acts, es => k.exec engine acts es
  | .takePumpEvents k, acts, es => k.exec engine acts es
  | .engine op k, acts, es =>
      match engine (acts ++ [.engine op]) with
      | some r => (k r).exec engine (acts ++ [.engine op]) es
      | none => (acts ++ [.engine op], false)
  | .tell m k, acts, es => k.exec engine (acts ++ [.tell m]) es
  | .ask r k, acts, es =>
      match r.await es with
      | some (m, rest) => (k m).exec engine (acts ++ [.ask r]) rest
      | none => (acts ++ [.ask r], false)
  | .establish tid k, acts, es => k.exec engine (acts ++ [.establish tid]) es

/-- The round of a `consume`, or of the ack pump. -/
inductive Round
  | consume (producerId : String)
  | ack (dataProducerId : String) (transport : Option String)
  deriving DecidableEq

def Round.prog (room peer : String) : Round → Prog
  | .consume p => consumeSequence room peer p
  | .ack dp transport => ackRound room peer dp transport

end MediaServo.Client
