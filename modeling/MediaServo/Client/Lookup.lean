import MediaServo.Client.Calls
import Mathlib.Data.Finset.Insert

/-! The wait for a video producer, with the labels that the session knows: the drain of what is in
its stream, the verdict on the label, and the wait proper. The other calls of the session read the
same stream between two waits. -/

namespace MediaServo.Client.Lookup

open MediaServo.Foundations MediaServo.Common

inductive Stage
  | draining
  | waiting (grace : Bool)
  deriving DecidableEq

structure Call where
  label : Option String
  stage : Stage
  deriving DecidableEq

/-- The main stream of a session, the labels it knows, and the wait in progress. -/
structure Session where
  queue : List LinkEvent := []
  lagged : Bool := false
  knownVideoLabels : Finset String := ∅
  producerLabels : FiniteMap String String := ∅
  call : Option Call := none

/-- How a wait ends. `failed` is a session that is disconnected, or a stream that was overrun. -/
inductive WaitResult
  | found (producerId : String)
  | timeout
  | streamNotFound (label : String)
  | failed
  deriving DecidableEq

def matchesLabel (label l : Option String) : Bool := label.isNone || l = label

namespace Session

def deliver (s : Session) (e : LinkEvent) : Session :=
  if s.queue.length < evRelayCap then { s with queue := s.queue ++ [e] }
  else { s with queue := s.queue.tail ++ [e], lagged := true }

def otherRead (s : Session) : Session :=
  if s.lagged then { s with lagged := false } else { s with queue := s.queue.tail }

def learn (s : Session) (p l : String) : Session :=
  { s with
    knownVideoLabels := insert l s.knownVideoLabels
    producerLabels := s.producerLabels.set p l }

def forget (s : Session) (p : String) : Session :=
  match s.producerLabels.get p with
  | some l =>
      { s with
        knownVideoLabels := s.knownVideoLabels.erase l
        producerLabels := s.producerLabels.remove p }
  | none => s

/-- The verdict on the label once the drain is over: a short wait for one that nobody carries. -/
def judge (s : Session) (label : Option String) : Session :=
  { s with call := some ⟨label, .waiting (label.any (fun want => want ∉ s.knownVideoLabels))⟩ }

def drain (s : Session) (label : Option String) : Session :=
  if s.lagged then { s with lagged := false }.judge label
  else
    match s.queue with
    | [] => s.judge label
    | .message (.newProducer _ p _ .video (some l)) :: rest => { s with queue := rest }.learn p l
    | _ :: rest => { s with queue := rest }

def finish (s : Session) (r : WaitResult) : Session × Option WaitResult :=
  ({ s with call := none }, some r)

def look (s : Session) (label : Option String) : Session × Option WaitResult :=
  if s.lagged then { s with lagged := false }.finish .failed
  else
    match s.queue with
    | [] => (s, none)
    | .message (.newProducer _ p _ .video l) :: rest =>
        let s := match l with
          | some l => { s with queue := rest }.learn p l
          | none => { s with queue := rest }
        if matchesLabel label l then s.finish (.found p) else (s, none)
    | .message (.producerClosed _ _ p .video _) :: rest => ({ s with queue := rest }.forget p, none)
    | .disconnected _ :: rest => { s with queue := rest }.finish .failed
    | _ :: rest => ({ s with queue := rest }, none)

def expire (s : Session) (c : Call) : Session × Option WaitResult :=
  match c.stage with
  | .waiting grace =>
      if s.lagged ∨ s.queue ≠ [] then (s, none)
      else if grace then s.finish (.streamNotFound (c.label.getD "")) else s.finish .timeout
  | .draining => (s, none)

end Session

inductive Action
  | deliver (e : LinkEvent)
  | otherRead
  | call (label : Option String)
  | turn
  | expire
  deriving DecidableEq

def Session.act (s : Session) : Action → Session × Option WaitResult
  | .deliver e => (s.deliver e, none)
  | .otherRead => (if s.call.isNone then s.otherRead else s, none)
  | .call label => (if s.call.isNone then { s with call := some ⟨label, .draining⟩ } else s, none)
  | .turn =>
      match s.call with
      | some ⟨label, .draining⟩ => (s.drain label, none)
      | some ⟨label, .waiting _⟩ => s.look label
      | none => (s, none)
  | .expire =>
      match s.call with
      | some c => s.expire c
      | none => (s, none)

def Session.step (s : Session) (a : Action) : Session := (s.act a).1

end MediaServo.Client.Lookup
