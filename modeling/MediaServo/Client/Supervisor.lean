import Mathlib.Logic.Function.Basic
import MediaServo.Link.Session

/-! The supervisor of a client: the reconnect chain, one forwarder for each generation of the link
session, and the mailbox through which forwarders report a dead link. -/

namespace MediaServo.Client

open MediaServo.Foundations MediaServo.Link

inductive ConnectionState
  | disconnected
  | connected
  | reconnecting
  | failed
  deriving DecidableEq

/-- One link session with its forwarder. `raw` are the events that the forwarder has not taken,
`released` holds once the session was replaced, so that its channel closes. -/
structure Generation where
  alive : Bool
  subscribed : Bool
  raw : List SignalEvent
  released : Bool
  forwarding : Bool
  deriving DecidableEq

/-- Where the supervisor's task stands. Between `joined` and `idle` it installs the session that
the last connection attempt returned. -/
inductive Phase
  | idle
  | connecting
  | joined
  | subscribed
  | replaying
  | draining
  | exited
  deriving DecidableEq

inductive Attempt
  | joined
  | retryable
  | rejected
  deriving DecidableEq

/-- `current` is the generation that sends and receives, `latest` the one connected last. A notice
in the mailbox is listed with its generation, which the source does not record. -/
structure Supervisor where
  generations : ℕ → Generation
  current : ℕ
  latest : ℕ
  mailbox : List ℕ
  published : ConnectionState
  autoReconnect : Bool
  phase : Phase
  relayed : List SignalEvent

namespace Generation

def fresh : Generation := ⟨true, false, [], false, false⟩

def absent : Generation := ⟨false, false, [], false, false⟩

def receive (g : Generation) (e : SignalEvent) : Generation :=
  if ¬g.subscribed then g
  else { g with raw := if g.raw.length < eventsCap then g.raw ++ [e] else g.raw.tail ++ [e] }

/-- The session dies. It says so on its channel unless a write was what failed. -/
def die (g : Generation) (announced : Bool) (reason : String) : Generation :=
  if ¬g.alive then g
  else if announced then { g.receive (.disconnected reason) with alive := false }
  else { g with alive := false }

def release (g : Generation) : Generation := { g with alive := false, released := true }

end Generation

namespace Supervisor

def update (s : Supervisor) (g : ℕ) (f : Generation → Generation) : Supervisor :=
  { s with generations := Function.update s.generations g (f (s.generations g)) }

/-- A client right after its first connection, with the forwarder of that session running. -/
def start : Supervisor :=
  { generations := Function.update (fun _ => Generation.absent) 0
      { Generation.fresh with subscribed := true, forwarding := true }
    current := 0
    latest := 0
    mailbox := []
    published := .connected
    autoReconnect := true
    phase := .idle
    relayed := [] }

def runForwarder (s : Supervisor) (g : ℕ) : Supervisor :=
  let gen := s.generations g
  if ¬gen.forwarding then s
  else
    match gen.raw with
    | .disconnected reason :: rest =>
        { s.update g (fun x => { x with raw := rest, forwarding := false }) with
          mailbox := s.mailbox ++ [g]
          relayed := s.relayed ++ [.disconnected reason] }
    | .connected _ :: rest => s.update g (fun x => { x with raw := rest })
    | e :: rest =>
        { s.update g (fun x => { x with raw := rest }) with relayed := s.relayed ++ [e] }
    | [] =>
        if gen.released ∧ ¬gen.alive then
          { s.update g (fun x => { x with forwarding := false }) with mailbox := s.mailbox ++ [g] }
        else s

def recvDead (s : Supervisor) : Supervisor :=
  match s.phase, s.mailbox with
  | .idle, _ :: rest =>
      if ¬s.autoReconnect ∨ s.published = .failed then
        { s with mailbox := rest, published := .disconnected, phase := .exited }
      else { s with mailbox := rest, published := .reconnecting, phase := .connecting }
  | _, _ => s

def connect (s : Supervisor) (r : Attempt) : Supervisor :=
  match s.phase with
  | .connecting =>
      match r with
      | .joined =>
          { s.update (s.latest + 1) (fun _ => Generation.fresh) with
            latest := s.latest + 1
            phase := .joined }
      | .retryable => s
      | .rejected => { s with published := .failed, phase := .exited }
  | _ => s

def events (s : Supervisor) : Supervisor :=
  match s.phase with
  | .joined => { s.update s.latest ({ · with subscribed := true }) with phase := .subscribed }
  | _ => s

def swapSession (s : Supervisor) : Supervisor :=
  match s.phase with
  | .subscribed =>
      { (s.update s.current Generation.release).update s.latest ({ · with forwarding := true }) with
        current := s.latest
        phase := .replaying }
  | _ => s

/-- The consumers have been replayed: the state is published before the mailbox is drained. -/
def replayed (s : Supervisor) : Supervisor :=
  match s.phase with
  | .replaying => { s with published := .connected, phase := .draining }
  | _ => s

def drain (s : Supervisor) : Supervisor :=
  match s.phase, s.mailbox with
  | .draining, [] => { s with phase := .idle }
  | .draining, _ :: rest => { s with mailbox := rest }
  | _, _ => s

def shutdown (s : Supervisor) : Supervisor :=
  { s with
    generations := fun g => { s.generations g with forwarding := false }
    phase := .exited }

end Supervisor

inductive Action
  | event (g : ℕ) (e : SignalEvent)
  | linkBreak (g : ℕ) (announced : Bool) (reason : String)
  | forwarder (g : ℕ)
  | recvDead
  | connect (r : Attempt)
  | events
  | swapSession
  | replayed
  | drain
  | setAutoReconnect (on : Bool)
  | shutdown
  deriving DecidableEq

def isDisconnect : SignalEvent → Bool
  | .disconnected _ => true
  | _ => false

def Supervisor.step (s : Supervisor) : Action → Supervisor
  | .event g e =>
      if (s.generations g).alive ∧ ¬isDisconnect e then s.update g (·.receive e) else s
  | .linkBreak g announced reason => s.update g (·.die announced reason)
  | .forwarder g => s.runForwarder g
  | .recvDead => s.recvDead
  | .connect r => s.connect r
  | .events => s.events
  | .swapSession => s.swapSession
  | .replayed => s.replayed
  | .drain => s.drain
  | .setAutoReconnect on => { s with autoReconnect := on }
  | .shutdown => s.shutdown

end MediaServo.Client
