import MediaServo.Foundations.FiniteMap
import MediaServo.Foundations.Runs
import MediaServo.Link.Session

/-! The main loop of the controller: the waits of its setup, the drain of what came in meanwhile,
and the loop that consumes the data producers of the room. An action is one turn of the process,
with what the stream gave it. -/

namespace MediaServo.Host.Controller

open MediaServo.Foundations MediaServo.Common MediaServo.Link

def sfuPeerId : String := "host"

def ackLabel : String := "ack"

def defaultLabels : List String := ["chassis", "gimbal", "light", ackLabel]

structure PendingProducer where
  dataProducerId : String
  label : String
  deriving DecidableEq

inductive Heard
  | taken (id : String)
  | cached (p : PendingProducer)
  | ignored
  | failed
  deriving DecidableEq

/-- The events that both waits treat alike. A close of a producer is among those ignored. -/
def heardOther : SignalEvent → Heard
  | .message (.newDataProducer _ dp _ label _) => .cached ⟨dp, label⟩
  | .message (.error _ message) => if message = "transport_connected" then .ignored else .failed
  | .disconnected _ | .error _ => .failed
  | _ => .ignored

def awaitTransportCreated : SignalEvent → Heard
  | .message (.webRtcTransportCreated _ _ tid _ _ _ _) => .taken tid
  | e => heardOther e

def awaitDataProducerCreated : SignalEvent → Heard
  | .message (.dataProducerCreated _ dp) => .taken dp
  | e => heardOther e

/-- Where the loop is: in a wait of `setup_send_side`, with the labels that it still announces, in
that of `setup_recv_side`, or past them. -/
inductive Stage
  | sendTransport
  | announcing (rest : List String)
  | recvTransport
  | running (recvTransportId : String)
  | stopped
  deriving DecidableEq

/-- `purge` has the channel that the close of a producer tears down, and `channels` the producers of
the consumer channels that nothing has told to close. `sent` are the consume requests. -/
structure Loop where
  room : String
  labels : List String
  stage : Stage
  pending : List PendingProducer
  own : List String
  consumed : List String
  purge : FiniteMap String ℕ
  channels : FiniteMap ℕ String
  nextChannel : ℕ
  sent : List SignalingMessage

namespace Loop

def start (room : String) (labels : List String) : Loop where
  room := room
  labels := labels
  stage := .sendTransport
  pending := []
  own := []
  consumed := []
  purge := ∅
  channels := ∅
  nextChannel := 0
  sent := []

def exit (s : Loop) : Loop := { start s.room s.labels with stage := .stopped }

def consumeData (s : Loop) (tid dp : String) : Loop :=
  { s with sent := s.sent ++ [.consumeData s.room sfuPeerId .recv dp (some tid)] }

def announced (s : Loop) (tid dp : String) : Loop :=
  if dp ∈ s.consumed then s else { s with consumed := dp :: s.consumed }.consumeData tid dp

def ready (s : Loop) (tid : String) : Loop :=
  s.pending.foldl (fun s p => s.announced tid p.dataProducerId)
    { s with
      stage := .running tid
      pending := []
      consumed := s.own
      purge := ∅ }

/-- A negotiated channel for an answered request. The sender that it displaces is dropped, which
closes the channel of that one. -/
def openChannel (s : Loop) (dp : String) : Loop :=
  { s with
    channels := (match s.purge.get dp with
      | some c => s.channels.remove c
      | none => s.channels).set s.nextChannel dp
    purge := s.purge.set dp s.nextChannel
    nextChannel := s.nextChannel + 1 }

def teardown (s : Loop) (p : String) : Loop :=
  match s.purge.get p with
  | some c =>
      { s with
        channels := s.channels.remove c
        purge := s.purge.remove p
        consumed := s.consumed.erase p }
  | none => s

/-- An event while a wait of the setup is on, with the stage that its answer leads to. -/
def setup (s : Loop) (heard : Heard) (taken : String → Loop) : Loop :=
  match heard with
  | .taken id => taken id
  | .cached p => { s with pending := s.pending ++ [p] }
  | .ignored => s
  | .failed => s.exit

def announce (s : Loop) : List String → Loop
  | [] => { s with stage := .recvTransport }
  | rest => { s with stage := .announcing rest }

/-- An event in the main loop. `created` is whether the engine makes a channel. -/
def handle (s : Loop) (tid : String) (created : Bool) : SignalEvent → Loop
  | .message (.newDataProducer _ dp _ _ _) => s.announced tid dp
  | .message (.dataConsumed _ _ dp (some _) _ _) => if created then s.openChannel dp else s
  | .message (.producerClosed _ _ p .data _) => s.teardown p
  | .disconnected _ | .error _ => s.exit
  | _ => s

def event (s : Loop) (created : Bool) (e : SignalEvent) : Loop :=
  match s.stage with
  | .sendTransport => s.setup (awaitTransportCreated e) fun _ => s.announce s.labels
  | .announcing rest =>
      s.setup (awaitDataProducerCreated e) fun dp => { s with own := dp :: s.own }.announce rest.tail
  | .recvTransport => s.setup (awaitTransportCreated e) s.ready
  | .running tid => s.handle tid created e
  | .stopped => s

end Loop

/-- `lost` is an error of the stream, and `quit` an error of the setup, a shutdown or a failed ICE
connection. -/
inductive LoopAction
  | event (e : SignalEvent) (created : Bool)
  | lost
  | quit
  | channelEnds (c : ℕ)
  | restart
  deriving DecidableEq

def Loop.step (s : Loop) : LoopAction → Loop
  | .event e created => s.event created e
  | .lost | .quit => s.exit
  | .channelEnds c => { s with channels := s.channels.remove c }
  | .restart => if s.stage = .stopped then start s.room s.labels else s

end MediaServo.Host.Controller
