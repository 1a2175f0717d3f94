import MediaServo.Common.Protocol
import MediaServo.Foundations.FiniteMap
import MediaServo.Foundations.Replies
import MediaServo.Foundations.Runs

/-! The calls of a client on its room session: `consume`, `open_control` and the wait for a
producer on the relayed event stream, the replay of the consumers after a reconnect on streams of
its own, and the ack pump on the stream of the first link. Answers carry no request number. An
event and a request have a number here that the source does not have: `origin` is the request that
an event answers. -/

namespace MediaServo.Client

open MediaServo.Foundations MediaServo.Common

/-- What a link sends to those who subscribe after it has joined: its `Connected` is over by then. -/
inductive LinkEvent
  | message (m : SignalingMessage)
  | error (text : String)
  | disconnected (reason : String)
  deriving DecidableEq

structure Tagged where
  event : LinkEvent
  origin : Option ℕ
  deriving DecidableEq

/-- A subscriber of a broadcast channel. `lagged` holds from the loss of its oldest events to its
next look. -/
structure Receiver where
  queue : List Tagged
  lagged : Bool
  deriving DecidableEq

namespace Receiver

def fresh : Receiver := ⟨[], false⟩

def send (cap : ℕ) (x : Tagged) (r : Receiver) : Receiver :=
  if r.queue.length < cap then { r with queue := r.queue ++ [x] }
  else ⟨r.queue.tail ++ [x], true⟩

end Receiver

def linkCap : ℕ := 64

def evRelayCap : ℕ := 128

def ackLabel : String := "ack"

def dataProtocol : String := "sctp"

inductive Request
  | createTransport (direction : TransportDirection)
  | routerCapabilities
  | consume (producerId : String) (rtpCapabilities : JsonValue) (transportId : String)
  | createDataProducer (label : String) (params : SctpStreamParameters) (transportId : String)
  | consumeData (dataProducerId transportId : String)
  deriving DecidableEq

inductive Kind
  | transportCreated
  | routerCaps
  | consumed
  | dataProducerCreated
  | dataConsumed
  deriving DecidableEq

def replyKind : SignalingMessage → Option Kind
  | .webRtcTransportCreated .. => some .transportCreated
  | .routerRtpCapabilities .. => some .routerCaps
  | .consumed .. => some .consumed
  | .dataProducerCreated .. => some .dataProducerCreated
  | .dataConsumed .. => some .dataConsumed
  | _ => none

def transportConnected : String := "transport_connected"

namespace Request

def message (room peer : String) : Request → SignalingMessage
  | .createTransport d => .createWebRtcTransport room peer d
  | .routerCapabilities => .getRouterRtpCapabilities room
  | .consume p caps tid => .consume room peer p caps (some tid)
  | .createDataProducer l sp tid =>
      .createDataProducer room peer .send l dataProtocol (some sp) (some tid)
  | .consumeData dp tid => .consumeData room peer .recv dp (some tid)

def kind : Request → Kind
  | .createTransport _ => .transportCreated
  | .routerCapabilities => .routerCaps
  | .consume _ _ _ => .consumed
  | .createDataProducer _ _ _ => .dataProducerCreated
  | .consumeData _ _ => .dataConsumed

end Request

/-- Errors end the wait, but for the server's word that a transport is connected. -/
def onOther : SignalingMessage → Verdict
  | .error _ message => if message = transportConnected then .skip else .stop
  | _ => .skip

def awaitTransportCreated : SignalingMessage → Verdict
  | .webRtcTransportCreated .. => .take
  | m => onOther m

def awaitConsumed : SignalingMessage → Verdict
  | .consumed .. => .take
  | m => onOther m

def awaitDataProducerCreated : SignalingMessage → Verdict
  | .dataProducerCreated .. => .take
  | m => onOther m

def awaitRouterCaps : SignalingMessage → Verdict
  | .routerRtpCapabilities .. => .take
  | _ => .stop

def awaitDataConsumed : SignalingMessage → Verdict
  | .dataConsumed _ _ _ (some _) _ _ => .take
  | .dataConsumed _ _ _ none _ _ => .stop
  | m => onOther m

/-- `next_msg` and the wait for the answer to a request: every event but a message ends it. -/
def Request.verdict (r : Request) : LinkEvent → Verdict
  | .message m =>
      match r with
      | .createTransport _ => awaitTransportCreated m
      | .routerCapabilities => awaitRouterCaps m
      | .consume _ _ _ => awaitConsumed m
      | .createDataProducer _ _ _ => awaitDataProducerCreated m
      | .consumeData _ _ => awaitDataConsumed m
  | _ => .stop

inductive EngineOp
  | createPc
  | setDcOffer (ice : IceParameters) (dtls : DtlsParameters)
      (candidates : Option (List IceCandidate))
  | setVideoOffer (ice : IceParameters) (dtls : DtlsParameters)
      (candidates : Option (List IceCandidate)) (rtpParameters : JsonValue)
  | createDataChannel (label : String)
  | openNegotiated (params : SctpStreamParameters) (label protocol : String)
  | answer
  | localFingerprint
  | dcId (label : String)
  deriving DecidableEq

structure EngineReply where
  fingerprint : String
  id : ℤ
  deriving DecidableEq

inductive Lock
  | consume
  | events
  deriving DecidableEq

/-- What is left of a call. `establish` is where the pump keeps the transport for later rounds. -/
inductive Prog
  | done
  | fail
  | lock (l : Lock) (k : Prog)
  | takePumpEvents (k : Prog)
  | engine (op : EngineOp) (k : EngineReply → Prog)
  | tell (m : SignalingMessage) (k : Prog)
  | ask (r : Request) (k : SignalingMessage → Prog)
  | establish (transportId : String) (k : Prog)

def connectTransport (room peer transportId : String) (k : Prog) : Prog :=
  .engine .localFingerprint fun r =>
    .tell (.connectWebRtcTransport room peer transportId
      ⟨[⟨"sha-256", r.fingerprint⟩], "client"⟩) k

/-- The receive path of one video producer, as `consume` and the replay build it. -/
def consumeSequence (room peer producerId : String) : Prog :=
  .ask (.createTransport .recv) fun
    | .webRtcTransportCreated _ _ tid ice dtls candidates _ =>
        .engine .createPc fun _ =>
        .ask .routerCapabilities fun
          | .routerRtpCapabilities _ caps =>
              .ask (.consume producerId caps tid) fun
                | .consumed _ _ _ _ rtp =>
                    .engine (.setVideoOffer ice dtls candidates rtp) fun _ =>
                    .engine .answer fun _ =>
                    connectTransport room peer tid .done
                | _ => .fail
          | _ => .fail
    | _ => .fail

def sctpStreamParams (label : String) (id : ℤ) : Option SctpStreamParameters :=
  if 0 ≤ id ∧ id < 65536 then
    some (if label = "gimbal" then ⟨id.toNat, false, none, some 5⟩
      else ⟨id.toNat, true, none, none⟩)
  else none

def createDataChannels (k : Prog) : List String → Prog
  | [] => k
  | label :: rest => .engine (.createDataChannel label) fun _ => createDataChannels k rest

def createDataProducers (transportId : String) : List String → Prog
  | [] => .done
  | label :: rest =>
      .engine (.dcId label) fun r =>
        match sctpStreamParams label r.id with
        | some sp =>
            .ask (.createDataProducer label sp transportId) fun
              | .dataProducerCreated .. => createDataProducers transportId rest
              | _ => .fail
        | none => .fail

def openControl (room peer : String) (labels : List String) : Prog :=
  .takePumpEvents <|
  .ask (.createTransport .send) fun
    | .webRtcTransportCreated _ _ tid ice dtls candidates _ =>
        .engine .createPc fun _ =>
        .engine (.setDcOffer ice dtls candidates) fun _ =>
        createDataChannels
          (.engine .answer fun _ =>
            connectTransport room peer tid (createDataProducers tid labels)) labels
    | _ => .fail

def consumeAck (dataProducerId transportId : String) : Prog :=
  .ask (.consumeData dataProducerId transportId) fun
    | .dataConsumed _ _ _ (some sp) label protocol =>
        .engine (.openNegotiated sp label protocol) fun _ => .done
    | _ => .fail

def openDcRecvTransport (room peer : String) (k : String → Prog) : Prog :=
  .ask (.createTransport .recv) fun
    | .webRtcTransportCreated _ _ tid ice dtls candidates _ =>
        .engine .createPc fun _ =>
        .engine (.setDcOffer ice dtls candidates) fun _ =>
        .engine .answer fun _ =>
        connectTransport room peer tid (.establish tid (k tid))
    | _ => .fail

def ackRound (room peer dataProducerId : String) : Option String → Prog
  | some tid => consumeAck dataProducerId tid
  | none => openDcRecvTransport room peer (consumeAck dataProducerId)

/-- Which call a task is. A replay has taken the lock when it has its list of slots, and the slot at
hand is the first of them. -/
inductive Who
  | consume (producerId : String)
  | openControl
  | waitVideoProducer (label : Option String) (draining : Bool)
  | replayStart
  | replay (slot : String) (rest : List String) (attempt : ℕ)
  | pump (draining : Bool) (seed : List String) (transport : Option String)
  deriving DecidableEq

inductive Source
  | main
  | pump
  | own (rx : Receiver)
  deriving DecidableEq

/-- `asked` is the request whose answer the call waits for. `held` lists the answers it has taken:
its request, and the request that the answer was to. -/
structure Task where
  who : Who
  source : Source
  prog : Prog
  asked : Option ℕ
  held : List (ℕ × Option ℕ)
  pumpEvents : Bool

/-- A link that is closing has said so and still takes messages, which nobody will read. One whose
write has failed is broken, and says nothing. -/
inductive Link
  | up
  | closing
  | down
  | broken
  deriving DecidableEq

/-- A request that the server has not answered. A connect is no request of its own kind: its answer
is an error frame. -/
structure Owed where
  id : ℕ
  request : Option Request
  deriving DecidableEq

/-- The link and the streams behind it. `server` are the messages on the way up and at the server,
oldest first; `forwarder` is the stream that the forwarder reads, `dead` its notice. -/
structure Wires where
  link : Link
  firstLink : Bool
  server : List Owed
  forwarder : Option Receiver
  dead : Bool
  main : Receiver
  pump : Receiver

structure RoomSession extends Wires where
  room : String
  peer : String
  pumpTaken : Bool
  consumeLock : Option ℕ
  eventsLock : Option ℕ
  supervisor : Option ℕ
  slots : List String
  tasks : FiniteMap ℕ Task
  nextTask : ℕ
  nextRequest : ℕ

def Wires.receiver (w : Wires) : Source → Receiver
  | .main => w.main
  | .pump => w.pump
  | .own rx => rx

def Task.relayed (x : Tagged) (t : Task) : Task :=
  match t.source with
  | .own rx => { t with source := .own (rx.send evRelayCap x) }
  | _ => t

namespace RoomSession

def start (room peer : String) : RoomSession :=
  { room := room
    peer := peer
    link := .up
    firstLink := true
    server := []
    forwarder := some .fresh
    dead := false
    main := .fresh
    pump := .fresh
    pumpTaken := false
    consumeLock := none
    eventsLock := none
    supervisor := none
    slots := []
    tasks := ∅
    nextTask := 0
    nextRequest := 0 }

/-- The link sends an event: the forwarder gets it, and the pump's stream while this link is the
first. -/
def emit (s : RoomSession) (x : Tagged) : RoomSession :=
  { s with
    forwarder := s.forwarder.map (·.send linkCap x)
    pump := if s.firstLink then s.pump.send linkCap x else s.pump }

def relay (s : RoomSession) (x : Tagged) : RoomSession :=
  { s with
    main := s.main.send evRelayCap x
    tasks := s.tasks.mapValues fun _ => Task.relayed x }

def runForwarder (s : RoomSession) : RoomSession :=
  match s.forwarder with
  | none => s
  | some rx =>
      if rx.lagged then { s with forwarder := some { rx with lagged := false } }
      else
        match rx.queue with
        | [] => s
        | x :: rest =>
            match x.event with
            | .disconnected _ => { s.relay x with forwarder := none, dead := true }
            | _ => { s.relay x with forwarder := some { rx with queue := rest } }

def putReceiver (s : RoomSession) (rx : Receiver) (t : Task) : RoomSession × Task :=
  match t.source with
  | .main => ({ s with main := rx }, t)
  | .pump => ({ s with pump := rx }, t)
  | .own _ => (s, { t with source := .own rx })

def putTask (s : RoomSession) (i : ℕ) (t : Task) : RoomSession :=
  { s with tasks := s.tasks.set i t }

def free (s : RoomSession) (i : ℕ) : RoomSession :=
  { s with
    consumeLock := if s.consumeLock = some i then none else s.consumeLock
    eventsLock := if s.eventsLock = some i then none else s.eventsLock }

def leave (s : RoomSession) (i : ℕ) : RoomSession :=
  { s.free i with tasks := s.tasks.remove i }

def spawn (s : RoomSession) (t : Task) : RoomSession :=
  { s with tasks := s.tasks.set s.nextTask t, nextTask := s.nextTask + 1 }

def replayTask (s : RoomSession) (slot : String) (rest : List String) (attempt : ℕ) : Task :=
  { who := .replay slot rest attempt
    source := .own .fresh
    prog := consumeSequence s.room s.peer slot
    asked := none
    held := []
    pumpEvents := false }

/-- The next slot of a replay. At the end the supervisor drops the notices that have come since. -/
def replayNext (s : RoomSession) (i : ℕ) : List String → RoomSession
  | [] => { s.leave i with supervisor := none, dead := false }
  | slot :: rest => s.putTask i (s.replayTask slot rest 1)

def pumpTask : Task :=
  { who := .pump true [] none
    source := .pump
    prog := .done
    asked := none
    held := []
    pumpEvents := true }

def replayAttempts : ℕ := 3

def finish (s : RoomSession) (i : ℕ) (t : Task) (ok : Bool) : RoomSession :=
  match t.who with
  | .consume producerId =>
      if ok then { s.leave i with slots := s.slots ++ [producerId] } else s.leave i
  | .openControl => if ok then (s.leave i).spawn pumpTask else s.leave i
  | .waitVideoProducer _ _ => s.leave i
  | .replayStart => if ok then s.replayNext i s.slots else s
  | .replay slot rest attempt =>
      if ok ∨ replayAttempts ≤ attempt then s.replayNext i rest
      else s.putTask i (s.replayTask slot rest (attempt + 1))
  | .pump _ _ _ => s.putTask i { t with prog := .done, asked := none }

def read (s : RoomSession) (i : ℕ) (t : Task) (r : Request) (k : SignalingMessage → Prog)
    (q : ℕ) : RoomSession :=
  let rx := s.receiver t.source
  if rx.lagged then
    let (s, t) := s.putReceiver { rx with lagged := false } t
    s.finish i t false
  else
    match rx.queue with
    | [] => s
    | x :: rest =>
        let (s, t) := s.putReceiver { rx with queue := rest } t
        match r.verdict x.event, x.event with
        | .take, .message m =>
            s.putTask i { t with prog := k m, asked := none, held := (q, x.origin) :: t.held }
        | .skip, _ => s.putTask i t
        | _, _ => s.finish i t false

def ask (s : RoomSession) (i : ℕ) (t : Task) (r : Request) : RoomSession :=
  let asking := { t with asked := some s.nextRequest }
  match s.link with
  | .up =>
      { s.putTask i asking with
        server := s.server ++ [⟨s.nextRequest, some r⟩], nextRequest := s.nextRequest + 1 }
  | .closing => { s.putTask i asking with nextRequest := s.nextRequest + 1 }
  | .down | .broken => s.finish i t false

def tell (s : RoomSession) (i : ℕ) (t : Task) (k : Prog) : RoomSession :=
  let told := { t with prog := k }
  match s.link with
  | .up =>
      { s.putTask i told with
        server := s.server ++ [⟨s.nextRequest, none⟩], nextRequest := s.nextRequest + 1 }
  | .closing => { s.putTask i told with nextRequest := s.nextRequest + 1 }
  | .down | .broken => s.finish i t false

/-- `await_ack_producer`, and before it the drain of what has come since the connect. -/
def pumpTurn (s : RoomSession) (i : ℕ) (t : Task) (draining : Bool) (seed : List String)
    (transport : Option String) : RoomSession :=
  let round (s : RoomSession) (seed : List String) (dp : String) : RoomSession :=
    s.putTask i { t with
      who := .pump false seed transport, prog := ackRound s.room s.peer dp transport }
  if draining then
    match s.pump.lagged, s.pump.queue with
    | true, _ => { s with pump := { s.pump with lagged := false } }
    | false, [] => s.putTask i { t with who := .pump false seed transport }
    | false, x :: rest =>
        let s := { s with pump := { s.pump with queue := rest } }
        match x.event with
        | .message (.newDataProducer _ dp peer label _) =>
            if label = ackLabel ∧ peer ≠ s.peer then
              s.putTask i { t with who := .pump true (dp :: seed) transport }
            else s
        | _ => s
  else
    match seed with
    | dp :: seed => round s seed dp
    | [] =>
        match s.pump.lagged, s.pump.queue with
        | true, _ => { s with pump := { s.pump with lagged := false } }
        | false, [] => s
        | false, x :: rest =>
            let s := { s with pump := { s.pump with queue := rest } }
            match x.event with
            | .message (.newDataProducer _ dp peer label _) =>
                if label = ackLabel ∧ peer ≠ s.peer then round s [] dp else s
            | _ => s

/-- The wait for a producer reads the relayed stream too, and drops what it reads. -/
def waitTurn (s : RoomSession) (i : ℕ) (t : Task) (label : Option String) (draining : Bool) :
    RoomSession :=
  let drop (rest : List Tagged) : RoomSession :=
    { s with main := { s.main with queue := rest } }
  match draining, s.main.lagged, s.main.queue with
  | true, true, _ =>
      { s with main := { s.main with lagged := false } }.putTask i
        { t with who := .waitVideoProducer label false }
  | true, false, [] => s.putTask i { t with who := .waitVideoProducer label false }
  | true, false, _ :: rest => drop rest
  | false, true, _ => { s with main := { s.main with lagged := false } }.leave i
  | false, false, [] => s
  | false, false, x :: rest =>
      match x.event with
      | .message (.newProducer _ _ _ .video l) =>
          if label.isNone ∨ l = label then (drop rest).leave i else drop rest
      | .disconnected _ => (drop rest).leave i
      | _ => drop rest

def lockHolder (s : RoomSession) : Lock → Option ℕ
  | .consume => s.consumeLock
  | .events => s.eventsLock

def takeLock (s : RoomSession) (i : ℕ) : Lock → RoomSession
  | .consume => { s with consumeLock := some i }
  | .events => { s with eventsLock := some i }

def Task.establish (t : Task) (tid : String) : Task :=
  match t.who with
  | .pump draining seed _ => { t with who := .pump draining seed (some tid) }
  | _ => t

def turn (s : RoomSession) (i : ℕ) (t : Task) (reply : EngineReply) : RoomSession :=
  match t.prog with
  | .done =>
      match t.who with
      | .pump draining seed transport => s.pumpTurn i t draining seed transport
      | .waitVideoProducer label draining => s.waitTurn i t label draining
      | _ => s.finish i t true
  | .fail => s.finish i t false
  | .lock l k =>
      match s.lockHolder l with
      | none => (s.takeLock i l).putTask i { t with prog := k }
      | some _ => s
  | .takePumpEvents k =>
      if s.pumpTaken then s.finish i t false
      else { s.putTask i { t with prog := k, pumpEvents := true } with pumpTaken := true }
  | .engine _ k => s.putTask i { t with prog := k reply }
  | .tell _ k => s.tell i t k
  | .ask r k =>
      match t.asked with
      | none => s.ask i t r
      | some q => s.read i t r k q
  | .establish tid k => s.putTask i { Task.establish t tid with prog := k }

/-- A reconnect: the new link replaces the old one, and the supervisor goes on to the replay. -/
def reconnect (s : RoomSession) : RoomSession :=
  { s with
    link := .up
    firstLink := false
    server := []
    forwarder := some .fresh
    dead := false
    supervisor := some s.nextTask }.spawn
    { who := .replayStart
      source := .own .fresh
      prog := .lock .consume .done
      asked := none
      held := []
      pumpEvents := false }

end RoomSession

def Owed.answeredBy (o : Owed) : LinkEvent → Bool
  | .message (.error code message) =>
      if message = transportConnected then code = 0 ∧ o.request = none else true
  | .message m => o.request.isSome ∧ replyKind m = o.request.map Request.kind
  | .error _ => true
  | .disconnected _ => false

inductive SessionAction
  | consume (producerId : String)
  | openControl (labels : List String)
  | waitVideoProducer (label : Option String)
  | turn (i : ℕ) (reply : EngineReply)
  | fail (i : ℕ)
  | answer (e : LinkEvent)
  | notice (m : SignalingMessage)
  | garbled (text : String)
  | forward
  | hangUp (reason : String)
  | linkEnds
  | reconnect
  | withdraw (producerId : String)
  deriving DecidableEq

def Who.withdraw (p : String) : Who → Who
  | .replay slot rest attempt => .replay slot (rest.erase p) attempt
  | w => w

/-- `fail` is a wait that is over, an error of the engine, or a call that is dropped. `notice` is
what the server sends unasked. `hangUp` is the link's `Disconnected`, and `linkEnds` the end of the
link's task. -/
def RoomSession.step (s : RoomSession) : SessionAction → RoomSession
  | .consume p =>
      s.spawn ⟨.consume p, .main, .lock .consume (.lock .events (consumeSequence s.room s.peer p)),
        none, [], false⟩
  | .openControl labels =>
      s.spawn ⟨.openControl, .main, .lock .events (openControl s.room s.peer labels), none, [],
        false⟩
  | .waitVideoProducer label =>
      s.spawn ⟨.waitVideoProducer label true, .main, .lock .events .done, none, [], false⟩
  | .turn i reply =>
      match s.tasks.get i with
      | some t => s.turn i t reply
      | none => s
  | .fail i =>
      match s.tasks.get i with
      | some t => s.finish i t false
      | none => s
  | .answer e =>
      match s.server with
      | o :: rest =>
          if s.link = .up ∧ o.answeredBy e then { s with server := rest }.emit ⟨e, some o.id⟩ else s
      | [] => s
  | .notice m =>
      if s.link = .up ∧ replyKind m = none then s.emit ⟨.message m, none⟩ else s
  | .garbled text => if s.link = .up then s.emit ⟨.error text, none⟩ else s
  | .forward => s.runForwarder
  | .hangUp reason =>
      if s.link = .up then
        { s with link := .closing, server := [] }.emit ⟨.disconnected reason, none⟩
      else s
  | .linkEnds =>
      match s.link with
      | .up => { s with link := .broken, server := [] }
      | .closing => { s with link := .down }
      | .down | .broken => s
  | .reconnect => if s.dead ∧ s.supervisor = none then s.reconnect else s
  | .withdraw p =>
      { s with
        slots := s.slots.erase p
        tasks := s.tasks.mapValues fun _ t => { t with who := t.who.withdraw p } }

end MediaServo.Client
