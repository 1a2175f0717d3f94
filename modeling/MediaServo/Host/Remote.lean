import MediaServo.Foundations.Runs
import MediaServo.Host.Gateway

/-! The gateway with its connections: child processes, the upstream queues, the remote session
and its event channel. Each action is the code between two suspension points. -/

namespace MediaServo.Host

open MediaServo.Foundations MediaServo.Common

def loCap : ℕ := 16

def eventCap : ℕ := 64

structure Upbound where
  origin : Option ℕ
  msg : SignalingMessage
  deriving DecidableEq

abbrev Request := ℕ × SignalingMessage

/-- An event of the remote session. A message is listed with the request that it answers. -/
inductive Event
  | message (answers : Option Request) (msg : SignalingMessage)
  | error
  deriving DecidableEq

structure UpstreamQueue where
  hi : List Upbound
  lo : List Upbound
  deriving DecidableEq

def isStatusReport : SignalingMessage → Bool
  | .statusReport .. => true
  | _ => false

def UpstreamQueue.push (q : UpstreamQueue) (m : Upbound) : UpstreamQueue :=
  if isStatusReport m.msg then
    if q.lo.length < loCap then { q with lo := q.lo ++ [m] } else q
  else { q with hi := q.hi ++ [m] }

def isReport : SignalingMessage → Bool
  | .statusReport .. | .encoderStatus .. => true
  | _ => false

/-- `requests` are those that the server has received on this session and not answered, `events`
those that the gateway has received and not handled, both oldest first. `resumeTicket` is what the
next connection offers to the server. `delivered` lists what was handed to the connections, oldest
first. -/
structure Gateway where
  state : State
  queue : UpstreamQueue
  requests : List Request
  events : List Event
  reconnected : Bool
  resumeTicket : Option String
  delivered : List (ℕ × SignalingMessage)

inductive Action
  | accept
  | child (connId : ℕ) (src : String) (msg : SignalingMessage)
  | close (connId : ℕ)
  | report (msg : SignalingMessage)
  | takeConfigPush
  | connect (peerId : String) (negotiated : ℕ) (sessionNonce : Option String)
  | sendHi
  | sendLo
  | answer (msg : SignalingMessage)
  | remote (msg : SignalingMessage)
  | garbled
  | deliver
  | disconnect

def Upbound.request (m : Upbound) : Option Request :=
  if isSfuRequest m.msg then m.origin.map (·, m.msg) else none

def Event.answers? : Event → Option Request
  | .message answers _ => answers
  | .error => none

namespace Gateway

def init (vehicleRoom : String) : Gateway := 
  ⟨State.init vehicleRoom, ⟨[], []⟩, [], [], false, none, []⟩

def accept (g : Gateway) : Gateway :=
  { g with state := { g.state with
      conns := g.state.conns.set g.state.nextId ⟨g.state.nextId, "", "", none⟩
      nextId := g.state.nextId + 1 } }

def perform (g : Gateway) (connId : ℕ) (st : State) : UpstreamAction → Gateway
  | .forward m => { g with state := st, queue := g.queue.push ⟨some connId, m⟩ }
  | .reply m => { g with state := st, delivered := g.delivered ++ [(connId, m)] }
  | .drop => { g with state := st }

def child (g : Gateway) (connId : ℕ) (src : String) (msg : SignalingMessage) : Gateway :=
  if g.state.conns.contains connId then
    let seen := { g.state with conns := g.state.conns.adjust connId ({ · with src := src }) }
    let routed := seen.upstream connId msg
    g.perform connId routed.1 routed.2
  else g

def close (g : Gateway) (connId : ℕ) : Gateway :=
  let told := match (g.state.conns.get connId).bind Conn.producerKey with
    | some (peer, room) => g.queue.push ⟨some connId, .downstreamGone peer room⟩
    | none => g.queue
  { g with state := g.state.removeConn connId, queue := told }

def sendRemote (g : Gateway) (msg : SignalingMessage) : Gateway :=
  if g.state.joined then { g with queue := g.queue.push ⟨none, msg⟩ } else g

def connect (g : Gateway) (peerId : String) (negotiated : ℕ) (sessionNonce : Option String) :
    Gateway :=
  if g.state.joined then g
  else
    let told := if g.reconnected then
        g.state.conns.toList.map (fun e => (e.1, gatewayDisconnectedError))
      else []
    { g with
      state := { g.state with
        joined := true
        vehiclePeerId := peerId
        upstreamNegotiated := negotiated
        pendingResume := none }
      resumeTicket := sessionNonce
      delivered := g.delivered ++ told }

def sendHi (g : Gateway) : Gateway :=
  match g.queue.hi with
  | [] => g
  | m :: rest =>
      if g.state.joined then
        { g with
          queue := { g.queue with hi := rest }
          requests := g.requests ++ m.request.toList }
      else g

def sendLo (g : Gateway) : Gateway :=
  match g.queue.lo with
  | [] => g
  | _ :: rest => if g.state.joined then { g with queue := { g.queue with lo := rest } } else g

def receive (g : Gateway) (e : Event) : Gateway :=
  if ¬g.state.joined then g
  else if g.events.length < eventCap then { g with events := g.events ++ [e] }
  else { g with events := g.events.tail ++ [e] }

def answer (g : Gateway) (msg : SignalingMessage) : Gateway :=
  match g.requests with
  | [] => g
  | q :: rest =>
      if g.state.joined then ({ g with requests := rest }).receive (.message (some q) msg) else g

def deliver (g : Gateway) : Gateway :=
  match g.events with
  | [] => g
  | .error :: rest => { g with events := rest }
  | .message _ msg :: rest =>
      let routed := g.state.downstream msg
      { g with state := routed.1, events := rest, delivered := g.delivered ++ routed.2 }

def disconnect (g : Gateway) : Gateway :=
  if g.state.joined then
    { g with
      state := g.state.resetRemote
      queue := ⟨[], []⟩
      requests := []
      events := []
      reconnected := true }
  else g

def step (g : Gateway) : Action → Gateway
  | .accept => g.accept
  | .child connId src msg => g.child connId src msg
  | .close connId => g.close connId
  | .report msg => if isReport msg then g.sendRemote msg else g
  | .takeConfigPush => { g with state := { g.state with pendingConfig := none } }
  | .connect peerId negotiated nonce => g.connect peerId negotiated nonce
  | .sendHi => g.sendHi
  | .sendLo => g.sendLo
  | .answer msg => g.answer msg
  | .remote msg => g.receive (.message none msg)
  | .garbled => g.receive .error
  | .deliver => g.deliver
  | .disconnect => g.disconnect

/-- The requests of the current session that are queued, sent or answered but not yet paired, in
the order in which they were made. -/
def inFlight (g : Gateway) : List Request :=
  g.events.filterMap Event.answers? ++ g.requests ++ g.queue.hi.filterMap Upbound.request

end Gateway

end MediaServo.Host
