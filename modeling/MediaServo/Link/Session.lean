import MediaServo.Foundations.Runs
import MediaServo.Common.Protocol

/-! A signaling session of the link layer: the background task behind the socket, its two upstream
queues, the event channel, and the loop of the gateway that waits on that channel. An action is one
turn of a loop, with what the socket answered. -/

namespace MediaServo.Link

open MediaServo.Foundations MediaServo.Common

def eventsCap : ℕ := 64

def loQueueCap : ℕ := 16

inductive SignalEvent
  | connected (roomId : String)
  | message (msg : SignalingMessage)
  | disconnected (reason : String)
  | error (text : String)
  deriving DecidableEq

structure LocalEnvelope where
  src : String
  msg : SignalingMessage
  deriving DecidableEq

/-- The JSON texts of messages and envelopes, as the serialization library makes and reads them. -/
structure Codec where
  readMessage : String → Except String SignalingMessage
  readEnvelope : String → Except String LocalEnvelope
  writeMessage : SignalingMessage → Except String String
  writeEnvelope : LocalEnvelope → Except String String

inductive Incoming
  | text (t : String)
  | close
  | eof
  | other
  | failed (e : String)
  deriving DecidableEq

inductive Frame
  | text (t : String)
  | ping
  deriving DecidableEq

inductive Ending
  | explicitClose
  | remoteClose
  | readError
  | silence
  | pingFailure
  | writeFailure
  deriving DecidableEq

/-- `unread` are the events that the waiting loop has not taken yet, `none` before it subscribes. -/
structure Consumer where
  unread : Option (List SignalEvent)
  left : Bool
  deriving DecidableEq

/-- `emitted` lists everything sent on the event channel, `written` everything put on the socket,
oldest first. `callback` holds while a disconnect callback is registered and has not run. -/
structure Session where
  gatewaySrc : Option String
  hi : List SignalingMessage
  lo : List SignalingMessage
  closed : Bool
  callback : Bool
  fired : ℕ
  emitted : List SignalEvent
  written : List Frame
  ended : Option Ending
  consumer : Consumer
  deriving DecidableEq

def isLowPriority : SignalingMessage → Bool
  | .statusReport .. => true
  | _ => false

namespace Consumer

/-- The channel keeps the newest events: a slow reader loses the oldest ones. -/
def receive (c : Consumer) (e : SignalEvent) : Consumer :=
  { c with unread := c.unread.map fun es =>
      if es.length < eventsCap then es ++ [e] else es.tail ++ [e] }

end Consumer

namespace Session

/-- A session right after the join was answered: the task is spawned and the joining code
announces the room to the subscribers, of whom there are none yet. -/
def start (gatewaySrc : Option String) (roomId : String) : Session :=
  { gatewaySrc := gatewaySrc
    hi := []
    lo := []
    closed := false
    callback := false
    fired := 0
    emitted := [.connected roomId]
    written := []
    ended := none
    consumer := ⟨none, false⟩ }

def emit (s : Session) (e : SignalEvent) : Session :=
  { s with emitted := s.emitted ++ [e], consumer := s.consumer.receive e }

def fireDisconnect (s : Session) : Session :=
  if s.callback then { s with callback := false, fired := s.fired + 1 } else s

def finish (s : Session) (e : Ending) : Session := { s with ended := some e }

def parse (c : Codec) (gatewaySrc : Option String) (t : String) : Except String SignalingMessage :=
  match gatewaySrc with
  | some _ =>
      match c.readEnvelope t with
      | .ok env => .ok env.msg
      | .error e => .error ("parse envelope: " ++ e)
  | none =>
      match c.readMessage t with
      | .ok m => .ok m
      | .error e => .error ("parse message: " ++ e)

def serialize (c : Codec) (gatewaySrc : Option String) (m : SignalingMessage) :
    Except String String :=
  match gatewaySrc with
  | some src =>
      match c.writeEnvelope ⟨src, m⟩ with
      | .ok t => .ok t
      | .error e => .error ("serialize envelope: " ++ e)
  | none =>
      match c.writeMessage m with
      | .ok t => .ok t
      | .error e => .error ("serialize: " ++ e)

def read (c : Codec) (s : Session) : Incoming → Session
  | .text t =>
      match parse c s.gatewaySrc t with
      | .ok m => s.emit (.message m)
      | .error e => s.emit (.error e)
  | .close | .eof =>
      ((s.emit (.disconnected "connection closed")).fireDisconnect).finish .remoteClose
  | .other => s
  | .failed e =>
      (((s.emit (.error e)).emit (.disconnected ("ws read error: " ++ e))).fireDisconnect).finish
        .readError

def write (c : Codec) (s : Session) (m : SignalingMessage) (accepted : Bool) : Session :=
  match serialize c s.gatewaySrc m with
  | .error e => s.emit (.error e)
  | .ok t =>
      if accepted then { s with written := s.written ++ [.text t] }
      else s.fireDisconnect.finish .writeFailure

def recvHi (c : Codec) (s : Session) (accepted : Bool) : Session :=
  match s.hi with
  | m :: rest => write c { s with hi := rest } m accepted
  | [] => if s.closed then s.finish .explicitClose else s

/-- The low queue is served only while the high one has nothing to offer. -/
def recvLo (c : Codec) (s : Session) (accepted : Bool) : Session :=
  match s.hi, s.lo with
  | [], m :: rest => if s.closed then s else write c { s with lo := rest } m accepted
  | _, _ => s

def heartbeat (s : Session) (silent accepted : Bool) : Session :=
  if s.gatewaySrc.isSome then s
  else if silent then
    ((s.emit (.disconnected "heartbeat silent >15s")).fireDisconnect).finish .silence
  else if accepted then { s with written := s.written ++ [.ping] }
  else s.fireDisconnect.finish .pingFailure

def close (s : Session) : Session := { s with closed := true }

def send (s : Session) (m : SignalingMessage) : Session :=
  if s.closed then s
  else if isLowPriority m then
    if s.lo.length < loQueueCap then { s with lo := s.lo ++ [m] } else s
  else { s with hi := s.hi ++ [m] }

/-- The waiting loop hands a message to the session; it leaves when the queue's reader is gone. -/
def forward (s : Session) (m : SignalingMessage) : Session :=
  if s.consumer.left ∨ s.consumer.unread.isNone then s
  else if s.ended.isSome ∧ ¬isLowPriority m then
    { s with closed := true, consumer := { s.consumer with left := true } }
  else s.send m

def subscribe (s : Session) : Session :=
  if s.consumer.unread.isNone then { s with consumer := { s.consumer with unread := some [] } }
  else s

/-- The waiting loop takes its next event; on a disconnect it leaves and drops the session. -/
def take (s : Session) : Session :=
  if s.consumer.left then s
  else
    match s.consumer.unread with
    | some (.disconnected _ :: rest) => { s with closed := true, consumer := ⟨some rest, true⟩ }
    | some (_ :: rest) => { s with consumer := ⟨some rest, false⟩ }
    | _ => s

end Session

inductive Action
  | read (i : Incoming)
  | recvHi (accepted : Bool)
  | recvLo (accepted : Bool)
  | heartbeat (silent accepted : Bool)
  | send (m : SignalingMessage)
  | onDisconnect
  | close
  | subscribe
  | take
  | forward (m : SignalingMessage)
  deriving DecidableEq

def Session.taskStep (c : Codec) (s : Session) : Action → Session
  | .read i => Session.read c s i
  | .recvHi accepted => Session.recvHi c s accepted
  | .recvLo accepted => Session.recvLo c s accepted
  | .heartbeat silent accepted => s.heartbeat silent accepted
  | _ => s

def Session.ownerStep (s : Session) : Action → Session
  | .send m => s.send m
  | .onDisconnect => { s with callback := true }
  | .close => s.close
  | .subscribe => s.subscribe
  | .take => s.take
  | .forward m => s.forward m
  | _ => s

/-- Once the task has ended its turns change nothing; its owner goes on. -/
def Session.step (c : Codec) (s : Session) (a : Action) : Session :=
  (if s.ended.isSome then s else Session.taskStep c s a).ownerStep a

end MediaServo.Link
