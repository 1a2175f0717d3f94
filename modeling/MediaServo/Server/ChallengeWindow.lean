import MediaServo.Server.DeviceAuth
import MediaServo.Server.TextFrames

/-! A connection from its RoomJoin to its relay loop, on the frames that come in. The rest of the
server may be in any state at each step; what the end of a session leaves to clean up belongs to that
rest. -/

namespace MediaServo.Server

open MediaServo.Foundations MediaServo.Common

/-- A frame of the socket. `failed` is an error frame, `gone` the end of the stream. -/
inductive WsFrame
  | text (t : String)
  | binary
  | ping
  | pong
  | close
  | failed
  | gone
  deriving DecidableEq

/-- What the server brings to a connection. A message that cannot be written is `none`. -/
structure Handler where
  crypto : Crypto
  reader : TextReader
  sendMsg : SignalingMessage → Option String
  level : LogLevel

def Handler.write (k : Handler) (m : SignalingMessage) : String := (k.sendMsg m).getD ""

structure World where
  auth : AuthServer
  server : SignalingServer
  raw : List (String × String)

inductive Stage
  | entering (c : AuthConn)
  | relaying (c : Session) (deferred : List SignalingMessage)
  | ended

structure Connection where
  inbox : List WsFrame
  stage : Stage

def Stage.ofAuth (c : AuthConn) : Stage :=
  match c.phase with
  | .closed => .ended
  | _ => .entering c

/-- What a turn may draw: the bytes of a nonce, a ticket, and the answers of the SFU worker. -/
structure Draw where
  nonce : List UInt8
  ticket : String
  worker : Worker

variable (k : Handler)

def AuthConn.take (c : AuthConn) (r : DeviceRegistry) (nonce : List UInt8) : WsFrame → AuthConn
  | .text t =>
      match k.reader.message t with
      | some msg => AuthServer.receive k.crypto r c msg nonce
      | none => c
  | .close | .gone => c.close
  | _ => c

/-- A text in the relay loop. A loop that stops in the middle of it is over. -/
def World.relay (w : World) (c : Session) (t : String) (d : Draw) : Option (World × Bool) :=
  (w.server.relayText k.reader k.level c t d.worker).map fun r =>
    ({ w with server := r.server, raw := w.raw ++ r.raw.toList }, r.ended)

/-- How the relay loop goes on after a text, with these deferred messages left. -/
def World.relayed (w : World) (c : Session) (t : String) (d : Draw) (inbox : List WsFrame)
    (deferred : List SignalingMessage) : World × Connection :=
  match w.relay k c t d with
  | some (w', false) => (w', ⟨inbox, .relaying c deferred⟩)
  | some (w', true) => (w', ⟨inbox, .ended⟩)
  | none => (w, ⟨inbox, .ended⟩)

def AuthConn.settle (c : AuthConn) (s : AuthServer) : AuthServer × AuthConn :=
  match c.phase with
  | .verified _ => s.policyGate k.crypto c
  | .lostRace _ => (s, AuthServer.recheck s.registry c)
  | .enrolled _ => s.clearPending c
  | _ => (s, c)

namespace Connection

def enter (x : Connection) (w : World) (c : AuthConn) (d : Draw) : World × Connection :=
  match c.phase with
  | .waiting | .challenged _ =>
      match x.inbox with
      | [] => (w, x)
      | f :: rest => (w, ⟨rest, .ofAuth (c.take k w.auth.registry d.nonce f)⟩)
  | .joining q =>
      let j := w.server.roomJoin q d.ticket
      ({ w with server := j.server }, ⟨x.inbox, j.session.elim .ended (.relaying · c.deferred)⟩)
  | _ =>
      let r := c.settle k w.auth
      ({ w with auth := r.1 }, ⟨x.inbox, .ofAuth r.2⟩)

/-- A turn of the relay loop: the deferred messages come first. -/
def loop (x : Connection) (w : World) (c : Session) (deferred : List SignalingMessage) (d : Draw) :
    World × Connection :=
  match deferred with
  | m :: rest => w.relayed k c (k.write m) d x.inbox rest
  | [] =>
      match x.inbox with
      | [] => (w, x)
      | .text t :: rest => w.relayed k c t d rest []
      | .close :: rest | .failed :: rest | .gone :: rest => (w, ⟨rest, .ended⟩)
      | _ :: rest => (w, ⟨rest, .relaying c []⟩)

def turn (x : Connection) (w : World) (d : Draw) : World × Connection :=
  match x.stage with
  | .entering c => x.enter k w c d
  | .relaying c deferred => x.loop k w c deferred d
  | .ended => (w, x)

def timeout (x : Connection) : Connection :=
  match x.stage with
  | .entering c => { x with stage := .ofAuth (AuthServer.elapsed c) }
  | _ => x

/-- Too long without a sign of life: looked at once the deferred messages are through. -/
def heartbeat (x : Connection) : Connection :=
  match x.stage with
  | .relaying _ [] => { x with stage := .ended }
  | _ => x

end Connection

inductive WindowAction
  | arrive (f : WsFrame)
  | turn (d : Draw)
  | timeout
  | heartbeat
  | shutdown
  | others (w : World)

structure Served where
  world : World
  conn : Connection

def Served.start (w : World) (peerId : String) (account : Option AccountIdentity) : Served :=
  ⟨w, ⟨[], .entering ⟨peerId, account, .waiting, none, none, [], []⟩⟩⟩

def Served.step (s : Served) : WindowAction → Served
  | .arrive f => { s with conn.inbox := s.conn.inbox ++ [f] }
  | .turn d => ⟨(s.conn.turn k s.world d).1, (s.conn.turn k s.world d).2⟩
  | .timeout => { s with conn := s.conn.timeout }
  | .heartbeat => { s with conn := s.conn.heartbeat }
  | .shutdown => { s with conn.stage := .ended }
  | .others w => { s with world := w }

end MediaServo.Server
