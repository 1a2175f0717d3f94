import MediaServo.Foundations.Runs
import MediaServo.Server.Join

/-! What one joining client is told of the producers of its room. The join subscribes to the room
channel and then replays two snapshots, while the relay task forwards what arrives on the channel
to the same socket; requests and cleanups of other sessions change the SFU at any moment and put
their messages on the channels one by one, at any later moment. No receiver lags. -/

namespace MediaServo.Server

open MediaServo.Foundations MediaServo.Common

def producerReplay (sfu : SfuManager) (roomId : String) : List SignalingMessage :=
  ((sfu.listProducers roomId).getD []).map (fun x => .newProducer roomId x.1 x.2.2.1 x.2.1 x.2.2.2)

def dataProducerReplay (sfu : SfuManager) (roomId : String) : List SignalingMessage :=
  ((sfu.listDataProducers roomId).getD []).map (fun x => .newDataProducer roomId x.1 x.2.2 x.2.1 "")

/-- How far the join is: a replay holds the messages of its snapshot that are still to be sent. -/
inductive SyncPhase
  | away
  | subscribed
  | producers (left : List SignalingMessage)
  | dataProducers (left : List SignalingMessage)
  deriving DecidableEq

/-- `tasks` holds, for each change of the SFU, what its task has not yet put on a channel, `queue`
what the client's receiver holds, and `received` what was sent to the client, oldest first. -/
structure Feed where
  server : SignalingServer
  tasks : List (List (String × SignalingMessage))
  phase : SyncPhase
  queue : List SignalingMessage
  received : List SignalingMessage

/-- A cleanup is several changes of the SFU, with steps of others in between.
`tables` stands for what joins, departures and administrators change besides the SFU. -/
inductive FeedAction
  | request (c : Session) (msg : SignalingMessage) (w : Worker)
  | cleanupGlobal (peerId : String)
  | reclaim (peerId owner : String) (device : Option String)
  | removeRoom (roomId : String)
  | tables (t : SignalingServer)
  | broadcast (i : ℕ)
  | subscribe
  | listProducers
  | listDataProducers
  | replay
  | forward

def heard (view : Finset String) : SignalingMessage → Finset String
  | .newProducer _ id _ _ _ => insert id view
  | .newDataProducer _ id _ _ _ => insert id view
  | .producerClosed _ _ id _ _ => view.erase id
  | _ => view

namespace SyncPhase

def left : SyncPhase → List SignalingMessage
  | .producers l => l
  | .dataProducers l => l
  | _ => []

def advance : SyncPhase → SyncPhase
  | .producers l => .producers l.tail
  | .dataProducers l => .dataProducers l.tail
  | phase => phase

end SyncPhase

namespace Feed

def start (s : SignalingServer) : Feed := ⟨s, [], .away, [], []⟩

def view (f : Feed) : Finset String := f.received.foldl heard ∅

def issued (s t : SignalingServer) : List (String × SignalingMessage) := t.sent.drop s.sent.length

def act (f : Feed) (t : SignalingServer) : Feed :=
  { f with server := t, tasks := f.tasks ++ [issued f.server t] }

def broadcast (roomId : String) (f : Feed) (i : ℕ) : Feed :=
  match f.tasks[i]? with
  | some ((r, msg) :: rest) => { f with
      tasks := f.tasks.set i rest
      queue := if r = roomId ∧ f.phase ≠ .away then f.queue ++ [msg] else f.queue }
  | _ => f

def replay (f : Feed) : Feed :=
  match f.phase.left with
  | [] => f
  | m :: _ => { f with phase := f.phase.advance, received := f.received ++ [m] }

def forward (f : Feed) : Feed :=
  match f.queue with
  | [] => f
  | m :: queue => { f with queue := queue, received := f.received ++ [m] }

def step (roomId : String) (f : Feed) : FeedAction → Feed
  | .request c msg w => f.act (f.server.handleSfuMessage c msg w).1
  | .cleanupGlobal p => f.act (f.server.cleanupGlobal p)
  | .reclaim p owner device => f.act (f.server.reclaim p owner device)
  | .removeRoom r => f.act { f.server with sfuManager := f.server.sfuManager.removeRoom r }
  | .tables t => f.act { t with sfuManager := f.server.sfuManager, sent := f.server.sent }
  | .broadcast i => f.broadcast roomId i
  | .subscribe => if f.phase = .away then { f with phase := .subscribed } else f
  | .listProducers =>
      if f.phase = .subscribed then
        { f with phase := .producers (producerReplay f.server.sfuManager roomId) }
      else f
  | .listDataProducers =>
      if f.phase = .producers [] then
        { f with phase := .dataProducers (dataProducerReplay f.server.sfuManager roomId) }
      else f
  | .replay => f.replay
  | .forward => f.forward

def Settled (f : Feed) : Prop :=
  f.phase = .dataProducers [] ∧ f.queue = [] ∧ ∀ l ∈ f.tasks, l = []

end Feed

end MediaServo.Server
