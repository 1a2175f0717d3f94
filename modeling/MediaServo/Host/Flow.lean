import MediaServo.Foundations.Binary64
import MediaServo.Foundations.FiniteMap

/-! The data-flow monitor: what its drain tasks note of the frames and the publish statistics, and
the snapshots collected from the notes. Instants and timestamps are in nanoseconds. -/

namespace MediaServo.Host.Flow

open MediaServo.Foundations

structure TopicFlow where
  topic : String
  fps : Binary64
  bps : ℕ
  lastTsMonoNs : ℕ
  frames : ℕ
  stalled : Bool
  deriving DecidableEq

structure StreamerStats where
  bytesSent : ℕ
  framesEncoded : ℕ
  frameWidth : ℕ
  frameHeight : ℕ
  codec : String
  avgEncodeMs : Option Binary64
  encoderImplementation : Option String
  deriving DecidableEq

structure StreamFlow where
  id : String
  bytesSent : ℕ
  framesEncoded : ℕ
  frameWidth : ℕ
  frameHeight : ℕ
  connected : Bool
  codec : String
  avgEncodeMs : Option Binary64
  encoderImplementation : Option String
  deriving DecidableEq

structure FlowSnapshot where
  topics : List TopicFlow := []
  streams : List StreamFlow := []

/-- The notes on a topic; all but the last arrival are of the window since the last snapshot. -/
structure TopicState where
  frames : ℕ := 0
  bytes : ℕ := 0
  firstTs : Option ℕ := none
  lastTs : Option ℕ := none
  lastArrival : Option ℕ := none

structure StreamState where
  last : Option StreamerStats := none
  lastStats : Option ℕ := none

structure FlowMonitor where
  topics : FiniteMap String (TopicState × ℕ)
  streams : FiniteMap String StreamState

def statsFreshness : ℕ := 6 * 10 ^ 9

def TopicState.arrival (st : TopicState) (payloadLen ts now : ℕ) : TopicState where
  frames := st.frames + 1
  bytes := st.bytes + payloadLen
  firstTs := some (st.firstTs.getD ts)
  lastTs := some ts
  lastArrival := some now

def TopicState.windowSecs (st : TopicState) : Binary64 :=
  match st.firstTs, st.lastTs with
  | some f, some l => if f < l then .div (.ofInt (l - f)) (.finite (10 ^ 9)) else .finite 0
  | _, _ => .finite 0

def TopicState.rates (st : TopicState) : Binary64 × ℕ :=
  if 2 ≤ st.frames ∧ Binary64.lt (.finite 0) st.windowSecs then
    (.div (.ofInt (st.frames - 1)) st.windowSecs, (Binary64.div (.ofInt st.bytes) st.windowSecs).toU64)
  else (.finite 0, 0)

def TopicState.stalled (st : TopicState) (threshold now : ℕ) : Bool :=
  match st.lastArrival with
  | none => true
  | some t => threshold < now - t

def TopicState.flow (st : TopicState) (name : String) (threshold now : ℕ) : TopicFlow where
  topic := name
  fps := st.rates.1
  bps := st.rates.2
  lastTsMonoNs := st.lastTs.getD 0
  frames := st.frames
  stalled := st.stalled threshold now

def TopicState.reset (st : TopicState) : TopicState :=
  { st with frames := 0, bytes := 0, firstTs := none, lastTs := none }

def StreamState.flow (st : StreamState) (id : String) (now : ℕ) : StreamFlow where
  id := id
  bytesSent := (st.last.map (·.bytesSent)).getD 0
  framesEncoded := (st.last.map (·.framesEncoded)).getD 0
  frameWidth := (st.last.map (·.frameWidth)).getD 0
  frameHeight := (st.last.map (·.frameHeight)).getD 0
  connected := st.last.isSome && st.lastStats.any fun t => now - t < statsFreshness
  codec := (st.last.map (·.codec)).getD ""
  avgEncodeMs := st.last.bind (·.avgEncodeMs)
  encoderImplementation := st.last.bind (·.encoderImplementation)

/-- What happens under one lock: a frame or a statistics line is noted, the line already parsed,
or a collector takes its row of a topic or a stream. -/
inductive Event
  | frame (topic : String) (payloadLen ts now : ℕ)
  | stats (id : String) (parsed : Option StreamerStats) (now : ℕ)
  | topicRow (topic : String) (now : ℕ)
  | streamRow (id : String) (now : ℕ)

def FlowMonitor.step (m : FlowMonitor) : Event → FlowMonitor
  | .frame name payloadLen ts now =>
    { m with topics := m.topics.adjust name fun (st, th) => (st.arrival payloadLen ts now, th) }
  | .stats id parsed now =>
    match parsed with
    | some s => { m with streams := m.streams.adjust id fun _ => ⟨some s, some now⟩ }
    | none => m
  | .topicRow name _ => { m with topics := m.topics.adjust name fun (st, th) => (st.reset, th) }
  | .streamRow _ _ => m

def FlowMonitor.collected (m : FlowMonitor) (out : FlowSnapshot) : Event → FlowSnapshot
  | .topicRow name now =>
    match m.topics.get name with
    | some (st, th) => { out with topics := out.topics ++ [st.flow name th now] }
    | none => out
  | .streamRow id now =>
    match m.streams.get id with
    | some st => { out with streams := out.streams ++ [st.flow id now] }
    | none => out
  | _ => out

def FlowMonitor.run (m : FlowMonitor) (out : FlowSnapshot) : List Event → FlowMonitor × FlowSnapshot
  | [] => (m, out)
  | ev :: events => (m.step ev).run (m.collected out ev) events

end MediaServo.Host.Flow
