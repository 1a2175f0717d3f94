import MediaServo.Foundations.FiniteMap
import MediaServo.Host.Translate

/-! The capability tokens of an instance: what each role may do, and the command that issues the
tokens that host.yaml asks for. -/

namespace MediaServo.Host

open MediaServo.Foundations

inductive Role
  | capture
  | processor
  | pusher
  | puller
  | recorder
  | control
  | perception
  | monitor
  deriving DecidableEq

structure NodeAcl where
  nodeId : String
  role : Role
  publishAllow : List String
  subscribeAllow : List String
  deriving DecidableEq

def NodeAcl.forRole (nodeId : String) (role : Role) : NodeAcl :=
  match role with
  | .capture => ⟨nodeId, role, ["camera/*"], []⟩
  | .processor => ⟨nodeId, role, ["video/*"], ["camera/*"]⟩
  | .pusher | .recorder => ⟨nodeId, role, ["stats/*"], ["camera/*", "video/*", "vision/*"]⟩
  | .puller => ⟨nodeId, role, [], []⟩
  | .control =>
      ⟨nodeId, role, ["control/cmd", "control/ack"],
        ["control/cmd", "control/telemetry", "status/*"]⟩
  | .perception => ⟨nodeId, role, ["perception/*", "vision/*"], ["camera/*"]⟩
  | .monitor => ⟨nodeId, role, [], ["camera/*", "stats/*"]⟩

def Role.debug : Role → String
  | .capture => "Capture"
  | .processor => "Processor"
  | .pusher => "Pusher"
  | .puller => "Puller"
  | .recorder => "Recorder"
  | .control => "Control"
  | .perception => "Perception"
  | .monitor => "Monitor"

def noDirection (role : Role) : String :=
  "role " ++ role.debug ++ " has no direction — explicit --topic only supported for " ++
    "single-direction roles (capture/pusher/recorder); omit --topic for matrix defaults"

def buildAcl (nodeId : String) (role : Role) (topics : List String) : Except String NodeAcl :=
  let base := NodeAcl.forRole nodeId role
  if topics = [] then .ok base
  else if base.subscribeAllow ≠ [] then .ok { base with subscribeAllow := topics }
  else if base.publishAllow ≠ [] then .ok { base with publishAllow := topics }
  else .error (noDirection role)

def wildcard : String := "/*"

/-- A pattern that ends in the wildcard matches what lies below its stem, any other itself. -/
def topicMatches (topic pattern : String) : Bool :=
  if wildcard.toList.isSuffixOf pattern.toList then
    (pattern.toList.take (pattern.toList.length - wildcard.toList.length) ++ ['/']).isPrefixOf
      topic.toList
  else topic = pattern

namespace NodeAcl

variable (acl : NodeAcl) (topic : String)

def canPublish : Bool := acl.publishAllow.any (topicMatches topic)

def canSubscribe : Bool := acl.subscribeAllow.any (topicMatches topic)

end NodeAcl

/-- Every topic lies within one of the patterns, which are those of one direction. -/
def checkTopics (role : Role) (direction : String) (allowed topics : List String) :
    Except String Unit :=
  match topics.find? (fun t => ¬allowed.any (topicMatches t)) with
  | some t => .error ("topic " ++ Lines.debugString t ++ " outside role " ++ role.debug ++ " " ++ direction ++
      " allow patterns: " ++ Lines.debugList allowed)
  | none => .ok ()

def validateTopics (role : Role) (topics : List String) : Except String Unit :=
  let base := NodeAcl.forRole "" role
  if topics = [] then .ok ()
  else if base.subscribeAllow ≠ [] then checkTopics role "subscribe" base.subscribeAllow topics
  else if base.publishAllow ≠ [] then checkTopics role "publish" base.publishAllow topics
  else .error (noDirection role)

structure TokenRequest where
  role : Role
  node : String
  topics : List String
  out : String
  deriving DecidableEq

structure Issuing where
  tokens : FiniteMap String NodeAcl
  issued : ℕ
  firstErr : Option String

section Issue

-- reading the signing key, signing, the audit entry and the write, for one token
variable (sign : NodeAcl → String → Except String Unit)

def issueOne (tokens : FiniteMap String NodeAcl) (r : TokenRequest) :
    Except String (FiniteMap String NodeAcl) :=
  match buildAcl r.node r.role r.topics with
  | .error e => .error e
  | .ok acl =>
      match sign acl r.out with
      | .error e => .error e
      | .ok () => .ok (tokens.set r.out acl)

/-- One turn: nothing more after an error, and nothing for a token that exists. -/
def issueMissing (st : Issuing) (r : TokenRequest) : Issuing :=
  if st.firstErr.isSome then st
  else if st.tokens.contains r.out then st
  else
    match issueOne sign st.tokens r with
    | .ok tokens => { st with tokens := tokens, issued := st.issued + 1 }
    | .error e => { st with firstErr := some ("failed to issue " ++ r.out ++ ": " ++ e) }

def captureRequest (d : Dir) (src : SourceConfig) : TokenRequest :=
  ⟨.capture, "host-capturer-" ++ src.id, ["camera/" ++ src.id],
    joinPath d.tokenDir (src.id ++ ".token")⟩

def streamRequest (d : Dir) (s : StreamConfig) : TokenRequest :=
  ⟨.pusher, "host-streamer-" ++ s.id, ["camera/" ++ s.source, "vision/" ++ s.source],
    joinPath d.tokenDir (s.id ++ "-stream.token")⟩

def recorderRequest (d : Dir) : TokenRequest :=
  ⟨.recorder, "host-recorder", [], joinPath d.tokenDir "recorder.token"⟩

def agentRequest (d : Dir) : TokenRequest :=
  ⟨.monitor, "host-agent", [], joinPath d.tokenDir "agent.token"⟩

def tokenRequests (d : Dir) (sources : List SourceConfig) (streams : List StreamConfig) :
    List TokenRequest :=
  sources.map (captureRequest d) ++ streams.map (streamRequest d) ++
    [recorderRequest d, agentRequest d]

def issueAll (d : Dir) (c : HostConfig) (tokens : FiniteMap String NodeAcl) : Issuing :=
  match c.cameraConfigs with
  | .error e => ⟨tokens, 0, some e⟩
  | .ok sources =>
      match c.streamConfigs with
      | .error e => ⟨tokens, 0, some e⟩
      | .ok streams => (tokenRequests d sources streams).foldl (issueMissing sign) ⟨tokens, 0, none⟩

end Issue

def App.tokenPath (a : App) : Option String := a.options.lookup "--token"

end MediaServo.Host
