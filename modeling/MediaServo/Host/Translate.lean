import MediaServo.Common.Protocol
import MediaServo.Foundations.Lines

/-! The translator from host.yaml to the process manager's oxfile.toml: the configuration, its
checks, the apps that it asks for, and the text that is written. -/

namespace MediaServo.Host

open MediaServo.Foundations

inductive SourceMode
  | camera
  | generator
  | desktop
  | subscriber
  deriving DecidableEq

structure Source where
  id : String
  mode : Option SourceMode
  input : Option String
  width : Option ℕ
  height : Option ℕ
  fps : Option ℕ
  reconnectMs : Option ℕ
  source : Option String
  deriving DecidableEq

structure Stream where
  id : String
  source : Option String
  codec : Option String
  encoderBackend : Option String
  bitrateKbps : Option ℕ
  streamMode : Option String
  minBitrateKbps : Option ℕ
  keyframeInterval : Option ℕ
  deriving DecidableEq

structure SourceDefaults where
  width : Option ℕ := none
  height : Option ℕ := none
  fps : Option ℕ := none
  reconnectMs : Option ℕ := none
  deriving DecidableEq

structure StreamDefaults where
  codec : Option String := none
  encoderBackend : Option String := none
  bitrateKbps : Option ℕ := none
  streamMode : Option String := none
  minBitrateKbps : Option ℕ := none
  keyframeInterval : Option ℕ := none
  deriving DecidableEq

structure RecordSection where
  enabled : Option Bool
  outDir : Option String
  deriving DecidableEq

structure SignalingSection where
  localPort : Option ℕ := none
  room : Option String := none
  serverUrl : Option String := none
  psk : Option String := none
  deriving DecidableEq

structure ControlSection where
  hmacKeyFile : Option String
  deriving DecidableEq

structure HostConfig where
  sources : List Source := []
  streams : List Stream := []
  record : Option RecordSection := none
  signaling : Option SignalingSection := none
  sourceDefaults : SourceDefaults := {}
  streamDefaults : StreamDefaults := {}
  control : Option ControlSection := none
  deriving DecidableEq

abbrev Reader := String → Except String HostConfig

def parse (y : Reader) (cfg : String) : Except String HostConfig :=
  match y cfg with
  | .ok c => .ok c
  | .error e => .error ("host.yaml parse failed: " ++ e)

structure SourceConfig where
  id : String
  mode : SourceMode
  width : ℕ
  height : ℕ
  fps : ℕ
  input : Option String
  reconnectMs : Option ℕ
  deriving DecidableEq

structure StreamConfig where
  id : String
  source : String
  codec : String
  encoderBackend : Option String
  bitrateKbps : Option ℕ
  streamMode : Option String
  minBitrateKbps : Option ℕ
  keyframeInterval : Option ℕ
  deriving DecidableEq

structure RecordConfig where
  enabled : Bool
  outDir : String
  deriving DecidableEq

def defaultSourceWidth : ℕ := 1280

def defaultSourceHeight : ℕ := 720

def defaultSourceFps : ℕ := 30

def defaultRecordDir : String := "/tmp/mediaservo-recordings"

def defaultLocalPort : ℕ := 17980

inductive StreamMode
  | smooth
  | balanced
  | quality
  deriving DecidableEq

def StreamMode.fromStr (s : String) : Except String StreamMode :=
  let t := (Lines.trim isWhitespace s.toList).map Char.toLower
  if t = "smooth".toList then .ok .smooth
  else if t = "balanced".toList then .ok .balanced
  else if t = "quality".toList then .ok .quality
  else .error ("illegal stream_mode value " ++ Lines.debugString s ++ " (legal: smooth|balanced|quality)")

inductive DegradationPreference
  | fixed
  | maintainFramerate
  | maintainResolution
  | balanced
  deriving DecidableEq

inductive ContentHint
  | none
  | fluid
  deriving DecidableEq

structure PresetBundle where
  degradation : DegradationPreference
  contentHint : ContentHint
  minBitrateKbps : Option ℕ
  bitrateKbps : Option ℕ
  deriving DecidableEq

def StreamMode.bundle : StreamMode → PresetBundle
  | .smooth => ⟨.maintainFramerate, .fluid, none, none⟩
  | .balanced => ⟨.balanced, .none, none, none⟩
  | .quality => ⟨.maintainResolution, .none, none, some 3000⟩

def sourceConfig (d : SourceDefaults) (c : Source) : Except String SourceConfig :=
  let fps := (c.fps.or d.fps).getD defaultSourceFps
  if c.source.any (· ≠ "stub") then
    .error ("host.yaml parse failed: video source " ++ c.id ++ " uses the legacy field source=" ++
      c.source.getD "" ++
      ", unsupported (stub only; for v4l2/mipi switch to mode: camera + backend)")
  else if fps = 0 then
    .error ("host.yaml parse failed: video source " ++ c.id ++ " fps=0 invalid (must be > 0)")
  else if 60 < fps then
    .error ("host.yaml parse failed: video source " ++ c.id ++ " fps=" ++ toString fps ++
      " exceeds the cap (<=60)")
  else .ok {
    id := c.id
    mode := c.mode.getD .generator
    width := (c.width.or d.width).getD defaultSourceWidth
    height := (c.height.or d.height).getD defaultSourceHeight
    fps := fps
    input := c.input
    reconnectMs := c.reconnectMs.or d.reconnectMs }

def legalCodecs : List String := ["vp8", "h264", "vp9", "av1"]

def streamConfig (d : StreamDefaults) (s : Stream) : Except String StreamConfig :=
  let codec := (s.codec.or d.codec).getD "h264"
  let streamMode := s.streamMode.or d.streamMode
  if streamMode.any (fun m => ¬(StreamMode.fromStr m).isOk) then
    .error ("host.yaml parse failed: stream " ++ s.id ++ " stream_mode=" ++ streamMode.getD "" ++
      " illegal (legal: smooth|balanced|quality)")
  else if codec ∉ legalCodecs then
    .error ("host.yaml parse failed: stream " ++ s.id ++ " codec=" ++ codec ++
      " illegal (legal: vp8|h264|vp9|av1)")
  else .ok {
    id := s.id
    source := s.source.getD s.id
    codec := codec
    encoderBackend := s.encoderBackend.or d.encoderBackend
    bitrateKbps := s.bitrateKbps.or d.bitrateKbps
    streamMode := streamMode
    minBitrateKbps := s.minBitrateKbps.or d.minBitrateKbps
    keyframeInterval := s.keyframeInterval.or d.keyframeInterval }

def idChar (c : Char) : Bool := c.isAlphanum || c == '-' || c == '_'

def validId (id : String) : Bool := !id.isEmpty && id.toList.all idChar

def checkId (kind id : String) : Except String Unit :=
  if validId id then .ok ()
  else .error ("host.yaml parse failed: " ++ kind ++ " id invalid: " ++ Lines.debugString id ++
    " (only [A-Za-z0-9_-]+ allowed)")

def checkIds (kind what : String) : List String → List String → Except String Unit
  | _, [] => .ok ()
  | seen, id :: rest =>
      match checkId kind id with
      | .error e => .error e
      | .ok () =>
          if id ∈ seen then .error ("host.yaml parse failed: duplicate " ++ what ++ " id: " ++ id)
          else checkIds kind what (id :: seen) rest

namespace HostConfig

variable (c : HostConfig)

def cameraConfigs : Except String (List SourceConfig) := c.sources.mapM (sourceConfig c.sourceDefaults)

def streamConfigs : Except String (List StreamConfig) := c.streams.mapM (streamConfig c.streamDefaults)

def cameraAndStreamIds : List String × List String :=
  (c.sources.map Source.id, c.streams.map Stream.id)

def recordEnabledRaw : Option Bool := c.record.bind RecordSection.enabled

def recordConfig : RecordConfig :=
  { enabled := c.recordEnabledRaw.getD false
    outDir := (c.record.bind RecordSection.outDir).getD defaultRecordDir }

def signalingLocalPort : Option ℕ := c.signaling.bind SignalingSection.localPort

def signalingServerUrl : Option String := c.signaling.bind SignalingSection.serverUrl

def signalingPsk : Option String := c.signaling.bind SignalingSection.psk

def signalingGatewayUrl : String :=
  "ws://127.0.0.1:" ++ toString (c.signalingLocalPort.getD defaultLocalPort) ++ "/ws"

def controlHmacKeyFile : Option String := c.control.bind ControlSection.hmacKeyFile

def validate : Except String Unit := do
  let sources ← c.cameraConfigs
  let streams ← c.streamConfigs
  checkIds "source" "video source" [] (sources.map SourceConfig.id)
  checkIds "stream" "stream" [] (streams.map StreamConfig.id)

end HostConfig

def validate (y : Reader) (cfg : String) : Except String Unit := do
  let c ← parse y cfg
  c.validate

def isAbsolute (p : String) : Bool := Common.startsWith p "/"

/-- A directory by its normalised absolute path, as `std::path::absolute` gives that of the instance
and the system that of the executable. -/
structure Dir where
  path : String
  absolute : isAbsolute path = true
  deriving DecidableEq

/-- What the process reads from its surroundings: the brand, the directory of its executable, and
the host name as the kernel gives it, trimmed and in lower case. -/
structure Env where
  brand : Option String
  exeDir : Option Dir
  hostname : Option String
  deriving DecidableEq

structure Brand where
  appPrefix : String
  nameSpace : String
  deriving DecidableEq

def brandChar (c : Char) : Bool := c.isLower || c.isDigit || c == '-'

def validBrand (s : String) : Bool :=
  !s.isEmpty && s.utf8ByteSize ≤ 32 && s.toList.all brandChar

def mediaBrandFrom (brand : Option String) : Brand :=
  match brand.filter validBrand with
  | some p =>
      if p ≠ "mediaservo" then ⟨p ++ "-", p ++ "-host"⟩ else ⟨"host-", "mediaservo-host"⟩
  | none => ⟨"host-", "mediaservo-host"⟩

namespace Env

variable (env : Env)

def mediaBrand : Brand := mediaBrandFrom env.brand

def appName (base : String) : String := env.mediaBrand.appPrefix ++ base

def systemHostnameRoom : Option String := env.hostname.filter validId

end Env

def HostConfig.signalingRoom (c : HostConfig) (env : Env) : Option String :=
  (c.signaling.bind SignalingSection.room).or env.systemHostnameRoom

def joinPath (dir rel : String) : String :=
  if isAbsolute rel then rel
  else if dir.isEmpty then rel
  else if dir.toList.getLast? = some '/' then dir ++ rel
  else dir ++ "/" ++ rel

namespace Dir

variable (d : Dir)

def configPath : String := joinPath (joinPath d.path "etc") "host.yaml"

def tokenDir : String := joinPath (joinPath d.path "etc") "link"

def logDir : String := d.path ++ "/run/logs"

end Dir

def Env.exeCmd (env : Env) (name : String) : String :=
  match env.exeDir with
  | some d => joinPath d.path name
  | none => name

def fixedAppBases : List String := ["agent", "recorder", "controller", "emergency", "audio"]

def instanceName (kind id : String) : String := kind ++ "-" ++ id

/-- One entry of the oxfile. `options` are appended to the command line one after the other. -/
structure App where
  name : String
  exe : String
  options : List (String × String)
  restartPolicy : String
  deriving DecidableEq

def optionText : List (String × String) → String
  | [] => ""
  | (flag, value) :: rest => " " ++ flag ++ " " ++ value ++ optionText rest

def App.command (a : App) : String := a.exe ++ optionText a.options

def App.argv (a : App) : List String := a.exe :: a.options.flatMap (fun o => [o.1, o.2])

def optional {α : Type} (flag : String) (text : α → String) : Option α → List (String × String)
  | some v => [(flag, text v)]
  | none => []

section Apps

variable (env : Env) (c : HostConfig) (inst : Option Dir)

def pathOptions (token : String) : List (String × String) :=
  match inst with
  | some d => [("--config", d.configPath), ("--token", d.tokenDir ++ "/" ++ token)]
  | none => []

def agentOptions : List (String × String) :=
  optional "--port" toString c.signalingLocalPort ++
    optional "--room" id (c.signalingRoom env) ++
    optional "--remote" id c.signalingServerUrl ++
    optional "--psk" id c.signalingPsk ++
    pathOptions inst "agent.token"

def hmacKeyArg (rel : String) : String :=
  match inst with
  | some d => if isAbsolute rel then rel else d.path ++ "/" ++ rel
  | none => rel

def fixedOptions (base : String) : List (String × String) :=
  if base = "recorder" then pathOptions inst "recorder.token"
  else if base = "agent" then agentOptions env c inst
  else if base = "controller" then optional "--hmac-key-file" (hmacKeyArg inst) c.controlHmacKeyFile
  else if base = "audio" then
    [("--room", "audio-" ++ (c.signalingRoom env).getD "vehicle")]
  else []

def fixedApp (base : String) : App :=
  { name := env.appName base
    exe := env.exeCmd (env.appName base)
    options := fixedOptions env c inst base
    restartPolicy := if base = "recorder" then "on_failure" else "always" }

def fixedApps : List App :=
  (fixedAppBases.filter (fun b => ¬(b = "recorder" ∧ c.recordEnabledRaw = some false))).map
    (fixedApp env c inst)

def capturerApp (src : SourceConfig) : App :=
  { name := instanceName (env.appName "capturer") src.id
    exe := env.exeCmd (env.appName "capturer")
    options := [("--camera", src.id)] ++
      (if src.mode = .camera then optional "--reconnect-ms" toString src.reconnectMs else []) ++
      pathOptions inst (src.id ++ ".token")
    restartPolicy := "always" }

def smoothBitrateFloorKbps (fps : ℕ) : ℕ := max (fps * 100 / 30) 50

def resolvedEncoderBackend (codec : String) (backend : Option String) : Option String :=
  if (backend = none ∨ backend = some "auto") ∧ codec = "h264" then some "software" else backend

def degradationText : DegradationPreference → String
  | .fixed => "fixed"
  | .maintainFramerate => "framerate"
  | .maintainResolution => "resolution"
  | .balanced => "balanced"

def encoderOptions (sourceFps : String → Option ℕ) (sc : StreamConfig) : List (String × String) :=
  let mode := match sc.streamMode with
    | some m => ((StreamMode.fromStr m).toOption).getD .balanced
    | none => .balanced
  let bundle := mode.bundle
  let floor := if mode = .smooth then
      some (smoothBitrateFloorKbps ((sourceFps sc.source).getD defaultSourceFps))
    else none
  optional "--encoder-backend" id (resolvedEncoderBackend sc.codec sc.encoderBackend) ++
    (if bundle.degradation ≠ .balanced then
      [("--degradation", degradationText bundle.degradation)] else []) ++
    (if bundle.contentHint = .fluid then [("--content-hint", "fluid")] else []) ++
    optional "--bitrate-kbps" toString (sc.bitrateKbps.or bundle.bitrateKbps) ++
    optional "--min-bitrate-kbps" toString ((sc.minBitrateKbps.or floor).or bundle.minBitrateKbps) ++
    optional "--keyframe-interval" toString sc.keyframeInterval

def lookupLast {α : Type} (key : α → String) (l : List α) (k : String) : Option α :=
  l.reverse.find? (fun x => key x = k)

def streamerApp (sources : List SourceConfig) (streams : List StreamConfig) (stream : String) : App :=
  let sourceFps := fun k => (lookupLast SourceConfig.id sources k).map SourceConfig.fps
  { name := instanceName (env.appName "streamer") stream
    exe := env.exeCmd (env.appName "streamer")
    options := [("--stream", stream), ("--gateway", c.signalingGatewayUrl)] ++
      (match lookupLast StreamConfig.id streams stream with
        | some sc => encoderOptions sourceFps sc
        | none => []) ++
      pathOptions inst (stream ++ "-stream.token")
    restartPolicy := "always" }

def apps : Except String (List App) := do
  let sources ← c.cameraConfigs
  let streams ← c.streamConfigs
  return fixedApps env c inst ++ sources.map (capturerApp env inst) ++
    c.cameraAndStreamIds.2.map (streamerApp env c inst sources streams)

def pushApp (a : App) : String :=
  let stem := match inst with
    | some d => d.logDir ++ "/" ++ a.name
    | none => "logs/" ++ a.name
  "[[apps]]\nname = \"" ++ a.name ++ "\"\ncommand = \"" ++ a.command ++ "\"\nrestart_policy = \"" ++
    a.restartPolicy ++ "\"\n" ++
    "[apps.logs]\nstdout = \"" ++ stem ++ ".out.log\"\nstderr = \"" ++ stem ++ ".err.log\"\n\n"

def oxfileHeader : String :=
  "version = 1\n\n[defaults]\nnamespace = \"" ++ env.mediaBrand.nameSpace ++
    "\"\nrestart_policy = \"always\"\n" ++
    (match inst with
      | some d => "cwd = \"" ++ d.path ++ "\"\n"
      | none => "") ++ "\n"

def pushApps : List App → String
  | [] => ""
  | a :: rest => pushApp inst a ++ pushApps rest

def render : Except String String := do
  let as ← apps env c inst
  return oxfileHeader env inst ++ pushApps inst as

end Apps

def toOxfileInDir (y : Reader) (env : Env) (cfg : String) (d : Dir) : Except String String := do
  let c ← parse y cfg
  render env c (some d)

def expectedNames (env : Env) (c : HostConfig) : List String :=
  let fixed := fixedAppBases.map env.appName
  (if c.recordConfig.enabled then fixed else fixed.filter (· ≠ env.appName "recorder")) ++
    c.cameraAndStreamIds.1.map (instanceName (env.appName "capturer")) ++
    c.cameraAndStreamIds.2.map (instanceName (env.appName "streamer"))

def expectedProcessNames (y : Reader) (env : Env) (cfg : String) : Except String (List String) := do
  let c ← parse y cfg
  return expectedNames env c

end MediaServo.Host
