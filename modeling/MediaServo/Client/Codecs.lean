import MediaServo.Foundations.Digits
import MediaServo.Foundations.Json
import MediaServo.Foundations.Lines

/-! The negotiated codecs on their way through the SFU: as the parameters that a producer sends,
and as the codec that a consumer reads from them. -/

namespace MediaServo.Client.Codecs

open MediaServo.Foundations
open MediaServo.Foundations.Digits

abbrev Text := List Char

def trim (t : Text) : Text := Lines.trim isWhitespace t

structure RTCRtpCodecParameters where
  mimeType : String
  payloadType : UInt8
  clockRate : UInt32
  sdpFmtpLine : Option String

structure RTCRtpEncodingParameters where
  ssrc : Option UInt64
  maxBitrate : Option UInt64

structure RTCRtpHeaderExtensionParameters where
  uri : String
  id : UInt16
  encrypted : Bool

structure RTCRtpParameters where
  codecs : List RTCRtpCodecParameters
  encodings : List RTCRtpEncodingParameters
  headerExtensions : List RTCRtpHeaderExtensionParameters
  reducedSize : Bool

def insert (k : String) (v : Json) : Json.Fields → Json.Fields
  | [] => [(k, v)]
  | (j, w) :: rest =>
    if k = j then (k, v) :: rest
    else if k < j then (k, v) :: (j, w) :: rest
    else (j, w) :: insert k v rest

def fmtpValue (v : Text) : Json :=
  match readI64 v with
  | some n => .int n
  | none => .str (.ofList v)

def fmtpParameters (line : String) : Json.Fields :=
  (line.toList.splitOn ';').foldl (fun map kv =>
    match Lines.splitOnce '=' kv with
    | some (k, v) => insert (.ofList (trim k)) (fmtpValue v) map
    | none => map) []

def feedback (type parameter : String) : Json :=
  .obj [("type", .str type), ("parameter", .str parameter)]

def produceCodec (c : RTCRtpCodecParameters) : Json :=
  .obj [("mimeType", .str c.mimeType), ("payloadType", .nat c.payloadType.toNat),
    ("clockRate", .nat c.clockRate.toNat),
    ("parameters", .obj ((c.sdpFmtpLine.map fmtpParameters).getD [])),
    ("rtcpFeedback", .arr [feedback "nack" "", feedback "nack" "pli", feedback "ccm" "fir",
      feedback "transport-cc" ""])]

def buildProduceRtpParametersFromRtp (params : RTCRtpParameters) : Json :=
  .obj [("codecs", .arr (params.codecs.map produceCodec)),
    ("headerExtensions", .arr (params.headerExtensions.map fun h =>
      .obj [("uri", .str h.uri), ("id", .nat h.id.toNat), ("encrypt", .bool h.encrypted)])),
    ("encodings", .arr (params.encodings.map fun e =>
      .obj (Json.skipNone "ssrc" (fun n => .nat n.toNat) e.ssrc ++
        Json.skipNone "maxBitrate" (fun n => .nat n.toNat) e.maxBitrate))),
    ("rtcp", .obj [("reducedSize", .bool params.reducedSize)])]

def get (k : String) : Json → Option Json
  | .obj fs => (fs.find? fun e => e.1 = k).map Prod.snd
  | _ => none

def asArray : Json → Option (List Json)
  | .arr items => some items
  | _ => none

/-- The printer of JSON values; a number that was read as an integer is printed in decimal. -/
structure Printer where
  print : Json → Text
  print_int : ∀ n, print (.int n) = textOfInt n

def isRtx (mime : String) : Bool := "/rtx".toList.isSuffixOf mime.toList

def notRtx (codec : Json) : Bool :=
  match (get "mimeType" codec).bind Json.asStr with
  | some mime => !isRtx mime
  | none => true

def fmtpPair (pr : Printer) (e : String × Json) : Text :=
  match e.2 with
  | .str s => e.1.toList ++ '=' :: s.toList
  | v => e.1.toList ++ '=' :: pr.print v

def fmtpOf (pr : Printer) : Json → Option String
  | .obj [] => none
  | .obj fs => some (.ofList ([';'].intercalate (fs.map (fmtpPair pr))))
  | _ => none

/-- The payload type, the name, the clock rate and the format parameters of the first codec that
is not for retransmissions. -/
def codecFromConsumer (pr : Printer) (rtp : Json) : Option (ℕ × String × ℕ × Option String) := do
  let codecs ← (get "codecs" rtp).bind asArray
  let codec ← codecs.find? notRtx
  let pt ← (get "payloadType" codec).bind (Json.asNat (2 ^ 64))
  let mime ← (get "mimeType" codec).bind Json.asStr
  let name ← (mime.toList.splitOn '/').getLast?
  let clock ← (get "clockRate" codec).bind (Json.asNat (2 ^ 64))
  let params ← get "parameters" codec
  return (pt % 2 ^ 16, .ofList name, clock % 2 ^ 32, fmtpOf pr params)

end MediaServo.Client.Codecs
