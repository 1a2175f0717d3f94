import MediaServo.Foundations.Binary64
import MediaServo.Foundations.FiniteMap

/-! The statistics of the inbound streams of a peer connection, folded into one record. -/

namespace MediaServo.Client

open MediaServo.Foundations

structure RTCInboundRtpStreamStats where
  id : String
  timestamp : Binary64
  ssrc : UInt32
  kind : String
  packetsReceived : UInt64
  packetsLost : UInt64
  bytesReceived : UInt64
  framesDecoded : UInt32
  frameWidth : UInt32
  frameHeight : UInt32
  framesPerSecond : Binary64
  jitter : Binary64
  totalDecodeTime : Binary64
  frameDropped : UInt64
  nackCount : UInt64
  pliCount : UInt64
  firCount : UInt64
  deriving DecidableEq

inductive RTCStats
  | peerConnection
  | transport
  | codec
  | inboundRtp (r : RTCInboundRtpStreamStats)
  | outboundRtp
  deriving DecidableEq

structure VideoStreamStats where
  bytesReceived : UInt64 := 0
  packetsReceived : UInt64 := 0
  packetsLost : UInt64 := 0
  framesDecoded : UInt64 := 0
  frameWidth : UInt32 := 0
  frameHeight : UInt32 := 0
  framesPerSecond : Binary64 := .finite 0
  jitter : Binary64 := .finite 0
  totalDecodeTime : Binary64 := .finite 0
  frameDropped : UInt64 := 0
  nackCount : UInt64 := 0
  pliCount : UInt64 := 0
  firCount : UInt64 := 0
  deriving DecidableEq

def inboundRows (items : List RTCStats) : List RTCInboundRtpStreamStats :=
  items.filterMap fun
    | .inboundRtp r => some r
    | _ => none

/-- A row replaces the one kept under its key, unless that one is at least as new. -/
def keepNewest {κ : Type} [DecidableEq κ] (key : RTCInboundRtpStreamStats → κ)
    (latest : FiniteMap κ RTCInboundRtpStreamStats) (r : RTCInboundRtpStreamStats) :
    FiniteMap κ RTCInboundRtpStreamStats :=
  match latest.get (key r) with
  | some prev =>
      if Binary64.le r.timestamp prev.timestamp then latest else latest.set (key r) r
  | none => latest.set (key r) r

def latest (items : List RTCStats) : FiniteMap (UInt32 × String) RTCInboundRtpStreamStats :=
  (inboundRows items).foldl (keepNewest fun r => (r.ssrc, r.id)) ∅

-- the sums are of 64 bits and wrap around
def accumulate (out : VideoStreamStats) (r : RTCInboundRtpStreamStats) : VideoStreamStats where
  bytesReceived := out.bytesReceived + r.bytesReceived
  packetsReceived := out.packetsReceived + r.packetsReceived
  packetsLost := out.packetsLost + r.packetsLost
  framesDecoded := out.framesDecoded + r.framesDecoded.toUInt64
  frameWidth := max out.frameWidth r.frameWidth
  frameHeight := max out.frameHeight r.frameHeight
  framesPerSecond := Binary64.max out.framesPerSecond r.framesPerSecond
  jitter := Binary64.max out.jitter r.jitter
  totalDecodeTime := Binary64.max out.totalDecodeTime r.totalDecodeTime
  frameDropped := out.frameDropped + r.frameDropped
  nackCount := out.nackCount + r.nackCount
  pliCount := out.pliCount + r.pliCount
  firCount := out.firCount + r.firCount

/-- What the fold may return: the hash map gives the rows it kept in any order. -/
def FoldInboundStats (items : List RTCStats) (out : VideoStreamStats) : Prop :=
  ∃ rows : List RTCInboundRtpStreamStats,
    rows.Perm ((latest items).toList.map Prod.snd) ∧ out = rows.foldl accumulate {}

def foldInboundStats (items : List RTCStats) : VideoStreamStats :=
  ((latest items).toList.map Prod.snd).foldl accumulate {}

end MediaServo.Client
