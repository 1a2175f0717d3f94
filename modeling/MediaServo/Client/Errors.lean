import MediaServo.Foundations.Digits
import MediaServo.Foundations.Lines

/-! The errors of a connect or a join: as the link words them, and as the client reads a code of
the server out of the words again. -/

namespace MediaServo.Client.Errors

open MediaServo.Foundations
open MediaServo.Foundations.Digits

abbrev Text := List Char

inductive LinkError
  | attach (message : Text)
  | aclDenied (topic : Text)
  | topicConflict (topic : Text)
  | token (message : Text)
  | registry (message : Text)
  | bus (message : Text)
  | signal (message : Text)
  | enrollPending (deviceId : Text)
  | closed
  deriving DecidableEq

def LinkError.display : LinkError → Text
  | .attach message => "attach failed: ".toList ++ message
  | .aclDenied topic => "acl denied: ".toList ++ topic
  | .topicConflict topic => "topic already has a publisher: ".toList ++ topic
  | .token message => "token invalid: ".toList ++ message
  | .registry message => "registry error: ".toList ++ message
  | .bus message => "bus error: ".toList ++ message
  | .signal message => "signal error: ".toList ++ message
  | .enrollPending deviceId => "device enroll pending: ".toList ++ deviceId
  | .closed => "closed".toList

inductive ClientError
  | login (message : Text)
  | invalidCredentials
  | restRejected (code : UInt16) (message : Text)
  | authRejected (code : UInt16) (message : Text)
  | protocolUnsupported (message : Text)
  | unsupportedScheme (scheme : Text)
  | malformedResponse (message : Text)
  | signal (e : LinkError)
  | server (code : UInt16) (message : Text)
  | controlDenied (message : Text)
  | protocolTooLow (need got : ℕ)
  | webRtc (message : Text)
  | io (message : Text)
  | timeout (what : Text)
  | streamNotFound (label : Text)
  | invalidState (message : Text)
  deriving DecidableEq

def extractWireCode (text : Text) : Option UInt16 := do
  let (_, rest) ← Lines.splitOnce '[' text
  let (number, _) ← Lines.splitOnce ']' rest
  (readUnsigned (2 ^ 16) number).map UInt16.ofNat

def isTerminal (code : UInt16) : Bool :=
  code = 4003 || code = 4010 || code = 4011 || code = 4012 || code = 4013 || code = 4101

def ClientError.wireCode : ClientError → Option UInt32
  | .login _ | .invalidCredentials | .restRejected _ _ | .unsupportedScheme _
  | .malformedResponse _ | .webRtc _ | .io _ | .timeout _ | .streamNotFound _ | .invalidState _
  | .protocolTooLow _ _ => none
  | .authRejected code _ => some code.toUInt32
  | .protocolUnsupported _ => some 4101
  | .controlDenied _ => some 4012
  | .server code _ => some code.toUInt32
  | .signal e => (extractWireCode e.display).map UInt16.toUInt32

def ClientError.isRetryable : ClientError → Bool
  | .invalidCredentials | .authRejected _ _ | .protocolUnsupported _ | .controlDenied _
  | .protocolTooLow _ _ | .unsupportedScheme _ | .restRejected _ _ | .malformedResponse _
  | .invalidState _ | .streamNotFound _ => false
  | .io _ | .webRtc _ | .timeout _ | .login _ => true
  | .server code _ => 5000 ≤ code
  | .signal e => !((extractWireCode e.display).any isTerminal)

def fromWireError (code : UInt16) (message : Text) : ClientError :=
  if code = 4012 then .controlDenied message
  else if code = 4101 then .protocolUnsupported message
  else if code = 4003 ∨ code = 4010 ∨ code = 4011 ∨ code = 4013 then .authRejected code message
  else .server code message

def classifyLinkError (err : LinkError) : ClientError :=
  match extractWireCode err.display with
  | some code => if isTerminal code then fromWireError code err.display else .signal err
  | none => .signal err

inductive Refusal
  | auth
  | join

def Refusal.words : Refusal → Text
  | .auth => "auth denied [".toList
  | .join => "room join failed [".toList

def Refusal.error (r : Refusal) (code : UInt16) (message : Text) : LinkError :=
  .signal (r.words ++ Nat.toDigits 10 code.toNat ++ "]: ".toList ++ message)

inductive Phase
  | jwtHandshakeRequest
  | jwtHeaderValue
  | sendAuth
  | authRead
  | parseAuthResponse
  | unexpectedAuthMessage
  | serializeJoinEnvelope
  | serializeJoin
  | sendJoin
  | joinRead
  | parseEnvelope
  | parseJoined
  | challengeNonce
  | serializeDeviceAuthResponse
  | sendDeviceAuthResponse

def Phase.words : Phase → Text
  | .jwtHandshakeRequest => "jwt handshake request".toList
  | .jwtHeaderValue => "jwt header value".toList
  | .sendAuth => "send auth".toList
  | .authRead => "auth read".toList
  | .parseAuthResponse => "parse auth response".toList
  | .unexpectedAuthMessage => "unexpected auth message".toList
  | .serializeJoinEnvelope => "serialize RoomJoin envelope".toList
  | .serializeJoin => "serialize RoomJoin".toList
  | .sendJoin => "send RoomJoin".toList
  | .joinRead => "RoomJoin read".toList
  | .parseEnvelope => "parse envelope response".toList
  | .parseJoined => "parse RoomJoined".toList
  | .challengeNonce => "challenge nonce base64".toList
  | .serializeDeviceAuthResponse => "serialize DeviceAuthResponse".toList
  | .sendDeviceAuthResponse => "send DeviceAuthResponse".toList

inductive Bare
  | connectionClosedDuringAuth
  | closedDuringAuth
  | unexpectedAuthResponse
  | unexpectedAuthMessage
  | noResponseAfterJoin
  | noResponseAfterDeviceAuth
  | deviceAuthWithoutIdentity
  | connectionClosedDuringJoin
  | closedDuringJoin
  | unexpectedJoinedResponse
  | unexpectedResponseToJoin

def Bare.words : Bare → Text
  | .connectionClosedDuringAuth => "connection closed during auth".toList
  | .closedDuringAuth => "closed during auth".toList
  | .unexpectedAuthResponse => "unexpected auth response".toList
  | .unexpectedAuthMessage => "unexpected auth message".toList
  | .noResponseAfterJoin => "device auth: no server response within 5s after RoomJoin".toList
  | .noResponseAfterDeviceAuth =>
    "device auth: no server response within 5s after DeviceAuthResponse".toList
  | .deviceAuthWithoutIdentity => "device auth without identity (internal)".toList
  | .connectionClosedDuringJoin => "connection closed during room join".toList
  | .closedDuringJoin => "closed during room join".toList
  | .unexpectedJoinedResponse => "unexpected RoomJoined response".toList
  | .unexpectedResponseToJoin => "unexpected response to RoomJoin".toList

inductive ConnectFailure
  | refused (r : Refusal) (code : UInt16) (message : Text)
  | connect (url cause : Text)
  | noHost (url : Text)
  | caused (p : Phase) (cause : Text)
  | nonceLength (length : ℕ)
  | bare (b : Bare)
  | enrollPending (deviceId : Text)

def ConnectFailure.head : ConnectFailure → Text
  | .refused r _ _ => r.words
  | .connect _ _ => "connect ".toList
  | .noHost _ => "no host in url ".toList
  | .caused p _ => p.words ++ ": ".toList
  | .nonceLength _ => "challenge nonce must be 32 bytes, got ".toList
  | .bare b => b.words
  | .enrollPending _ => []

def ConnectFailure.detail : ConnectFailure → Text
  | .refused _ code message => Nat.toDigits 10 code.toNat ++ "]: ".toList ++ message
  | .connect url cause => url ++ ": ".toList ++ cause
  | .noHost url => url
  | .caused _ cause => cause
  | .nonceLength length => Nat.toDigits 10 length
  | .bare _ => []
  | .enrollPending deviceId => deviceId

def ConnectFailure.error : ConnectFailure → LinkError
  | .enrollPending deviceId => .enrollPending deviceId
  | f => .signal (f.head ++ f.detail)

end MediaServo.Client.Errors
