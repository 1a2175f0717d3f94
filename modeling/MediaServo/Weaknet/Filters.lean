import MediaServo.Weaknet.Spec

/-! The filters that sort the packets of the media out of the others: the legs of a scope in a
direction, and where `replay` installs them. -/

namespace MediaServo.Weaknet

inductive ScopeSel
  | media
  | stream
  | device
  deriving DecidableEq

inductive IfaceKind
  | loopback
  | physical
  deriving DecidableEq

inductive MatchKind
  | sport
  | dport
  deriving DecidableEq

abbrev Port := BitVec 16

structure LegFilter where
  protocol : BitVec 8
  portMatches : List (MatchKind × Port)
  flowid : String
  deriving DecidableEq

def udpProtocol : BitVec 8 := 17

def mediaFlowid : String := "1:10"

def mediaLeg (kind : MatchKind) (p : Port) : LegFilter := ⟨udpProtocol, [(kind, p)], mediaFlowid⟩

def andLeg (portMatches : List (MatchKind × Port)) : LegFilter := ⟨udpProtocol, portMatches, mediaFlowid⟩

def Dir.isOut : Dir → Bool
  | .out | .both => true
  | .in => false

def Dir.isIn : Dir → Bool
  | .in | .both => true
  | .out => false

def legsOf (scope : ScopeSel) (dir : Dir) (localPorts : List Port) (pairs : List (Port × Port)) :
    List LegFilter :=
  match scope with
  | .media =>
      (if dir.isOut then localPorts.map (mediaLeg .sport) else []) ++
        (if dir.isIn then localPorts.map (mediaLeg .dport) else [])
  | .stream | .device =>
      pairs.flatMap fun (l, r) =>
        (if dir.isOut then [andLeg [(.sport, l), (.dport, r)]] else []) ++
          (if dir.isIn then [andLeg [(.sport, r), (.dport, l)]] else [])

def ScopeSel.debug : ScopeSel → String
  | .media => "Media"
  | .stream => "Stream"
  | .device => "Device"

def Dir.debug : Dir → String
  | .out => "Out"
  | .in => "In"
  | .both => "Both"

def buildFilterLegs (scope : ScopeSel) (_ : IfaceKind) (dir : Dir) (localPorts : List Port)
    (pairs : List (Port × Port)) : Except String (List LegFilter) :=
  let legs := legsOf scope dir localPorts pairs
  if legs.isEmpty then
    .error ("leg set is empty (scope=" ++ scope.debug ++ " dir=" ++ dir.debug ++
      " ports/pairs unresolved -- empty stats reports cause exit2, never silently all ports)")
  else .ok legs

section Install

/-- A key of a `u32` filter: a field of the packet under a mask. -/
inductive Key
  | protocol (value mask : BitVec 8)
  | port (kind : MatchKind) (value mask : Port)
  deriving DecidableEq

inductive Attach
  | root (prio : String)
  | ingress
  deriving DecidableEq

inductive Action
  | flowid (classid : String)
  | redirect (dev : String)
  deriving DecidableEq

/-- What `tc filter add` is given; `ether` is the protocol of the frames that it looks at. -/
structure FilterArgv where
  dev : String
  attach : Attach
  ether : String
  keys : List Key
  action : Action
  deriving DecidableEq

def LegFilter.keys (leg : LegFilter) : List Key :=
  .protocol leg.protocol 0xff#8 :: leg.portMatches.map fun (kind, port) => .port kind port 0xffff#16

def filterAddArgv (dev prio : String) (leg : LegFilter) : FilterArgv :=
  ⟨dev, .root prio, "ip", leg.keys, .flowid leg.flowid⟩

def mirredFilterArgv (dev : String) (leg : LegFilter) : FilterArgv :=
  ⟨dev, .ingress, "ip", leg.keys, .redirect "ifb0"⟩

def ifbNeeded (kind : IfaceKind) (dir : Dir) : Bool := kind == .physical && dir.isIn

def rootLegs (scope : ScopeSel) (kind : IfaceKind) (dir : Dir) (ports : List Port)
    (pairs : List (Port × Port)) : Except String (List LegFilter) :=
  if !ifbNeeded kind dir then buildFilterLegs scope kind dir ports pairs
  else if dir = .both then buildFilterLegs scope kind .out ports pairs
  else .ok []

def ingressLegs (scope : ScopeSel) (kind : IfaceKind) (dir : Dir) (ports : List Port)
    (pairs : List (Port × Port)) : Except String (List LegFilter) :=
  if ifbNeeded kind dir then buildFilterLegs scope kind .in ports pairs else .ok []

/-- The legs as `replay` splits them. -/
def splitLegs (scope : ScopeSel) (kind : IfaceKind) (dir : Dir) (ports : List Port)
    (pairs : List (Port × Port)) : Except String (List LegFilter × List LegFilter) := do
  let legs ← rootLegs scope kind dir ports pairs
  let ingress ← ingressLegs scope kind dir ports pairs
  pure (legs, ingress)

def sessionFilters (dev : String) (legs ingress : List LegFilter) : List FilterArgv :=
  legs.map (filterAddArgv dev "1") ++ ingress.map (mirredFilterArgv dev)

structure Packet where
  protocol : BitVec 8
  sport : Port
  dport : Port
  deriving DecidableEq

def Key.holds (pkt : Packet) : Key → Bool
  | .protocol value mask => pkt.protocol &&& mask == value
  | .port .sport value mask => pkt.sport &&& mask == value
  | .port .dport value mask => pkt.dport &&& mask == value

/-- A filter of the right protocol takes the packets for which all its keys hold. -/
def FilterArgv.takes (f : FilterArgv) (pkt : Packet) : Bool :=
  f.ether = "ip" && f.keys.all (Key.holds pkt)

end Install

end MediaServo.Weaknet
