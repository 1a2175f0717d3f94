import MediaServo.Server.Admin
import MediaServo.ServerProofs.SfuGates
import MediaServo.ServerProofs.Steps

/-! What an administrator's kick or room removal does to the sessions it is meant for. The handlers
edit the room manager only; the relay loop of a session, its subscription to the room channel and
its SFU requests do not look there. No request comes to a handler: the router takes the braces of
their templates literally, and a literal template has no parameter to hand over. -/

namespace MediaServo.Server

open MediaServo.Foundations MediaServo.Common

namespace System

def oldest (sys : System) (k : ℕ) : Option Session :=
  match sys.sessions.reverse[k]? with
  | some ⟨c, true⟩ => some c
  | _ => none

def index (sys : System) (k : ℕ) : ℕ := sys.sessions.length - 1 - k

def broadcasts (sys : System) (a : Action) (roomId : String) : List SignalingMessage :=
  (((sys.step a).server.sent.drop sys.server.sent.length).filter (fun e => e.1 = roomId)).map Prod.snd

def CutOff (sys : System) (k : ℕ) : Prop :=
  ∀ c, sys.oldest k = some c → ∀ a,
    ((sys.step a).oldest k = some c → sys.broadcasts a c.roomId = []) ∧
    ∀ msg w, a = .message (sys.index k) msg w → sys.broadcasts a c.roomId = [] ∧
      (sys.step a).server.sfuManager = sys.server.sfuManager

def Kicked (sys : System) (c : Session) : Action → Prop
  | .kickPeer p => c.peerId = p ∧ sys.server.roomManager.Member c.roomId p
  | .removeRoom r => c.roomId = r ∧ sys.server.roomManager.Member r c.peerId
  | _ => False

def KickTakesEffect (sys : System) (a : Action) : Prop :=
  ∀ k c, sys.oldest k = some c → sys.Kicked c a → ∀ later, CutOff (run step (sys.step a) later) k

variable {sys : System} {a : Action} {c : Session} {k : ℕ}

lemma live_index (h : sys.oldest k = some c) : sys.live (sys.index k) = some c := by
  rw [oldest] at h
  split at h
  · rename_i d hd
    cases h
    have hk : k < sys.sessions.length := by
      rw [← List.length_reverse]
      exact (List.getElem?_eq_some_iff.mp hd).1
    rw [List.getElem?_reverse hk] at hd
    exact live_eq_some.2 hd
  · cases h

lemma oldest_congr {t : System} (h : t.sessions = sys.sessions) :
    t.oldest k = sys.oldest k ∧ t.index k = sys.index k := by
  rw [oldest, oldest, index, index, h]
  exact ⟨rfl, rfl⟩

lemma kicked_step (h : sys.Kicked c a) : (sys.step a).sessions = sys.sessions := by
  cases a with
  | kickPeer p => rfl
  | removeRoom r => rfl
  | _ => cases h

lemma willing_creates (sfu : SfuManager) (r p id : String) :
    ∃ sfu' t, sfu.createWebrtcTransport r p .send (willing id) = (sfu', .ok t) := by
  rw [SfuManager.createWebrtcTransport, SfuManager.ensureRouter]
  cases sfu.get r with
  | none => exact ⟨_, _, rfl⟩
  | some room => exact ⟨_, _, rfl⟩

lemma created_ne {sfu sfu' : SfuManager} {r p : String} {w : Worker} {t : TransportCreated}
    (h : sfu.createWebrtcTransport r p .send w = (sfu', .ok t)) : sfu' ≠ sfu := by
  rintro rfl
  have hput := SfuManager.createWebrtcTransport_ok _ w h r p
  rw [if_pos ⟨rfl, rfl⟩] at hput
  have hlen := congrArg (fun e => (e.getD SfuPeer.empty).sendTransports.length) hput
  simp [SfuPeer.pushTransport] at hlen

lemma not_cutOff (h : sys.oldest k = some c) : ¬CutOff sys k := by
  intro hcut
  obtain ⟨sfu, t, ht⟩ := willing_creates sys.server.sfuManager c.roomId c.peerId "t"
  have hsame := ((hcut c h _).2 (.createWebRtcTransport c.roomId c.peerId .send) (willing "t") rfl).2
  simp only [step, message, live_index h, SignalingServer.relayMessage, SignalingServer.sfuOrRelay,
    SignalingServer.handleSfuMessage, SignalingServer.handleCreateTransport, ht] at hsame
  exact created_ne ht hsame

end System

theorem kick_handlers_iff (acts : List Action) (a : Action) :
    let sys := run System.step .init acts
    sys.KickTakesEffect a ↔ ∀ k c, sys.oldest k = some c → ¬sys.Kicked c a := by
  intro sys
  constructor
  · intro h k c hc hkicked
    have hafter : (sys.step a).oldest k = some c := by
      rw [(System.oldest_congr (System.kicked_step hkicked)).1]
      exact hc
    exact System.not_cutOff hafter (h k c hc hkicked [])
  · intro h k c hc hkicked
    exact absurd hkicked (h k c hc)

/-- What is documented of the router and of `Path<String>`: a path matches a template that is there,
one without parameters only as it stands, and the one parameter has to be there. -/
structure Axum.Documented (ax : Axum) : Prop where
  inserted : ∀ ts path t captured, ax.lookup ts path = some (t, captured) → t ∈ ts
  literal : ∀ ts path t captured, ax.lookup ts path = some (t, captured) →
    ':' ∉ t.toList → '*' ∉ t.toList → path = t ∧ captured = []
  single : ax.pathString [] = none

def KickReply.action : KickReply → Option Action
  | .kicked peerId _ => some (.kickPeer peerId)
  | .removed roomId => some (.removeRoom roomId)
  | .refused _ _ => none

def System.Reports (ax : Axum) (sys : System) (req : AdminRequest) (a : Action) : Prop :=
  ∃ reply, sys.serve ax req = some (sys.step a, reply) ∧ reply.action = some a

section Routes

variable {ax : Axum} {sys sys' : System} {req : AdminRequest} {reply : KickReply}

lemma literal_templates : ∀ e ∈ adminRouter, ∀ h ∈ e.2, h.2 = .kickPeer ∨ h.2 = .removeRoom →
    ':' ∉ e.1.toList ∧ '*' ∉ e.1.toList := by
  decide

lemma mem_of_lookup {α β : Type} [BEq α] [LawfulBEq α] {l : List (α × β)} {k : α} {v : β}
    (h : l.lookup k = some v) : (k, v) ∈ l := by
  obtain ⟨before, after, rfl, -⟩ := List.lookup_eq_some_iff.mp h
  exact List.mem_append_right _ List.mem_cons_self

lemma captured_nil (hax : ax.Documented) {ts : List String} {path t : String}
    {captured : List (String × String)} (h : ax.lookup ts path = some (t, captured)) {m : Method}
    {handler : AdminHandler} (hlookup : ((adminRouter.lookup t).getD []).lookup m = some handler)
    (hkick : handler = .kickPeer ∨ handler = .removeRoom) : captured = [] := by
  obtain ⟨rows, hrows⟩ : ∃ rows, adminRouter.lookup t = some rows := by
    cases hr : adminRouter.lookup t with
    | some rows => exact ⟨rows, rfl⟩
    | none =>
      rw [hr] at hlookup
      cases hlookup
  rw [hrows, Option.getD_some] at hlookup
  obtain ⟨hcolon, hstar⟩ := literal_templates _ (mem_of_lookup hrows) _
    (mem_of_lookup hlookup) hkick
  exact (hax.literal ts path t captured h hcolon hstar).2

lemma serve_refuses (hax : ax.Documented) (h : sys.serve ax req = some (sys', reply)) :
    sys' = sys ∧ reply.action = none := by
  rw [System.serve] at h
  split at h
  · cases h
    exact ⟨rfl, rfl⟩
  split at h
  · cases h
    exact ⟨rfl, rfl⟩
  rename_i template captured hlookup
  split at h
  · cases h
    exact ⟨rfl, rfl⟩
  · rename_i hhandler
    rw [captured_nil hax hlookup hhandler (.inl rfl), hax.single] at h
    cases h
    exact ⟨rfl, rfl⟩
  · rename_i hhandler
    rw [captured_nil hax hlookup hhandler (.inr rfl), hax.single] at h
    cases h
    exact ⟨rfl, rfl⟩
  · cases h

end Routes

section Segments

def segments (path : String) : List (List Char) := path.toList.splitOn '/'

def matchSegments : List (List Char) → List (List Char) → Option (List (String × String))
  | [], [] => some []
  | (':' :: name) :: ts, p :: ps =>
      if p = [] then none
      else (matchSegments ts ps).map ((String.ofList name, String.ofList p) :: ·)
  | t :: ts, p :: ps => if t = p then matchSegments ts ps else none
  | _, _ => none

def namedSegments : Axum where
  lookup ts path :=
    if path ∈ ts ∧ ':' ∉ path.toList then some (path, [])
    else ts.findSome? fun t =>
      if ':' ∈ t.toList then (matchSegments (segments t) (segments path)).map (t, ·) else none
  pathString
    | [(_, value)] => some value
    | _ => none

lemma namedSegments_documented : namedSegments.Documented := by
  have hcases : ∀ ts path t captured, namedSegments.lookup ts path = some (t, captured) →
      t ∈ ts ∧ (path = t ∧ captured = [] ∨ ':' ∈ t.toList) := by
    intro ts path t captured h
    simp only [namedSegments] at h
    split_ifs at h with hliteral
    · cases h
      exact ⟨hliteral.1, .inl ⟨rfl, rfl⟩⟩
    · obtain ⟨t', ht', h⟩ := List.exists_of_findSome?_eq_some h
      split_ifs at h with hcolon
      obtain ⟨_, -, h⟩ := Option.map_eq_some_iff.mp h
      cases h
      exact ⟨ht', .inr hcolon⟩
  refine ⟨fun ts path t captured h => (hcases ts path t captured h).1, ?_, rfl⟩
  intro ts path t captured h hcolon _
  exact (hcases ts path t captured h).2.resolve_right hcolon

end Segments

def viewerJoined : List Action :=
  [.join ⟨"h", .device "car", "car", .host, some 2, none⟩ "n1",
    .join ⟨"v", .account ⟨"vera", .viewer, ["car"]⟩, "car", .consumer, some 2, none⟩ "n2"]

end MediaServo.Server
