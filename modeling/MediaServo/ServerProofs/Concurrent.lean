import MediaServo.Server.Concurrent
import MediaServo.ServerProofs.Rooms
import MediaServo.ServerProofs.SfuFrames
import MediaServo.ServerProofs.SfuGates

/-! What calls that run at once leave in the two maps. A call that nothing interrupts does what
the sequential function does; a call that stores a new room over one that is there takes the
members, or the transports, of other calls with it. -/

namespace MediaServo.Server

open MediaServo.Foundations MediaServo.Common

def SfuPeer.transports (e : SfuPeer) : TransportDirection → List String
  | .send => e.sendTransports
  | .recv => e.recvTransports

lemma SfuPeer.mem_pushTransport {e : SfuPeer} {d d' : TransportDirection} {t id : String} :
    t ∈ (e.pushTransport d id).transports d' ↔ t ∈ e.transports d' ∨ d' = d ∧ t = id := by
  cases d <;> cases d' <;> simp [pushTransport, transports]

namespace Concurrent

section Uninterrupted

variable (rooms : RoomManager) (sfu : SfuManager) (w : Worker) (r p : String)

def joinOutcome : Except JoinError RoomManager → RoomManager × CallPhase
  | .ok joined => (joined, .succeeded none)
  | .error .roomFull => (rooms, .roomFull)

theorem join_uninterrupted (role : PeerRole) :
    (fun x => joinStep x.1 r p role x.2)^[2] (rooms, .called) =
      joinOutcome rooms (rooms.joinRoom r p role) := by
  change joinStep (joinStep rooms r p role .called).1 r p role (joinStep rooms r p role .called).2 = _
  cases h : rooms.get r with
  | none => simp only [joinStep, h, RoomManager.joinRoom, joinOutcome]
  | some room =>
    cases hj : rooms.joinRoom r p role with
    | ok joined => simp only [joinStep, h, hj, joinOutcome]
    | error e =>
      cases e with
      | roomFull => simp only [joinStep, h, hj, joinOutcome]

def transportOutcome : Answer TransportCreated → CallPhase
  | .ok t => .succeeded (some t)
  | .failed e => .failed e
  | .elapsed => .dropped

theorem transport_uninterrupted (d : TransportDirection) :
    (fun x => transportStep x.1 r p d w x.2)^[5] (sfu, .called) =
      ((sfu.createWebrtcTransport r p d w).1,
        transportOutcome (sfu.createWebrtcTransport r p d w).2) := by
  simp only [Function.iterate_succ, Function.iterate_zero, Function.comp_apply, id_eq]
  cases h : sfu.get r with
  | none =>
    have hc : sfu.contains r = false := by simp [FiniteMap.contains, h]
    cases hr : w.router with
    | ok _ =>
      cases ht : w.transport <;>
        simp [transportStep, routerStep, withRouter, SfuManager.createWebrtcTransport,
          SfuManager.ensureRouter, transportOutcome, h, hc, hr, ht]
    | failed e =>
      simp [transportStep, routerStep, SfuManager.createWebrtcTransport, SfuManager.ensureRouter,
        transportOutcome, h, hc, hr]
    | elapsed =>
      simp [transportStep, routerStep, SfuManager.createWebrtcTransport, SfuManager.ensureRouter,
        transportOutcome, h, hc, hr]
  | some room =>
    have hc : sfu.contains r = true := by simp [FiniteMap.contains, h]
    cases ht : w.transport <;>
      simp [transportStep, routerStep, withRouter, SfuManager.createWebrtcTransport,
        SfuManager.ensureRouter, transportOutcome, h, hc, ht]

end Uninterrupted

variable {s t u : Concurrent} {c : Call} {phase : CallPhase} {w : Worker} {r p : String}

def Present (s : Concurrent) : Call → Option TransportCreated → Prop
  | .join r p _, _ => s.roomManager.Member r p
  | .transport r p d, some t =>
      ∃ e, s.sfuManager.peer r p = some e ∧ t.transportId ∈ e.transports d
  | .transport _ _ _, none => False
  | .router r, _ => s.sfuManager.contains r = true

/-- The room that a new call stores is not there, or it is an SFU room without peers. -/
def StoresFresh (s : Concurrent) : CallAction → Prop
  | .call _ => True
  | .resume i _ =>
      match s.calls[i]? with
      | some (.join r _ _, .absent) => s.roomManager.get r = none
      | some (.transport r _ _, .routerMade) => ∀ p, s.sfuManager.peer r p = none
      | some (.router r, .routerMade) => ∀ p, s.sfuManager.peer r p = none
      | _ => True

structure Grows (s t : Concurrent) : Prop where
  member : ∀ r p, s.roomManager.Member r p → t.roomManager.Member r p
  room : ∀ r, s.sfuManager.contains r = true → t.sfuManager.contains r = true
  peer : ∀ r p e, s.sfuManager.peer r p = some e →
    ∃ e', t.sfuManager.peer r p = some e' ∧ ∀ d, ∀ x ∈ e.transports d, x ∈ e'.transports d

lemma Grows.refl (s : Concurrent) : Grows s s :=
  ⟨fun _ _ h => h, fun _ h => h, fun _ _ e he => ⟨e, he, fun _ _ hx => hx⟩⟩

lemma Grows.rooms {rooms : RoomManager}
    (h : ∀ r p, s.roomManager.Member r p → rooms.Member r p) :
    Grows s { s with roomManager := rooms } :=
  ⟨h, fun _ h => h, fun _ _ e he => ⟨e, he, fun _ _ hx => hx⟩⟩

lemma Grows.withCalls (h : Grows s t) (calls : List (Call × CallPhase)) :
    Grows s { t with calls := calls } := ⟨h.member, h.room, h.peer⟩

def Standing (s : Concurrent) (c : Call) : CallPhase → Prop
  | .succeeded t => Present s c t
  | .routed | .transportMade _ =>
      match c with
      | .transport r _ _ => s.sfuManager.contains r = true
      | _ => True
  | _ => True

lemma Present.grow {x : Option TransportCreated} (h : Present s c x) (hg : Grows s t) :
    Present t c x := by
  cases c with
  | join r p role => exact hg.member r p h
  | transport r p d =>
    cases x with
    | none => exact h
    | some x =>
      obtain ⟨e, he, hx⟩ := h
      obtain ⟨e', he', hsub⟩ := hg.peer r p e he
      exact ⟨e', he', hsub d _ hx⟩
  | router r => exact hg.room r h

lemma Standing.grow (h : Standing s c phase) (hg : Grows s t) : Standing t c phase := by
  cases phase with
  | succeeded x => exact Present.grow h hg
  | routed =>
    cases c with
    | transport r p d => exact hg.room r h
    | _ => trivial
  | transportMade x =>
    cases c with
    | transport r p d => exact hg.room r h
    | _ => trivial
  | _ => trivial

lemma grows_router {sfu : SfuManager} (hsfu : sfu = s.sfuManager.set r ⟨∅, ∅⟩)
    (hfresh : ∀ p, s.sfuManager.peer r p = none) : Grows s { s with sfuManager := sfu } := by
  subst hsfu
  refine ⟨fun _ _ h => h, fun j hj => ?_, fun j p e he => ?_⟩
  · rw [FiniteMap.contains, FiniteMap.get_set]
    split_ifs
    · rfl
    · exact hj
  · have hne : j ≠ r := by
      rintro rfl
      rw [hfresh p] at he
      cases he
    refine ⟨e, ?_, fun _ _ hx => hx⟩
    change SfuManager.peer (FiniteMap.set _ _ _) j p = some e
    rw [SfuManager.peer, FiniteMap.get_set_ne _ _ hne]
    exact he

lemma grows_push {d : TransportDirection} {id : String} :
    Grows s { s with sfuManager := s.sfuManager.setPeer r p (·.pushTransport d id) } := by
  refine ⟨fun _ _ h => h, fun j hj => ?_, fun j q e he => ?_⟩
  · rw [FiniteMap.contains_iff] at hj ⊢
    obtain ⟨room, hroom⟩ := hj
    change ∃ v, FiniteMap.get (SfuManager.setPeer _ _ _ _) j = some v
    rw [SfuManager.setPeer, FiniteMap.get_adjust, hroom]
    split_ifs
    · exact ⟨_, rfl⟩
    · exact ⟨_, rfl⟩
  · change ∃ e', SfuManager.peer (SfuManager.setPeer _ _ _ _) j q = some e' ∧ _
    rw [SfuManager.peer_setPeer]
    split_ifs with h
    · obtain ⟨rfl, rfl⟩ := h
      obtain ⟨room, hroom, _⟩ := SfuManager.peer_eq_some.1 he
      rw [hroom, he]
      refine ⟨_, rfl, fun d' x hx => ?_⟩
      exact SfuPeer.mem_pushTransport.2 (.inl hx)
    · exact ⟨e, he, fun _ _ hx => hx⟩

def Advances (s : Concurrent) (c : Call) (x : Concurrent × CallPhase) : Prop :=
  Grows s x.1 ∧ Standing x.1 c x.2

lemma join_advances {role : PeerRole} (h : Standing s (.join r p role) phase)
    (hfresh : phase = .absent → s.roomManager.get r = none) :
    Advances s (.join r p role) (s.advance w (.join r p role) phase) := by
  have hjoined : ∀ {joined}, s.roomManager.joinRoom r p role = .ok joined →
      Advances s (.join r p role) ({ s with roomManager := joined }, .succeeded none) := by
    intro joined hj
    refine ⟨Grows.rooms fun _ _ hm => (RoomManager.member_joinRoom hj).mpr (.inl hm), ?_⟩
    exact (RoomManager.member_joinRoom hj).mpr (.inr ⟨rfl, rfl⟩)
  have hstay : Advances s (.join r p role) (s, phase) := ⟨Grows.refl s, h⟩
  cases phase with
  | called =>
    simp only [advance, joinStep]
    cases hg : s.roomManager.get r with
    | none => exact ⟨Grows.refl s, trivial⟩
    | some room =>
      cases hj : s.roomManager.joinRoom r p role with
      | ok joined => exact hjoined hj
      | error e =>
        cases e with
        | roomFull => exact ⟨Grows.refl s, trivial⟩
  | absent =>
    apply hjoined
    simp only [RoomManager.joinRoom, hfresh rfl]
  | _ => exact hstay

lemma router_advances {room : String} (hc : c = .router room ∨ ∃ p d, c = .transport room p d)
    (hphase : phase = .called ∨ phase = .absent ∨ phase = .routerMade)
    (hfresh : phase = .routerMade → ∀ p, s.sfuManager.peer room p = none) :
    Advances s c ({ s with sfuManager := (routerStep s.sfuManager c room w phase).1 },
      (routerStep s.sfuManager c room w phase).2) := by
  have hrouted : ∀ {t : Concurrent}, t.sfuManager.contains room = true →
      Standing t c (withRouter c) := by
    intro t ht
    obtain rfl | ⟨p, d, rfl⟩ := hc
    · exact ht
    · exact ht
  obtain rfl | rfl | rfl := hphase
  · refine ⟨Grows.refl s, ?_⟩
    simp only [routerStep]
    split_ifs with h
    · exact hrouted h
    · trivial
  · simp only [routerStep]
    cases w.router with
    | ok _ => exact ⟨Grows.refl s, trivial⟩
    | failed e => exact ⟨Grows.refl s, trivial⟩
    | elapsed => exact ⟨Grows.refl s, trivial⟩
  · refine ⟨grows_router rfl (hfresh rfl), hrouted ?_⟩
    simp [routerStep, FiniteMap.contains]

lemma transport_advances {d : TransportDirection} (h : Standing s (.transport r p d) phase)
    (hfresh : phase = .routerMade → ∀ p, s.sfuManager.peer r p = none) :
    Advances s (.transport r p d) (s.advance w (.transport r p d) phase) := by
  have hstay : Advances s (.transport r p d) (s, phase) := ⟨Grows.refl s, h⟩
  cases phase with
  | called => exact router_advances (w := w) (.inr ⟨p, d, rfl⟩) (.inl rfl) (fun h => by cases h)
  | absent => exact router_advances (.inr ⟨p, d, rfl⟩) (.inr (.inl rfl)) (fun h => by cases h)
  | routerMade => exact router_advances (w := w) (.inr ⟨p, d, rfl⟩) (.inr (.inr rfl)) hfresh
  | routed =>
    simp only [advance, transportStep]
    cases w.transport with
    | ok t => exact ⟨Grows.refl s, h⟩
    | failed e => exact ⟨Grows.refl s, trivial⟩
    | elapsed => exact ⟨Grows.refl s, trivial⟩
  | transportMade t =>
    refine ⟨grows_push, ?_⟩
    obtain ⟨room, hroom⟩ := (FiniteMap.contains_iff _ _).mp h
    change ∃ e, SfuManager.peer (SfuManager.setPeer _ _ _ _) r p = some e ∧ _
    rw [SfuManager.peer_setPeer, if_pos ⟨rfl, rfl⟩, hroom]
    exact ⟨_, rfl, SfuPeer.mem_pushTransport.2 (.inr ⟨rfl, rfl⟩)⟩
  | _ => exact hstay

lemma advance_advances (h : Standing s c phase)
    (hjoin : ∀ r p role, c = .join r p role → phase = .absent → s.roomManager.get r = none)
    (hrouter : ∀ r, c = .router r ∨ (∃ p d, c = .transport r p d) → phase = .routerMade →
      ∀ p, s.sfuManager.peer r p = none) :
    Advances s c (s.advance w c phase) := by
  cases c with
  | join r p role => exact join_advances h (hjoin r p role rfl)
  | transport r p d => exact transport_advances h (hrouter r (.inr ⟨p, d, rfl⟩))
  | router r =>
    have hstay : Advances s (.router r) (s, phase) := ⟨Grows.refl s, h⟩
    have hr := hrouter r (.inl rfl)
    cases phase with
    | called => exact router_advances (w := w) (.inl rfl) (.inl rfl) hr
    | absent => exact router_advances (.inl rfl) (.inr (.inl rfl)) hr
    | routerMade => exact router_advances (w := w) (.inl rfl) (.inr (.inr rfl)) hr
    | _ => exact hstay

theorem standing_step {a : CallAction} (h : ∀ x ∈ s.calls, Standing s x.1 x.2)
    (ha : StoresFresh s a) : ∀ x ∈ (s.step a).calls, Standing (s.step a) x.1 x.2 := by
  cases a with
  | call c =>
    intro x hx
    obtain hx | hx := List.mem_append.mp hx
    · exact (h x hx).grow ((Grows.refl s).withCalls _)
    · rw [List.mem_singleton] at hx
      subst hx
      trivial
  | resume i w =>
    rw [StoresFresh] at ha
    cases hi : s.calls[i]? with
    | none =>
      simp only [step, hi]
      exact h
    | some x =>
      obtain ⟨c, phase⟩ := x
      simp only [hi] at ha
      have hadv : Advances s c (s.advance w c phase) := by
        apply advance_advances (h _ (List.mem_iff_getElem?.mpr ⟨i, hi⟩))
        · rintro r p role rfl rfl
          exact ha
        · rintro r (rfl | ⟨p, d, rfl⟩) rfl
          · exact ha
          · exact ha
      simp only [step, hi]
      intro y hy
      obtain hy | rfl := List.mem_or_eq_of_mem_set hy
      · exact (h y hy).grow (hadv.1.withCalls _)
      · exact hadv.2.grow ((Grows.refl _).withCalls _)

end Concurrent

open Concurrent

theorem no_lost_creation (rooms : RoomManager) (sfu : SfuManager) (acts : List CallAction)
    (h : Along step StoresFresh ⟨rooms, sfu, []⟩ acts) :
    let s := run step ⟨rooms, sfu, []⟩ acts
    ∀ c t, (c, .succeeded t) ∈ s.calls → Present s c t := by
  intro s c t hc
  have hs := run_invariant (I := fun s => ∀ x ∈ s.calls, Standing s x.1 x.2)
    (fun x hx => by cases hx) (fun t a ht ha => standing_step ht ha) h
  exact hs _ hc

def madeTransport : TransportCreated := ⟨"t", ⟨"ufrag", "pwd"⟩, ⟨[], "auto"⟩, [], none⟩

theorem no_lost_creation_in_turn :
    let acts : List CallAction := [.call (.join "car" "h" .host), .call (.transport "car" "h" .send),
      .resume 0 (willing "t"), .resume 0 (willing "t"), .resume 1 (willing "t"),
      .resume 1 (willing "t"), .resume 1 (willing "t"), .resume 1 (willing "t"),
      .resume 1 (willing "t")]
    let s := run step ⟨∅, ∅, []⟩ acts
    s.roomManager.Member "car" "h" ∧
      ∃ e, s.sfuManager.peer "car" "h" = some e ∧ "t" ∈ e.transports .send := by
  intro acts s
  have hfresh : Along step StoresFresh ⟨∅, ∅, []⟩ acts :=
    ⟨trivial, trivial, trivial, rfl, trivial, trivial, fun _ => rfl, trivial, trivial, trivial⟩
  have hkept := no_lost_creation ∅ ∅ acts hfresh
  exact ⟨hkept (.join "car" "h" .host) none (by decide),
    hkept (.transport "car" "h" .send) (some madeTransport) (by decide)⟩

theorem creation_overwritten :
    let joins : List CallAction := [.call (.join "car" "h" .host), .call (.join "car" "c" .consumer),
      .resume 0 (willing "t"), .resume 1 (willing "t"), .resume 0 (willing "t"), .resume 1 (willing "t")]
    let transports : List CallAction := [.call (.transport "car" "h" .send), .call (.router "car"),
      .resume 0 (willing "t"), .resume 1 (willing "t"), .resume 0 (willing "t"), .resume 1 (willing "t"),
      .resume 0 (willing "t"), .resume 0 (willing "t"), .resume 0 (willing "t"), .resume 1 (willing "t")]
    let s := run step ⟨∅, ∅, []⟩ joins
    let u := run step ⟨∅, ∅, []⟩ transports
    ((.join "car" "h" .host, .succeeded none) ∈ s.calls ∧ ¬Present s (.join "car" "h" .host) none) ∧
      (.transport "car" "h" .send, .succeeded (some madeTransport)) ∈ u.calls ∧
      ¬Present u (.transport "car" "h" .send) (some madeTransport) := by
  intro joins transports s u
  refine ⟨⟨by decide, ?_⟩, by decide, ?_⟩
  · rintro ⟨room, hroom, hm⟩
    have hroom' : s.roomManager.get "car" = some ⟨none, none, ["c"]⟩ := by decide
    rw [hroom'] at hroom
    cases hroom
    revert hm
    decide
  · rintro ⟨e, he, _⟩
    have hnone : (u.sfuManager.peer "car" "h").isNone = true := by decide
    rw [he] at hnone
    cases hnone

end MediaServo.Server
