import MediaServo.Foundations.Runs
import MediaServo.ServerProofs.Frames

/-! What stays in a room behind its host. The cleanup of a host clears the consumers, and the remote
slot is left to the one who made the room. -/

namespace MediaServo.Server

open MediaServo.Foundations MediaServo.Common

namespace RoomManager

variable {rooms : RoomManager} {roomId peerId r q : String}

def remoteOf (rooms : RoomManager) (roomId : String) : Option String :=
  (rooms.get roomId).bind Room.remote

/-- The call by which a peer takes the remote slot: its join makes the room. -/
def Makes (r q : String) (rooms : RoomManager) (c : RoomCall) : Prop :=
  c = .join r q .remote ∧ rooms.get r = none

def Vacates (r q : String) (c : RoomCall) : Prop := c = .leave r q ∨ c = .remove r

lemma remoteOf_eq_some :
    rooms.remoteOf r = some q ↔ ∃ room, rooms.get r = some room ∧ room.remote = some q := by
  simp [remoteOf, Option.bind_eq_some_iff]

lemma remoteOf_sweep : (sweep rooms).remoteOf r = some q ↔ rooms.remoteOf r = some q := by
  simp only [remoteOf_eq_some, sweep, FiniteMap.get_retain, Option.filter_eq_some_iff]
  constructor
  · rintro ⟨room, ⟨hr, _⟩, hq⟩
    exact ⟨room, hr, hq⟩
  · rintro ⟨room, hr, hq⟩
    exact ⟨room, ⟨hr, occupied_of_member (Or.inr (Or.inl hq))⟩, hq⟩

lemma remoteOf_leaveRoom :
    (rooms.leaveRoom roomId peerId).1.remoteOf r = some q ↔
      rooms.remoteOf r = some q ∧ ¬(r = roomId ∧ q = peerId) := by
  rw [leaveRoom, remoteOf_sweep, remoteOf, FiniteMap.get_adjust]
  by_cases hr : r = roomId
  · subst hr
    cases hg : rooms.get r with
    | none => simp [remoteOf, hg]
    | some room =>
      simp only [remoteOf, hg, Option.map_some, Option.bind_some, Room.without, if_true, true_and]
      by_cases hq : room.remote = some peerId
      · simp [hq]
        exact Eq.symm
      · simp only [hq, if_false]
        constructor
        · intro h
          refine ⟨h, ?_⟩
          intro he
          rw [he] at h
          exact hq h
        · exact And.left
  · simp [remoteOf, hr]

lemma remoteOf_disconnectConsumers :
    (rooms.disconnectConsumers roomId).1.remoteOf r = some q ↔ rooms.remoteOf r = some q := by
  rw [disconnectConsumers, remoteOf_sweep, remoteOf, FiniteMap.get_adjust]
  split
  · cases hg : rooms.get r <;> simp [remoteOf, hg]
  · rfl

lemma remoteOf_removeRoom :
    (rooms.removeRoom roomId).remoteOf r = some q ↔ rooms.remoteOf r = some q ∧ r ≠ roomId := by
  rw [removeRoom, remoteOf, FiniteMap.get_remove]
  by_cases hr : r = roomId
  · simp [hr]
  · simp [remoteOf, hr]

lemma remoteOf_set_of_eq {room old : Room} (hg : rooms.get roomId = some old)
    (h : room.remote = old.remote) :
    RoomManager.remoteOf (rooms.set roomId room) r = some q ↔ rooms.remoteOf r = some q := by
  rw [remoteOf, FiniteMap.get_set]
  by_cases hr : r = roomId
  · subst hr
    simp [remoteOf, hg, h]
  · simp [remoteOf, hr]

lemma remoteOf_join {role : PeerRole} :
    (rooms.step (.join roomId peerId role)).remoteOf r = some q ↔
      Makes r q rooms (.join roomId peerId role) ∨ rooms.remoteOf r = some q := by
  cases hg : rooms.get roomId with
  | some old =>
    have hmakes : ¬Makes r q rooms (.join roomId peerId role) := by
      intro ⟨h, hn⟩
      cases h
      rw [hg] at hn
      cases hn
    rw [step, joinRoom, hg]
    cases role with
    | host =>
      cases hh : old.host.isSome with
      | true => simp [hh, hmakes]
      | false =>
        simp only [hh, Bool.false_eq_true, if_false, hmakes, false_or]
        exact remoteOf_set_of_eq hg rfl
    | remote | consumer =>
      simp only [hmakes, false_or]
      exact remoteOf_set_of_eq hg rfl
  | none =>
    rw [step, joinRoom, hg]
    simp only [remoteOf, FiniteMap.get_set]
    by_cases hr : r = roomId
    · subst hr
      cases role <;> simp [Makes, Room.fresh, hg]
    · have hr' : roomId ≠ r := Ne.symm hr
      simp [Makes, hr, hr']

lemma remoteOf_step (c : RoomCall) :
    (rooms.step c).remoteOf r = some q ↔
      Makes r q rooms c ∨ rooms.remoteOf r = some q ∧ ¬Vacates r q c := by
  cases c with
  | join roomId peerId role =>
    rw [remoteOf_join]
    simp [Vacates]
  | leave roomId peerId =>
    rw [step, remoteOf_leaveRoom]
    simp [Makes, Vacates, eq_comm]
  | disconnectConsumers roomId =>
    rw [step, remoteOf_disconnectConsumers]
    simp [Makes, Vacates]
  | remove roomId =>
    rw [step, remoteOf_removeRoom]
    simp [Makes, Vacates, eq_comm]

theorem remoteOf_run (calls : List RoomCall) :
    (run step ∅ calls).remoteOf r = some q ↔
      Since step (Makes r q) (fun _ c => Vacates r q c) ∅ calls := by
  induction calls using List.reverseRecOn with
  | nil => simp [remoteOf, Since]
  | append_singleton calls c ih => rw [run_snoc, remoteOf_step, since_snoc, ih]

lemma member_depart_host (hh : rooms.hostOf roomId = some peerId) :
    (rooms.depart roomId peerId).Member roomId q ↔ rooms.remoteOf roomId = some q ∧ q ≠ peerId := by
  obtain ⟨room, hg, hhost⟩ := hostOf_eq_some.1 hh
  constructor
  · intro hm
    have hd : rooms.isDeviceStream roomId = true := contains_of_member (member_of_host hh)
    rw [depart, hd, hh, if_pos (by simp), disconnectConsumers, member_sweep, member_adjust] at hm
    obtain ⟨left, hl, hq⟩ := hm
    rw [leaveRoom, sweep, FiniteMap.get_retain, FiniteMap.get_adjust, if_pos rfl, hg,
      Option.map_some, Option.filter_eq_some_iff] at hl
    obtain ⟨rfl⟩ := hl.1
    simp only [if_true, Room.Member, Room.without, hhost, reduceCtorEq, List.not_mem_nil, false_or,
      or_false] at hq
    split at hq
    · cases hq
    · next hn =>
      refine ⟨remoteOf_eq_some.2 ⟨room, hg, hq⟩, ?_⟩
      intro he
      rw [hq, he] at hn
      exact hn rfl
  · rintro ⟨hr, hne⟩
    obtain ⟨room', hg', hq⟩ := remoteOf_eq_some.1 hr
    exact member_depart_of_remote hg' hq hne

end RoomManager

open RoomManager

/-- The cleanup of a host empties its room, when no other peer has made the room by joining as
remote and is in it still. -/
theorem host_departure_empties (calls : List RoomCall) (s : SignalingServer) (roomId peerId : String)
    (hs : s.roomManager = run RoomManager.step ∅ calls)
    (hh : s.roomManager.hostOf roomId = some peerId) :
    (∀ q, ¬(s.disconnectSession peerId roomId).roomManager.Member roomId q) ↔
      ¬∃ q, q ≠ peerId ∧
        Since RoomManager.step (Makes roomId q) (fun _ c => Vacates roomId q c) ∅ calls := by
  rw [(s.disconnectSession_departs peerId roomId).rooms, not_exists]
  apply forall_congr'
  intro q
  rw [member_depart_host hh, hs, remoteOf_run, and_comm]

def hostedCalls : List RoomCall :=
  [.join "car1" "car" .host, .join "car1" "desk" .remote, .join "car1" "wall" .consumer]

theorem host_departure_empties_car1 :
    ¬∃ q, (SignalingServer.disconnectSession
      { SignalingServer.init with roomManager := run RoomManager.step ∅ hostedCalls }
      "car" "car1").roomManager.Member "car1" q := by
  intro ⟨q, hmember⟩
  refine (host_departure_empties hostedCalls _ "car1" "car" rfl (by decide)).mpr ?_ q hmember
  intro ⟨q, _, hq⟩
  have hnone : (run RoomManager.step ∅ hostedCalls).remoteOf "car1" = none := by decide
  rw [← remoteOf_run, hnone] at hq
  cases hq

def waitingCalls : List RoomCall := [.join "car1" "desk" .remote, .join "car1" "car" .host]

/-- A remote peer that waits for the vehicle keeps the slot behind it. -/
theorem remote_stays_behind :
    ¬∀ q, ¬(SignalingServer.disconnectSession
      { SignalingServer.init with roomManager := run RoomManager.step ∅ waitingCalls }
      "car" "car1").roomManager.Member "car1" q := by
  intro h
  apply h "desk"
  rw [(SignalingServer.disconnectSession_departs _ _ _).rooms]
  exact (member_depart_host (by decide)).mpr ⟨by decide, by decide⟩

end MediaServo.Server
