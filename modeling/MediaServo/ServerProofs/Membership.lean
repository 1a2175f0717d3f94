import MediaServo.Foundations.Runs
import MediaServo.ServerProofs.Rooms

/-! Sequences of room operations: a room holds exactly the sessions that joined it and were not
removed since, and the number of connected peers counts them. -/

namespace MediaServo.Server

open MediaServo.Foundations MediaServo.Common

def Room.members (room : Room) : List String :=
  room.host.toList ++ room.remote.toList ++ room.consumers

namespace RoomManager

def Joins (r p : String) (role : PeerRole) (rooms : RoomManager) (op : RoomCall) : Prop :=
  op = .join r p role ∧ ∃ joined, rooms.joinRoom r p role = .ok joined

def Removes (r p : String) (rooms : RoomManager) : RoomCall → Prop
  | .leave r' p' => r' = r ∧ p' = p
  | .disconnectConsumers r' => r' = r ∧ p ∈ (rooms.disconnectConsumers r).2
  | .remove r' => r' = r
  | .join _ _ _ => False

def Present (ops : List RoomCall) (r p : String) (role : PeerRole) : Prop :=
  Since step (Joins r p role) (Removes r p) ∅ ops

/-- No session joins a room under the peer id of a session that is still in it. -/
def OwnIds (ops : List RoomCall) : Prop :=
  ∀ as bs r p role, ops = as ++ .join r p role :: bs → ∀ role', ¬Present as r p role'

structure Tidy (rooms : RoomManager) : Prop where
  occupied : Occupied rooms
  nodup : ∀ {r room}, rooms.get r = some room → room.members.Nodup

variable {rooms left : RoomManager} {roomId peerId r p : String} {role : PeerRole}

lemma mem_members {room : Room} : p ∈ room.members ↔ room.Member p := by
  simp [Room.members, Room.Member]

lemma tidy_empty : Tidy ∅ where
  occupied := occupied_empty
  nodup h := by simp at h

lemma tidy_sweep_adjust {f : Room → Room} (h : Tidy rooms)
    (hf : ∀ room, (f room).members.Sublist room.members) : Tidy (sweep (rooms.adjust roomId f)) := by
  refine ⟨occupied_sweep, ?_⟩
  intro r room hr
  rw [sweep, FiniteMap.get_retain, Option.filter_eq_some_iff, FiniteMap.get_adjust] at hr
  obtain ⟨hr, _⟩ := hr
  split_ifs at hr
  · obtain ⟨old, ho, rfl⟩ := Option.map_eq_some_iff.mp hr
    exact (h.nodup ho).sublist (hf old)
  · exact h.nodup hr

lemma without_members (room : Room) (p : String) :
    (room.without p).members.Sublist room.members := by
  have hslot : ∀ o : Option String, (if o = some p then none else o).toList.Sublist o.toList := by
    intro o
    split_ifs
    · exact List.nil_sublist _
    · exact List.Sublist.refl _
  exact ((hslot _).append (hslot _)).append List.filter_sublist

lemma Tidy.leaveRoom (h : Tidy rooms) : Tidy (rooms.leaveRoom roomId peerId).1 :=
  tidy_sweep_adjust h (fun room => without_members room peerId)

lemma Tidy.disconnectConsumers (h : Tidy rooms) : Tidy (rooms.disconnectConsumers roomId).1 := by
  apply tidy_sweep_adjust h
  intro room
  exact (List.Sublist.refl _).append (List.nil_sublist _)

lemma Tidy.removeRoom (h : Tidy rooms) : Tidy (rooms.removeRoom roomId) where
  occupied r room hr := h.occupied r room (FiniteMap.get_of_remove hr)
  nodup hr := h.nodup (FiniteMap.get_of_remove hr)

lemma member_removeRoom : (rooms.removeRoom roomId).Member r p ↔ rooms.Member r p ∧ r ≠ roomId := by
  rw [Member, Member, RoomManager.removeRoom, FiniteMap.get_remove]
  split_ifs with hr <;> simp [hr]

lemma hostOf_removeRoom : (rooms.removeRoom roomId).hostOf r = some p ↔
    rooms.hostOf r = some p ∧ r ≠ roomId := by
  rw [hostOf, hostOf, RoomManager.removeRoom, FiniteMap.get_remove]
  split_ifs with hr <;> simp [hr]

lemma nodup_joinRoom (h : Tidy rooms) (hp : ¬rooms.Member roomId peerId)
    (hj : rooms.joinRoom roomId peerId role = .ok left) {room : Room}
    (hr : left.get roomId = some room) : room.members.Nodup := by
  rw [RoomManager.joinRoom] at hj
  cases hg : rooms.get roomId with
  | none =>
    simp only [hg, Except.ok.injEq] at hj
    subst hj
    rw [FiniteMap.get_set_self] at hr
    cases hr
    cases role <;> simp [Room.fresh, Room.members]
  | some old =>
    have hnew : peerId ∉ old.members := fun hm => hp ⟨old, hg, mem_members.1 hm⟩
    have hold := h.nodup hg
    have hconsumer : ({ old with consumers := old.consumers ++ [peerId] } : Room).members.Nodup := by
      change (_ ++ _ ++ (old.consumers ++ [peerId])).Nodup
      rw [← List.append_assoc]
      exact hold.append (List.nodup_singleton _) (by simpa using hnew)
    cases role with
    | host =>
      simp only [hg] at hj
      split_ifs at hj with hh
      cases hj
      rw [FiniteMap.get_set_self] at hr
      cases hr
      have hhost : old.host = none := by simpa using hh
      simp only [Room.members, hhost, Option.toList_none, List.nil_append] at hnew hold
      exact List.nodup_cons.mpr ⟨hnew, hold⟩
    | remote =>
      simp only [hg] at hj
      cases hj
      rw [FiniteMap.get_set_self] at hr
      cases hr
      exact hconsumer
    | consumer =>
      simp only [hg] at hj
      cases hj
      rw [FiniteMap.get_set_self] at hr
      cases hr
      exact hconsumer

lemma get_joinRoom_ne (hj : rooms.joinRoom roomId peerId role = .ok left) (hr : r ≠ roomId) :
    left.get r = rooms.get r := by
  rw [RoomManager.joinRoom] at hj
  cases hg : rooms.get roomId with
  | none =>
    simp only [hg, Except.ok.injEq] at hj
    subst hj
    exact FiniteMap.get_set_ne _ _ hr
  | some room =>
    cases role <;> simp only [hg] at hj
    · split_ifs at hj
      cases hj
      exact FiniteMap.get_set_ne _ _ hr
    all_goals
      cases hj
      exact FiniteMap.get_set_ne _ _ hr

lemma Tidy.joinRoom (h : Tidy rooms) (hp : ¬rooms.Member roomId peerId)
    (hj : rooms.joinRoom roomId peerId role = .ok left) : Tidy left := by
  refine ⟨h.occupied.joinRoom hj, ?_⟩
  intro r room hr
  by_cases he : r = roomId
  · subst he
    exact nodup_joinRoom h hp hj hr
  · rw [get_joinRoom_ne hj he] at hr
    exact h.nodup hr

lemma mem_disconnected :
    p ∈ (rooms.disconnectConsumers r).2 ↔ ∃ room, rooms.get r = some room ∧ p ∈ room.consumers := by
  change p ∈ ((rooms.get r).map Room.consumers).getD [] ↔ _
  cases rooms.get r <;> simp

lemma Tidy.host_not_disconnected (h : Tidy rooms) (hh : rooms.hostOf r = some p) :
    p ∉ (rooms.disconnectConsumers r).2 := by
  rw [mem_disconnected]
  rintro ⟨room, hr, hc⟩
  obtain ⟨room', hr', hp⟩ := hostOf_eq_some.1 hh
  rw [hr] at hr'
  cases hr'
  have hn := h.nodup hr
  simp only [Room.members, hp, Option.toList_some, List.cons_append, List.nodup_cons] at hn
  exact hn.1 (List.mem_append_right _ hc)

lemma Tidy.member_disconnectConsumers (h : Tidy rooms) :
    (rooms.disconnectConsumers roomId).1.Member r p ↔
      rooms.Member r p ∧ ¬(roomId = r ∧ p ∈ (rooms.disconnectConsumers r).2) := by
  by_cases hr : r = roomId
  · subst hr
    rw [mem_disconnected, RoomManager.disconnectConsumers, member_sweep, member_adjust]
    simp only [if_true, true_and]
    constructor
    · rintro ⟨room, hg, hm⟩
      have hslot : room.host = some p ∨ room.remote = some p := by
        rcases hm with hm | hm | hm
        · exact Or.inl hm
        · exact Or.inr hm
        · simp at hm
      refine ⟨⟨room, hg, hslot.imp id Or.inl⟩, ?_⟩
      rintro ⟨room', hg', hc⟩
      rw [hg] at hg'
      cases hg'
      have hs : p ∈ room.host.toList ++ room.remote.toList := by
        rcases hslot with hs | hs <;> simp [hs]
      exact (List.nodup_append.mp (h.nodup hg)).2.2 p hs p hc rfl
    · rintro ⟨⟨room, hg, hm⟩, hc⟩
      refine ⟨room, hg, ?_⟩
      rcases hm with hm | hm | hm
      · exact Or.inl hm
      · exact Or.inr (Or.inl hm)
      · exact absurd ⟨room, hg, hm⟩ hc
  · rw [member_disconnectConsumers_of_ne hr]
    exact ⟨fun hm => ⟨hm, fun he => hr he.1.symm⟩, fun hm => hm.1⟩

structure Records (ops : List RoomCall) (rooms : RoomManager) : Prop where
  tidy : Tidy rooms
  member : ∀ {r p}, rooms.Member r p ↔ ∃ role, Present ops r p role
  host : ∀ {r p}, rooms.hostOf r = some p ↔ Present ops r p .host

lemma records_nil : Records [] ∅ where
  tidy := tidy_empty
  member {r p} := by
    constructor
    · rintro ⟨room, hr, _⟩
      simp at hr
    · rintro ⟨role, h⟩
      exact absurd h not_since_nil
  host {r p} := by
    constructor
    · intro h
      simp [hostOf] at h
    · intro h
      exact absurd h not_since_nil

section Step

variable {ops : List RoomCall}

lemma present_snoc {op : RoomCall} :
    Present (ops ++ [op]) r p role ↔ Joins r p role (run step ∅ ops) op ∨
      (Present ops r p role ∧ ¬Removes r p (run step ∅ ops) op) :=
  since_snoc

lemma Records.joined (h : Records ops (run step ∅ ops))
    (hp : ∀ role', ¬Present ops roomId peerId role')
    (hj : (run step ∅ ops).joinRoom roomId peerId role = .ok left) :
    Records (ops ++ [.join roomId peerId role]) left := by
  have hnew : ∀ {r p role'}, Joins r p role' (run step ∅ ops) (.join roomId peerId role) ↔
      r = roomId ∧ p = peerId ∧ role' = role := by
    intro r p role'
    constructor
    · rintro ⟨he, _⟩
      cases he
      exact ⟨rfl, rfl, rfl⟩
    · rintro ⟨rfl, rfl, rfl⟩
      exact ⟨rfl, left, hj⟩
  refine ⟨h.tidy.joinRoom (fun hm => ?_) hj, ?_, ?_⟩
  · obtain ⟨role', hr⟩ := h.member.mp hm
    exact hp role' hr
  · intro r p
    simp only [member_joinRoom hj, h.member, present_snoc, hnew, Removes, not_false_iff, and_true]
    constructor
    · rintro (⟨role', hr⟩ | ⟨hr, hq⟩)
      · exact ⟨role', Or.inr hr⟩
      · exact ⟨role, Or.inl ⟨hr, hq, rfl⟩⟩
    · rintro ⟨role', ⟨hr, hq, _⟩ | hr⟩
      · exact Or.inr ⟨hr, hq⟩
      · exact Or.inl ⟨role', hr⟩
  · intro r p
    rw [hostOf_joinRoom hj, h.host, present_snoc, hnew]
    simp only [Removes, not_false_iff, and_true, eq_comm (a := role)]
    exact or_comm

lemma Records.refused {e : JoinError} (h : Records ops (run step ∅ ops))
    (hj : (run step ∅ ops).joinRoom roomId peerId role = .error e) :
    Records (ops ++ [.join roomId peerId role]) (run step ∅ ops) := by
  have hnone : ∀ {r p role'}, ¬Joins r p role' (run step ∅ ops) (.join roomId peerId role) := by
    rintro r p role' ⟨he, joined, hok⟩
    cases he
    rw [hj] at hok
    cases hok
  refine ⟨h.tidy, ?_, ?_⟩
  · intro r p
    simp only [h.member, present_snoc, hnone, Removes, not_false_iff, and_true, false_or]
  · intro r p
    simp only [h.host, present_snoc, hnone, Removes, not_false_iff, and_true, false_or]

lemma not_joins_leave : ¬Joins r p role rooms (.leave roomId peerId) := by
  rintro ⟨he, _⟩
  cases he

lemma not_joins_disconnect : ¬Joins r p role rooms (.disconnectConsumers roomId) := by
  rintro ⟨he, _⟩
  cases he

lemma Records.departed (h : Records ops (run step ∅ ops)) :
    Records (ops ++ [.leave roomId peerId]) ((run step ∅ ops).leaveRoom roomId peerId).1 where
  tidy := h.tidy.leaveRoom
  member {r p} := by
    simp only [member_leaveRoom, h.member, present_snoc, not_joins_leave, Removes, false_or,
      exists_and_right, eq_comm (a := roomId), eq_comm (a := peerId)]
  host {r p} := by
    simp only [hostOf_leaveRoom, h.host, present_snoc, not_joins_leave, Removes, false_or,
      eq_comm (a := roomId), eq_comm (a := peerId)]

lemma not_joins_remove : ¬Joins r p role rooms (.remove roomId) := by
  rintro ⟨he, _⟩
  cases he

lemma Records.removed (h : Records ops (run step ∅ ops)) :
    Records (ops ++ [.remove roomId]) ((run step ∅ ops).removeRoom roomId) where
  tidy := h.tidy.removeRoom
  member {r p} := by
    simp only [member_removeRoom, h.member, present_snoc, not_joins_remove, Removes, false_or,
      exists_and_right, eq_comm (a := roomId)]
  host {r p} := by
    simp only [hostOf_removeRoom, h.host, present_snoc, not_joins_remove, Removes, false_or,
      eq_comm (a := roomId)]

lemma Records.disconnected (h : Records ops (run step ∅ ops)) :
    Records (ops ++ [.disconnectConsumers roomId])
      ((run step ∅ ops).disconnectConsumers roomId).1 where
  tidy := h.tidy.disconnectConsumers
  member {r p} := by
    simp only [h.tidy.member_disconnectConsumers, h.member, present_snoc, not_joins_disconnect,
      Removes, false_or, exists_and_right]
  host {r p} := by
    rw [hostOf_disconnectConsumers, present_snoc, ← h.host]
    simp only [not_joins_disconnect, Removes, false_or]
    constructor
    · intro hh
      exact ⟨hh, fun he => h.tidy.host_not_disconnected hh he.2⟩
    · exact fun hh => hh.1

theorem records_run (ops : List RoomCall) (hown : OwnIds ops) : Records ops (run step ∅ ops) := by
  induction ops using List.reverseRecOn with
  | nil => exact records_nil
  | append_singleton ops op ih =>
    have h := ih (fun as bs r p role he => hown as (bs ++ [op]) r p role (by simp [he]))
    rw [run_snoc]
    cases op with
    | join r p role =>
      have hp := hown ops [] r p role rfl
      cases hj : (run step ∅ ops).joinRoom r p role with
      | ok joined =>
        simp only [step, hj]
        exact h.joined hp hj
      | error e =>
        simp only [step, hj]
        exact h.refused hj
    | leave r p => exact h.departed
    | disconnectConsumers r => exact h.disconnected
    | remove r => exact h.removed

end Step

def memberList (rooms : RoomManager) : List (String × String) :=
  rooms.toList.flatMap (fun e => e.2.members.map (fun p => (e.1, p)))

lemma mem_memberList : (r, p) ∈ rooms.memberList ↔ rooms.Member r p := by
  simp only [memberList, List.mem_flatMap, List.mem_map, Prod.mk.injEq, Prod.exists,
    FiniteMap.mem_toList]
  constructor
  · rintro ⟨r', room, hr, p', hp, rfl, rfl⟩
    exact ⟨room, hr, mem_members.1 hp⟩
  · rintro ⟨room, hr, hp⟩
    exact ⟨r, room, hr, p, mem_members.2 hp, rfl, rfl⟩

lemma Tidy.nodup_memberList (h : Tidy rooms) : rooms.memberList.Nodup := by
  rw [memberList, List.nodup_flatMap]
  constructor
  · rintro ⟨r, room⟩ hr
    exact (h.nodup ((FiniteMap.mem_toList _ _ _).mp hr)).map (Prod.mk_right_injective r)
  · refine rooms.toList_pairwise.imp ?_
    rintro ⟨r, room⟩ ⟨r', room'⟩ hne a ha hb
    obtain ⟨p, _, rfl⟩ := List.mem_map.mp ha
    obtain ⟨p', _, he⟩ := List.mem_map.mp hb
    exact hne (congrArg Prod.fst he).symm

lemma connectedPeers_eq (rooms : RoomManager) : rooms.connectedPeers = rooms.memberList.length := by
  have hslot : ∀ o : Option String, o.isSome.toNat = o.toList.length := by
    intro o
    cases o <;> rfl
  simp only [connectedPeers, memberList, List.length_flatMap, List.length_map, Room.members,
    List.length_append, hslot]

theorem room_manager_invariant (ops : List RoomCall) (h : OwnIds ops) :
    let rooms := run step ∅ ops
    (∀ r p q, Present ops r p .host → Present ops r q .host → p = q) ∧
      (∀ r room, rooms.get r = some room →
        room.occupied = true ∧ ∀ p, room.host = some p ↔ Present ops r p .host) ∧
      (∀ r p, rooms.Member r p ↔ ∃ role, Present ops r p role) ∧
      ∃ members : Finset (String × String), (∀ r p, (r, p) ∈ members ↔ rooms.Member r p) ∧
        rooms.connectedPeers = members.card := by
  intro rooms
  have hr := records_run ops h
  refine ⟨?_, ?_, fun r p => hr.member, rooms.memberList.toFinset, ?_, ?_⟩
  · intro r p q hp hq
    have hhost := (hr.host.mpr hp).symm.trans (hr.host.mpr hq)
    exact Option.some.inj hhost
  · intro r room hroom
    refine ⟨hr.tidy.occupied r room hroom, fun p => ?_⟩
    rw [← hr.host, hostOf, hroom, Option.bind_some]
  · intro r p
    rw [List.mem_toFinset, mem_memberList]
  · rw [connectedPeers_eq, List.toFinset_card_of_nodup hr.tidy.nodup_memberList]

def RoomCall.entry : RoomCall → Option (String × String)
  | .join r p _ => some (r, p)
  | _ => none

lemma ownIds_of_nodup {ops : List RoomCall} (h : (ops.filterMap RoomCall.entry).Nodup) : OwnIds ops := by
  rintro as bs r p role rfl role' ⟨as', op, bs', rfl, ⟨rfl, _⟩, _⟩
  -- both joins enter the same peer into the same room
  have hfirst : (r, p) ∈ (as' ++ .join r p role' :: bs').filterMap RoomCall.entry :=
    List.mem_filterMap.mpr ⟨.join r p role', by simp, rfl⟩
  have hsecond : (r, p) ∈ (.join r p role :: bs).filterMap RoomCall.entry :=
    List.mem_filterMap.mpr ⟨.join r p role, List.mem_cons_self, rfl⟩
  rw [List.filterMap_append, List.nodup_append] at h
  exact h.2.2 _ hfirst _ hsecond rfl

theorem room_manager_invariant_host_leaves :
    let ops : List RoomCall := [.join "car" "h" .host, .join "car" "c" .consumer,
      .join "car" "d" .remote, .leave "car" "c", .join "car" "g" .host, .leave "car" "h"]
    let rooms := run step ∅ ops
    OwnIds ops ∧ (∀ r p, rooms.Member r p ↔ ∃ role, Present ops r p role) ∧
      rooms.memberList = [("car", "d")] ∧ rooms.connectedPeers = 1 := by
  intro ops rooms
  have hown : OwnIds ops := ownIds_of_nodup (by decide)
  exact ⟨hown, (room_manager_invariant ops hown).2.2.1, by decide, by decide⟩

end RoomManager

end MediaServo.Server
