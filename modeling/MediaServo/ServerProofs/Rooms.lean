import MediaServo.Server.RoomManager

/-! Membership and the host slot of a room under joins, departures and the removal of consumers. -/

namespace MediaServo.Server.RoomManager

open MediaServo.Foundations MediaServo.Common

variable {rooms left : RoomManager} {roomId peerId r p : String} {role : PeerRole}

lemma occupied_of_member {room : Room} (h : room.Member p) : room.occupied = true := by
  rcases h with h | h | h
  · simp [Room.occupied, h]
  · simp [Room.occupied, h]
  · have hne : room.consumers ≠ [] := List.ne_nil_of_mem h
    simp [Room.occupied, hne]

lemma exists_member_of_occupied {room : Room} (h : room.occupied = true) : ∃ q, room.Member q := by
  simp only [Room.occupied, Bool.or_eq_true, Option.isSome_iff_exists, Bool.not_eq_true',
    List.isEmpty_eq_false_iff_exists_mem] at h
  obtain (⟨q, hq⟩ | ⟨q, hq⟩) | ⟨q, hq⟩ := h
  · exact ⟨q, Or.inl hq⟩
  · exact ⟨q, Or.inr (Or.inl hq)⟩
  · exact ⟨q, Or.inr (Or.inr hq)⟩

lemma member_sweep : (sweep rooms).Member r p ↔ rooms.Member r p := by
  simp only [Member, sweep, FiniteMap.get_retain, Option.filter_eq_some_iff]
  constructor
  · rintro ⟨room, ⟨hr, _⟩, hp⟩; exact ⟨room, hr, hp⟩
  · rintro ⟨room, hr, hp⟩; exact ⟨room, ⟨hr, occupied_of_member hp⟩, hp⟩

lemma hostOf_eq_some : rooms.hostOf r = some p ↔ ∃ room, rooms.get r = some room ∧ room.host = some p := by
  simp [hostOf, Option.bind_eq_some_iff]

lemma member_of_host (h : rooms.hostOf r = some p) : rooms.Member r p := by
  obtain ⟨room, hr, hp⟩ := hostOf_eq_some.1 h
  exact ⟨room, hr, Or.inl hp⟩

lemma contains_of_member (h : rooms.Member r p) : rooms.contains r = true := by
  obtain ⟨room, hr, _⟩ := h
  exact (FiniteMap.contains_iff rooms r).mpr ⟨room, hr⟩

lemma hostOf_sweep : (sweep rooms).hostOf r = some p ↔ rooms.hostOf r = some p := by
  simp only [hostOf_eq_some, sweep, FiniteMap.get_retain, Option.filter_eq_some_iff]
  constructor
  · rintro ⟨room, ⟨hr, _⟩, hp⟩; exact ⟨room, hr, hp⟩
  · rintro ⟨room, hr, hp⟩; exact ⟨room, ⟨hr, occupied_of_member (Or.inl hp)⟩, hp⟩

lemma member_adjust {f : Room → Room} :
    RoomManager.Member (rooms.adjust roomId f) r p ↔
      ∃ old, rooms.get r = some old ∧ (if r = roomId then f old else old).Member p := by
  rw [Member, FiniteMap.get_adjust]
  split_ifs
  · simp only [Option.map_eq_some_iff, exists_exists_and_eq_and]
  · rfl

lemma hostOf_adjust {f : Room → Room} :
    RoomManager.hostOf (rooms.adjust roomId f) r = some p ↔
      ∃ old, rooms.get r = some old ∧ (if r = roomId then f old else old).host = some p := by
  rw [hostOf_eq_some, FiniteMap.get_adjust]
  split_ifs
  · simp only [Option.map_eq_some_iff, exists_exists_and_eq_and]
  · rfl

lemma member_without {room : Room} : (room.without peerId).Member p ↔ room.Member p ∧ p ≠ peerId := by
  simp only [Room.without, Room.Member, List.mem_filter, decide_eq_true_eq]
  split_ifs <;> aesop

lemma member_leaveRoom :
    (rooms.leaveRoom roomId peerId).1.Member r p ↔ rooms.Member r p ∧ ¬(r = roomId ∧ p = peerId) := by
  rw [leaveRoom, member_sweep, member_adjust]
  by_cases hr : r = roomId
  · subst hr
    simp only [if_true, member_without, Member, true_and]
    constructor
    · rintro ⟨old, ho, hp, hne⟩; exact ⟨⟨old, ho, hp⟩, hne⟩
    · rintro ⟨⟨old, ho, hp⟩, hne⟩; exact ⟨old, ho, hp, hne⟩
  · simp [hr, Member]

lemma hostOf_leaveRoom :
    (rooms.leaveRoom roomId peerId).1.hostOf r = some p ↔
      rooms.hostOf r = some p ∧ ¬(r = roomId ∧ p = peerId) := by
  rw [leaveRoom, hostOf_sweep, hostOf_adjust, hostOf_eq_some]
  by_cases hr : r = roomId
  · subst hr
    simp only [if_true, Room.without, true_and]
    constructor
    · rintro ⟨old, ho, hp⟩
      split_ifs at hp with hh
      exact ⟨⟨old, ho, hp⟩, fun h => hh (h ▸ hp)⟩
    · rintro ⟨⟨old, ho, hp⟩, hne⟩
      have hh : old.host ≠ some peerId := fun h => hne (Option.some.inj (hp.symm.trans h))
      exact ⟨old, ho, by rw [if_neg hh, hp]⟩
  · simp [hr]

lemma member_of_disconnectConsumers (h : (rooms.disconnectConsumers roomId).1.Member r p) :
    rooms.Member r p := by
  rw [disconnectConsumers, member_sweep, member_adjust] at h
  obtain ⟨old, ho, hp⟩ := h
  refine ⟨old, ho, ?_⟩
  split_ifs at hp
  · rcases hp with hp | hp | hp
    · exact Or.inl hp
    · exact Or.inr (Or.inl hp)
    · simp at hp
  · exact hp

lemma member_disconnectConsumers_of_ne (hr : r ≠ roomId) :
    (rooms.disconnectConsumers roomId).1.Member r p ↔ rooms.Member r p := by
  rw [disconnectConsumers, member_sweep, member_adjust]
  simp only [if_neg hr, Member]

lemma hostOf_disconnectConsumers :
    (rooms.disconnectConsumers roomId).1.hostOf r = some p ↔ rooms.hostOf r = some p := by
  rw [disconnectConsumers, hostOf_sweep, hostOf_adjust, hostOf_eq_some]
  split_ifs <;> rfl

def depart (rooms : RoomManager) (roomId peerId : String) : RoomManager :=
  if rooms.isDeviceStream roomId && (rooms.hostOf roomId == some peerId) then
    ((rooms.leaveRoom roomId peerId).1.disconnectConsumers roomId).1
  else (rooms.leaveRoom roomId peerId).1

lemma member_of_depart (h : (rooms.depart roomId peerId).Member r p) :
    rooms.Member r p ∧ ¬(r = roomId ∧ p = peerId) := by
  rw [depart] at h
  split_ifs at h
  · exact member_leaveRoom.1 (member_of_disconnectConsumers h)
  · exact member_leaveRoom.1 h

lemma member_depart_of_ne (hr : r ≠ roomId) (h : rooms.Member r p) :
    (rooms.depart roomId peerId).Member r p := by
  have hl : (rooms.leaveRoom roomId peerId).1.Member r p := member_leaveRoom.2 ⟨h, fun he => hr he.1⟩
  rw [depart]
  split_ifs
  · exact (member_disconnectConsumers_of_ne hr).mpr hl
  · exact hl

lemma member_depart_of_not_host (hh : rooms.hostOf roomId ≠ some peerId) (hp : p ≠ peerId)
    (h : rooms.Member r p) : (rooms.depart roomId peerId).Member r p := by
  rw [depart, if_neg (by simp [hh])]
  exact member_leaveRoom.2 ⟨h, fun he => hp he.2⟩

lemma member_depart_or_host (hp : p ≠ peerId) (h : rooms.Member r p) :
    (rooms.depart roomId peerId).Member r p ∨ (r = roomId ∧ rooms.hostOf r = some peerId) := by
  by_cases hr : r = roomId
  · subst hr
    by_cases hh : rooms.hostOf r = some peerId
    · exact Or.inr ⟨rfl, hh⟩
    · exact Or.inl (member_depart_of_not_host hh hp h)
  · exact Or.inl (member_depart_of_ne hr h)

lemma hostOf_depart :
    (rooms.depart roomId peerId).hostOf r = some p ↔
      rooms.hostOf r = some p ∧ ¬(r = roomId ∧ p = peerId) := by
  rw [depart]
  split_ifs
  · rw [hostOf_disconnectConsumers, hostOf_leaveRoom]
  · exact hostOf_leaveRoom

lemma member_fresh : (Room.fresh peerId role).Member p ↔ p = peerId := by
  cases role <;> simp [Room.fresh, Room.Member, eq_comm]

lemma member_joinRoom (h : rooms.joinRoom roomId peerId role = .ok left) :
    left.Member r p ↔ rooms.Member r p ∨ (r = roomId ∧ p = peerId) := by
  rw [joinRoom] at h
  cases hg : rooms.get roomId with
  | none =>
    simp only [hg, Except.ok.injEq] at h
    subst h
    simp only [Member, FiniteMap.get_set]
    by_cases hr : r = roomId
    · subst hr; simp [hg, member_fresh]
    · simp [hr]
  | some room =>
    simp only [hg] at h
    by_cases hr : r = roomId
    · subst hr
      cases role <;> simp only at h
      · split_ifs at h with hh
        cases h
        have hn : room.host = none := by simpa using hh
        simp only [Member, FiniteMap.get_set_self, Option.some.injEq, exists_eq_left', hg, Room.Member, hn]
        aesop
      all_goals
        cases h
        simp only [Member, FiniteMap.get_set_self, Option.some.injEq, exists_eq_left', hg, Room.Member,
          List.mem_append, List.mem_singleton]
        tauto
    · have hother : left.get r = rooms.get r := by
        cases role <;> simp only at h
        · split_ifs at h
          cases h
          exact FiniteMap.get_set_ne _ _ hr
        all_goals
          cases h
          exact FiniteMap.get_set_ne _ _ hr
      simp [Member, hother, hr]

lemma hostOf_joinRoom (h : rooms.joinRoom roomId peerId role = .ok left) :
    left.hostOf r = some p ↔
      rooms.hostOf r = some p ∨ (r = roomId ∧ p = peerId ∧ role = .host) := by
  rw [joinRoom] at h
  cases hg : rooms.get roomId with
  | none =>
    simp only [hg, Except.ok.injEq] at h
    subst h
    simp only [hostOf_eq_some, FiniteMap.get_set]
    by_cases hr : r = roomId
    · subst hr; cases role <;> simp [hg, Room.fresh, eq_comm]
    · simp [hr]
  | some room =>
    simp only [hg] at h
    by_cases hr : r = roomId
    · subst hr
      cases role <;> simp only at h
      · split_ifs at h with hh
        cases h
        have hn : room.host = none := by simpa using hh
        simp only [hostOf_eq_some, FiniteMap.get_set_self, Option.some.injEq, exists_eq_left', hg, hn]
        simp [eq_comm]
      all_goals
        cases h
        simp [hostOf_eq_some, hg]
    · have hother : left.get r = rooms.get r := by
        cases role <;> simp only at h
        · split_ifs at h
          cases h
          exact FiniteMap.get_set_ne _ _ hr
        all_goals
          cases h
          exact FiniteMap.get_set_ne _ _ hr
      simp [hostOf_eq_some, hother, hr]

lemma joinRoom_error {e : JoinError} (h : rooms.joinRoom roomId peerId role = .error e) :
    role = .host ∧ ∃ q, rooms.hostOf roomId = some q := by
  rw [joinRoom] at h
  cases hg : rooms.get roomId with
  | none => simp [hg] at h
  | some room =>
    cases role <;> simp only [hg] at h
    · split_ifs at h with hh
      obtain ⟨q, hq⟩ := Option.isSome_iff_exists.mp hh
      exact ⟨rfl, q, hostOf_eq_some.2 ⟨room, hg, hq⟩⟩
    all_goals cases h

def Occupied (rooms : RoomManager) : Prop :=
  ∀ r room, rooms.get r = some room → room.occupied = true

lemma occupied_empty : Occupied ∅ := by
  intro r room h
  simp at h

lemma occupied_sweep : Occupied (sweep rooms) := by
  intro r room hr
  rw [sweep, FiniteMap.get_retain, Option.filter_eq_some_iff] at hr
  exact hr.2

lemma Occupied.set {room : Room} (h : Occupied rooms) (ho : room.occupied = true) :
    Occupied (rooms.set roomId room) := by
  intro r x hr
  rw [FiniteMap.get_set] at hr
  split_ifs at hr
  · cases hr
    exact ho
  · exact h r x hr

lemma Occupied.joinRoom (h : Occupied rooms)
    (hj : rooms.joinRoom roomId peerId role = .ok left) : Occupied left := by
  rw [RoomManager.joinRoom] at hj
  cases hg : rooms.get roomId with
  | none =>
    simp only [hg, Except.ok.injEq] at hj
    subst hj
    exact h.set (occupied_of_member (member_fresh.2 rfl))
  | some room =>
    have hconsumer : Occupied (rooms.set roomId
        { room with consumers := room.consumers ++ [peerId] }) := by
      apply h.set
      exact occupied_of_member (Or.inr (Or.inr (List.mem_append_right _ (List.mem_singleton_self _))))
    cases role with
    | host =>
      simp only [hg] at hj
      split_ifs at hj
      cases hj
      exact h.set (occupied_of_member (Or.inl rfl))
    | remote =>
      simp only [hg] at hj
      cases hj
      exact hconsumer
    | consumer =>
      simp only [hg] at hj
      cases hj
      exact hconsumer

lemma Occupied.depart : Occupied (rooms.depart roomId peerId) := by
  rw [RoomManager.depart]
  split_ifs
  · exact occupied_sweep
  · exact occupied_sweep

lemma Occupied.contains_iff (h : Occupied rooms) : rooms.contains r = true ↔ ∃ p, rooms.Member r p := by
  constructor
  · intro hc
    obtain ⟨room, hr⟩ := (FiniteMap.contains_iff rooms r).mp hc
    obtain ⟨p, hp⟩ := exists_member_of_occupied (h r room hr)
    exact ⟨p, room, hr, hp⟩
  · rintro ⟨p, hp⟩
    exact contains_of_member hp

lemma member_depart_of_remote {room : Room} (hr : rooms.get roomId = some room)
    (hp : room.remote = some p) (hne : p ≠ peerId) : (rooms.depart roomId peerId).Member roomId p := by
  have hw : (room.without peerId).remote = some p := by
    have hn : ¬room.remote = some peerId := by
      rw [hp]
      exact fun he => hne (Option.some.inj he)
    rw [Room.without]
    dsimp only
    rw [if_neg hn, hp]
  have hl : (rooms.leaveRoom roomId peerId).1.get roomId = some (room.without peerId) := by
    rw [leaveRoom, sweep, FiniteMap.get_retain, FiniteMap.get_adjust, if_pos rfl, hr, Option.map_some,
      Option.filter_eq_some_iff]
    exact ⟨rfl, occupied_of_member (Or.inr (Or.inl hw))⟩
  rw [depart]
  split_ifs
  · rw [disconnectConsumers, member_sweep, member_adjust]
    refine ⟨_, hl, ?_⟩
    rw [if_pos rfl]
    exact Or.inr (Or.inl hw)
  · exact ⟨_, hl, Or.inr (Or.inl hw)⟩

end MediaServo.Server.RoomManager
