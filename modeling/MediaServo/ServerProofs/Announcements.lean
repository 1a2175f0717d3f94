import MediaServo.ServerProofs.Closings

/-! Announcement completeness: what a session cleanup or a `DownstreamGone` removes from the SFU,
against what it tells the rooms and forgets in the owners table. -/

namespace MediaServo.Server

open MediaServo.Foundations MediaServo.Common SignalingServer

structure Cleaned (s t : SignalingServer) (p : String) : Prop where
  media : ∀ {r q x}, x ∈ t.sfuManager.mediaAt r q ↔
    x ∈ s.sfuManager.mediaAt r q ∧ q ≠ p ∧ ¬s.Doomed p x.id
  data : ∀ {r q x}, x ∈ t.sfuManager.dataAt r q ↔
    x ∈ s.sfuManager.dataAt r q ∧ q ≠ p ∧ ¬s.Doomed p x.id
  absent : ∀ {id}, s.producerOwners.get id = none → t.producerOwners.get id = none
  doomed : ∀ {r q id}, id ∈ s.sfuManager.idsAt r q → q ≠ p → s.Doomed p id →
    t.producerOwners.get id = none
  bound : ∀ {d r id}, s.deviceIdOf p = some d → id ∈ (s.sfuManager.mediaAt r p).map Producer.id →
    t.producerOwners.get id = none
  unbound : ∀ {id o}, s.deviceIdOf p = none → s.producerOwners.get id = some o →
    t.producerOwners.get id = if o = sessionKey p then none else some o
  tells : ∃ told, Tells s t told ∧ told.Nodup ∧ ∀ {r id}, (r, id) ∈ told ↔
    id ∈ (s.sfuManager.mediaAt r p).map Producer.id ∨
      ∃ q, q ≠ p ∧ id ∈ s.sfuManager.idsAt r q ∧ s.Doomed p id

section Cleanup

variable {s : SignalingServer} {p : String}

lemma cleanupGlobal_owner_ne (hu : s.sfuManager.UniqueIds) {r q id : String}
    (hid : id ∈ s.sfuManager.idsAt r q) (hq : q ≠ p) :
    (s.cleanupGlobal p).producerOwners.get id = s.producerOwners.get id := by
  rw [cleanupGlobal_owner, if_neg]
  rintro ⟨_, hm⟩
  obtain ⟨⟨r', id'⟩, hpair, rfl⟩ := List.mem_map.mp hm
  have hmedia := SfuManager.mem_removePeerGlobal.1 hpair
  exact hq (hu.peer_of_media hid hmedia)

lemma cleanupGlobal_mediaAt (r q : String) :
    (s.cleanupGlobal p).sfuManager.mediaAt r q = if q = p then [] else s.sfuManager.mediaAt r q := by
  rw [SfuManager.mediaAt, cleanupGlobal_peer]
  split_ifs <;> rfl

lemma cleanupGlobal_dataAt (r q : String) :
    (s.cleanupGlobal p).sfuManager.dataAt r q = if q = p then [] else s.sfuManager.dataAt r q := by
  rw [SfuManager.dataAt, cleanupGlobal_peer]
  split_ifs <;> rfl

lemma cleanupGlobal_idsAt {r q id : String} :
    id ∈ (s.cleanupGlobal p).sfuManager.idsAt r q ↔ id ∈ s.sfuManager.idsAt r q ∧ q ≠ p := by
  rw [SfuManager.mem_idsAt, SfuManager.mem_idsAt, cleanupGlobal_mediaAt, cleanupGlobal_dataAt]
  by_cases hq : q = p
  · simp [hq]
  · simp [hq]

lemma cleanupGlobal_owner_none {id : String} (h : s.producerOwners.get id = none) :
    (s.cleanupGlobal p).producerOwners.get id = none := by
  rw [cleanupGlobal_owner]
  split_ifs
  · rfl
  · exact h

lemma owned_congr {t : SignalingServer} {o : Option String} {id : String}
    (h : t.producerOwners.get id = s.producerOwners.get id) : t.Owned o id ↔ s.Owned o id := by
  rw [Owned, Owned, h]

lemma doomed_iff {t : SignalingServer} (hu : s.sfuManager.UniqueIds) {r q id : String}
    (h2 : Reclaims (s.cleanupGlobal p) t (some (sessionKey p)))
    (hid : id ∈ s.sfuManager.idsAt r q) (hq : q ≠ p) :
    s.Doomed p id ↔ (s.cleanupGlobal p).Owned (some (sessionKey p)) id ∨
      (¬(s.cleanupGlobal p).Owned (some (sessionKey p)) id ∧ t.Owned (s.deviceIdOf p) id) := by
  have h1 := cleanupGlobal_owner_ne hu hid hq
  rw [Doomed, owned_congr h1]
  by_cases ho : s.Owned (some (sessionKey p)) id
  · simp [ho]
  · have h3 := h2.keeps (fun h => ho ((owned_congr h1).mp h))
    rw [owned_congr (h3.trans h1)]
    simp [ho]

lemma not_doomed_iff {t : SignalingServer} (hu : s.sfuManager.UniqueIds) {r q id : String}
    (h2 : Reclaims (s.cleanupGlobal p) t (some (sessionKey p)))
    (hid : id ∈ s.sfuManager.idsAt r q) (hq : q ≠ p) :
    ¬s.Doomed p id ↔ ¬(s.cleanupGlobal p).Owned (some (sessionKey p)) id ∧
      ¬t.Owned (s.deviceIdOf p) id := by
  rw [doomed_iff hu h2 hid hq]
  tauto

lemma survives_iff {α : Type} {l : List α} {x : α} {t : SignalingServer}
    (hu : s.sfuManager.UniqueIds) {r q id : String}
    (h2 : Reclaims (s.cleanupGlobal p) t (some (sessionKey p)))
    (hid : x ∈ l → id ∈ s.sfuManager.idsAt r q) :
    ((x ∈ (if q = p then [] else l) ∧ ¬(s.cleanupGlobal p).Owned (some (sessionKey p)) id) ∧
      ¬t.Owned (s.deviceIdOf p) id) ↔ x ∈ l ∧ q ≠ p ∧ ¬s.Doomed p id := by
  by_cases hq : q = p
  · simp [hq]
  · by_cases hx : x ∈ l
    · simp [hq, hx, not_doomed_iff hu h2 (hid hx) hq]
    · simp [hq, hx]

lemma cleanup_tells {t u : SignalingServer} (hu : s.sfuManager.UniqueIds)
    (h2 : Reclaims (s.cleanupGlobal p) t (some (sessionKey p)))
    (h3 : Reclaims t u (s.deviceIdOf p)) :
    ∃ told, Tells s u told ∧ told.Nodup ∧ ∀ {r id}, (r, id) ∈ told ↔
      id ∈ (s.sfuManager.mediaAt r p).map Producer.id ∨
        ∃ q, q ≠ p ∧ id ∈ s.sfuManager.idsAt r q ∧ s.Doomed p id := by
  have h1 := s.cleanupGlobal_tells p
  obtain ⟨l2, ht2, hn2, hm2⟩ := h2.tells
  obtain ⟨l3, ht3, hn3, hm3⟩ := h3.tells
  have hmem2 : ∀ {r id}, (r, id) ∈ l2 ↔
      ∃ q, q ≠ p ∧ id ∈ s.sfuManager.idsAt r q ∧
        (s.cleanupGlobal p).Owned (some (sessionKey p)) id := by
    intro r id
    simp only [hm2, SfuManager.HasId, cleanupGlobal_idsAt]
    constructor
    · rintro ⟨⟨q, hid, hq⟩, ho⟩
      exact ⟨q, hq, hid, ho⟩
    · rintro ⟨q, hq, hid, ho⟩
      exact ⟨⟨q, hid, hq⟩, ho⟩
  have hmem3 : ∀ {r id}, (r, id) ∈ l3 ↔
      ∃ q, q ≠ p ∧ id ∈ s.sfuManager.idsAt r q ∧
        ¬(s.cleanupGlobal p).Owned (some (sessionKey p)) id ∧ t.Owned (s.deviceIdOf p) id := by
    intro r id
    simp only [hm3, SfuManager.HasId, h2.ids, cleanupGlobal_idsAt]
    constructor
    · rintro ⟨⟨q, ⟨hid, hq⟩, hs⟩, ho⟩
      exact ⟨q, hq, hid, hs, ho⟩
    · rintro ⟨q, hq, hid, hs, ho⟩
      exact ⟨⟨q, ⟨hid, hq⟩, hs⟩, ho⟩
  -- A producer of another peer is not in the first list, as ids are unique.
  have hfirst : ∀ {r q id}, q ≠ p → id ∈ s.sfuManager.idsAt r q →
      (r, id) ∉ closedPairs (s.sfuManager.removePeerGlobal p).2 := by
    intro r q id hq hid hpair
    have hmedia := SfuManager.mem_removePeerGlobal.1 hpair
    exact hq (hu.peer_of_media hid hmedia)
  refine ⟨_, (h1.trans ht2).trans ht3, ?_, ?_⟩
  · rw [List.nodup_append, List.nodup_append]
    refine ⟨⟨SfuManager.nodup_removePeerGlobal hu p, hn2, ?_⟩, hn3, ?_⟩
    · rintro ⟨r, id⟩ ha _ hb rfl
      obtain ⟨q, hq, hid, _⟩ := hmem2.mp hb
      exact hfirst hq hid ha
    · rintro ⟨r, id⟩ ha _ hb rfl
      obtain ⟨q, hq, hid, hs, _⟩ := hmem3.mp hb
      obtain ha | ha := List.mem_append.mp ha
      · exact hfirst hq hid ha
      · obtain ⟨_, _, _, ho⟩ := hmem2.mp ha
        exact hs ho
  · intro r id
    rw [List.mem_append, List.mem_append, SfuManager.mem_removePeerGlobal, hmem2, hmem3, or_assoc]
    apply or_congr_right
    constructor
    · rintro (⟨q, hq, hid, ho⟩ | ⟨q, hq, hid, ho⟩)
      · exact ⟨q, hq, hid, (doomed_iff hu h2 hid hq).mpr (Or.inl ho)⟩
      · exact ⟨q, hq, hid, (doomed_iff hu h2 hid hq).mpr (Or.inr ho)⟩
    · rintro ⟨q, hq, hid, hd⟩
      obtain ho | ho := (doomed_iff hu h2 hid hq).mp hd
      · exact Or.inl ⟨q, hq, hid, ho⟩
      · exact Or.inr ⟨q, hq, hid, ho⟩

lemma cleaned_cleaned (hu : s.sfuManager.UniqueIds) : Cleaned s (s.cleaned p) p := by
  have h2 : Reclaims (s.cleanupGlobal p) ((s.cleanupGlobal p).reclaimSession p)
      (some (sessionKey p)) := reclaim_reclaims _ (hu.thins (s.cleanupGlobal_thins p)) p _ none
  have hthin := (s.cleanupGlobal_thins p).trans (reclaim_thins _ p (sessionKey p) none)
  have h3 := reclaimDevice_reclaims ((s.cleanupGlobal p).reclaimSession p) (hu.thins hthin) p
  have hdev : ((s.cleanupGlobal p).reclaimSession p).deviceIdOf p = s.deviceIdOf p := by
    rw [deviceIdOf, deviceIdOf, reclaimSession,
      ((s.cleanupGlobal_quiet p).trans (reclaim_quiet _ p (sessionKey p) none)).bindings]
  rw [hdev] at h3
  change Reclaims _ (s.cleaned p) _ at h3
  generalize (s.cleanupGlobal p).reclaimSession p = t at h2 h3
  generalize s.cleaned p = u at h3
  constructor
  · intro r q x
    rw [h3.media, h2.media, cleanupGlobal_mediaAt]
    apply survives_iff hu h2
    intro hx
    exact SfuManager.mem_idsAt.2 (Or.inl (List.mem_map_of_mem hx))
  · intro r q x
    rw [h3.data, h2.data, cleanupGlobal_dataAt]
    apply survives_iff hu h2
    intro hx
    exact SfuManager.mem_idsAt.2 (Or.inr (List.mem_map_of_mem hx))
  · intro id h
    exact h3.absent (h2.absent (cleanupGlobal_owner_none h))
  · intro r q id hid hq hd
    obtain ho | ⟨_, ho⟩ := (doomed_iff hu h2 hid hq).mp hd
    · exact h3.absent (h2.forgets ho)
    · exact h3.forgets ho
  · intro d r id hd hm
    apply h3.absent
    apply h2.absent
    rw [cleanupGlobal_owner, if_pos]
    refine ⟨by rw [hd]; rfl, List.mem_map.mpr ⟨(r, id), ?_, rfl⟩⟩
    exact SfuManager.mem_removePeerGlobal.2 hm
  · intro id o hd ho
    have h1 : (s.cleanupGlobal p).producerOwners.get id = some o := by
      rw [cleanupGlobal_owner, if_neg (by simp [hd]), ho]
    split_ifs with hk
    · exact h3.absent (h2.forgets ⟨o, by rw [hk], h1⟩)
    · rw [h3.keeps, h2.keeps, h1]
      · rintro ⟨_, hs, hg⟩
        rw [h1] at hg
        cases hs
        exact hk (Option.some.inj hg)
      · rintro ⟨_, hs, _⟩
        rw [hd] at hs
        cases hs
  · exact cleanup_tells hu h2 h3

end Cleanup

/-- Every producer that a step from `s` to `t` removes is announced once to its room and forgotten
in the owners table, and no producer that stays is announced. -/
structure Complete (s t : SignalingServer) : Prop where
  once : ∀ {r id}, s.sfuManager.HasId r id → ¬t.sfuManager.HasId r id →
    (announced s t).count (r, id) = 1
  disowned : ∀ {r id}, s.sfuManager.HasId r id → ¬t.sfuManager.HasId r id →
    t.producerOwners.get id = none
  kept : ∀ {r id}, t.sfuManager.HasId r id → (r, id) ∉ announced s t

def EmptiesRoom (s : SignalingServer) (p room : String) : Prop :=
  (∀ q, s.roomManager.Member room q → q = p) ∧
    ∀ q x, q ≠ p → x ∈ s.sfuManager.mediaAt room q → s.Doomed p x.id

structure CleanupCovers (s : SignalingServer) (p room : String) : Prop where
  ownData : ∀ r, s.sfuManager.dataAt r p = []
  ownMedia : (∃ d, s.deviceIdOf p = some d) ∨ ∀ r x, x ∈ s.sfuManager.mediaAt r p →
    s.producerOwners.get x.id = none ∨ s.producerOwners.get x.id = some (sessionKey p)
  emptied : EmptiesRoom s p room → ∀ q x, q ≠ p → x ∈ s.sfuManager.dataAt room q → s.Doomed p x.id

lemma leaveRoom_removed {rooms : RoomManager} {room p : String} :
    (rooms.leaveRoom room p).2 = true ↔ ∀ q, rooms.Member room q → q = p := by
  change (!(rooms.leaveRoom room p).1.contains room) = true ↔ _
  rw [Bool.not_eq_true']
  constructor
  · intro hc q hq
    by_contra hne
    have hm : (rooms.leaveRoom room p).1.Member room q :=
      RoomManager.member_leaveRoom.2 ⟨hq, fun h => hne h.2⟩
    rw [RoomManager.contains_of_member hm] at hc
    cases hc
  · intro hall
    by_contra hc
    rw [Bool.not_eq_false, FiniteMap.contains_iff] at hc
    obtain ⟨left, hl⟩ := hc
    have hocc : left.occupied = true := by
      rw [RoomManager.leaveRoom, RoomManager.sweep, FiniteMap.get_retain,
        Option.filter_eq_some_iff] at hl
      exact hl.2
    obtain ⟨q, hq⟩ := RoomManager.exists_member_of_occupied hocc
    obtain ⟨hm, hne⟩ := RoomManager.member_leaveRoom.1 ⟨left, hl, hq⟩
    exact hne ⟨rfl, hall q hm⟩

lemma roomHasProducers_iff {sfu : SfuManager} {r : String} :
    sfu.roomHasProducers r = true ↔ ∃ q x, x ∈ sfu.mediaAt r q := by
  rw [SfuManager.roomHasProducers]
  constructor
  · intro h
    split at h
    · cases h
    · rename_i room hroom
      obtain ⟨⟨q, e⟩, hq, he⟩ := List.any_eq_true.mp h
      rw [FiniteMap.mem_toList] at hq
      rw [Bool.not_eq_true', List.isEmpty_eq_false_iff_exists_mem] at he
      obtain ⟨x, hx⟩ := he
      refine ⟨q, x, ?_⟩
      rwa [SfuManager.mediaAt_of_some (SfuManager.peer_eq_some.2 ⟨room, hroom, hq⟩)]
  · rintro ⟨q, x, hx⟩
    obtain ⟨e, he⟩ := SfuManager.peer_of_mem_idsAt
      (SfuManager.mem_idsAt.2 (Or.inl (List.mem_map_of_mem hx)))
    obtain ⟨room, hroom, hq⟩ := SfuManager.peer_eq_some.1 he
    rw [SfuManager.mediaAt_of_some he] at hx
    rw [hroom]
    refine List.any_eq_true.mpr ⟨(q, e), (FiniteMap.mem_toList _ _ _).mpr hq, ?_⟩
    rw [Bool.not_eq_true', List.isEmpty_eq_false_iff_exists_mem]
    exact ⟨x, hx⟩

section Complete

variable {s : SignalingServer} {p room : String}

lemma teardown_sent (t : SignalingServer) (r : String) (removed : Bool) :
    (t.teardown r removed).sent = t.sent ∧
      (t.teardown r removed).producerOwners = t.producerOwners := by
  rw [teardown]
  split_ifs <;> exact ⟨rfl, rfl⟩

lemma disconnectSession_told (s : SignalingServer) (p room : String) :
    Tells (s.cleaned p) (s.disconnectSession p room) [] ∧
      (s.disconnectSession p room).producerOwners = (s.cleaned p).producerOwners := by
  rw [disconnectSession_eq]
  generalize hl : (s.cleaned p).leaveSession p room = left
  have hsent : left.1.sent = (s.cleaned p).sent := by rw [← hl]; rfl
  have howner : left.1.producerOwners = (s.cleaned p).producerOwners := by rw [← hl]; rfl
  obtain ⟨hs, ho⟩ := teardown_sent left.1 room left.2
  refine ⟨⟨[(room, .roomLeave room p)], ?_, rfl⟩, ?_⟩
  · change (left.1.teardown room left.2).sent ++ _ = _
    rw [hs, hsent]
  · change (left.1.teardown room left.2).producerOwners = _
    rw [ho, howner]

lemma emptiesRoom_iff (hc : Cleaned s (s.cleaned p) p) :
    shouldTeardown ((s.cleaned p).leaveSession p room).2
      ((s.cleaned p).sfuManager.roomHasProducers room) = true ↔ EmptiesRoom s p room := by
  have hleft : ((s.cleaned p).leaveSession p room).2 = (s.roomManager.leaveRoom room p).2 := by
    rw [← (s.cleaned_quiet p).rooms]
    rfl
  rw [shouldTeardown, Bool.and_eq_true, hleft, leaveRoom_removed, EmptiesRoom, Bool.not_eq_true',
    ← Bool.not_eq_true, roomHasProducers_iff]
  apply and_congr_right
  intro _
  constructor
  · intro hno q x hq hx
    by_contra hd
    exact hno ⟨q, x, hc.media.mpr ⟨hx, hq, hd⟩⟩
  · rintro hall ⟨q, x, hx⟩
    obtain ⟨hx, hq, hd⟩ := hc.media.mp hx
    exact hd (hall q x hq hx)

lemma Cleaned.ids {t : SignalingServer} (hc : Cleaned s t p) {r q id : String} :
    id ∈ t.sfuManager.idsAt r q ↔ id ∈ s.sfuManager.idsAt r q ∧ q ≠ p ∧ ¬s.Doomed p id := by
  simp only [SfuManager.mem_idsAt, List.mem_map, hc.media, hc.data]
  constructor
  · rintro (⟨x, ⟨hx, hn⟩, rfl⟩ | ⟨x, ⟨hx, hn⟩, rfl⟩)
    · exact ⟨Or.inl ⟨x, hx, rfl⟩, hn⟩
    · exact ⟨Or.inr ⟨x, hx, rfl⟩, hn⟩
  · rintro ⟨⟨x, hx, rfl⟩ | ⟨x, hx, rfl⟩, hn⟩
    · exact Or.inl ⟨x, ⟨hx, hn⟩, rfl⟩
    · exact Or.inr ⟨x, ⟨hx, hn⟩, rfl⟩

lemma disconnectSession_ids (hc : Cleaned s (s.cleaned p) p) {r q id : String} :
    id ∈ (s.disconnectSession p room).sfuManager.idsAt r q ↔
      (id ∈ s.sfuManager.idsAt r q ∧ q ≠ p ∧ ¬s.Doomed p id) ∧ ¬(EmptiesRoom s p room ∧ r = room) := by
  have hpeer := s.disconnectSession_peer p room r q
  rw [← hc.ids, ← emptiesRoom_iff hc]
  split_ifs at hpeer with h
  · rw [SfuManager.idsAt_of_none hpeer]
    simp [h]
  · rw [SfuManager.idsAt, SfuManager.mediaAt_congr hpeer, SfuManager.dataAt_congr hpeer]
    exact ⟨fun hid => ⟨hid, h⟩, fun hid => hid.1⟩

lemma complete_of_covers (hu : s.sfuManager.UniqueIds) (h : CleanupCovers s p room) :
    Complete s (s.disconnectSession p room) := by
  have hc : Cleaned s (s.cleaned p) p := cleaned_cleaned hu
  obtain ⟨told, htold, hnodup, hmem⟩ := hc.tells
  have hann := (htold.trans (disconnectSession_told s p room).1).announced
  rw [List.append_nil] at hann
  have howner := (disconnectSession_told s p room).2
  -- A removed producer is a media producer of the peer itself, or a doomed one of another peer.
  have hcase : ∀ {r id}, s.sfuManager.HasId r id →
      ¬(s.disconnectSession p room).sfuManager.HasId r id →
      id ∈ (s.sfuManager.mediaAt r p).map Producer.id ∨
        ∃ q, q ≠ p ∧ id ∈ s.sfuManager.idsAt r q ∧ s.Doomed p id := by
    rintro r id ⟨q, hid⟩ hgone
    by_cases hq : q = p
    · subst hq
      left
      obtain hm | hm := SfuManager.mem_idsAt.1 hid
      · exact hm
      · rw [h.ownData r] at hm
        cases hm
    · refine Or.inr ⟨q, hq, hid, ?_⟩
      by_contra hd
      have hempty : EmptiesRoom s p room ∧ r = room := by
        by_contra hne
        exact hgone ⟨q, (disconnectSession_ids hc).mpr ⟨⟨hid, hq, hd⟩, hne⟩⟩
      obtain ⟨he, rfl⟩ := hempty
      obtain hm | hm := SfuManager.mem_idsAt.1 hid
      · obtain ⟨x, hx, rfl⟩ := List.mem_map.mp hm
        exact hd (he.2 q x hq hx)
      · obtain ⟨x, hx, rfl⟩ := List.mem_map.mp hm
        exact hd (h.emptied he q x hq hx)
  refine ⟨?_, ?_, ?_⟩
  · intro r id hid hgone
    rw [hann]
    exact List.count_eq_one_of_mem hnodup (hmem.mpr (hcase hid hgone))
  · intro r id hid hgone
    rw [howner]
    obtain hm | ⟨q, hq, hid, hd⟩ := hcase hid hgone
    · obtain ⟨d, hd⟩ | hb := h.ownMedia
      · exact hc.bound hd hm
      · cases hdev : s.deviceIdOf p with
        | some d => exact hc.bound hdev hm
        | none =>
          obtain ⟨x, hx, rfl⟩ := List.mem_map.mp hm
          obtain ho | ho := hb r x hx
          · exact hc.absent ho
          · rw [hc.unbound hdev ho, if_pos rfl]
    · exact hc.doomed hid hq hd
  · rintro r id ⟨q, hid⟩ htold
    rw [hann] at htold
    obtain ⟨⟨hid, hq, hd⟩, _⟩ := (disconnectSession_ids hc).mp hid
    obtain hm | ⟨_, _, _, hd'⟩ := hmem.mp htold
    · exact hq (hu.peer_of_media hid hm)
    · exact hd hd'

lemma covers_of_complete (hu : s.sfuManager.UniqueIds)
    (h : Complete s (s.disconnectSession p room)) : CleanupCovers s p room := by
  have hc : Cleaned s (s.cleaned p) p := cleaned_cleaned hu
  obtain ⟨told, htold, hnodup, hmem⟩ := hc.tells
  have hann := (htold.trans (disconnectSession_told s p room).1).announced
  rw [List.append_nil] at hann
  have howner := (disconnectSession_told s p room).2
  have hown : ∀ {r id}, id ∈ s.sfuManager.idsAt r p →
      ¬(s.disconnectSession p room).sfuManager.HasId r id := by
    rintro r id hid ⟨q, hq⟩
    obtain ⟨⟨hid', hne, _⟩, _⟩ := (disconnectSession_ids hc).mp hq
    exact hne (hu.place hid' hid).2
  have htoldOf : ∀ {r id}, s.sfuManager.HasId r id →
      ¬(s.disconnectSession p room).sfuManager.HasId r id →
      id ∈ (s.sfuManager.mediaAt r p).map Producer.id ∨
        ∃ q, q ≠ p ∧ id ∈ s.sfuManager.idsAt r q ∧ s.Doomed p id := by
    intro r id hid hgone
    apply hmem.mp
    rw [← List.count_pos_iff, ← hann, h.once hid hgone]
    exact Nat.one_pos
  refine ⟨?_, ?_, ?_⟩
  · intro r
    by_contra hne
    obtain ⟨x, hx⟩ := List.exists_mem_of_ne_nil _ hne
    have hd : x.id ∈ (s.sfuManager.dataAt r p).map DataProducer.id := List.mem_map_of_mem hx
    have hid := SfuManager.mem_idsAt.2 (Or.inr hd)
    obtain hm | ⟨q, hq, hid', _⟩ := htoldOf ⟨p, hid⟩ (hown hid)
    · exact hu.not_data hm hd
    · exact hq (hu.place hid' hid).2
  · cases hdev : s.deviceIdOf p with
    | some d => exact Or.inl ⟨d, rfl⟩
    | none =>
      right
      intro r x hx
      have hid := SfuManager.mem_idsAt.2 (Or.inl (List.mem_map_of_mem (f := Producer.id) hx))
      have hnone := h.disowned ⟨p, hid⟩ (hown hid)
      rw [howner] at hnone
      cases ho : s.producerOwners.get x.id with
      | none => exact Or.inl rfl
      | some o =>
        rw [hc.unbound hdev ho] at hnone
        split_ifs at hnone with hk
        exact Or.inr (by rw [hk])
  · intro he q x hq hx
    by_contra hd
    have hid := SfuManager.mem_idsAt.2 (Or.inr (List.mem_map_of_mem (f := DataProducer.id) hx))
    have hgone : ¬(s.disconnectSession p room).sfuManager.HasId room x.id := by
      rintro ⟨q', hq'⟩
      exact ((disconnectSession_ids hc).mp hq').2 ⟨he, rfl⟩
    obtain hm | ⟨_, _, _, hd'⟩ := htoldOf ⟨q, hid⟩ hgone
    · exact hq (hu.peer_of_media hid hm)
    · exact hd hd'

lemma relayMessage_downstreamGone (c : Session) (gone : String) (w : Worker) :
    (s.relayMessage c (.downstreamGone gone room) w).server = (s.handleDownstreamGone c gone room).1 := by
  have hreply : (s.handleDownstreamGone c gone room).2 = none := by
    rw [handleDownstreamGone]
    split <;> rfl
  change (s.sfuOrRelay c (.downstreamGone gone room) w).server = _
  rw [sfuOrRelay, handleSfuMessage]
  generalize s.handleDownstreamGone c gone room = reply at hreply
  obtain ⟨t, msg⟩ := reply
  cases hreply
  rfl

lemma removePeerInRoom_closed (sfu : SfuManager) (r q : String) :
    (sfu.removePeerInRoom r q).2.map Prod.fst = (sfu.mediaAt r q).map Producer.id := by
  rw [SfuManager.mediaAt, SfuManager.peer, SfuManager.removePeerInRoom]
  cases sfu.get r with
  | none => rfl
  | some room =>
    rw [Option.bind_some]
    dsimp only
    cases room.peers.get q with
    | none => rfl
    | some e =>
      dsimp only
      split_ifs <;> exact SfuManager.closed_ids e

section Gone

variable {c : Session} {gone d : String}

lemma handleDownstreamGone_bound (hd : s.deviceIdOf c.peerId = some d) :
    (s.handleDownstreamGone c gone room).1 =
      ({ s with sfuManager := (s.sfuManager.removePeerInRoom room gone).1 } :
        SignalingServer).announceProducersClosed room gone (some d)
          (s.sfuManager.removePeerInRoom room gone).2 := by
  rw [handleDownstreamGone, hd]

lemma gone_ids (hd : s.deviceIdOf c.peerId = some d) {r q id : String} :
    id ∈ (s.handleDownstreamGone c gone room).1.sfuManager.idsAt r q ↔
      id ∈ s.sfuManager.idsAt r q ∧ ¬(r = room ∧ q = gone) := by
  have hpeer : (s.handleDownstreamGone c gone room).1.sfuManager.peer r q =
      if r = room ∧ q = gone then none else s.sfuManager.peer r q := by
    rw [handleDownstreamGone_bound hd, announceProducersClosed_sfu]
    exact s.sfuManager.peer_removePeerInRoom room gone r q
  split_ifs at hpeer with h
  · rw [SfuManager.idsAt_of_none hpeer]
    simp [h]
  · rw [SfuManager.idsAt, SfuManager.mediaAt_congr hpeer, SfuManager.dataAt_congr hpeer]
    exact ⟨fun hid => ⟨hid, h⟩, fun hid => hid.1⟩

lemma gone_announced (hd : s.deviceIdOf c.peerId = some d) :
    announced s (s.handleDownstreamGone c gone room).1 =
      ((s.sfuManager.mediaAt room gone).map Producer.id).map (fun id => (room, id)) := by
  have htold := announceProducersClosed_tells
    { s with sfuManager := (s.sfuManager.removePeerInRoom room gone).1 } room gone (some d)
    (s.sfuManager.removePeerInRoom room gone).2
  rw [handleDownstreamGone_bound hd, ← removePeerInRoom_closed, List.map_map]
  exact htold.announced

lemma gone_owner (hd : s.deviceIdOf c.peerId = some d) {id : String}
    (hid : id ∈ (s.sfuManager.mediaAt room gone).map Producer.id) :
    (s.handleDownstreamGone c gone room).1.producerOwners.get id = none := by
  rw [handleDownstreamGone_bound hd, announceProducersClosed_owner, removePeerInRoom_closed,
    if_pos ⟨rfl, hid⟩]

lemma mem_gone_announced (hd : s.deviceIdOf c.peerId = some d) {r id : String} :
    (r, id) ∈ announced s (s.handleDownstreamGone c gone room).1 ↔
      r = room ∧ id ∈ (s.sfuManager.mediaAt room gone).map Producer.id := by
  rw [gone_announced hd, List.mem_map]
  constructor
  · rintro ⟨id', hid, he⟩
    cases he
    exact ⟨rfl, hid⟩
  · rintro ⟨rfl, hid⟩
    exact ⟨id, hid, rfl⟩

lemma not_hasId_of_gone (hu : s.sfuManager.UniqueIds) (hd : s.deviceIdOf c.peerId = some d)
    {id : String} (hid : id ∈ s.sfuManager.idsAt room gone) :
    ¬(s.handleDownstreamGone c gone room).1.sfuManager.HasId room id := by
  rintro ⟨q, hq⟩
  obtain ⟨hin, hne⟩ := (gone_ids hd).mp hq
  exact hne ⟨rfl, (hu.place hin hid).2⟩

lemma gone_complete (hu : s.sfuManager.UniqueIds) (hd : s.deviceIdOf c.peerId = some d)
    (hdata : s.sfuManager.dataAt room gone = []) :
    Complete s (s.handleDownstreamGone c gone room).1 := by
  have hcase : ∀ {r id}, s.sfuManager.HasId r id →
      ¬(s.handleDownstreamGone c gone room).1.sfuManager.HasId r id →
      r = room ∧ id ∈ (s.sfuManager.mediaAt room gone).map Producer.id := by
    rintro r id ⟨q, hid⟩ hno
    have hrq : r = room ∧ q = gone := by
      by_contra hne
      exact hno ⟨q, (gone_ids hd).mpr ⟨hid, hne⟩⟩
    obtain ⟨rfl, rfl⟩ := hrq
    obtain hm | hm := SfuManager.mem_idsAt.1 hid
    · exact ⟨rfl, hm⟩
    · rw [hdata] at hm
      cases hm
  have hnodup : (announced s (s.handleDownstreamGone c gone room).1).Nodup := by
    rw [gone_announced hd]
    exact (List.nodup_append.mp (hu.nodup room gone)).1.map (Prod.mk_right_injective room)
  refine ⟨?_, ?_, ?_⟩
  · intro r id hid hno
    exact List.count_eq_one_of_mem hnodup ((mem_gone_announced hd).mpr (hcase hid hno))
  · intro r id hid hno
    exact gone_owner hd (hcase hid hno).2
  · rintro r id ⟨q, hid⟩ htold
    obtain ⟨hin, hne⟩ := (gone_ids hd).mp hid
    obtain ⟨rfl, hm⟩ := (mem_gone_announced hd).mp htold
    exact hne ⟨rfl, hu.peer_of_media hin hm⟩

lemma gone_complete_iff (hu : s.sfuManager.UniqueIds) (c : Session) (gone : String) (w : Worker) :
    Complete s (s.relayMessage c (.downstreamGone gone room) w).server ↔
      s.deviceIdOf c.peerId = none ∨ s.sfuManager.dataAt room gone = [] := by
  rw [relayMessage_downstreamGone]
  cases hd : s.deviceIdOf c.peerId with
  | none =>
    have hsame : (s.handleDownstreamGone c gone room).1 = s := by rw [handleDownstreamGone, hd]
    have hnil : announced s s = [] := (Tells.nil rfl).announced
    rw [hsame]
    refine ⟨fun _ => Or.inl rfl, fun _ => ⟨fun h hn => absurd h hn, fun h hn => absurd h hn, ?_⟩⟩
    intro r id _
    rw [hnil]
    exact List.not_mem_nil
  | some d =>
    constructor
    · intro h
      right
      by_contra hne
      obtain ⟨x, hx⟩ := List.exists_mem_of_ne_nil _ hne
      have hx : x.id ∈ (s.sfuManager.dataAt room gone).map DataProducer.id := List.mem_map_of_mem hx
      have hid := SfuManager.mem_idsAt.2 (Or.inr hx)
      have hone := h.once ⟨gone, hid⟩ (not_hasId_of_gone hu hd hid)
      have hm : (room, x.id) ∈ announced s (s.handleDownstreamGone c gone room).1 := by
        rw [← List.count_pos_iff, hone]
        exact Nat.one_pos
      exact hu.not_data ((mem_gone_announced hd).mp hm).2 hx
    · intro h
      exact gone_complete hu hd (h.resolve_left (by simp))

end Gone

end Complete

/-- The ids that the media worker answers for new producers are not in use. -/
def FreshIds (sys : System) : Action → Prop
  | .message _ _ w => ∀ id, w.produce = .ok id ∨ w.produceData = .ok id →
      ∀ r, ¬sys.server.sfuManager.HasId r id
  | _ => True

lemma Puts.unique {sfu sfu' : SfuManager} {room peer : String} {e : SfuPeer}
    (h : Puts sfu sfu' room peer (some e)) (hu : sfu.UniqueIds) (new : List String)
    (hp : (e.producers.map Producer.id ++ e.dataProducers.map DataProducer.id).Perm
      (sfu.idsAt room peer ++ new))
    (hnew : new.Nodup) (hfresh : ∀ id ∈ new, ∀ r, ¬sfu.HasId r id) : sfu'.UniqueIds := by
  have hids : ∀ r q, (sfu'.idsAt r q).Perm
      (if r = room ∧ q = peer then sfu.idsAt r q ++ new else sfu.idsAt r q) := by
    intro r q
    have hrq := h r q
    split_ifs at hrq ⊢ with hc
    · rw [SfuManager.idsAt_of_some hrq, hc.1, hc.2]
      exact hp
    · rw [SfuManager.idsAt, SfuManager.mediaAt_congr hrq, SfuManager.dataAt_congr hrq]
      exact List.Perm.refl _
  have hmem : ∀ {r q id}, id ∈ sfu'.idsAt r q →
      id ∈ sfu.idsAt r q ∨ (id ∈ new ∧ r = room ∧ q = peer) := by
    intro r q id hid
    have hid := (hids r q).mem_iff.mp hid
    split_ifs at hid with hc
    · obtain hid | hid := List.mem_append.mp hid
      · exact Or.inl hid
      · exact Or.inr ⟨hid, hc⟩
    · exact Or.inl hid
  constructor
  · intro r q
    rw [(hids r q).nodup_iff]
    split_ifs
    · rw [List.nodup_append]
      refine ⟨hu.nodup r q, hnew, ?_⟩
      rintro id hid _ hid' rfl
      exact hfresh id hid' r ⟨q, hid⟩
    · exact hu.nodup r q
  · intro r q r' q' id hid hid'
    obtain hid | ⟨hn, hrq⟩ := hmem hid
    · obtain hid' | ⟨hn', _⟩ := hmem hid'
      · exact hu.place hid hid'
      · exact absurd ⟨q, hid⟩ (hfresh id hn' r)
    · obtain hid' | ⟨_, hrq'⟩ := hmem hid'
      · exact absurd ⟨q', hid'⟩ (hfresh id hn r')
      · exact ⟨hrq.1.trans hrq'.1.symm, hrq.2.trans hrq'.2.symm⟩

lemma SfuStep.unique {s : SignalingServer} {c : Session} {w : Worker} {sfu : SfuManager}
    {msg : SignalingMessage} (hs : SfuStep s c w sfu msg) (hu : s.sfuManager.UniqueIds)
    (hfresh : ∀ id, w.produce = .ok id ∨ w.produceData = .ok id → ∀ r, ¬s.sfuManager.HasId r id) :
    sfu.UniqueIds := by
  have hsame : ∀ {room peer e}, Puts s.sfuManager sfu room peer (some e) →
      e.producers.map Producer.id ++ e.dataProducers.map DataProducer.id =
        s.sfuManager.idsAt room peer → sfu.UniqueIds := by
    intro room peer e hput he
    exact hput.unique hu [] (by rw [he, List.append_nil]) List.nodup_nil (by simp)
  cases hs with
  | same same => exact hu.thins (Thins.of_peer (fun r p => Or.inr (same r p)))
  | @transport room peer direction _ puts =>
    apply hsame puts
    rw [SfuManager.idsAt, SfuManager.mediaAt, SfuManager.dataAt]
    cases direction <;> cases s.sfuManager.peer room peer <;> rfl
  | @producer room peer id _ _ kind _ _ _ e _ answer entry puts =>
    refine puts.unique hu [id] ?_ (List.nodup_singleton id) ?_
    · rw [SfuManager.idsAt_of_some entry, List.map_append, List.append_assoc, List.append_assoc]
      exact List.perm_append_comm.append_left _
    · intro x hx
      rw [List.mem_singleton.mp hx]
      exact hfresh id (Or.inl answer)
  | consumer entry puts => exact hsame puts (SfuManager.idsAt_of_some entry).symm
  | @dataProducer room peer _ _ id _ _ _ _ e _ answer _ entry _ puts =>
    refine puts.unique hu [id] ?_ (List.nodup_singleton id) ?_
    · rw [SfuManager.idsAt_of_some entry, List.map_append, ← List.append_assoc]
      exact List.Perm.refl _
    · intro x hx
      rw [List.mem_singleton.mp hx]
      exact hfresh id (Or.inr answer)
  | dataConsumer entry puts => exact hsame puts (SfuManager.idsAt_of_some entry).symm
  | gone bound puts =>
    apply hu.thins
    apply Thins.of_peer
    intro r p
    rw [puts r p]
    split_ifs
    · exact Or.inl rfl
    · exact Or.inr rfl

lemma unique_init : System.init.server.sfuManager.UniqueIds := by
  have hnil : ∀ r p, System.init.server.sfuManager.idsAt r p = [] := fun _ _ => rfl
  constructor
  · intro r p
    rw [hnil]
    exact List.nodup_nil
  · intro r p r' p' id hid
    rw [hnil] at hid
    cases hid

lemma unique_step {sys : System} {a : Action} (hu : sys.server.sfuManager.UniqueIds)
    (hf : FreshIds sys a) : (sys.step a).server.sfuManager.UniqueIds := by
  obtain hthin | ⟨i, msg, w, c, rfl, _, hs⟩ := step_sfu sys a
  · exact hu.thins hthin
  · exact hs.unique hu hf

lemma unique_run {acts : List Action} (hfresh : Along System.step FreshIds .init acts) :
    (run System.step System.init acts).server.sfuManager.UniqueIds :=
  run_invariant (I := fun sys => sys.server.sfuManager.UniqueIds) unique_init
    (fun _ _ hu hf => unique_step hu hf) hfresh

theorem announce_completeness (acts : List Action)
    (hfresh : Along System.step FreshIds .init acts) :
    (∀ table p room, Complete { (run System.step .init acts).server with resumeTable := table }
        (({ (run System.step .init acts).server with resumeTable := table } :
          SignalingServer).disconnectSession p room) ↔
        CleanupCovers (run System.step .init acts).server p room) ∧
      ∀ c gone room w, Complete (run System.step .init acts).server
          ((run System.step .init acts).server.relayMessage c (.downstreamGone gone room) w).server ↔
        (run System.step .init acts).server.deviceIdOf c.peerId = none ∨
          (run System.step .init acts).server.sfuManager.dataAt room gone = [] := by
  have hu := unique_run hfresh
  generalize (run System.step .init acts).server = s at hu
  constructor
  · intro table p room
    have hu' : ({ s with resumeTable := table } : SignalingServer).sfuManager.UniqueIds := hu
    have hsame : CleanupCovers { s with resumeTable := table } p room ↔ CleanupCovers s p room :=
      ⟨fun h => ⟨h.ownData, h.ownMedia, h.emptied⟩, fun h => ⟨h.ownData, h.ownMedia, h.emptied⟩⟩
    rw [← hsame]
    exact ⟨covers_of_complete hu', complete_of_covers hu'⟩
  · intro c gone room w
    exact gone_complete_iff hu c gone w

lemma not_hasId_of_unreported {sfu : SfuManager} {id : String}
    (h : (sfu.removeProducersByIds [id]).2.isEmpty = true) (r : String) : ¬sfu.HasId r id := by
  intro hid
  have hm := SfuManager.mem_removeProducersByIds.2 ⟨List.mem_singleton.mpr rfl, hid⟩
  rw [List.isEmpty_iff.mp h] at hm
  cases hm

def vehicleWith (request : SignalingMessage) : List Action :=
  [.join ⟨"p", .device "car", "car", .host, some 2, none⟩ "n",
    .message 0 (.createWebRtcTransport "car" "p" .send) (willing "t"),
    .message 0 request (willing "x")]

theorem announce_completeness_camera :
    let acts := vehicleWith (.produce "car" "p" .send .video ⟨"null"⟩ none (some "front"))
    let s := (run System.step .init acts).server
    Along System.step FreshIds .init acts ∧
      (Complete s (s.disconnectSession "p" "car") ↔ CleanupCovers s "p" "car") ∧
      announced s (s.disconnectSession "p" "car") = [("car", "x")] := by
  intro acts s
  have hfresh : Along System.step FreshIds .init acts := by
    refine ⟨trivial, ?_, ?_, trivial⟩
    · rintro id (h | h)
      · cases h
        exact not_hasId_of_unreported (by decide)
      · cases h
        exact not_hasId_of_unreported (by decide)
    · rintro id (h | h)
      · cases h
        exact not_hasId_of_unreported (by decide)
      · cases h
        exact not_hasId_of_unreported (by decide)
  refine ⟨hfresh, (announce_completeness acts hfresh).1 s.resumeTable "p" "car", ?_⟩
  decide

lemma not_complete_of_unannounced {s t : SignalingServer} (r p id : String)
    (hid : id ∈ s.sfuManager.idsAt r p)
    (hgone : (t.sfuManager.removeProducersByIds [id]).2.isEmpty = true)
    (hann : announced s t = []) : ¬Complete s t := by
  intro h
  have hone := h.once ⟨p, hid⟩ (not_hasId_of_unreported hgone r)
  rw [hann] at hone
  cases hone

theorem data_producer_unannounced :
    let sys := run System.step .init (vehicleWith (.createDataProducer "car" "p" .send "control"
      "json" (some ⟨0, true, none, none⟩) none))
    let closed := (sys.step (.close 0)).server
    let reported := (sys.step (.message 0 (.downstreamGone "p" "car") (willing "y"))).server
    sys.server.sfuManager.dataAt "car" "p" = [⟨"x", "control", "json"⟩] ∧
      ¬Complete sys.server closed ∧ ¬Complete sys.server reported ∧
      reported.producerOwners.get "x" = some "car" := by
  refine ⟨by decide, ?_, ?_, by decide⟩
  · exact not_complete_of_unannounced "car" "p" "x" (by decide)
      (by decide) (by decide)
  · exact not_complete_of_unannounced "car" "p" "x" (by decide)
      (by decide) (by decide)

end MediaServo.Server
