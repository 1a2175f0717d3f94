import MediaServo.ServerProofs.SfuGates

/-! Closed producers: which ids the removal functions report, what the server announces for them
and what it forgets in the owners table. -/

namespace MediaServo.Server

open MediaServo.Foundations MediaServo.Common

def closings (sent : List (String × SignalingMessage)) : List (String × String) :=
  sent.filterMap (fun m => match m.2 with
    | .producerClosed _ _ id _ _ => some (m.1, id)
    | _ => none)

def announced (s t : SignalingServer) : List (String × String) :=
  closings (t.sent.drop s.sent.length)

def Tells (s t : SignalingServer) (told : List (String × String)) : Prop :=
  ∃ msgs, t.sent = s.sent ++ msgs ∧ closings msgs = told

namespace Tells

variable {s t u : SignalingServer} {l m : List (String × String)}

lemma announced (h : Tells s t l) : announced s t = l := by
  obtain ⟨msgs, hs, hl⟩ := h
  rw [Server.announced, hs, List.drop_left, hl]

lemma nil (h : t.sent = s.sent) : Tells s t [] := ⟨[], by rw [h, List.append_nil], rfl⟩

lemma trans (h : Tells s t l) (k : Tells t u m) : Tells s u (l ++ m) := by
  obtain ⟨msgs, hs, rfl⟩ := h
  obtain ⟨msgs', ht, rfl⟩ := k
  exact ⟨msgs ++ msgs', by rw [ht, hs, List.append_assoc], List.filterMap_append⟩

end Tells

def closedPairs (rooms : List (String × Closed)) : List (String × String) :=
  rooms.flatMap (fun e => e.2.map (fun c => (e.1, c.1)))

lemma closings_closedMessage (roomId reporter : String) (closed : Closed) :
    closings (closed.map (SignalingServer.closedMessage roomId reporter)) =
      closed.map (fun c => (roomId, c.1)) := by
  rw [closings, List.filterMap_map]
  induction closed with
  | nil => rfl
  | cons c closed ih => simpa [SignalingServer.closedMessage] using ih

lemma mem_closedPairs {rooms : List (String × Closed)} {r id : String} :
    (r, id) ∈ closedPairs rooms ↔ ∃ e ∈ rooms, e.1 = r ∧ id ∈ e.2.map Prod.fst := by
  simp only [closedPairs, List.mem_flatMap, List.mem_map, Prod.mk.injEq]
  constructor
  · rintro ⟨e, he, c, hc, hr, hid⟩
    exact ⟨e, he, hr, c, hc, hid⟩
  · rintro ⟨e, he, hr, c, hc, hid⟩
    exact ⟨e, he, c, hc, hr, hid⟩

lemma closedPairs_group (l : List (String × String × MediaKind)) :
    (closedPairs (groupClosedByRoom l)).Perm (l.map (fun h => (h.1, h.2.1))) := by
  have h := FiniteMap.flatten_foldl_push l (∅ : FiniteMap String Closed)
  have hmap := h.map (fun h : String × String × MediaKind => (h.1, h.2.1))
  have hleft : closedPairs (groupClosedByRoom l) = (FiniteMap.flatten (l.foldl
      (fun (acc : FiniteMap String Closed) e => acc.set e.1 ((acc.get e.1).getD [] ++ [e.2])) ∅)).map
        (fun h => (h.1, h.2.1)) := by
    rw [closedPairs, groupClosedByRoom, FiniteMap.flatten, List.map_flatMap]
    congr 1
    funext e
    rw [List.map_map]
    rfl
  rw [hleft]
  exact hmap

namespace SignalingServer

variable (s : SignalingServer)

lemma deferredCleanup_sent (roomId : String) : (s.deferredCleanup roomId).sent = s.sent := by
  rw [deferredCleanup]
  split_ifs <;> rfl

lemma deferredCleanup_producerOwners (roomId : String) :
    (s.deferredCleanup roomId).producerOwners = s.producerOwners := by
  rw [deferredCleanup]
  split_ifs <;> rfl

lemma announceProducersClosed_tells (roomId reporter : String) (device : Option String)
    (closed : Closed) :
    Tells s (s.announceProducersClosed roomId reporter device closed)
      (closed.map (fun c => (roomId, c.1))) := by
  refine ⟨closed.map (closedMessage roomId reporter), ?_, closings_closedMessage roomId reporter closed⟩
  rw [announceProducersClosed]
  split_ifs with h
  · rw [List.isEmpty_iff.mp h]
    simp
  · rw [deferredCleanup_sent]
    cases device <;> rfl

lemma announceProducersClosed_owner (roomId reporter : String) (device : Option String)
    (closed : Closed) (id : String) :
    (s.announceProducersClosed roomId reporter device closed).producerOwners.get id =
      if device.isSome ∧ id ∈ closed.map Prod.fst then none else s.producerOwners.get id := by
  rw [announceProducersClosed]
  split_ifs with h hd hd
  · rw [List.isEmpty_iff.mp h] at hd
    simp at hd
  · rfl
  · rw [deferredCleanup_producerOwners]
    obtain ⟨d, rfl⟩ := Option.isSome_iff_exists.mp hd.1
    change ((closed.map Prod.fst).foldl FiniteMap.remove s.producerOwners).get id = none
    rw [FiniteMap.get_foldl_remove, if_pos hd.2]
  · rw [deferredCleanup_producerOwners]
    cases device with
    | none => rfl
    | some d =>
      change ((closed.map Prod.fst).foldl FiniteMap.remove s.producerOwners).get id = _
      rw [FiniteMap.get_foldl_remove, if_neg (fun hm => hd ⟨rfl, hm⟩)]

lemma announceRooms_tells (reporter : String) (device : Option String)
    (rooms : List (String × Closed)) :
    Tells s (s.announceRooms reporter device rooms) (closedPairs rooms) := by
  rw [announceRooms]
  induction rooms generalizing s with
  | nil => exact Tells.nil rfl
  | cons e rooms ih => exact (s.announceProducersClosed_tells e.1 reporter device e.2).trans (ih _)

lemma announceRooms_owner (reporter : String) (device : Option String)
    (rooms : List (String × Closed)) (id : String) :
    (s.announceRooms reporter device rooms).producerOwners.get id =
      if device.isSome ∧ id ∈ (closedPairs rooms).map Prod.snd then none
      else s.producerOwners.get id := by
  rw [announceRooms]
  induction rooms generalizing s with
  | nil => simp [closedPairs]
  | cons e rooms ih =>
    rw [List.foldl_cons, ih, announceProducersClosed_owner]
    have hsnd : (closedPairs (e :: rooms)).map Prod.snd =
        e.2.map Prod.fst ++ (closedPairs rooms).map Prod.snd := by
      rw [closedPairs, List.flatMap_cons, List.map_append, List.map_map]
      rfl
    rw [hsnd]
    by_cases hd : device.isSome = true
    · by_cases h1 : id ∈ (closedPairs rooms).map Prod.snd
      · rw [if_pos ⟨hd, h1⟩, if_pos ⟨hd, List.mem_append_right _ h1⟩]
      · rw [if_neg (fun h => h1 h.2)]
        simp only [hd, true_and, List.mem_append, h1, or_false]
    · simp [hd]

end SignalingServer

namespace SfuManager

def idsAt (sfu : SfuManager) (r p : String) : List String :=
  (sfu.mediaAt r p).map Producer.id ++ (sfu.dataAt r p).map DataProducer.id

def HasId (sfu : SfuManager) (r id : String) : Prop := ∃ p, id ∈ sfu.idsAt r p

structure UniqueIds (sfu : SfuManager) : Prop where
  nodup : ∀ r p, (sfu.idsAt r p).Nodup
  place : ∀ {r p r' p' id}, id ∈ sfu.idsAt r p → id ∈ sfu.idsAt r' p' → r = r' ∧ p = p'

variable {sfu : SfuManager}

lemma mem_idsAt {r p id : String} : id ∈ sfu.idsAt r p ↔
    id ∈ (sfu.mediaAt r p).map Producer.id ∨ id ∈ (sfu.dataAt r p).map DataProducer.id :=
  List.mem_append

lemma UniqueIds.thins {sfu' : SfuManager} (h : UniqueIds sfu) (ht : Thins sfu sfu') :
    UniqueIds sfu' := by
  have hsub : ∀ r p, (sfu'.idsAt r p).Sublist (sfu.idsAt r p) := by
    intro r p
    exact ((ht r p).1.map _).append ((ht r p).2.map _)
  constructor
  · intro r p
    exact (h.nodup r p).sublist (hsub r p)
  · intro r p r' p' id hr hr'
    exact h.place ((hsub r p).subset hr) ((hsub r' p').subset hr')

lemma UniqueIds.peer_of_media {r q r' p id : String} (h : UniqueIds sfu)
    (hid : id ∈ sfu.idsAt r q) (hm : id ∈ (sfu.mediaAt r' p).map Producer.id) : q = p :=
  (h.place hid (mem_idsAt.2 (Or.inl hm))).2

lemma UniqueIds.not_data {r p id : String} (h : UniqueIds sfu)
    (hm : id ∈ (sfu.mediaAt r p).map Producer.id) : id ∉ (sfu.dataAt r p).map DataProducer.id :=
  fun hd => (List.nodup_append.mp (h.nodup r p)).2.2 id hm id hd rfl

lemma idsAt_of_some {r p : String} {e : SfuPeer} (h : sfu.peer r p = some e) :
    sfu.idsAt r p = e.producers.map Producer.id ++ e.dataProducers.map DataProducer.id := by
  rw [idsAt, mediaAt_of_some h, dataAt_of_some h]

lemma idsAt_of_none {r p : String} (h : sfu.peer r p = none) : sfu.idsAt r p = [] := by
  rw [idsAt, mediaAt_of_none h, dataAt_of_none h]
  rfl

lemma peer_of_mem_idsAt {r p id : String} (h : id ∈ sfu.idsAt r p) : ∃ e, sfu.peer r p = some e := by
  cases he : sfu.peer r p with
  | none =>
    rw [idsAt_of_none he] at h
    cases h
  | some e => exact ⟨e, rfl⟩

lemma closed_ids (e : SfuPeer) : e.closed.map Prod.fst = e.producers.map Producer.id := by
  rw [SfuPeer.closed, List.map_map]
  rfl

lemma hits_ids (e : SfuPeer) (ids : List String) :
    (e.hits ids).map Prod.fst =
      (e.producers.map Producer.id ++ e.dataProducers.map DataProducer.id).filter (· ∈ ids) := by
  rw [SfuPeer.hits, List.map_append, List.map_map, List.map_map, List.filter_append, List.filter_map,
    List.filter_map]
  rfl

lemma mem_removePeerGlobal {peerId r id : String} :
    (r, id) ∈ closedPairs (sfu.removePeerGlobal peerId).2 ↔
      id ∈ (sfu.mediaAt r peerId).map Producer.id := by
  rw [mem_closedPairs]
  constructor
  · rintro ⟨e, he, rfl, hid⟩
    obtain ⟨⟨r, room⟩, hroom, hmap⟩ := List.mem_filterMap.mp he
    obtain ⟨q, hq, rfl⟩ := Option.map_eq_some_iff.mp hmap
    rw [FiniteMap.mem_toList] at hroom
    rwa [mediaAt_of_some (peer_eq_some.2 ⟨room, hroom, hq⟩), ← closed_ids]
  · intro hid
    obtain ⟨e, he⟩ := peer_of_mem_idsAt (mem_idsAt.2 (Or.inl hid))
    obtain ⟨room, hroom, hq⟩ := peer_eq_some.1 he
    rw [mediaAt_of_some he, ← closed_ids] at hid
    refine ⟨(r, e.closed), List.mem_filterMap.mpr ⟨(r, room), ?_, ?_⟩, rfl, hid⟩
    · rwa [FiniteMap.mem_toList]
    · rw [hq]
      rfl

lemma nodup_removePeerGlobal (h : UniqueIds sfu) (peerId : String) :
    (closedPairs (sfu.removePeerGlobal peerId).2).Nodup := by
  rw [closedPairs, List.nodup_flatMap]
  constructor
  · intro e he
    obtain ⟨⟨r, room⟩, hroom, hmap⟩ := List.mem_filterMap.mp he
    obtain ⟨q, hq, rfl⟩ := Option.map_eq_some_iff.mp hmap
    rw [FiniteMap.mem_toList] at hroom
    have hn := (List.nodup_append.mp (h.nodup r peerId)).1
    rw [mediaAt_of_some (peer_eq_some.2 ⟨room, hroom, hq⟩), ← closed_ids] at hn
    have hp := hn.map (Prod.mk_right_injective r)
    rwa [List.map_map] at hp
  · apply List.Pairwise.filterMap _ _ sfu.toList_pairwise
    rintro ⟨r, room⟩ ⟨r', room'⟩ hne x hx y hy
    obtain ⟨q, _, rfl⟩ := Option.map_eq_some_iff.mp hx
    obtain ⟨q', _, rfl⟩ := Option.map_eq_some_iff.mp hy
    intro a ha hb
    obtain ⟨c, _, rfl⟩ := List.mem_map.mp ha
    obtain ⟨c', _, he⟩ := List.mem_map.mp hb
    exact hne (congrArg Prod.fst he).symm

lemma removeProducersByIds_pairs (ids : List String) :
    (sfu.removeProducersByIds ids).2.map (fun h => (h.1, h.2.1)) =
      sfu.toList.flatMap (fun e => e.2.peers.toList.flatMap (fun q =>
        ((q.2.producers.map Producer.id ++ q.2.dataProducers.map DataProducer.id).filter
          (· ∈ ids)).map (fun id => (e.1, id)))) := by
  rw [removeProducersByIds]
  simp only [List.map_flatMap, ← hits_ids, List.map_map]
  rfl

lemma mem_removeProducersByIds {ids : List String} {r id : String} :
    (r, id) ∈ (sfu.removeProducersByIds ids).2.map (fun h => (h.1, h.2.1)) ↔
      id ∈ ids ∧ sfu.HasId r id := by
  rw [removeProducersByIds_pairs, List.mem_flatMap]
  constructor
  · rintro ⟨⟨r', room⟩, hroom, hid⟩
    obtain ⟨⟨p, e⟩, hp, hid⟩ := List.mem_flatMap.mp hid
    obtain ⟨id', hid, hpair⟩ := List.mem_map.mp hid
    cases hpair
    rw [FiniteMap.mem_toList] at hroom hp
    obtain ⟨hmem, hids⟩ := List.mem_filter.mp hid
    refine ⟨of_decide_eq_true hids, p, ?_⟩
    rwa [idsAt_of_some (peer_eq_some.2 ⟨room, hroom, hp⟩)]
  · rintro ⟨hids, p, hmem⟩
    obtain ⟨e, he⟩ := peer_of_mem_idsAt hmem
    obtain ⟨room, hroom, hp⟩ := peer_eq_some.1 he
    rw [idsAt_of_some he] at hmem
    refine ⟨(r, room), (FiniteMap.mem_toList _ _ _).mpr hroom, List.mem_flatMap.mpr ⟨(p, e), ?_, ?_⟩⟩
    · exact (FiniteMap.mem_toList _ _ _).mpr hp
    · exact List.mem_map.mpr ⟨id, List.mem_filter.mpr ⟨hmem, decide_eq_true hids⟩, rfl⟩

lemma nodup_removeProducersByIds (h : UniqueIds sfu) (ids : List String) :
    ((sfu.removeProducersByIds ids).2.map (fun h => (h.1, h.2.1))).Nodup := by
  rw [removeProducersByIds_pairs, List.nodup_flatMap]
  constructor
  · rintro ⟨r, room⟩ hroom
    rw [FiniteMap.mem_toList] at hroom
    rw [List.nodup_flatMap]
    constructor
    · rintro ⟨p, e⟩ hp
      rw [FiniteMap.mem_toList] at hp
      have hn := h.nodup r p
      rw [idsAt_of_some (peer_eq_some.2 ⟨room, hroom, hp⟩)] at hn
      exact (hn.filter _).map (Prod.mk_right_injective r)
    · refine room.peers.toList_pairwise.imp_of_mem ?_
      rintro ⟨p, e⟩ ⟨p', e'⟩ hp hp' hne a ha hb
      rw [FiniteMap.mem_toList] at hp hp'
      obtain ⟨id, hid, rfl⟩ := List.mem_map.mp ha
      obtain ⟨id', hid', hpair⟩ := List.mem_map.mp hb
      cases hpair
      have hm := (List.mem_filter.mp hid).1
      have hm' := (List.mem_filter.mp hid').1
      rw [← idsAt_of_some (peer_eq_some.2 ⟨room, hroom, hp⟩)] at hm
      rw [← idsAt_of_some (peer_eq_some.2 ⟨room, hroom, hp'⟩)] at hm'
      exact hne (h.place hm hm').2
  · refine sfu.toList_pairwise.imp ?_
    rintro ⟨r, room⟩ ⟨r', room'⟩ hne a ha hb
    obtain ⟨_, _, ha⟩ := List.mem_flatMap.mp ha
    obtain ⟨_, _, hb⟩ := List.mem_flatMap.mp hb
    obtain ⟨id, _, rfl⟩ := List.mem_map.mp ha
    obtain ⟨id', _, hpair⟩ := List.mem_map.mp hb
    exact hne (congrArg Prod.fst hpair).symm

end SfuManager

def SignalingServer.Owned (s : SignalingServer) (owner : Option String) (id : String) : Prop :=
  ∃ o, owner = some o ∧ s.producerOwners.get id = some o

structure Reclaims (s t : SignalingServer) (owner : Option String) : Prop where
  media : ∀ {r p x}, x ∈ t.sfuManager.mediaAt r p ↔
    x ∈ s.sfuManager.mediaAt r p ∧ ¬s.Owned owner x.id
  data : ∀ {r p x}, x ∈ t.sfuManager.dataAt r p ↔
    x ∈ s.sfuManager.dataAt r p ∧ ¬s.Owned owner x.id
  forgets : ∀ {id}, s.Owned owner id → t.producerOwners.get id = none
  keeps : ∀ {id}, ¬s.Owned owner id → t.producerOwners.get id = s.producerOwners.get id
  tells : ∃ told, Tells s t told ∧ told.Nodup ∧
    ∀ {r id}, (r, id) ∈ told ↔ s.sfuManager.HasId r id ∧ s.Owned owner id

lemma Reclaims.ids {s t : SignalingServer} {owner : Option String} (h : Reclaims s t owner)
    {r p id : String} : id ∈ t.sfuManager.idsAt r p ↔
      id ∈ s.sfuManager.idsAt r p ∧ ¬s.Owned owner id := by
  simp only [SfuManager.mem_idsAt, List.mem_map, h.media, h.data]
  constructor
  · rintro (⟨x, ⟨hx, hn⟩, rfl⟩ | ⟨x, ⟨hx, hn⟩, rfl⟩)
    · exact ⟨Or.inl ⟨x, hx, rfl⟩, hn⟩
    · exact ⟨Or.inr ⟨x, hx, rfl⟩, hn⟩
  · rintro ⟨⟨x, hx, rfl⟩ | ⟨x, hx, rfl⟩, hn⟩
    · exact Or.inl ⟨x, ⟨hx, hn⟩, rfl⟩
    · exact Or.inr ⟨x, ⟨hx, hn⟩, rfl⟩

lemma Reclaims.absent {s t : SignalingServer} {owner : Option String} (h : Reclaims s t owner)
    {id : String} (hn : s.producerOwners.get id = none) : t.producerOwners.get id = none := by
  by_cases ho : s.Owned owner id
  · exact h.forgets ho
  · rw [h.keeps ho, hn]

namespace SignalingServer

variable (s : SignalingServer)

lemma mem_ownedBy {owner id : String} : id ∈ s.ownedBy owner ↔ s.Owned (some owner) id := by
  simp only [ownedBy, List.mem_map, List.mem_filter, decide_eq_true_eq, Prod.exists,
    FiniteMap.mem_toList, Owned, Option.some.injEq]
  constructor
  · rintro ⟨_, _, ⟨hg, rfl⟩, rfl⟩
    exact ⟨_, rfl, hg⟩
  · rintro ⟨_, rfl, hg⟩
    exact ⟨id, owner, ⟨hg, rfl⟩, rfl⟩

lemma reclaim_owner (peerId owner : String) (device : Option String) (id : String) :
    (s.reclaim peerId owner device).producerOwners.get id =
      if id ∈ s.ownedBy owner then none else s.producerOwners.get id := by
  rw [reclaim]
  split_ifs with he hid hid
  · rw [List.isEmpty_iff.mp he] at hid
    cases hid
  · rfl
  · rw [announceRooms_owner]
    split_ifs
    · rfl
    · exact (FiniteMap.get_foldl_remove _ _ _).trans (if_pos hid)
  · rw [announceRooms_owner, if_neg]
    · exact (FiniteMap.get_foldl_remove _ _ _).trans (if_neg hid)
    · rintro ⟨_, hm⟩
      obtain ⟨⟨r, id'⟩, hpair, rfl⟩ := List.mem_map.mp hm
      rw [(closedPairs_group _).mem_iff, SfuManager.mem_removeProducersByIds] at hpair
      exact hid hpair.1

lemma reclaim_reclaims (hu : s.sfuManager.UniqueIds) (peerId owner : String)
    (device : Option String) : Reclaims s (s.reclaim peerId owner device) (some owner) where
  media {r p x} := by
    rw [reclaim_mediaAt, List.mem_filter, decide_eq_true_eq, mem_ownedBy]
  data {r p x} := by
    rw [reclaim_dataAt, List.mem_filter, decide_eq_true_eq, mem_ownedBy]
  forgets {id} h := by
    rw [reclaim_owner, if_pos (s.mem_ownedBy.2 h)]
  keeps {id} h := by
    rw [reclaim_owner, if_neg (fun hm => h (s.mem_ownedBy.1 hm))]
  tells := by
    rw [reclaim]
    split_ifs with he
    · refine ⟨[], Tells.nil rfl, List.nodup_nil, ?_⟩
      intro r id
      rw [← mem_ownedBy, List.isEmpty_iff.mp he]
      simp
    · have hgroup := closedPairs_group (s.sfuManager.removeProducersByIds (s.ownedBy owner)).2
      refine ⟨_, announceRooms_tells _ _ _ _, ?_, ?_⟩
      · exact hgroup.nodup_iff.mpr (SfuManager.nodup_removeProducersByIds hu _)
      · intro r id
        rw [hgroup.mem_iff, SfuManager.mem_removeProducersByIds, mem_ownedBy, and_comm]

lemma reclaimDevice_reclaims (hu : s.sfuManager.UniqueIds) (peerId : String) :
    Reclaims s (s.reclaimDevice peerId) (s.deviceIdOf peerId) := by
  rw [reclaimDevice]
  cases s.deviceIdOf peerId with
  | some d => exact s.reclaim_reclaims hu peerId d (some d)
  | none =>
    have hno : ∀ {id}, ¬s.Owned none id := by
      rintro id ⟨_, h, _⟩
      cases h
    refine ⟨?_, ?_, fun h => absurd h hno, fun _ => rfl, [], Tells.nil rfl, List.nodup_nil, ?_⟩
    · simp [hno]
    · simp [hno]
    · simp [hno]

lemma cleanupGlobal_owner (peerId id : String) :
    (s.cleanupGlobal peerId).producerOwners.get id =
      if (s.deviceIdOf peerId).isSome ∧
        id ∈ (closedPairs (s.sfuManager.removePeerGlobal peerId).2).map Prod.snd then none
      else s.producerOwners.get id := by
  rw [cleanupGlobal, announceRooms_owner]

lemma cleanupGlobal_tells (peerId : String) :
    Tells s (s.cleanupGlobal peerId) (closedPairs (s.sfuManager.removePeerGlobal peerId).2) :=
  announceRooms_tells { s with sfuManager := (s.sfuManager.removePeerGlobal peerId).1 } peerId _ _

/-- A departing peer takes a producer of another peer along when the owners table records it under
the session or under the device that the session is bound to. -/
def Doomed (s : SignalingServer) (peerId id : String) : Prop :=
  s.Owned (some (sessionKey peerId)) id ∨ s.Owned (s.deviceIdOf peerId) id

end SignalingServer

end MediaServo.Server
