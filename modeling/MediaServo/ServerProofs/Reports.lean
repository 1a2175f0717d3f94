import MediaServo.Server.Feed
import MediaServo.ServerProofs.Announcements

/-! What one change of the SFU does with the producers of a room, against the messages that it
issues for the room's channel. -/

namespace MediaServo.Server

open MediaServo.Foundations MediaServo.Common SignalingServer Feed

def opens : SignalingMessage → Option String
  | .newProducer _ id _ _ _ => some id
  | .newDataProducer _ id _ _ _ => some id
  | _ => none

def closes : SignalingMessage → Option String
  | .producerClosed _ _ id _ _ => some id
  | _ => none

lemma mem_closings {l : List (String × SignalingMessage)} {r id : String} :
    (r, id) ∈ closings l ↔ ∃ m, (r, m) ∈ l ∧ closes m = some id := by
  rw [closings, List.mem_filterMap]
  constructor
  · rintro ⟨⟨r', m⟩, hm, hid⟩
    cases m <;> simp only [Option.some.injEq, Prod.mk.injEq, reduceCtorEq] at hid
    obtain ⟨rfl, rfl⟩ := hid
    exact ⟨_, hm, rfl⟩
  · rintro ⟨m, hm, hid⟩
    refine ⟨(r, m), hm, ?_⟩
    cases m <;> simp only [closes, Option.some.injEq, reduceCtorEq] at hid
    rw [← hid]

lemma mem_heard {view : Finset String} {m : SignalingMessage} {id : String} :
    id ∈ heard view m ↔ opens m = some id ∨ (id ∈ view ∧ closes m ≠ some id) := by
  cases m with
  | newProducer _ x => simp [heard, opens, closes, eq_comm]
  | newDataProducer _ x => simp [heard, opens, closes, eq_comm]
  | producerClosed _ _ x => simp [heard, opens, closes, eq_comm, and_comm]
  | _ => simp [heard, opens, closes]

namespace SfuManager

def HasMedia (sfu : SfuManager) (r id : String) : Prop :=
  ∃ p, id ∈ (sfu.mediaAt r p).map Producer.id

def HasData (sfu : SfuManager) (r id : String) : Prop :=
  ∃ p, id ∈ (sfu.dataAt r p).map DataProducer.id

variable {sfu : SfuManager} {r id : String}

lemma hasId_iff : sfu.HasId r id ↔ sfu.HasMedia r id ∨ sfu.HasData r id := by
  simp only [HasId, mem_idsAt, HasMedia, HasData, exists_or]

lemma producerReplay_opens (h : sfu.HasMedia r id) :
    ∃ m ∈ producerReplay sfu r, opens m = some id := by
  obtain ⟨p, hp⟩ := h
  obtain ⟨x, hx, rfl⟩ := List.mem_map.mp hp
  obtain ⟨e, he⟩ := peer_of_mem_idsAt (mem_idsAt.2 (Or.inl hp))
  obtain ⟨room, hr, hq⟩ := peer_eq_some.1 he
  rw [mediaAt_of_some he] at hx
  refine ⟨.newProducer r x.id p x.kind (room.producerLabels.get x.id), ?_, rfl⟩
  rw [producerReplay, listProducers, hr, Option.map_some, Option.getD_some]
  refine List.mem_map.mpr ⟨(x.id, x.kind, p, room.producerLabels.get x.id), ?_, rfl⟩
  refine List.mem_flatMap.mpr ⟨(p, e), (FiniteMap.mem_toList _ _ _).mpr hq, ?_⟩
  exact List.mem_map_of_mem hx

lemma dataProducerReplay_opens (h : sfu.HasData r id) :
    ∃ m ∈ dataProducerReplay sfu r, opens m = some id := by
  obtain ⟨p, hp⟩ := h
  obtain ⟨x, hx, rfl⟩ := List.mem_map.mp hp
  obtain ⟨e, he⟩ := peer_of_mem_idsAt (mem_idsAt.2 (Or.inr hp))
  obtain ⟨room, hr, hq⟩ := peer_eq_some.1 he
  rw [dataAt_of_some he] at hx
  refine ⟨.newDataProducer r x.id p x.label "", ?_, rfl⟩
  rw [dataProducerReplay, listDataProducers, hr, Option.map_some, Option.getD_some]
  refine List.mem_map.mpr ⟨(x.id, x.label, p), ?_, rfl⟩
  refine List.mem_flatMap.mpr ⟨(p, e), (FiniteMap.mem_toList _ _ _).mpr hq, ?_⟩
  exact List.mem_map_of_mem hx

lemma not_closes_replay {m : SignalingMessage}
    (h : m ∈ producerReplay sfu r ∨ m ∈ dataProducerReplay sfu r) : closes m = none := by
  obtain h | h := h
  · obtain ⟨x, _, rfl⟩ := List.mem_map.mp h
    rfl
  · obtain ⟨x, _, rfl⟩ := List.mem_map.mp h
    rfl

lemma removeRoom_thins (sfu : SfuManager) (room : String) : Thins sfu (sfu.removeRoom room) := by
  apply Thins.of_peer
  intro r p
  rw [sfu.peer_removeRoom]
  split_ifs
  · exact Or.inl rfl
  · exact Or.inr rfl

lemma hasMedia_congr {sfu' : SfuManager} (h : ∀ p, sfu'.mediaAt r p = sfu.mediaAt r p) :
    sfu'.HasMedia r id ↔ sfu.HasMedia r id := by
  simp only [HasMedia, h]

lemma hasData_congr {sfu' : SfuManager} (h : ∀ p, sfu'.dataAt r p = sfu.dataAt r p) :
    sfu'.HasData r id ↔ sfu.HasData r id := by
  simp only [HasData, h]

end SfuManager

/-- What leads from `s` to `t` keeps the books of room `r`: the producers that appear are among
`new` and announced, those announced as closed were there and are gone, and those that are gone
without an announcement are the `silent` ones. -/
structure Reports (s t : SignalingServer) (r : String) (new silent : String → Prop) : Prop where
  media : ∀ {id}, t.sfuManager.HasMedia r id → s.sfuManager.HasMedia r id ∨
    (new id ∧ ∃ m, (r, m) ∈ issued s t ∧ opens m = some id)
  data : ∀ {id}, t.sfuManager.HasData r id → s.sfuManager.HasData r id ∨
    (new id ∧ ∃ m, (r, m) ∈ issued s t ∧ opens m = some id)
  closed : ∀ {id}, (r, id) ∈ closings (issued s t) →
    s.sfuManager.HasId r id ∧ ¬t.sfuManager.HasId r id
  dropped : ∀ {id}, s.sfuManager.HasId r id → ¬t.sfuManager.HasId r id →
    (r, id) ∈ closings (issued s t) ∨ silent id
  silent : ∀ {id}, silent id → s.sfuManager.HasId r id ∧ ¬t.sfuManager.HasId r id ∧
    (r, id) ∉ closings (issued s t)

namespace Reports

variable {s t : SignalingServer} {r : String} {new silent : String → Prop}

lemma hasId (h : Reports s t r new silent) {id : String} (hid : t.sfuManager.HasId r id) :
    s.sfuManager.HasId r id ∨ new id := by
  obtain hid | hid := SfuManager.hasId_iff.1 hid
  · obtain hs | hn := h.media hid
    · exact Or.inl (SfuManager.hasId_iff.2 (Or.inl hs))
    · exact Or.inr hn.1
  · obtain hs | hn := h.data hid
    · exact Or.inl (SfuManager.hasId_iff.2 (Or.inr hs))
    · exact Or.inr hn.1

lemma of_same (hsent : t.sent = s.sent)
    (hm : ∀ p, t.sfuManager.mediaAt r p = s.sfuManager.mediaAt r p)
    (hd : ∀ p, t.sfuManager.dataAt r p = s.sfuManager.dataAt r p) (hno : ∀ id, ¬silent id) :
    Reports s t r new silent := by
  have hnil : closings (issued s t) = [] := (Tells.nil hsent).announced
  have hsame : ∀ {id}, t.sfuManager.HasId r id ↔ s.sfuManager.HasId r id := by
    intro id
    rw [SfuManager.hasId_iff, SfuManager.hasId_iff, SfuManager.hasMedia_congr hm,
      SfuManager.hasData_congr hd]
  constructor
  · intro id h
    exact Or.inl ((SfuManager.hasMedia_congr hm).mp h)
  · intro id h
    exact Or.inl ((SfuManager.hasData_congr hd).mp h)
  · intro id h
    rw [hnil] at h
    cases h
  · intro id h hn
    exact absurd (hsame.mpr h) hn
  · intro id h
    exact absurd h (hno id)

lemma of_peers (hsent : t.sent = s.sent)
    (h : ∀ p, t.sfuManager.peer r p = s.sfuManager.peer r p) :
    Reports s t r new (fun _ => False) := by
  apply of_same hsent
  · intro p
    exact SfuManager.mediaAt_congr (h p)
  · intro p
    exact SfuManager.dataAt_congr (h p)
  · exact fun _ => not_false

lemma of_thins (ht : Thins s.sfuManager t.sfuManager)
    (hclosed : ∀ id, (r, id) ∈ closings (issued s t) ↔
      (s.sfuManager.HasId r id ∧ ¬t.sfuManager.HasId r id) ∧ ¬silent id)
    (hsilent : ∀ id, silent id → s.sfuManager.HasId r id ∧ ¬t.sfuManager.HasId r id) :
    Reports s t r new silent := by
  constructor
  · rintro id ⟨p, hp⟩
    exact Or.inl ⟨p, ((ht r p).1.map _).subset hp⟩
  · rintro id ⟨p, hp⟩
    exact Or.inl ⟨p, ((ht r p).2.map _).subset hp⟩
  · intro id h
    exact ((hclosed id).mp h).1
  · intro id h hn
    by_cases hs : silent id
    · exact Or.inr hs
    · exact Or.inl ((hclosed id).mpr ⟨⟨h, hn⟩, hs⟩)
  · intro id h
    exact ⟨(hsilent id h).1, (hsilent id h).2, fun hc => ((hclosed id).mp hc).2 h⟩

lemma of_opened {room x : String} {m : SignalingMessage} (hsent : t.sent = s.sent ++ [(room, m)])
    (hopens : opens m = some x) (hcloses : closes m = none) (hnew : new x)
    (hm : ∀ {id}, t.sfuManager.HasMedia r id → s.sfuManager.HasMedia r id ∨ (r = room ∧ id = x))
    (hd : ∀ {id}, t.sfuManager.HasData r id → s.sfuManager.HasData r id ∨ (r = room ∧ id = x))
    (hkeeps : ∀ {id}, s.sfuManager.HasId r id → t.sfuManager.HasId r id)
    (hno : ∀ id, ¬silent id) : Reports s t r new silent := by
  have hissued : issued s t = [(room, m)] := by rw [issued, hsent, List.drop_left]
  have hclosed : ∀ {id}, (r, id) ∉ closings (issued s t) := by
    intro id h
    obtain ⟨m', hm', hid⟩ := mem_closings.1 h
    rw [hissued, List.mem_singleton, Prod.mk.injEq] at hm'
    rw [hm'.2, hcloses] at hid
    cases hid
  have hopened : ∀ {id}, r = room ∧ id = x →
      new id ∧ ∃ m, (r, m) ∈ issued s t ∧ opens m = some id := by
    rintro id ⟨rfl, rfl⟩
    exact ⟨hnew, m, by rw [hissued]; exact List.mem_singleton.mpr rfl, hopens⟩
  constructor
  · intro id h
    exact (hm h).imp_right hopened
  · intro id h
    exact (hd h).imp_right hopened
  · intro id h
    exact absurd h hclosed
  · intro id h hn
    exact absurd (hkeeps h) hn
  · intro id h
    exact absurd h (hno id)

end Reports

section Changes

variable {s : SignalingServer} {r : String} {new : String → Prop}

lemma cleanupGlobal_reports (hu : s.sfuManager.UniqueIds) (p : String) :
    Reports s (s.cleanupGlobal p) r new
      (fun id => id ∈ (s.sfuManager.dataAt r p).map DataProducer.id) := by
  have hids : ∀ {id}, (s.cleanupGlobal p).sfuManager.HasId r id ↔
      ∃ q, id ∈ s.sfuManager.idsAt r q ∧ q ≠ p := by
    intro id
    simp only [SfuManager.HasId, cleanupGlobal_idsAt]
  have hgone : ∀ {id}, id ∈ s.sfuManager.idsAt r p →
      s.sfuManager.HasId r id ∧ ¬(s.cleanupGlobal p).sfuManager.HasId r id := by
    intro id hid
    refine ⟨⟨p, hid⟩, fun h => ?_⟩
    obtain ⟨q, hq, hne⟩ := hids.mp h
    exact hne (hu.place hq hid).2
  apply Reports.of_thins (s.cleanupGlobal_thins p)
  · intro id
    have htold : closings (issued s (s.cleanupGlobal p)) = _ := (s.cleanupGlobal_tells p).announced
    rw [htold, SfuManager.mem_removePeerGlobal]
    constructor
    · intro hm
      exact ⟨hgone (SfuManager.mem_idsAt.2 (Or.inl hm)), hu.not_data hm⟩
    · rintro ⟨⟨⟨q, hq⟩, hn⟩, hnd⟩
      have hqp : q = p := by
        by_contra hne
        exact hn (hids.mpr ⟨q, hq, hne⟩)
      rw [hqp] at hq
      exact (SfuManager.mem_idsAt.1 hq).resolve_right hnd
  · intro id hd
    exact hgone (SfuManager.mem_idsAt.2 (Or.inr hd))

lemma reclaim_reports (hu : s.sfuManager.UniqueIds) (p owner : String) (device : Option String) :
    Reports s (s.reclaim p owner device) r new (fun _ => False) := by
  have hr := s.reclaim_reclaims hu p owner device
  obtain ⟨told, ht, _, hmem⟩ := hr.tells
  apply Reports.of_thins (s.reclaim_thins p owner device)
  · intro id
    have htold : closings (issued s (s.reclaim p owner device)) = told := ht.announced
    rw [htold, hmem]
    constructor
    · rintro ⟨hid, ho⟩
      refine ⟨⟨hid, ?_⟩, not_false⟩
      rintro ⟨q, hq⟩
      exact (hr.ids.1 hq).2 ho
    · rintro ⟨⟨⟨q, hq⟩, hn⟩, _⟩
      refine ⟨⟨q, hq⟩, ?_⟩
      by_contra ho
      exact hn ⟨q, hr.ids.2 ⟨hq, ho⟩⟩
  · intro id h
    exact h.elim

lemma removeRoom_reports (room : String) :
    Reports s { s with sfuManager := s.sfuManager.removeRoom room } r new
      (fun id => room = r ∧ s.sfuManager.HasId r id) := by
  have hpeer := s.sfuManager.peer_removeRoom room
  have hgone : ∀ {id}, room = r → ¬(s.sfuManager.removeRoom room).HasId r id := by
    rintro id rfl ⟨q, hq⟩
    rw [SfuManager.idsAt_of_none (by rw [hpeer, if_pos rfl])] at hq
    cases hq
  have hnil : closings (issued s { s with sfuManager := s.sfuManager.removeRoom room }) = [] :=
    (Tells.nil rfl).announced
  apply Reports.of_thins (s.sfuManager.removeRoom_thins room)
  · intro id
    rw [hnil]
    refine ⟨fun h => absurd h List.not_mem_nil, ?_⟩
    rintro ⟨⟨⟨q, hq⟩, hn⟩, hs⟩
    exfalso
    have hne : room ≠ r := fun h => hs ⟨h, q, hq⟩
    have hsame : (s.sfuManager.removeRoom room).peer r q = s.sfuManager.peer r q := by
      rw [hpeer, if_neg hne.symm]
    apply hn
    refine ⟨q, ?_⟩
    rwa [SfuManager.idsAt, SfuManager.mediaAt_congr hsame, SfuManager.dataAt_congr hsame]
  · rintro id ⟨hr, hid⟩
    exact ⟨hid, hgone hr⟩

lemma gone_reports (hu : s.sfuManager.UniqueIds) (c : Session) (gone room : String) :
    Reports s (s.handleDownstreamGone c gone room).1 r new (fun id => room = r ∧
      (s.deviceIdOf c.peerId).isSome ∧ id ∈ (s.sfuManager.dataAt r gone).map DataProducer.id) := by
  cases hd : s.deviceIdOf c.peerId with
  | none =>
    have hsame : (s.handleDownstreamGone c gone room).1 = s := by rw [handleDownstreamGone, hd]
    rw [hsame]
    exact Reports.of_same rfl (fun _ => rfl) (fun _ => rfl) (fun _ h => by simp at h)
  | some d =>
    have hthin : Thins s.sfuManager (s.handleDownstreamGone c gone room).1.sfuManager := by
      apply Thins.of_peer
      intro r' q
      rw [handleDownstreamGone_bound hd, announceProducersClosed_sfu]
      change (s.sfuManager.removePeerInRoom room gone).1.peer r' q = _ ∨ _
      rw [s.sfuManager.peer_removePeerInRoom room gone r' q]
      split_ifs
      · exact Or.inl rfl
      · exact Or.inr rfl
    apply Reports.of_thins hthin
    · intro id
      have htold : (r, id) ∈ closings (issued s (s.handleDownstreamGone c gone room).1) ↔
          r = room ∧ id ∈ (s.sfuManager.mediaAt room gone).map Producer.id := mem_gone_announced hd
      rw [htold]
      constructor
      · rintro ⟨rfl, hm⟩
        have hid := SfuManager.mem_idsAt.2 (Or.inl hm)
        exact ⟨⟨⟨gone, hid⟩, not_hasId_of_gone hu hd hid⟩, fun h => hu.not_data hm h.2.2⟩
      · rintro ⟨⟨⟨q, hq⟩, hn⟩, hs⟩
        have hrq : r = room ∧ q = gone := by
          by_contra hne
          exact hn ⟨q, (gone_ids hd).mpr ⟨hq, hne⟩⟩
        obtain ⟨rfl, rfl⟩ := hrq
        exact ⟨rfl, (SfuManager.mem_idsAt.1 hq).resolve_right (fun h => hs ⟨rfl, rfl, h⟩)⟩
    · rintro id ⟨rfl, _, h⟩
      have hid := SfuManager.mem_idsAt.2 (Or.inr h)
      exact ⟨⟨gone, hid⟩, not_hasId_of_gone hu hd hid⟩

lemma Puts.opened {t : SignalingServer} {room peer x : String} {e e' : SfuPeer} {u v : List String}
    {m : SignalingMessage} (h : Puts s.sfuManager t.sfuManager room peer (some e'))
    (he : s.sfuManager.peer room peer = some e)
    (hmedia : e'.producers.map Producer.id = e.producers.map Producer.id ++ u)
    (hdata : e'.dataProducers.map DataProducer.id = e.dataProducers.map DataProducer.id ++ v)
    (hx : ∀ y, y ∈ u ∨ y ∈ v → y = x) (hsent : t.sent = s.sent ++ [(room, m)])
    (hopens : opens m = some x) (hcloses : closes m = none) (hnew : new x) :
    Reports s t r new (fun _ => False) := by
  have hm : ∀ p, (t.sfuManager.mediaAt r p).map Producer.id =
      (s.sfuManager.mediaAt r p).map Producer.id ++ (if r = room ∧ p = peer then u else []) := by
    intro p
    have hp := h r p
    split_ifs at hp ⊢ with hc
    · rw [SfuManager.mediaAt_of_some hp, hc.1, hc.2, SfuManager.mediaAt_of_some he, hmedia]
    · rw [SfuManager.mediaAt_congr hp, List.append_nil]
  have hd : ∀ p, (t.sfuManager.dataAt r p).map DataProducer.id =
      (s.sfuManager.dataAt r p).map DataProducer.id ++ (if r = room ∧ p = peer then v else []) := by
    intro p
    have hp := h r p
    split_ifs at hp ⊢ with hc
    · rw [SfuManager.dataAt_of_some hp, hc.1, hc.2, SfuManager.dataAt_of_some he, hdata]
    · rw [SfuManager.dataAt_congr hp, List.append_nil]
  apply Reports.of_opened hsent hopens hcloses hnew
  · rintro y ⟨p, hy⟩
    rw [hm, List.mem_append] at hy
    obtain hy | hy := hy
    · exact Or.inl ⟨p, hy⟩
    · split_ifs at hy with hc
      · exact Or.inr ⟨hc.1, hx y (Or.inl hy)⟩
      · cases hy
  · rintro y ⟨p, hy⟩
    rw [hd, List.mem_append] at hy
    obtain hy | hy := hy
    · exact Or.inl ⟨p, hy⟩
    · split_ifs at hy with hc
      · exact Or.inr ⟨hc.1, hx y (Or.inr hy)⟩
      · cases hy
  · rintro y ⟨p, hy⟩
    refine ⟨p, ?_⟩
    rw [SfuManager.mem_idsAt, hm, hd, List.mem_append, List.mem_append]
    exact (SfuManager.mem_idsAt.1 hy).imp Or.inl Or.inl
  · exact fun _ => not_false

lemma handleProduce_reports (c : Session) (room peer : String) (direction : TransportDirection)
    (kind : MediaKind) (transportId label : Option String) (w : Worker) :
    Reports s (s.handleProduce c room peer direction kind transportId label w).1 r
      (fun id => w.produce = .ok id ∨ w.produceData = .ok id) (fun _ => False) := by
  rw [handleProduce]
  split
  · exact Reports.of_peers rfl (fun _ => rfl)
  · split
    · exact Reports.of_peers rfl (fun _ => rfl)
    · rename_i sfu id h
      obtain ⟨hid, e, t, he, hput⟩ := SfuManager.createProducer_ok _ w h
      refine Puts.opened (x := id) (u := [id]) (v := []) hput he ?_ ?_ ?_ rfl rfl rfl (Or.inl hid)
      · rw [List.map_append, List.map_singleton]
      · rw [List.append_nil]
      · simp

lemma handleCreateDataProducer_reports (c : Session) (room peer : String)
    (direction : TransportDirection) (label protocol : String) (sctp : Option SctpStreamParameters)
    (transportId : Option String) (w : Worker) :
    Reports s (s.handleCreateDataProducer c room peer direction label protocol sctp transportId w).1 r
      (fun id => w.produce = .ok id ∨ w.produceData = .ok id) (fun _ => False) := by
  rw [handleCreateDataProducer]
  split
  · exact Reports.of_peers rfl (fun _ => rfl)
  · split
    · exact Reports.of_peers rfl (fun _ => rfl)
    · rename_i sfu id h
      obtain ⟨hid, _, e, t, he, _, hput⟩ := SfuManager.createDataProducer_ok _ w h
      refine Puts.opened (x := id) (u := []) (v := [id]) hput he ?_ ?_ ?_ rfl rfl rfl (Or.inr hid)
      · rw [List.append_nil]
      · rw [List.map_append, List.map_singleton]
      · simp

def Silenced (s : SignalingServer) (r : String) : FeedAction → String → Prop
  | .request c (.downstreamGone gone room) _, id => room = r ∧ (s.deviceIdOf c.peerId).isSome ∧
      id ∈ (s.sfuManager.dataAt r gone).map DataProducer.id
  | .cleanupGlobal p, id => id ∈ (s.sfuManager.dataAt r p).map DataProducer.id
  | .removeRoom room, id => room = r ∧ s.sfuManager.HasId r id
  | _, _ => False

lemma handleSfuMessage_reports (hu : s.sfuManager.UniqueIds) (c : Session) (msg : SignalingMessage)
    (w : Worker) : Reports s (s.handleSfuMessage c msg w).1 r
      (fun id => w.produce = .ok id ∨ w.produceData = .ok id) (Silenced s r (.request c msg w)) := by
  have hother : announces msg = false → Reports s (s.handleSfuMessage c msg w).1 r
      (fun id => w.produce = .ok id ∨ w.produceData = .ok id) (fun _ => False) := by
    intro ha
    have hsent : (s.handleSfuMessage c msg w).1.sent = s.sent := by
      rw [s.handleSfuMessage_others c w ha]
    have hsame := (s.handleSfuMessage_sfu c w msg).producers_same ha r
    exact Reports.of_same hsent (fun p => (hsame p).1) (fun p => (hsame p).2) (fun _ => not_false)
  cases msg with
  | produce => apply handleProduce_reports
  | createDataProducer => apply handleCreateDataProducer_reports
  | downstreamGone gone room => exact gone_reports hu c gone room
  | _ => exact hother rfl

end Changes

section Uninterrupted

variable {f g : Feed} {r : String}

def Defers (f g : Feed) : Prop :=
  ∃ told, g = { f with server := g.server, tasks := f.tasks ++ told } ∧
    g.server.sent = f.server.sent ++ told.flatten

lemma Defers.refl (f : Feed) : Defers f f := ⟨[], by simp, by simp⟩

lemma Defers.act (h : Defers f g) {t : SignalingServer} {l : List (String × String)}
    (ht : Tells g.server t l) : Defers f (g.act t) := by
  obtain ⟨told, hg, hsent⟩ := h
  obtain ⟨msgs, hmsgs, _⟩ := ht
  have hissued : issued g.server t = msgs := by rw [issued, hmsgs, List.drop_left]
  refine ⟨told ++ [msgs], ?_, ?_⟩
  · rw [Feed.act, hissued, hg]
    simp
  · change t.sent = _
    rw [hmsgs, hsent, List.flatten_append, List.flatten_singleton, List.append_assoc]

lemma reclaim_tells (s : SignalingServer) (p owner : String) (device : Option String) :
    ∃ l, Tells s (s.reclaim p owner device) l := by
  rw [reclaim]
  split_ifs
  · exact ⟨[], Tells.nil rfl⟩
  · exact ⟨_, announceRooms_tells _ _ _ _⟩

theorem disconnectSession_run (f : Feed) (p room : String) :
    ∃ acts, Defers f (run (Feed.step r) f acts) ∧
      (run (Feed.step r) f acts).server.sfuManager = (f.server.disconnectSession p room).sfuManager ∧
      (f.server.disconnectSession p room).sent =
        (run (Feed.step r) f acts).server.sent ++ [(room, .roomLeave room p)] := by
  obtain ⟨_, hreclaim⟩ := reclaim_tells (f.server.cleanupGlobal p) p (sessionKey p) none
  have hsession := ((Defers.refl f).act (f.server.cleanupGlobal_tells p)).act hreclaim
  have hcleaned : ∃ acts, Defers f (run (Feed.step r) f acts) ∧
      (run (Feed.step r) f acts).server = f.server.cleaned p := by
    cases hd : ((f.server.cleanupGlobal p).reclaimSession p).deviceIdOf p with
    | none =>
      refine ⟨[.cleanupGlobal p, .reclaim p (sessionKey p) none], hsession, ?_⟩
      rw [cleaned, reclaimDevice, hd]
      rfl
    | some d =>
      obtain ⟨_, hdevice⟩ := reclaim_tells ((f.server.cleanupGlobal p).reclaimSession p) p d (some d)
      refine ⟨[.cleanupGlobal p, .reclaim p (sessionKey p) none, .reclaim p d (some d)],
        hsession.act hdevice, ?_⟩
      rw [cleaned, reclaimDevice, hd]
      rfl
  obtain ⟨acts, hdefers, hserver⟩ := hcleaned
  have hsent : (f.server.disconnectSession p room).sent =
      (f.server.cleaned p).sent ++ [(room, .roomLeave room p)] := by
    rw [disconnectSession_eq]
    change (teardown _ _ _).sent ++ _ = _
    rw [(teardown_sent _ _ _).1]
    rfl
  have hsfu := f.server.disconnectSession_sfu p room
  split_ifs at hsfu
  · refine ⟨acts ++ [.removeRoom room], ?_, ?_, ?_⟩
    · rw [run_snoc]
      exact hdefers.act (Tells.nil rfl)
    · rw [run_snoc, hsfu, ← hserver]
      rfl
    · rw [run_snoc, hsent, ← hserver]
      rfl
  · exact ⟨acts, hdefers, by rw [hserver, hsfu], by rw [hserver, hsent]⟩

lemma replay_run {k : List SignalingMessage → SyncPhase} (hleft : ∀ l, (k l).left = l)
    (hadvance : ∀ l, (k l).advance = k l.tail) (l : List SignalingMessage) (hf : f.phase = k l) :
    run (Feed.step r) f (List.replicate l.length .replay) =
      { f with phase := k [], received := f.received ++ l } := by
  induction l generalizing f with
  | nil =>
    rw [← hf]
    simp
  | cons m l ih =>
    have hstep : f.step r .replay = { f with phase := k l, received := f.received ++ [m] } := by
      change f.replay = _
      rw [Feed.replay, hf, hleft, hadvance]
      rfl
    rw [List.length_cons, List.replicate_succ, run_cons, hstep, ih rfl, List.append_assoc]
    rfl

theorem lateJoinerSync_run (s : SignalingServer) (roomId : String) :
    ∃ acts, run (Feed.step roomId) (.start s) acts = ⟨s, [], .dataProducers [], [],
        producerReplay s.sfuManager roomId ++ dataProducerReplay s.sfuManager roomId⟩ ∧
      s.lateJoinerSync roomId = (s.pendingMessages.get roomId).getD [] ++
        (run (Feed.step roomId) (.start s) acts).received := by
  have hrun : run (Feed.step roomId) (.start s) ([.subscribe, .listProducers] ++
      List.replicate (producerReplay s.sfuManager roomId).length .replay ++ [.listDataProducers] ++
      List.replicate (dataProducerReplay s.sfuManager roomId).length .replay) = ⟨s, [],
        .dataProducers [], [],
        producerReplay s.sfuManager roomId ++ dataProducerReplay s.sfuManager roomId⟩ := by
    rw [run_append, run_append, run_append, replay_run (k := .producers) (fun _ => rfl) (fun _ => rfl)
      (producerReplay s.sfuManager roomId) rfl]
    exact replay_run (k := .dataProducers) (fun _ => rfl) (fun _ => rfl)
      (dataProducerReplay s.sfuManager roomId) rfl
  refine ⟨_, hrun, ?_⟩
  rw [hrun, lateJoinerSync, List.append_assoc]
  rfl

end Uninterrupted

end MediaServo.Server
