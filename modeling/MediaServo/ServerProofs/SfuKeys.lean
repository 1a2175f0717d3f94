import MediaServo.ServerProofs.SfuGates

/-! The maps that the SFU keeps beside its producers, over every run of its operations. -/

namespace MediaServo.Server

open MediaServo.Foundations MediaServo.Common

structure SfuPeer.KeysExact (e : SfuPeer) : Prop where
  media : ∀ id, e.producerTransports.contains id = true ↔ ∃ x ∈ e.producers, x.id = id
  data : ∀ id, e.dataProducerTransports.contains id = true ↔ ∃ x ∈ e.dataProducers, x.id = id

section Keys

variable {κ ν : Type} [DecidableEq κ]

lemma contains_set_iff (m : FiniteMap κ ν) (j k : κ) (v : ν) :
    (m.set k v).contains j = true ↔ m.contains j = true ∨ k = j := by
  rw [FiniteMap.contains, FiniteMap.get_set, FiniteMap.contains]
  by_cases h : j = k
  · simp [h]
  · simp [h, Ne.symm h]

lemma contains_retain_iff (m : FiniteMap κ ν) (ks : List κ) (j : κ) :
    (m.retain (fun k _ => k ∉ ks)).contains j = true ↔ m.contains j = true ∧ j ∉ ks := by
  rw [FiniteMap.contains, FiniteMap.get_retain, FiniteMap.contains]
  by_cases h : j ∈ ks
  · cases m.get j <;> simp [Option.filter, h]
  · cases m.get j <;> simp [Option.filter, h]

lemma keys_of_struck {α : Type} (f : α → κ) {xs : List α} {m : FiniteMap κ ν} {ids struck : List κ}
    (h : ∀ k, m.contains k = true ↔ ∃ x ∈ xs, f x = k) (hids : ∀ k ∈ struck, k ∈ ids)
    (hall : ∀ x ∈ xs, f x ∈ ids → f x ∈ struck) (k : κ) :
    (m.retain (fun k _ => k ∉ struck)).contains k = true ↔
      ∃ x ∈ xs.filter (fun x => f x ∉ ids), f x = k := by
  rw [contains_retain_iff, h k]
  constructor
  · rintro ⟨⟨x, hx, rfl⟩, hkeep⟩
    have hid : f x ∉ ids := fun hid => hkeep (hall x hx hid)
    exact ⟨x, List.mem_filter.mpr ⟨hx, decide_eq_true hid⟩, rfl⟩
  · rintro ⟨x, hx, rfl⟩
    obtain ⟨hx, hid⟩ := List.mem_filter.mp hx
    exact ⟨⟨x, hx, rfl⟩, fun hstruck => of_decide_eq_true hid (hids _ hstruck)⟩

end Keys

namespace SfuPeer

variable {e : SfuPeer}

lemma mem_hits (ids : List String) (id : String) :
    id ∈ (e.hits ids).map Prod.fst ↔
      id ∈ ids ∧ ((∃ x ∈ e.producers, x.id = id) ∨ ∃ x ∈ e.dataProducers, x.id = id) := by
  simp only [hits, List.map_append, List.map_map, List.mem_append, List.mem_map, List.mem_filter,
    decide_eq_true_eq, Function.comp_apply]
  constructor
  · rintro (⟨x, ⟨hx, hid⟩, rfl⟩ | ⟨x, ⟨hx, hid⟩, rfl⟩)
    · exact ⟨hid, Or.inl ⟨x, hx, rfl⟩⟩
    · exact ⟨hid, Or.inr ⟨x, hx, rfl⟩⟩
  · rintro ⟨hid, ⟨x, hx, rfl⟩ | ⟨x, hx, rfl⟩⟩
    · exact Or.inl ⟨x, ⟨hx, hid⟩, rfl⟩
    · exact Or.inr ⟨x, ⟨hx, hid⟩, rfl⟩

namespace KeysExact

lemma empty : SfuPeer.empty.KeysExact where
  media id := by simp [SfuPeer.empty]
  data id := by simp [SfuPeer.empty]

lemma pushTransport (h : e.KeysExact) (d : TransportDirection) (t : String) :
    (e.pushTransport d t).KeysExact := by
  cases d with
  | send => exact ⟨h.media, h.data⟩
  | recv => exact ⟨h.media, h.data⟩

lemma produce (h : e.KeysExact) (id t : String) (kind : MediaKind) :
    SfuPeer.KeysExact { e with
      producers := e.producers ++ [⟨id, kind⟩]
      producerTransports := e.producerTransports.set id t } where
  media j := by
    rw [contains_set_iff, h.media j]
    simp [or_and_right, exists_or]
  data := h.data

lemma produceData (h : e.KeysExact) (id t label protocol : String) :
    SfuPeer.KeysExact { e with
      dataProducers := e.dataProducers ++ [⟨id, label, protocol⟩]
      dataProducerTransports := e.dataProducerTransports.set id t } where
  media := h.media
  data j := by
    rw [contains_set_iff, h.data j]
    simp [or_and_right, exists_or]

lemma strip (h : e.KeysExact) (ids gone : List String) : (e.strip ids gone).KeysExact where
  media := by
    apply keys_of_struck _ h.media
    · intro id hid
      exact ((mem_hits ids id).1 hid).1
    · intro x hx hid
      exact (mem_hits ids x.id).2 ⟨hid, Or.inl ⟨x, hx, rfl⟩⟩
  data := by
    apply keys_of_struck _ h.data
    · intro id hid
      exact ((mem_hits ids id).1 hid).1
    · intro x hx hid
      exact (mem_hits ids x.id).2 ⟨hid, Or.inr ⟨x, hx, rfl⟩⟩

end KeysExact

end SfuPeer

/-- What an operation that makes no media producer does: it may end entries and producers, the
entries that are left keep their maps exact and the labels of their room, and no label is new. -/
structure Sheds (sfu sfu' : SfuManager) : Prop where
  entry : ∀ {r p e'}, sfu'.peer r p = some e' →
    (((sfu.peer r p).getD SfuPeer.empty).KeysExact → e'.KeysExact) ∧
      e'.producers ⊆ ((sfu.peer r p).getD SfuPeer.empty).producers
  label : ∀ {r p e'} (id : String), sfu'.peer r p = some e' → sfu'.label r id = sfu.label r id
  drawn : ∀ {r id l}, sfu'.label r id = some l → sfu.label r id = some l

namespace SfuManager

variable (sfu : SfuManager) (w : Worker)

lemma label_setPeer (roomId peerId r id : String) (f : SfuPeer → SfuPeer) :
    (sfu.setPeer roomId peerId f).label r id = sfu.label r id := by
  rw [label, label, setPeer, FiniteMap.get_adjust]
  split_ifs
  · cases sfu.get r <;> rfl
  · rfl

lemma label_ensureRouter (roomId r id : String) :
    (sfu.ensureRouter roomId w).1.label r id = sfu.label r id := by
  rw [ensureRouter]
  split
  · rfl
  · rename_i hnone
    split
    · rw [label, label, FiniteMap.get_set]
      split_ifs with h
      · rw [h, hnone]
        rfl
      · rfl
    · rfl
    · rfl

end SfuManager

namespace Sheds

variable {sfu sfu' : SfuManager}

lemma refl (sfu : SfuManager) : Sheds sfu sfu where
  entry h := by
    rw [h]
    exact ⟨id, fun _ hx => hx⟩
  label _ _ := rfl
  drawn h := h

lemma of_rooms (h : ∀ r room', sfu'.get r = some room' → ∃ room, sfu.get r = some room ∧
      room'.producerLabels = room.producerLabels ∧ ∀ p e', room'.peers.get p = some e' →
        ∃ e, room.peers.get p = some e ∧ (e.KeysExact → e'.KeysExact) ∧
          e'.producers ⊆ e.producers) : Sheds sfu sfu' where
  entry he := by
    obtain ⟨room', hroom', hp⟩ := SfuManager.peer_eq_some.1 he
    obtain ⟨room, hroom, -, hold⟩ := h _ room' hroom'
    obtain ⟨e, he, hkeys, hsub⟩ := hold _ _ hp
    rw [SfuManager.peer_eq_some.2 ⟨room, hroom, he⟩]
    exact ⟨hkeys, hsub⟩
  label id he := by
    obtain ⟨room', hroom', -⟩ := SfuManager.peer_eq_some.1 he
    obtain ⟨room, hroom, hlabels, -⟩ := h _ room' hroom'
    rw [SfuManager.label, SfuManager.label, hroom, hroom', Option.bind_some, Option.bind_some, hlabels]
  drawn hl := by
    rw [SfuManager.label, Option.bind_eq_some_iff] at hl
    obtain ⟨room', hroom', hl⟩ := hl
    obtain ⟨room, hroom, hlabels, -⟩ := h _ room' hroom'
    rw [SfuManager.label, hroom, Option.bind_some, ← hlabels, hl]

lemma of_puts {r p : String} {e' : SfuPeer} (hputs : Puts sfu sfu' r p (some e'))
    (hkeys : ((sfu.peer r p).getD SfuPeer.empty).KeysExact → e'.KeysExact)
    (hsub : e'.producers = ((sfu.peer r p).getD SfuPeer.empty).producers)
    (hlabel : ∀ r id, sfu'.label r id = sfu.label r id) : Sheds sfu sfu' where
  entry {q x e} he := by
    rw [hputs q x] at he
    split_ifs at he with hqx
    · cases he
      rw [hqx.1, hqx.2]
      exact ⟨hkeys, hsub ▸ fun _ hx => hx⟩
    · rw [he]
      exact ⟨id, fun _ hx => hx⟩
  label id _ := hlabel _ id
  drawn hl := hlabel _ _ ▸ hl

end Sheds

namespace SfuManager

variable {sfu : SfuManager} {w : Worker}

lemma label_createWebrtcTransport (r p : String) (d : TransportDirection) (q id : String) :
    (sfu.createWebrtcTransport r p d w).1.label q id = sfu.label q id := by
  have hlabel := sfu.label_ensureRouter w r q id
  rw [createWebrtcTransport]
  split <;> rename_i he <;> rw [he] at hlabel
  · exact hlabel
  · exact hlabel
  · split
    · exact hlabel
    · exact hlabel
    · rw [label_setPeer]
      exact hlabel

lemma createWebrtcTransport_sheds (r p : String) (d : TransportDirection) :
    Sheds sfu (sfu.createWebrtcTransport r p d w).1 := by
  by_cases ht : ∃ t, (sfu.createWebrtcTransport r p d w).2 = .ok t
  · obtain ⟨t, ht⟩ := ht
    apply Sheds.of_puts (createWebrtcTransport_ok sfu w (Prod.ext rfl ht))
    · intro h
      exact h.pushTransport d t.transportId
    · cases d <;> rfl
    · exact label_createWebrtcTransport r p d
  · have hpeer := sfu.createWebrtcTransport_failed w r p d fun t h => ht ⟨t, h⟩
    constructor
    · intro q x e he
      rw [hpeer] at he
      rw [he]
      exact ⟨id, fun _ hx => hx⟩
    · intro q x e id _
      exact label_createWebrtcTransport r p d q id
    · intro q id l hl
      rwa [label_createWebrtcTransport] at hl

lemma createConsumer_setPeer {r p x : String} {t : Option String} {sfu' : SfuManager}
    {a : String × MediaKind × JsonValue} (h : sfu.createConsumer r p x t w = .ok (sfu', a)) :
    ∃ f, sfu' = sfu.setPeer r p f := by
  rw [createConsumer] at h
  obtain ⟨_, _, h⟩ := bind_eq_ok.1 h
  split at h
  · cases h
  · split at h
    · cases h
    · obtain ⟨_, _, h⟩ := bind_eq_ok.1 h
      split at h
      · cases h
      · obtain ⟨_, _, h⟩ := bind_eq_ok.1 h
        cases h
        exact ⟨_, rfl⟩

lemma createDataConsumer_setPeer {r p x : String} {t : Option String} {sfu' : SfuManager}
    {a : DataConsumeResult} (h : sfu.createDataConsumer r p x t w = .ok (sfu', a)) :
    ∃ f, sfu' = sfu.setPeer r p f := by
  rw [createDataConsumer] at h
  split at h
  · cases h
  · split at h
    · cases h
    · obtain ⟨_, _, h⟩ := bind_eq_ok.1 h
      split at h
      · cases h
      · obtain ⟨_, _, h⟩ := bind_eq_ok.1 h
        cases h
        exact ⟨_, rfl⟩

lemma createDataProducer_setPeer {r p l q id : String} {c : Option SctpStreamParameters}
    {t : Option String} {sfu' : SfuManager}
    (h : sfu.createDataProducer r p l q c t w = .ok (sfu', id)) : ∃ f, sfu' = sfu.setPeer r p f := by
  rw [createDataProducer] at h
  split_ifs at h
  · cases h
  · obtain ⟨_, _, h⟩ := bind_eq_ok.1 h
    split at h
    · cases h
    · obtain ⟨_, _, h⟩ := bind_eq_ok.1 h
      cases h
      exact ⟨_, rfl⟩

lemma createConsumer_sheds (r p x : String) (t : Option String) :
    Sheds sfu (sfu.orSame (sfu.createConsumer r p x t w)) := by
  cases h : sfu.createConsumer r p x t w with
  | error e => exact Sheds.refl sfu
  | ok a =>
    obtain ⟨sfu', id, kind, rtp⟩ := a
    obtain ⟨e, he, hputs⟩ := createConsumer_ok sfu w h
    obtain ⟨f, rfl⟩ := createConsumer_setPeer h
    apply Sheds.of_puts hputs
    · rw [he]
      exact fun hkeys => ⟨hkeys.media, hkeys.data⟩
    · rw [he]
      rfl
    · exact fun q id => label_setPeer sfu r p q id f

lemma createDataConsumer_sheds (r p x : String) (t : Option String) :
    Sheds sfu (sfu.orSame (sfu.createDataConsumer r p x t w)) := by
  cases h : sfu.createDataConsumer r p x t w with
  | error e => exact Sheds.refl sfu
  | ok a =>
    obtain ⟨sfu', d⟩ := a
    obtain ⟨e, he, hputs⟩ := createDataConsumer_ok sfu w h
    obtain ⟨f, rfl⟩ := createDataConsumer_setPeer h
    apply Sheds.of_puts hputs
    · rw [he]
      exact fun hkeys => ⟨hkeys.media, hkeys.data⟩
    · rw [he]
      rfl
    · exact fun q id => label_setPeer sfu r p q id f

lemma createDataProducer_sheds (r p l q : String) (c : Option SctpStreamParameters)
    (t : Option String) : Sheds sfu (sfu.orSame (sfu.createDataProducer r p l q c t w)) := by
  cases h : sfu.createDataProducer r p l q c t w with
  | error e => exact Sheds.refl sfu
  | ok a =>
    obtain ⟨sfu', id⟩ := a
    obtain ⟨-, -, e, u, he, -, hputs⟩ := createDataProducer_ok sfu w h
    obtain ⟨f, rfl⟩ := createDataProducer_setPeer h
    apply Sheds.of_puts hputs
    · rw [he]
      exact fun hkeys => hkeys.produceData id u l q
    · rw [he]
      rfl
    · exact fun q id => label_setPeer sfu r p q id f

lemma removeRoom_sheds (r : String) : Sheds sfu (sfu.removeRoom r) := by
  apply Sheds.of_rooms
  intro q room hroom
  exact ⟨room, FiniteMap.get_of_remove hroom, rfl, fun p e he => ⟨e, he, id, fun _ hx => hx⟩⟩

lemma leave_sheds {r p : String} {room : SfuRoom} (hroom : sfu.get r = some room) :
    Sheds sfu (sfu.set r { room with peers := room.peers.remove p }) := by
  apply Sheds.of_rooms
  intro q room' hroom'
  rw [FiniteMap.get_set] at hroom'
  split_ifs at hroom' with hq
  · cases hroom'
    subst hq
    exact ⟨room, hroom, rfl, fun x e he => ⟨e, FiniteMap.get_of_remove he, id, fun _ hx => hx⟩⟩
  · exact ⟨room', hroom', rfl, fun x e he => ⟨e, he, id, fun _ hx => hx⟩⟩

lemma removePeerInRoom_sheds (r p : String) : Sheds sfu (sfu.removePeerInRoom r p).1 := by
  rw [removePeerInRoom]
  split
  · exact Sheds.refl sfu
  · rename_i room hroom
    split
    · exact Sheds.refl sfu
    · dsimp only
      split_ifs
      · exact removeRoom_sheds r
      · exact leave_sheds hroom

lemma removePeer_sheds (r p : String) : Sheds sfu (sfu.removePeer r p).1 := by
  rw [removePeer]
  split
  · exact Sheds.refl sfu
  · rename_i room hroom
    dsimp only
    split_ifs
    · exact removeRoom_sheds r
    · exact leave_sheds hroom
    · exact Sheds.refl sfu

lemma removePeerGlobal_sheds (p : String) : Sheds sfu (sfu.removePeerGlobal p).1 := by
  apply Sheds.of_rooms
  intro r room' hroom'
  rw [removePeerGlobal, FiniteMap.get_mapValues, Option.map_eq_some_iff] at hroom'
  obtain ⟨room, hroom, rfl⟩ := hroom'
  rw [FiniteMap.get_retain, Option.filter_eq_some_iff] at hroom
  exact ⟨room, hroom.1, rfl, fun x e he => ⟨e, FiniteMap.get_of_remove he, id, fun _ hx => hx⟩⟩

lemma removeProducersByIds_sheds (ids : List String) :
    Sheds sfu (sfu.removeProducersByIds ids).1 := by
  apply Sheds.of_rooms
  intro r room' hroom'
  rw [removeProducersByIds, FiniteMap.get_mapValues, Option.map_eq_some_iff] at hroom'
  obtain ⟨room, hroom, rfl⟩ := hroom'
  refine ⟨room, hroom, rfl, ?_⟩
  intro p e' he'
  rw [FiniteMap.get_mapValues, Option.map_eq_some_iff] at he'
  obtain ⟨e, he, rfl⟩ := he'
  exact ⟨e, he, fun h => h.strip ids _, fun _ hx => (List.mem_filter.mp hx).1⟩

lemma label_record {r : String} {room : SfuRoom} (hroom : sfu.get r = some room)
    (id l q j : String) :
    label (sfu.adjust r (fun x => { x with producerLabels := x.producerLabels.set id l })) q j =
      if q = r ∧ j = id then some l else sfu.label q j := by
  rw [label, FiniteMap.get_adjust, label]
  by_cases hq : q = r
  · subst hq
    rw [hroom, if_pos rfl, Option.map_some, Option.bind_some, FiniteMap.get_set]
    simp
  · simp [hq]

lemma createProducer_makes {r p id : String} {kind : MediaKind} {t l : Option String}
    {sfu' : SfuManager} (h : sfu.createProducer r p kind t l w = .ok (sfu', id)) (q j : String) :
    sfu'.label q j = if q = r ∧ j = id then l.or (sfu.label q j) else sfu.label q j := by
  rw [createProducer] at h
  obtain ⟨_, _, h⟩ := bind_eq_ok.1 h
  split_ifs at h
  · cases h
  · obtain ⟨e, he, h⟩ := bind_eq_ok.1 h
    obtain ⟨room, hroom, -⟩ := peer_eq_some.1 (lookupPeer_ok he)
    split at h
    · cases h
    · obtain ⟨_, _, h⟩ := bind_eq_ok.1 h
      dsimp only at h
      split at h
      · cases h
        rw [label_setPeer, Option.none_or, ite_self]
      · rename_i l'
        cases h
        rw [label_record (by rw [setPeer, FiniteMap.get_adjust, if_pos rfl, hroom]; rfl),
          label_setPeer, Option.some_or]

/-- A media producer of this id and label is made in the room. -/
def Makes (r id : String) (l : Option String) (sfu : SfuManager) (a : SfuOp) : Prop :=
  ∃ p kind t w sfu', a = .createProducer r p kind t l w ∧
    sfu.createProducer r p kind t l w = .ok (sfu', id)

lemma step_cases (sfu : SfuManager) (a : SfuOp) : Sheds sfu (sfu.step a) ∨
    ∃ r p kind t l w id, a = .createProducer r p kind t l w ∧
      sfu.createProducer r p kind t l w = .ok (sfu.step a, id) := by
  cases a with
  | createWebrtcTransport r p d w => exact Or.inl (createWebrtcTransport_sheds r p d)
  | createProducer r p kind t l w =>
    rw [step]
    cases h : sfu.createProducer r p kind t l w with
    | error e => exact Or.inl (Sheds.refl sfu)
    | ok b => exact Or.inr ⟨r, p, kind, t, l, w, b.2, rfl, h⟩
  | createConsumer r p x t w => exact Or.inl (createConsumer_sheds r p x t)
  | createDataProducer r p l q c t w => exact Or.inl (createDataProducer_sheds r p l q c t)
  | createDataConsumer r p x t w => exact Or.inl (createDataConsumer_sheds r p x t)
  | removePeer r p => exact Or.inl (removePeer_sheds r p)
  | removePeerGlobal p => exact Or.inl (removePeerGlobal_sheds p)
  | removePeerInRoom r p => exact Or.inl (removePeerInRoom_sheds r p)
  | removeProducersByIds ids => exact Or.inl (removeProducersByIds_sheds ids)
  | removeRoom r => exact Or.inl (removeRoom_sheds r)

def KeysHold (sfu : SfuManager) : Prop := ∀ r p e, sfu.peer r p = some e → e.KeysExact

lemma KeysHold.getD (h : sfu.KeysHold) (r p : String) :
    ((sfu.peer r p).getD SfuPeer.empty).KeysExact := by
  cases he : sfu.peer r p with
  | none => exact SfuPeer.KeysExact.empty
  | some e => exact h r p e he

lemma step_keysHold (h : sfu.KeysHold) (a : SfuOp) : (sfu.step a).KeysHold := by
  intro r p e he
  rcases step_cases sfu a with hsheds | ⟨q, x, kind, t, l, w, id, -, hmade⟩
  · exact (hsheds.entry he).1 (h.getD r p)
  · obtain ⟨-, e₀, u, he₀, hputs⟩ := createProducer_ok sfu w hmade
    rw [hputs r p] at he
    split_ifs at he with hrp
    · cases he
      exact (h q x e₀ he₀).produce id u kind
    · exact h r p e he

/-- Every label stems from an id that the worker gave out, and the label of a live producer is
the one it was made with. -/
structure Labelled (acts : List SfuOp) (sfu : SfuManager) : Prop where
  issued : ∀ {r id l}, sfu.label r id = some l → id ∈ acts.filterMap SfuOp.produced
  live : ∀ {r p e x}, sfu.peer r p = some e → x ∈ e.producers →
    ∃ l, Happened step (Makes r x.id l) (∅ : SfuManager) acts ∧ sfu.label r x.id = l

lemma issued_of_makes {r id : String} {l : Option String} {acts : List SfuOp}
    (h : Happened step (Makes r id l) (∅ : SfuManager) acts) :
    id ∈ acts.filterMap SfuOp.produced := by
  obtain ⟨as, _, bs, rfl, p, kind, t, w, sfu', rfl, hmade⟩ := h
  obtain ⟨hid, -⟩ := createProducer_ok _ w hmade
  apply List.mem_filterMap.mpr
  refine ⟨.createProducer r p kind t l w, by simp, ?_⟩
  rw [SfuOp.produced, hid]
  rfl

lemma Labelled.of_sheds {acts : List SfuOp} {sfu' : SfuManager} (h : Labelled acts sfu)
    (hsheds : Sheds sfu sfu') (a : SfuOp) : Labelled (acts ++ [a]) sfu' where
  issued hl := by
    rw [List.filterMap_append]
    exact List.mem_append_left _ (h.issued (hsheds.drawn hl))
  live {r p e x} he hx := by
    have hx₀ := (hsheds.entry he).2 hx
    cases he₀ : sfu.peer r p with
    | none =>
      rw [he₀] at hx₀
      cases hx₀
    | some e₀ =>
      rw [he₀] at hx₀
      obtain ⟨l, hmade, hl⟩ := h.live he₀ hx₀
      exact ⟨l, hmade.snoc a, (hsheds.label x.id he).trans hl⟩

lemma Labelled.make {acts : List SfuOp} (h : Labelled acts (run step ∅ acts))
    {r p id : String} {kind : MediaKind} {t l : Option String} {w : Worker} {sfu' : SfuManager}
    (hmade : (run step ∅ acts).createProducer r p kind t l w = .ok (sfu', id))
    (hnew : id ∉ acts.filterMap SfuOp.produced) :
    Labelled (acts ++ [.createProducer r p kind t l w]) sfu' := by
  obtain ⟨hid, e₀, u, he₀, hputs⟩ := createProducer_ok _ w hmade
  have hlabel := createProducer_makes hmade
  have hold : ∀ {q x e y}, (run step ∅ acts).peer q x = some e → y ∈ e.producers →
      ∃ l', Happened step (Makes q y.id l') ∅ (acts ++ [.createProducer r p kind t l w]) ∧
        sfu'.label q y.id = l' := by
    intro q x e y he hy
    obtain ⟨l', hmakes, hl'⟩ := h.live he hy
    have hne : y.id ≠ id := fun hy => hnew (hy ▸ issued_of_makes hmakes)
    refine ⟨l', hmakes.snoc _, ?_⟩
    rw [hlabel, if_neg fun hq => hne hq.2, hl']
  constructor
  · intro q j l' hl'
    rw [List.filterMap_append, List.mem_append]
    rw [hlabel] at hl'
    split_ifs at hl' with hq
    · right
      rw [hq.2]
      simp [SfuOp.produced, hid, Except.toOption]
    · exact Or.inl (h.issued hl')
  · intro q x e y he hy
    rw [hputs q x] at he
    split_ifs at he with hqx
    · cases he
      rcases List.mem_append.mp hy with hy | hy
      · rw [hqx.1]
        exact hold he₀ hy
      · cases List.mem_singleton.mp hy
        refine ⟨l, happened_last ⟨p, kind, t, w, sfu', ?_, ?_⟩, ?_⟩
        · rw [hqx.1]
        · rw [hqx.1]
          exact hmade
        · have hnone : (run step ∅ acts).label q id = none := by
            rw [Option.eq_none_iff_forall_ne_some]
            exact fun l' hl' => hnew (h.issued hl')
          rw [hlabel, if_pos ⟨hqx.1, rfl⟩, hnone, Option.or_none]
    · exact hold he hy

lemma run_labelled {acts : List SfuOp} (hids : (acts.filterMap SfuOp.produced).Nodup) :
    Labelled acts (run step ∅ acts) := by
  induction acts using List.reverseRecOn with
  | nil =>
    constructor
    · intro r id l hl
      cases hl
    · intro r p e x he
      cases he
  | append_singleton as a ih =>
    rw [List.filterMap_append, List.nodup_append] at hids
    rw [run_snoc]
    have h := ih hids.1
    rcases step_cases (run step ∅ as) a with hsheds | ⟨r, p, kind, t, l, w, id, rfl, hmade⟩
    · exact h.of_sheds hsheds a
    · apply h.make hmade
      intro hid
      obtain ⟨hw, -⟩ := createProducer_ok _ w hmade
      exact hids.2.2 id hid id (by simp [SfuOp.produced, hw, Except.toOption]) rfl

/-- In every run from the empty manager the transport maps of each peer are keyed by its live
producers, and a live media producer has in its room the label it was made with or, made without
one, none. -/
theorem run_keys (acts : List SfuOp) (r p : String) (e : SfuPeer)
    (he : (run step ∅ acts).peer r p = some e) :
    (∀ id, e.producerTransports.contains id = true ↔ ∃ x ∈ e.producers, x.id = id) ∧
      (∀ id, e.dataProducerTransports.contains id = true ↔ ∃ x ∈ e.dataProducers, x.id = id) ∧
      ((acts.filterMap SfuOp.produced).Nodup → ∀ x ∈ e.producers, ∃ l,
        Happened step (Makes r x.id l) ∅ acts ∧ (run step ∅ acts).label r x.id = l) := by
  have hkeys : (run step ∅ acts).KeysHold := by
    apply run_preserves (I := KeysHold)
    · intro q x e he
      cases he
    · exact fun t a ht => step_keysHold ht a
  obtain ⟨hmedia, hdata⟩ := hkeys r p e he
  refine ⟨hmedia, hdata, ?_⟩
  intro hids x hx
  exact (run_labelled hids).live he hx

def opening : List SfuOp :=
  [.createWebrtcTransport "r" "p" .send (willing "t"),
    .createProducer "r" "p" .video none (some "front") (willing "v"),
    .createProducer "r" "p" .audio none none (willing "a"),
    .createDataProducer "r" "p" "control" "json" (some ⟨0, true, none, none⟩) none (willing "d"),
    .removeProducersByIds ["v"]]

theorem run_keys_opening :
    ∃ e, (run step ∅ opening).peer "r" "p" = some e ∧
      (∀ id, e.producerTransports.contains id = true ↔ ∃ x ∈ e.producers, x.id = id) ∧
      ∀ x ∈ e.producers, ∃ l, Happened step (Makes "r" x.id l) ∅ opening ∧
        (run step ∅ opening).label "r" x.id = l :=
  ⟨_, rfl, (run_keys opening "r" "p" _ rfl).1,
    (run_keys opening "r" "p" _ rfl).2.2 (by decide)⟩

/-- A producer made without a label is live and has no key among the labels of its room. -/
theorem labels_not_exact : ¬ ∀ acts r room, (run step ∅ acts).get r = some room →
    ∀ id, room.producerLabels.contains id = true ↔
      ∃ p e, room.peers.get p = some e ∧ ∃ x ∈ e.producers, x.id = id := by
  intro h
  have hlive : ∃ p e, FiniteMap.get (((run step ∅ opening).get "r").get rfl).peers p = some e ∧
      ∃ x ∈ e.producers, x.id = "a" :=
    ⟨"p", _, rfl, ⟨"a", .audio⟩, List.mem_singleton_self _, rfl⟩
  have hkey := (h opening "r" _ rfl "a").2 hlive
  cases hkey

end SfuManager

end MediaServo.Server
