import MediaServo.Server.Admin
import MediaServo.ServerProofs.Announcements
import MediaServo.ServerProofs.Departures
import MediaServo.ServerProofs.Orphans
import MediaServo.ServerProofs.SfuGates

/-! What the SFU keeps when everybody has gone. An SFU room is accounted for while a session of
its room is there, or while every peer in it is the peer of a session; a cleanup finds nothing
else. -/

namespace MediaServo.Server

open MediaServo.Foundations MediaServo.Common SignalingServer

def Anchored (attended used : String → Prop) (sfu : SfuManager) : Prop :=
  ∀ r, sfu.contains r = true → attended r ∨
    ((∃ x e, sfu.peer r x = some e) ∧ ∀ x e, sfu.peer r x = some e → used x)

structure Dwindles (sfu sfu' : SfuManager) : Prop where
  room : ∀ {r}, sfu'.contains r = true → sfu.contains r = true
  peer : ∀ {r x e}, sfu'.peer r x = some e → ∃ e', sfu.peer r x = some e'
  last : ∀ {r}, sfu'.contains r = true → (∃ x e, sfu.peer r x = some e) →
    ∃ x e, sfu'.peer r x = some e

namespace Dwindles

variable {sfu sfu' sfu'' : SfuManager}

lemma refl (sfu : SfuManager) : Dwindles sfu sfu := ⟨id, fun h => ⟨_, h⟩, fun _ h => h⟩

lemma trans (h : Dwindles sfu sfu') (k : Dwindles sfu' sfu'') : Dwindles sfu sfu'' where
  room hr := h.room (k.room hr)
  peer hx := by
    obtain ⟨e, he⟩ := k.peer hx
    exact h.peer he
  last hr hx := k.last hr (h.last (k.room hr) hx)

lemma of_shape (hroom : ∀ r, sfu'.contains r = sfu.contains r)
    (hpeer : ∀ r x, (sfu'.peer r x).isSome = (sfu.peer r x).isSome) : Dwindles sfu sfu' where
  room {r} hr := hroom r ▸ hr
  peer {r x e} hx := by
    rw [← Option.isSome_iff_exists, ← hpeer, hx]
    rfl
  last {r} _ hx := by
    obtain ⟨x, e, he⟩ := hx
    refine ⟨x, ?_⟩
    rw [← Option.isSome_iff_exists, hpeer, he]
    rfl

end Dwindles

namespace SfuManager

variable (sfu : SfuManager)

lemma contains_setPeer (roomId peerId r : String) (f : SfuPeer → SfuPeer) :
    (sfu.setPeer roomId peerId f).contains r = sfu.contains r := by
  rw [FiniteMap.contains, setPeer, FiniteMap.get_adjust, FiniteMap.contains]
  split_ifs
  · cases sfu.get r <;> rfl
  · rfl

lemma contains_adjust (roomId r : String) (f : SfuRoom → SfuRoom) :
    (sfu.adjust roomId f).contains r = sfu.contains r := by
  rw [FiniteMap.contains, FiniteMap.get_adjust, FiniteMap.contains]
  split_ifs
  · cases sfu.get r <;> rfl
  · rfl

lemma setPeer_dwindles {roomId peerId : String} {e : SfuPeer} (h : sfu.peer roomId peerId = some e)
    (f : SfuPeer → SfuPeer) : Dwindles sfu (sfu.setPeer roomId peerId f) := by
  apply Dwindles.of_shape (sfu.contains_setPeer roomId peerId · f)
  intro r x
  rw [setPeer_puts h f r x]
  split_ifs with hx
  · obtain ⟨rfl, rfl⟩ := hx
    rw [h]
    rfl
  · rfl

lemma labels_dwindles (roomId : String) (f : SfuRoom → FiniteMap String String) :
    Dwindles sfu (sfu.adjust roomId (fun x => { x with producerLabels := f x })) := by
  apply Dwindles.of_shape
  · intro r
    exact sfu.contains_adjust roomId r _
  · intro r x
    rw [peer_adjust_labels]

lemma contains_removePeerGlobal {p r : String} (h : (sfu.removePeerGlobal p).1.contains r = true) :
    ∃ room, sfu.get r = some room ∧
      (room.peers.contains p = true → (room.peers.remove p).size ≠ 0) := by
  obtain ⟨room', hroom'⟩ := (FiniteMap.contains_iff _ _).mp h
  rw [removePeerGlobal, FiniteMap.get_mapValues, FiniteMap.get_retain] at hroom'
  cases hr : sfu.get r with
  | none =>
    rw [hr] at hroom'
    cases hroom'
  | some room =>
    refine ⟨room, rfl, ?_⟩
    intro hp hs
    rw [hr] at hroom'
    simp [Option.filter, hp, hs] at hroom'

lemma removePeerGlobal_dwindles (p : String) : Dwindles sfu (sfu.removePeerGlobal p).1 where
  room {r} hr := by
    obtain ⟨room, hroom, _⟩ := sfu.contains_removePeerGlobal hr
    exact (FiniteMap.contains_iff _ _).mpr ⟨room, hroom⟩
  peer {r x e} hx := by
    rw [peer_removePeerGlobal] at hx
    split_ifs at hx
    exact ⟨e, hx⟩
  last {r} hr hx := by
    obtain ⟨room, hroom, hleft⟩ := sfu.contains_removePeerGlobal hr
    by_cases hother : ∃ y e, y ≠ p ∧ sfu.peer r y = some e
    · obtain ⟨y, e, hy, he⟩ := hother
      exact ⟨y, e, by rw [peer_removePeerGlobal, if_neg hy, he]⟩
    · exfalso
      have hpeer : ∀ y, sfu.peer r y = room.peers.get y := by
        intro y
        rw [peer, hroom]
        rfl
      have hnone : ∀ y, y ≠ p → room.peers.get y = none := by
        intro y hy
        by_contra hne
        obtain ⟨e, he⟩ := Option.ne_none_iff_exists'.mp hne
        exact hother ⟨y, e, hy, by rw [hpeer, he]⟩
      obtain ⟨x, e, he⟩ := hx
      rw [hpeer] at he
      have hx : x = p := by
        by_contra hx
        rw [hnone x hx] at he
        cases he
      subst hx
      refine hleft ((FiniteMap.contains_iff _ _).mpr ⟨e, he⟩) (FiniteMap.size_eq_zero _ ?_)
      intro y
      rw [FiniteMap.get_remove]
      split_ifs with hy
      · rfl
      · exact hnone y hy

lemma removeProducersByIds_dwindles (ids : List String) :
    Dwindles sfu (sfu.removeProducersByIds ids).1 := by
  apply Dwindles.of_shape
  · intro r
    rw [FiniteMap.contains, removeProducersByIds, FiniteMap.get_mapValues, Option.isSome_map,
      FiniteMap.contains]
  · intro r x
    rw [peer_removeProducersByIds, Option.isSome_map]

lemma removeRoom_dwindles (roomId : String) : Dwindles sfu (sfu.removeRoom roomId) := by
  have hne : ∀ {r}, (sfu.removeRoom roomId).contains r = true → r ≠ roomId := by
    rintro r hr rfl
    simp [FiniteMap.contains, removeRoom] at hr
  refine ⟨fun {r} hr => ?_, fun {r x e} hx => ?_, fun {r} hr hx => ?_⟩
  · have hn := hne hr
    rwa [FiniteMap.contains, removeRoom, FiniteMap.get_remove_ne _ hn] at hr
  · rw [peer_removeRoom] at hx
    split_ifs at hx
    exact ⟨e, hx⟩
  · obtain ⟨x, e, he⟩ := hx
    exact ⟨x, e, by rw [peer_removeRoom, if_neg (hne hr), he]⟩

lemma removePeerInRoom_dwindles (roomId p : String) :
    Dwindles sfu (sfu.removePeerInRoom roomId p).1 := by
  have hpeer := sfu.peer_removePeerInRoom roomId p
  rw [removePeerInRoom] at hpeer ⊢
  cases hr : sfu.get roomId with
  | none => exact Dwindles.refl sfu
  | some room =>
    simp only [hr] at hpeer ⊢
    cases hp : room.peers.get p with
    | none => exact Dwindles.refl sfu
    | some e =>
      simp only [hp] at hpeer ⊢
      split_ifs at hpeer ⊢ with hs
      · exact sfu.removeRoom_dwindles roomId
      · refine ⟨fun {r} h => ?_, fun {r x e'} hx => ?_, fun {r} h hx => ?_⟩
        · rw [FiniteMap.contains, FiniteMap.get_set] at h
          split_ifs at h with hroom
          · rw [FiniteMap.contains, hroom, hr]
            rfl
          · exact h
        · rw [hpeer] at hx
          split_ifs at hx
          exact ⟨e', hx⟩
        · by_cases hroom : r = roomId
          · subst hroom
            have hleft : ∃ y v, (room.peers.remove p).get y = some v := by
              by_contra hno
              apply hs
              rw [beq_iff_eq]
              apply FiniteMap.size_eq_zero
              intro y
              rw [Option.eq_none_iff_forall_ne_some]
              intro v hv
              exact hno ⟨y, v, hv⟩
            obtain ⟨y, v, hv⟩ := hleft
            refine ⟨y, v, ?_⟩
            rw [peer, FiniteMap.get_set_self]
            exact hv
          · obtain ⟨x, e', he⟩ := hx
            exact ⟨x, e', by rw [hpeer, if_neg (fun h => hroom h.1), he]⟩

section Creates

variable {sfu} {w : Worker} {roomId peerId : String} {transportId : Option String}
  {sfu' : SfuManager}

lemma createProducer_dwindles {kind : MediaKind} {label : Option String} {id : String}
    (h : sfu.createProducer roomId peerId kind transportId label w = .ok (sfu', id)) :
    Dwindles sfu sfu' := by
  rw [createProducer] at h
  obtain ⟨_, _, h⟩ := bind_eq_ok.1 h
  split_ifs at h
  · cases h
  · obtain ⟨e, he, h⟩ := bind_eq_ok.1 h
    have hput := fun f => setPeer_dwindles sfu (lookupPeer_ok he) f
    split at h
    · cases h
    · obtain ⟨x, _, h⟩ := bind_eq_ok.1 h
      dsimp only at h
      split at h
      · cases h
        exact hput _
      · cases h
        exact (hput _).trans (labels_dwindles _ roomId _)

lemma createConsumer_dwindles {producerId : String} {x : String × MediaKind × JsonValue}
    (h : sfu.createConsumer roomId peerId producerId transportId w = .ok (sfu', x)) :
    Dwindles sfu sfu' := by
  rw [createConsumer] at h
  obtain ⟨_, _, h⟩ := bind_eq_ok.1 h
  split at h
  · cases h
  · split at h
    · cases h
    · obtain ⟨e, he, h⟩ := bind_eq_ok.1 h
      split at h
      · cases h
      · obtain ⟨x, _, h⟩ := bind_eq_ok.1 h
        cases h
        exact setPeer_dwindles sfu (lookupPeer_ok he) _

lemma createDataProducer_dwindles {label protocol id : String} {sctp : Option SctpStreamParameters}
    (h : sfu.createDataProducer roomId peerId label protocol sctp transportId w = .ok (sfu', id)) :
    Dwindles sfu sfu' := by
  rw [createDataProducer] at h
  split_ifs at h
  · cases h
  · obtain ⟨e, he, h⟩ := bind_eq_ok.1 h
    split at h
    · cases h
    · obtain ⟨x, _, h⟩ := bind_eq_ok.1 h
      cases h
      exact setPeer_dwindles sfu (lookupPeer_ok he) _

lemma createDataConsumer_dwindles {dataProducerId : String} {d : DataConsumeResult}
    (h : sfu.createDataConsumer roomId peerId dataProducerId transportId w = .ok (sfu', d)) :
    Dwindles sfu sfu' := by
  rw [createDataConsumer] at h
  split at h
  · cases h
  · split at h
    · cases h
    · obtain ⟨e, he, h⟩ := bind_eq_ok.1 h
      split at h
      · cases h
      · obtain ⟨x, _, h⟩ := bind_eq_ok.1 h
        cases h
        exact setPeer_dwindles sfu (lookupPeer_ok he) _

end Creates

end SfuManager

namespace Anchored

variable {attended used : String → Prop} {sfu sfu' : SfuManager}

lemma mono {attended' used' : String → Prop} (h : Anchored attended used sfu)
    (ha : ∀ r, attended r → attended' r) (hu : ∀ x, used x → used' x) :
    Anchored attended' used' sfu := by
  intro r hr
  obtain hat | ⟨hsome, hall⟩ := h r hr
  · exact .inl (ha r hat)
  · exact .inr ⟨hsome, fun x e he => hu x (hall x e he)⟩

lemma dwindles (h : Anchored attended used sfu) (hd : Dwindles sfu sfu') :
    Anchored attended used sfu' := by
  intro r hr
  obtain hat | ⟨hsome, hall⟩ := h r (hd.room hr)
  · exact .inl hat
  · refine .inr ⟨hd.last hr hsome, fun x e he => ?_⟩
    obtain ⟨e', he'⟩ := hd.peer he
    exact hall x e' he'

lemma ensureRouter {w : Worker} {room : String} (h : Anchored attended used sfu)
    (hroom : attended room ∨ sfu.contains room = true ∨ w.router ≠ .ok ()) :
    Anchored attended used (sfu.ensureRouter room w).1 := by
  rw [SfuManager.ensureRouter]
  split
  · exact h
  · rename_i hnone
    split
    · rename_i hok
      intro r hr
      rw [FiniteMap.contains, FiniteMap.get_set] at hr
      split_ifs at hr with hr'
      · subst hr'
        obtain hat | hc | hne := hroom
        · exact .inl hat
        · rw [FiniteMap.contains, hnone] at hc
          cases hc
        · exact absurd hok hne
      · have hsame : ∀ x, SfuManager.peer (sfu.set room ⟨∅, ∅⟩) r x = sfu.peer r x := by
          intro x
          rw [SfuManager.peer, FiniteMap.get_set_ne _ _ hr']
          rfl
        simp only [hsame]
        exact h r hr
    · exact h
    · exact h

lemma of_puts {room x : String} {e : SfuPeer} (h : Anchored attended used sfu)
    (hput : Puts sfu sfu' room x (some e))
    (hcontains : ∀ r, sfu'.contains r = true → sfu.contains r = true ∨ r = room)
    (hx : attended room ∨ used x) : Anchored attended used sfu' := by
  intro r hr
  by_cases hroom : r = room
  · subst hroom
    obtain hat | hx := hx
    · exact .inl hat
    · by_cases hat : attended r
      · exact .inl hat
      · refine .inr ⟨⟨x, e, by rw [hput, if_pos ⟨rfl, rfl⟩]⟩, fun y e' hy => ?_⟩
        rw [hput] at hy
        split_ifs at hy with hxy
        · exact hxy.2 ▸ hx
        · obtain ⟨old, hold, _⟩ := SfuManager.peer_eq_some.1 hy
          obtain ha | ⟨_, hall⟩ := h r ((FiniteMap.contains_iff _ _).mpr ⟨old, hold⟩)
          · exact absurd ha hat
          · exact hall y e' hy
  · have hsame : ∀ y, sfu'.peer r y = sfu.peer r y := by
      intro y
      rw [hput, if_neg (fun hxy => hroom hxy.1)]
    simp only [hsame]
    exact h r ((hcontains r hr).resolve_right hroom)

end Anchored

lemma SfuManager.contains_createWebrtcTransport {sfu : SfuManager} {w : Worker} {room x r : String}
    {d : TransportDirection} (h : (sfu.createWebrtcTransport room x d w).1.contains r = true) :
    sfu.contains r = true ∨ r = room := by
  have hrouter : ∀ r, (sfu.ensureRouter room w).1.contains r = true →
      sfu.contains r = true ∨ r = room := by
    intro r hr
    rw [ensureRouter] at hr
    split at hr
    · exact .inl hr
    · split at hr
      · rw [FiniteMap.contains, FiniteMap.get_set] at hr
        split_ifs at hr with hroom
        · exact .inr hroom
        · exact .inl hr
      · exact .inl hr
      · exact .inl hr
  apply hrouter
  rw [createWebrtcTransport] at h
  split at h <;> rename_i he <;> rw [he]
  · exact h
  · exact h
  · split at h
    · exact h
    · exact h
    · rwa [contains_setPeer] at h

/-- What a message creates in the SFU is accounted for: it goes to a room that is attended, or
to a peer that is in use, and no room is made for nothing. -/
def Accounts (attended used : String → Prop) (sfu : SfuManager) (w : Worker) :
    SignalingMessage → Prop
  | .createWebRtcTransport room x _ =>
      attended room ∨ (sfu.contains room = false ∧ w.router ≠ .ok ()) ∨
        match w.transport with
        | .ok _ => used x
        | _ => sfu.contains room = true
  | .getRouterRtpCapabilities room =>
      attended room ∨ sfu.contains room = true ∨ w.router ≠ .ok ()
  | _ => True

section Messages

variable {attended used : String → Prop} {sfu : SfuManager} {w : Worker}

lemma createWebrtcTransport_cases (room x : String) (d : TransportDirection) :
    (∃ t, w.transport = .ok t ∧ (sfu.contains room = true ∨ w.router = .ok ()) ∧
        (sfu.createWebrtcTransport room x d w).2 = .ok t) ∨
      ((sfu.createWebrtcTransport room x d w).1 = (sfu.ensureRouter room w).1 ∧
        ((∀ t, w.transport ≠ .ok t) ∨ w.router ≠ .ok ())) := by
  cases hr : sfu.get room with
  | some old =>
    have hc : sfu.contains room = true := (FiniteMap.contains_iff _ _).mpr ⟨old, hr⟩
    cases ht : w.transport with
    | ok t =>
      left
      refine ⟨t, rfl, .inl hc, ?_⟩
      simp only [SfuManager.createWebrtcTransport, SfuManager.ensureRouter, hr, ht]
    | failed e =>
      right
      simp [SfuManager.createWebrtcTransport, SfuManager.ensureRouter, hr, ht]
    | elapsed =>
      right
      simp [SfuManager.createWebrtcTransport, SfuManager.ensureRouter, hr, ht]
  | none =>
    cases hw : w.router with
    | ok u =>
      cases ht : w.transport with
      | ok t =>
        left
        refine ⟨t, rfl, .inr rfl, ?_⟩
        simp only [SfuManager.createWebrtcTransport, SfuManager.ensureRouter, hr, hw, ht]
      | failed e =>
        right
        simp [SfuManager.createWebrtcTransport, SfuManager.ensureRouter, hr, hw, ht]
      | elapsed =>
        right
        simp [SfuManager.createWebrtcTransport, SfuManager.ensureRouter, hr, hw, ht]
    | failed e =>
      right
      simp [SfuManager.createWebrtcTransport, SfuManager.ensureRouter, hr, hw]
    | elapsed =>
      right
      simp [SfuManager.createWebrtcTransport, SfuManager.ensureRouter, hr, hw]

lemma createWebrtcTransport_anchored {room x : String} {d : TransportDirection}
    (h : Anchored attended used sfu)
    (ha : Accounts attended used sfu w (.createWebRtcTransport room x d)) :
    Anchored attended used (sfu.createWebrtcTransport room x d w).1 := by
  rw [Accounts] at ha
  obtain ⟨t, ht, hrouter, hok⟩ | ⟨hsame, hfail⟩ := createWebrtcTransport_cases room x d
  · apply h.of_puts (SfuManager.createWebrtcTransport_ok _ w (Prod.ext rfl hok))
      (fun r hr => SfuManager.contains_createWebrtcTransport hr)
    simp only [ht] at ha
    obtain hat | ⟨hno, hne⟩ | hx := ha
    · exact .inl hat
    · rw [hno] at hrouter
      exact absurd (hrouter.resolve_left Bool.false_ne_true) hne
    · exact .inr hx
  · rw [hsame]
    apply h.ensureRouter
    obtain hat | ⟨_, hne⟩ | hold := ha
    · exact .inl hat
    · exact .inr (.inr hne)
    · split at hold
      · rename_i t heq
        exact .inr (.inr (hfail.resolve_left (fun hno => hno t heq)))
      · exact .inr (.inl hold)

lemma routerRtpCapabilities_anchored {room : String} (h : Anchored attended used sfu)
    (ha : Accounts attended used sfu w (.getRouterRtpCapabilities room)) :
    Anchored attended used (sfu.routerRtpCapabilities room w).1 := by
  have hr := h.ensureRouter (w := w) ha
  rw [SfuManager.routerRtpCapabilities]
  split <;> rename_i he <;> rw [he] at hr
  · exact hr
  · exact hr
  · split
    · exact hr
    · exact hr

variable {s : SignalingServer} {c : Session}

lemma handleSfuMessage_anchored (h : Anchored attended used s.sfuManager) {msg : SignalingMessage}
    (ha : Accounts attended used s.sfuManager w msg) :
    Anchored attended used (s.handleSfuMessage c msg w).1.sfuManager := by
  cases msg with
  | createWebRtcTransport roomId peer direction =>
    have ht := createWebrtcTransport_anchored h ha
    rw [handleSfuMessage, handleCreateTransport]
    split <;> rename_i he <;> rw [he] at ht
    · exact ht
    · exact ht
    · exact ht
  | getRouterRtpCapabilities roomId =>
    have hr := routerRtpCapabilities_anchored h ha
    rw [handleSfuMessage, handleRouterCapabilities]
    split <;> rename_i he <;> rw [he] at hr
    · exact hr
    · exact hr
    · exact hr
  | produce roomId peer direction kind rtp transportId label =>
    rw [handleSfuMessage, handleProduce]
    split
    · exact h
    · split
      · exact h
      · rename_i he
        exact h.dwindles (SfuManager.createProducer_dwindles he)
  | consume roomId peer producerId rtp transportId =>
    rw [handleSfuMessage, handleConsume]
    split
    · exact h
    · split
      · exact h
      · rename_i he
        exact h.dwindles (SfuManager.createConsumer_dwindles he)
  | createDataProducer roomId peer direction label protocol sctp transportId =>
    rw [handleSfuMessage, handleCreateDataProducer]
    split
    · exact h
    · split
      · exact h
      · rename_i he
        exact h.dwindles (SfuManager.createDataProducer_dwindles he)
  | consumeData roomId peer direction dataProducerId transportId =>
    rw [handleSfuMessage, handleConsumeData]
    split_ifs
    · exact h
    · split
      · exact h
      · split
        · exact h
        · rename_i he
          exact h.dwindles (SfuManager.createDataConsumer_dwindles he)
  | downstreamGone gonePeer roomId =>
    rw [handleSfuMessage, handleDownstreamGone]
    split
    · exact h
    · rw [announceProducersClosed_sfu]
      exact h.dwindles (s.sfuManager.removePeerInRoom_dwindles roomId gonePeer)
  | connectWebRtcTransport roomId peer transportId dtls =>
    rw [handleSfuMessage, handleConnectTransport_fst]
    exact h
  | setPreferredLayers roomId peer consumerId spatial temporal =>
    rw [handleSfuMessage, handlePreferredLayers_fst]
    exact h
  | sfuStatsRequest producerId consumerId =>
    rw [handleSfuMessage, handleStatsRequest_fst]
    exact h
  | _ => exact h

lemma relayMessage_anchored (h : Anchored attended used s.sfuManager) {msg : SignalingMessage}
    (ha : Accounts attended used s.sfuManager w msg) :
    Anchored attended used (s.relayMessage c msg w).server.sfuManager := by
  have hother : Anchored attended used (s.sfuOrRelay c msg w).server.sfuManager := by
    rw [sfuOrRelay_sfu]
    exact handleSfuMessage_anchored h ha
  cases msg with
  | roomLeave => exact h
  | statusReport =>
    rw [relayMessage, handleStatusReport]
    split
    · exact h
    · dsimp only
      rw [storeReport_sfu]
      exact h
  | emergencyCommand =>
    rw [relayMessage, handleEmergency]
    split
    · exact h
    · exact h
  | configPush => exact h
  | _ => exact hother

lemma handleAdminSfu_anchored {sfu : SfuManager} (h : Anchored attended used sfu)
    {msg : SignalingMessage} (ha : Accounts attended used sfu w msg) :
    Anchored attended used (handleAdminSfu sfu msg w).1 := by
  cases msg with
  | createWebRtcTransport roomId peer direction =>
    have ht := createWebrtcTransport_anchored h ha
    rw [handleAdminSfu]
    split <;> rename_i he <;> rw [he] at ht
    · exact ht
    · exact ht
    · exact ht
  | connectWebRtcTransport roomId peer transportId dtls =>
    rw [handleAdminSfu]
    split
    · exact h
    · exact h
  | consume roomId peer producerId rtp transportId =>
    rw [handleAdminSfu]
    split
    · rename_i he
      exact h.dwindles (SfuManager.createConsumer_dwindles he)
    · exact h
  | _ => exact h

end Messages

section Cleanup

variable {s : SignalingServer} {p room : String}

lemma reclaim_dwindles (s : SignalingServer) (peerId owner : String) (device : Option String) :
    Dwindles s.sfuManager (s.reclaim peerId owner device).sfuManager := by
  rw [reclaim]
  split_ifs
  · exact Dwindles.refl _
  · rw [announceRooms_sfu]
    exact s.sfuManager.removeProducersByIds_dwindles _

lemma reclaimed_dwindles (s : SignalingServer) (p : String) :
    Dwindles (s.cleanupGlobal p).sfuManager (s.cleaned p).sfuManager := by
  refine (reclaim_dwindles _ p (sessionKey p) none).trans ?_
  rw [cleaned, reclaimDevice]
  split
  · exact reclaim_dwindles _ _ _ _
  · exact Dwindles.refl _

lemma cleaned_dwindles (s : SignalingServer) (p : String) :
    Dwindles s.sfuManager (s.cleaned p).sfuManager := by
  refine Dwindles.trans ?_ (reclaimed_dwindles s p)
  rw [cleanupGlobal, announceRooms_sfu]
  exact s.sfuManager.removePeerGlobal_dwindles p

lemma ne_of_cleaned {r y : String} {e : SfuPeer}
    (h : (s.cleaned p).sfuManager.peer r y = some e) : y ≠ p := by
  obtain ⟨e', he⟩ := (reclaimed_dwindles s p).peer h
  rw [cleanupGlobal_peer] at he
  split_ifs at he with hy
  exact hy

lemma departed_anchored {attended used attended' used' : String → Prop}
    (h : Anchored attended used s.sfuManager) (hu : s.sfuManager.UniqueIds)
    (hat : ∀ r, attended r → attended' r ∨ r = room) (hus : ∀ x, used x → used' x ∨ x = p)
    (hmember : ¬attended' room → ∀ q, s.roomManager.Member room q → q = p)
    (hstay : ¬attended' room → ¬EmptiesRoom s p room → ∀ y e, y ≠ p →
      s.sfuManager.peer room y = some e → used' y) :
    Anchored attended' used' (s.disconnectSession p room).sfuManager := by
  have hd := cleaned_dwindles s p
  have hcl : Cleaned s (s.cleaned p) p := cleaned_cleaned hu
  have hother : ∀ r, r ≠ room → (s.cleaned p).sfuManager.contains r = true → attended' r ∨
      ((∃ x e, (s.cleaned p).sfuManager.peer r x = some e) ∧
        ∀ x e, (s.cleaned p).sfuManager.peer r x = some e → used' x) := by
    intro r hr hc
    obtain ha | ⟨hsome, hall⟩ := h r (hd.room hc)
    · exact .inl ((hat r ha).resolve_right hr)
    · refine .inr ⟨hd.last hc hsome, fun x e he => ?_⟩
      obtain ⟨e', he'⟩ := hd.peer he
      exact (hus x (hall x e' he')).resolve_right (ne_of_cleaned he)
  rw [disconnectSession_sfu]
  split_ifs with htear
  · intro r hr
    have hne : r ≠ room := by
      rintro rfl
      simp [FiniteMap.contains, SfuManager.removeRoom] at hr
    have hsame : ∀ x, ((s.cleaned p).sfuManager.removeRoom room).peer r x =
        (s.cleaned p).sfuManager.peer r x := by
      intro x
      rw [SfuManager.peer_removeRoom, if_neg hne]
    simp only [hsame]
    exact hother r hne (((s.cleaned p).sfuManager.removeRoom_dwindles room).room hr)
  · intro r hr
    by_cases hne : r = room
    · subst hne
      rw [emptiesRoom_iff hcl] at htear
      by_cases ha : attended' r
      · exact .inl ha
      · refine .inr ⟨?_, fun y e he => ?_⟩
        · -- The room was not torn down, so a producer of another peer survived in it.
          by_contra hno
          apply htear
          refine ⟨hmember ha, fun q x hq hx => ?_⟩
          by_contra hdoomed
          have hx' := hcl.media.mpr ⟨hx, hq, hdoomed⟩
          cases hp : (s.cleaned p).sfuManager.peer r q with
          | none =>
            rw [SfuManager.mediaAt_of_none hp] at hx'
            cases hx'
          | some e => exact hno ⟨q, e, hp⟩
        · obtain ⟨e', he'⟩ := hd.peer he
          exact hstay ha htear y e' (ne_of_cleaned he) he'
    · exact hother r hne hr

end Cleanup

section Sessions

variable {sys : System} {a : Action} {p r : String}

lemma Kept.join {q : JoinRequest} {nonce : String} (hi : OrphanInv sys)
    (hc : HoldsSurvive sys (.join q nonce)) (hk : Kept sys p r) :
    Kept (sys.join q nonce) p r ∨ sys.disconnecting (.join q nonce) = some (p, r) := by
  have hs := sys.server.roomJoin_step q nonce
  have ht := sys.server.roomJoin_table q nonce
  have hsub : ∀ (c : Conn), ∀ x ∈ sys.sessions, x ∈ c :: sys.sessions :=
    fun c x hx => List.mem_cons_of_mem c hx
  rw [System.join]
  generalize sys.server.roomJoin q nonce = j at hs ht
  cases hs with
  | burned hit hd =>
    rcases kept_join hi hc ht (fun _ h => h) hk with h | ⟨h, hx, _, _, hg⟩
    · exact .inl h
    · rw [hit.ticket] at hx
      cases hx
      rw [hc.2 _ hit hg] at hd
      contradiction
  | @resumed h hit hg =>
    rcases kept_join hi hc ht (hsub _) hk with hk | ⟨x, hx, hp, hr, _⟩
    · exact .inl hk
    · rw [hit.ticket] at hx
      cases hx
      exact .inl (.inl ⟨_, List.mem_cons_self, hp, hr⟩)
  | denied miss =>
    rcases kept_join hi hc ht (fun _ h => h) hk with h | ⟨h, hx, rfl, rfl, _⟩
    · exact .inl h
    · exact .inr (by rw [disconnecting_miss miss, hx, Option.map_some])
  | full miss =>
    rcases kept_join hi hc ht (fun _ h => h) hk with h | ⟨h, hx, rfl, rfl, _⟩
    · exact .inl h
    · exact .inr (by rw [disconnecting_miss miss, hx, Option.map_some])
  | joined miss =>
    rcases kept_join hi hc ht (hsub _) hk with h | ⟨h, hx, rfl, rfl, _⟩
    · exact .inl h
    · exact .inr (by rw [disconnecting_miss miss, hx, Option.map_some])

lemma disconnecting_ends {i : ℕ} {c : Session} (ends : a.Ends i)
    (live : sys.sessions[i]? = some ⟨c, true⟩)
    (unheld : ∀ {h}, sys.server.resumeTable.get c.key = some h → h.peerId ≠ c.peerId) :
    sys.disconnecting a = some (c.peerId, c.roomId) := by
  have hending : sys.ending i = some (c.peerId, c.roomId) := by
    have hheld : sys.server.heldSeq c = none := by
      cases hs : sys.server.heldSeq c with
      | none => rfl
      | some n =>
        obtain ⟨h, hk, hp, _⟩ := heldSeq_eq_some.1 hs
        exact absurd hp (unheld hk)
    rw [System.ending, live_eq_some.2 live]
    simp [hheld]
  cases a with
  | close j =>
    cases ends
    exact hending
  | message j msg w =>
    cases msg <;> cases ends
    exact hending
  | _ => cases ends

lemma Kept.step (hi : OrphanInv sys) (hc : HoldsSurvive sys a) (hk : Kept sys p r) :
    Kept (sys.step a) p r ∨ sys.disconnecting a = some (p, r) := by
  have hs := step_spec sys a
  generalize hsys : sys.step a = sys' at hs
  cases hs with
  | quiet hq => exact .inl (hk.of_quiet hq.table)
  | joined => exact hsys ▸ hk.join hi hc
  | refused => exact hsys ▸ hk.join hi hc
  | held _ live hq ht _ => exact .inl (hk.of_held live hq.table ht)
  | left ends live unheld hd =>
    obtain h | ⟨rfl, rfl⟩ := hk.of_left live hd.table
    · exact .inl h
    · exact .inr (disconnecting_ends ends live unheld)
  | expired hold he hd =>
    obtain h | ⟨rfl, rfl⟩ := hk.of_expired hi.hold hold he hd.table
    · exact .inl h
    · exact .inr (by simp only [System.disconnecting, hold, if_pos he])
  | idle hold void => exact .inl (hk.of_idle hold void)
  | kicked hshrink => exact .inl (hk.of_quiet hshrink.table)
  | deleted hshrink => exact .inl (hk.of_quiet hshrink.table)

end Sessions

def Attended (sys : System) (r : String) : Prop := ∃ p, Kept sys p r

def InUse (sys : System) (x : String) : Prop := ∃ r, Kept sys x r

/-- No ticket of a pending cleanup is lost; a session that is the last of its room leaves only
peers in use where a producer keeps its SFU room up; and what a message creates is accounted
for. -/
def LeavesNothing (sys : System) (a : Action) : Prop :=
  HoldsSurvive sys a ∧
    (∀ x r, sys.disconnecting a = some (x, r) → (∀ p, Kept sys p r → p = x) →
      ¬EmptiesRoom sys.server x r → ∀ y e, y ≠ x → sys.server.sfuManager.peer r y = some e →
        InUse sys y) ∧
    match a with
    | .message i msg w => ∀ c, sys.live i = some c →
        Accounts (Attended sys) (InUse sys) sys.server.sfuManager w msg
    | _ => True

structure LeakInv (sys : System) : Prop where
  orphan : OrphanInv sys
  unique : sys.server.sfuManager.UniqueIds
  anchored : Anchored (Attended sys) (InUse sys) sys.server.sfuManager

section Invariant

variable {sys : System} {a : Action}

lemma LeakInv.departed (h : LeakInv sys) (hc : LeavesNothing sys a) {x r : String}
    {s : SignalingServer} (hd : sys.disconnecting a = some (x, r)) (same : Retabled sys.server s) :
    Anchored (Attended (sys.step a)) (InUse (sys.step a)) (s.disconnectSession x r).sfuManager := by
  obtain ⟨table, seq, log, rfl⟩ := same
  have hkeep : ∀ {p r'}, Kept sys p r' → Kept (sys.step a) p r' ∨ (p = x ∧ r' = r) := by
    intro p r' hk
    obtain hk | hk := hk.step h.orphan hc.1
    · exact .inl hk
    · rw [hd] at hk
      cases hk
      exact .inr ⟨rfl, rfl⟩
  have halone : ¬Attended (sys.step a) r → ∀ p, Kept sys p r → p = x := by
    intro hno p hk
    obtain hk | ⟨rfl, _⟩ := hkeep hk
    · exact absurd ⟨p, hk⟩ hno
    · rfl
  refine departed_anchored h.anchored h.unique ?_ ?_ ?_ ?_
  · rintro r' ⟨p, hk⟩
    obtain hk | ⟨_, rfl⟩ := hkeep hk
    · exact .inl ⟨p, hk⟩
    · exact .inr rfl
  · rintro y ⟨r', hk⟩
    obtain hk | ⟨rfl, _⟩ := hkeep hk
    · exact .inl ⟨r', hk⟩
    · exact .inr rfl
  · intro hno q hq
    exact halone hno q (h.orphan.member hq)
  · intro hno hempty y e hy he
    obtain ⟨r', hk⟩ := hc.2.1 x r hd (halone hno) hempty y e hy he
    obtain hk | ⟨hyx, _⟩ := hkeep hk
    · exact ⟨r', hk⟩
    · exact absurd hyx hy

lemma LeakInv.stays (h : LeakInv sys) (hc : LeavesNothing sys a)
    (hd : sys.disconnecting a = none) {sfu : SfuManager}
    (hs : Anchored (Attended sys) (InUse sys) sfu) :
    Anchored (Attended (sys.step a)) (InUse (sys.step a)) sfu := by
  have hkeep : ∀ {p r}, Kept sys p r → Kept (sys.step a) p r := by
    intro p r hk
    obtain hk | hk := hk.step h.orphan hc.1
    · exact hk
    · rw [hd] at hk
      cases hk
  apply hs.mono
  · rintro r ⟨p, hk⟩
    exact ⟨p, hkeep hk⟩
  · rintro x ⟨r, hk⟩
    exact ⟨r, hkeep hk⟩

lemma disconnecting_relayed {i : ℕ} {msg : SignalingMessage} {w : Worker} {c : Session}
    (h : (sys.server.relayMessage c msg w).ended = false) :
    sys.disconnecting (.message i msg w) = none := by
  cases msg with
  | roomLeave r p => cases h
  | _ => rfl

theorem LeakInv.step (h : LeakInv sys) (hf : FreshIds sys a) (hc : LeavesNothing sys a) :
    LeakInv (sys.step a) := by
  refine ⟨h.orphan.step a hc.1, unique_step h.unique hf, ?_⟩
  have hs := serverStep_step sys a
  generalize (sys.step a).server = t at hs ⊢
  cases hs with
  | retabled none same =>
    obtain ⟨table, seq, log, rfl⟩ := same
    exact h.stays hc none h.anchored
  | @relayed i msg w c live goesOn =>
    exact h.stays hc (disconnecting_relayed goesOn)
      (relayMessage_anchored h.anchored (hc.2.2 c live))
  | departed some same => exact h.departed hc some same
  | @entered q nonce m u t cleared passed entered same =>
    obtain ⟨table, seq, log, rfl⟩ := same
    change Anchored _ _ u.sfuManager
    rw [m.enter_sfu entered]
    obtain ⟨hd, rfl⟩ | ⟨x, r, s, hd, hsame, rfl⟩ := cleared
    · exact h.stays hc hd h.anchored
    · exact h.departed hc hd hsame
  | kicked p =>
    refine h.stays hc rfl ?_
    rw [kickPeer]
    split_ifs
    · exact h.anchored
    · exact h.anchored
  | deleted r =>
    refine h.stays hc rfl ?_
    rw [removeRoom]
    split_ifs
    · exact h.anchored
    · exact h.anchored

end Invariant

lemma createWebrtcTransport_thins (sfu : SfuManager) (room x : String) (d : TransportDirection)
    (w : Worker) : Thins sfu (sfu.createWebrtcTransport room x d w).1 := by
  cases h : (sfu.createWebrtcTransport room x d w).2 with
  | ok t =>
    have hput := SfuManager.createWebrtcTransport_ok sfu w (Prod.ext rfl h)
    intro r p
    by_cases hx : r = room ∧ p = x
    · obtain ⟨rfl, rfl⟩ := hx
      have hp := hput r p
      rw [if_pos ⟨rfl, rfl⟩] at hp
      rw [SfuManager.mediaAt_of_some hp, SfuManager.dataAt_of_some hp, SfuManager.mediaAt,
        SfuManager.dataAt]
      cases sfu.peer r p <;> cases d <;> exact ⟨List.Sublist.refl _, List.Sublist.refl _⟩
    · have hp := hput r p
      rw [if_neg hx] at hp
      rw [SfuManager.mediaAt_congr hp, SfuManager.dataAt_congr hp]
      exact ⟨List.Sublist.refl _, List.Sublist.refl _⟩
  | failed e =>
    exact Thins.of_peer fun r p => .inr
      (sfu.createWebrtcTransport_failed w room x d (fun t ht => by rw [h] at ht; cases ht) r p)
  | elapsed =>
    exact Thins.of_peer fun r p => .inr
      (sfu.createWebrtcTransport_failed w room x d (fun t ht => by rw [h] at ht; cases ht) r p)

lemma createConsumer_thins {sfu sfu' : SfuManager} {room x producerId : String}
    {transportId : Option String} {w : Worker} {y : String × MediaKind × JsonValue}
    (h : sfu.createConsumer room x producerId transportId w = .ok (sfu', y)) : Thins sfu sfu' := by
  obtain ⟨e, he, hput⟩ := SfuManager.createConsumer_ok sfu w h
  intro r p
  by_cases hx : r = room ∧ p = x
  · obtain ⟨rfl, rfl⟩ := hx
    have hp := hput r p
    rw [if_pos ⟨rfl, rfl⟩] at hp
    rw [SfuManager.mediaAt_of_some hp, SfuManager.dataAt_of_some hp, SfuManager.mediaAt_of_some he,
      SfuManager.dataAt_of_some he]
    exact ⟨List.Sublist.refl _, List.Sublist.refl _⟩
  · have hp := hput r p
    rw [if_neg hx] at hp
    rw [SfuManager.mediaAt_congr hp, SfuManager.dataAt_congr hp]
    exact ⟨List.Sublist.refl _, List.Sublist.refl _⟩

lemma handleAdminSfu_thins (sfu : SfuManager) (msg : SignalingMessage) (w : Worker) :
    Thins sfu (handleAdminSfu sfu msg w).1 := by
  cases msg with
  | createWebRtcTransport roomId peer direction =>
    have ht := createWebrtcTransport_thins sfu roomId peer direction w
    rw [handleAdminSfu]
    split <;> rename_i he <;> rw [he] at ht
    · exact ht
    · exact ht
    · exact ht
  | connectWebRtcTransport roomId peer transportId dtls =>
    rw [handleAdminSfu]
    split
    · exact Thins.refl _
    · exact Thins.refl _
  | consume roomId peer producerId rtp transportId =>
    rw [handleAdminSfu]
    split
    · rename_i he
      exact createConsumer_thins he
    · exact Thins.refl _
  | _ => exact Thins.refl _

namespace AdminSystem

def FreshIds (s : AdminSystem) : AdminAction → Prop
  | .signaling a => Server.FreshIds s.system a
  | _ => True

def LeavesNothing (s : AdminSystem) : AdminAction → Prop
  | .signaling a => Server.LeavesNothing s.system a
  | .text i msg w => s.sockets[i]? = some true →
      Accounts (Attended s.system) (InUse s.system) s.system.server.sfuManager w msg
  | _ => True

def Deserted (s : AdminSystem) : Prop :=
  (∀ c ∈ s.system.sessions, c.live = false) ∧ s.system.holds = [] ∧ ∀ b ∈ s.sockets, b = false

lemma leakInv_init : LeakInv System.init := by
  refine ⟨orphanInv_init, unique_init, ?_⟩
  intro r hr
  cases hr

lemma LeakInv.withSfu {sys : System} {sfu : SfuManager} (h : LeakInv sys)
    (ht : Thins sys.server.sfuManager sfu) (ha : Anchored (Attended sys) (InUse sys) sfu) :
    LeakInv (AdminSystem.withSfu sys sfu) where
  orphan := ⟨⟨h.orphan.table.size, h.orphan.table.below, h.orphan.table.distinct⟩,
    ⟨h.orphan.hold.room, h.orphan.hold.below, h.orphan.hold.peer⟩, h.orphan.member, h.orphan.bound⟩
  unique := h.unique.thins ht
  anchored := ha

lemma leakInv_step {s : AdminSystem} {a : AdminAction} (h : LeakInv s.system) (hf : FreshIds s a)
    (hc : LeavesNothing s a) : LeakInv (s.step a).system := by
  cases a with
  | signaling a => exact h.step hf hc
  | connect => exact h
  | text i msg w =>
    rw [step]
    split_ifs with hopen
    · exact LeakInv.withSfu h (handleAdminSfu_thins _ _ _) (handleAdminSfu_anchored h.anchored (hc hopen))
    · exact h
  | close i => exact h

lemma not_kept {s : AdminSystem} (h : s.Deserted) (p r : String) : ¬Kept s.system p r := by
  rintro (⟨c, hc, _⟩ | ⟨g, hg, _⟩)
  · exact absurd (h.1 _ hc) (by simp)
  · rw [h.2.1] at hg
    cases hg

end AdminSystem

theorem no_leaked_entities (acts : List AdminAction)
    (hfresh : Along AdminSystem.step AdminSystem.FreshIds .init acts)
    (h : Along AdminSystem.step AdminSystem.LeavesNothing .init acts) :
    let s := run AdminSystem.step .init acts
    s.Deserted → ∀ r, s.system.server.sfuManager.get r = none := by
  intro s hd r
  have hi : LeakInv s.system := run_invariant (I := fun s => LeakInv s.system)
    AdminSystem.leakInv_init (fun t a hi hc => AdminSystem.leakInv_step hi hc.1 hc.2) (hfresh.and h)
  by_contra hne
  obtain ⟨room, hroom⟩ := Option.ne_none_iff_exists'.mp hne
  obtain ⟨p, hk⟩ | ⟨⟨x, e, he⟩, hall⟩ := hi.anchored r ((FiniteMap.contains_iff _ _).mpr ⟨room, hroom⟩)
  · exact AdminSystem.not_kept hd p r hk
  · obtain ⟨r', hk⟩ := hall x e he
    exact AdminSystem.not_kept hd x r' hk

def vehicleVisit (peer : String) : List AdminAction :=
  [.connect, .signaling (.join ⟨"p", .device "car", "car", .host, some 2, none⟩ "n1"),
    .signaling (.message 0 (.createWebRtcTransport "car_front" peer .send) (willing "t")),
    .signaling (.close 0), .close 0]

theorem no_leaked_entities_own_peer :
    let s := run AdminSystem.step .init (vehicleVisit "p")
    ((run AdminSystem.step .init ((vehicleVisit "p").take 3)).system.server.sfuManager.peer
      "car_front" "p").isSome = true ∧ ∀ r, s.system.server.sfuManager.get r = none := by
  intro s
  have hfresh : Along AdminSystem.step AdminSystem.FreshIds .init (vehicleVisit "p") := by
    refine ⟨trivial, trivial, ?_, trivial, trivial, trivial⟩
    intro id _ r
    rintro ⟨x, hx⟩
    cases hx
  have hleaves : Along AdminSystem.step AdminSystem.LeavesNothing .init (vehicleVisit "p") := by
    refine ⟨trivial, ⟨⟨fun h => absurd h (by decide), fun t ht => absurd ht.nonce (by simp)⟩, ?_, trivial⟩,
      ⟨trivial, ?_, ?_⟩, ⟨trivial, ?_, trivial⟩, trivial, trivial⟩
    · intro x r h
      cases h
    · intro x r h
      cases h
    · intro c _
      exact .inr (.inr ⟨"car", .inl ⟨⟨"p", "car", .host, .device "car", 2⟩, by decide, rfl, rfl⟩⟩)
    · intro x r hd _ _ y e _ he
      -- The vehicle leaves room `car`, of which the SFU knows nothing.
      have hroom : r = "car" := by
        rw [show System.disconnecting _ (.close 0) = some ("p", "car") by decide] at hd
        cases hd
        rfl
      subst hroom
      obtain ⟨room, hroom, _⟩ := SfuManager.peer_eq_some.1 he
      have hnone := (FiniteMap.contains_iff _ _).mpr ⟨room, hroom⟩
      exact absurd hnone (by decide)
  have hgone : s.Deserted := by
    refine ⟨by decide, by decide, by decide⟩
  exact ⟨by decide, no_leaked_entities (vehicleVisit "p") hfresh hleaves hgone⟩

theorem entities_leaked :
    let visit := run AdminSystem.step .init (vehicleVisit "front")
    let admin := run AdminSystem.step .init [.connect,
      .text 0 (.createWebRtcTransport "car" "admin-1" .recv) (willing "t"), .close 0]
    (visit.Deserted ∧ (visit.system.server.sfuManager.peer "car_front" "front").isSome = true) ∧
      admin.Deserted ∧ (admin.system.server.sfuManager.peer "car" "admin-1").isSome = true := by
  refine ⟨⟨⟨?_, ?_, ?_⟩, ?_⟩, ⟨?_, ?_, ?_⟩, ?_⟩ <;> decide

end MediaServo.Server
