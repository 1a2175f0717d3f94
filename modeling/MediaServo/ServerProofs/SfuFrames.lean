import MediaServo.Foundations.Partial
import MediaServo.ServerProofs.Steps

/-! What the SFU holds, peer by peer: which entry each operation touches, and what a message, a
join or the end of a session does to the producers. -/

namespace MediaServo.Server

open MediaServo.Foundations MediaServo.Common

lemma mapError_eq_ok {ε δ α : Type} {x : Except ε α} {f : ε → δ} {a : α} :
    x.mapError f = .ok a ↔ x = .ok a := by
  cases x with
  | error e => simp [Except.mapError]
  | ok a => simp [Except.mapError]

def Puts (sfu sfu' : SfuManager) (roomId peerId : String) (e : Option SfuPeer) : Prop :=
  ∀ r p, sfu'.peer r p = if r = roomId ∧ p = peerId then e else sfu.peer r p

namespace SfuManager

variable (sfu : SfuManager) (w : Worker)

lemma peer_eq_some {sfu : SfuManager} {r p : String} {e : SfuPeer} :
    sfu.peer r p = some e ↔ ∃ room, sfu.get r = some room ∧ room.peers.get p = some e := by
  rw [peer, Option.bind_eq_some_iff]

lemma peer_ensureRouter (roomId r p : String) :
    (sfu.ensureRouter roomId w).1.peer r p = sfu.peer r p := by
  rw [ensureRouter]
  split
  · rfl
  · rename_i hnone
    split
    · rw [peer, peer, FiniteMap.get_set]
      split_ifs with h
      · subst h
        simp [hnone]
      · rfl
    · rfl
    · rfl

lemma peer_setPeer (roomId peerId r p : String) (f : SfuPeer → SfuPeer) :
    (sfu.setPeer roomId peerId f).peer r p =
      if r = roomId ∧ p = peerId then
        (sfu.get roomId).map (fun _ => f ((sfu.peer roomId peerId).getD SfuPeer.empty))
      else sfu.peer r p := by
  rw [peer, setPeer, FiniteMap.get_adjust, peer, peer]
  by_cases hr : r = roomId
  · subst hr
    cases sfu.get r with
    | none => simp
    | some room =>
      by_cases hp : p = peerId
      · subst hp
        simp
      · simp [hp, FiniteMap.get_set_ne]
  · simp [hr]

lemma peer_adjust_labels (roomId r p : String) (f : SfuRoom → FiniteMap String String) :
    peer (sfu.adjust roomId (fun x => { x with producerLabels := f x })) r p = sfu.peer r p := by
  rw [peer, peer, FiniteMap.get_adjust]
  split_ifs
  · cases sfu.get r <;> rfl
  · rfl

lemma get_of_size_remove {m : FiniteMap String SfuPeer} {p q : String}
    (h : (m.remove p).size = 0) (hq : q ≠ p) : m.get q = none := by
  rw [← FiniteMap.get_remove_ne m hq]
  cases hg : (m.remove p).get q with
  | none => rfl
  | some e =>
    have := FiniteMap.size_remove _ hg
    omega

lemma peer_removePeerInRoom (roomId peerId r p : String) :
    (sfu.removePeerInRoom roomId peerId).1.peer r p =
      if r = roomId ∧ p = peerId then none else sfu.peer r p := by
  rw [removePeerInRoom]
  cases hroom : sfu.get roomId with
  | none =>
    dsimp only
    split_ifs with h
    · rw [peer, h.1, hroom, Option.bind_none]
    · rfl
  | some room =>
    dsimp only
    cases hpeer : room.peers.get peerId with
    | none =>
      dsimp only
      split_ifs with h
      · rw [peer, h.1, hroom, h.2, Option.bind_some, hpeer]
      · rfl
    | some e =>
      by_cases hr : r = roomId
      · subst hr
        dsimp only
        split_ifs with hs h h
        · rw [removeRoom, peer, FiniteMap.get_remove_self, Option.bind_none]
        · have hp : p ≠ peerId := fun hp => h ⟨rfl, hp⟩
          rw [removeRoom, peer, peer, FiniteMap.get_remove_self, hroom, Option.bind_some,
            Option.bind_none, get_of_size_remove (beq_iff_eq.mp hs) hp]
        · rw [peer, FiniteMap.get_set_self, Option.bind_some, h.2, FiniteMap.get_remove_self]
        · have hp : p ≠ peerId := fun hp => h ⟨rfl, hp⟩
          rw [peer, peer, FiniteMap.get_set_self, hroom, Option.bind_some, Option.bind_some,
            FiniteMap.get_remove_ne _ hp]
      · simp only [hr, false_and, if_false]
        split_ifs
        · rw [removeRoom, peer, peer, FiniteMap.get_remove_ne _ hr]
        · rw [peer, peer, FiniteMap.get_set_ne _ _ hr]

lemma peer_removePeerGlobal (peerId r p : String) :
    (sfu.removePeerGlobal peerId).1.peer r p = if p = peerId then none else sfu.peer r p := by
  rw [peer, removePeerGlobal, FiniteMap.get_mapValues, FiniteMap.get_retain, peer]
  cases sfu.get r with
  | none => simp
  | some room =>
    by_cases he : (room.peers.contains peerId && (room.peers.remove peerId).size == 0) = true
    · have hs := (Bool.and_eq_true_iff.mp he).2
      split_ifs with hp
      · simp [Option.filter, he]
      · rw [Option.bind_some, get_of_size_remove (beq_iff_eq.mp hs) hp]
        simp [Option.filter, he]
    · split_ifs with hp
      · simp [Option.filter, he, hp]
      · simp [Option.filter, he, FiniteMap.get_remove_ne _ hp]

lemma peer_removeProducersByIds (ids : List String) (r p : String) :
    (sfu.removeProducersByIds ids).1.peer r p =
      (sfu.peer r p).map (·.strip ids (sfu.goneDataProducers ids)) := by
  rw [peer, removeProducersByIds, FiniteMap.get_mapValues, peer]
  cases sfu.get r with
  | none => rfl
  | some room => simp

lemma peer_removeRoom (roomId r p : String) :
    (sfu.removeRoom roomId).peer r p = if r = roomId then none else sfu.peer r p := by
  rw [removeRoom, peer, FiniteMap.get_remove]
  split_ifs
  · rfl
  · rfl

lemma lookupPeer_ok {sfu : SfuManager} {roomId peerId missing : String} {e : SfuPeer}
    (h : sfu.lookupPeer roomId peerId missing = .ok e) : sfu.peer roomId peerId = some e := by
  rw [lookupPeer] at h
  split at h
  · cases h
  · rename_i room hroom
    split at h
    · cases h
    · rename_i p hp
      cases h
      exact peer_eq_some.2 ⟨room, hroom, hp⟩

lemma setPeer_puts {sfu : SfuManager} {roomId peerId : String} {e : SfuPeer}
    (h : sfu.peer roomId peerId = some e) (f : SfuPeer → SfuPeer) :
    Puts sfu (sfu.setPeer roomId peerId f) roomId peerId (some (f e)) := by
  intro r p
  obtain ⟨room, hroom, _⟩ := peer_eq_some.1 h
  rw [peer_setPeer, h, hroom]
  rfl

lemma createWebrtcTransport_ok {roomId peerId : String} {direction : TransportDirection}
    {t : TransportCreated} {sfu' : SfuManager}
    (h : sfu.createWebrtcTransport roomId peerId direction w = (sfu', .ok t)) :
    Puts sfu sfu' roomId peerId
      (some (((sfu.peer roomId peerId).getD SfuPeer.empty).pushTransport direction t.transportId)) := by
  have hroom : ∀ {a}, sfu.ensureRouter roomId w = (a, .ok ()) → ∃ room, a.get roomId = some room := by
    intro a ha
    rw [ensureRouter] at ha
    split at ha
    · rename_i room hr
      cases ha
      exact ⟨room, hr⟩
    · split at ha
      · cases ha
        exact ⟨_, FiniteMap.get_set_self _ _ _⟩
      · cases ha
      · cases ha
  have hpeer := sfu.peer_ensureRouter w roomId
  rw [createWebrtcTransport] at h
  split at h
  · cases h
  · cases h
  · rename_i sfu₁ he
    rw [he] at hpeer
    split at h
    · cases h
    · cases h
    · obtain ⟨room, hr⟩ := hroom he
      cases h
      intro r p
      rw [peer_setPeer, hpeer, hpeer, hr]
      rfl

lemma createWebrtcTransport_failed (roomId peerId : String) (direction : TransportDirection)
    (h : ∀ t, (sfu.createWebrtcTransport roomId peerId direction w).2 ≠ .ok t) (r p : String) :
    (sfu.createWebrtcTransport roomId peerId direction w).1.peer r p = sfu.peer r p := by
  have hpeer := sfu.peer_ensureRouter w roomId r p
  rw [createWebrtcTransport] at h ⊢
  split at h <;> rename_i he <;> rw [he] at hpeer
  · exact hpeer
  · exact hpeer
  · split at h
    · exact hpeer
    · exact hpeer
    · exact absurd rfl (h _)

lemma routerRtpCapabilities_peer (roomId r p : String) :
    (sfu.routerRtpCapabilities roomId w).1.peer r p = sfu.peer r p := by
  have hpeer := sfu.peer_ensureRouter w roomId r p
  rw [routerRtpCapabilities]
  split <;> rename_i he <;> rw [he] at hpeer
  · exact hpeer
  · exact hpeer
  · split <;> exact hpeer

lemma createProducer_ok {roomId peerId id : String} {kind : MediaKind}
    {transportId label : Option String} {sfu' : SfuManager}
    (h : sfu.createProducer roomId peerId kind transportId label w = .ok (sfu', id)) :
    w.produce = .ok id ∧ ∃ e t, sfu.peer roomId peerId = some e ∧
      Puts sfu sfu' roomId peerId (some { e with
        producers := e.producers ++ [⟨id, kind⟩]
        producerTransports := e.producerTransports.set id t }) := by
  rw [createProducer] at h
  obtain ⟨_, _, h⟩ := bind_eq_ok.1 h
  split_ifs at h
  · cases h
  · obtain ⟨e, he, h⟩ := bind_eq_ok.1 h
    have hpeer := lookupPeer_ok he
    split at h
    · cases h
    · rename_i t _
      obtain ⟨x, hx, h⟩ := bind_eq_ok.1 h
      have hput := setPeer_puts hpeer (fun p => { p with
        producers := p.producers ++ [⟨x, kind⟩]
        producerTransports := p.producerTransports.set x t })
      dsimp only at h
      split at h
      · cases h
        exact ⟨mapError_eq_ok.1 hx, e, t, hpeer, hput⟩
      · cases h
        refine ⟨mapError_eq_ok.1 hx, e, t, hpeer, ?_⟩
        intro r p
        rw [← hput r p]
        exact peer_adjust_labels _ roomId r p _

lemma createConsumer_ok {roomId peerId producerId id : String} {kind : MediaKind} {rtp : JsonValue}
    {transportId : Option String} {sfu' : SfuManager}
    (h : sfu.createConsumer roomId peerId producerId transportId w = .ok (sfu', id, kind, rtp)) :
    ∃ e, sfu.peer roomId peerId = some e ∧ Puts sfu sfu' roomId peerId
      (some { e with consumers := e.consumers ++ [⟨id, producerId, kind⟩] }) := by
  rw [createConsumer] at h
  obtain ⟨_, _, h⟩ := bind_eq_ok.1 h
  split at h
  · cases h
  · split at h
    · cases h
    · obtain ⟨e, he, h⟩ := bind_eq_ok.1 h
      split at h
      · cases h
      · obtain ⟨x, _, h⟩ := bind_eq_ok.1 h
        cases h
        exact ⟨e, lookupPeer_ok he, setPeer_puts (lookupPeer_ok he) _⟩

lemma createDataProducer_ok {roomId peerId label protocol id : String}
    {sctp : Option SctpStreamParameters} {transportId : Option String} {sfu' : SfuManager}
    (h : sfu.createDataProducer roomId peerId label protocol sctp transportId w = .ok (sfu', id)) :
    w.produceData = .ok id ∧ sctp.isSome ∧ ∃ e t, sfu.peer roomId peerId = some e ∧
      e.sendTransport transportId = some t ∧ Puts sfu sfu' roomId peerId (some { e with
        dataProducers := e.dataProducers ++ [⟨id, label, protocol⟩]
        dataProducerTransports := e.dataProducerTransports.set id t }) := by
  rw [createDataProducer] at h
  split_ifs at h with hsctp
  · cases h
  · obtain ⟨e, he, h⟩ := bind_eq_ok.1 h
    split at h
    · cases h
    · rename_i t ht
      obtain ⟨x, hx, h⟩ := bind_eq_ok.1 h
      cases h
      refine ⟨mapError_eq_ok.1 hx, ?_, e, t, lookupPeer_ok he, ht, setPeer_puts (lookupPeer_ok he) _⟩
      rwa [Option.isNone_iff_eq_none, ← ne_eq, Option.ne_none_iff_isSome] at hsctp

lemma createDataProducer_of {roomId peerId id t : String} {sctp : Option SctpStreamParameters}
    {transportId : Option String} {e : SfuPeer} (hid : w.produceData = .ok id)
    (hsctp : sctp.isSome) (he : sfu.peer roomId peerId = some e)
    (ht : e.sendTransport transportId = some t) (label protocol : String) :
    ∃ sfu', sfu.createDataProducer roomId peerId label protocol sctp transportId w = .ok (sfu', id) := by
  obtain ⟨room, hroom, hpeer⟩ := peer_eq_some.1 he
  obtain ⟨x, rfl⟩ := Option.isSome_iff_exists.mp hsctp
  simp [createDataProducer, lookupPeer, hroom, hpeer, ht, hid, bind, Except.bind, Except.mapError,
    pure, Except.pure]

lemma createDataConsumer_ok {roomId peerId dataProducerId : String} {transportId : Option String}
    {sfu' : SfuManager} {d : DataConsumeResult}
    (h : sfu.createDataConsumer roomId peerId dataProducerId transportId w = .ok (sfu', d)) :
    ∃ e, sfu.peer roomId peerId = some e ∧ Puts sfu sfu' roomId peerId
      (some { e with dataConsumers := e.dataConsumers ++ [⟨d.dataConsumerId, dataProducerId⟩] }) := by
  rw [createDataConsumer] at h
  split at h
  · cases h
  · split at h
    · cases h
    · obtain ⟨e, he, h⟩ := bind_eq_ok.1 h
      split at h
      · cases h
      · obtain ⟨x, _, h⟩ := bind_eq_ok.1 h
        cases h
        exact ⟨e, lookupPeer_ok he, setPeer_puts (lookupPeer_ok he) _⟩

end SfuManager

inductive SfuStep (s : SignalingServer) (c : Session) (w : Worker) (sfu : SfuManager) :
    SignalingMessage → Prop
  | same {msg : SignalingMessage} (same : ∀ r p, sfu.peer r p = s.sfuManager.peer r p) :
      SfuStep s c w sfu msg
  | transport {roomId peer : String} {direction : TransportDirection} {t : TransportCreated}
      (puts : Puts s.sfuManager sfu roomId peer (some
        (((s.sfuManager.peer roomId peer).getD SfuPeer.empty).pushTransport direction t.transportId))) :
      SfuStep s c w sfu (.createWebRtcTransport roomId peer direction)
  | producer {roomId peer id t : String} {direction : TransportDirection} {kind : MediaKind}
      {rtp : JsonValue} {transportId label : Option String} {e : SfuPeer}
      (allowed : SignalingServer.produceDenied c roomId direction kind = none) (answer : w.produce = .ok id)
      (entry : s.sfuManager.peer roomId peer = some e)
      (puts : Puts s.sfuManager sfu roomId peer (some { e with
        producers := e.producers ++ [⟨id, kind⟩]
        producerTransports := e.producerTransports.set id t })) :
      SfuStep s c w sfu (.produce roomId peer direction kind rtp transportId label)
  | consumer {roomId peer producerId id : String} {kind : MediaKind} {rtp : JsonValue}
      {transportId : Option String} {e : SfuPeer} (entry : s.sfuManager.peer roomId peer = some e)
      (puts : Puts s.sfuManager sfu roomId peer (some { e with
        consumers := e.consumers ++ [⟨id, producerId, kind⟩] })) :
      SfuStep s c w sfu (.consume roomId peer producerId rtp transportId)
  | dataProducer {roomId peer label protocol id t : String} {direction : TransportDirection}
      {sctp : Option SctpStreamParameters} {transportId : Option String} {e : SfuPeer}
      (allowed : SignalingServer.dataProduceDenied c roomId direction = none)
      (answer : w.produceData = .ok id) (stream : sctp.isSome)
      (entry : s.sfuManager.peer roomId peer = some e)
      (transport : e.sendTransport transportId = some t)
      (puts : Puts s.sfuManager sfu roomId peer (some { e with
        dataProducers := e.dataProducers ++ [⟨id, label, protocol⟩]
        dataProducerTransports := e.dataProducerTransports.set id t })) :
      SfuStep s c w sfu (.createDataProducer roomId peer direction label protocol sctp transportId)
  | dataConsumer {roomId peer dataProducerId id : String} {direction : TransportDirection}
      {transportId : Option String} {e : SfuPeer} (entry : s.sfuManager.peer roomId peer = some e)
      (puts : Puts s.sfuManager sfu roomId peer (some { e with
        dataConsumers := e.dataConsumers ++ [⟨id, dataProducerId⟩] })) :
      SfuStep s c w sfu (.consumeData roomId peer direction dataProducerId transportId)
  | gone {gonePeer roomId d : String} (bound : s.deviceIdOf c.peerId = some d)
      (puts : Puts s.sfuManager sfu roomId gonePeer none) :
      SfuStep s c w sfu (.downstreamGone gonePeer roomId)

namespace SignalingServer

variable (s : SignalingServer) (c : Session) (w : Worker)

lemma deferredCleanup_sfu (roomId : String) :
    (s.deferredCleanup roomId).sfuManager = s.sfuManager := by
  rw [deferredCleanup]
  split_ifs <;> rfl

lemma announceProducersClosed_sfu (roomId reporter : String) (device : Option String)
    (closed : Closed) :
    (s.announceProducersClosed roomId reporter device closed).sfuManager = s.sfuManager := by
  rw [announceProducersClosed]
  split_ifs
  · rfl
  · rw [deferredCleanup_sfu]
    cases device <;> rfl

lemma announceRooms_sfu (reporter : String) (device : Option String)
    (rooms : List (String × Closed)) :
    (s.announceRooms reporter device rooms).sfuManager = s.sfuManager := by
  rw [announceRooms]
  induction rooms generalizing s with
  | nil => rfl
  | cons e rooms ih =>
    rw [List.foldl_cons, ih]
    apply announceProducersClosed_sfu

lemma handleCreateTransport_sfu (roomId peer : String) (direction : TransportDirection) :
    SfuStep s c w (s.handleCreateTransport c roomId peer direction w).1.sfuManager
      (.createWebRtcTransport roomId peer direction) := by
  have hf := s.sfuManager.createWebrtcTransport_failed w roomId peer direction
  rw [handleCreateTransport]
  split
  · rename_i sfu t h
    exact .transport (SfuManager.createWebrtcTransport_ok _ w h)
  · rename_i sfu e h
    rw [h] at hf
    exact .same (hf (fun t => by simp))
  · rename_i sfu h
    rw [h] at hf
    exact .same (hf (fun t => by simp))

lemma handleRouterCapabilities_peer (roomId r p : String) :
    (s.handleRouterCapabilities roomId w).1.sfuManager.peer r p = s.sfuManager.peer r p := by
  have hp := s.sfuManager.routerRtpCapabilities_peer w roomId r p
  rw [handleRouterCapabilities]
  split <;> rename_i h <;> rw [h] at hp <;> exact hp

lemma handleProduce_sfu (roomId peer : String) (direction : TransportDirection) (kind : MediaKind)
    (rtp : JsonValue) (transportId label : Option String) :
    SfuStep s c w (s.handleProduce c roomId peer direction kind transportId label w).1.sfuManager
      (.produce roomId peer direction kind rtp transportId label) := by
  rw [handleProduce]
  split
  · exact .same (fun _ _ => rfl)
  · rename_i hallowed
    split
    · exact .same (fun _ _ => rfl)
    · rename_i sfu id h
      obtain ⟨hid, e, t, he, hput⟩ := SfuManager.createProducer_ok _ w h
      exact .producer hallowed hid he hput

lemma handleConsume_sfu (roomId peer producerId : String) (rtp : JsonValue)
    (transportId : Option String) :
    SfuStep s c w (s.handleConsume c roomId peer producerId transportId w).1.sfuManager
      (.consume roomId peer producerId rtp transportId) := by
  rw [handleConsume]
  split
  · exact .same (fun _ _ => rfl)
  · split
    · exact .same (fun _ _ => rfl)
    · rename_i sfu id kind _ h
      obtain ⟨e, he, hput⟩ := SfuManager.createConsumer_ok _ w h
      exact .consumer he hput

lemma handleCreateDataProducer_sfu (roomId peer : String) (direction : TransportDirection)
    (label protocol : String) (sctp : Option SctpStreamParameters) (transportId : Option String) :
    SfuStep s c w (s.handleCreateDataProducer c roomId peer direction label protocol sctp transportId
      w).1.sfuManager (.createDataProducer roomId peer direction label protocol sctp transportId) := by
  rw [handleCreateDataProducer]
  split
  · exact .same (fun _ _ => rfl)
  · rename_i hallowed
    split
    · exact .same (fun _ _ => rfl)
    · rename_i sfu id h
      obtain ⟨hid, hsctp, e, t, he, ht, hput⟩ := SfuManager.createDataProducer_ok _ w h
      exact .dataProducer hallowed hid hsctp he ht hput

lemma handleConsumeData_sfu (roomId peer : String) (direction : TransportDirection)
    (dataProducerId : String) (transportId : Option String) :
    SfuStep s c w (s.handleConsumeData c roomId peer direction dataProducerId transportId
      w).1.sfuManager (.consumeData roomId peer direction dataProducerId transportId) := by
  rw [handleConsumeData]
  split
  · exact .same (fun _ _ => rfl)
  · split
    · exact .same (fun _ _ => rfl)
    · split
      · exact .same (fun _ _ => rfl)
      · rename_i sfu d h
        obtain ⟨e, he, hput⟩ := SfuManager.createDataConsumer_ok _ w h
        exact .dataConsumer he hput

lemma handleDownstreamGone_sfu (gonePeer roomId : String) :
    SfuStep s c w (s.handleDownstreamGone c gonePeer roomId).1.sfuManager
      (.downstreamGone gonePeer roomId) := by
  rw [handleDownstreamGone]
  split
  · exact .same (fun _ _ => rfl)
  · rename_i d hd
    apply SfuStep.gone hd
    intro r p
    rw [announceProducersClosed_sfu]
    exact s.sfuManager.peer_removePeerInRoom roomId gonePeer r p

theorem handleSfuMessage_sfu (msg : SignalingMessage) :
    SfuStep s c w (s.handleSfuMessage c msg w).1.sfuManager msg := by
  cases msg with
  | createWebRtcTransport => apply handleCreateTransport_sfu
  | connectWebRtcTransport roomId peer transportId _ =>
    refine .same (fun r p => ?_)
    rw [handleSfuMessage, handleConnectTransport_fst]
  | getRouterRtpCapabilities => exact .same (s.handleRouterCapabilities_peer w _)
  | setPreferredLayers roomId peer consumerId _ _ =>
    refine .same (fun r p => ?_)
    rw [handleSfuMessage, handlePreferredLayers_fst]
  | produce => apply handleProduce_sfu
  | consume => apply handleConsume_sfu
  | createDataProducer => apply handleCreateDataProducer_sfu
  | consumeData => apply handleConsumeData_sfu
  | sfuStatsRequest producerId consumerId =>
    refine .same (fun r p => ?_)
    rw [handleSfuMessage, handleStatsRequest_fst]
  | downstreamGone => apply handleDownstreamGone_sfu
  | _ => exact .same (fun _ _ => rfl)

lemma storeReport_sfu (report : SignalingMessage) (streams : List StreamFlowJson) :
    (s.storeReport c report streams).sfuManager = s.sfuManager := by
  obtain ⟨events, h⟩ := s.storeReport_eq c report streams
  rw [h]

lemma relay_sfu (msg : SignalingMessage) : (s.relay c msg).sfuManager = s.sfuManager := by
  rw [relay]
  dsimp only
  split_ifs <;> rfl

lemma sfuOrRelay_sfu (msg : SignalingMessage) :
    (s.sfuOrRelay c msg w).server.sfuManager = (s.handleSfuMessage c msg w).1.sfuManager := by
  rw [sfuOrRelay]
  split
  · rename_i h
    rw [h]
  · rename_i h
    rw [h, relay_sfu]

theorem relayMessage_sfu (msg : SignalingMessage) :
    SfuStep s c w (s.relayMessage c msg w).server.sfuManager msg := by
  have hsfu : SfuStep s c w (s.sfuOrRelay c msg w).server.sfuManager msg := by
    rw [sfuOrRelay_sfu]
    exact s.handleSfuMessage_sfu c w msg
  cases msg with
  | roomLeave => exact .same (fun _ _ => rfl)
  | statusReport =>
    refine .same (fun r p => ?_)
    rw [relayMessage, handleStatusReport]
    split
    · rfl
    · rw [storeReport_sfu]
  | emergencyCommand =>
    refine .same (fun r p => ?_)
    rw [relayMessage, handleEmergency]
    split <;> rfl
  | configPush => exact .same (fun _ _ => rfl)
  | _ => exact hsfu

end SignalingServer

namespace SfuManager

def mediaAt (sfu : SfuManager) (r p : String) : List Producer :=
  ((sfu.peer r p).map SfuPeer.producers).getD []

def dataAt (sfu : SfuManager) (r p : String) : List DataProducer :=
  ((sfu.peer r p).map SfuPeer.dataProducers).getD []

variable {sfu sfu' : SfuManager} {r p : String}

lemma mediaAt_congr (h : sfu'.peer r p = sfu.peer r p) : sfu'.mediaAt r p = sfu.mediaAt r p := by
  rw [mediaAt, mediaAt, h]

lemma dataAt_congr (h : sfu'.peer r p = sfu.peer r p) : sfu'.dataAt r p = sfu.dataAt r p := by
  rw [dataAt, dataAt, h]

lemma mediaAt_of_some {e : SfuPeer} (h : sfu.peer r p = some e) : sfu.mediaAt r p = e.producers := by
  rw [mediaAt, h]
  rfl

lemma dataAt_of_some {e : SfuPeer} (h : sfu.peer r p = some e) : sfu.dataAt r p = e.dataProducers := by
  rw [dataAt, h]
  rfl

lemma mediaAt_of_none (h : sfu.peer r p = none) : sfu.mediaAt r p = [] := by
  rw [mediaAt, h]
  rfl

lemma dataAt_of_none (h : sfu.peer r p = none) : sfu.dataAt r p = [] := by
  rw [dataAt, h]
  rfl

end SfuManager

lemma Puts.producers_same {sfu sfu' : SfuManager} {room peer : String} {e : SfuPeer}
    (h : Puts sfu sfu' room peer (some e)) (hm : e.producers = sfu.mediaAt room peer)
    (hd : e.dataProducers = sfu.dataAt room peer) (r p : String) :
    sfu'.mediaAt r p = sfu.mediaAt r p ∧ sfu'.dataAt r p = sfu.dataAt r p := by
  have hrp := h r p
  split_ifs at hrp with hc
  · obtain ⟨rfl, rfl⟩ := hc
    exact ⟨(SfuManager.mediaAt_of_some hrp).trans hm, (SfuManager.dataAt_of_some hrp).trans hd⟩
  · exact ⟨SfuManager.mediaAt_congr hrp, SfuManager.dataAt_congr hrp⟩

lemma SfuStep.producers_same {s : SignalingServer} {c : Session} {w : Worker} {sfu : SfuManager}
    {msg : SignalingMessage} (h : SfuStep s c w sfu msg)
    (ha : SignalingServer.announces msg = false) (r p : String) :
    sfu.mediaAt r p = s.sfuManager.mediaAt r p ∧ sfu.dataAt r p = s.sfuManager.dataAt r p := by
  cases h with
  | same h => exact ⟨SfuManager.mediaAt_congr (h r p), SfuManager.dataAt_congr (h r p)⟩
  | @transport room peer direction _ puts =>
    apply puts.producers_same
    · rw [SfuManager.mediaAt]
      cases direction <;> cases s.sfuManager.peer room peer <;> rfl
    · rw [SfuManager.dataAt]
      cases direction <;> cases s.sfuManager.peer room peer <;> rfl
  | consumer entry puts =>
    exact puts.producers_same (SfuManager.mediaAt_of_some entry).symm
      (SfuManager.dataAt_of_some entry).symm r p
  | dataConsumer entry puts =>
    exact puts.producers_same (SfuManager.mediaAt_of_some entry).symm
      (SfuManager.dataAt_of_some entry).symm r p
  | producer => cases ha
  | dataProducer => cases ha
  | gone => cases ha

def Thins (sfu sfu' : SfuManager) : Prop :=
  ∀ r p, (sfu'.mediaAt r p).Sublist (sfu.mediaAt r p) ∧ (sfu'.dataAt r p).Sublist (sfu.dataAt r p)

namespace Thins

variable {sfu sfu' sfu'' : SfuManager}

lemma refl (sfu : SfuManager) : Thins sfu sfu :=
  fun _ _ => ⟨List.Sublist.refl _, List.Sublist.refl _⟩

lemma trans (h : Thins sfu sfu') (k : Thins sfu' sfu'') : Thins sfu sfu'' := by
  intro r p
  exact ⟨(k r p).1.trans (h r p).1, (k r p).2.trans (h r p).2⟩

lemma of_peer (h : ∀ r p, sfu'.peer r p = none ∨ sfu'.peer r p = sfu.peer r p) : Thins sfu sfu' := by
  intro r p
  obtain hn | he := h r p
  · rw [SfuManager.mediaAt_of_none hn, SfuManager.dataAt_of_none hn]
    exact ⟨List.nil_sublist _, List.nil_sublist _⟩
  · rw [SfuManager.mediaAt_congr he, SfuManager.dataAt_congr he]
    exact ⟨List.Sublist.refl _, List.Sublist.refl _⟩

end Thins

namespace SignalingServer

variable (s : SignalingServer)

lemma cleanupGlobal_peer (peerId r p : String) :
    (s.cleanupGlobal peerId).sfuManager.peer r p =
      if p = peerId then none else s.sfuManager.peer r p := by
  rw [cleanupGlobal, announceRooms_sfu]
  exact s.sfuManager.peer_removePeerGlobal peerId r p

lemma reclaim_mediaAt (peerId owner r p : String) (device : Option String) :
    (s.reclaim peerId owner device).sfuManager.mediaAt r p =
      (s.sfuManager.mediaAt r p).filter (fun x => x.id ∉ s.ownedBy owner) := by
  rw [reclaim]
  split_ifs with h
  · rw [List.isEmpty_iff.mp h]
    simp
  · rw [announceRooms_sfu, SfuManager.mediaAt]
    change ((SfuManager.peer (s.sfuManager.removeProducersByIds _).1 r p).map _).getD [] = _
    rw [SfuManager.peer_removeProducersByIds, SfuManager.mediaAt]
    cases s.sfuManager.peer r p with
    | none => rfl
    | some e => rfl

lemma reclaim_dataAt (peerId owner r p : String) (device : Option String) :
    (s.reclaim peerId owner device).sfuManager.dataAt r p =
      (s.sfuManager.dataAt r p).filter (fun x => x.id ∉ s.ownedBy owner) := by
  rw [reclaim]
  split_ifs with h
  · rw [List.isEmpty_iff.mp h]
    simp
  · rw [announceRooms_sfu, SfuManager.dataAt]
    change ((SfuManager.peer (s.sfuManager.removeProducersByIds _).1 r p).map _).getD [] = _
    rw [SfuManager.peer_removeProducersByIds, SfuManager.dataAt]
    cases s.sfuManager.peer r p with
    | none => rfl
    | some e => rfl

lemma cleanupGlobal_thins (peerId : String) :
    Thins s.sfuManager (s.cleanupGlobal peerId).sfuManager := by
  apply Thins.of_peer
  intro r p
  rw [cleanupGlobal_peer]
  split_ifs
  · exact Or.inl rfl
  · exact Or.inr rfl

lemma reclaim_thins (peerId owner : String) (device : Option String) :
    Thins s.sfuManager (s.reclaim peerId owner device).sfuManager := by
  intro r p
  rw [reclaim_mediaAt, reclaim_dataAt]
  exact ⟨List.filter_sublist, List.filter_sublist⟩

lemma reclaimDevice_thins (peerId : String) :
    Thins s.sfuManager (s.reclaimDevice peerId).sfuManager := by
  rw [reclaimDevice]
  split
  · apply reclaim_thins
  · exact Thins.refl _

lemma teardown_peer (roomId r p : String) (removed : Bool) :
    (s.teardown roomId removed).sfuManager.peer r p =
      if shouldTeardown removed (s.sfuManager.roomHasProducers roomId) ∧ r = roomId then none
      else s.sfuManager.peer r p := by
  rw [teardown]
  by_cases h : shouldTeardown removed (s.sfuManager.roomHasProducers roomId) = true
  · rw [if_pos h]
    change (s.sfuManager.removeRoom roomId).peer r p = _
    rw [SfuManager.peer_removeRoom]
    simp [h]
  · simp [h]

lemma send_sfu (roomId : String) (msg : SignalingMessage) :
    (s.send roomId msg).sfuManager = s.sfuManager := rfl

lemma leaveSession_sfu (peerId roomId : String) :
    (s.leaveSession peerId roomId).1.sfuManager = s.sfuManager := rfl

lemma disconnectSession_sfu (peerId roomId : String) :
    (s.disconnectSession peerId roomId).sfuManager =
      if shouldTeardown ((s.cleaned peerId).leaveSession peerId roomId).2
        ((s.cleaned peerId).sfuManager.roomHasProducers roomId) then
        (s.cleaned peerId).sfuManager.removeRoom roomId
      else (s.cleaned peerId).sfuManager := by
  rw [disconnectSession_eq, send_sfu, teardown, leaveSession_sfu]
  split_ifs
  · rfl
  · rfl

lemma disconnectSession_peer (peerId roomId r p : String) :
    (s.disconnectSession peerId roomId).sfuManager.peer r p =
      if shouldTeardown ((s.cleaned peerId).leaveSession peerId roomId).2
          ((s.cleaned peerId).sfuManager.roomHasProducers roomId) ∧ r = roomId then none
      else (s.cleaned peerId).sfuManager.peer r p := by
  rw [disconnectSession_eq, send_sfu, teardown_peer, leaveSession_sfu]

theorem disconnectSession_thins (peerId roomId : String) :
    Thins s.sfuManager (s.disconnectSession peerId roomId).sfuManager := by
  have hclean : Thins s.sfuManager (s.cleaned peerId).sfuManager :=
    ((s.cleanupGlobal_thins peerId).trans (reclaim_thins _ peerId _ none)).trans
      (reclaimDevice_thins _ peerId)
  refine hclean.trans (Thins.of_peer ?_)
  intro r p
  rw [disconnectSession_peer]
  split_ifs
  · exact Or.inl rfl
  · exact Or.inr rfl

lemma enter_sfu {q : JoinRequest} {t : SignalingServer} (h : s.enter q = .ok t) :
    t.sfuManager = s.sfuManager := by
  rw [enter] at h
  split at h
  · cases h
  · split at h <;> cases h <;> rfl

lemma ackJoin_sfu (q : JoinRequest) (peerId nonce : String) :
    (s.ackJoin q peerId nonce).server.sfuManager = s.sfuManager := by
  rw [ackJoin, issueTicket]
  split_ifs <;> rfl

theorem roomJoin_thins (q : JoinRequest) (nonce : String) :
    Thins s.sfuManager (s.roomJoin q nonce).server.sfuManager := by
  have ht : Thins s.sfuManager (s.takeover q).sfuManager := by
    rw [takeover]
    split
    · exact disconnectSession_thins { s with resumeTable := s.resumeTable.remove q.key } _ _
    · exact Thins.refl _
  have hs := s.roomJoin_step q nonce
  generalize s.roomJoin q nonce = j at hs
  cases hs with
  | burned => exact Thins.refl _
  | resumed => exact ackJoin_sfu (s.burn q) q _ nonce ▸ Thins.refl _
  | denied => exact ht
  | full => exact ht
  | joined _ _ he =>
    rw [ackJoin_sfu, enter_sfu _ he]
    exact ht

end SignalingServer

lemma step_sfu (sys : System) (a : Action) :
    Thins sys.server.sfuManager (sys.step a).server.sfuManager ∨
      ∃ i msg w c, a = .message i msg w ∧ sys.live i = some c ∧
        SfuStep sys.server c w (sys.step a).server.sfuManager msg := by
  have hclose : ∀ (t : System) i, Thins t.server.sfuManager (t.close i).server.sfuManager := by
    intro t i
    rw [System.close]
    split
    · exact Thins.refl _
    · dsimp only
      split
      · exact Thins.refl _
      · apply SignalingServer.disconnectSession_thins
  cases a with
  | join q nonce =>
    have h := sys.server.roomJoin_thins q nonce
    left
    rw [System.step, System.join]
    split <;> exact h
  | message i msg w =>
    rw [System.step, System.message]
    cases hl : sys.live i with
    | none => exact Or.inl (Thins.refl _)
    | some c =>
      have hm := sys.server.relayMessage_sfu c w msg
      dsimp only
      split_ifs with he
      · obtain ⟨r, p, rfl⟩ := relayMessage_ended he
        exact Or.inl (hclose { sys with server := sys.server.send c.roomId (.roomLeave r p) } i)
      · exact Or.inr ⟨i, msg, w, c, rfl, hl, hm⟩
  | close i => exact Or.inl (hclose sys i)
  | expire i =>
    left
    rw [System.step, System.expire]
    split
    · exact Thins.refl _
    · rename_i h _
      dsimp only
      split_ifs
      · exact SignalingServer.disconnectSession_thins
          { sys.server with resumeTable := sys.server.resumeTable.remove h.key } _ _
      · exact Thins.refl _
  | kickPeer p =>
    left
    rw [System.step, SignalingServer.kickPeer]
    split_ifs <;> exact Thins.refl _
  | removeRoom r =>
    left
    rw [System.step, SignalingServer.removeRoom]
    split_ifs <;> exact Thins.refl _

end MediaServo.Server
