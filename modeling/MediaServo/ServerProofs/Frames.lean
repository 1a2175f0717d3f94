import MediaServo.Server.System
import MediaServo.ServerProofs.Rooms

/-! What the server's operations leave alone. SFU requests, announcements and relayed messages
keep rooms, bindings and tickets; a departure changes them only for the departing peer. -/

namespace MediaServo.Server

open MediaServo.Foundations MediaServo.Common

structure Quiet (s t : SignalingServer) : Prop where
  rooms : t.roomManager = s.roomManager
  bindings : t.deviceBindings = s.deviceBindings
  table : t.resumeTable = s.resumeTable
  seq : t.resumeSeq = s.resumeSeq
  owners_of : ∀ {r d}, t.roomOwners.get r = some d → s.roomOwners.get r = some d
  owners : ∀ {r}, s.roomManager.contains r = true → t.roomOwners.get r = s.roomOwners.get r

namespace Quiet

variable {s t u : SignalingServer}

lemma refl (s : SignalingServer) : Quiet s s := ⟨rfl, rfl, rfl, rfl, id, fun _ => rfl⟩

lemma trans (h : Quiet s t) (k : Quiet t u) : Quiet s u where
  rooms := k.rooms.trans h.rooms
  bindings := k.bindings.trans h.bindings
  table := k.table.trans h.table
  seq := k.seq.trans h.seq
  owners_of ho := h.owners_of (k.owners_of ho)
  owners hr := (k.owners (by rwa [h.rooms])).trans (h.owners hr)

lemma foldl {α : Type} {f : SignalingServer → α → SignalingServer} (h : ∀ s a, Quiet s (f s a))
    (l : List α) (s : SignalingServer) : Quiet s (l.foldl f s) := by
  induction l generalizing s with
  | nil => exact refl s
  | cons a l ih => exact (h s a).trans (ih (f s a))

end Quiet

namespace SignalingServer

variable (s : SignalingServer)

lemma sfu_quiet (sfu : SfuManager) : Quiet s { s with sfuManager := sfu } :=
  ⟨rfl, rfl, rfl, rfl, id, fun _ => rfl⟩

lemma send_quiet (roomId : String) (msg : SignalingMessage) : Quiet s (s.send roomId msg) :=
  ⟨rfl, rfl, rfl, rfl, id, fun _ => rfl⟩

lemma disown_quiet (ids : List String) : Quiet s (s.disown ids) :=
  ⟨rfl, rfl, rfl, rfl, id, fun _ => rfl⟩

lemma forgetRoom_quiet {roomId : String} (h : s.roomManager.contains roomId = false) :
    Quiet s (s.forgetRoom roomId) where
  rooms := rfl
  bindings := rfl
  table := rfl
  seq := rfl
  owners_of ho := FiniteMap.get_of_remove ho
  owners {r} hr := FiniteMap.get_remove_ne _ (fun he => by simp [he, h] at hr)

lemma deferredCleanup_quiet (roomId : String) : Quiet s (s.deferredCleanup roomId) := by
  rw [deferredCleanup]
  split_ifs with h
  · apply forgetRoom_quiet
    rw [shouldDeferredCleanup, Bool.and_eq_true, Bool.not_eq_true'] at h
    exact h.1
  · exact Quiet.refl s

lemma announceProducersClosed_quiet (roomId reporter : String) (device : Option String)
    (closed : Closed) : Quiet s (s.announceProducersClosed roomId reporter device closed) := by
  rw [announceProducersClosed]
  split_ifs
  · exact Quiet.refl s
  · refine Quiet.trans ?_ (deferredCleanup_quiet _ roomId)
    cases device with
    | none => exact ⟨rfl, rfl, rfl, rfl, id, fun _ => rfl⟩
    | some d => exact ⟨rfl, rfl, rfl, rfl, id, fun _ => rfl⟩

lemma announceRooms_quiet (reporter : String) (device : Option String)
    (rooms : List (String × Closed)) : Quiet s (s.announceRooms reporter device rooms) :=
  Quiet.foldl (fun (s : SignalingServer) (e : String × Closed) =>
    s.announceProducersClosed_quiet e.1 reporter device e.2) rooms s

lemma cleanupGlobal_quiet (peerId : String) : Quiet s (s.cleanupGlobal peerId) :=
  (s.sfu_quiet _).trans (announceRooms_quiet _ peerId _ _)

lemma reclaim_quiet (peerId owner : String) (device : Option String) :
    Quiet s (s.reclaim peerId owner device) := by
  rw [reclaim]
  split_ifs
  · exact Quiet.refl s
  · exact ((s.sfu_quiet _).trans (disown_quiet _ _)).trans (announceRooms_quiet _ peerId _ _)

lemma reclaimDevice_quiet (peerId : String) : Quiet s (s.reclaimDevice peerId) := by
  rw [reclaimDevice]
  cases s.deviceIdOf peerId with
  | none => exact Quiet.refl s
  | some d => exact s.reclaim_quiet peerId d (some d)

def cleaned (s : SignalingServer) (peerId : String) : SignalingServer :=
  ((s.cleanupGlobal peerId).reclaimSession peerId).reclaimDevice peerId

lemma cleaned_quiet (peerId : String) : Quiet s (s.cleaned peerId) :=
  ((s.cleanupGlobal_quiet peerId).trans (reclaim_quiet _ peerId _ none)).trans
    (reclaimDevice_quiet _ peerId)

end SignalingServer

structure Departs (s t : SignalingServer) (peerId roomId : String) : Prop where
  rooms : t.roomManager = s.roomManager.depart roomId peerId
  bindings : t.deviceBindings = s.deviceBindings.remove peerId
  table : t.resumeTable = s.resumeTable
  seq : t.resumeSeq = s.resumeSeq
  owners_of : ∀ {r d}, t.roomOwners.get r = some d → s.roomOwners.get r = some d
  owners : ∀ {r p}, t.roomManager.Member r p → t.roomOwners.get r = s.roomOwners.get r

namespace SignalingServer

variable (s : SignalingServer)

lemma leaveSession_departs (peerId roomId : String) :
    Departs s (s.leaveSession peerId roomId).1 peerId roomId :=
  ⟨rfl, rfl, rfl, rfl, id, fun _ => rfl⟩

lemma teardown_fields (roomId : String) (removed : Bool) :
    (s.teardown roomId removed).roomManager = s.roomManager ∧
      (s.teardown roomId removed).deviceBindings = s.deviceBindings ∧
      (s.teardown roomId removed).resumeTable = s.resumeTable ∧
      (s.teardown roomId removed).resumeSeq = s.resumeSeq := by
  rw [teardown]
  split_ifs <;> exact ⟨rfl, rfl, rfl, rfl⟩

lemma teardown_owners_of {roomId r d : String} {removed : Bool}
    (h : (s.teardown roomId removed).roomOwners.get r = some d) : s.roomOwners.get r = some d := by
  rw [teardown] at h
  split_ifs at h
  · exact FiniteMap.get_of_remove h
  · exact h

lemma teardown_owners {roomId r : String} {removed : Bool} (h : removed = true → r ≠ roomId) :
    (s.teardown roomId removed).roomOwners.get r = s.roomOwners.get r := by
  rw [teardown]
  split_ifs with ht
  · rw [shouldTeardown, Bool.and_eq_true] at ht
    exact FiniteMap.get_remove_ne _ (h ht.1)
  · rfl

lemma not_member_of_removed {peerId roomId p : String}
    (h : (s.leaveSession peerId roomId).2 = true) :
    ¬(s.leaveSession peerId roomId).1.roomManager.Member roomId p := by
  intro hm
  have hl := RoomManager.member_of_depart hm
  have hin : (s.roomManager.leaveRoom roomId peerId).1.Member roomId p :=
    RoomManager.member_leaveRoom.2 hl
  have hc := RoomManager.contains_of_member hin
  have hf : (!(s.roomManager.leaveRoom roomId peerId).1.contains roomId) = true := h
  rw [hc] at hf
  contradiction

lemma teardown_departs {s t u : SignalingServer} {peerId roomId : String} {removed : Bool}
    (hq : Quiet s t) (hl : Departs t u peerId roomId)
    (hr : removed = true → ∀ p, ¬u.roomManager.Member roomId p) :
    Departs s (u.teardown roomId removed) peerId roomId := by
  obtain ⟨hrooms, hbind, htable, hseq⟩ := u.teardown_fields roomId removed
  refine ⟨?_, ?_, ?_, ?_, ?_, ?_⟩
  · rw [hrooms, hl.rooms, hq.rooms]
  · rw [hbind, hl.bindings, hq.bindings]
  · rw [htable, hl.table, hq.table]
  · rw [hseq, hl.seq, hq.seq]
  · intro r d h
    exact hq.owners_of (hl.owners_of (teardown_owners_of _ h))
  · intro r p h
    rw [hrooms] at h
    have hkept : s.roomManager.contains r = true := by
      rw [hl.rooms, hq.rooms] at h
      exact RoomManager.contains_of_member (RoomManager.member_of_depart h).1
    refine (teardown_owners _ ?_).trans ((hl.owners h).trans (hq.owners hkept))
    rintro hb rfl
    exact hr hb p h

lemma send_departs {s t : SignalingServer} {peerId roomId : String} (msg : SignalingMessage)
    (h : Departs s t peerId roomId) : Departs s (t.send roomId msg) peerId roomId :=
  ⟨h.rooms, h.bindings, h.table, h.seq, h.owners_of, h.owners⟩

lemma disconnectSession_eq (peerId roomId : String) :
    s.disconnectSession peerId roomId =
      (((s.cleaned peerId).leaveSession peerId roomId).1.teardown roomId
        ((s.cleaned peerId).leaveSession peerId roomId).2).send roomId (.roomLeave roomId peerId) := rfl

theorem disconnectSession_departs (peerId roomId : String) :
    Departs s (s.disconnectSession peerId roomId) peerId roomId := by
  rw [disconnectSession_eq]
  exact send_departs _ (teardown_departs (s.cleaned_quiet peerId)
    ((s.cleaned peerId).leaveSession_departs peerId roomId)
    (fun hr _ => not_member_of_removed _ hr))

variable (c : Session) (w : Worker)

lemma handleConnectTransport_fst (roomId peer transportId : String) :
    (s.handleConnectTransport roomId peer transportId w).1 = s := by
  rw [handleConnectTransport]
  split <;> rfl

lemma handlePreferredLayers_fst (roomId peer consumerId : String) :
    (s.handlePreferredLayers roomId peer consumerId w).1 = s := by
  rw [handlePreferredLayers]
  split <;> rfl

lemma handleStatsRequest_fst (producerId consumerId : Option String) :
    (s.handleStatsRequest c producerId consumerId w).1 = s := by
  simp only [handleStatsRequest]
  split
  · rfl
  · split
    · rfl
    · split
      · split <;> rfl
      · split <;> rfl
      · rfl

def announces : SignalingMessage → Bool
  | .produce .. | .createDataProducer .. | .downstreamGone .. => true
  | _ => false

lemma handleSfuMessage_others {msg : SignalingMessage} (ha : announces msg = false) :
    (s.handleSfuMessage c msg w).1 =
      { s with sfuManager := (s.handleSfuMessage c msg w).1.sfuManager } := by
  cases msg with
  | createWebRtcTransport =>
    simp only [handleSfuMessage, handleCreateTransport]
    split <;> rfl
  | connectWebRtcTransport => simp only [handleSfuMessage, handleConnectTransport_fst]
  | getRouterRtpCapabilities =>
    simp only [handleSfuMessage, handleRouterCapabilities]
    split <;> rfl
  | setPreferredLayers => simp only [handleSfuMessage, handlePreferredLayers_fst]
  | consume =>
    simp only [handleSfuMessage, handleConsume]
    split
    · rfl
    · split <;> rfl
  | consumeData =>
    simp only [handleSfuMessage, handleConsumeData]
    split
    · rfl
    · split
      · rfl
      · split <;> rfl
  | sfuStatsRequest => simp only [handleSfuMessage, handleStatsRequest_fst]
  | produce => cases ha
  | createDataProducer => cases ha
  | downstreamGone => cases ha
  | _ => rfl

lemma handleSfuMessage_tables {msg : SignalingMessage}
    (hm : ∀ gone room, msg ≠ .downstreamGone gone room) :
    ∃ sfu owners log, (s.handleSfuMessage c msg w).1 =
      { s with sfuManager := sfu, producerOwners := owners, sent := log } := by
  cases hmsg : msg with
  | produce =>
    rw [handleSfuMessage, handleProduce]
    split
    · exact ⟨_, _, _, rfl⟩
    · split <;> exact ⟨_, _, _, rfl⟩
  | createDataProducer =>
    rw [handleSfuMessage, handleCreateDataProducer]
    split
    · exact ⟨_, _, _, rfl⟩
    · split <;> exact ⟨_, _, _, rfl⟩
  | downstreamGone gone room => exact absurd hmsg (hm gone room)
  | _ => exact ⟨_, _, _, s.handleSfuMessage_others c w rfl⟩

lemma handleDownstreamGone_quiet (gonePeer roomId : String) :
    Quiet s (s.handleDownstreamGone c gonePeer roomId).1 := by
  rw [handleDownstreamGone]
  split
  · exact Quiet.refl s
  · dsimp only
    exact (s.sfu_quiet _).trans (announceProducersClosed_quiet _ _ _ _ _)

theorem handleSfuMessage_quiet (msg : SignalingMessage) : Quiet s (s.handleSfuMessage c msg w).1 := by
  by_cases hm : ∃ gone room, msg = .downstreamGone gone room
  · obtain ⟨gone, room, rfl⟩ := hm
    exact s.handleDownstreamGone_quiet c gone room
  · obtain ⟨sfu, owners, log, h⟩ :=
      s.handleSfuMessage_tables c w (fun gone room h => hm ⟨gone, room, h⟩)
    rw [h]
    exact ⟨rfl, rfl, rfl, rfl, id, fun _ => rfl⟩

lemma storeReport_eq (report : SignalingMessage) (streams : List StreamFlowJson) :
    ∃ events, s.storeReport c report streams = { s with
      adminEvents := events
      statusRegistry := s.statusRegistry.set c.roomId report } := by
  have hemit : ∀ (l : List StreamFlowJson) (t : SignalingServer), ∃ events,
      l.foldl (fun t x => t.emit (.streamCreate c.roomId x.id)) t = { t with adminEvents := events } := by
    intro l
    induction l with
    | nil => exact fun t => ⟨t.adminEvents, rfl⟩
    | cons x l ih => exact fun t => ih (t.emit (.streamCreate c.roomId x.id))
  obtain ⟨events, h⟩ := hemit streams s
  rw [storeReport]
  split_ifs
  · exact ⟨events, by rw [h]⟩
  · exact ⟨s.adminEvents, rfl⟩

lemma storeReport_quiet (report : SignalingMessage) (streams : List StreamFlowJson) :
    Quiet s (s.storeReport c report streams) := by
  obtain ⟨events, h⟩ := s.storeReport_eq c report streams
  rw [h]
  exact ⟨rfl, rfl, rfl, rfl, id, fun _ => rfl⟩

lemma handleStatusReport_quiet (report : SignalingMessage) (streams : List StreamFlowJson) :
    Quiet s (s.handleStatusReport c report streams).1 := by
  rw [handleStatusReport]
  split
  · exact Quiet.refl s
  · exact s.storeReport_quiet c report streams

lemma handleEmergency_quiet (msg : SignalingMessage) : Quiet s (s.handleEmergency c msg).1 := by
  rw [handleEmergency]
  split
  · exact s.send_quiet _ _
  · exact Quiet.refl s

lemma relay_quiet (msg : SignalingMessage) : Quiet s (s.relay c msg) := by
  rw [relay]
  dsimp only
  split_ifs <;> exact ⟨rfl, rfl, rfl, rfl, id, fun _ => rfl⟩

lemma sfuOrRelay_quiet (msg : SignalingMessage) : Quiet s (s.sfuOrRelay c msg w).server := by
  have hq := s.handleSfuMessage_quiet c w msg
  rw [sfuOrRelay]
  split <;> rename_i hr <;> rw [hr] at hq
  · exact hq
  · exact hq.trans (relay_quiet _ c msg)

theorem relayMessage_quiet (msg : SignalingMessage) : Quiet s (s.relayMessage c msg w).server := by
  cases msg with
  | roomLeave => exact s.send_quiet _ _
  | statusReport => exact s.handleStatusReport_quiet c _ _
  | emergencyCommand => exact s.handleEmergency_quiet c _
  | configPush => exact Quiet.refl s
  | _ => exact s.sfuOrRelay_quiet c w _

end SignalingServer

end MediaServo.Server
