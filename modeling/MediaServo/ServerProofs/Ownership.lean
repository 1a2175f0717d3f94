import MediaServo.ServerProofs.Announcements
import MediaServo.ServerProofs.Orphans

/-! Who owns a producer: the record written when a session creates it stays as long as the
producer does. From this follows what the cleanup of one session leaves of the others, and which
part of the SFU a message of one session reaches. -/

namespace MediaServo.Server

open MediaServo.Foundations MediaServo.Common SignalingServer

def created : Option SignalingMessage → Option String
  | some (.produced _ id) => some id
  | some (.dataProducerCreated _ id) => some id
  | _ => none

def OwnersKept (s t : SignalingServer) : Prop :=
  ∀ r x id, id ∈ t.sfuManager.idsAt r x →
    id ∈ s.sfuManager.idsAt r x ∧ t.producerOwners.get id = s.producerOwners.get id

namespace OwnersKept

variable {s t u : SignalingServer}

lemma refl (s : SignalingServer) : OwnersKept s s := fun _ _ _ hid => ⟨hid, rfl⟩

lemma trans (h : OwnersKept s t) (k : OwnersKept t u) : OwnersKept s u := by
  intro r x id hid
  obtain ⟨ht, ho⟩ := k r x id hid
  obtain ⟨hs, ho'⟩ := h r x id ht
  exact ⟨hs, ho.trans ho'⟩

lemma of_same (hs : t.sfuManager = s.sfuManager) (ho : t.producerOwners = s.producerOwners) :
    OwnersKept s t := by
  intro r x id hid
  rw [hs] at hid
  exact ⟨hid, by rw [ho]⟩

lemma of_ids (hs : ∀ r x, t.sfuManager.idsAt r x = s.sfuManager.idsAt r x)
    (ho : t.producerOwners = s.producerOwners) : OwnersKept s t := by
  intro r x id hid
  rw [hs] at hid
  exact ⟨hid, by rw [ho]⟩

end OwnersKept

lemma Puts.mem_idsAt {sfu sfu' : SfuManager} {room peer id : String} {e : SfuPeer}
    (h : Puts sfu sfu' room peer (some e))
    (he : ∀ id', id' ∈ e.producers.map Producer.id ++ e.dataProducers.map DataProducer.id →
      id' = id ∨ id' ∈ sfu.idsAt room peer)
    {r x id' : String} (hid : id' ∈ sfu'.idsAt r x) : id' = id ∨ id' ∈ sfu.idsAt r x := by
  have hrx := h r x
  split_ifs at hrx with hc
  · obtain ⟨rfl, rfl⟩ := hc
    rw [SfuManager.idsAt_of_some hrx] at hid
    exact he id' hid
  · rw [SfuManager.idsAt, SfuManager.mediaAt_congr hrx, SfuManager.dataAt_congr hrx] at hid
    exact Or.inr hid

inductive OwnerStep (s : SignalingServer) (c : Session) (t : SignalingServer)
    (reply : Option SignalingMessage) : Prop
  | created (id : String) (new : created reply = some id)
      (owner : t.producerOwners = s.producerOwners.set id (s.ownerKey c.peerId))
      (ids : ∀ {r x id'}, id' ∈ t.sfuManager.idsAt r x → id' = id ∨ id' ∈ s.sfuManager.idsAt r x)
  | kept (none : created reply = none) (kept : OwnersKept s t)

namespace SignalingServer

variable (s : SignalingServer) (c : Session) (w : Worker)

lemma handleProduce_owner (roomId peer : String) (direction : TransportDirection) (kind : MediaKind)
    (transportId label : Option String) :
    OwnerStep s c (s.handleProduce c roomId peer direction kind transportId label w).1
      (s.handleProduce c roomId peer direction kind transportId label w).2 := by
  rw [handleProduce]
  split
  · exact .kept rfl (OwnersKept.refl s)
  · split
    · exact .kept rfl (OwnersKept.refl s)
    · rename_i sfu id h
      obtain ⟨_, e, t, he, hput⟩ := SfuManager.createProducer_ok _ w h
      refine .created id rfl rfl ?_
      intro r x id' hid
      refine hput.mem_idsAt ?_ hid
      intro y hy
      rw [SfuManager.idsAt_of_some he]
      simp only [List.map_append, List.map_cons, List.map_nil, List.mem_append,
        List.mem_singleton] at hy ⊢
      tauto

lemma handleCreateDataProducer_owner (roomId peer : String) (direction : TransportDirection)
    (label protocol : String) (sctp : Option SctpStreamParameters) (transportId : Option String) :
    OwnerStep s c
      (s.handleCreateDataProducer c roomId peer direction label protocol sctp transportId w).1
      (s.handleCreateDataProducer c roomId peer direction label protocol sctp transportId w).2 := by
  rw [handleCreateDataProducer]
  split
  · exact .kept rfl (OwnersKept.refl s)
  · split
    · exact .kept rfl (OwnersKept.refl s)
    · rename_i sfu id h
      obtain ⟨_, _, e, t, he, _, hput⟩ := SfuManager.createDataProducer_ok _ w h
      refine .created id rfl rfl ?_
      intro r x id' hid
      refine hput.mem_idsAt ?_ hid
      intro y hy
      rw [SfuManager.idsAt_of_some he]
      simp only [List.map_append, List.map_cons, List.map_nil, List.mem_append,
        List.mem_singleton] at hy ⊢
      tauto

lemma handleStatsRequest_created (producerId consumerId : Option String) :
    created (s.handleStatsRequest c producerId consumerId w).2 = none := by
  simp only [handleStatsRequest]
  split
  · rfl
  · split
    · rfl
    · split
      · split <;> rfl
      · split <;> rfl
      · rfl

lemma handleDownstreamGone_owner (hu : s.sfuManager.UniqueIds) (gonePeer roomId : String) :
    OwnerStep s c (s.handleDownstreamGone c gonePeer roomId).1
      (s.handleDownstreamGone c gonePeer roomId).2 := by
  have hreply : (s.handleDownstreamGone c gonePeer roomId).2 = none := by
    rw [handleDownstreamGone]
    split <;> rfl
  rw [hreply]
  cases hd : s.deviceIdOf c.peerId with
  | none =>
    rw [handleDownstreamGone, hd]
    exact .kept rfl (OwnersKept.refl s)
  | some d =>
    refine .kept rfl ?_
    intro r x id hid
    obtain ⟨hid, hne⟩ := (gone_ids hd).mp hid
    refine ⟨hid, ?_⟩
    rw [handleDownstreamGone_bound hd, announceProducersClosed_owner, removePeerInRoom_closed, if_neg]
    rintro ⟨_, hm⟩
    obtain ⟨hr, hx⟩ := hu.place hid (SfuManager.mem_idsAt.2 (Or.inl hm))
    exact hne ⟨hr, hx⟩

lemma handleSfuMessage_created {msg : SignalingMessage} (ha : announces msg = false) :
    created (s.handleSfuMessage c msg w).2 = none := by
  cases msg with
  | createWebRtcTransport =>
    rw [handleSfuMessage, handleCreateTransport]
    split <;> rfl
  | connectWebRtcTransport =>
    rw [handleSfuMessage, handleConnectTransport]
    split <;> rfl
  | getRouterRtpCapabilities =>
    rw [handleSfuMessage, handleRouterCapabilities]
    split <;> rfl
  | setPreferredLayers =>
    rw [handleSfuMessage, handlePreferredLayers]
    split <;> rfl
  | consume =>
    rw [handleSfuMessage, handleConsume]
    split
    · rfl
    · split <;> rfl
  | consumeData =>
    rw [handleSfuMessage, handleConsumeData]
    split
    · rfl
    · split
      · rfl
      · split <;> rfl
  | sfuStatsRequest => apply handleStatsRequest_created
  | produce => cases ha
  | createDataProducer => cases ha
  | downstreamGone => cases ha
  | _ => rfl

lemma handleSfuMessage_owner (hu : s.sfuManager.UniqueIds) (msg : SignalingMessage) :
    OwnerStep s c (s.handleSfuMessage c msg w).1 (s.handleSfuMessage c msg w).2 := by
  have hother : announces msg = false →
      OwnerStep s c (s.handleSfuMessage c msg w).1 (s.handleSfuMessage c msg w).2 := by
    intro ha
    have howner : (s.handleSfuMessage c msg w).1.producerOwners = s.producerOwners := by
      rw [s.handleSfuMessage_others c w ha]
    refine .kept (s.handleSfuMessage_created c w ha) (OwnersKept.of_ids ?_ howner)
    intro r x
    obtain ⟨hm, hd⟩ := (s.handleSfuMessage_sfu c w msg).producers_same ha r x
    rw [SfuManager.idsAt, SfuManager.idsAt, hm, hd]
  cases msg with
  | produce => apply handleProduce_owner
  | createDataProducer => apply handleCreateDataProducer_owner
  | downstreamGone => exact s.handleDownstreamGone_owner c hu _ _
  | _ => exact hother rfl

lemma relay_kept (msg : SignalingMessage) : OwnersKept s (s.relay c msg) := by
  apply OwnersKept.of_same (s.relay_sfu c msg)
  rw [relay]
  dsimp only
  split_ifs <;> rfl

lemma storeReport_owners (report : SignalingMessage) (streams : List StreamFlowJson) :
    (s.storeReport c report streams).producerOwners = s.producerOwners := by
  obtain ⟨events, h⟩ := s.storeReport_eq c report streams
  rw [h]

lemma sfuOrRelay_owner (hu : s.sfuManager.UniqueIds) (msg : SignalingMessage) :
    OwnerStep s c (s.sfuOrRelay c msg w).server (s.sfuOrRelay c msg w).reply := by
  have h := s.handleSfuMessage_owner c w hu msg
  rw [sfuOrRelay]
  split <;> rename_i hr <;> rw [hr] at h
  · exact h
  · cases h with
    | created id new => cases new
    | kept _ kept => exact .kept rfl (kept.trans (relay_kept _ c msg))

theorem relayMessage_owner (hu : s.sfuManager.UniqueIds) (msg : SignalingMessage) :
    OwnerStep s c (s.relayMessage c msg w).server (s.relayMessage c msg w).reply := by
  cases msg with
  | roomLeave => exact .kept rfl (OwnersKept.of_same rfl rfl)
  | statusReport =>
    rw [relayMessage, handleStatusReport]
    split
    · exact .kept rfl (OwnersKept.refl s)
    · exact .kept rfl (OwnersKept.of_same (s.storeReport_sfu c _ _) (s.storeReport_owners c _ _))
  | emergencyCommand =>
    rw [relayMessage, handleEmergency]
    split
    · exact .kept rfl (OwnersKept.of_same rfl rfl)
    · exact .kept rfl (OwnersKept.refl s)
  | configPush => exact .kept rfl (OwnersKept.refl s)
  | _ => exact s.sfuOrRelay_owner c w hu _

end SignalingServer

lemma cleaned_owner {s : SignalingServer} (hu : s.sfuManager.UniqueIds) {p r x id : String}
    (hid : id ∈ s.sfuManager.idsAt r x) (hx : x ≠ p) (hd : ¬s.Doomed p id) :
    (s.cleaned p).producerOwners.get id = s.producerOwners.get id := by
  have h2 : Reclaims (s.cleanupGlobal p) ((s.cleanupGlobal p).reclaimSession p)
      (some (sessionKey p)) := reclaim_reclaims _ (hu.thins (s.cleanupGlobal_thins p)) p _ none
  have hthin := (s.cleanupGlobal_thins p).trans (reclaim_thins _ p (sessionKey p) none)
  have h3 := reclaimDevice_reclaims ((s.cleanupGlobal p).reclaimSession p) (hu.thins hthin) p
  have hdev : ((s.cleanupGlobal p).reclaimSession p).deviceIdOf p = s.deviceIdOf p := by
    rw [deviceIdOf, deviceIdOf, reclaimSession,
      ((s.cleanupGlobal_quiet p).trans (reclaim_quiet _ p (sessionKey p) none)).bindings]
  rw [hdev] at h3
  obtain ⟨hs, hdv⟩ := (not_doomed_iff hu h2 hid hx).mp hd
  change (((s.cleanupGlobal p).reclaimSession p).reclaimDevice p).producerOwners.get id = _
  rw [h3.keeps hdv, h2.keeps hs, cleanupGlobal_owner_ne hu hid hx]

lemma disconnectSession_kept {s : SignalingServer} (hu : s.sfuManager.UniqueIds) (p room : String) :
    OwnersKept s (s.disconnectSession p room) := by
  intro r x id hid
  obtain ⟨⟨hid, hx, hd⟩, _⟩ := (disconnectSession_ids (cleaned_cleaned hu)).mp hid
  refine ⟨hid, ?_⟩
  rw [(disconnectSession_told s p room).2, cleaned_owner hu hid hx hd]

lemma roomJoin_kept {s : SignalingServer} (hu : s.sfuManager.UniqueIds) (q : JoinRequest)
    (nonce : String) : OwnersKept s (s.roomJoin q nonce).server := by
  have htake : OwnersKept s (s.takeover q) := by
    rw [takeover]
    split
    · have hk := disconnectSession_kept
        (s := { s with resumeTable := s.resumeTable.remove q.key }) hu
      intro r x id hid
      exact hk _ _ r x id hid
    · exact OwnersKept.refl s
  have hack : ∀ (t : SignalingServer) p, OwnersKept t (t.ackJoin q p nonce).server := by
    intro t p
    apply OwnersKept.of_same (t.ackJoin_sfu q p nonce)
    rw [ackJoin, issueTicket]
    split_ifs <;> rfl
  have hs := s.roomJoin_step q nonce
  generalize s.roomJoin q nonce = j at hs
  cases hs with
  | burned => exact OwnersKept.of_same rfl rfl
  | resumed => exact (OwnersKept.of_same rfl rfl).trans (hack (s.burn q) _)
  | denied => exact htake
  | full => exact htake
  | joined _ _ he =>
    refine (htake.trans (OwnersKept.of_same (enter_sfu _ he) ?_)).trans (hack _ _)
    rw [enter] at he
    split at he
    · cases he
    · split at he <;> cases he <;> rfl

section Runs

variable {sys : System} {a : Action}

def Creates (c : Session) (id : String) (sys : System) (a : Action) : Prop :=
  ∃ i msg w, a = .message i msg w ∧ sys.live i = some c ∧
    created (sys.server.relayMessage c msg w).reply = some id

/-- The session creates the producer, and the owners table records it under the key. -/
def CreatesAs (c : Session) (id key : String) (sys : System) (a : Action) : Prop :=
  Creates c id sys a ∧ sys.server.ownerKey c.peerId = key

def CreatesAny (id : String) (sys : System) (a : Action) : Prop := ∃ c, Creates c id sys a

lemma Creates.unique {c c' : Session} {id id' : String} (h : Creates c id sys a)
    (h' : Creates c' id' sys a) : c = c' ∧ id = id' := by
  obtain ⟨i, msg, w, rfl, hl, hid⟩ := h
  obtain ⟨_, _, _, ha, hl', hid'⟩ := h'
  cases ha
  rw [hl] at hl'
  cases hl'
  rw [hid] at hid'
  cases hid'
  exact ⟨rfl, rfl⟩

lemma close_kept (hu : sys.server.sfuManager.UniqueIds) (i : ℕ) :
    OwnersKept sys.server (sys.close i).server := by
  rw [System.close]
  split
  · exact OwnersKept.refl _
  · dsimp only
    split
    · exact OwnersKept.refl _
    · exact disconnectSession_kept hu _ _

inductive OwnerRun (sys : System) (a : Action) (t : SignalingServer) : Prop
  | created (c : Session) (id : String) (creates : Creates c id sys a)
      (owner : t.producerOwners = sys.server.producerOwners.set id (sys.server.ownerKey c.peerId))
      (ids : ∀ {r x id'}, id' ∈ t.sfuManager.idsAt r x →
        id' = id ∨ id' ∈ sys.server.sfuManager.idsAt r x)
  | kept (none : ∀ c id, ¬Creates c id sys a) (kept : OwnersKept sys.server t)

theorem step_owner (hu : sys.server.sfuManager.UniqueIds) (a : Action) :
    OwnerRun sys a (sys.step a).server := by
  have hno : (∀ i msg w, a ≠ .message i msg w) → ∀ c id, ¬Creates c id sys a := by
    rintro hne c id ⟨i, msg, w, rfl, _⟩
    exact hne i msg w rfl
  cases a with
  | join q nonce =>
    refine .kept (hno (by simp)) ?_
    rw [System.step, join_server]
    exact roomJoin_kept hu q nonce
  | message i msg w =>
    rw [System.step, System.message]
    cases hl : sys.live i with
    | none =>
      refine .kept ?_ (OwnersKept.refl _)
      rintro c id ⟨_, _, _, ha, hl', _⟩
      cases ha
      rw [hl] at hl'
      cases hl'
    | some c =>
      have hm := sys.server.relayMessage_owner c w hu msg
      dsimp only
      split_ifs with he
      · obtain ⟨r, p, rfl⟩ := relayMessage_ended he
        refine .kept ?_ ?_
        · rintro c' id ⟨_, _, _, ha, _, hid⟩
          cases ha
          cases hid
        · let left : System := { sys with server := sys.server.send c.roomId (.roomLeave r p) }
          have hu' : left.server.sfuManager.UniqueIds := hu
          exact close_kept hu' i
      · cases hm with
        | created id new owner ids => exact .created c id ⟨i, msg, w, rfl, hl, new⟩ owner ids
        | kept none kept =>
          refine .kept ?_ kept
          rintro c' id ⟨_, _, _, ha, hl', hid⟩
          cases ha
          rw [hl] at hl'
          cases hl'
          rw [none] at hid
          cases hid
  | close i => exact .kept (hno (by simp)) (close_kept hu i)
  | expire i =>
    refine .kept (hno (by simp)) ?_
    rw [System.step, System.expire]
    split
    · exact OwnersKept.refl _
    · rename_i h _
      dsimp only
      split_ifs
      · exact disconnectSession_kept
          (s := { sys.server with resumeTable := sys.server.resumeTable.remove h.key }) hu _ _
      · exact OwnersKept.refl _
  | kickPeer p =>
    refine .kept (hno (by simp)) ?_
    rw [System.step, SignalingServer.kickPeer]
    split_ifs <;> exact OwnersKept.refl _
  | removeRoom r =>
    refine .kept (hno (by simp)) ?_
    rw [System.step, SignalingServer.removeRoom]
    split_ifs <;> exact OwnersKept.refl _

theorem owner_recorded {acts : List Action} (hfresh : Along System.step FreshIds .init acts)
    {c : Session} {id key r x : String}
    (hc : Since System.step (CreatesAs c id key) (CreatesAny id) .init acts)
    (hid : id ∈ (run System.step .init acts).server.sfuManager.idsAt r x) :
    (run System.step .init acts).server.producerOwners.get id = some key := by
  induction acts using List.reverseRecOn with
  | nil => exact absurd hc not_since_nil
  | append_singleton acts a ih =>
    have hf := ((along_append acts [a]).mp hfresh).1
    rw [run_snoc] at hid ⊢
    have hs := step_owner (unique_run hf) a
    -- The last creation of the producer is this step, or an earlier one whose record is intact.
    obtain ⟨hnew, hkey⟩ | ⟨hold, hno⟩ := since_snoc.1 hc
    · cases hs with
      | created c' id' creates owner ids =>
        obtain ⟨rfl, rfl⟩ := hnew.unique creates
        rw [owner, FiniteMap.get_set_self, hkey]
      | kept none kept => exact absurd hnew (none c id)
    · cases hs with
      | created c' id' creates owner ids =>
        have hne : id ≠ id' := by
          rintro rfl
          exact hno ⟨c', creates⟩
        rw [owner, FiniteMap.get_set_ne _ _ hne]
        exact ih hf hold ((ids hid).resolve_left hne)
      | kept none kept =>
        obtain ⟨hid, howner⟩ := kept r x id hid
        rw [howner]
        exact ih hf hold hid

end Runs

lemma not_doomed_of_recorded {s : SignalingServer} {id key p : String}
    (ho : s.producerOwners.get id = some key) (hp : key ≠ sessionKey p)
    (hd : s.deviceIdOf p ≠ some key) : ¬s.Doomed p id := by
  rintro (⟨o, hs, hg⟩ | ⟨o, hs, hg⟩)
  · rw [ho] at hg
    cases hg
    exact hp (Option.some.inj hs).symm
  · rw [ho] at hg
    cases hg
    exact hd hs

section Cleanup

variable {s : SignalingServer} {p room r x : String}

lemma disconnectSession_peer_of (hc : Cleaned s (s.cleaned p) p)
    (h : ¬(EmptiesRoom s p room ∧ r = room)) :
    (s.disconnectSession p room).sfuManager.peer r x = (s.cleaned p).sfuManager.peer r x := by
  rw [disconnectSession_peer, if_neg]
  rwa [← emptiesRoom_iff hc] at h

lemma disconnectSession_media (hu : s.sfuManager.UniqueIds) {y : Producer}
    (hy : y ∈ s.sfuManager.mediaAt r x) (hx : x ≠ p) (hd : ¬s.Doomed p y.id) :
    y ∈ (s.disconnectSession p room).sfuManager.mediaAt r x := by
  have hc : Cleaned s (s.cleaned p) p := cleaned_cleaned hu
  have hstays : ¬(EmptiesRoom s p room ∧ r = room) := by
    rintro ⟨hempty, rfl⟩
    exact hd (hempty.2 x y hx hy)
  rw [SfuManager.mediaAt_congr (disconnectSession_peer_of hc hstays)]
  exact hc.media.mpr ⟨hy, hx, hd⟩

lemma disconnectSession_data (hu : s.sfuManager.UniqueIds) {y : DataProducer}
    (hy : y ∈ s.sfuManager.dataAt r x) (hx : x ≠ p) (hd : ¬s.Doomed p y.id)
    (hroom : r = room → ¬EmptiesRoom s p room) :
    y ∈ (s.disconnectSession p room).sfuManager.dataAt r x := by
  have hc : Cleaned s (s.cleaned p) p := cleaned_cleaned hu
  have hstays : ¬(EmptiesRoom s p room ∧ r = room) := fun h => hroom h.2 h.1
  rw [SfuManager.dataAt_congr (disconnectSession_peer_of hc hstays)]
  exact hc.data.mpr ⟨hy, hx, hd⟩

end Cleanup

theorem session_cleanup_frame (acts : List Action)
    (hfresh : Along System.step FreshIds .init acts) (c : Session) (id key : String)
    (hcreated : Since System.step (CreatesAs c id key) (CreatesAny id) .init acts)
    (table : ResumeTable) (log : List (String × SignalingMessage)) (p room r x : String)
    (hsession : key ≠ sessionKey p)
    (hdevice : (run System.step .init acts).server.deviceIdOf p ≠ some key) (hx : x ≠ p) :
    let s : SignalingServer :=
      { (run System.step .init acts).server with resumeTable := table, sent := log }
    (∀ y ∈ s.sfuManager.mediaAt r x, y.id = id →
        y ∈ (s.disconnectSession p room).sfuManager.mediaAt r x) ∧
      ∀ y ∈ s.sfuManager.dataAt r x, y.id = id → (r = room → ¬EmptiesRoom s p room) →
        y ∈ (s.disconnectSession p room).sfuManager.dataAt r x := by
  intro s
  have hu : s.sfuManager.UniqueIds := unique_run hfresh
  have hsafe : id ∈ s.sfuManager.idsAt r x → ¬s.Doomed p id := by
    intro hid
    exact not_doomed_of_recorded (owner_recorded hfresh hcreated hid) hsession hdevice
  constructor
  · rintro y hy rfl
    have hid := SfuManager.mem_idsAt.2 (Or.inl (List.mem_map_of_mem (f := Producer.id) hy))
    exact disconnectSession_media hu hy hx (hsafe hid)
  · rintro y hy rfl hroom
    have hid := SfuManager.mem_idsAt.2 (Or.inr (List.mem_map_of_mem (f := DataProducer.id) hy))
    exact disconnectSession_data hu hy hx (hsafe hid) hroom

lemma freshIds_message {sys : System} {i : ℕ} {msg : SignalingMessage} {id : String}
    (h : (sys.server.sfuManager.removeProducersByIds [id]).2.isEmpty = true) :
    FreshIds sys (.message i msg (willing id)) := by
  rintro x (hx | hx)
  · cases hx
    exact not_hasId_of_unreported h
  · cases hx
    exact not_hasId_of_unreported h

def carAndBus : List Action :=
  [.join ⟨"p", .device "car", "car", .host, some 2, none⟩ "n1",
    .join ⟨"q", .device "bus", "bus", .host, some 2, none⟩ "n2",
    .message 0 (.createWebRtcTransport "bus" "front" .send) (willing "t"),
    .message 0 (.produce "bus" "front" .send .video ⟨"null"⟩ none none) (willing "x")]

lemma carAndBus_fresh : Along System.step FreshIds .init carAndBus :=
  ⟨trivial, trivial, freshIds_message (by decide), freshIds_message (by decide), trivial⟩

theorem session_cleanup_frame_two_devices :
    let s := (run System.step .init carAndBus).server
    s.sfuManager.mediaAt "bus" "front" = [⟨"x", .video⟩] ∧
      ⟨"x", .video⟩ ∈ (s.disconnectSession "p" "car").sfuManager.mediaAt "bus" "front" := by
  intro s
  have hmedia : s.sfuManager.mediaAt "bus" "front" = [⟨"x", .video⟩] := by decide
  have hcreated : Since System.step (CreatesAs ⟨"q", "bus", .host, .device "bus", 2⟩ "x" "bus")
      (CreatesAny "x") .init carAndBus := by
    refine ⟨carAndBus.dropLast, _, [], rfl, ⟨⟨0, _, _, rfl, ?_, ?_⟩, ?_⟩, trivial⟩
    · decide
    · decide
    · decide
  refine ⟨hmedia, ?_⟩
  apply (session_cleanup_frame carAndBus carAndBus_fresh _ _ _ hcreated s.resumeTable s.sent "p" "car"
    "bus" "front" (by decide) (by decide) (by decide)).1
  · rw [hmedia]
    exact List.mem_singleton_self _
  · rfl

lemma close_disconnects {sys : System} {i : ℕ} {c : Session} (hl : sys.live i = some c)
    (hh : sys.server.heldSeq c = none) :
    (sys.step (.close i)).server = sys.server.disconnectSession c.peerId c.roomId := by
  simp only [System.step, System.close, hl, hh]

theorem other_session_of_device_cleaned :
    let car : SessionIdentity := .device "car"
    let acts : List Action :=
      [.join ⟨"p", car, "car", .host, some 2, none⟩ "n1",
        .join ⟨"q", car, "audio-car", .host, some 2, none⟩ "n2",
        .message 0 (.createWebRtcTransport "audio-car" "mic" .send) (willing "t"),
        .message 0 (.produce "audio-car" "mic" .send .audio ⟨"null"⟩ none none) (willing "x")]
    let sys := run System.step .init acts
    Since System.step (Creates ⟨"q", "audio-car", .host, car, 2⟩ "x") (CreatesAny "x") .init acts ∧
      sys.live 1 = some ⟨"p", "car", .host, car, 2⟩ ∧
      sys.server.sfuManager.mediaAt "audio-car" "mic" = [⟨"x", .audio⟩] ∧
      (sys.step (.close 1)).live 0 = some ⟨"q", "audio-car", .host, car, 2⟩ ∧
      (sys.step (.close 1)).server = sys.server.disconnectSession "p" "car" ∧
      (sys.step (.close 1)).server.sfuManager.mediaAt "audio-car" "mic" = [] := by
  intro car acts sys
  refine ⟨⟨acts.dropLast, _, [], rfl, ⟨0, _, _, rfl, ?_, ?_⟩, trivial⟩, ?_, ?_, ?_, ?_, ?_⟩
  · decide
  · decide
  · decide
  · decide
  · decide
  · exact close_disconnects (c := ⟨"p", "car", .host, car, 2⟩) (by decide) (by decide)
  · decide

def OfRemaining (acts : List Action) (p id : String) : Prop :=
  ∃ c, Since System.step (Creates c id) (CreatesAny id) .init acts ∧ c.peerId ≠ p ∧
    ∃ r, Kept (run System.step .init acts) c.peerId r

def TearsDown (s : SignalingServer) (p room : String) : Prop :=
  shouldTeardown ((s.cleaned p).leaveSession p room).2
    ((s.cleaned p).sfuManager.roomHasProducers room) = true

theorem router_teardown_safety (acts : List Action)
    (hfresh : Along System.step FreshIds .init acts) (table : ResumeTable)
    (log : List (String × SignalingMessage)) (p room : String) :
    let s : SignalingServer :=
      { (run System.step .init acts).server with resumeTable := table, sent := log }
    (TearsDown s p room → ∀ x id, id ∈ (s.cleaned p).sfuManager.idsAt room x →
        ¬OfRemaining acts p id) ↔
      (EmptiesRoom s p room → ∀ x y, y ∈ s.sfuManager.dataAt room x → x ≠ p →
        ¬s.Doomed p y.id → ¬OfRemaining acts p y.id) := by
  intro s
  have hc : Cleaned s (s.cleaned p) p := cleaned_cleaned (unique_run hfresh)
  have htears : TearsDown s p room ↔ EmptiesRoom s p room := emptiesRoom_iff hc
  rw [htears]
  constructor
  · intro h hempty x y hy hx hd
    apply h hempty x
    exact hc.ids.2 ⟨SfuManager.mem_idsAt.2 (Or.inr (List.mem_map_of_mem hy)), hx, hd⟩
  · intro h hempty x id hid
    obtain ⟨hid, hx, hd⟩ := hc.ids.1 hid
    obtain hm | hm := SfuManager.mem_idsAt.1 hid
    · obtain ⟨y, hy, rfl⟩ := List.mem_map.mp hm
      exact absurd (hempty.2 x y hx hy) hd
    · obtain ⟨y, hy, rfl⟩ := List.mem_map.mp hm
      exact h hempty x y hy hx hd

theorem router_teardown_safety_two_devices :
    let s := (run System.step .init carAndBus).server
    TearsDown s "p" "car" ∧ ∀ x id, id ∈ (s.cleaned "p").sfuManager.idsAt "car" x →
      ¬OfRemaining carAndBus "p" id := by
  intro s
  have htears : TearsDown s "p" "car" := by
    change shouldTeardown _ _ = true
    decide
  have hroom : (s.sfuManager.get "car").isNone = true := by decide
  refine ⟨htears, ?_⟩
  apply (router_teardown_safety carAndBus carAndBus_fresh s.resumeTable s.sent "p" "car").mpr _ htears
  intro _ x y hy
  rw [SfuManager.dataAt, SfuManager.peer] at hy
  change y ∈ (((s.sfuManager.get "car").bind _).map _).getD [] at hy
  rw [Option.isNone_iff_eq_none.mp hroom] at hy
  cases hy

def streamRoomViewer : List Action :=
  [.join ⟨"p", .device "car", "car", .host, some 2, none⟩ "n1",
    .message 0 (.createWebRtcTransport "car_front" "front" .send) (willing "t"),
    .message 0 (.createDataProducer "car_front" "front" .send "control" "json"
      (some ⟨0, true, none, none⟩) none) (willing "x"),
    .join ⟨"c", .legacy, "car_front", .consumer, some 2, none⟩ "n2"]

theorem teardown_drops_data_producer :
    let sys := run System.step .init streamRoomViewer
    OfRemaining streamRoomViewer "c" "x" ∧
      sys.server.sfuManager.dataAt "car_front" "front" = [⟨"x", "control", "json"⟩] ∧
      "x" ∈ (sys.server.cleaned "c").sfuManager.idsAt "car_front" "front" ∧
      TearsDown sys.server "c" "car_front" ∧
      (sys.step (.close 0)).server = sys.server.disconnectSession "c" "car_front" ∧
      (sys.step (.close 0)).live 1 = some ⟨"p", "car", .host, .device "car", 2⟩ ∧
      (sys.step (.close 0)).server.sfuManager.dataAt "car_front" "front" = [] := by
  intro sys
  refine ⟨⟨⟨"p", "car", .host, .device "car", 2⟩, ?_, by decide, "car", Or.inl ?_⟩, ?_, ?_, ?_, ?_,
    ?_, ?_⟩
  · refine ⟨streamRoomViewer.take 2, _, streamRoomViewer.drop 3, rfl, ⟨0, _, _, rfl, ?_, ?_⟩, ?_, trivial⟩
    · decide
    · decide
    · rintro ⟨_, _, _, _, h, _⟩
      cases h
  · refine ⟨_, ?_, rfl, rfl⟩
    decide
  · decide
  · decide
  · change shouldTeardown _ _ = true
    decide
  · exact close_disconnects (c := ⟨"c", "car_front", .consumer, .legacy, 2⟩) (by decide)
      (by decide)
  · decide
  · decide

section Confined

variable {P Q : String → Prop} {e e' e'' : SfuPeer} {s : SignalingServer} {c : Session} {p : String}

structure Strips (P : String → Prop) (e e' : SfuPeer) : Prop where
  sendTransports : e'.sendTransports = e.sendTransports
  recvTransports : e'.recvTransports = e.recvTransports
  consumers : e'.consumers = e.consumers
  producers : e'.producers.Sublist e.producers
  dataProducers : e'.dataProducers.Sublist e.dataProducers
  dataConsumers : e'.dataConsumers.Sublist e.dataConsumers
  producer : ∀ x ∈ e.producers, x ∈ e'.producers ∨ P x.id
  dataProducer : ∀ x ∈ e.dataProducers, x ∈ e'.dataProducers ∨ P x.id
  dataConsumer : ∀ x ∈ e.dataConsumers, x ∈ e'.dataConsumers ∨ P x.dataProducerId

lemma Strips.refl (e : SfuPeer) : Strips P e e :=
  ⟨rfl, rfl, rfl, List.Sublist.refl _, List.Sublist.refl _, List.Sublist.refl _,
    fun _ => Or.inl, fun _ => Or.inl, fun _ => Or.inl⟩

lemma Strips.mono (h : Strips P e e') (hPQ : ∀ id, P id → Q id) : Strips Q e e' :=
  { h with
    producer := fun x hx => (h.producer x hx).imp_right (hPQ _)
    dataProducer := fun x hx => (h.dataProducer x hx).imp_right (hPQ _)
    dataConsumer := fun x hx => (h.dataConsumer x hx).imp_right (hPQ _) }

lemma Strips.trans (h : Strips P e e') (k : Strips P e' e'') : Strips P e e'' where
  sendTransports := k.sendTransports.trans h.sendTransports
  recvTransports := k.recvTransports.trans h.recvTransports
  consumers := k.consumers.trans h.consumers
  producers := k.producers.trans h.producers
  dataProducers := k.dataProducers.trans h.dataProducers
  dataConsumers := k.dataConsumers.trans h.dataConsumers
  producer x hx := (h.producer x hx).elim (k.producer x) Or.inr
  dataProducer x hx := (h.dataProducer x hx).elim (k.dataProducer x) Or.inr
  dataConsumer x hx := (h.dataConsumer x hx).elim (k.dataConsumer x) Or.inr

lemma stripped_or {α : Type} {l : List α} {f : α → String} {ids : List String} {x : α} (hx : x ∈ l) :
    x ∈ l.filter (fun x => f x ∉ ids) ∨ f x ∈ ids := by
  by_cases h : f x ∈ ids
  · exact Or.inr h
  · exact Or.inl (List.mem_filter.mpr ⟨hx, by simpa using h⟩)

lemma strip_strips (e : SfuPeer) {ids gone : List String} (hids : ∀ id ∈ ids, P id)
    (hgone : ∀ id ∈ gone, P id) : Strips P e (e.strip ids gone) where
  sendTransports := rfl
  recvTransports := rfl
  consumers := rfl
  producers := List.filter_sublist
  dataProducers := List.filter_sublist
  dataConsumers := List.filter_sublist
  producer _ hx := (stripped_or hx).imp_right (hids _)
  dataProducer _ hx := (stripped_or hx).imp_right (hids _)
  dataConsumer _ hx := (stripped_or (f := DataConsumer.dataProducerId) hx).imp_right (hgone _)

lemma mem_goneDataProducers {sfu : SfuManager} {ids : List String} {id : String}
    (h : id ∈ sfu.goneDataProducers ids) : id ∈ ids := by
  rw [SfuManager.goneDataProducers, List.mem_flatMap] at h
  obtain ⟨_, _, h⟩ := h
  obtain ⟨_, _, h⟩ := List.mem_flatMap.mp h
  obtain ⟨x, hx, rfl⟩ := List.mem_map.mp h
  simpa using (List.mem_filter.mp hx).2

structure StripStep (P : String → Prop) (s t : SignalingServer) : Prop where
  entries : ∀ r p, Option.Rel (Strips P) (s.sfuManager.peer r p) (t.sfuManager.peer r p)
  owned : ∀ {o id}, t.Owned o id → s.Owned o id

lemma reclaim_strips {owner : String} {device : Option String} (s : SignalingServer) (p : String) :
    StripStep (s.Owned (some owner)) s (s.reclaim p owner device) where
  entries r q := by
    rw [reclaim]
    split_ifs
    · cases s.sfuManager.peer r q with
      | none => exact .none
      | some e => exact .some (Strips.refl e)
    · rw [announceRooms_sfu]
      change Option.Rel _ _ (SfuManager.peer (s.sfuManager.removeProducersByIds _).1 r q)
      rw [SfuManager.peer_removeProducersByIds]
      cases s.sfuManager.peer r q with
      | none => exact .none
      | some e =>
        exact .some (strip_strips e (fun _ => s.mem_ownedBy.mp)
          (fun _ h => s.mem_ownedBy.mp (mem_goneDataProducers h)))
  owned {o id} := by
    simp only [Owned, reclaim_owner]
    split_ifs
    · simp
    · exact fun h => h

lemma strips_mono {o o' : Option SfuPeer} (h : Option.Rel (Strips P) o o')
    (hPQ : ∀ id, P id → Q id) : Option.Rel (Strips Q) o o' := by
  cases h with
  | some h => exact .some (h.mono hPQ)
  | none => exact .none

lemma StripStep.mono {t : SignalingServer} (h : StripStep P s t) (hPQ : ∀ id, P id → Q id) :
    StripStep Q s t :=
  ⟨fun r p => strips_mono (h.entries r p) hPQ, h.owned⟩

lemma StripStep.trans {t u : SignalingServer} (h : StripStep P s t) (k : StripStep P t u) :
    StripStep P s u where
  entries r p := by
    have hst := h.entries r p
    have htu := k.entries r p
    generalize s.sfuManager.peer r p = a at hst ⊢
    generalize t.sfuManager.peer r p = b at hst htu
    generalize u.sfuManager.peer r p = d at htu ⊢
    cases hst with
    | none => exact htu
    | some hst =>
      cases htu with
      | some htu => exact .some (hst.trans htu)
  owned ho := h.owned (k.owned ho)

lemma reclaimDevice_strips (s : SignalingServer) (p : String) :
    StripStep (s.Owned (s.deviceIdOf p)) s (s.reclaimDevice p) := by
  rw [reclaimDevice]
  cases s.deviceIdOf p with
  | none =>
    refine ⟨fun r q => ?_, fun h => h⟩
    cases s.sfuManager.peer r q with
    | none => exact .none
    | some e => exact .some (Strips.refl e)
  | some d => exact reclaim_strips s p

lemma cleaned_strips (s : SignalingServer) {p q : String} (hq : q ≠ p) (r : String) :
    Option.Rel (Strips (s.Doomed p)) (s.sfuManager.peer r q) ((s.cleaned p).sfuManager.peer r q) := by
  have howned : ∀ {o id}, (s.cleanupGlobal p).Owned o id → s.Owned o id := by
    intro o id
    simp only [Owned, cleanupGlobal_owner]
    split_ifs
    · simp
    · exact fun h => h
  have hsession : StripStep (s.Doomed p) (s.cleanupGlobal p) ((s.cleanupGlobal p).reclaimSession p) :=
    (reclaim_strips (s.cleanupGlobal p) p).mono (fun id h => Or.inl (howned h))
  have hdev : ((s.cleanupGlobal p).reclaimSession p).deviceIdOf p = s.deviceIdOf p := by
    rw [deviceIdOf, deviceIdOf, reclaimSession,
      ((s.cleanupGlobal_quiet p).trans (reclaim_quiet _ p (sessionKey p) none)).bindings]
  have hdevice := (reclaimDevice_strips ((s.cleanupGlobal p).reclaimSession p) p).mono (Q := s.Doomed p)
    (fun id h => Or.inr (howned (hsession.owned (hdev ▸ h))))
  have h := (hsession.trans hdevice).entries r q
  rwa [cleanupGlobal_peer, if_neg hq] at h

lemma cleaned_own (s : SignalingServer) (p r : String) : (s.cleaned p).sfuManager.peer r p = none := by
  have hstrips : StripStep ((s.cleanupGlobal p).Owned (some (sessionKey p))) (s.cleanupGlobal p)
      ((s.cleanupGlobal p).reclaimSession p) := reclaim_strips (s.cleanupGlobal p) p
  have hsession := hstrips.entries r p
  have hdevice := (reclaimDevice_strips ((s.cleanupGlobal p).reclaimSession p) p).entries r p
  rw [cleanupGlobal_peer, if_pos rfl] at hsession
  change Option.Rel _ none (((s.cleanupGlobal p).reclaimSession p).sfuManager.peer r p) at hsession
  generalize ((s.cleanupGlobal p).reclaimSession p).sfuManager.peer r p = o at hsession hdevice
  cases hsession
  change Option.Rel _ none ((s.cleaned p).sfuManager.peer r p) at hdevice
  generalize (s.cleaned p).sfuManager.peer r p = o at hdevice
  cases hdevice
  rfl

lemma emptied_of_teardown {s : SignalingServer} {p room : String}
    (h : shouldTeardown ((s.cleaned p).leaveSession p room).2
      ((s.cleaned p).sfuManager.roomHasProducers room) = true) : EmptiesRoom s p room := by
  have hleft : ((s.cleaned p).leaveSession p room).2 = (s.roomManager.leaveRoom room p).2 := by
    rw [← (s.cleaned_quiet p).rooms]
    rfl
  rw [shouldTeardown, Bool.and_eq_true, hleft, leaveRoom_removed, Bool.not_eq_true', ← Bool.not_eq_true,
    roomHasProducers_iff] at h
  refine ⟨h.1, fun q x hq hx => ?_⟩
  have hstrip := cleaned_strips s hq room
  cases he : s.sfuManager.peer room q with
  | none =>
    rw [SfuManager.mediaAt_of_none he] at hx
    cases hx
  | some e =>
    rw [SfuManager.mediaAt_of_some he] at hx
    cases he' : (s.cleaned p).sfuManager.peer room q with
    | none =>
      rw [he, he'] at hstrip
      cases hstrip
    | some e' =>
      rw [he, he'] at hstrip
      cases hstrip with
      | some hstrip =>
        refine (hstrip.producer x hx).resolve_left (fun hx' => h.2 ⟨q, x, ?_⟩)
        rw [SfuManager.mediaAt_of_some he']
        exact hx'

/-- What the end of a session leaves of an SFU entry: nothing of the session's own entries, nothing
in the joined room when the session empties it, else the entry without the producers recorded
under the session or its device. -/
def LeftBehind (s : SignalingServer) (c : Session) (r p : String) (before after : Option SfuPeer) :
    Prop :=
  (after = none ∧ (p = c.peerId ∨ r = c.roomId ∧ EmptiesRoom s c.peerId c.roomId)) ∨
    (p ≠ c.peerId ∧ Option.Rel (Strips (s.Doomed c.peerId)) before after)

lemma disconnectSession_left (s : SignalingServer) (c : Session) (r p : String) :
    LeftBehind s c r p (s.sfuManager.peer r p)
      ((s.disconnectSession c.peerId c.roomId).sfuManager.peer r p) := by
  rw [disconnectSession_peer]
  split_ifs with h
  · exact Or.inl ⟨rfl, Or.inr ⟨h.2, emptied_of_teardown h.1⟩⟩
  · by_cases hp : p = c.peerId
    · subst hp
      exact Or.inl ⟨cleaned_own s _ r, Or.inl rfl⟩
    · exact Or.inr ⟨hp, cleaned_strips s hp r⟩

lemma close_left {sys : System} {i : ℕ} (hl : sys.live i = some c) (r p : String) :
    (sys.close i).server.sfuManager.peer r p = sys.server.sfuManager.peer r p ∨
      (sys.server.heldSeq c = none ∧ LeftBehind sys.server c r p (sys.server.sfuManager.peer r p)
        ((sys.close i).server.sfuManager.peer r p)) := by
  cases hh : sys.server.heldSeq c with
  | some seq =>
    have hs : (sys.close i).server = sys.server := by
      rw [System.close]
      simp only [hl, hh]
    rw [hs]
    exact Or.inl rfl
  | none =>
    have hs : (sys.close i).server = sys.server.disconnectSession c.peerId c.roomId := by
      rw [System.close]
      simp only [hl, hh]
    rw [hs]
    exact Or.inr ⟨rfl, disconnectSession_left sys.server c r p⟩

lemma leftBehind_send {s : SignalingServer} {c : Session} {r p : String} {before after : Option SfuPeer}
    (room : String) (msg : SignalingMessage)
    (h : LeftBehind (s.send room msg) c r p before after) : LeftBehind s c r p before after := by
  rw [LeftBehind, EmptiesRoom] at h
  rw [LeftBehind, EmptiesRoom]
  exact h

theorem sfu_message_confined (sys : System) (i : ℕ) (msg : SignalingMessage) (w : Worker)
    (r p : String) :
    let before := sys.server.sfuManager.peer r p
    let after := (sys.step (.message i msg w)).server.sfuManager.peer r p
    after = before ∨ ∃ c, sys.live i = some c ∧
      ((addsTo msg = some (r, p) ∧ ∃ e, after = some e ∧ Extends (before.getD SfuPeer.empty) e) ∨
        (msg = .downstreamGone p r ∧ (∃ d, sys.server.deviceIdOf c.peerId = some d) ∧ after = none) ∨
        ((∃ room peer, msg = .roomLeave room peer) ∧ sys.server.heldSeq c = none ∧
          LeftBehind sys.server c r p before after)) := by
  dsimp only
  rw [System.step, System.message]
  cases hl : sys.live i with
  | none => exact Or.inl rfl
  | some c =>
    dsimp only
    split_ifs with he
    · obtain ⟨room, peer, rfl⟩ := relayMessage_ended he
      have hlive : ({ sys with server := sys.server.send c.roomId (.roomLeave room peer) } : System).live i =
          some c := hl
      have hclose := close_left hlive r p
      exact hclose.imp_right (fun h => ⟨c, rfl, Or.inr (Or.inr
        ⟨⟨room, peer, rfl⟩, h.1, leftBehind_send _ _ h.2⟩)⟩)
    · refine (relayMessage_confined sys.server c msg w r p).imp_right (fun h => ⟨c, rfl, ?_⟩)
      exact h.imp_right Or.inl

end Confined

end MediaServo.Server
