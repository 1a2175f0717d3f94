import MediaServo.ServerProofs.Announcements
import MediaServo.ServerProofs.Departures

/-! The owner and the status of a room: they are forgotten when the last member and the last
media producer are gone, unless the room is emptied behind the back of the session cleanup. -/

namespace MediaServo.Server

open MediaServo.Foundations MediaServo.Common SignalingServer

def Vacant (s : SignalingServer) (r : String) : Prop :=
  s.roomManager.contains r = false ∧ s.sfuManager.roomHasProducers r = false

def Unregistered (s : SignalingServer) (r : String) : Prop :=
  s.roomOwners.get r = none ∧ s.statusRegistry.get r = none

def RegistryClear (s : SignalingServer) : Prop := ∀ r, Vacant s r → Unregistered s r

section Announce

variable {s t : SignalingServer} {r : String}

lemma Unregistered.forget (h : Unregistered s r) (roomId : String) :
    Unregistered (s.forgetRoom roomId) r := by
  constructor
  · change (s.roomOwners.remove roomId).get r = none
    rw [FiniteMap.get_remove, h.1, ite_self]
  · change (s.statusRegistry.remove roomId).get r = none
    rw [FiniteMap.get_remove, h.2, ite_self]

lemma forgetRoom_unregistered (s : SignalingServer) (r : String) : Unregistered (s.forgetRoom r) r :=
  ⟨FiniteMap.get_remove_self _ _, FiniteMap.get_remove_self _ _⟩

lemma Unregistered.deferred (h : Unregistered s r) (roomId : String) :
    Unregistered (s.deferredCleanup roomId) r := by
  rw [deferredCleanup]
  split_ifs
  · exact h.forget roomId
  · exact h

lemma deferredCleanup_unregistered (h : Vacant s r) : Unregistered (s.deferredCleanup r) r := by
  rw [deferredCleanup, h.1, h.2, shouldDeferredCleanup]
  exact forgetRoom_unregistered s r

lemma Unregistered.announce (h : Unregistered s r) (roomId reporter : String)
    (device : Option String) (closed : Closed) :
    Unregistered (s.announceProducersClosed roomId reporter device closed) r := by
  rw [announceProducersClosed]
  split_ifs
  · exact h
  · apply Unregistered.deferred
    cases device <;> exact h

lemma announceProducersClosed_unregistered (h : Vacant s r) (reporter : String)
    (device : Option String) {closed : Closed} (hc : closed ≠ []) :
    Unregistered (s.announceProducersClosed r reporter device closed) r := by
  rw [announceProducersClosed, if_neg (by simpa using hc)]
  apply deferredCleanup_unregistered
  cases device <;> exact h

lemma vacant_announce {roomId reporter : String} {device : Option String} {closed : Closed} :
    Vacant (s.announceProducersClosed roomId reporter device closed) r ↔ Vacant s r := by
  rw [Vacant, Vacant, (s.announceProducersClosed_quiet roomId reporter device closed).rooms,
    announceProducersClosed_sfu]

lemma announceRooms_clear (s : SignalingServer) (reporter : String) (device : Option String)
    (rooms : List (String × Closed))
    (h : ∀ r, Vacant s r → Unregistered s r ∨ ∃ e ∈ rooms, e.1 = r ∧ e.2 ≠ []) :
    RegistryClear (s.announceRooms reporter device rooms) := by
  rw [announceRooms]
  induction rooms generalizing s with
  | nil =>
    intro r hr
    exact (h r hr).resolve_right (by simp)
  | cons e rooms ih =>
    apply ih
    intro r hr
    have hv := vacant_announce.1 hr
    obtain hu | ⟨e', he', rfl, hne⟩ := h r hv
    · exact Or.inl (hu.announce _ _ _ _)
    · obtain rfl | he' := List.mem_cons.mp he'
      · exact Or.inl (announceProducersClosed_unregistered hv _ _ hne)
      · exact Or.inr ⟨e', he', rfl, hne⟩

lemma Unregistered.rooms (h : Unregistered s r) (reporter : String) (device : Option String)
    (rooms : List (String × Closed)) : Unregistered (s.announceRooms reporter device rooms) r := by
  rw [announceRooms]
  induction rooms generalizing s with
  | nil => exact h
  | cons e rooms ih => exact ih (h.announce e.1 reporter device e.2)

lemma Unregistered.reclaim (h : Unregistered s r) (peerId owner : String) (device : Option String) :
    Unregistered (s.reclaim peerId owner device) r := by
  rw [SignalingServer.reclaim]
  split_ifs
  · exact h
  · apply Unregistered.rooms
    exact h

lemma Unregistered.cleaned (h : Unregistered s r) (p : String) : Unregistered (s.cleaned p) r := by
  have h2 : Unregistered ((s.cleanupGlobal p).reclaimSession p) r := by
    apply Unregistered.reclaim
    apply Unregistered.rooms
    exact h
  rw [SignalingServer.cleaned, reclaimDevice]
  split
  · exact h2.reclaim _ _ _
  · exact h2

lemma Unregistered.teardown (h : Unregistered s r) (roomId : String) (removed : Bool) :
    Unregistered (s.teardown roomId removed) r := by
  rw [SignalingServer.teardown]
  split_ifs
  · exact Unregistered.forget (s := { s with sfuManager := s.sfuManager.removeRoom roomId }) h roomId
  · exact h

end Announce

section Cleanup

variable {s : SignalingServer} {p room : String}

lemma closing_of_mem {rooms : List (String × Closed)} {r id : String}
    (h : (r, id) ∈ closedPairs rooms) : ∃ e ∈ rooms, e.1 = r ∧ e.2 ≠ [] := by
  obtain ⟨e, he, hr, hid⟩ := mem_closedPairs.1 h
  refine ⟨e, he, hr, ?_⟩
  intro hnil
  rw [hnil] at hid
  cases hid

lemma cleanupGlobal_clear (h : RegistryClear s) (p : String) : RegistryClear (s.cleanupGlobal p) := by
  apply announceRooms_clear
  rintro r ⟨hroom, hnone⟩
  by_cases hold : s.sfuManager.roomHasProducers r = true
  · -- The last media producer of the room went with the peer, so the room is on the list.
    right
    obtain ⟨q, x, hx⟩ := roomHasProducers_iff.1 hold
    have hq : q = p := by
      by_contra hne
      have hpeer := s.sfuManager.peer_removePeerGlobal p r q
      rw [if_neg hne] at hpeer
      have hin := roomHasProducers_iff.2 ⟨q, x, (SfuManager.mediaAt_congr hpeer).symm ▸ hx⟩
      rw [hnone] at hin
      cases hin
    subst hq
    exact closing_of_mem (SfuManager.mem_removePeerGlobal.2 (List.mem_map_of_mem hx))
  · exact Or.inl (h r ⟨hroom, by simpa using hold⟩)

lemma reclaim_clear (h : RegistryClear s) (peerId owner : String) (device : Option String) :
    RegistryClear (s.reclaim peerId owner device) := by
  have hmedia := fun r p => s.reclaim_mediaAt peerId owner r p device
  rw [SignalingServer.reclaim] at hmedia ⊢
  split_ifs at hmedia ⊢ with hempty
  · exact h
  · apply announceRooms_clear
    rintro r ⟨hroom, hnone⟩
    by_cases hold : s.sfuManager.roomHasProducers r = true
    · right
      obtain ⟨q, x, hx⟩ := roomHasProducers_iff.1 hold
      have hmine : x.id ∈ s.ownedBy owner := by
        by_contra hno
        have hm := hmedia r q
        rw [announceRooms_sfu] at hm
        have hin : x ∈ SfuManager.mediaAt (s.sfuManager.removeProducersByIds (s.ownedBy owner)).1 r q := by
          apply (congrArg (x ∈ ·) hm).mpr
          exact List.mem_filter.mpr ⟨hx, decide_eq_true hno⟩
        have hhas := roomHasProducers_iff.2 ⟨q, x, hin⟩
        exact Bool.false_ne_true (hnone.symm.trans hhas)
      apply closing_of_mem
      rw [(closedPairs_group _).mem_iff]
      apply SfuManager.mem_removeProducersByIds.2
      exact ⟨hmine, q, SfuManager.mem_idsAt.2 (Or.inl (List.mem_map_of_mem hx))⟩
    · exact Or.inl (h r ⟨hroom, by simpa using hold⟩)

lemma cleaned_clear (h : RegistryClear s) (p : String) : RegistryClear (s.cleaned p) := by
  have h2 : RegistryClear ((s.cleanupGlobal p).reclaimSession p) :=
    reclaim_clear (cleanupGlobal_clear h p) p _ none
  rw [SignalingServer.cleaned, reclaimDevice]
  split
  · exact reclaim_clear h2 _ _ _
  · exact h2

/-- The departing peer is the host, the others in its room are consumers, and no media producer
of the room outlives the cleanup. -/
structure DropsConsumers (s : SignalingServer) (p room : String) : Prop where
  host : s.roomManager.hostOf room = some p
  remote : ∀ m, s.roomManager.get room = some m → m.remote = none ∨ m.remote = some p
  consumer : ∃ q, q ≠ p ∧ s.roomManager.Member room q
  silent : ∀ q x, q ≠ p → x ∈ s.sfuManager.mediaAt room q → s.Doomed p x.id

lemma disconnectSession_unregistered {r : String} (h : Unregistered (s.cleaned p) r) :
    Unregistered (s.disconnectSession p room) r := by
  have hleft : Unregistered ((s.cleaned p).leaveSession p room).1 r := ⟨h.1, h.2⟩
  rw [disconnectSession_eq]
  generalize (s.cleaned p).leaveSession p room = left at hleft
  have hdown := hleft.teardown room left.2
  exact ⟨hdown.1, hdown.2⟩

lemma contains_of_depart {rooms : RoomManager} (ho : rooms.Occupied) {r : String} (hr : r ≠ room)
    (h : (rooms.depart room p).contains r = false) : rooms.contains r = false := by
  by_contra hc
  rw [Bool.not_eq_false] at hc
  obtain ⟨q, hq⟩ := ho.contains_iff.1 hc
  rw [RoomManager.contains_of_member (RoomManager.member_depart_of_ne hr hq)] at h
  cases h

lemma dropsConsumers_of_emptied (hc : Cleaned s (s.cleaned p) p)
    (hstays : ¬EmptiesRoom s p room)
    (hgone : (s.roomManager.depart room p).contains room = false)
    (hnone : (s.cleaned p).sfuManager.roomHasProducers room = false) : DropsConsumers s p room := by
  have hnot : ∀ q, ¬(s.roomManager.depart room p).Member room q := by
    intro q hq
    rw [RoomManager.contains_of_member hq] at hgone
    cases hgone
  have hsilent : ∀ q x, q ≠ p → x ∈ s.sfuManager.mediaAt room q → s.Doomed p x.id := by
    intro q x hq hx
    by_contra hd
    rw [roomHasProducers_iff.2 ⟨q, x, hc.media.mpr ⟨hx, hq, hd⟩⟩] at hnone
    cases hnone
  have hother : ∃ q, q ≠ p ∧ s.roomManager.Member room q := by
    by_contra hall
    refine hstays ⟨fun q hq => ?_, hsilent⟩
    by_contra hne
    exact hall ⟨q, hne, hq⟩
  refine ⟨?_, ?_, hother, hsilent⟩
  · by_contra hhost
    obtain ⟨q, hq, hm⟩ := hother
    exact hnot q (RoomManager.member_depart_of_not_host hhost hq hm)
  · intro m hm
    cases hr : m.remote with
    | none => exact Or.inl rfl
    | some q =>
      by_cases hq : q = p
      · exact Or.inr (by rw [hq])
      · exact absurd (RoomManager.member_depart_of_remote hm hr hq) (hnot q)

theorem disconnectSession_clear (hu : s.sfuManager.UniqueIds) (ho : s.roomManager.Occupied)
    (h : RegistryClear s) (hdrop : DropsConsumers s p room → Unregistered s room) :
    RegistryClear (s.disconnectSession p room) := by
  have hc : Cleaned s (s.cleaned p) p := cleaned_cleaned hu
  have hclear := cleaned_clear h p
  rintro r ⟨hgone, hnone⟩
  rw [(s.disconnectSession_departs p room).rooms] at hgone
  by_cases hempty : EmptiesRoom s p room ∧ r = room
  · obtain ⟨hempty, rfl⟩ := hempty
    rw [disconnectSession_eq, teardown, leaveSession_sfu, (emptiesRoom_iff hc).mpr hempty, if_pos rfl]
    exact forgetRoom_unregistered _ r
  · have hmedia : (s.cleaned p).sfuManager.roomHasProducers r = false := by
      by_contra hin
      rw [Bool.not_eq_false, roomHasProducers_iff] at hin
      obtain ⟨q, x, hx⟩ := hin
      have hpeer : (s.disconnectSession p room).sfuManager.peer r q =
          (s.cleaned p).sfuManager.peer r q := by
        rw [disconnectSession_peer, if_neg]
        rwa [← emptiesRoom_iff hc] at hempty
      rw [roomHasProducers_iff.2 ⟨q, x, (SfuManager.mediaAt_congr hpeer).symm ▸ hx⟩] at hnone
      cases hnone
    apply disconnectSession_unregistered
    by_cases hr : r = room
    · subst hr
      apply Unregistered.cleaned
      apply hdrop
      exact dropsConsumers_of_emptied hc (fun he => hempty ⟨he, rfl⟩) hgone hmedia
    · apply hclear r
      refine ⟨?_, hmedia⟩
      rw [(s.cleaned_quiet p).rooms]
      exact contains_of_depart ho hr hgone

end Cleanup

structure Plain (s t : SignalingServer) : Prop where
  rooms : t.roomManager = s.roomManager
  owners : t.roomOwners = s.roomOwners
  status : t.statusRegistry = s.statusRegistry

lemma Plain.refl (s : SignalingServer) : Plain s s := ⟨rfl, rfl, rfl⟩

lemma RegistryClear.plain {s t : SignalingServer} (h : RegistryClear s) (hp : Plain s t)
    (hm : ∀ r q x, x ∈ s.sfuManager.mediaAt r q → ∃ y, y ∈ t.sfuManager.mediaAt r q) :
    RegistryClear t := by
  rintro r ⟨hroom, hnone⟩
  rw [Unregistered, hp.owners, hp.status]
  apply h r
  refine ⟨by rw [← hp.rooms]; exact hroom, ?_⟩
  by_contra hin
  rw [Bool.not_eq_false, roomHasProducers_iff] at hin
  obtain ⟨q, x, hx⟩ := hin
  obtain ⟨y, hy⟩ := hm r q x hx
  rw [roomHasProducers_iff.2 ⟨q, y, hy⟩] at hnone
  cases hnone

lemma SfuStep.media_grows {s : SignalingServer} {c : Session} {w : Worker} {sfu : SfuManager}
    {msg : SignalingMessage} (hs : SfuStep s c w sfu msg)
    (hm : ∀ gone room, msg ≠ .downstreamGone gone room) {r q : String} {x : Producer}
    (hx : x ∈ s.sfuManager.mediaAt r q) : ∃ y, y ∈ sfu.mediaAt r q := by
  have hput : ∀ {room peer : String} {e : SfuPeer}, Puts s.sfuManager sfu room peer (some e) →
      (∀ y ∈ s.sfuManager.mediaAt room peer, y ∈ e.producers) → ∃ y, y ∈ sfu.mediaAt r q := by
    intro room peer e hput hkeep
    have hrq := hput r q
    split_ifs at hrq with hc
    · obtain ⟨rfl, rfl⟩ := hc
      exact ⟨x, SfuManager.mediaAt_of_some hrq ▸ hkeep x hx⟩
    · exact ⟨x, SfuManager.mediaAt_congr hrq ▸ hx⟩
  cases hs with
  | same same => exact ⟨x, SfuManager.mediaAt_congr (same r q) ▸ hx⟩
  | @transport room peer direction _ puts =>
    apply hput puts
    intro y hy
    rw [SfuManager.mediaAt] at hy
    cases direction <;> cases he : s.sfuManager.peer room peer <;> rw [he] at hy <;> exact hy
  | producer _ _ entry puts =>
    apply hput puts
    intro y hy
    rw [SfuManager.mediaAt_of_some entry] at hy
    exact List.mem_append_left _ hy
  | consumer entry puts =>
    apply hput puts
    intro y hy
    rwa [SfuManager.mediaAt_of_some entry] at hy
  | dataProducer _ _ _ entry _ puts =>
    apply hput puts
    intro y hy
    rwa [SfuManager.mediaAt_of_some entry] at hy
  | dataConsumer entry puts =>
    apply hput puts
    intro y hy
    rwa [SfuManager.mediaAt_of_some entry] at hy
  | gone _ _ => exact absurd rfl (hm _ _)

section Messages

variable (s : SignalingServer) (c : Session) (w : Worker)

lemma handleSfuMessage_plain {msg : SignalingMessage}
    (hm : ∀ gone room, msg ≠ .downstreamGone gone room) : Plain s (s.handleSfuMessage c msg w).1 := by
  obtain ⟨sfu, owners, log, h⟩ := s.handleSfuMessage_tables c w hm
  rw [h]
  exact ⟨rfl, rfl, rfl⟩

lemma relay_plain (msg : SignalingMessage) : Plain s (s.relay c msg) := by
  rw [relay]
  dsimp only
  split_ifs <;> exact ⟨rfl, rfl, rfl⟩

variable {s}

lemma downstreamGone_clear (h : RegistryClear s) (gone roomId : String) :
    RegistryClear (s.handleDownstreamGone c gone roomId).1 := by
  cases hd : s.deviceIdOf c.peerId with
  | none =>
    rw [handleDownstreamGone, hd]
    exact h
  | some d =>
    rw [handleDownstreamGone_bound hd]
    apply announceRooms_clear _ gone (some d) [(roomId, (s.sfuManager.removePeerInRoom roomId gone).2)]
    rintro r ⟨hroom, hnone⟩
    by_cases hold : s.sfuManager.roomHasProducers r = true
    · right
      obtain ⟨q, x, hx⟩ := roomHasProducers_iff.1 hold
      have hrq : r = roomId ∧ q = gone := by
        by_contra hne
        have hpeer := s.sfuManager.peer_removePeerInRoom roomId gone r q
        rw [if_neg hne] at hpeer
        rw [roomHasProducers_iff.2 ⟨q, x, (SfuManager.mediaAt_congr hpeer).symm ▸ hx⟩] at hnone
        cases hnone
      obtain ⟨rfl, rfl⟩ := hrq
      refine ⟨_, List.mem_singleton_self _, rfl, ?_⟩
      intro hnil
      have hids := removePeerInRoom_closed s.sfuManager r q
      rw [hnil] at hids
      rw [List.map_eq_nil_iff.mp hids.symm] at hx
      cases hx
    · exact Or.inl (h r ⟨hroom, by simpa using hold⟩)

lemma sfuOrRelay_clear (h : RegistryClear s) (msg : SignalingMessage) :
    RegistryClear (s.sfuOrRelay c msg w).server := by
  have hsfu : RegistryClear (s.handleSfuMessage c msg w).1 := by
    by_cases hm : ∃ gone room, msg = .downstreamGone gone room
    · obtain ⟨gone, room, rfl⟩ := hm
      exact downstreamGone_clear c h gone room
    · have hm : ∀ gone room, msg ≠ .downstreamGone gone room := fun g r he => hm ⟨g, r, he⟩
      apply h.plain (handleSfuMessage_plain s c w hm)
      intro r q x hx
      exact (s.handleSfuMessage_sfu c w msg).media_grows hm hx
  rw [sfuOrRelay]
  split <;> rename_i hr <;> rw [hr] at hsfu
  · exact hsfu
  · apply hsfu.plain (relay_plain _ c msg)
    intro r q x hx
    exact ⟨x, by rwa [relay_sfu]⟩

def ReportsOnRoom (s : SignalingServer) (c : Session) : SignalingMessage → Prop
  | .statusReport .. => statusReportDenialReason c.identity c.role = none → ¬Vacant s c.roomId
  | _ => True

lemma storeReport_status (report : SignalingMessage) (streams : List StreamFlowJson) :
    (s.storeReport c report streams).statusRegistry = s.statusRegistry.set c.roomId report := by
  obtain ⟨events, h⟩ := s.storeReport_eq c report streams
  rw [h]

lemma storeReport_clear (h : RegistryClear s) (hroom : ¬Vacant s c.roomId)
    (report : SignalingMessage) (streams : List StreamFlowJson) :
    RegistryClear (s.storeReport c report streams) := by
  intro r hr
  have hv : Vacant s r := by
    rwa [Vacant, (s.storeReport_quiet c report streams).rooms, storeReport_sfu] at hr
  have hne : r ≠ c.roomId := by
    rintro rfl
    exact hroom hv
  have hold := h r hv
  refine ⟨?_, ?_⟩
  · cases hg : (s.storeReport c report streams).roomOwners.get r with
    | none => rfl
    | some d =>
      have hd := (s.storeReport_quiet c report streams).owners_of hg
      rw [hold.1] at hd
      cases hd
  · rw [storeReport_status, FiniteMap.get_set_ne _ _ hne]
    exact hold.2

theorem relayMessage_clear (h : RegistryClear s) {msg : SignalingMessage}
    (hreport : ReportsOnRoom s c msg) : RegistryClear (s.relayMessage c msg w).server := by
  have hsame : ∀ {t}, Plain s t → t.sfuManager = s.sfuManager → RegistryClear t := by
    intro t hp hs
    exact h.plain hp (fun r q x hx => ⟨x, by rwa [hs]⟩)
  cases msg with
  | roomLeave => exact hsame ⟨rfl, rfl, rfl⟩ rfl
  | statusReport =>
    rw [relayMessage, handleStatusReport]
    split
    · exact h
    · rename_i hok
      exact storeReport_clear c h (hreport hok) _ _
  | emergencyCommand =>
    rw [relayMessage, handleEmergency]
    split
    · exact hsame ⟨rfl, rfl, rfl⟩ rfl
    · exact h
  | configPush => exact h
  | _ => exact sfuOrRelay_clear c w h _

end Messages

/-- The sessions clean up after themselves: no host that leaves takes the last members of a
registered room along, no status is stored for a vacant room, and no administrator interferes. -/
def KeepsRegistry (sys : System) (a : Action) : Prop :=
  (∀ p r, sys.disconnecting a = some (p, r) → DropsConsumers sys.server p r →
      Unregistered sys.server r) ∧
    match a with
    | .message i msg _ => ∀ c, sys.live i = some c → ReportsOnRoom sys.server c msg
    | .kickPeer _ => False
    | .removeRoom _ => False
    | _ => True

structure RegistryInv (s : SignalingServer) : Prop where
  unique : s.sfuManager.UniqueIds
  occupied : s.roomManager.Occupied
  clear : RegistryClear s

lemma RegistryInv.retabled {s t : SignalingServer} (h : RegistryInv s) (ht : Retabled s t) :
    RegistryInv t := by
  obtain ⟨table, seq, log, rfl⟩ := ht
  exact ⟨h.unique, h.occupied, h.clear⟩

lemma RegistryInv.departed {s t : SignalingServer} {p r : String} (h : RegistryInv s)
    (ht : Retabled s t) (hdrop : DropsConsumers s p r → Unregistered s r) :
    RegistryInv (t.disconnectSession p r) := by
  have hi := h.retabled ht
  refine ⟨hi.unique.thins (t.disconnectSession_thins p r), ?_, ?_⟩
  · rw [(t.disconnectSession_departs p r).rooms]
    exact RoomManager.Occupied.depart
  · apply disconnectSession_clear hi.unique hi.occupied hi.clear
    obtain ⟨table, seq, log, rfl⟩ := ht
    rintro ⟨hhost, hremote, hconsumer, hsilent⟩
    exact hdrop ⟨hhost, hremote, hconsumer, hsilent⟩

lemma RegistryInv.entered {s u : SignalingServer} {q : JoinRequest} (h : RegistryInv s)
    (he : s.enter q = .ok u) : RegistryInv u := by
  have hen := enter_spec he
  have hsfu := s.enter_sfu he
  have hstatus : u.statusRegistry = s.statusRegistry := by
    rw [enter] at he
    split at he
    · cases he
    · split at he <;> cases he <;> rfl
  refine ⟨hsfu ▸ h.unique, h.occupied.joinRoom hen.rooms, ?_⟩
  rintro r ⟨hroom, hnone⟩
  have hmember : ∀ x, ¬u.roomManager.Member r x := by
    intro x hx
    rw [RoomManager.contains_of_member hx] at hroom
    cases hroom
  have hne : r ≠ q.roomId := by
    rintro rfl
    exact hmember q.peerId ((RoomManager.member_joinRoom hen.rooms).mpr (Or.inr ⟨rfl, rfl⟩))
  have hold : s.roomManager.contains r = false := by
    by_contra hin
    rw [Bool.not_eq_false, h.occupied.contains_iff] at hin
    obtain ⟨x, hx⟩ := hin
    exact hmember x ((RoomManager.member_joinRoom hen.rooms).mpr (Or.inl hx))
  obtain ⟨howner, hst⟩ := h.clear r ⟨hold, by rw [← hsfu]; exact hnone⟩
  refine ⟨?_, by rw [hstatus]; exact hst⟩
  cases hid : q.identity with
  | device d => rw [(hen.bound hid).2, FiniteMap.get_set_ne _ _ hne, howner]
  | account a => rw [(hen.unbound (by rw [hid]; rfl)).2, howner]
  | legacy => rw [(hen.unbound (by rw [hid]; rfl)).2, howner]

theorem RegistryInv.step {sys : System} (h : RegistryInv sys.server) (a : Action)
    (hf : FreshIds sys a) (hc : KeepsRegistry sys a) : RegistryInv (sys.step a).server := by
  have hs := serverStep_step sys a
  generalize (sys.step a).server = t at hs
  cases hs with
  | retabled _ same => exact h.retabled same
  | @relayed i msg w c live goesOn =>
    refine ⟨(sys.server.relayMessage_sfu c w msg).unique h.unique hf, ?_, ?_⟩
    · rw [(sys.server.relayMessage_quiet c w msg).rooms]
      exact h.occupied
    · exact relayMessage_clear c w h.clear (hc.2 c live)
  | departed some same => exact h.departed same (hc.1 _ _ some)
  | @entered q nonce m u t cleared passed entered same =>
    have hm : RegistryInv m := by
      obtain ⟨_, rfl⟩ | ⟨x, r, s, hd, hsame, rfl⟩ := cleared
      · exact h
      · exact h.departed hsame (hc.1 x r hd)
    exact (hm.entered entered).retabled same
  | kicked => exact hc.2.elim
  | deleted => exact hc.2.elim

theorem room_ownership_lifecycle (acts : List Action)
    (hfresh : Along System.step FreshIds .init acts)
    (hkeeps : Along System.step KeepsRegistry .init acts) :
    let s := (run System.step .init acts).server
    ∀ r, (∀ p, ¬s.roomManager.Member r p) → (∀ p, s.sfuManager.idsAt r p = []) →
      s.roomOwners.get r = none ∧ s.statusRegistry.get r = none ∧
        ∀ q d p, q.identity = .device d → q.roomId = r → s.gateDenied q p = none := by
  intro s r hmember hproducer
  have hinit : RegistryInv System.init.server :=
    ⟨unique_init, RoomManager.occupied_empty, fun _ _ => ⟨rfl, rfl⟩⟩
  have hinv : RegistryInv s := run_invariant (I := fun sys => RegistryInv sys.server) hinit
    (fun sys a hi hc => hi.step a hc.1 hc.2) (hfresh.and hkeeps)
  have hvacant : Vacant s r := by
    refine ⟨?_, ?_⟩
    · by_contra hin
      rw [Bool.not_eq_false, hinv.occupied.contains_iff] at hin
      obtain ⟨p, hp⟩ := hin
      exact hmember p hp
    · by_contra hin
      rw [Bool.not_eq_false, roomHasProducers_iff] at hin
      obtain ⟨p, x, hx⟩ := hin
      have hid := SfuManager.mem_idsAt.2 (Or.inl (List.mem_map_of_mem (f := Producer.id) hx))
      rw [hproducer p] at hid
      cases hid
  obtain ⟨howner, hstatus⟩ := hinv.clear r hvacant
  refine ⟨howner, hstatus, ?_⟩
  rintro q d p hq rfl
  simp [gateDenied, hq, SessionIdentity.hostJoinDenied, SessionIdentity.canControl, roomOwnerOf, howner]

lemma not_member_of_absent {rooms : RoomManager} {r : String} (h : rooms.contains r = false)
    (p : String) : ¬rooms.Member r p := by
  intro hm
  rw [RoomManager.contains_of_member hm] at h
  cases h

lemma idsAt_of_absent {sfu : SfuManager} {r : String} (h : sfu.contains r = false) (p : String) :
    sfu.idsAt r p = [] := by
  apply SfuManager.idsAt_of_none
  cases he : sfu.peer r p with
  | none => rfl
  | some e =>
    obtain ⟨room, hr, _⟩ := SfuManager.peer_eq_some.1 he
    rw [(FiniteMap.contains_iff sfu r).mpr ⟨room, hr⟩] at h
    cases h

theorem room_ownership_lifecycle_last_leave :
    let acts : List Action := [.join ⟨"p", .device "car", "car", .host, some 2, none⟩ "n1",
      .join ⟨"q", .legacy, "car", .consumer, some 2, none⟩ "n2", .close 0, .close 1]
    let s := (run System.step .init acts).server
    Along System.step KeepsRegistry .init acts ∧ (run System.step .init (acts.take 3)).server.roomOwnerOf
      "car" = some "car" ∧ s.roomOwners.get "car" = none := by
  intro acts s
  have hjoin : ∀ {sys : System} {q nonce}, sys.disconnecting (.join q nonce) = none →
      KeepsRegistry sys (.join q nonce) := by
    intro sys q nonce hn
    refine ⟨fun p r h => ?_, trivial⟩
    rw [hn] at h
    cases h
  have hkeeps : Along System.step KeepsRegistry .init acts := by
    refine ⟨hjoin (by decide), hjoin (by decide), ⟨?_, trivial⟩, ⟨?_, trivial⟩, trivial⟩
    · rintro p r h hd
      have hq : p = "q" ∧ r = "car" := by
        rw [show System.disconnecting _ (.close 0) = some ("q", "car") by decide] at h
        cases h
        exact ⟨rfl, rfl⟩
      obtain ⟨rfl, rfl⟩ := hq
      exact absurd hd.host (by decide)
    · rintro p r h hd
      have hq : p = "p" ∧ r = "car" := by
        rw [show System.disconnecting _ (.close 1) = some ("p", "car") by decide] at h
        cases h
        exact ⟨rfl, rfl⟩
      obtain ⟨rfl, rfl⟩ := hq
      obtain ⟨q, hne, room, hroom, hm⟩ := hd.consumer
      rw [show FiniteMap.get _ _ = some ⟨some "p", none, []⟩ by decide] at hroom
      cases hroom
      obtain hm | hm | hm := hm
      · exact absurd (Option.some.inj hm).symm hne
      · cases hm
      · cases hm
  have hfresh : Along System.step FreshIds .init acts := ⟨trivial, trivial, trivial, trivial, trivial⟩
  refine ⟨hkeeps, by decide, ?_⟩
  exact (room_ownership_lifecycle acts hfresh hkeeps "car"
    (not_member_of_absent (by decide)) (idsAt_of_absent (by decide))).1

theorem vacant_room_denied :
    let acts : List Action := [.join ⟨"p", .device "car", "car", .host, some 2, none⟩ "n1",
      .join ⟨"q", .legacy, "car", .consumer, some 2, none⟩ "n2", .close 1]
    let s := (run System.step .init acts).server
    (∀ p, ¬s.roomManager.Member "car" p) ∧ (∀ p, s.sfuManager.idsAt "car" p = []) ∧
      s.roomOwners.get "car" = some "car" ∧
      (s.roomJoin ⟨"b", .device "bus", "car", .host, some 2, none⟩ "n3").replies =
        [.error 4031 "device bus cannot join room owned by another vehicle car (peer=b, room=car)"] := by
  refine ⟨not_member_of_absent (by decide), idsAt_of_absent (by decide), ?_, ?_⟩
  · decide
  · decide

end MediaServo.Server
