import MediaServo.ServerProofs.Joins

/-! The steps of the system, once for all proofs: what an action can do to the sessions, the
delayed cleanups and the server. -/

namespace MediaServo.Server

open MediaServo.Foundations MediaServo.Common SignalingServer

variable {sys : System} {a : Action}

def Action.Ends (i : ℕ) : Action → Prop
  | .close j => j = i
  | .message j (.roomLeave _ _) _ => j = i
  | _ => False

structure Shrinks (s t : SignalingServer) : Prop where
  members : ∀ {r p}, t.roomManager.Member r p → s.roomManager.Member r p
  bindings : t.deviceBindings = s.deviceBindings
  table : t.resumeTable = s.resumeTable
  seq : t.resumeSeq = s.resumeSeq
  owners : t.roomOwners = s.roomOwners

inductive SysStep (sys : System) : Action → System → Prop
  | quiet {a : Action} {t : SignalingServer} (same : Quiet sys.server t) :
      SysStep sys a { sys with server := t }
  | joined {q : JoinRequest} {nonce : String} {c : Session}
      (session : (sys.server.roomJoin q nonce).session = some c) :
      SysStep sys (.join q nonce)
        ⟨(sys.server.roomJoin q nonce).server, ⟨c, true⟩ :: sys.sessions, sys.holds⟩
  | refused {q : JoinRequest} {nonce : String}
      (session : (sys.server.roomJoin q nonce).session = none) :
      SysStep sys (.join q nonce) { sys with server := (sys.server.roomJoin q nonce).server }
  | held {a : Action} {i : ℕ} {c : Session} {t : SignalingServer} {h : HeldResume}
      (ends : a.Ends i) (live : sys.sessions[i]? = some ⟨c, true⟩) (same : Quiet sys.server t)
      (ticket : sys.server.resumeTable.get c.key = some h) (peer : h.peerId = c.peerId) :
      SysStep sys a ⟨t, sys.sessions.set i ⟨c, false⟩, ⟨c.peerId, c.roomId, c.key, h.seq⟩ :: sys.holds⟩
  | left {a : Action} {i : ℕ} {c : Session} {t : SignalingServer}
      (ends : a.Ends i) (live : sys.sessions[i]? = some ⟨c, true⟩)
      (unheld : ∀ {h}, sys.server.resumeTable.get c.key = some h → h.peerId ≠ c.peerId)
      (departs : Departs sys.server t c.peerId c.roomId) :
      SysStep sys a ⟨t, sys.sessions.set i ⟨c, false⟩, sys.holds⟩
  | expired {i : ℕ} {h : Hold} {t : SignalingServer} (hold : sys.holds[i]? = some h)
      (effective : sys.server.Effective h)
      (departs : Departs { sys.server with resumeTable := sys.server.resumeTable.remove h.key } t
        h.peerId h.roomId) :
      SysStep sys (.expire i) ⟨t, sys.sessions, sys.holds.eraseIdx i⟩
  | idle {i : ℕ} {h : Hold} (hold : sys.holds[i]? = some h) (void : ¬sys.server.Effective h) :
      SysStep sys (.expire i) { sys with holds := sys.holds.eraseIdx i }
  | kicked {p : String} {t : SignalingServer} (shrinks : Shrinks sys.server t) :
      SysStep sys (.kickPeer p) { sys with server := t }
  | deleted {r : String} {t : SignalingServer} (shrinks : Shrinks sys.server t) :
      SysStep sys (.removeRoom r) { sys with server := t }

lemma Quiet.departs {s t u : SignalingServer} {p r : String} (hq : Quiet s t)
    (hd : Departs t u p r) : Departs s u p r where
  rooms := by rw [hd.rooms, hq.rooms]
  bindings := by rw [hd.bindings, hq.bindings]
  table := by rw [hd.table, hq.table]
  seq := by rw [hd.seq, hq.seq]
  owners_of ho := hq.owners_of (hd.owners_of ho)
  owners {r' p'} hm := by
    refine (hd.owners hm).trans (hq.owners ?_)
    rw [hd.rooms, hq.rooms] at hm
    exact RoomManager.contains_of_member (RoomManager.member_of_depart hm).1

lemma live_eq_some {i : ℕ} {c : Session} : sys.live i = some c ↔ sys.sessions[i]? = some ⟨c, true⟩ := by
  rw [System.live]
  split
  · rename_i d hd
    rw [hd]
    simp
  · rename_i hne
    constructor
    · intro h; contradiction
    · intro h; exact absurd h (hne c)

lemma heldSeq_eq_some {s : SignalingServer} {c : Session} {n : ℕ} :
    s.heldSeq c = some n ↔ ∃ h, s.resumeTable.get c.key = some h ∧ h.peerId = c.peerId ∧ h.seq = n := by
  rw [heldSeq]
  cases s.resumeTable.get c.key with
  | none => simp
  | some h => simp

lemma close_step {t : SignalingServer} {i : ℕ} {c : Session} (ends : a.Ends i)
    (live : sys.sessions[i]? = some ⟨c, true⟩) (same : Quiet sys.server t) :
    SysStep sys a (System.close { sys with server := t } i) := by
  have hl : System.live { sys with server := t } i = some c := live_eq_some.2 live
  rw [System.close]
  simp only [hl]
  cases hs : t.heldSeq c with
  | some n =>
    obtain ⟨h, hk, hp, rfl⟩ := heldSeq_eq_some.1 hs
    exact .held ends live same (same.table ▸ hk) hp
  | none =>
    refine .left ends live ?_ (same.departs (t.disconnectSession_departs _ _))
    intro h hk hp
    rw [← same.table] at hk
    rw [heldSeq_eq_some.2 ⟨h, hk, hp, rfl⟩] at hs
    contradiction

lemma relayMessage_ended {s : SignalingServer} {c : Session} {msg : SignalingMessage} {w : Worker}
    (h : (s.relayMessage c msg w).ended = true) : ∃ r p, msg = .roomLeave r p := by
  have hs : ∀ msg, (s.sfuOrRelay c msg w).ended = false := by
    intro msg; rw [sfuOrRelay]; split <;> rfl
  cases msg with
  | roomLeave r p => exact ⟨r, p, rfl⟩
  | statusReport => simp [relayMessage] at h
  | emergencyCommand => simp [relayMessage] at h
  | configPush => simp [relayMessage] at h
  | _ => simp [relayMessage, hs] at h

lemma message_step (i : ℕ) (msg : SignalingMessage) (w : Worker) :
    SysStep sys (.message i msg w) (sys.message i msg w) := by
  rw [System.message]
  split
  · exact .quiet (Quiet.refl _)
  · rename_i c hc
    have hq := sys.server.relayMessage_quiet c w msg
    dsimp only
    split_ifs with he
    · obtain ⟨r, p, rfl⟩ := relayMessage_ended he
      exact close_step rfl (live_eq_some.1 hc) hq
    · exact .quiet hq

lemma expire_step (i : ℕ) : SysStep sys (.expire i) (sys.expire i) := by
  rw [System.expire]
  split
  · exact .quiet (Quiet.refl _)
  · rename_i h hh
    dsimp only
    split_ifs with he
    · exact .expired hh he (disconnectSession_departs _ _ _)
    · exact .idle hh he

lemma leaveRooms_members {p : String} (rs : List String) (m : RoomManager) {r x : String}
    (h : (rs.foldl (fun m r => (m.leaveRoom r p).1) m : RoomManager).Member r x) : m.Member r x := by
  induction rs generalizing m with
  | nil => exact h
  | cons y rs ih => exact (RoomManager.member_leaveRoom.1 (ih _ h)).1

lemma kickPeer_shrinks (s : SignalingServer) (p : String) : Shrinks s (s.kickPeer p) := by
  rw [kickPeer]
  split_ifs
  · exact ⟨id, rfl, rfl, rfl, rfl⟩
  · exact ⟨leaveRooms_members _ _, rfl, rfl, rfl, rfl⟩

lemma removeRoom_shrinks (s : SignalingServer) (r : String) : Shrinks s (s.removeRoom r) := by
  rw [SignalingServer.removeRoom]
  split_ifs
  · refine ⟨?_, rfl, rfl, rfl, rfl⟩
    rintro r' p ⟨room, hr, hp⟩
    exact ⟨room, FiniteMap.get_of_remove hr, hp⟩
  · exact ⟨id, rfl, rfl, rfl, rfl⟩

theorem step_spec (sys : System) (a : Action) : SysStep sys a (sys.step a) := by
  cases a with
  | join q nonce =>
    rw [System.step, System.join]
    cases hs : (sys.server.roomJoin q nonce).session with
    | some c => exact .joined hs
    | none => exact .refused hs
  | message i msg w => exact message_step i msg w
  | close i =>
    rw [System.step]
    cases hl : sys.live i with
    | some c => exact close_step rfl (live_eq_some.1 hl) (Quiet.refl _)
    | none =>
      rw [System.close]
      simp only [hl]
      exact .quiet (Quiet.refl _)
  | expire i => exact expire_step i
  | kickPeer p => exact .kicked (kickPeer_shrinks _ p)
  | removeRoom r => exact .deleted (removeRoom_shrinks _ r)

lemma mem_set_of_mem {l : List Conn} {i : ℕ} {x y z : Conn} (hi : l[i]? = some x) (hz : z ∈ l) :
    z = x ∨ z ∈ l.set i y := by
  obtain ⟨j, hj⟩ := List.mem_iff_getElem?.mp hz
  by_cases hij : i = j
  · subst hij
    exact Or.inl (Option.some.inj (hj.symm.trans hi))
  · exact Or.inr (List.mem_iff_getElem?.mpr ⟨j, by rw [List.getElem?_set_ne hij, hj]⟩)

lemma mem_of_mem_set_live {l : List Conn} {i : ℕ} {c d : Session}
    (h : (⟨d, true⟩ : Conn) ∈ l.set i ⟨c, false⟩) : (⟨d, true⟩ : Conn) ∈ l := by
  rcases List.mem_or_eq_of_mem_set h with h | h
  · exact h
  · cases h

lemma mem_eraseIdx_of_ne {l : List Hold} {i : ℕ} {g h : Hold} (hi : l[i]? = some h) (hg : g ∈ l)
    (hne : g ≠ h) : g ∈ l.eraseIdx i := by
  obtain ⟨j, hj⟩ := List.mem_iff_getElem?.mp hg
  refine List.mem_eraseIdx_iff_getElem?.mpr ⟨j, ?_, hj⟩
  rintro rfl
  exact hne (Option.some.inj (hj.symm.trans hi))

end MediaServo.Server
