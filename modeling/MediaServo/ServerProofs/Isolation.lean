import MediaServo.ServerProofs.Bindings

/-! What a join under one identity may do to the tickets and sessions of another device. -/

namespace MediaServo.Server

open MediaServo.Foundations MediaServo.Common SignalingServer

variable {s t : SignalingServer} {q : JoinRequest} {nonce d : String}

def KeepsTickets (s t : SignalingServer) (d : String) : Prop :=
  ∀ r h, s.resumeTable.get (d, r) = some h → t.resumeTable.get (d, r) = some h

def KeepsSessions (s t : SignalingServer) (d : String) : Prop :=
  ∀ p, s.deviceBindings.get p = some d →
    t.deviceBindings.get p = some d ∧ ∀ r, s.roomManager.Member r p → t.roomManager.Member r p

structure Evicted (s t : SignalingServer) (q : JoinRequest) (k : String × String) (h : HeldResume) :
    Prop where
  issues : q.issuesTicket = true
  full : resumeGlobalCap ≤ (s.resumeTable.remove q.key).size
  gone : t.resumeTable.get k = none
  younger : ∀ {j g}, t.resumeTable.get j = some g → h.seq < g.seq

lemma kept_or_evicted (hi : TableInv s) (ht : JoinTable s q nonce t) {k : String × String}
    {h : HeldResume} (hne : k ≠ q.key) (hk : s.resumeTable.get k = some h) :
    t.resumeTable.get k = some h ∨ Evicted s t q k h := by
  have hyoung : ∀ {j g}, t.resumeTable.get k = none → t.resumeTable.get j = some g → h.seq < g.seq :=
    fun hd hj => seq_lt_of_dropped hi ht hne hk hd hj
  have hrest : (s.resumeTable.remove q.key).get k = some h := by rw [FiniteMap.get_remove_ne _ hne, hk]
  cases ht with
  | cleared ht => exact Or.inl (by rw [ht, hrest])
  | issued p hq ht _ =>
    set m := (s.resumeTable.remove q.key).set q.key ⟨p, nonce, q.negotiated, s.resumeSeq⟩ with hm
    have hget : m.get k = some h := by rw [hm, FiniteMap.get_set_ne _ _ hne, hrest]
    by_cases hle : m.size ≤ resumeGlobalCap
    · exact Or.inl (by rw [ht, pruneResume, FiniteMap.evict_of_le hle, hget])
    · have hsize : m.size ≤ (s.resumeTable.remove q.key).size + 1 := FiniteMap.size_set_le _ _ _
      cases hg : t.resumeTable.get k with
      | none => exact Or.inr ⟨hq, by omega, hg, hyoung hg⟩
      | some g =>
        have hold : m.get k = some g := FiniteMap.get_of_evict (ht ▸ hg)
        exact Or.inl (hold.symm.trans hget)

lemma keepsSessions_takeover {ss : List Conn} (hi : BindInv s ss)
    (hk : identityKey q.identity = d → s.resumeTable.get q.key = none) :
    KeepsSessions s (s.takeover q) d := by
  have hs := s.takeover_spec q
  generalize s.takeover q = t at hs
  cases hs with
  | absent => exact fun p hb => ⟨hb, fun r hm => hm⟩
  | @cleared h t ht hd =>
    have hother : q.key.1 ≠ d := by
      intro he
      rw [hk he] at ht
      contradiction
    have hbound := hi.bound ht
    intro p hb
    have hp : p ≠ h.peerId := by
      rintro rfl
      rw [hb] at hbound
      exact hother (Option.some.inj hbound).symm
    refine ⟨by rw [hd.bindings, FiniteMap.get_remove_ne _ hp]; exact hb, fun r hm => ?_⟩
    rw [hd.rooms]
    by_cases hr : r = q.roomId
    · subst hr
      refine RoomManager.member_depart_of_not_host (fun hh => ?_) hp hm
      have hko := hi.owner (RoomManager.member_of_host hh) hbound
      rw [hi.owner hm hb] at hko
      exact hother (Option.some.inj hko).symm
    · exact RoomManager.member_depart_of_ne hr hm

lemma keepsSessions_enter (he : Entered s t q) (hf : s.deviceBindings.get q.peerId = none) :
    KeepsSessions s t d := by
  intro p hb
  have hp : p ≠ q.peerId := by
    rintro rfl
    rw [hf] at hb
    contradiction
  refine ⟨?_, fun r hm => (RoomManager.member_joinRoom he.rooms).mpr (Or.inl hm)⟩
  cases hq : q.identity with
  | device e => rw [(he.bound hq).1, FiniteMap.get_set_ne _ _ hp, hb]
  | account a => rw [(he.unbound (by simp [hq, SessionIdentity.isDevice])).1, hb]
  | legacy => rw [(he.unbound (by simp [hq, SessionIdentity.isDevice])).1, hb]

lemma keepsSessions_join {sys : System} (hi : BindInv sys.server sys.sessions)
    (hf : FreshPeer sys q) (hk : identityKey q.identity = d → sys.server.resumeTable.get q.key = none)
    (nonce : String) : KeepsSessions sys.server (sys.server.roomJoin q nonce).server d := by
  have hs := sys.server.roomJoin_step q nonce
  generalize sys.server.roomJoin q nonce = j at hs
  cases hs with
  | burned => exact fun p hb => ⟨hb, fun r hm => hm⟩
  | @resumed h =>
    obtain ⟨hrooms, hbind, _, _⟩ := issueTicket_fields (sys.server.burn q) q h.peerId nonce
    exact fun p hb => ⟨hbind ▸ hb, fun r hm => hrooms ▸ hm⟩
  | denied => exact keepsSessions_takeover hi hk
  | full => exact keepsSessions_takeover hi hk
  | @joined t miss _ entered =>
    obtain ⟨hrooms, hbind, _, _⟩ := issueTicket_fields t q q.peerId nonce
    intro p hb
    obtain ⟨hb₁, hm₁⟩ := keepsSessions_takeover hi hk p hb
    obtain ⟨hb₂, hm₂⟩ := keepsSessions_enter (enter_spec entered) (hf miss).1 p hb₁
    exact ⟨hbind ▸ hb₂, fun r hm => hrooms ▸ hm₂ r (hm₁ r hm)⟩

theorem identity_isolation (acts : List Action)
    (h : Along System.step FreshJoins System.init acts) (q : JoinRequest) (nonce d : String)
    (hf : FreshPeer (run System.step System.init acts) q)
    (hk : identityKey q.identity = d →
      (run System.step System.init acts).server.resumeTable.get q.key = none) :
    let s := (run System.step System.init acts).server
    let t := (s.roomJoin q nonce).server
    KeepsSessions s t d ∧
      ∀ r g, s.resumeTable.get (d, r) = some g →
        t.resumeTable.get (d, r) = some g ∨ Evicted s t q (d, r) g := by
  have hi := ServerInv.run h
  refine ⟨keepsSessions_join hi.bind hf hk nonce, fun r g hg => ?_⟩
  refine kept_or_evicted hi.table (roomJoin_table _ q nonce) ?_ hg
  intro he
  have hnone := hk (congrArg Prod.fst he).symm
  rw [← he, hg] at hnone
  contradiction

theorem identity_isolation_viewer :
    let s := (run System.step System.init [vehicleJoin 0]).server
    let t := (s.roomJoin ⟨"a-1", .account ⟨"a", .viewer, ["v"]⟩, "v", .consumer, none, none⟩ "m").server
    KeepsSessions s t "v" ∧ t.resumeTable.get ("v", "v") = s.resumeTable.get ("v", "v") ∧
      t.roomManager.get "v" = some ⟨some "p", none, ["a-1"]⟩ := by
  have h := identity_isolation [vehicleJoin 0] ⟨freshPeer_init _, trivial⟩
    ⟨"a-1", .account ⟨"a", .viewer, ["v"]⟩, "v", .consumer, none, none⟩ "m" "v"
    (fun _ => ⟨by decide, fun hd => absurd hd (by decide)⟩) (by decide)
  exact ⟨h.1, by decide, by decide⟩

theorem other_device_evicts : ¬∀ acts q nonce d, q.identity ≠ .device d →
    let s := (run System.step System.init acts).server
    KeepsTickets s (s.roomJoin q nonce).server d ∧ KeepsSessions s (s.roomJoin q nonce).server d := by
  intro h
  have hk := (h ((List.range 32).map vehicleJoin)
    ⟨"q", .device "w", "w", .host, some 3, none⟩ "m" "v" (by decide)).1 "v" ⟨"p", "n", 3, 0⟩
    (by decide +kernel)
  exact absurd hk (by decide +kernel)

end MediaServo.Server
