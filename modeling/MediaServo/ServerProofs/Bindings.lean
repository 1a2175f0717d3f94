import MediaServo.ServerProofs.Orphans

/-! Tickets, bindings and room owners agree: a ticket's peer is bound to the device of its key,
and the devices in a room are its owner. -/

namespace MediaServo.Server

open MediaServo.Foundations MediaServo.Common SignalingServer

structure BindInv (s : SignalingServer) (sessions : List Conn) : Prop where
  bound : ∀ {k h}, s.resumeTable.get k = some h → s.deviceBindings.get h.peerId = some k.1
  owner : ∀ {r p d}, s.roomManager.Member r p → s.deviceBindings.get p = some d →
    s.roomOwners.get r = some d
  peers : ∀ {j k g h}, s.resumeTable.get j = some g → s.resumeTable.get k = some h →
    g.peerId = h.peerId → j = k
  live : ∀ {k h} {c : Session}, s.resumeTable.get k = some h → ⟨c, true⟩ ∈ sessions →
    c.peerId = h.peerId → c.key = k

/-- The id of the connection is not in use when the join reaches the room: it is not bound, and
for a device it is in no room and no live session has it. -/
def FreshPeer (sys : System) (q : JoinRequest) : Prop :=
  (∀ h, ¬Hit sys.server q h) →
    (sys.server.takeover q).deviceBindings.get q.peerId = none ∧
      (q.identity.isDevice = true →
        (∀ r, ¬(sys.server.takeover q).roomManager.Member r q.peerId) ∧
          ∀ c : Session, ⟨c, true⟩ ∈ sys.sessions → c.peerId ≠ q.peerId)

def FreshJoins (sys : System) : Action → Prop
  | .join q _ => FreshPeer sys q
  | _ => True

variable {s t : SignalingServer} {ss : List Conn} {q : JoinRequest}

lemma bindInv_init : BindInv SignalingServer.init [] where
  bound h := by simp [SignalingServer.init] at h
  owner := by rintro r p d ⟨room, hr, _⟩; simp [SignalingServer.init] at hr
  peers h := by simp [SignalingServer.init] at h
  live h := by simp [SignalingServer.init] at h

lemma freshPeer_init (q : JoinRequest) : FreshPeer System.init q := by
  refine fun _ => ⟨rfl, fun _ => ⟨?_, fun c hc => absurd hc (by simp [System.init])⟩⟩
  rintro r ⟨room, hr, _⟩
  have hnone : (FiniteMap.get (∅ : RoomManager) r) = some room := hr
  simp at hnone

lemma BindInv.departs {x y : String} (hi : BindInv s ss) (hd : Departs s t x y)
    (hx : ∀ {k h}, s.resumeTable.get k = some h → h.peerId ≠ x) : BindInv t ss where
  bound hk := by
    rw [hd.table] at hk
    rw [hd.bindings, FiniteMap.get_remove_ne _ (hx hk)]
    exact hi.bound hk
  owner hm hb := by
    rw [hd.owners hm]
    rw [hd.rooms] at hm
    rw [hd.bindings] at hb
    exact hi.owner (RoomManager.member_of_depart hm).1 (FiniteMap.get_of_remove hb)
  peers hj hk := by
    rw [hd.table] at hj hk
    exact hi.peers hj hk
  live hk := by
    rw [hd.table] at hk
    exact hi.live hk

lemma BindInv.remove (hi : BindInv s ss) (key : String × String) :
    BindInv { s with resumeTable := s.resumeTable.remove key } ss where
  bound hk := hi.bound (FiniteMap.get_of_remove hk)
  owner hm := hi.owner hm
  peers hj hk := hi.peers (FiniteMap.get_of_remove hj) (FiniteMap.get_of_remove hk)
  live hk := hi.live (FiniteMap.get_of_remove hk)

lemma BindInv.peer_ne {key : String × String} {h : HeldResume} (hi : BindInv s ss)
    (hk : s.resumeTable.get key = some h) {k : String × String} {g : HeldResume}
    (hg : (s.resumeTable.remove key).get k = some g) : g.peerId ≠ h.peerId := by
  intro he
  obtain rfl := hi.peers (FiniteMap.get_of_remove hg) hk he
  simp at hg

lemma BindInv.takeover (hi : BindInv s ss) (q : JoinRequest) : BindInv (s.takeover q) ss := by
  have hs := s.takeover_spec q
  generalize s.takeover q = t at hs
  cases hs with
  | absent => exact hi
  | cleared hk hd => exact (hi.remove q.key).departs hd (fun hg => hi.peer_ne hk hg)

lemma owner_of_passed {p d e : String} (hg : s.gateDenied q p = none) (hq : q.identity = .device e)
    (ho : s.roomOwners.get q.roomId = some d) : d = e := by
  rw [gateDenied, hq] at hg
  simp only [SessionIdentity.hostJoinDenied, Option.isSome_none, Bool.false_eq_true, and_false,
    if_false, SessionIdentity.canControl, not_true_eq_false, roomOwnerOf, ho,
    SessionIdentity.joinVehicleRoom] at hg
  by_contra hne
  simp [hne] at hg

lemma BindInv.enter (hi : BindInv s ss) (he : Entered s t q) (hg : s.gateDenied q q.peerId = none)
    (hf : s.deviceBindings.get q.peerId = none)
    (hm : q.identity.isDevice = true → ∀ r, ¬s.roomManager.Member r q.peerId) : BindInv t ss := by
  have hne : ∀ {k h}, s.resumeTable.get k = some h → h.peerId ≠ q.peerId := by
    intro k h hk hp
    have := hi.bound hk
    rw [hp, hf] at this
    contradiction
  refine ⟨fun hk => ?_, fun {r p d} hmem hb => ?_, fun hj hk => ?_, fun hk => ?_⟩
  · rw [he.table] at hk
    have hb := hi.bound hk
    cases hq : q.identity with
    | device e => rw [(he.bound hq).1, FiniteMap.get_set_ne _ _ (hne hk), hb]
    | account a => rw [(he.unbound (by simp [hq, SessionIdentity.isDevice])).1, hb]
    | legacy => rw [(he.unbound (by simp [hq, SessionIdentity.isDevice])).1, hb]
  · have hmem' := (RoomManager.member_joinRoom he.rooms).mp hmem
    rcases he.bound_of hb with hb' | ⟨rfl, hq⟩
    · have hold : s.roomManager.Member r p := by
        rcases hmem' with h | ⟨_, rfl⟩
        · exact h
        · rw [hf] at hb'; contradiction
      have ho := hi.owner hold hb'
      cases hq : q.identity with
      | device e =>
        rw [(he.bound hq).2, FiniteMap.get_set]
        split_ifs with hr
        · subst hr
          rw [owner_of_passed hg hq ho]
        · exact ho
      | account a => rw [(he.unbound (by simp [hq, SessionIdentity.isDevice])).2, ho]
      | legacy => rw [(he.unbound (by simp [hq, SessionIdentity.isDevice])).2, ho]
    · have hr : r = q.roomId := by
        rcases hmem' with h | ⟨h, _⟩
        · exact absurd h (hm (by simp [hq, SessionIdentity.isDevice]) r)
        · exact h
      rw [(he.bound hq).2, hr, FiniteMap.get_set_self]
  · rw [he.table] at hj hk
    exact hi.peers hj hk
  · rw [he.table] at hk
    exact hi.live hk

lemma BindInv.issue {p : String} (hi : BindInv s ss) (nonce : String)
    (hn : ∀ {k h}, s.resumeTable.get k = some h → h.peerId ≠ p)
    (hb : ∀ {d}, q.identity = .device d → s.deviceBindings.get p = some d)
    (hl : q.issuesTicket = true → ∀ c : Session, ⟨c, true⟩ ∈ ss → c.peerId = p → c.key = q.key) :
    BindInv (s.issueTicket q p nonce).1 (⟨q.session p, true⟩ :: ss) := by
  obtain ⟨hrooms, hbind, howner, _⟩ := issueTicket_fields s q p nonce
  refine ⟨fun hg => ?_, fun hm hd => ?_, fun {j k g h} hj hg he => ?_, fun {k h c} hg hc he => ?_⟩
  · rw [hbind]
    rcases get_of_issueTicket hg with ⟨hq, rfl, hp⟩ | ho
    · obtain ⟨_, ⟨d, hd⟩, _⟩ := issuesTicket_device hq
      rw [hp, hb hd]
      simp [JoinRequest.key, hd, identityKey]
    · exact hi.bound ho
  · rw [howner]
    exact hi.owner (hrooms ▸ hm) (hbind ▸ hd)
  · rcases get_of_issueTicket hj with ⟨_, rfl, hp⟩ | ho <;> rcases get_of_issueTicket hg with ⟨_, rfl, hp'⟩ | ho'
    · rfl
    · exact absurd (he.symm.trans hp) (hn ho')
    · exact absurd (he.trans hp') (hn ho)
    · exact hi.peers ho ho' he
  · rcases get_of_issueTicket hg with ⟨hq, rfl, hp⟩ | ho
    · rcases List.mem_cons.mp hc with hc | hc
      · cases hc
        rfl
      · exact hl hq c hc (he.trans hp)
    · rcases List.mem_cons.mp hc with hc | hc
      · cases hc
        exact absurd he.symm (hn ho)
      · exact hi.live ho hc he

lemma BindInv.join {sys : System} (hi : BindInv sys.server sys.sessions) {q : JoinRequest}
    (hf : FreshPeer sys q) (nonce : String) :
    BindInv (sys.join q nonce).server (sys.join q nonce).sessions := by
  have hs := sys.server.roomJoin_step q nonce
  rw [System.join]
  generalize sys.server.roomJoin q nonce = j at hs
  cases hs with
  | burned => exact hi.remove q.key
  | @resumed h hit =>
    refine (hi.remove q.key).issue nonce (fun hg => hi.peer_ne hit.ticket hg) (fun {d} hd => ?_)
      (fun _ c hc hp => hi.live hit.ticket hc hp)
    have hb := hi.bound hit.ticket
    simpa only [JoinRequest.key, hd, identityKey] using! hb
  | denied => exact hi.takeover q
  | full => exact hi.takeover q
  | @joined t miss passed entered =>
    obtain ⟨hfree, hdev⟩ := hf miss
    have ht := hi.takeover q
    have he := enter_spec entered
    refine (ht.enter he passed hfree (fun hq => (hdev hq).1)).issue nonce ?_ ?_ ?_
    · intro k h hk hp
      have hb := ht.bound (he.table ▸ hk)
      rw [hp, hfree] at hb
      contradiction
    · intro d hd
      rw [(he.bound hd).1, FiniteMap.get_set_self]
    · intro hq c hc hp
      obtain ⟨_, ⟨d, hd⟩, _⟩ := issuesTicket_device hq
      exact absurd hp ((hdev (by simp [hd, SessionIdentity.isDevice])).2 c hc)

lemma BindInv.quiet (hi : BindInv s ss) (hq : Quiet s t) : BindInv t ss where
  bound hk := by
    rw [hq.bindings]
    exact hi.bound (hq.table ▸ hk)
  owner hm hb := by
    rw [hq.rooms] at hm
    rw [hq.owners (RoomManager.contains_of_member hm)]
    exact hi.owner hm (hq.bindings ▸ hb)
  peers hj hk := hi.peers (hq.table ▸ hj) (hq.table ▸ hk)
  live hk := hi.live (hq.table ▸ hk)

lemma BindInv.shrinks (hi : BindInv s ss) (hs : Shrinks s t) : BindInv t ss where
  bound hk := by
    rw [hs.bindings]
    exact hi.bound (hs.table ▸ hk)
  owner hm hb := by
    rw [hs.owners]
    exact hi.owner (hs.members hm) (hs.bindings ▸ hb)
  peers hj hk := hi.peers (hs.table ▸ hj) (hs.table ▸ hk)
  live hk := hi.live (hs.table ▸ hk)

lemma BindInv.ended {i : ℕ} {c : Session} (hi : BindInv s ss) : BindInv s (ss.set i ⟨c, false⟩) where
  bound := hi.bound
  owner := hi.owner
  peers := hi.peers
  live hk hc := hi.live hk (mem_of_mem_set_live hc)

theorem BindInv.step {sys : System} (hi : BindInv sys.server sys.sessions) (hh : HoldInv sys)
    (a : Action) (hf : FreshJoins sys a) :
    BindInv (sys.step a).server (sys.step a).sessions := by
  have hs := step_spec sys a
  generalize hsys : sys.step a = sys' at hs
  cases hs with
  | quiet hq => exact hi.quiet hq
  | joined => exact hsys ▸ hi.join hf _
  | refused => exact hsys ▸ hi.join hf _
  | held _ _ hq => exact (hi.quiet hq).ended
  | left _ live unheld hd =>
    refine (hi.departs hd (fun {k h} hk hp => ?_)).ended
    obtain rfl := hi.live hk (List.mem_of_getElem? live) hp.symm
    exact unheld hk hp
  | expired hold he hd =>
    obtain ⟨x, hx, hp, _⟩ := hh.ticket (List.mem_of_getElem? hold) he
    exact (hi.remove _).departs hd (fun hk => hp ▸ hi.peer_ne hx hk)
  | idle => exact hi
  | kicked hk => exact hi.shrinks hk
  | deleted hk => exact hi.shrinks hk

structure ServerInv (sys : System) : Prop where
  table : TableInv sys.server
  hold : HoldInv sys
  bind : BindInv sys.server sys.sessions

lemma serverInv_init : ServerInv System.init := ⟨tableInv_init, holdInv_init, bindInv_init⟩

lemma ServerInv.step {sys : System} (hi : ServerInv sys) (a : Action) (hf : FreshJoins sys a) :
    ServerInv (sys.step a) :=
  ⟨hi.table.step a, hi.hold.step hi.table a, hi.bind.step hi.hold a hf⟩

theorem ServerInv.run {acts : List Action} (h : Along System.step FreshJoins System.init acts) :
    ServerInv (run System.step System.init acts) :=
  run_invariant serverInv_init (fun _ a hi hf => hi.step a hf) h

end MediaServo.Server
