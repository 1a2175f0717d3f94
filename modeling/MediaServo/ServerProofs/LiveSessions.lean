import MediaServo.ServerProofs.Bindings

/-! The latest session of a device in a room keeps its place while it is live: no older session's
end, no retention window and no takeover under another key removes it. -/

namespace MediaServo.Server

open MediaServo.Foundations MediaServo.Common SignalingServer

variable {s t : SignalingServer} {ss : List Conn} {q : JoinRequest} {p d r : String} {hosts : Prop}

structure Placed (s : SignalingServer) (p d r : String) (hosts : Prop) : Prop where
  bound : s.deviceBindings.get p = some d
  only : ∀ {r'}, s.roomManager.Member r' p → r' = r
  host : hosts → s.roomManager.hostOf r = some p

structure LatestAt (ss : List Conn) (j : ℕ) (c : Session) (d r : String) : Prop where
  at_index : ss[j]? = some ⟨c, true⟩
  identity : c.identity = .device d
  room : c.roomId = r
  latest : ∀ {i x}, i < j → ss[i]? = some x →
    ¬(x.session.identity = .device d ∧ x.session.roomId = r)

lemma latestAt_of_latest {sys : System} {c : Session} (h : sys.latest d r = some ⟨c, true⟩) :
    ∃ j, LatestAt sys.sessions j c d r := by
  obtain ⟨hp, j, hj, hc, hlt⟩ := List.find?_eq_some_iff_getElem.mp h
  simp only [decide_eq_true_eq] at hp
  refine ⟨j, ⟨by rw [List.getElem?_eq_getElem hj, hc], hp.1, hp.2, fun {i x} hi hx => ?_⟩⟩
  have hn := hlt i hi
  rw [List.getElem?_eq_getElem (hi.trans hj)] at hx
  cases hx
  simpa only [Bool.not_eq_true', decide_eq_false_iff_not] using hn

lemma LatestAt.of_set {i j : ℕ} {c x : Session} (live : ss[i]? = some ⟨x, true⟩)
    (h : LatestAt (ss.set i ⟨x, false⟩) j c d r) : LatestAt ss j c d r ∧ i ≠ j := by
  have hne : i ≠ j := by
    rintro rfl
    have := h.at_index
    rw [List.getElem?_set_self (List.getElem?_eq_some_iff.mp live).1] at this
    cases this
  refine ⟨⟨by rw [← h.at_index, List.getElem?_set_ne hne], h.identity, h.room, fun {k y} hk hy => ?_⟩, hne⟩
  by_cases hik : i = k
  · subst hik
    rw [live] at hy
    cases hy
    exact h.latest (x := ⟨x, false⟩) hk
      (by rw [List.getElem?_set_self (List.getElem?_eq_some_iff.mp live).1])
  · exact h.latest hk (by rw [List.getElem?_set_ne hik, hy])

lemma live_of_set {i k : ℕ} {c x : Session} (h : (ss.set i ⟨c, false⟩)[k]? = some ⟨x, true⟩) :
    ss[k]? = some ⟨x, true⟩ := by
  rw [List.getElem?_set] at h
  split_ifs at h
  · cases h
  · exact h

lemma LatestAt.of_cons {j : ℕ} {c : Session} {x : Conn} (h : LatestAt (x :: ss) j c d r) :
    (j = 0 ∧ x = ⟨c, true⟩) ∨
      ∃ i, j = i + 1 ∧ LatestAt ss i c d r ∧
        ¬(x.session.identity = .device d ∧ x.session.roomId = r) := by
  cases j with
  | zero => exact Or.inl ⟨rfl, Option.some.inj h.at_index⟩
  | succ i =>
    refine Or.inr ⟨i, rfl, ⟨h.at_index, h.identity, h.room, fun hk hy => ?_⟩, ?_⟩
    · exact h.latest (Nat.succ_lt_succ hk) hy
    · exact h.latest (Nat.succ_pos i) rfl

lemma LatestAt.key {j : ℕ} {c : Session} (h : LatestAt ss j c d r) : c.key = (d, r) := by
  rw [Session.key, h.identity, h.room]
  rfl

lemma Placed.quiet (h : Placed s p d r hosts) (hq : Quiet s t) : Placed t p d r hosts :=
  ⟨hq.bindings ▸ h.bound, fun hm => h.only (hq.rooms ▸ hm), fun hh => hq.rooms ▸ h.host hh⟩

lemma Placed.departs {x y : String} (h : Placed s p d r hosts) (hd : Departs s t x y) (hp : p ≠ x) :
    Placed t p d r hosts where
  bound := by rw [hd.bindings, FiniteMap.get_remove_ne _ hp, h.bound]
  only hm := by
    rw [hd.rooms] at hm
    exact h.only (RoomManager.member_of_depart hm).1
  host hh := by
    rw [hd.rooms]
    exact RoomManager.hostOf_depart.2 ⟨h.host hh, fun he => hp he.2⟩

lemma Placed.takeover (h : Placed s p d r hosts)
    (hp : ∀ {g}, s.resumeTable.get q.key = some g → p ≠ g.peerId) :
    Placed (s.takeover q) p d r hosts := by
  have hs := s.takeover_spec q
  generalize s.takeover q = t at hs
  cases hs with
  | absent => exact h
  | cleared hk hd =>
    have hb : Placed (s.burn q) p d r hosts := ⟨h.bound, h.only, h.host⟩
    exact hb.departs hd (hp hk)

lemma Placed.enter (h : Placed s p d r hosts) (he : Entered s t q)
    (hf : s.deviceBindings.get q.peerId = none) : Placed t p d r hosts := by
  have hp : p ≠ q.peerId := by
    rintro rfl
    rw [h.bound] at hf
    contradiction
  refine ⟨?_, fun hm => ?_, fun hh => (RoomManager.hostOf_joinRoom he.rooms).mpr (Or.inl (h.host hh))⟩
  · cases hq : q.identity with
    | device e => rw [(he.bound hq).1, FiniteMap.get_set_ne _ _ hp, h.bound]
    | account a => rw [(he.unbound (by simp [hq, SessionIdentity.isDevice])).1, h.bound]
    | legacy => rw [(he.unbound (by simp [hq, SessionIdentity.isDevice])).1, h.bound]
  · rcases (RoomManager.member_joinRoom he.rooms).mp hm with hm | ⟨_, hp'⟩
    · exact h.only hm
    · exact absurd hp' hp

lemma SignalingServer.Entered.placed (he : Entered s t q) (hq : q.identity = .device d)
    (hm : ∀ r, ¬s.roomManager.Member r q.peerId) : Placed t q.peerId d q.roomId (q.role = .host) where
  bound := by rw [(he.bound hq).1, FiniteMap.get_set_self]
  only hr := by
    rcases (RoomManager.member_joinRoom he.rooms).mp hr with h | ⟨h, _⟩
    · exact absurd h (hm _)
    · exact h
  host hh := (RoomManager.hostOf_joinRoom he.rooms).mpr (Or.inr ⟨rfl, rfl, hh⟩)

lemma Placed.issue (h : Placed s p d r hosts) (q : JoinRequest) (peer nonce : String) :
    Placed (s.issueTicket q peer nonce).1 p d r hosts := by
  obtain ⟨hrooms, hbind, _, _⟩ := issueTicket_fields s q peer nonce
  exact ⟨hbind ▸ h.bound, fun hm => h.only (hrooms ▸ hm), fun hh => hrooms ▸ h.host hh⟩

/-- Ids are used by one session at a time: joins come under unused ids, only devices present
tickets, and no socket ends while a newer live session of a device has its id. -/
def Unshared (sys : System) (a : Action) : Prop :=
  match a with
  | .join q _ => FreshPeer sys q ∧
      (q.identity.isDevice = false → sys.server.resumeTable.get q.key = none)
  | .kickPeer _ | .removeRoom _ => False
  | _ => ∀ i j c x, a.Ends i → sys.sessions[i]? = some ⟨c, true⟩ → j < i →
      sys.sessions[j]? = some ⟨x, true⟩ → x.identity.isDevice = true → x.peerId ≠ c.peerId

structure LiveInv (sys : System) : Prop where
  server : ServerInv sys
  ticket : ∀ {k h}, sys.server.resumeTable.get k = some h →
    Placed sys.server h.peerId k.1 k.2 True
  place : ∀ {j c d r}, LatestAt sys.sessions j c d r →
    Placed sys.server c.peerId d r (c.role = .host)
  newer : ∀ {i j c d r} {x : Session}, LatestAt sys.sessions j c d r → i < j →
    sys.sessions[i]? = some ⟨x, true⟩ → x.peerId ≠ c.peerId
  holds : ∀ {j c d r h}, LatestAt sys.sessions j c d r → h ∈ sys.holds → sys.server.Effective h →
    c.peerId ≠ h.peerId

lemma liveInv_init : LiveInv System.init where
  server := serverInv_init
  ticket h := by simp [System.init, SignalingServer.init] at h
  place h := absurd h.at_index (by simp [System.init])
  newer h := absurd h.at_index (by simp [System.init])
  holds h := absurd h.at_index (by simp [System.init])

lemma Unshared.freshJoins {sys : System} {a : Action} (h : Unshared sys a) : FreshJoins sys a := by
  cases a with
  | join q nonce => exact h.1
  | _ => trivial

lemma LiveInv.peer_ne {sys : System} {a : Action} (hi : LiveInv sys) (hu : Unshared sys a) {i j : ℕ}
    {c x : Session} (ends : a.Ends i) (live : sys.sessions[i]? = some ⟨x, true⟩)
    (hl : LatestAt sys.sessions j c d r) (hne : i ≠ j) : c.peerId ≠ x.peerId := by
  rcases Nat.lt_or_gt_of_ne hne with hij | hji
  · exact (hi.newer hl hij live).symm
  · have hdev : c.identity.isDevice = true := by rw [hl.identity]; rfl
    cases a with
    | join => exact ends.elim
    | expire => exact ends.elim
    | kickPeer => exact hu.elim
    | removeRoom => exact hu.elim
    | close k => exact hu i j x c ends live hji hl.at_index hdev
    | message k msg w => exact hu i j x c ends live hji hl.at_index hdev

lemma effective_of_join {sys : System} {nonce : String} (hh : HoldInv sys)
    (ht : JoinTable sys.server q nonce t) {h : Hold} (hm : h ∈ sys.holds) (he : t.Effective h) :
    sys.server.Effective h ∧ h.key ≠ q.key := by
  obtain ⟨x, hx, hs⟩ := he
  rcases get_of_joinTable ht hx with ⟨_, _, _, p, rfl⟩ | ⟨ho, hne⟩
  · have := hh.below hm
    exact absurd hs (by simp only; omega)
  · exact ⟨⟨x, ho, hs⟩, hne⟩

lemma bound_of_effective {sys : System} (hi : ServerInv sys) {h : Hold} (hm : h ∈ sys.holds)
    (he : sys.server.Effective h) (hne : h.key ≠ q.key) :
    ∃ e, (sys.server.takeover q).deviceBindings.get h.peerId = some e := by
  obtain ⟨x, hx, hp, _⟩ := hi.hold.ticket hm he
  refine ⟨h.key.1, hp ▸ (hi.bind.takeover q).bound (k := h.key) ?_⟩
  rw [takeover_table, FiniteMap.get_remove_ne _ hne, hx]

lemma not_refused {sys : System} (hi : LiveInv sys) (hq : q.identity = .device d) {h : HeldResume}
    (hk : sys.server.resumeTable.get q.key = some h) :
    (sys.server.takeover q).gateDenied q q.peerId = none ∧
      ∀ e, (sys.server.takeover q).enter q ≠ .error e := by
  have hplace := hi.ticket hk
  have hkey : q.key = (d, q.roomId) := by rw [JoinRequest.key, hq]; rfl
  rw [hkey] at hplace
  have hhost := hplace.host trivial
  have howner := hi.server.bind.owner (RoomManager.member_of_host hhost) hplace.bound
  have hs := sys.server.takeover_spec q
  generalize sys.server.takeover q = t at hs
  cases hs with
  | absent hn => rw [hk] at hn; contradiction
  | cleared hk' hd =>
    rw [hk] at hk'
    cases hk'
    constructor
    · have ho : ∀ e, t.roomOwners.get q.roomId = some e → e = d := by
        intro e he
        have := hd.owners_of he
        exact Option.some.inj (this.symm.trans howner)
      rw [gateDenied, hq]
      simp only [SessionIdentity.hostJoinDenied, Option.isSome_none, Bool.false_eq_true, and_false,
        if_false, SessionIdentity.canControl, not_true_eq_false, roomOwnerOf]
      cases hg : t.roomOwners.get q.roomId with
      | none => rfl
      | some e => simp [SessionIdentity.joinVehicleRoom, ho e hg]
    · intro e he
      rw [enter] at he
      split at he
      · rename_i he'
        obtain ⟨_, x, hx⟩ := RoomManager.joinRoom_error he'
        rw [hd.rooms] at hx
        obtain ⟨hx, hne⟩ := RoomManager.hostOf_depart.1 hx
        exact hne ⟨rfl, Option.some.inj (hx.symm.trans hhost)⟩
      · cases hd' : q.identity.deviceId <;> simp [hd'] at he

lemma key_of_device (hq : q.identity = .device d) : q.key = (d, q.roomId) := by
  rw [JoinRequest.key, hq]
  rfl

lemma device_of_ticket {sys : System} {nonce : String} (hu : Unshared sys (.join q nonce))
    {h : HeldResume} (hk : sys.server.resumeTable.get q.key = some h) :
    ∃ d, q.identity = .device d ∧ q.key = (d, q.roomId) := by
  cases hq : q.identity with
  | device d => exact ⟨d, rfl, key_of_device hq⟩
  | account a =>
    rw [hu.2 (by simp [hq, SessionIdentity.isDevice])] at hk
    contradiction
  | legacy =>
    rw [hu.2 (by simp [hq, SessionIdentity.isDevice])] at hk
    contradiction

lemma superseded {sys : System} {nonce : String} (hi : LiveInv sys)
    (hu : Unshared sys (.join q nonce)) {h : HeldResume} {j : ℕ} {c : Session}
    (hk : sys.server.resumeTable.get q.key = some h) (hl : LatestAt sys.sessions j c d r)
    (hp : c.peerId = h.peerId) : q.identity = .device d ∧ q.roomId = r := by
  obtain ⟨e, hq, hkey⟩ := device_of_ticket hu hk
  have hck := hi.server.bind.live hk (List.mem_of_getElem? hl.at_index) hp
  rw [hl.key, hkey, Prod.mk.injEq] at hck
  exact ⟨hck.1 ▸ hq, hck.2.symm⟩

lemma LiveInv.resumed {sys : System} {nonce : String} (hi : LiveInv sys)
    (hu : Unshared sys (.join q nonce)) {h : HeldResume} (hit : Hit sys.server q h)
    (ht : JoinTable sys.server q nonce ((sys.server.burn q).ackJoin q h.peerId nonce).server)
    (hs : ServerInv ⟨((sys.server.burn q).ackJoin q h.peerId nonce).server,
      ⟨q.session h.peerId, true⟩ :: sys.sessions, sys.holds⟩) :
    LiveInv ⟨((sys.server.burn q).ackJoin q h.peerId nonce).server,
      ⟨q.session h.peerId, true⟩ :: sys.sessions, sys.holds⟩ := by
  have hkeep : ∀ {p d r hosts}, Placed sys.server p d r hosts →
      Placed ((sys.server.burn q).ackJoin q h.peerId nonce).server p d r hosts := by
    intro p d r hosts hp
    have hb : Placed (sys.server.burn q) p d r hosts := ⟨hp.bound, hp.only, hp.host⟩
    exact hb.issue q h.peerId nonce
  have hold := hi.ticket hit.ticket
  refine ⟨hs, fun {k g} hg => ?_, fun {j c d r} hl => ?_, fun {i j c d r x} hl hij hx => ?_,
    fun {j c d r g} hl hg he => ?_⟩
  · rcases get_of_issueTicket hg with ⟨_, rfl, hp⟩ | hg
    · exact hp ▸ hkeep hold
    · exact hkeep (hi.ticket (FiniteMap.get_of_remove hg))
  · rcases hl.of_cons with ⟨_, hc⟩ | ⟨i, _, hl', _⟩
    · cases hc
      have hkey := key_of_device (q := q) hl.identity
      have hroom : q.roomId = r := hl.room
      rw [hkey, hroom] at hold
      exact ⟨(hkeep hold).bound, (hkeep hold).only, fun _ => (hkeep hold).host trivial⟩
    · exact hkeep (hi.place hl')
  · rcases hl.of_cons with ⟨rfl, _⟩ | ⟨k, rfl, hl', hne⟩
    · exact absurd hij (Nat.not_lt_zero i)
    · cases i with
      | zero =>
        cases hx
        exact fun hp => hne (superseded hi hu hit.ticket hl' hp.symm)
      | succ i => exact hi.newer hl' (Nat.lt_of_succ_lt_succ hij) hx
  · obtain ⟨he', hkey⟩ := effective_of_join hi.server.hold ht hg he
    rcases hl.of_cons with ⟨_, hc⟩ | ⟨k, rfl, hl', _⟩
    · cases hc
      intro hp
      obtain ⟨x, hx, hxp, _⟩ := hi.server.hold.ticket hg he'
      exact hkey (hi.server.bind.peers hx hit.ticket (hxp.trans hp.symm))
    · exact hi.holds hl' hg he'

lemma Placed.full_join {sys : System} (h : Placed sys.server p d r hosts)
    (hp : ∀ {g}, sys.server.resumeTable.get q.key = some g → p ≠ g.peerId)
    (he : Entered (sys.server.takeover q) t q)
    (hf : (sys.server.takeover q).deviceBindings.get q.peerId = none) (nonce : String) :
    Placed (t.ackJoin q q.peerId nonce).server p d r hosts :=
  ((h.takeover hp).enter he hf).issue q q.peerId nonce

lemma LiveInv.joined {sys : System} {nonce : String} (hi : LiveInv sys)
    (hu : Unshared sys (.join q nonce)) (miss : ∀ h, ¬Hit sys.server q h)
    (he : Entered (sys.server.takeover q) t q)
    (ht : JoinTable sys.server q nonce (t.ackJoin q q.peerId nonce).server)
    (hs : ServerInv ⟨(t.ackJoin q q.peerId nonce).server,
      ⟨q.session q.peerId, true⟩ :: sys.sessions, sys.holds⟩) :
    LiveInv ⟨(t.ackJoin q q.peerId nonce).server,
      ⟨q.session q.peerId, true⟩ :: sys.sessions, sys.holds⟩ := by
  obtain ⟨hfree, hdev⟩ := hu.1 miss
  have hnew : ∀ {d}, q.identity = .device d →
      Placed (t.ackJoin q q.peerId nonce).server q.peerId d q.roomId (q.role = .host) :=
    fun hq => (he.placed hq (hdev (by rw [hq]; rfl)).1).issue q q.peerId nonce
  have hother : ∀ {k h}, sys.server.resumeTable.get k = some h → k ≠ q.key →
      ∀ {g}, sys.server.resumeTable.get q.key = some g → h.peerId ≠ g.peerId :=
    fun hk hne _ hg hp => hne (hi.server.bind.peers hk hg hp)
  have hlatest : ∀ {j c d r}, LatestAt sys.sessions j c d r →
      ¬(q.identity = .device d ∧ q.roomId = r) →
      ∀ {g}, sys.server.resumeTable.get q.key = some g → c.peerId ≠ g.peerId :=
    fun hl hne _ hg hp => hne (superseded hi hu hg hl hp)
  refine ⟨hs, fun {k g} hg => ?_, fun {j c d r} hl => ?_, fun {i j c d r x} hl hij hx => ?_,
    fun {j c d r g} hl hg hge => ?_⟩
  · rcases get_of_joinTable ht hg with ⟨hq, rfl, _, x, rfl⟩ | ⟨ho, hne⟩
    · obtain ⟨hrole, ⟨d, hd⟩, _⟩ := issuesTicket_device hq
      obtain ⟨_, _, hp⟩ | ho := get_of_issueTicket hg
      · obtain ⟨hb, hm, hh⟩ := hnew hd
        rw [key_of_device hd, hp]
        exact ⟨hb, hm, fun _ => hh hrole⟩
      · rw [he.table, takeover_table, FiniteMap.get_remove_self] at ho
        contradiction
    · exact (hi.ticket ho).full_join (hother ho hne) he hfree nonce
  · rcases hl.of_cons with ⟨_, hc⟩ | ⟨i, _, hl', hne⟩
    · cases hc
      have hroom : q.roomId = r := hl.room
      exact hroom ▸ hnew (d := d) hl.identity
    · exact (hi.place hl').full_join (hlatest hl' hne) he hfree nonce
  · rcases hl.of_cons with ⟨rfl, _⟩ | ⟨k, rfl, hl', hne⟩
    · exact absurd hij (Nat.not_lt_zero i)
    · cases i with
      | zero =>
        cases hx
        intro hp
        have hb := ((hi.place hl').takeover (hlatest hl' hne)).bound
        rw [← hp] at hb
        exact absurd (hb.symm.trans hfree) (by simp)
      | succ i => exact hi.newer hl' (Nat.lt_of_succ_lt_succ hij) hx
  · obtain ⟨he', hkey⟩ := effective_of_join hi.server.hold ht hg hge
    rcases hl.of_cons with ⟨_, hc⟩ | ⟨k, rfl, hl', _⟩
    · cases hc
      intro hp
      obtain ⟨e, hb⟩ := bound_of_effective hi.server hg he' hkey
      rw [← hp] at hb
      exact absurd (hb.symm.trans hfree) (by simp)
    · exact hi.holds hl' hg he'

lemma LiveInv.refused {sys : System} {nonce : String} (hi : LiveInv sys)
    (hu : Unshared sys (.join q nonce))
    (hr : ¬((sys.server.takeover q).gateDenied q q.peerId = none ∧
      ∀ e, (sys.server.takeover q).enter q ≠ .error e)) :
    sys.server.takeover q = sys.server := by
  have hs := sys.server.takeover_spec q
  generalize htk : sys.server.takeover q = t at hs
  cases hs with
  | absent => rfl
  | cleared hk =>
    obtain ⟨d, hq, _⟩ := device_of_ticket hu hk
    exact absurd (not_refused hi hq hk) hr

lemma LiveInv.join {sys : System} {nonce : String} (hi : LiveInv sys)
    (hu : Unshared sys (.join q nonce)) : LiveInv (sys.join q nonce) := by
  have hs := sys.server.roomJoin_step q nonce
  have ht := sys.server.roomJoin_table q nonce
  have hsrv : ServerInv (sys.join q nonce) := hi.server.step (.join q nonce) hu.freshJoins
  rw [System.join] at hsrv ⊢
  generalize sys.server.roomJoin q nonce = j at hs ht hsrv
  cases hs with
  | burned =>
    refine ⟨hsrv, fun hk => ?_, fun hl => ?_, hi.newer, fun hl hg he => ?_⟩
    · obtain ⟨hb, ho, hh⟩ := hi.ticket (FiniteMap.get_of_remove hk)
      exact ⟨hb, ho, hh⟩
    · obtain ⟨hb, ho, hh⟩ := hi.place hl
      exact ⟨hb, ho, hh⟩
    · exact hi.holds hl hg (effective_of_join hi.server.hold ht hg he).1
  | resumed hit => exact hi.resumed hu hit ht hsrv
  | denied _ hd =>
    have he := hi.refused hu (fun h => by rw [h.1] at hd; contradiction)
    dsimp only
    rw [he]
    exact hi
  | full _ hf =>
    have he := hi.refused hu (fun h => h.2 _ hf)
    dsimp only
    rw [he]
    exact hi
  | joined miss _ entered => exact hi.joined hu miss (enter_spec entered) ht hsrv

theorem LiveInv.step {sys : System} (hi : LiveInv sys) (a : Action) (hu : Unshared sys a) :
    LiveInv (sys.step a) := by
  have hsrv := hi.server.step a hu.freshJoins
  have hs := step_spec sys a
  generalize hsys : sys.step a = sys' at hs hsrv
  cases hs with
  | quiet hq =>
    exact ⟨hsrv, fun hk => (hi.ticket (hq.table ▸ hk)).quiet hq, fun hl => (hi.place hl).quiet hq,
      hi.newer, fun hl hg he => hi.holds hl hg ((effective_of_table hq.table).mp he)⟩
  | joined => exact hsys ▸ hi.join hu
  | refused => exact hsys ▸ hi.join hu
  | held ends live hq hk hp =>
    refine ⟨hsrv, fun hk => (hi.ticket (hq.table ▸ hk)).quiet hq,
      fun hl => (hi.place (hl.of_set live).1).quiet hq,
      fun hl hij hx => hi.newer (hl.of_set live).1 hij (live_of_set hx), fun hl hg he => ?_⟩
    · obtain ⟨hl', hne⟩ := hl.of_set live
      rcases List.mem_cons.mp hg with rfl | hg
      · exact hi.peer_ne hu ends live hl' hne
      · exact hi.holds hl' hg ((effective_of_table hq.table).mp he)
  | left ends live unheld hd =>
    refine ⟨hsrv, fun {k h} hk => ?_, fun hl => ?_,
      fun hl hij hx => hi.newer (hl.of_set live).1 hij (live_of_set hx), fun hl hg he => ?_⟩
    · rw [hd.table] at hk
      refine (hi.ticket hk).departs hd (fun hp => ?_)
      obtain rfl := hi.server.bind.live hk (List.mem_of_getElem? live) hp.symm
      exact unheld hk hp
    · obtain ⟨hl', hne⟩ := hl.of_set live
      exact (hi.place hl').departs hd (hi.peer_ne hu ends live hl' hne)
    · exact hi.holds (hl.of_set live).1 hg ((effective_of_table hd.table).mp he)
  | @expired i h t hold eff hd =>
    have hburn : ∀ {p d r hosts}, Placed sys.server p d r hosts → Placed
        { sys.server with resumeTable := sys.server.resumeTable.remove h.key } p d r hosts :=
      fun hp => ⟨hp.bound, hp.only, hp.host⟩
    obtain ⟨x, hx, hxp, _⟩ := hi.server.hold.ticket (List.mem_of_getElem? hold) eff
    refine ⟨hsrv, fun {k g} hk => ?_, fun hl => ?_, hi.newer, fun hl hg he => ?_⟩
    · rw [hd.table] at hk
      refine (hburn (hi.ticket (FiniteMap.get_of_remove hk))).departs hd ?_
      exact hxp ▸ hi.server.bind.peer_ne hx hk
    · exact (hburn (hi.place hl)).departs hd (hi.holds hl (List.mem_of_getElem? hold) eff)
    · obtain ⟨y, hy, hs⟩ := he
      rw [hd.table] at hy
      exact hi.holds hl (List.mem_of_mem_eraseIdx hg) ⟨y, FiniteMap.get_of_remove hy, hs⟩
  | idle hold void =>
    exact ⟨hsrv, hi.ticket, hi.place, hi.newer,
      fun hl hg => hi.holds hl (List.mem_of_mem_eraseIdx hg)⟩
  | kicked => exact hu.elim
  | deleted => exact hu.elim

def Disconnects (sys : System) (a : Action) (x r : String) : Prop :=
  (∃ i c, a.Ends i ∧ sys.sessions[i]? = some ⟨c, true⟩ ∧ c.peerId = x ∧ c.roomId = r) ∨
    (∃ i h, a = .expire i ∧ sys.holds[i]? = some h ∧ sys.server.Effective h ∧ h.peerId = x ∧
      h.roomId = r) ∨
    ∃ q n h, a = .join q n ∧ sys.server.resumeTable.get q.key = some h ∧ h.peerId = x ∧ q.roomId = r

def HostLeft (acts : List Action) (r p : String) : Prop :=
  ∃ as a bs x, acts = as ++ a :: bs ∧ x ≠ p ∧
    (run System.step System.init as).server.roomManager.hostOf r = some x ∧
    (run System.step System.init as).server.roomManager.Member r p ∧
    Disconnects (run System.step System.init as) a x r

def Stays (sys : System) (a : Action) (r p : String) : Prop :=
  sys.server.roomManager.Member r p → (sys.step a).server.roomManager.Member r p ∨
    ∃ x, x ≠ p ∧ sys.server.roomManager.hostOf r = some x ∧ Disconnects sys a x r

lemma stays_of_departs {sys : System} {a : Action} {x y : String} (hp : p ≠ x)
    (hr : (sys.step a).server.roomManager = sys.server.roomManager.depart y x)
    (hd : Disconnects sys a x y) : Stays sys a r p := by
  intro hm
  rw [hr]
  have hcase : (sys.server.roomManager.depart y x).Member r p ∨
      (r = y ∧ sys.server.roomManager.hostOf r = some x) := RoomManager.member_depart_or_host hp hm
  rcases hcase with h | ⟨rfl, hh⟩
  · exact Or.inl h
  · exact Or.inr ⟨x, hp.symm, hh, hd⟩

lemma member_join {sys : System} {nonce : String} {j : ℕ} {c : Session} (hi : LiveInv sys)
    (hu : Unshared sys (.join q nonce)) (hl : LatestAt (sys.join q nonce).sessions j c d r) :
    (sys.join q nonce).server.roomManager.Member r c.peerId ∨
      ∃ k, LatestAt sys.sessions k c d r ∧ Stays sys (.join q nonce) r c.peerId := by
  have hs := sys.server.roomJoin_step q nonce
  have hsame : (sys.join q nonce).server.roomManager = sys.server.roomManager →
      Stays sys (.join q nonce) r c.peerId := fun he hm => Or.inl (he ▸ hm)
  rw [join_server] at hsame ⊢
  have hstays : ((sys.server.roomManager.Member r c.peerId →
      (sys.server.roomJoin q nonce).server.roomManager.Member r c.peerId ∨
        ∃ x, x ≠ c.peerId ∧ sys.server.roomManager.hostOf r = some x ∧
          Disconnects sys (.join q nonce) x r)) → Stays sys (.join q nonce) r c.peerId := by
    intro h
    rw [Stays, System.step, join_server]
    exact h
  rw [System.join] at hl
  generalize sys.server.roomJoin q nonce = v at hs hl hsame hstays
  cases hs with
  | burned => exact Or.inr ⟨j, hl, hsame rfl⟩
  | @resumed h hit =>
    obtain ⟨hrooms, _, _, _⟩ := issueTicket_fields (sys.server.burn q) q h.peerId nonce
    rcases hl.of_cons with ⟨_, hc⟩ | ⟨k, _, hl', _⟩
    · cases hc
      have hkey := key_of_device (q := q) hl.identity
      have hroom : q.roomId = r := hl.room
      have hhost := (hi.ticket hit.ticket).host trivial
      rw [hkey, hroom] at hhost
      exact Or.inl (hrooms ▸ RoomManager.member_of_host hhost)
    · exact Or.inr ⟨k, hl', hsame hrooms⟩
  | denied _ hd =>
    have he := hi.refused hu (fun h => by rw [h.1] at hd; contradiction)
    exact Or.inr ⟨j, hl, hsame (by rw [he])⟩
  | full _ hf =>
    have he := hi.refused hu (fun h => h.2 _ hf)
    exact Or.inr ⟨j, hl, hsame (by rw [he])⟩
  | @joined t miss _ entered =>
    have he := enter_spec entered
    obtain ⟨hrooms, _, _, _⟩ := issueTicket_fields t q q.peerId nonce
    have hin : ∀ {r p}, (sys.server.takeover q).roomManager.Member r p →
        (t.ackJoin q q.peerId nonce).server.roomManager.Member r p :=
      fun hm => hrooms ▸ (RoomManager.member_joinRoom he.rooms).mpr (Or.inl hm)
    rcases hl.of_cons with ⟨_, hc⟩ | ⟨k, _, hl', hne⟩
    · cases hc
      have hroom : q.roomId = r := hl.room
      exact Or.inl (hrooms ▸ (RoomManager.member_joinRoom he.rooms).mpr (Or.inr ⟨hroom.symm, rfl⟩))
    · refine Or.inr ⟨k, hl', hstays (fun hm => ?_)⟩
      have htk := sys.server.takeover_spec q
      generalize sys.server.takeover q = u at htk hin
      cases htk with
      | absent => exact Or.inl (hin hm)
      | @cleared h u hk hd =>
        have hp : c.peerId ≠ h.peerId := fun hp => hne (superseded hi hu hk hl' hp)
        rcases RoomManager.member_depart_or_host hp hm with h' | ⟨hr, hh⟩
        · exact Or.inl (hin (hd.rooms ▸ h'))
        · exact Or.inr ⟨h.peerId, hp.symm, hh, Or.inr (Or.inr ⟨q, nonce, h, rfl, hk, rfl, hr.symm⟩)⟩

lemma member_step {sys : System} {a : Action} {j : ℕ} {c : Session} (hi : LiveInv sys)
    (hu : Unshared sys a) (hl : LatestAt (sys.step a).sessions j c d r) :
    (sys.step a).server.roomManager.Member r c.peerId ∨
      ∃ k, LatestAt sys.sessions k c d r ∧ Stays sys a r c.peerId := by
  have hs := step_spec sys a
  generalize hsys : sys.step a = sys' at hs hl
  cases hs with
  | quiet hq => exact Or.inr ⟨j, hl, fun hm => Or.inl (by rw [hsys]; exact hq.rooms ▸ hm)⟩
  | joined => exact hsys ▸ member_join hi hu (by rw [← hsys] at hl; exact hl)
  | refused => exact hsys ▸ member_join hi hu (by rw [← hsys] at hl; exact hl)
  | held ends live hq =>
    exact Or.inr ⟨j, (hl.of_set live).1, fun hm => Or.inl (by rw [hsys]; exact hq.rooms ▸ hm)⟩
  | left ends live _ hd =>
    obtain ⟨hl', hne⟩ := hl.of_set live
    exact Or.inr ⟨j, hl', stays_of_departs (hi.peer_ne hu ends live hl' hne)
      (by rw [hsys]; exact hd.rooms) (Or.inl ⟨_, _, ends, live, rfl, rfl⟩)⟩
  | expired hold eff hd =>
    exact Or.inr ⟨j, hl, stays_of_departs (hi.holds hl (List.mem_of_getElem? hold) eff)
      (by rw [hsys]; exact hd.rooms) (Or.inr (Or.inl ⟨_, _, rfl, hold, eff, rfl, rfl⟩))⟩
  | idle => exact Or.inr ⟨j, hl, fun hm => Or.inl (by rw [hsys]; exact hm)⟩
  | kicked => exact hu.elim
  | deleted => exact hu.elim

lemma member_run (acts : List Action) (h : Along System.step Unshared System.init acts) {j : ℕ}
    {c : Session} (hl : LatestAt (run System.step System.init acts).sessions j c d r) :
    (run System.step System.init acts).server.roomManager.Member r c.peerId ∨
      HostLeft acts r c.peerId := by
  induction acts using List.reverseRecOn generalizing j with
  | nil => exact absurd hl.at_index (by simp [System.init])
  | append_singleton acts a ih =>
    obtain ⟨hpre, hu, _⟩ := (along_append acts [a]).mp h
    have hi := run_invariant liveInv_init (fun _ a hi hu => hi.step a hu) hpre
    rw [run_snoc] at hl ⊢
    rcases member_step hi hu hl with hm | ⟨k, hl', hstay⟩
    · exact Or.inl hm
    · rcases ih hpre hl' with hm | ⟨as, b, bs, x, rfl, hx⟩
      · rcases hstay hm with hm' | ⟨x, hx, hh, hd⟩
        · exact Or.inl hm'
        · exact Or.inr ⟨acts, a, [], x, rfl, hx, hh, hm, hd⟩
      · exact Or.inr ⟨as, b, bs ++ [a], x, by simp, hx⟩

theorem live_session_safety (acts : List Action) (h : Along System.step Unshared System.init acts)
    (d r : String) (c : Session)
    (hl : (run System.step System.init acts).latest d r = some ⟨c, true⟩) :
    (run System.step System.init acts).server.deviceBindings.get c.peerId = some d ∧
      (c.role = .host →
        (run System.step System.init acts).server.roomManager.hostOf r = some c.peerId) ∧
      ((run System.step System.init acts).server.roomManager.Member r c.peerId ∨
        (c.role ≠ .host ∧ HostLeft acts r c.peerId)) := by
  obtain ⟨j, hj⟩ := latestAt_of_latest hl
  have hi := run_invariant liveInv_init (fun _ a hi hu => hi.step a hu) h
  have hp := hi.place hj
  refine ⟨hp.bound, hp.host, ?_⟩
  by_cases hr : c.role = .host
  · exact Or.inl (RoomManager.member_of_host (hp.host hr))
  · exact (member_run acts h hj).imp_right fun hh => ⟨hr, hh⟩

theorem live_session_safety_reattach :
    let sys := run System.step System.init reattach
    sys.latest "car" "car" = some ⟨⟨"p1", "car", .host, .device "car", 3⟩, true⟩ ∧
      sys.server.deviceBindings.get "p1" = some "car" ∧
      sys.server.roomManager.hostOf "car" = some "p1" ∧ sys.server.roomManager.Member "car" "p1" := by
  have hu : Along System.step Unshared System.init reattach := by
    refine ⟨⟨freshPeer_init _, fun h => absurd h (by decide)⟩, ?_,
      ⟨fun h => absurd ⟨by decide, rfl, rfl, by decide⟩ (h ⟨"p1", "n1", 3, 0⟩),
        fun h => absurd h (by decide)⟩, trivial⟩
    rintro i j c x rfl _ hj
    exact absurd hj (Nat.not_lt_zero j)
  have hl : (run System.step System.init reattach).latest "car" "car" =
      some ⟨⟨"p1", "car", .host, .device "car", 3⟩, true⟩ := by decide
  obtain ⟨hb, hh, hm⟩ := live_session_safety reattach hu "car" "car" _ hl
  exact ⟨hl, hb, hh rfl, hm.resolve_right fun h => h.1 rfl⟩

def LiveSafe (sys : System) : Prop :=
  ∀ d r c, sys.latest d r = some ⟨c, true⟩ →
    sys.server.roomManager.Member r c.peerId ∧ sys.server.deviceBindings.get c.peerId = some d

def hostDrop : List Action :=
  [.join ⟨"h1", .legacy, "car", .host, some 3, none⟩ "n1",
    .join ⟨"p1", .device "car", "car", .consumer, some 3, none⟩ "n2", .close 1]

theorem consumer_dropped_with_host : ¬∀ acts, LiveSafe (run System.step System.init acts) := by
  intro h
  obtain ⟨⟨room, hr, _⟩, _⟩ := h hostDrop "car" "car" ⟨"p1", "car", .consumer, .device "car", 3⟩ (by decide)
  have hnone : (run System.step System.init hostDrop).server.roomManager.get "car" = none := by decide
  rw [hnone] at hr
  contradiction

end MediaServo.Server
