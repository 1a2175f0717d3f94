import MediaServo.ServerProofs.Frames

/-! The outcomes of a join, once for all proofs, and what each of them does to rooms, bindings,
owners and tickets. Of a refused join the gates stand behind the take-over and the resume, which have
used the ticket of the same identity and room up by then. -/

namespace MediaServo.Server

open MediaServo.Foundations MediaServo.Common

structure Hit (s : SignalingServer) (q : JoinRequest) (h : HeldResume) : Prop where
  ticket : s.resumeTable.get q.key = some h
  nonce : q.resume = some h.nonce
  dialect : h.negotiated = q.negotiated
  resumable : protocolMinResume ≤ q.negotiated

namespace SignalingServer

variable {s t : SignalingServer} {q : JoinRequest} {h : HeldResume}

def burn (s : SignalingServer) (q : JoinRequest) : SignalingServer :=
  { s with resumeTable := s.resumeTable.remove q.key }

lemma resumeHit_eq_some {rest : ResumeTable} :
    s.resumeHit q = some (h, rest) ↔ Hit s q h ∧ rest = s.resumeTable.remove q.key := by
  constructor
  · intro he
    rw [resumeHit] at he
    split at he
    · rename_i nonce hn
      split_ifs at he with hp
      obtain ⟨ht, hd, hc, hr⟩ := takeTicket_eq_some.1 he
      exact ⟨⟨ht, by rw [hc]; exact hn, hd, hp⟩, hr⟩
    · contradiction
  · rintro ⟨hh, hr⟩
    simp only [resumeHit, hh.nonce, if_pos hh.resumable]
    exact takeTicket_eq_some.2 ⟨hh.ticket, hh.dialect, rfl, hr⟩

inductive JoinStep (s : SignalingServer) (q : JoinRequest) (nonce : String) : Joined → Prop
  | burned {h : HeldResume} {detail : String} (hit : Hit s q h) (denied : s.gateDenied q h.peerId = some detail) :
      JoinStep s q nonce ⟨s.burn q, none, [.error 4031 detail]⟩
  | resumed {h : HeldResume} (hit : Hit s q h) (passed : s.gateDenied q h.peerId = none) :
      JoinStep s q nonce ((s.burn q).ackJoin q h.peerId nonce)
  | denied {detail : String} (miss : ∀ h, ¬Hit s q h)
      (denied : (s.takeover q).gateDenied q q.peerId = some detail) :
      JoinStep s q nonce ⟨s.takeover q, none, [.error 4031 detail]⟩
  | full (miss : ∀ h, ¬Hit s q h) (full : (s.takeover q).enter q = .error .roomFull) :
      JoinStep s q nonce ⟨s.takeover q, none, [.error 4002 "Room is full"]⟩
  | joined {t : SignalingServer} (miss : ∀ h, ¬Hit s q h) (passed : (s.takeover q).gateDenied q q.peerId = none)
      (entered : (s.takeover q).enter q = .ok t) :
      JoinStep s q nonce (t.ackJoin q q.peerId nonce)

theorem roomJoin_step (s : SignalingServer) (q : JoinRequest) (nonce : String) :
    JoinStep s q nonce (s.roomJoin q nonce) := by
  cases hh : s.resumeHit q with
  | some hit =>
    obtain ⟨h, rest⟩ := hit
    obtain ⟨hk, rfl⟩ := resumeHit_eq_some.1 hh
    cases hg : s.gateDenied q h.peerId with
    | some detail =>
      have he : s.roomJoin q nonce = ⟨s.burn q, none, [.error 4031 detail]⟩ := by
        simp only [roomJoin, hh]
        rw [show gateDenied { s with resumeTable := s.resumeTable.remove q.key } q h.peerId =
          some detail from hg]
        rfl
      exact he ▸ .burned hk hg
    | none =>
      have he : s.roomJoin q nonce = (s.burn q).ackJoin q h.peerId nonce := by
        simp only [roomJoin, hh]
        rw [show gateDenied { s with resumeTable := s.resumeTable.remove q.key } q h.peerId =
          none from hg]
        rfl
      exact he ▸ .resumed hk hg
  | none =>
    have hmiss : ∀ h, ¬Hit s q h := by
      intro h hk
      rw [resumeHit_eq_some.2 ⟨hk, rfl⟩] at hh
      contradiction
    cases hg : (s.takeover q).gateDenied q q.peerId with
    | some detail =>
      have he : s.roomJoin q nonce = ⟨s.takeover q, none, [.error 4031 detail]⟩ := by
        simp only [roomJoin, hh, hg]
      exact he ▸ .denied hmiss hg
    | none =>
      cases ht : (s.takeover q).enter q with
      | error e =>
        cases e
        have he : s.roomJoin q nonce = ⟨s.takeover q, none, [.error 4002 "Room is full"]⟩ := by
          simp only [roomJoin, hh, hg, ht]
        exact he ▸ .full hmiss ht
      | ok t =>
        have he : s.roomJoin q nonce = t.ackJoin q q.peerId nonce := by
          simp only [roomJoin, hh, hg, ht]
        exact he ▸ .joined hmiss hg ht

inductive Takeover (s : SignalingServer) (q : JoinRequest) : SignalingServer → Prop
  | absent (none : s.resumeTable.get q.key = none) : Takeover s q s
  | cleared {h : HeldResume} {t : SignalingServer} (ticket : s.resumeTable.get q.key = some h)
      (departs : Departs (s.burn q) t h.peerId q.roomId) : Takeover s q t

lemma takeover_spec (s : SignalingServer) (q : JoinRequest) : Takeover s q (s.takeover q) := by
  rw [takeover]
  split
  · rename_i h hk
    exact .cleared hk (disconnectSession_departs _ _ _)
  · rename_i hk
    exact .absent hk

lemma takeover_table (s : SignalingServer) (q : JoinRequest) :
    (s.takeover q).resumeTable = s.resumeTable.remove q.key := by
  have hs := s.takeover_spec q
  generalize s.takeover q = t at hs
  cases hs with
  | absent hn => exact (FiniteMap.remove_of_none _ hn).symm
  | cleared _ hd => exact hd.table

lemma takeover_seq (s : SignalingServer) (q : JoinRequest) :
    (s.takeover q).resumeSeq = s.resumeSeq := by
  have hs := s.takeover_spec q
  generalize s.takeover q = t at hs
  cases hs with
  | absent _ => rfl
  | cleared _ hd => exact hd.seq

lemma member_of_takeover {r p : String} (hm : (s.takeover q).roomManager.Member r p) :
    s.roomManager.Member r p ∧ ∀ h, s.resumeTable.get q.key = some h →
      ¬(r = q.roomId ∧ p = h.peerId) := by
  have hs := s.takeover_spec q
  generalize s.takeover q = t at hs hm
  cases hs with
  | absent hn => exact ⟨hm, fun h hk => by rw [hn] at hk; contradiction⟩
  | cleared hk hd =>
    rw [hd.rooms] at hm
    obtain ⟨hm, hne⟩ := RoomManager.member_of_depart hm
    exact ⟨hm, fun h' hk' => by rw [hk] at hk'; cases hk'; exact hne⟩

lemma bound_of_takeover {p d : String} (hb : (s.takeover q).deviceBindings.get p = some d) :
    s.deviceBindings.get p = some d ∧ ∀ h, s.resumeTable.get q.key = some h → p ≠ h.peerId := by
  have hs := s.takeover_spec q
  generalize s.takeover q = t at hs hb
  cases hs with
  | absent hn => exact ⟨hb, fun h hk => by rw [hn] at hk; contradiction⟩
  | cleared hk hd =>
    rw [hd.bindings] at hb
    refine ⟨FiniteMap.get_of_remove hb, fun h' hk' => ?_⟩
    rw [hk] at hk'
    cases hk'
    rintro rfl
    simp at hb

structure Entered (s t : SignalingServer) (q : JoinRequest) : Prop where
  rooms : s.roomManager.joinRoom q.roomId q.peerId q.role = .ok t.roomManager
  table : t.resumeTable = s.resumeTable
  seq : t.resumeSeq = s.resumeSeq
  bound : ∀ {d}, q.identity = .device d →
    t.deviceBindings = s.deviceBindings.set q.peerId d ∧ t.roomOwners = s.roomOwners.set q.roomId d
  unbound : q.identity.isDevice = false →
    t.deviceBindings = s.deviceBindings ∧ t.roomOwners = s.roomOwners

lemma Entered.bound_of {p d : String} (he : Entered s t q) (hb : t.deviceBindings.get p = some d) :
    s.deviceBindings.get p = some d ∨ (p = q.peerId ∧ q.identity = .device d) := by
  cases hi : q.identity with
  | device e =>
    rw [(he.bound hi).1, FiniteMap.get_set] at hb
    split_ifs at hb with hp
    · cases hb
      exact Or.inr ⟨hp, rfl⟩
    · exact Or.inl hb
  | account _ =>
    rw [(he.unbound (by simp [hi, SessionIdentity.isDevice])).1] at hb
    exact Or.inl hb
  | legacy =>
    rw [(he.unbound (by simp [hi, SessionIdentity.isDevice])).1] at hb
    exact Or.inl hb

lemma enter_spec (he : s.enter q = .ok t) : Entered s t q := by
  rw [enter] at he
  split at he
  · contradiction
  · rename_i rooms hr
    cases hi : q.identity with
    | device d =>
      simp only [hi, SessionIdentity.deviceId, Except.ok.injEq] at he
      subst he
      refine ⟨hr, rfl, rfl, ?_, ?_⟩
      · intro e heq
        rw [hi] at heq
        cases heq
        exact ⟨rfl, rfl⟩
      · simp [hi, SessionIdentity.isDevice]
    | account a =>
      simp only [hi, SessionIdentity.deviceId, Except.ok.injEq] at he
      subst he
      exact ⟨hr, rfl, rfl, by simp [hi], fun _ => ⟨rfl, rfl⟩⟩
    | legacy =>
      simp only [hi, SessionIdentity.deviceId, Except.ok.injEq] at he
      subst he
      exact ⟨hr, rfl, rfl, by simp [hi], fun _ => ⟨rfl, rfl⟩⟩

lemma issueTicket_fields (s : SignalingServer) (q : JoinRequest) (peerId nonce : String) :
    (s.issueTicket q peerId nonce).1.roomManager = s.roomManager ∧
      (s.issueTicket q peerId nonce).1.deviceBindings = s.deviceBindings ∧
      (s.issueTicket q peerId nonce).1.roomOwners = s.roomOwners ∧
      s.resumeSeq ≤ (s.issueTicket q peerId nonce).1.resumeSeq := by
  rw [issueTicket]
  split_ifs
  · exact ⟨rfl, rfl, rfl, Nat.le_succ _⟩
  · exact ⟨rfl, rfl, rfl, le_rfl⟩

inductive JoinTable (s : SignalingServer) (q : JoinRequest) (nonce : String) :
    SignalingServer → Prop
  | cleared {t : SignalingServer} (table : t.resumeTable = s.resumeTable.remove q.key)
      (seq : t.resumeSeq = s.resumeSeq) : JoinTable s q nonce t
  | issued {t : SignalingServer} (peerId : String) (issues : q.issuesTicket = true)
      (table : t.resumeTable = pruneResume ((s.resumeTable.remove q.key).set q.key
        ⟨peerId, nonce, q.negotiated, s.resumeSeq⟩) resumeGlobalCap)
      (seq : t.resumeSeq = s.resumeSeq + 1) : JoinTable s q nonce t

lemma ackJoin_table {peerId nonce : String} (ht : t.resumeTable = s.resumeTable.remove q.key)
    (hn : t.resumeSeq = s.resumeSeq) : JoinTable s q nonce (t.ackJoin q peerId nonce).server := by
  by_cases hi : q.issuesTicket = true
  · refine .issued peerId hi ?_ ?_
    · simp only [ackJoin, issueTicket, if_pos hi, ht, hn]
    · simp only [ackJoin, issueTicket, if_pos hi, hn]
  · refine .cleared ?_ ?_
    · simp only [ackJoin, issueTicket, if_neg hi, ht]
    · simp only [ackJoin, issueTicket, if_neg hi, hn]

theorem roomJoin_table (s : SignalingServer) (q : JoinRequest) (nonce : String) :
    JoinTable s q nonce (s.roomJoin q nonce).server := by
  have hs := s.roomJoin_step q nonce
  generalize s.roomJoin q nonce = r at hs
  cases hs with
  | burned => exact .cleared rfl rfl
  | resumed => exact ackJoin_table (t := s.burn q) rfl rfl
  | denied => exact .cleared (s.takeover_table q) (s.takeover_seq q)
  | full => exact .cleared (s.takeover_table q) (s.takeover_seq q)
  | joined _ _ he =>
    have hd := enter_spec he
    exact ackJoin_table (hd.table.trans (s.takeover_table q)) (hd.seq.trans (s.takeover_seq q))

lemma get_of_joinTable {nonce : String} {k : String × String} (hj : JoinTable s q nonce t)
    (hk : t.resumeTable.get k = some h) :
    (q.issuesTicket = true ∧ k = q.key ∧ t.resumeSeq = s.resumeSeq + 1 ∧
        ∃ p, h = ⟨p, nonce, q.negotiated, s.resumeSeq⟩) ∨
      (s.resumeTable.get k = some h ∧ k ≠ q.key) := by
  have hrest : (s.resumeTable.remove q.key).get k = some h →
      s.resumeTable.get k = some h ∧ k ≠ q.key := by
    intro hg
    exact ⟨FiniteMap.get_of_remove hg, by rintro rfl; simp at hg⟩
  cases hj with
  | cleared ht => exact Or.inr (hrest (ht ▸ hk))
  | issued p hi ht hn =>
    have hg := FiniteMap.get_of_evict (ht ▸ hk)
    rw [FiniteMap.get_set] at hg
    split_ifs at hg with hq
    · exact Or.inl ⟨hi, hq, hn, p, (Option.some.inj hg).symm⟩
    · exact Or.inr (hrest hg)

lemma get_of_issueTicket {p nonce : String} {k : String × String}
    (hk : (s.issueTicket q p nonce).1.resumeTable.get k = some h) :
    (q.issuesTicket = true ∧ k = q.key ∧ h.peerId = p) ∨ s.resumeTable.get k = some h := by
  rw [issueTicket] at hk
  split_ifs at hk with hq
  · have hg := FiniteMap.get_of_evict hk
    rw [FiniteMap.get_set] at hg
    split_ifs at hg with hkq
    · cases hg
      exact Or.inl ⟨hq, hkq, rfl⟩
    · exact Or.inr hg
  · exact Or.inr hk

lemma issuesTicket_device (hi : q.issuesTicket = true) :
    q.role = .host ∧ (∃ d, q.identity = .device d) ∧ protocolMinResume ≤ q.negotiated := by
  simp only [JoinRequest.issuesTicket, decide_eq_true_eq] at hi
  refine ⟨hi.1, ?_, hi.2.2⟩
  cases hq : q.identity with
  | device d => exact ⟨d, rfl⟩
  | account _ => simp [hq, SessionIdentity.isDevice] at hi
  | legacy => simp [hq, SessionIdentity.isDevice] at hi

end SignalingServer

open SignalingServer

/-- The tables of rooms, owners, bindings and tickets, and the rooms of the SFU, are the same. -/
structure SameTables (s t : SignalingServer) : Prop where
  rooms : t.roomManager = s.roomManager
  owners : t.roomOwners = s.roomOwners
  bindings : t.deviceBindings = s.deviceBindings
  tickets : t.resumeTable = s.resumeTable
  sfu : t.sfuManager = s.sfuManager

variable {s : SignalingServer} {q : JoinRequest} {nonce : String}

lemma takeover_of_none (h : s.resumeTable.get q.key = none) : s.takeover q = s := by
  rw [takeover, h]

lemma refused_tickets (h : (s.roomJoin q nonce).session = none) :
    (s.roomJoin q nonce).server.resumeTable = s.resumeTable.remove q.key := by
  have hs := s.roomJoin_step q nonce
  generalize s.roomJoin q nonce = j at hs h
  cases hs with
  | burned _ _ => rfl
  | denied _ _ => exact s.takeover_table q
  | full _ _ => exact s.takeover_table q
  | resumed _ _ => cases h
  | joined _ _ _ => cases h

lemma refused_of_none (h : (s.roomJoin q nonce).session = none)
    (hn : s.resumeTable.get q.key = none) : (s.roomJoin q nonce).server = s := by
  have hs := s.roomJoin_step q nonce
  generalize s.roomJoin q nonce = j at hs h
  cases hs with
  | burned hit _ =>
    rw [hit.ticket] at hn
    cases hn
  | denied _ _ => exact takeover_of_none hn
  | full _ _ => exact takeover_of_none hn
  | resumed _ _ => cases h
  | joined _ _ _ => cases h

/-- A refused join leaves the tables as they were exactly when no ticket is kept under its identity
and room. -/
theorem refused_join_atomic (s : SignalingServer) (q : JoinRequest) (nonce : String)
    (h : (s.roomJoin q nonce).session = none) :
    SameTables s (s.roomJoin q nonce).server ↔ s.resumeTable.get q.key = none := by
  constructor
  · intro hsame
    rw [← hsame.tickets, refused_tickets h, FiniteMap.get_remove_self]
  · intro hn
    rw [refused_of_none h hn]
    exact ⟨rfl, rfl, rfl, rfl, rfl⟩

def car1Join : JoinRequest := ⟨"p1", .device "car1", "car1", .host, some 3, none⟩

def hostedCar1 : SignalingServer := (SignalingServer.init.roomJoin car1Join "n1").server

theorem refused_join_atomic_car2 :
    SameTables hostedCar1
      (hostedCar1.roomJoin ⟨"p2", .device "car2", "car1", .host, some 3, none⟩ "n2").server :=
  (refused_join_atomic hostedCar1 _ "n2" (by decide)).mpr (by decide)

/-- An account that has the name of a vehicle is refused the host slot, and the vehicle, whose
session is live, is out of its room. -/
theorem namesake_evicts_vehicle :
    (hostedCar1.roomJoin ⟨"p2", .account ⟨"car1", .viewer, []⟩, "car1", .host, some 3, none⟩
        "n2").session = none ∧
      ¬SameTables hostedCar1
        (hostedCar1.roomJoin ⟨"p2", .account ⟨"car1", .viewer, []⟩, "car1", .host, some 3, none⟩
          "n2").server := by
  refine ⟨by decide, ?_⟩
  intro h
  have hbefore : hostedCar1.roomManager.hostOf "car1" = some "p1" := by decide
  rw [← h.rooms] at hbefore
  revert hbefore
  decide

end MediaServo.Server
