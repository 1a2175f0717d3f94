import MediaServo.ServerProofs.Tickets

/-! Ended sessions and their peers: a peer stays in a room or in the bindings only while its
delayed cleanup is due or a live session uses it, as long as no held ticket is lost. -/

namespace MediaServo.Server

open MediaServo.Foundations MediaServo.Common SignalingServer

structure HoldInv (sys : System) : Prop where
  room : ∀ {h}, h ∈ sys.holds → h.key.2 = h.roomId
  below : ∀ {h}, h ∈ sys.holds → h.seq < sys.server.resumeSeq
  peer : ∀ {h t}, h ∈ sys.holds → sys.server.resumeTable.get h.key = some t → t.seq = h.seq →
    t.peerId = h.peerId

lemma holdInv_init : HoldInv System.init where
  room h := by simp [System.init] at h
  below h := by simp [System.init] at h
  peer h := by simp [System.init] at h

lemma hold_of_step {sys : System} {a : Action} {h : Hold} (hh : h ∈ (sys.step a).holds) :
    h ∈ sys.holds ∨ ∃ (c : Session) (t : HeldResume), sys.server.resumeTable.get c.key = some t ∧ t.peerId = c.peerId ∧
      h = ⟨c.peerId, c.roomId, c.key, t.seq⟩ ∧
      (sys.step a).server.resumeTable = sys.server.resumeTable := by
  have hs := step_spec sys a
  generalize sys.step a = sys' at hs hh
  cases hs with
  | quiet => exact Or.inl hh
  | joined => exact Or.inl hh
  | refused => exact Or.inl hh
  | held _ _ hq ht hp =>
    rcases List.mem_cons.mp hh with rfl | hh
    · exact Or.inr ⟨_, _, ht, hp, rfl, hq.table⟩
    · exact Or.inl hh
  | left => exact Or.inl hh
  | expired => exact Or.inl (List.mem_of_mem_eraseIdx hh)
  | idle => exact Or.inl (List.mem_of_mem_eraseIdx hh)
  | kicked => exact Or.inl hh
  | deleted => exact Or.inl hh

lemma HoldInv.step {sys : System} (hi : HoldInv sys) (ht : TableInv sys.server) (a : Action) :
    HoldInv (sys.step a) where
  room hh := by
    rcases hold_of_step hh with ho | ⟨c, t, _, _, rfl, _⟩
    · exact hi.room ho
    · rfl
  below hh := by
    refine lt_of_lt_of_le ?_ (resumeSeq_le_step sys a)
    rcases hold_of_step hh with ho | ⟨c, t, hk, _, rfl, _⟩
    · exact hi.below ho
    · exact ht.below hk
  peer {h t} hh hk he := by
    rcases hold_of_step hh with ho | ⟨c, t', hk', hp, rfl, htab⟩
    · rcases get_of_step hk with hk' | ⟨q, n, _, _, _, _, hn, _⟩
      · exact hi.peer ho hk' he
      · have := hi.below ho; omega
    · rw [htab, hk'] at hk
      cases hk
      exact hp

/-- A peer in a room is accounted for: a live session uses it there, or a delayed cleanup that
still finds its ticket will disconnect it from there. -/
def Kept (sys : System) (peerId roomId : String) : Prop :=
  (∃ c : Session, ⟨c, true⟩ ∈ sys.sessions ∧ c.peerId = peerId ∧ c.roomId = roomId) ∨
    ∃ h ∈ sys.holds, sys.server.Effective h ∧ h.peerId = peerId ∧ h.roomId = roomId

def NoOrphans (sys : System) : Prop :=
  ∀ c : Session, ⟨c, false⟩ ∈ sys.sessions →
    (∀ r, sys.server.roomManager.Member r c.peerId → Kept sys c.peerId r) ∧
      (∀ d, sys.server.deviceBindings.get c.peerId = some d → ∃ r, Kept sys c.peerId r)

/-- A join does not push the ticket of a pending cleanup out of the table, and a resume claim on
such a ticket passes the room gates. -/
def HoldsSurvive (sys : System) : Action → Prop
  | .join q _ =>
      (q.issuesTicket = true → resumeGlobalCap ≤ (sys.server.resumeTable.remove q.key).size →
        ∀ h ∈ sys.holds, sys.server.Effective h → h.key ≠ q.key →
          ∃ k t, k ≠ q.key ∧ sys.server.resumeTable.get k = some t ∧ t.seq < h.seq) ∧
      ∀ t, Hit sys.server q t → (∃ h ∈ sys.holds, h.key = q.key ∧ sys.server.Effective h) →
        sys.server.gateDenied q t.peerId = none
  | _ => True

structure OrphanInv (sys : System) : Prop where
  table : TableInv sys.server
  hold : HoldInv sys
  member : ∀ {r p}, sys.server.roomManager.Member r p → Kept sys p r
  bound : ∀ {p d}, sys.server.deviceBindings.get p = some d → ∃ r, Kept sys p r

lemma orphanInv_init : OrphanInv System.init where
  table := tableInv_init
  hold := holdInv_init
  member := by rintro r p ⟨room, hr, _⟩; simp [System.init, SignalingServer.init] at hr
  bound h := by simp [System.init, SignalingServer.init] at h

lemma effective_of_table {s t : SignalingServer} {h : Hold} (ht : t.resumeTable = s.resumeTable) :
    t.Effective h ↔ s.Effective h := by
  rw [Effective, Effective, ht]

lemma HoldInv.ticket {sys : System} (hi : HoldInv sys) {h : Hold} (hh : h ∈ sys.holds)
    (he : sys.server.Effective h) :
    ∃ t, sys.server.resumeTable.get h.key = some t ∧ t.peerId = h.peerId ∧ h.key.2 = h.roomId := by
  obtain ⟨t, hk, hs⟩ := he
  exact ⟨t, hk, hi.peer hh hk hs, hi.room hh⟩

lemma effective_join {sys : System} {q : JoinRequest} {nonce : String} {t : SignalingServer}
    (hi : TableInv sys.server) (hc : HoldsSurvive sys (.join q nonce))
    (ht : JoinTable sys.server q nonce t) {h : Hold} (hh : h ∈ sys.holds)
    (he : sys.server.Effective h) (hne : h.key ≠ q.key) : t.Effective h := by
  obtain ⟨x, hx, hs⟩ := id he
  refine ⟨x, ?_, hs⟩
  have hrest : (sys.server.resumeTable.remove q.key).get h.key = some x := by
    rw [FiniteMap.get_remove_ne _ hne, hx]
  cases ht with
  | cleared ht => rw [ht, hrest]
  | issued p hi' ht _ =>
    rw [ht]
    set m := (sys.server.resumeTable.remove q.key).set q.key
      ⟨p, nonce, q.negotiated, sys.server.resumeSeq⟩ with hm
    have hget : m.get h.key = some x := by rw [hm, FiniteMap.get_set_ne _ _ hne, hrest]
    have hsize : m.size ≤ (sys.server.resumeTable.remove q.key).size + 1 := FiniteMap.size_set_le _ _ _
    have hcap := (size_remove_le sys.server.resumeTable q.key).trans hi.size
    by_cases hle : m.size ≤ resumeGlobalCap
    · rw [pruneResume, FiniteMap.evict_of_le hle, hget]
    · obtain ⟨i, v, hv, hmin, hevict⟩ :=
        @FiniteMap.evict_of_succ _ _ _ HeldResume.seq resumeGlobalCap m (by omega)
      obtain ⟨k, y, hk, hy, hlt⟩ := hc.1 hi' (by omega) h hh he hne
      rw [pruneResume, hevict, FiniteMap.get_remove_ne _ ?_, hget]
      rintro rfl
      rw [hget] at hv
      cases hv
      have := hmin k y (by rw [hm, FiniteMap.get_set_ne _ _ hk, FiniteMap.get_remove_ne _ hk, hy])
      omega

lemma kept_join {sys : System} {q : JoinRequest} {nonce : String} {t : SignalingServer}
    {ss : List Conn} {p r : String} (hi : OrphanInv sys) (hc : HoldsSurvive sys (.join q nonce))
    (ht : JoinTable sys.server q nonce t) (hss : ∀ x ∈ sys.sessions, x ∈ ss) (hk : Kept sys p r) :
    Kept ⟨t, ss, sys.holds⟩ p r ∨ ∃ h, sys.server.resumeTable.get q.key = some h ∧ h.peerId = p ∧
      q.roomId = r ∧ ∃ g ∈ sys.holds, g.key = q.key ∧ sys.server.Effective g := by
  rcases hk with ⟨c, hcs, hp, hr⟩ | ⟨g, hg, he, hp, hr⟩
  · exact Or.inl (Or.inl ⟨c, hss _ hcs, hp, hr⟩)
  · by_cases hkey : g.key = q.key
    · obtain ⟨x, hx, hxp, hxr⟩ := hi.hold.ticket hg he
      refine Or.inr ⟨x, hkey ▸ hx, hxp.trans hp, ?_, g, hg, hkey, he⟩
      rw [← hr, ← hxr, hkey]
      rfl
    · exact Or.inl (Or.inr ⟨g, hg, effective_join hi.table hc ht hg he hkey, hp, hr⟩)

lemma kept_takeover {sys : System} {q : JoinRequest} {nonce : String} {t : SignalingServer}
    {ss : List Conn} {p : String} (hi : OrphanInv sys) (hc : HoldsSurvive sys (.join q nonce))
    (ht : JoinTable sys.server q nonce t) (hss : ∀ x ∈ sys.sessions, x ∈ ss) :
    (∀ {r}, (sys.server.takeover q).roomManager.Member r p → Kept ⟨t, ss, sys.holds⟩ p r) ∧
      (∀ {d}, (sys.server.takeover q).deviceBindings.get p = some d →
        ∃ r, Kept ⟨t, ss, sys.holds⟩ p r) := by
  constructor
  · intro r hm
    obtain ⟨hm, hne⟩ := member_of_takeover hm
    rcases kept_join hi hc ht hss (hi.member hm) with hk | ⟨h, hx, rfl, rfl, _⟩
    · exact hk
    · exact absurd ⟨rfl, rfl⟩ (hne h hx)
  · intro d hb
    obtain ⟨hb, hne⟩ := bound_of_takeover hb
    obtain ⟨r, hk⟩ := hi.bound hb
    rcases kept_join hi hc ht hss hk with hk | ⟨h, hx, rfl, _, _⟩
    · exact ⟨r, hk⟩
    · exact absurd rfl (hne h hx)

lemma kept_of_join {sys : System} {q : JoinRequest} {nonce : String} (hi : OrphanInv sys)
    (hc : HoldsSurvive sys (.join q nonce)) (p : String) :
    (∀ {r}, (sys.join q nonce).server.roomManager.Member r p → Kept (sys.join q nonce) p r) ∧
      (∀ {d}, (sys.join q nonce).server.deviceBindings.get p = some d →
        ∃ r, Kept (sys.join q nonce) p r) := by
  have hs := sys.server.roomJoin_step q nonce
  have ht := sys.server.roomJoin_table q nonce
  have hsub : ∀ (c : Conn), ∀ x ∈ sys.sessions, x ∈ c :: sys.sessions :=
    fun c x hx => List.mem_cons_of_mem c hx
  rw [System.join]
  generalize sys.server.roomJoin q nonce = j at hs ht
  cases hs with
  | burned hit hd =>
    have hkept : ∀ {r}, Kept sys p r → Kept { sys with server := sys.server.burn q } p r := by
      intro r hk
      rcases kept_join hi hc ht (fun _ h => h) hk with h | ⟨h, hx, _, _, hg⟩
      · exact h
      · rw [hit.ticket] at hx
        cases hx
        rw [hc.2 _ hit hg] at hd
        contradiction
    exact ⟨fun hm => hkept (hi.member hm), fun hb => (hi.bound hb).imp fun _ => hkept⟩
  | @resumed h hit hg =>
    obtain ⟨hrooms, hbind, _, _⟩ := issueTicket_fields (sys.server.burn q) q h.peerId nonce
    have hkept : ∀ {r}, Kept sys p r → Kept ⟨((sys.server.burn q).ackJoin q h.peerId nonce).server,
        ⟨q.session h.peerId, true⟩ :: sys.sessions, sys.holds⟩ p r := by
      intro r hk
      rcases kept_join hi hc ht (hsub _) hk with hk | ⟨x, hx, hp, hr, _⟩
      · exact hk
      · rw [hit.ticket] at hx
        cases hx
        exact Or.inl ⟨_, List.mem_cons_self, hp, hr⟩
    refine ⟨fun hm => hkept (hi.member (hrooms ▸ hm)), fun {d} hb => ?_⟩
    have hb' : (sys.server.burn q).deviceBindings.get p = some d := hbind ▸ hb
    exact (hi.bound hb').imp fun _ => hkept
  | denied => exact kept_takeover hi hc ht (fun _ h => h)
  | full => exact kept_takeover hi hc ht (fun _ h => h)
  | @joined t _ _ hen =>
    obtain ⟨hrooms, hbind, _, _⟩ := issueTicket_fields t q q.peerId nonce
    have hen := enter_spec hen
    have hnew : Kept ⟨(t.ackJoin q q.peerId nonce).server, ⟨q.session q.peerId, true⟩ :: sys.sessions,
        sys.holds⟩ q.peerId q.roomId := Or.inl ⟨_, List.mem_cons_self, rfl, rfl⟩
    have hold := kept_takeover (p := p) hi hc ht (hsub ⟨q.session q.peerId, true⟩)
    constructor
    · intro r hm
      rcases (RoomManager.member_joinRoom hen.rooms).mp (hrooms ▸ hm) with hm | ⟨rfl, rfl⟩
      · exact hold.1 hm
      · exact hnew
    · intro d hb
      rcases hen.bound_of (hbind ▸ hb) with hb | ⟨rfl, _⟩
      · exact hold.2 hb
      · exact ⟨_, hnew⟩

lemma Kept.of_quiet {sys : System} {t : SignalingServer} {p r : String}
    (ht : t.resumeTable = sys.server.resumeTable) (hk : Kept sys p r) :
    Kept { sys with server := t } p r := by
  rcases hk with hk | ⟨h, hh, he, hp⟩
  · exact Or.inl hk
  · exact Or.inr ⟨h, hh, (effective_of_table ht).mpr he, hp⟩

lemma Kept.of_held {sys : System} {t : SignalingServer} {i : ℕ} {c : Session} {h : HeldResume}
    {p r : String} (live : sys.sessions[i]? = some ⟨c, true⟩)
    (ht : t.resumeTable = sys.server.resumeTable) (hk : sys.server.resumeTable.get c.key = some h)
    (hp : Kept sys p r) :
    Kept ⟨t, sys.sessions.set i ⟨c, false⟩, ⟨c.peerId, c.roomId, c.key, h.seq⟩ :: sys.holds⟩ p r := by
  rcases hp with ⟨d, hd, rfl, rfl⟩ | ⟨g, hg, he, hp⟩
  · rcases mem_set_of_mem live hd with hdc | hd
    · cases hdc
      exact Or.inr ⟨_, List.mem_cons_self, ⟨h, ht ▸ hk, rfl⟩, rfl, rfl⟩
    · exact Or.inl ⟨d, hd, rfl, rfl⟩
  · exact Or.inr ⟨g, List.mem_cons_of_mem _ hg, (effective_of_table ht).mpr he, hp⟩

lemma Kept.of_left {sys : System} {t : SignalingServer} {i : ℕ} {c : Session} {p r : String}
    (live : sys.sessions[i]? = some ⟨c, true⟩) (ht : t.resumeTable = sys.server.resumeTable)
    (hp : Kept sys p r) :
    Kept ⟨t, sys.sessions.set i ⟨c, false⟩, sys.holds⟩ p r ∨ (p = c.peerId ∧ r = c.roomId) := by
  rcases hp with ⟨d, hd, rfl, rfl⟩ | ⟨g, hg, he, hp⟩
  · rcases mem_set_of_mem live hd with hdc | hd
    · cases hdc
      exact Or.inr ⟨rfl, rfl⟩
    · exact Or.inl (Or.inl ⟨d, hd, rfl, rfl⟩)
  · exact Or.inl (Or.inr ⟨g, hg, (effective_of_table ht).mpr he, hp⟩)

lemma Kept.of_expired {sys : System} {t : SignalingServer} {i : ℕ} {h : Hold} {p r : String}
    (hi : HoldInv sys) (hold : sys.holds[i]? = some h) (he : sys.server.Effective h)
    (ht : t.resumeTable = sys.server.resumeTable.remove h.key) (hp : Kept sys p r) :
    Kept ⟨t, sys.sessions, sys.holds.eraseIdx i⟩ p r ∨ (p = h.peerId ∧ r = h.roomId) := by
  rcases hp with hl | ⟨g, hg, eg, rfl, rfl⟩
  · exact Or.inl (Or.inl hl)
  · by_cases hkey : g.key = h.key
    · obtain ⟨x, hx, hxp, hxr⟩ := hi.ticket hg eg
      obtain ⟨y, hy, hyp, hyr⟩ := hi.ticket (List.mem_of_getElem? hold) he
      rw [hkey, hy] at hx
      cases hx
      exact Or.inr ⟨hxp.symm.trans hyp, by rw [← hxr, ← hyr, hkey]⟩
    · refine Or.inl (Or.inr ⟨g, mem_eraseIdx_of_ne hold hg (fun h => hkey (h ▸ rfl)), ?_, rfl, rfl⟩)
      obtain ⟨x, hx, hs⟩ := eg
      exact ⟨x, by rw [ht, FiniteMap.get_remove_ne _ hkey, hx], hs⟩

lemma Kept.of_idle {sys : System} {i : ℕ} {h : Hold} {p r : String}
    (hold : sys.holds[i]? = some h) (void : ¬sys.server.Effective h) (hp : Kept sys p r) :
    Kept { sys with holds := sys.holds.eraseIdx i } p r := by
  rcases hp with hl | ⟨g, hg, eg, hp⟩
  · exact Or.inl hl
  · exact Or.inr ⟨g, mem_eraseIdx_of_ne hold hg (fun h => void (h ▸ eg)), eg, hp⟩

lemma kept_departs {s t : SignalingServer} {sys' : System} {x y p : String} (hd : Departs s t x y)
    (hk : ∀ {r}, s.roomManager.Member r p → Kept sys' p r ∨ (p = x ∧ r = y))
    (hb : ∀ {d}, s.deviceBindings.get p = some d → p ≠ x → ∃ r, Kept sys' p r) :
    (∀ {r}, t.roomManager.Member r p → Kept sys' p r) ∧
      (∀ {d}, t.deviceBindings.get p = some d → ∃ r, Kept sys' p r) := by
  constructor
  · intro r hm
    rw [hd.rooms] at hm
    obtain ⟨hm, hne⟩ := RoomManager.member_of_depart hm
    rcases hk hm with hk | ⟨hp, hr⟩
    · exact hk
    · exact absurd ⟨hr, hp⟩ hne
  · intro d hg
    rw [hd.bindings] at hg
    refine hb (FiniteMap.get_of_remove hg) ?_
    rintro rfl
    simp at hg

lemma kept_of_step {sys : System} (hi : OrphanInv sys) (a : Action) (hc : HoldsSurvive sys a)
    (p : String) :
    (∀ {r}, (sys.step a).server.roomManager.Member r p → Kept (sys.step a) p r) ∧
      (∀ {d}, (sys.step a).server.deviceBindings.get p = some d → ∃ r, Kept (sys.step a) p r) := by
  have hs := step_spec sys a
  generalize hsys : sys.step a = sys' at hs
  cases hs with
  | quiet hq =>
    exact ⟨fun hm => (hi.member (hq.rooms ▸ hm)).of_quiet hq.table,
      fun hb => (hi.bound (hq.bindings ▸ hb)).imp fun _ hk => hk.of_quiet hq.table⟩
  | joined => exact hsys ▸ kept_of_join hi hc p
  | refused => exact hsys ▸ kept_of_join hi hc p
  | held _ live hq ht hp =>
    exact ⟨fun hm => (hi.member (hq.rooms ▸ hm)).of_held live hq.table ht,
      fun hb => (hi.bound (hq.bindings ▸ hb)).imp fun _ hk => hk.of_held live hq.table ht⟩
  | left _ live _ hd =>
    refine kept_departs hd (fun hm => (hi.member hm).of_left live hd.table) (fun hb hne => ?_)
    obtain ⟨r, hk⟩ := hi.bound hb
    exact ⟨r, (hk.of_left live hd.table).resolve_right (fun h => hne h.1)⟩
  | expired hold he hd =>
    refine kept_departs hd (fun hm => (hi.member hm).of_expired hi.hold hold he hd.table)
      (fun hb hne => ?_)
    obtain ⟨r, hk⟩ := hi.bound hb
    exact ⟨r, (hk.of_expired hi.hold hold he hd.table).resolve_right (fun h => hne h.1)⟩
  | idle hold void =>
    exact ⟨fun hm => (hi.member hm).of_idle hold void,
      fun hb => (hi.bound hb).imp fun _ hk => hk.of_idle hold void⟩
  | kicked hk =>
    exact ⟨fun hm => (hi.member (hk.members hm)).of_quiet hk.table,
      fun hb => (hi.bound (hk.bindings ▸ hb)).imp fun _ h => h.of_quiet hk.table⟩
  | deleted hk =>
    exact ⟨fun hm => (hi.member (hk.members hm)).of_quiet hk.table,
      fun hb => (hi.bound (hk.bindings ▸ hb)).imp fun _ h => h.of_quiet hk.table⟩

theorem OrphanInv.step {sys : System} (hi : OrphanInv sys) (a : Action)
    (hc : HoldsSurvive sys a) : OrphanInv (sys.step a) :=
  ⟨hi.table.step a, hi.hold.step hi.table a, (kept_of_step hi a hc _).1, (kept_of_step hi a hc _).2⟩

theorem no_orphans (acts : List Action) (h : Along System.step HoldsSurvive System.init acts) :
    NoOrphans (run System.step System.init acts) := by
  have hi := run_invariant (I := OrphanInv) orphanInv_init (fun t a hi hc => hi.step a hc) h
  exact fun c _ => ⟨fun r hm => hi.member hm, fun d hb => hi.bound hb⟩

theorem no_orphans_reattach :
    Along System.step HoldsSurvive System.init reattach ∧
      NoOrphans (run System.step System.init reattach) := by
  have h : Along System.step HoldsSurvive System.init reattach := by
    refine ⟨⟨fun _ hs => absurd hs (by decide), fun t ht => absurd ht.nonce (by simp)⟩, trivial,
      ⟨fun _ hs => absurd hs (by decide), fun t _ _ => ?_⟩, trivial⟩
    rfl
  exact ⟨h, no_orphans reattach h⟩

def numbered (c : Char) (i : ℕ) : String := String.ofList (c :: List.replicate i '0')

def vehicleJoin (i : ℕ) : Action :=
  .join ⟨numbered 'p' i, .device (numbered 'v' i), numbered 'v' i, .host, some 3, none⟩ (numbered 'n' i)

def crowded : List Action :=
  [vehicleJoin 0, .close 0] ++ (List.range 32).map (fun i => vehicleJoin (i + 1)) ++ [.expire 0]

lemma crowded_end :
    let sys := run System.step System.init crowded
    sys.server.roomManager.hostOf "v" = some "p" ∧ sys.holds = [] ∧
      (sys.sessions.all (fun c => !c.live || c.session.peerId != "p")) = true ∧
      sys.sessions[32]? = some ⟨⟨"p", "v", .host, .device "v", 3⟩, false⟩ := by
  decide +kernel

theorem orphan_after_eviction : ¬∀ acts, NoOrphans (run System.step System.init acts) := by
  intro h
  have hno := h crowded
  obtain ⟨hhost, hholds, hlive, hended⟩ := crowded_end
  generalize run System.step System.init crowded = sys at hno hhost hholds hlive hended
  have hk := (hno _ (List.mem_of_getElem? hended)).1 "v" (RoomManager.member_of_host hhost)
  rcases hk with ⟨c, hc, hp, _⟩ | ⟨g, hg, _⟩
  · have := List.all_eq_true.mp hlive _ hc
    simp [hp] at this
  · rw [hholds] at hg
    contradiction

end MediaServo.Server
