import MediaServo.ServerProofs.Steps

/-! The ticket table along a run: sequence numbers, the cap, and the single use of a nonce. -/

namespace MediaServo.Server

open MediaServo.Foundations MediaServo.Common SignalingServer

lemma join_server (sys : System) (q : JoinRequest) (nonce : String) :
    (sys.join q nonce).server = (sys.server.roomJoin q nonce).server := by
  rw [System.join]
  split <;> rfl

inductive TableStep (sys : System) : Action → SignalingServer → Prop
  | kept {a : Action} {t : SignalingServer} (table : t.resumeTable = sys.server.resumeTable)
      (seq : t.resumeSeq = sys.server.resumeSeq) : TableStep sys a t
  | removed {a : Action} {t : SignalingServer} (k : String × String)
      (table : t.resumeTable = sys.server.resumeTable.remove k)
      (seq : t.resumeSeq = sys.server.resumeSeq) : TableStep sys a t
  | joined {q : JoinRequest} {nonce : String} {t : SignalingServer}
      (table : JoinTable sys.server q nonce t) : TableStep sys (.join q nonce) t

theorem tableStep_step (sys : System) (a : Action) : TableStep sys a (sys.step a).server := by
  have hs := step_spec sys a
  generalize sys.step a = sys' at hs
  cases hs with
  | quiet hq => exact .kept hq.table hq.seq
  | joined => exact .joined (sys.server.roomJoin_table _ _)
  | refused => exact .joined (sys.server.roomJoin_table _ _)
  | held _ _ hq => exact .kept hq.table hq.seq
  | left _ _ _ hd => exact .kept hd.table hd.seq
  | expired _ _ hd => exact .removed _ hd.table hd.seq
  | idle => exact .kept rfl rfl
  | kicked hk => exact .kept hk.table hk.seq
  | deleted hk => exact .kept hk.table hk.seq

lemma get_of_step {sys : System} {a : Action} {k : String × String} {h : HeldResume}
    (hk : (sys.step a).server.resumeTable.get k = some h) :
    sys.server.resumeTable.get k = some h ∨
      ∃ q nonce, a = .join q nonce ∧ q.issuesTicket = true ∧ k = q.key ∧ h.nonce = nonce ∧
        h.seq = sys.server.resumeSeq ∧ (sys.step a).server.resumeSeq = sys.server.resumeSeq + 1 := by
  have hs := tableStep_step sys a
  generalize (sys.step a).server = t at hs hk ⊢
  cases hs with
  | kept ht => exact Or.inl (ht ▸ hk)
  | removed k' ht => exact Or.inl (FiniteMap.get_of_remove (ht ▸ hk))
  | joined ht =>
    rcases get_of_joinTable ht hk with ⟨hi, hq, hn, p, rfl⟩ | ho
    · exact Or.inr ⟨_, _, rfl, hi, hq, rfl, rfl, hn⟩
    · exact Or.inl ho.1

lemma resumeSeq_le_step (sys : System) (a : Action) :
    sys.server.resumeSeq ≤ (sys.step a).server.resumeSeq := by
  have hs := tableStep_step sys a
  generalize (sys.step a).server = t at hs
  cases hs with
  | kept _ hn => exact hn.ge
  | removed _ _ hn => exact hn.ge
  | joined ht =>
    cases ht with
    | cleared _ hn => exact hn.ge
    | issued _ _ _ hn => omega

structure TableInv (s : SignalingServer) : Prop where
  size : s.resumeTable.size ≤ resumeGlobalCap
  below : ∀ {k h}, s.resumeTable.get k = some h → h.seq < s.resumeSeq
  distinct : ∀ {j k g h}, s.resumeTable.get j = some g → s.resumeTable.get k = some h →
    g.seq = h.seq → j = k

lemma tableInv_init : TableInv SignalingServer.init where
  size := Nat.zero_le _
  below h := by simp [SignalingServer.init] at h
  distinct h := by simp [SignalingServer.init] at h

lemma size_remove_le (m : ResumeTable) (k : String × String) : (m.remove k).size ≤ m.size := by
  cases h : m.get k with
  | none => rw [FiniteMap.remove_of_none m h]
  | some v => have := FiniteMap.size_remove m h; omega

lemma TableInv.step {sys : System} (hi : TableInv sys.server) (a : Action) :
    TableInv (sys.step a).server where
  size := by
    have hs := tableStep_step sys a
    generalize (sys.step a).server = t at hs
    cases hs with
    | kept ht => exact ht ▸ hi.size
    | removed k ht => exact ht ▸ (size_remove_le _ k).trans hi.size
    | joined hj =>
      cases hj with
      | cleared ht => exact ht ▸ (size_remove_le _ _).trans hi.size
      | issued _ _ ht => exact ht ▸ FiniteMap.size_evict_le
  below {k h} hk := by
    rcases get_of_step hk with ho | ⟨q, nonce, _, _, _, _, hn, hnext⟩
    · exact (hi.below ho).trans_le (resumeSeq_le_step sys a)
    · omega
  distinct {j k g h} hj hk he := by
    rcases get_of_step hj with hj' | ⟨q, n, rfl, _, rfl, _, hn, _⟩ <;>
      rcases get_of_step hk with hk' | ⟨q', n', ha, _, rfl, _, hn', _⟩
    · exact hi.distinct hj' hk' he
    · have := hi.below hj'; omega
    · have := hi.below hk'; omega
    · cases ha; rfl

lemma TableInv.run (acts : List Action) : TableInv (run System.step System.init acts).server := by
  induction acts using List.reverseRecOn with
  | nil => exact tableInv_init
  | append_singleton acts a ih =>
    rw [run_snoc]
    exact ih.step a

def drawn (acts : List Action) : List String :=
  acts.filterMap (fun a => match a with
    | .join _ nonce => some nonce
    | _ => none)

def Accepts (s : SignalingServer) (q : JoinRequest) (nonce : String) : Prop :=
  ∃ h, Hit s q h ∧ h.nonce = nonce

lemma drawn_append (as bs : List Action) : drawn (as ++ bs) = drawn as ++ drawn bs :=
  List.filterMap_append

lemma issued_of_ticket (acts : List Action) {k : String × String} {h : HeldResume}
    (hk : (run System.step System.init acts).server.resumeTable.get k = some h) :
    ∃ as q bs, acts = as ++ .join q h.nonce :: bs ∧ q.issuesTicket = true ∧ q.key = k := by
  induction acts using List.reverseRecOn with
  | nil => simp [System.init, SignalingServer.init] at hk
  | append_singleton acts a ih =>
    rw [run_snoc] at hk
    rcases get_of_step hk with ho | ⟨q, nonce, rfl, hi, hq, hn, _⟩
    · obtain ⟨as, q, bs, rfl, hi, hq⟩ := ih ho
      exact ⟨as, q, bs ++ [a], by simp, hi, hq⟩
    · exact ⟨acts, q, [], by rw [hn], hi, hq.symm⟩

lemma nonce_drawn (acts : List Action) {k : String × String} {h : HeldResume}
    (hk : (run System.step System.init acts).server.resumeTable.get k = some h) :
    h.nonce ∈ drawn acts := by
  obtain ⟨as, q, bs, rfl, _, _⟩ := issued_of_ticket acts hk
  rw [drawn_append]
  exact List.mem_append_right _ (by simp [drawn])

lemma nonce_injective (acts : List Action) (hn : (drawn acts).Nodup) {j k : String × String}
    {g h : HeldResume} (hj : (run System.step System.init acts).server.resumeTable.get j = some g)
    (hk : (run System.step System.init acts).server.resumeTable.get k = some h)
    (he : g.nonce = h.nonce) : j = k := by
  induction acts using List.reverseRecOn with
  | nil => simp [System.init, SignalingServer.init] at hj
  | append_singleton acts a ih =>
    rw [drawn_append] at hn
    have hd := (List.nodup_append'.mp hn).2.2
    rw [run_snoc] at hj hk
    rcases get_of_step hj with hj' | ⟨q, n, rfl, _, rfl, hg, _⟩ <;>
      rcases get_of_step hk with hk' | ⟨q', n', ha, _, rfl, hh, _⟩
    · exact ih (List.nodup_append'.mp hn).1 hj' hk'
    · subst ha
      exact absurd (by simp [drawn, ← hh, ← he]) (hd (nonce_drawn acts hj'))
    · exact absurd (by simp [drawn, ← hg, he]) (hd (nonce_drawn acts hk'))
    · cases ha; rfl

lemma nonce_absent_run {as bs : List Action} (hn : (drawn (as ++ bs)).Nodup) {nonce : String}
    (hx : nonce ∈ drawn as)
    (ha : ∀ k h, (run System.step System.init as).server.resumeTable.get k = some h → h.nonce ≠ nonce) :
    ∀ k h, (run System.step System.init (as ++ bs)).server.resumeTable.get k = some h →
      h.nonce ≠ nonce := by
  induction bs using List.reverseRecOn with
  | nil => simpa using ha
  | append_singleton bs b ih =>
    intro k h hk
    rw [← List.append_assoc] at hn hk
    rw [run_snoc] at hk
    rw [drawn_append] at hn
    obtain ⟨hl, _, hd⟩ := List.nodup_append'.mp hn
    rcases get_of_step hk with ho | ⟨q, n, rfl, _, _, hg, _⟩
    · exact ih hl k h ho
    · rintro rfl
      rw [drawn_append] at hd
      exact hd (List.mem_append_left _ hx) (by simp [drawn, hg])

lemma nonce_absent_accepted {as : List Action} {q : JoinRequest} {n nonce : String}
    (hn : (drawn (as ++ [.join q n])).Nodup)
    (ha : Accepts (run System.step System.init as).server q nonce) :
    ∀ k h, (run System.step System.init (as ++ [.join q n])).server.resumeTable.get k = some h →
      h.nonce ≠ nonce := by
  obtain ⟨g, hit, rfl⟩ := ha
  rw [drawn_append] at hn
  obtain ⟨hl, _, hd⟩ := List.nodup_append'.mp hn
  intro k h hk he
  rw [run_snoc, System.step, join_server] at hk
  rcases get_of_joinTable (roomJoin_table _ q n) hk with ⟨_, _, _, p, rfl⟩ | ⟨ho, hne⟩
  · exact hd (nonce_drawn as hit.ticket) (by simp [drawn, ← he])
  · exact hne (nonce_injective as hl ho hit.ticket he)

lemma seq_lt_of_dropped {s t : SignalingServer} (hi : TableInv s) {q : JoinRequest} {nonce : String}
    {j k : String × String} {g h : HeldResume} (ht : JoinTable s q nonce t) (hne : k ≠ q.key)
    (hk : s.resumeTable.get k = some g) (hd : t.resumeTable.get k = none)
    (hj : t.resumeTable.get j = some h) : g.seq < h.seq := by
  have hold := get_of_joinTable ht hj
  have hrest : (s.resumeTable.remove q.key).get k = some g := by rw [FiniteMap.get_remove_ne _ hne, hk]
  cases ht with
  | cleared ht => rw [ht, hrest] at hd; contradiction
  | issued p _ ht _ =>
    have hle : g.seq ≤ h.seq :=
      FiniteMap.rank_evict_le (by rw [FiniteMap.get_set_ne _ _ hne, hrest]) (ht ▸ hd) (ht ▸ hj)
    rcases hold with ⟨_, _, _, p, rfl⟩ | ⟨ho, _⟩
    · exact hi.below hk
    · refine lt_of_le_of_ne hle (fun he => ?_)
      obtain rfl := hi.distinct hk ho he
      rw [hj] at hd
      contradiction

structure TicketDiscipline (acts : List Action) : Prop where
  once : ∀ {as q n bs q' n' cs nonce}, acts = as ++ .join q n :: (bs ++ .join q' n' :: cs) →
    Accepts (run System.step System.init as).server q nonce →
    ¬Accepts (run System.step System.init (as ++ .join q n :: bs)).server q' nonce
  accepted_by : ∀ {as q n bs nonce}, acts = as ++ .join q n :: bs →
    Accepts (run System.step System.init as).server q nonce →
    protocolMinResume ≤ q.negotiated ∧ ∃ as₁ q₀ as₂, as = as₁ ++ .join q₀ nonce :: as₂ ∧
      q₀.issuesTicket = true ∧ identityKey q₀.identity = identityKey q.identity ∧
      q₀.roomId = q.roomId
  one_per_key : ∀ {as bs}, acts = as ++ bs →
    ((run System.step System.init as).server.resumeTable.toList.map Prod.fst).Nodup
  capped : ∀ {as q n bs}, acts = as ++ .join q n :: bs →
    (run System.step System.init (as ++ [.join q n])).server.resumeTable.size ≤ resumeGlobalCap
  oldest_dropped : ∀ {as q n bs j k g h}, acts = as ++ .join q n :: bs → k ≠ q.key →
    (run System.step System.init as).server.resumeTable.get k = some g →
    (run System.step System.init (as ++ [.join q n])).server.resumeTable.get k = none →
    (run System.step System.init (as ++ [.join q n])).server.resumeTable.get j = some h →
    g.seq < h.seq

/-- Nonces are drawn from a secure generator, so no two draws of a run agree. -/
theorem resume_ticket_discipline (acts : List Action) (hn : (drawn acts).Nodup) :
    TicketDiscipline acts where
  once {as q n bs q' n' cs nonce} he ha := by
    subst he
    have hl : (drawn ((as ++ [.join q n]) ++ bs)).Nodup := by
      rw [show as ++ .join q n :: (bs ++ .join q' n' :: cs) =
        ((as ++ [.join q n]) ++ bs) ++ .join q' n' :: cs by simp, drawn_append] at hn
      exact (List.nodup_append'.mp hn).1
    have hj := hl
    rw [drawn_append] at hj
    have hgone := nonce_absent_run hl
      (by
        obtain ⟨g, hit, rfl⟩ := ha
        rw [drawn_append]
        exact List.mem_append_left _ (nonce_drawn as hit.ticket))
      (nonce_absent_accepted (List.nodup_append'.mp hj).1 ha)
    rintro ⟨h, hit, rfl⟩
    rw [show as ++ .join q n :: bs = (as ++ [.join q n]) ++ bs by simp] at hit
    exact hgone _ h hit.ticket rfl
  accepted_by {as q n bs nonce} he ha := by
    obtain ⟨h, hit, rfl⟩ := ha
    obtain ⟨as₁, q₀, as₂, hs, hi, hk⟩ := issued_of_ticket as hit.ticket
    exact ⟨hit.resumable, as₁, q₀, as₂, hs, hi, congrArg Prod.fst hk, congrArg Prod.snd hk⟩
  one_per_key _ := FiniteMap.keys_nodup _
  capped _ := (TableInv.run _).size
  oldest_dropped {as q n bs j k g h} _ hne hk hd hj := by
    rw [run_snoc, System.step, join_server] at hd hj
    exact seq_lt_of_dropped (TableInv.run as) (roomJoin_table _ q n) hne hk hd hj

def reattach : List Action :=
  [.join ⟨"p1", .device "car", "car", .host, some 3, none⟩ "n1", .close 0,
    .join ⟨"p2", .device "car", "car", .host, some 3, some "n1"⟩ "n2"]

theorem resume_ticket_discipline_reattach :
    (drawn reattach).Nodup ∧ TicketDiscipline reattach ∧
      ((run System.step System.init reattach).sessions.map (fun c => c.session.peerId)) = ["p1", "p1"] :=
  ⟨by decide, resume_ticket_discipline reattach (by decide), by decide⟩

end MediaServo.Server
