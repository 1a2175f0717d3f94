import MediaServo.Client.Supervisor

/-! A dead link against the published state, over every interleaving of link breaks, forwarders
and the reconnect chain. -/

namespace MediaServo.Client

open MediaServo.Foundations MediaServo.Link

namespace Generation

def Announced (g : Generation) : Prop := ∃ reason, SignalEvent.disconnected reason ∈ g.raw

def Covered (g : Generation) : Prop := g.subscribed = true ∧ (g.alive = true ∨ g.Announced)

def Unheard (g : Generation) : Prop :=
  g.alive = true ∧ g.subscribed = false ∧ g.forwarding = false

def Awaiting (g : Generation) : Prop := g.forwarding = false ∧ g.Covered

def Served (g : Generation) : Prop := g.forwarding = true ∧ g.Covered

variable {g : Generation}

lemma receive_covered (e : SignalEvent) (ha : g.alive = true) (h : g.Covered) :
    (g.receive e).Covered := by
  have hs := h.1
  rw [receive, if_neg (by simp [hs])]
  exact ⟨hs, Or.inl ha⟩

lemma receive_forwarding (e : SignalEvent) : (g.receive e).forwarding = g.forwarding := by
  rw [receive]
  split_ifs <;> rfl

lemma receive_unheard (e : SignalEvent) (h : g.Unheard) : (g.receive e).Unheard := by
  rw [receive, if_pos (by simp [h.2.1])]
  exact h

lemma receive_announced (reason : String) (hs : g.subscribed = true) :
    (g.receive (.disconnected reason)).Announced := by
  rw [receive, if_neg (by simp [hs])]
  refine ⟨reason, ?_⟩
  dsimp only
  split_ifs <;> simp

lemma die_covered {announced : Bool} (reason : String) (ha : g.alive = true → announced = true)
    (h : g.Covered) : (g.die announced reason).Covered := by
  cases hal : g.alive with
  | false =>
    rw [die, if_pos (by simp [hal])]
    exact h
  | true =>
    have hs := h.1
    rw [die, if_neg (by simp [hal]), if_pos (ha hal)]
    refine ⟨?_, Or.inr (receive_announced reason hs)⟩
    simp [receive, hs]

lemma die_forwarding (announced : Bool) (reason : String) :
    (g.die announced reason).forwarding = g.forwarding := by
  simp only [die]
  split_ifs
  · exact receive_forwarding _
  · rfl
  · rfl

lemma skip_covered {e : SignalEvent} {rest : List SignalEvent}
    (hr : g.raw = e :: rest) (he : ∀ reason, e ≠ .disconnected reason) (h : g.Covered) :
    ({ g with raw := rest } : Generation).Covered := by
  refine ⟨h.1, ?_⟩
  rcases h.2 with ha | ⟨reason, hm⟩
  · exact Or.inl ha
  · rw [hr] at hm
    rcases List.mem_cons.mp hm with heq | hm
    · exact absurd heq.symm (he reason)
    · exact Or.inr ⟨reason, hm⟩

end Generation

namespace Supervisor

/-- The loss of the current session is on its way to the supervisor: in the mailbox, or among the
events that its forwarder has still to take. -/
def NoticeQueued (s : Supervisor) : Prop :=
  s.current ∈ s.mailbox ∨
    ((s.generations s.current).forwarding = true ∧ (s.generations s.current).Announced)

def LossNoticed (s : Supervisor) : Prop :=
  s.phase = .idle → s.autoReconnect = true → s.published = .connected →
    (s.generations s.current).alive = true ∨ s.NoticeQueued

def Installing (s : Supervisor) : Prop := s.phase = .replaying ∨ s.phase = .draining

/-- The newest session dies audibly: it announces its death, to a forwarder that has subscribed
before, and that forwarder reports it after the reconnect chain has drained the mailbox. -/
def Heeded (s : Supervisor) : Action → Prop
  | .linkBreak g announced _ =>
      g = s.latest → (s.generations g).alive = true →
        announced = true ∧ (s.generations g).subscribed = true
  | .forwarder g =>
      g = s.current → s.Installing →
        ∀ reason rest, (s.generations g).raw ≠ .disconnected reason :: rest
  | _ => True

/-- What holds of the newest session, by the phase in which the supervisor is. -/
structure Sound (s : Supervisor) : Prop where
  order : s.current ≤ s.latest
  joined : s.phase = .joined → s.current < s.latest ∧ (s.generations s.latest).Unheard
  subscribed : s.phase = .subscribed → s.current < s.latest ∧ (s.generations s.latest).Awaiting
  installing : s.Installing → s.current = s.latest ∧ (s.generations s.latest).Served
  idle : s.phase = .idle →
    s.current = s.latest ∧ ((s.generations s.latest).Served ∨ s.latest ∈ s.mailbox)

variable {s : Supervisor}

@[simp] lemma update_self (g : ℕ) (f : Generation → Generation) :
    (s.update g f).generations g = f (s.generations g) := by
  simp [update]

lemma update_of_ne {g k : ℕ} (f : Generation → Generation) (h : k ≠ g) :
    (s.update g f).generations k = s.generations k := by
  simp [update, h]

lemma Sound.lossNoticed (h : s.Sound) : s.LossNoticed := by
  intro hidle _ _
  obtain ⟨hc, hserved | hmail⟩ := h.idle hidle
  · rw [← hc] at hserved
    rcases hserved.2.2 with ha | ha
    · exact Or.inl ha
    · exact Or.inr (Or.inr ⟨hserved.1, ha⟩)
  · rw [← hc] at hmail
    exact Or.inr (Or.inl hmail)

lemma Sound.frame {t : Supervisor} (h : s.Sound) (hp : t.phase = s.phase)
    (hc : t.current = s.current) (hl : t.latest = s.latest)
    (hm : ∀ g ∈ s.mailbox, g ∈ t.mailbox)
    (halive : s.phase = .joined → (s.generations s.latest).Unheard →
      (t.generations s.latest).Unheard)
    (hcov : s.phase = .subscribed → (s.generations s.latest).Awaiting →
      (t.generations s.latest).Awaiting)
    (hinst : s.Installing → (s.generations s.latest).Served → (t.generations s.latest).Served)
    (hidle : s.phase = .idle → (s.generations s.latest).Served →
      (t.generations s.latest).Served ∨ s.latest ∈ t.mailbox) : t.Sound where
  order := by
    rw [hc, hl]
    exact h.order
  joined := by
    intro hj
    rw [hp] at hj
    rw [hc, hl]
    exact ⟨(h.joined hj).1, halive hj (h.joined hj).2⟩
  subscribed := by
    intro hj
    rw [hp] at hj
    rw [hc, hl]
    exact ⟨(h.subscribed hj).1, hcov hj (h.subscribed hj).2⟩
  installing := by
    intro hj
    rw [Installing, hp] at hj
    rw [hc, hl]
    exact ⟨(h.installing hj).1, hinst hj (h.installing hj).2⟩
  idle := by
    intro hj
    rw [hp] at hj
    rw [hc, hl]
    refine ⟨(h.idle hj).1, ?_⟩
    rcases (h.idle hj).2 with hs | hs
    · exact hidle hj hs
    · exact Or.inr (hm _ hs)

lemma Sound.update (h : s.Sound) (g : ℕ) (f : Generation → Generation)
    (halive : g = s.latest → (s.generations g).Unheard → (f (s.generations g)).Unheard)
    (hcov : g = s.latest → (s.generations g).Covered → (f (s.generations g)).Covered)
    (hfwd : (f (s.generations g)).forwarding = (s.generations g).forwarding) :
    (s.update g f).Sound := by
  by_cases hg : s.latest = g
  · subst hg
    refine h.frame rfl rfl rfl (fun _ hm => hm) ?_ ?_ ?_ ?_
    · intro _ ha
      rw [update_self]
      exact halive rfl ha
    · intro _ hc
      rw [update_self]
      exact ⟨hfwd.trans hc.1, hcov rfl hc.2⟩
    · intro _ hs
      rw [update_self]
      exact ⟨hfwd.trans hs.1, hcov rfl hs.2⟩
    · intro _ hs
      rw [update_self]
      exact Or.inl ⟨hfwd.trans hs.1, hcov rfl hs.2⟩
  · have hsame := update_of_ne (s := s) f hg
    refine h.frame rfl rfl rfl (fun _ hm => hm) ?_ ?_ ?_ ?_
    · intro _ ha
      rw [hsame]
      exact ha
    · intro _ hc
      rw [hsame]
      exact hc
    · intro _ hs
      rw [hsame]
      exact hs
    · intro _ hs
      rw [hsame]
      exact Or.inl hs

lemma event_sound (g : ℕ) (e : SignalEvent) (h : s.Sound) : (s.step (.event g e)).Sound := by
  simp only [step]
  split_ifs with ha
  · apply h.update
    · intro _ hu
      exact Generation.receive_unheard e hu
    · intro _ hc
      exact Generation.receive_covered e ha.1 hc
    · exact Generation.receive_forwarding e
  · exact h

lemma linkBreak_sound (g : ℕ) (announced : Bool) (reason : String) (h : s.Sound)
    (hh : s.Heeded (.linkBreak g announced reason)) :
    (s.step (.linkBreak g announced reason)).Sound := by
  simp only [step]
  apply h.update
  · intro hg hu
    have := (hh hg hu.1).2
    rw [hu.2.1] at this
    cases this
  · intro hg hc
    exact Generation.die_covered reason (fun ha => (hh hg ha).1) hc
  · exact Generation.die_forwarding announced reason

lemma Sound.grow (h : s.Sound) (gs : List ℕ) (es : List SignalEvent) :
    ({ s with mailbox := s.mailbox ++ gs, relayed := es } : Supervisor).Sound := by
  refine h.frame rfl rfl rfl ?_ ?_ ?_ ?_ ?_
  · intro g hg
    exact List.mem_append_left gs hg
  · exact fun _ hu => hu
  · exact fun _ hc => hc
  · exact fun _ hs => hs
  · exact fun _ hs => Or.inl hs

lemma skip_sound {g : ℕ} {e : SignalEvent} {rest : List SignalEvent} (h : s.Sound)
    (hr : (s.generations g).raw = e :: rest) (he : ∀ reason, e ≠ .disconnected reason) :
    (s.update g (fun x => { x with raw := rest })).Sound := by
  refine h.update g _ ?_ ?_ rfl
  · intro _ hu
    exact hu
  · intro _ hc
    exact Generation.skip_covered hr he hc

lemma report_sound {g : ℕ} (f : Generation → Generation) (es : List SignalEvent) (h : s.Sound)
    (hf : (s.generations g).forwarding = true) (hi : g = s.current → ¬s.Installing) :
    ({ s.update g f with mailbox := s.mailbox ++ [g], relayed := es } : Supervisor).Sound := by
  by_cases hg : s.latest = g
  · subst hg
    refine h.frame rfl rfl rfl ?_ ?_ ?_ ?_ ?_
    · intro k hk
      exact List.mem_append_left _ hk
    · intro _ hu
      rw [hu.2.2] at hf
      cases hf
    · intro _ hc
      rw [hc.1] at hf
      cases hf
    · intro hp
      exact absurd hp (hi (h.installing hp).1.symm)
    · intro _ _
      right
      simp
  · refine h.frame rfl rfl rfl ?_ ?_ ?_ ?_ ?_
    · intro k hk
      exact List.mem_append_left _ hk
    · intro _ hu
      simpa [update, hg] using hu
    · intro _ hc
      simpa [update, hg] using hc
    · intro _ hs
      simpa [update, hg] using hs
    · intro _ hs
      left
      simpa [update, hg] using hs

lemma forwarder_sound (g : ℕ) (h : s.Sound) (hh : s.Heeded (.forwarder g)) :
    (s.step (.forwarder g)).Sound := by
  by_cases hf : (s.generations g).forwarding = true
  · simp only [step, runForwarder, if_neg (not_not.mpr hf)]
    split
    · rename_i reason rest hr
      apply report_sound _ _ h hf
      intro hg hi
      exact hh hg hi reason rest hr
    · rename_i room rest hr
      exact skip_sound h hr nofun
    · rename_i e rest hne _ hr
      have := (skip_sound h hr hne).grow [] (s.relayed ++ [e])
      simpa using this
    · rename_i hr
      split_ifs with hrel
      · refine report_sound _ s.relayed h hf ?_
        intro hg hi
        -- a session whose events are all taken and which is served is alive
        obtain ⟨hc, hs⟩ := h.installing hi
        rw [← hc, ← hg] at hs
        rcases hs.2.2 with ha | ⟨reason, hm⟩
        · exact hrel.2 ha
        · rw [hr] at hm
          cases hm
      · exact h
  · simp only [step, runForwarder, if_pos hf]
    exact h

lemma not_installing (hr : s.phase ≠ .replaying) (hd : s.phase ≠ .draining) : ¬s.Installing := by
  rintro (h | h)
  · exact hr h
  · exact hd h

lemma recvDead_sound (h : s.Sound) : (s.step .recvDead).Sound := by
  simp only [step, recvDead]
  split
  · split_ifs
    · exact ⟨h.order, nofun, nofun, fun hi => absurd hi (not_installing nofun nofun), nofun⟩
    · exact ⟨h.order, nofun, nofun, fun hi => absurd hi (not_installing nofun nofun), nofun⟩
  · exact h

lemma connect_sound (r : Attempt) (h : s.Sound) : (s.step (.connect r)).Sound := by
  simp only [step, connect]
  split
  · rename_i hp
    cases r with
    | joined =>
      refine ⟨?_, ?_, nofun, fun hi => absurd hi (not_installing nofun nofun), nofun⟩
      · exact h.order.trans (Nat.le_succ _)
      · intro _
        refine ⟨Nat.lt_succ_of_le h.order, ?_⟩
        simp [update, Generation.fresh, Generation.Unheard]
    | retryable => exact h
    | rejected => exact ⟨h.order, nofun, nofun, fun hi => absurd hi (not_installing nofun nofun), nofun⟩
  · exact h

lemma events_sound (h : s.Sound) : (s.step .events).Sound := by
  simp only [step, events]
  split
  · rename_i hp
    obtain ⟨hlt, hu⟩ := h.joined hp
    refine ⟨h.order, nofun, ?_, fun hi => absurd hi (not_installing nofun nofun), nofun⟩
    intro _
    refine ⟨hlt, ?_, ?_⟩
    · simpa [update] using hu.2.2
    · simp [update, Generation.Covered, hu.1]
  · exact h

lemma swapSession_sound (h : s.Sound) : (s.step .swapSession).Sound := by
  simp only [step, swapSession]
  split
  · rename_i hp
    obtain ⟨hlt, _, hc⟩ := h.subscribed hp
    refine ⟨le_rfl, nofun, nofun, ?_, nofun⟩
    intro _
    refine ⟨rfl, ?_⟩
    have hne : s.latest ≠ s.current := hlt.ne'
    refine ⟨by simp [update], ?_⟩
    simpa [update, hne, Generation.Covered, Generation.Announced] using hc
  · exact h

lemma replayed_sound (h : s.Sound) : (s.step .replayed).Sound := by
  simp only [step, replayed]
  split
  · rename_i hp
    exact ⟨h.order, nofun, nofun, fun _ => h.installing (Or.inl hp), nofun⟩
  · exact h

lemma drain_sound (h : s.Sound) : (s.step .drain).Sound := by
  simp only [step, drain]
  split
  · rename_i hp _
    obtain ⟨hc, hs⟩ := h.installing (Or.inr hp)
    exact ⟨h.order, nofun, nofun, fun hi => absurd hi (not_installing nofun nofun), fun _ => ⟨hc, Or.inl hs⟩⟩
  · rename_i rest hp _
    have hi := h.installing (Or.inr hp)
    refine ⟨h.order, ?_, ?_, fun _ => hi, ?_⟩
    · intro hj
      simp [hp] at hj
    · intro hj
      simp [hp] at hj
    · intro hj
      simp [hp] at hj
  · exact h

lemma step_sound (a : Action) (h : s.Sound) (hh : s.Heeded a) : (s.step a).Sound := by
  cases a with
  | event g e => exact event_sound g e h
  | linkBreak g announced reason => exact linkBreak_sound g announced reason h hh
  | forwarder g => exact forwarder_sound g h hh
  | recvDead => exact recvDead_sound h
  | connect r => exact connect_sound r h
  | events => exact events_sound h
  | swapSession => exact swapSession_sound h
  | replayed => exact replayed_sound h
  | drain => exact drain_sound h
  | setAutoReconnect on => exact ⟨h.order, h.joined, h.subscribed, h.installing, h.idle⟩
  | shutdown => exact ⟨h.order, nofun, nofun, fun hi => absurd hi (not_installing nofun nofun), nofun⟩

lemma start_sound : start.Sound where
  order := le_rfl
  joined := nofun
  subscribed := nofun
  installing := fun hi => absurd hi (not_installing nofun nofun)
  idle := by
    intro _
    refine ⟨rfl, Or.inl ⟨rfl, rfl, Or.inl rfl⟩⟩

theorem loss_noticed (acts : List Action) (ha : Along step Heeded start acts) :
    (run step start acts).LossNoticed :=
  (run_invariant start_sound (fun _ a hs hh => step_sound a hs hh) ha).lossNoticed

def healed : List Action :=
  [.linkBreak 0 true "reset", .forwarder 0, .recvDead, .connect .joined, .events, .swapSession,
    .replayed, .drain]

theorem loss_noticed_after_reconnect :
    Along step Heeded start healed ∧ (run step start healed).LossNoticed := by
  have ha : Along step Heeded start healed := by
    refine ⟨fun _ _ => ⟨rfl, rfl⟩, ?_, trivial, trivial, trivial, trivial, trivial, trivial, trivial⟩
    intro _ hi
    exact absurd hi (not_installing (by decide) (by decide))
  exact ⟨ha, loss_noticed healed ha⟩

def brokenInReplay : List Action :=
  [.linkBreak 0 true "reset", .forwarder 0, .recvDead, .connect .joined, .events, .swapSession,
    .linkBreak 1 true "reset", .forwarder 1, .replayed, .drain, .drain]

theorem loss_in_replay_swallowed : ¬∀ acts : List Action, (run step start acts).LossNoticed := by
  intro h
  rcases h brokenInReplay (by decide) (by decide) (by decide) with ha | hm | ⟨hf, _⟩
  · revert ha
    decide
  · revert hm
    decide
  · revert hf
    decide

end Supervisor

end MediaServo.Client
