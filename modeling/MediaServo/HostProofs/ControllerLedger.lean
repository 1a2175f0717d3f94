import MediaServo.Host.ControllerLoop

/-! The consumer channels of the controller against the producers that are there. -/

namespace MediaServo.Host.Controller

open MediaServo.Foundations MediaServo.Common MediaServo.Link

section Words

variable (p : String) (s : Loop) (a : LoopAction)

def Closes : Prop :=
  s.stage ≠ .stopped ∧
    ∃ room peer reason created, a = .event (.message (.producerClosed room peer p .data reason)) created

def Announces : Prop :=
  s.stage ≠ .stopped ∧
    ∃ room peer label protocol created,
      a = .event (.message (.newDataProducer room p peer label protocol)) created

/-- The loop reads an answer to a consume request and the engine makes a channel from it. -/
def Opens : Prop :=
  (∃ tid, s.stage = .running tid) ∧
    ∃ room consumer params label protocol,
      a = .event (.message (.dataConsumed room consumer p (some params) label protocol)) true

end Words

/-- A data producer is closed, and has not been announced again. -/
def ClosedSince (p : String) (s : Loop) (acts : List LoopAction) : Prop :=
  Since Loop.step (Closes p) (Announces p) s acts

/-- A consumer channel for a data producer that nothing has told to close. -/
def Loop.Consumes (s : Loop) (p : String) : Prop := ∃ c, s.channels.get c = some p

structure Registered (s : Loop) : Prop where
  listed : ∀ c p, s.channels.get c = some p → s.purge.get p = some c
  fresh : ∀ p c, s.purge.get p = some c → c < s.nextChannel
  early : (∀ tid, s.stage ≠ .running tid) → ∀ c, s.channels.get c = none

variable {s : Loop} {a : LoopAction} {p q tid : String} {c : ℕ}

lemma registered_start {room : String} {labels : List String} :
    Registered (Loop.start room labels) := by
  constructor
  · simp [Loop.start]
  · simp [Loop.start]
  · simp [Loop.start]

lemma registered_exit : Registered s.exit := by
  constructor
  · simp [Loop.exit, Loop.start]
  · simp [Loop.exit, Loop.start]
  · simp [Loop.exit, Loop.start]

lemma announced_frame : (s.announced tid q).channels = s.channels ∧
    (s.announced tid q).purge = s.purge ∧ (s.announced tid q).nextChannel = s.nextChannel ∧
      (s.announced tid q).stage = s.stage := by
  rw [Loop.announced]
  split_ifs <;> simp [Loop.consumeData]

lemma foldl_announced_frame (ps : List PendingProducer) :
    (ps.foldl (fun s p => s.announced tid p.dataProducerId) s).channels = s.channels ∧
      (ps.foldl (fun s p => s.announced tid p.dataProducerId) s).purge = s.purge := by
  induction ps generalizing s with
  | nil => exact ⟨rfl, rfl⟩
  | cons p ps ih =>
    have hc : (s.announced tid p.dataProducerId).channels = s.channels := announced_frame.1
    have hp : (s.announced tid p.dataProducerId).purge = s.purge := announced_frame.2.1
    rw [List.foldl_cons, ← hc, ← hp]
    exact ih

lemma ready_frame : (s.ready tid).channels = s.channels ∧ (s.ready tid).purge = ∅ := by
  rw [Loop.ready]
  exact foldl_announced_frame _

lemma get_opened {p dp : String} (h : (s.openChannel dp).channels.get c = some p) :
    (c = s.nextChannel ∧ p = dp) ∨
      (c ≠ s.nextChannel ∧ s.channels.get c = some p ∧ s.purge.get dp ≠ some c) := by
  simp only [Loop.openChannel, FiniteMap.get_set] at h
  split_ifs at h with hc
  · exact Or.inl ⟨hc, (Option.some.inj h).symm⟩
  · refine Or.inr ⟨hc, ?_⟩
    cases hd : s.purge.get dp with
    | none =>
      simp only [hd] at h
      exact ⟨h, by simp⟩
    | some c' =>
      simp only [hd, FiniteMap.get_remove] at h
      split_ifs at h with hcc
      exact ⟨h, fun he => hcc (Option.some.inj he).symm⟩

lemma registered_opened (h : Registered s) (hr : ∃ tid, s.stage = .running tid) (dp : String) :
    Registered (s.openChannel dp) := by
  constructor
  · intro c p hc
    obtain ⟨rfl, rfl⟩ | ⟨_, hold, hne⟩ := get_opened hc
    · simp [Loop.openChannel]
    · have hlisted := h.listed c p hold
      have hdp : p ≠ dp := by
        rintro rfl
        exact hne hlisted
      simpa [Loop.openChannel, FiniteMap.get_set_ne _ _ hdp] using hlisted
  · intro p c hc
    simp only [Loop.openChannel, FiniteMap.get_set] at hc ⊢
    split_ifs at hc
    · cases hc
      omega
    · have := h.fresh p c hc
      omega
  · intro hno
    obtain ⟨tid, ht⟩ := hr
    exact absurd ht (hno tid)

lemma registered_teardown (h : Registered s) (p : String) : Registered (s.teardown p) := by
  rw [Loop.teardown]
  cases hp : s.purge.get p with
  | none => exact h
  | some c' =>
    constructor
    · intro c q hq
      have hlisted := h.listed c q (FiniteMap.get_of_remove hq)
      have hqp : q ≠ p := by
        rintro rfl
        rw [hp] at hlisted
        cases hlisted
        simp at hq
      rw [FiniteMap.get_remove_ne _ hqp]
      exact hlisted
    · intro q c hq
      exact h.fresh q c (FiniteMap.get_of_remove hq)
    · intro hno c
      rw [FiniteMap.get_remove, h.early hno]
      split_ifs <;> rfl

lemma torn_down (h : Registered s) (p : String) : ¬(s.teardown p).Consumes p := by
  rintro ⟨c, hc⟩
  rw [Loop.teardown] at hc
  cases hp : s.purge.get p with
  | none =>
    simp only [hp] at hc
    rw [h.listed c p hc] at hp
    cases hp
  | some c' =>
    simp only [hp] at hc
    have hlisted := h.listed c p (FiniteMap.get_of_remove hc)
    rw [hp] at hlisted
    cases hlisted
    simp at hc

inductive Turns (s : Loop) (a : LoopAction) : Loop → Prop
  | quiet {s' : Loop} (hc : s'.channels = s.channels) (hp : s'.purge = s.purge)
      (hn : s'.nextChannel = s.nextChannel)
      (hs : ∀ tid, s.stage = .running tid → s'.stage = .running tid) : Turns s a s'
  | exits : Turns s a s.exit
  | readies (tid : String) (h : s.stage = .recvTransport) : Turns s a (s.ready tid)
  | opens {p : String} (h : Opens p s a) : Turns s a (s.openChannel p)
  | tears (p : String) : Turns s a (s.teardown p)
  | ends (c : ℕ) : Turns s a { s with channels := s.channels.remove c }
  | restarts : Turns s a (.start s.room s.labels)

lemma setup_turns (heard : Heard)
    {taken : String → Loop} (ht : ∀ id, Turns s a (taken id)) : Turns s a (s.setup heard taken) := by
  cases heard with
  | taken id => exact ht id
  | cached p => exact .quiet rfl rfl rfl fun _ h => h
  | ignored => exact .quiet rfl rfl rfl fun _ h => h
  | failed => exact .exits

lemma announce_turns (hno : ∀ tid, s.stage ≠ .running tid) (s' : Loop)
    (hc : s'.channels = s.channels) (hp : s'.purge = s.purge)
    (hn : s'.nextChannel = s.nextChannel) (rest : List String) : Turns s a (s'.announce rest) := by
  cases rest with
  | nil => exact .quiet hc hp hn fun tid h => absurd h (hno tid)
  | cons _ _ => exact .quiet hc hp hn fun tid h => absurd h (hno tid)

lemma handle_turns {created : Bool} {e : SignalEvent} (hr : s.stage = .running tid) :
    Turns s (.event e created) (s.handle tid created e) := by
  rw [Loop.handle.eq_def]
  split
  · exact .quiet announced_frame.1 announced_frame.2.1 announced_frame.2.2.1 fun _ h =>
      announced_frame.2.2.2.trans h
  · split_ifs with hcreated
    · subst hcreated
      exact .opens ⟨⟨tid, hr⟩, _, _, _, _, _, rfl⟩
    · exact .quiet rfl rfl rfl fun _ h => h
  · exact .tears _
  · exact .exits
  · exact .exits
  · exact .quiet rfl rfl rfl fun _ h => h

theorem step_turns (s : Loop) (a : LoopAction) : Turns s a (s.step a) := by
  cases a with
  | event e created =>
    simp only [Loop.step, Loop.event]
    cases hst : s.stage with
    | sendTransport =>
      have hno : ∀ tid, s.stage ≠ .running tid := by simp [hst]
      exact setup_turns _ fun _ => announce_turns hno _ rfl rfl rfl _
    | announcing rest =>
      have hno : ∀ tid, s.stage ≠ .running tid := by simp [hst]
      exact setup_turns _ fun dp =>
        announce_turns hno { s with own := dp :: s.own } rfl rfl rfl rest.tail
    | recvTransport => exact setup_turns _ fun tid => .readies tid hst
    | running tid => exact handle_turns hst
    | stopped => exact .quiet rfl rfl rfl fun _ h => h
  | lost => exact .exits
  | quit => exact .exits
  | channelEnds c => exact .ends c
  | restart =>
    simp only [Loop.step]
    split_ifs
    · exact .restarts
    · exact .quiet rfl rfl rfl fun _ h => h

lemma registered_step (h : Registered s) (a : LoopAction) : Registered (s.step a) := by
  have ht := step_turns s a
  generalize s.step a = s' at ht
  cases ht with
  | quiet hc hp hn hs =>
    constructor
    · rw [hc, hp]
      exact h.listed
    · rw [hp, hn]
      exact h.fresh
    · intro hno
      rw [hc]
      exact h.early fun tid ht => hno tid (hs tid ht)
  | exits => exact registered_exit
  | readies tid hst =>
    have hnone : ∀ c, s.channels.get c = none := h.early (by simp [hst])
    have hc : (s.ready tid).channels = s.channels := ready_frame.1
    have hp : (s.ready tid).purge = ∅ := ready_frame.2
    constructor
    · simp [hc, hnone]
    · simp [hp]
    · simp [hc, hnone]
  | opens ho => exact registered_opened h ho.1 _
  | tears p => exact registered_teardown h p
  | ends c =>
    exact ⟨fun c' q hq => h.listed c' q (FiniteMap.get_of_remove hq), h.fresh, fun hno c' => by
      rw [FiniteMap.get_remove, h.early hno]
      split_ifs <;> rfl⟩
  | restarts => exact registered_start

lemma consumes_step (h : (s.step a).Consumes p) : s.Consumes p ∨ Opens p s a := by
  have ht := step_turns s a
  generalize s.step a = s' at ht h
  obtain ⟨c, hc⟩ := h
  cases ht with
  | quiet heq _ _ _ => exact Or.inl ⟨c, heq ▸ hc⟩
  | exits => simp [Loop.exit, Loop.start] at hc
  | readies tid _ => exact Or.inl ⟨c, ready_frame.1 ▸ hc⟩
  | opens ho =>
    obtain ⟨-, rfl⟩ | ⟨-, hold, -⟩ := get_opened hc
    · exact Or.inr ho
    · exact Or.inl ⟨c, hold⟩
  | tears q =>
    rw [Loop.teardown] at hc
    split at hc
    · exact Or.inl ⟨c, FiniteMap.get_of_remove hc⟩
    · exact Or.inl ⟨c, hc⟩
  | ends c' => exact Or.inl ⟨c, FiniteMap.get_of_remove hc⟩
  | restarts => simp [Loop.start] at hc

lemma opens_step (h : Opens p s a) : (s.step a).Consumes p := by
  obtain ⟨⟨tid, ht⟩, room, consumer, params, label, protocol, rfl⟩ := h
  refine ⟨s.nextChannel, ?_⟩
  simp [Loop.step, Loop.event, ht, Loop.handle, Loop.openChannel]

lemma closed_step (h : Registered s) (hc : Closes p s a) : ¬(s.step a).Consumes p := by
  obtain ⟨-, room, peer, reason, created, rfl⟩ := hc
  intro hcon
  by_cases hr : ∃ tid, s.stage = .running tid
  · obtain ⟨tid, ht⟩ := hr
    simp only [Loop.step, Loop.event, ht, Loop.handle] at hcon
    exact torn_down h p hcon
  · obtain ⟨c, hold⟩ | ⟨hrun, -⟩ := consumes_step hcon
    · rw [h.early (fun tid ht => hr ⟨tid, ht⟩) c] at hold
      cases hold
    · exact hr hrun

lemma registered_run (room : String) (labels : List String) (acts : List LoopAction) :
    Registered (run Loop.step (.start room labels) acts) :=
  run_preserves registered_start (fun _ a h => registered_step h a) acts

/-- No consumer channel of the controller outlives its data producer, in any run, exactly when no
consume request is answered after the close of its producer has been read. -/
theorem consumers_closed_iff (room : String) (labels : List String) (acts : List LoopAction) :
    (∀ as bs, acts = as ++ bs → ∀ p, ClosedSince p (.start room labels) as →
        ¬(run Loop.step (.start room labels) as).Consumes p) ↔
      ∀ as a bs, acts = as ++ a :: bs → ∀ p, ClosedSince p (.start room labels) as →
        ¬Opens p (run Loop.step (.start room labels) as) a := by
  constructor
  · rintro h as a bs rfl p hclosed hopens
    refine h (as ++ [a]) bs (by simp) p (since_snoc.2 (Or.inr ⟨hclosed, ?_⟩)) ?_
    · rintro ⟨-, _, _, _, _, _, rfl⟩
      obtain ⟨-, _, _, _, _, _, he⟩ := hopens
      cases he
    · rw [run_snoc]
      exact opens_step hopens
  · intro h as
    induction as using List.reverseRecOn with
    | nil => exact fun _ _ p hp => absurd hp not_since_nil
    | append_singleton as a ih =>
      rintro bs rfl p hclosed hcon
      rw [run_snoc] at hcon
      obtain hcl | ⟨hbefore, hno⟩ := since_snoc.1 hclosed
      · exact closed_step (registered_run room labels as) hcl hcon
      · obtain hold | hopens := consumes_step hcon
        · exact ih (a :: bs) (by simp) p hbefore hold
        · exact h as a bs (by simp) p hbefore hopens

def lateAnswer : List LoopAction :=
  let created (tid : String) : SignalEvent :=
    .message (.webRtcTransportCreated "car1" "host" tid ⟨"u", "p"⟩ ⟨[], "auto"⟩ none none)
  [created "send", .message (.dataProducerCreated "car1" "own-1"),
    .message (.dataProducerCreated "car1" "own-2"), .message (.dataProducerCreated "car1" "own-3"),
    .message (.dataProducerCreated "car1" "own-4"), created "recv",
    .message (.newDataProducer "car1" "dp1" "cockpit" "chassis" "sctp"),
    .message (.producerClosed "car1" "cockpit" "dp1" .data none),
    .message (.dataConsumed "car1" "dc1" "dp1" (some ⟨1, true, none, none⟩) "chassis" "sctp")].map
      (fun e => .event e true)

/-- The answer makes a channel for a producer that is gone. -/
theorem late_answer_opens_channel :
    ¬∀ (room : String) (labels : List String) (acts as bs : List LoopAction), acts = as ++ bs →
      ∀ p, ClosedSince p (.start room labels) as →
        ¬(run Loop.step (.start room labels) as).Consumes p := by
  intro hall
  refine hall "car1" defaultLabels lateAnswer lateAnswer [] (by simp) "dp1" ?_ ⟨0, by decide⟩
  refine ⟨lateAnswer.take 7, _, lateAnswer.drop 8, rfl, ⟨by decide, _, _, _, _, rfl⟩, ?_⟩
  refine ⟨?_, trivial⟩
  rintro ⟨-, _, _, _, _, _, he⟩
  cases he

end MediaServo.Host.Controller
