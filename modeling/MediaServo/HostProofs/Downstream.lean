import MediaServo.HostProofs.Pairing

/-! What the gateway reports about a child that closes, against what it forwarded for that child
in the current session, over every run. -/

namespace MediaServo.Host

open MediaServo.Foundations MediaServo.Common

def produceKey : SignalingMessage → Option (String × String)
  | .produce roomId peerId .. => some (peerId, roomId)
  | _ => none

namespace Gateway

def ForwardsProduce (c : ℕ) (key : String × String) (g : Gateway) (a : Action) : Prop :=
  ∃ m, (g.step a).queue.hi = g.queue.hi ++ [⟨some c, m⟩] ∧ produceKey m = some key

def ReportsGone (c : ℕ) (key : String × String) (g : Gateway) : Prop :=
  (g.step (.close c)).queue.hi = g.queue.hi ++ [⟨some c, .downstreamGone key.1 key.2⟩]

def EndsSession (_ : Gateway) (a : Action) : Prop := a = .disconnect

def ForwardedAs (room : String) (acts : List Action) (c : ℕ) (key : String × String) : Prop :=
  Since step (ForwardsProduce c key) EndsSession (init room) acts

/-- The reports of a child that closes now are the keys of its requests in this session. -/
def ReportComplete (room : String) (acts : List Action) (c : ℕ) : Prop :=
  ∀ key, ReportsGone c key (run step (init room) acts) ↔ ForwardedAs room acts c key

def Names (c : ℕ) (key : String × String) (g : Gateway) (a : Action) : Prop :=
  ∃ src msg, a = .child c src msg ∧ g.state.conns.contains c = true ∧ produceKey msg = some key

def NamesAny (c : ℕ) (g : Gateway) (a : Action) : Prop := ∃ key, Names c key g a

def SendsAs (c : ℕ) (key : String × String) (g : Gateway) (a : Action) : Prop :=
  ∃ src msg, a = .child c src msg ∧ g.state.conns.contains c = true ∧ g.state.joined = true ∧
    produceKey (rewriteRoom msg g.state.vehicleRoom) = some key

/-- The child has asked for no producer at all; or it has asked in this session, and each request
of this session has, once its room is rewritten, the key that the child's latest request has as
the child wrote it. -/
def Steady (room : String) (acts : List Action) (c : ℕ) : Prop :=
  (∀ key, ¬Since step (Names c key) (NamesAny c) (init room) acts) ∨
    ∃ key, Since step (Names c key) (NamesAny c) (init room) acts ∧
      Since step (SendsAs c key) EndsSession (init room) acts ∧
      ∀ other, Since step (SendsAs c other) EndsSession (init room) acts → other = key

variable {g : Gateway}

lemma produceKey_setRoom {room : String} {msg : SignalingMessage} (h : produceKey msg = none) :
    produceKey (setRoom room msg) = none := by
  cases msg with
  | produce => cases h
  | _ => rfl

lemma produceKey_rewriteRoom {room : String} {msg : SignalingMessage}
    (h : produceKey msg = none) : produceKey (rewriteRoom msg room) = none := by
  simp only [rewriteRoom]
  split
  · split_ifs
    · exact h
    · exact produceKey_setRoom h
  · exact produceKey_setRoom h

lemma upstream_produce (st : State) (c : ℕ) {msg : SignalingMessage} {key : String × String}
    (h : produceKey msg = some key) :
    st.upstream c msg = (st.noteProducer c msg).forward c
      (rewriteRoom msg (st.noteProducer c msg).vehicleRoom) := by
  cases msg with
  | produce => rfl
  | _ => cases h

lemma noteProducer_vehicleRoom (st : State) (c : ℕ) (msg : SignalingMessage) :
    (st.noteProducer c msg).vehicleRoom = st.vehicleRoom := by
  simp only [State.noteProducer]
  split <;> rfl

lemma noteProducer_joined (st : State) (c : ℕ) (msg : SignalingMessage) :
    (st.noteProducer c msg).joined = st.joined := by
  simp only [State.noteProducer]
  split <;> rfl

lemma forward_forwards (st : State) (c : ℕ) (msg m : SignalingMessage) :
    (st.forward c msg).2 = .forward m ↔ st.joined = true ∧ m = msg := by
  rw [State.forward]
  by_cases hj : st.joined = true
  · simp only [hj, not_true_eq_false, if_false, UpstreamAction.forward.injEq, true_and]
    exact eq_comm
  · simp [hj]

lemma upstream_forwards (st : State) (c : ℕ) (msg m : SignalingMessage) {key : String × String}
    (hm : produceKey m = some key) :
    (st.upstream c msg).2 = .forward m ↔ st.joined = true ∧ m = rewriteRoom msg st.vehicleRoom := by
  cases hk : produceKey msg with
  | some k =>
    rw [upstream_produce st c hk, forward_forwards, noteProducer_joined, noteProducer_vehicleRoom]
  | none =>
    have hne : m ≠ rewriteRoom msg st.vehicleRoom := by
      rintro rfl
      rw [produceKey_rewriteRoom hk] at hm
      cases hm
    have hne' : m ≠ msg := by
      rintro rfl
      rw [hk] at hm
      cases hm
    simp only [hne, and_false, iff_false]
    simp only [State.upstream]
    split
    · split_ifs <;> simp
    · simp
    · split_ifs
      · simpa using hne'.symm
      · simp
    · rw [forward_forwards, noteProducer_vehicleRoom]
      exact fun h => hne h.2

lemma push_hi (q : UpstreamQueue) (u : Upbound) :
    (q.push u).hi = if isStatusReport u.msg then q.hi else q.hi ++ [u] := by
  rw [UpstreamQueue.push]
  split_ifs <;> rfl

lemma not_statusReport {m : SignalingMessage} {key : String × String}
    (h : produceKey m = some key) : isStatusReport m = false := by
  cases m with
  | produce => rfl
  | _ => cases h

lemma perform_hi (c d : ℕ) (st : State) (act : UpstreamAction) (m : SignalingMessage)
    {key : String × String} (hm : produceKey m = some key) :
    (g.perform c st act).queue.hi = g.queue.hi ++ [⟨some d, m⟩] ↔ c = d ∧ act = .forward m := by
  cases act with
  | forward m' =>
    rw [perform, push_hi]
    by_cases hr : isStatusReport m' = true
    · have hne : m' ≠ m := by
        rintro rfl
        rw [not_statusReport hm] at hr
        cases hr
      simp [hr, hne]
    · simp [hr, Upbound.mk.injEq]
  | reply m' => simp [perform]
  | drop => simp [perform]

lemma child_forwardsProduce (c d : ℕ) (src : String) (msg : SignalingMessage)
    (key : String × String) :
    ForwardsProduce c key g (.child d src msg) ↔ SendsAs c key g (.child d src msg) := by
  simp only [ForwardsProduce, step, child]
  split_ifs with hc
  · constructor
    · rintro ⟨m, hq, hm⟩
      obtain ⟨rfl, hact⟩ := (perform_hi _ _ _ _ m hm).mp hq
      obtain ⟨hj, rfl⟩ := (upstream_forwards _ _ _ _ hm).mp hact
      exact ⟨src, msg, rfl, hc, hj, hm⟩
    · rintro ⟨_, _, heq, _, hj, hm⟩
      cases heq
      refine ⟨_, (perform_hi _ _ _ _ _ hm).mpr ⟨rfl, ?_⟩, hm⟩
      exact (upstream_forwards _ _ _ _ hm).mpr ⟨hj, rfl⟩
  · constructor
    · rintro ⟨m, hq, _⟩
      simp at hq
    · rintro ⟨_, _, heq, hd, _⟩
      cases heq
      exact absurd hd hc

def Action.FromChild : Action → Prop
  | .child .. | .close .. => True
  | _ => False

lemma hi_not_extended {a : Action} (ha : ¬Action.FromChild a) (c : ℕ) (m : SignalingMessage) :
    (g.step a).queue.hi ≠ g.queue.hi ++ [⟨some c, m⟩] := by
  cases a with
  | child => exact absurd trivial ha
  | close => exact absurd trivial ha
  | accept => simp [step, accept]
  | report msg =>
    simp only [step, sendRemote]
    split_ifs
    · rw [push_hi]
      split_ifs <;> simp
    · simp
    · simp
  | takeConfigPush => simp [step]
  | connect =>
    simp only [step, connect]
    split_ifs <;> simp
  | sendHi =>
    simp only [step, sendHi]
    split
    · simp
    · split_ifs
      · rename_i m' rest h _
        intro heq
        have := congrArg List.length heq
        simp only [h, List.cons_append, List.length_cons, List.length_append] at this
        omega
      · simp
  | sendLo =>
    simp only [step, sendLo]
    split
    · simp
    · split_ifs <;> simp
  | answer msg =>
    simp only [step, answer, receive]
    split
    · simp
    · split_ifs <;> simp
  | remote msg =>
    simp only [step, receive]
    split_ifs <;> simp
  | garbled =>
    simp only [step, receive]
    split_ifs <;> simp
  | deliver =>
    simp only [step, deliver]
    split <;> simp
  | disconnect =>
    simp only [step, disconnect]
    split_ifs <;> simp

lemma forwardsProduce_iff (c : ℕ) (key : String × String) (a : Action) :
    ForwardsProduce c key g a ↔ SendsAs c key g a := by
  by_cases ha : Action.FromChild a
  · cases a with
    | child d src msg => exact child_forwardsProduce c d src msg key
    | close d =>
      constructor
      · rintro ⟨m, hq, hm⟩
        simp only [step, close] at hq
        split at hq
        · rw [push_hi] at hq
          simp only [isStatusReport, Bool.false_eq_true, if_false, List.append_cancel_left_eq,
            List.cons.injEq, Upbound.mk.injEq] at hq
          rw [← hq.1.2] at hm
          cases hm
        · simp at hq
      · rintro ⟨_, _, heq, _⟩
        cases heq
    | _ => cases ha
  · constructor
    · rintro ⟨m, hq, _⟩
      exact absurd hq (hi_not_extended ha c m)
    · rintro ⟨_, _, rfl, _⟩
      exact absurd trivial ha

lemma reportsGone_iff (c : ℕ) (key : String × String) :
    ReportsGone c key g ↔ (g.state.conns.get c).bind Conn.producerKey = some key := by
  simp only [ReportsGone, step, close]
  split
  · rename_i peer room hk
    rw [hk, push_hi]
    simp [isStatusReport, Prod.ext_iff]
  · rename_i hk
    rw [hk]
    simp

lemma names_child (c d : ℕ) (key : String × String) (src : String) (msg : SignalingMessage) :
    Names c key g (.child d src msg) ↔
      d = c ∧ g.state.conns.contains c = true ∧ produceKey msg = some key := by
  constructor
  · rintro ⟨_, _, heq, hc, hm⟩
    cases heq
    exact ⟨rfl, hc, hm⟩
  · rintro ⟨rfl, hc, hm⟩
    exact ⟨src, msg, rfl, hc, hm⟩

lemma not_names {a : Action} (ha : ¬Action.FromChild a) (c : ℕ) (key : String × String) :
    ¬Names c key g a := by
  rintro ⟨_, _, rfl, _⟩
  exact ha trivial

def keyOf (g : Gateway) (c : ℕ) : Option (String × String) :=
  (g.state.conns.get c).bind Conn.producerKey

structure Recorded (room : String) (acts : List Action) (g : Gateway) : Prop where
  numbered : ∀ c, g.state.conns.contains c = true → c < g.state.nextId
  fresh : ∀ c key, g.state.nextId ≤ c → ¬Since step (Names c key) (NamesAny c) (init room) acts
  latest : ∀ c key, g.state.conns.contains c = true →
    (keyOf g c = some key ↔ Since step (Names c key) (NamesAny c) (init room) acts)

def recordedKey (c d : ℕ) (msg : SignalingMessage) (k : Conn) : Option (String × String) :=
  if c = d then (produceKey msg).or k.producerKey else k.producerKey

lemma noteProducer_keys (st : State) (c d : ℕ) (msg : SignalingMessage) :
    ((st.noteProducer d msg).conns.get c).map Conn.producerKey =
      (st.conns.get c).map (recordedKey c d msg) := by
  cases hk : produceKey msg with
  | some key =>
    cases msg with
    | produce =>
      cases hk
      simp only [State.noteProducer, FiniteMap.get_adjust]
      split_ifs with h
      · cases st.conns.get c <;> simp [recordedKey, h, produceKey]
      · cases st.conns.get c <;> simp [recordedKey, h]
    | _ => cases hk
  | none =>
    have hn : st.noteProducer d msg = st := by
      cases msg with
      | produce => cases hk
      | _ => rfl
    rw [hn]
    cases st.conns.get c <;> simp [recordedKey, hk]

lemma forward_conns (st : State) (c : ℕ) (msg : SignalingMessage) :
    (st.forward c msg).1.conns = st.conns := by
  simp only [State.forward, State.cacheEcho]
  split_ifs <;> rfl

lemma forward_nextId (st : State) (c : ℕ) (msg : SignalingMessage) :
    (st.forward c msg).1.nextId = st.nextId := by
  simp only [State.forward, State.cacheEcho]
  split_ifs <;> rfl

lemma noteProducer_nextId (st : State) (c : ℕ) (msg : SignalingMessage) :
    (st.noteProducer c msg).nextId = st.nextId := by
  simp only [State.noteProducer]
  split <;> rfl

lemma get_adjust_key (conns : FiniteMap ℕ Conn) (c d : ℕ) (f : Conn → Conn)
    (hf : ∀ k, (f k).producerKey = k.producerKey) :
    ((conns.adjust d f).get c).map Conn.producerKey = (conns.get c).map Conn.producerKey := by
  rw [FiniteMap.get_adjust]
  split_ifs
  · cases conns.get c <;> simp [hf]
  · rfl

lemma upstream_keys (st : State) (c d : ℕ) (msg : SignalingMessage) :
    ((st.upstream d msg).1.conns.get c).map Conn.producerKey =
      (st.conns.get c).map (recordedKey c d msg) := by
  rw [← noteProducer_keys st c d msg]
  simp only [State.upstream]
  split
  · split_ifs
    · exact get_adjust_key _ c d _ (fun _ => rfl)
    · exact get_adjust_key _ c d _ (fun _ => rfl)
  · rfl
  · split_ifs <;> rfl
  · rw [forward_conns]

lemma upstream_nextId (st : State) (d : ℕ) (msg : SignalingMessage) :
    (st.upstream d msg).1.nextId = st.nextId := by
  rw [← noteProducer_nextId st d msg]
  simp only [State.upstream]
  split
  · split_ifs <;> rfl
  · rfl
  · split_ifs <;> rfl
  · rw [forward_nextId]

lemma perform_state (c : ℕ) (st : State) (act : UpstreamAction) :
    (g.perform c st act).state = st := by
  cases act <;> rfl

lemma child_keys (c d : ℕ) (src : String) (msg : SignalingMessage)
    (hd : g.state.conns.contains d = true) :
    ((g.step (.child d src msg)).state.conns.get c).map Conn.producerKey =
      (g.state.conns.get c).map (recordedKey c d msg) := by
  simp only [step, child, if_pos hd, perform_state, upstream_keys, FiniteMap.get_adjust]
  split_ifs
  · cases g.state.conns.get c <;> simp [recordedKey]
  · rfl

lemma child_nextId (d : ℕ) (src : String) (msg : SignalingMessage) :
    (g.step (.child d src msg)).state.nextId = g.state.nextId := by
  simp only [step, child]
  split_ifs
  · rw [perform_state, upstream_nextId]
  · rfl

lemma downstream_conns (st : State) (msg : SignalingMessage) :
    (st.downstream msg).1.conns = st.conns ∧ (st.downstream msg).1.nextId = st.nextId := by
  simp only [State.downstream, State.routeResponse]
  split_ifs
  · exact ⟨rfl, rfl⟩
  · split
    · split <;> exact ⟨rfl, rfl⟩
    · split <;> exact ⟨rfl, rfl⟩
    · split <;> exact ⟨rfl, rfl⟩
    · split <;> exact ⟨rfl, rfl⟩
    · split <;> exact ⟨rfl, rfl⟩
    · exact ⟨rfl, rfl⟩
    · exact ⟨rfl, rfl⟩
    · split_ifs <;> exact ⟨rfl, rfl⟩
    · exact ⟨rfl, rfl⟩

lemma receive_state (e : Event) : (g.receive e).state = g.state := by
  rw [receive]
  split_ifs <;> rfl

lemma step_conns {a : Action} (ha : ¬Action.FromChild a) (hn : a ≠ .accept) :
    (g.step a).state.conns = g.state.conns ∧ (g.step a).state.nextId = g.state.nextId := by
  cases a with
  | child => exact absurd trivial ha
  | close => exact absurd trivial ha
  | accept => exact absurd rfl hn
  | report msg =>
    simp only [step, sendRemote]
    split_ifs <;> exact ⟨rfl, rfl⟩
  | takeConfigPush => exact ⟨rfl, rfl⟩
  | connect =>
    simp only [step, connect]
    split_ifs <;> exact ⟨rfl, rfl⟩
  | sendHi =>
    simp only [step, sendHi]
    split
    · exact ⟨rfl, rfl⟩
    · split_ifs <;> exact ⟨rfl, rfl⟩
  | sendLo =>
    simp only [step, sendLo]
    split
    · exact ⟨rfl, rfl⟩
    · split_ifs <;> exact ⟨rfl, rfl⟩
  | answer msg =>
    simp only [step, answer]
    split
    · exact ⟨rfl, rfl⟩
    · split_ifs
      · rw [receive_state]
        exact ⟨rfl, rfl⟩
      · exact ⟨rfl, rfl⟩
  | remote msg =>
    simp [step, receive_state]
  | garbled =>
    simp [step, receive_state]
  | deliver =>
    simp only [step, deliver]
    split
    · exact ⟨rfl, rfl⟩
    · exact ⟨rfl, rfl⟩
    · exact downstream_conns _ _
  | disconnect =>
    simp only [step, disconnect]
    split_ifs <;> exact ⟨rfl, rfl⟩

variable {room : String} {acts : List Action}

lemma keyOf_eq_map (c : ℕ) (key : String × String) :
    keyOf g c = some key ↔ (g.state.conns.get c).map Conn.producerKey = some (some key) := by
  rw [keyOf]
  cases g.state.conns.get c <;> simp

lemma since_names_snoc {a : Action} {c : ℕ}
    (hn : ∀ key, ¬Names c key (run step (init room) acts) a) (key : String × String) :
    Since step (Names c key) (NamesAny c) (init room) (acts ++ [a]) ↔
      Since step (Names c key) (NamesAny c) (init room) acts := by
  rw [since_snoc]
  constructor
  · rintro (h | h)
    · exact absurd h (hn key)
    · exact h.1
  · intro h
    exact Or.inr ⟨h, fun ⟨k, hk⟩ => hn k hk⟩

lemma recorded_same {a : Action} (h : Recorded room acts (run step (init room) acts))
    (hn : ∀ c key, ¬Names c key (run step (init room) acts) a)
    (hc : (step (run step (init room) acts) a).state.conns = (run step (init room) acts).state.conns)
    (hi : (step (run step (init room) acts) a).state.nextId =
      (run step (init room) acts).state.nextId) :
    Recorded room (acts ++ [a]) (step (run step (init room) acts) a) where
  numbered := by
    intro c
    rw [hc, hi]
    exact h.numbered c
  fresh := by
    intro c key
    rw [hi, since_names_snoc (hn c)]
    exact h.fresh c key
  latest := by
    intro c key
    rw [keyOf, hc, since_names_snoc (hn c)]
    exact h.latest c key

lemma recorded_accept (h : Recorded room acts (run step (init room) acts)) :
    Recorded room (acts ++ [.accept]) (step (run step (init room) acts) .accept) := by
  have hn : ∀ c key, ¬Names c key (run step (init room) acts) .accept := by
    intro c key
    apply not_names
    exact id
  generalize hg : run step (init room) acts = g at h hn
  constructor
  · intro c hc
    simp only [step, accept, FiniteMap.contains_iff, FiniteMap.get_set] at hc ⊢
    split_ifs at hc with heq
    · omega
    · have := h.numbered c ((FiniteMap.contains_iff _ _).mpr hc)
      omega
  · intro c key hle
    rw [since_names_snoc (by rw [hg]; exact hn c)]
    apply h.fresh
    simp only [step, accept] at hle
    omega
  · intro c key hc
    rw [since_names_snoc (by rw [hg]; exact hn c)]
    simp only [step, accept, FiniteMap.contains_iff, FiniteMap.get_set, keyOf] at hc ⊢
    split_ifs with heq
    · simp only [Option.bind_some, reduceCtorEq, false_iff]
      exact h.fresh c key heq.ge
    · rw [if_neg heq] at hc
      exact h.latest c key ((FiniteMap.contains_iff _ _).mpr hc)

lemma recorded_close (d : ℕ) (h : Recorded room acts (run step (init room) acts)) :
    Recorded room (acts ++ [.close d]) (step (run step (init room) acts) (.close d)) := by
  have hn : ∀ c key, ¬Names c key (run step (init room) acts) (.close d) := by
    rintro c key ⟨_, _, heq, _⟩
    cases heq
  generalize hg : run step (init room) acts = g at h hn
  have hconns : ∀ c, (step g (.close d)).state.conns.contains c = true →
      g.state.conns.contains c = true ∧ keyOf (step g (.close d)) c = keyOf g c := by
    intro c hc
    simp only [step, close, State.removeConn, FiniteMap.contains_iff, FiniteMap.get_remove,
      keyOf] at hc ⊢
    split_ifs at hc ⊢ with heq
    · obtain ⟨_, hfalse⟩ := hc
      cases hfalse
    · exact ⟨hc, rfl⟩
  constructor
  · intro c hc
    exact h.numbered c (hconns c hc).1
  · intro c key hle
    rw [since_names_snoc (by rw [hg]; exact hn c)]
    exact h.fresh c key hle
  · intro c key hc
    rw [since_names_snoc (by rw [hg]; exact hn c), (hconns c hc).2]
    exact h.latest c key (hconns c hc).1

lemma recorded_child (d : ℕ) (src : String) (msg : SignalingMessage)
    (h : Recorded room acts (run step (init room) acts)) :
    Recorded room (acts ++ [.child d src msg])
      (step (run step (init room) acts) (.child d src msg)) := by
  generalize hg : run step (init room) acts = g at h
  by_cases hd : g.state.conns.contains d = true
  · have hkeys := fun c => child_keys c d src msg hd
    have hcontains : ∀ c, (step g (.child d src msg)).state.conns.contains c =
        g.state.conns.contains c := by
      intro c
      have := congrArg Option.isSome (hkeys c)
      simpa [FiniteMap.contains] using this
    constructor
    · intro c hc
      rw [hcontains] at hc
      rw [child_nextId]
      exact h.numbered c hc
    · intro c key hle
      rw [child_nextId] at hle
      have hne : d ≠ c := by
        rintro rfl
        exact absurd (h.numbered d hd) (not_lt.mpr hle)
      rw [since_names_snoc]
      · exact h.fresh c key hle
      · intro k hk
        exact hne ((names_child c d k src msg).mp hk).1
    · intro c key hc
      rw [hcontains] at hc
      rw [since_snoc, hg, names_child, ← h.latest c key hc, keyOf_eq_map, hkeys, keyOf_eq_map]
      have hany : NamesAny c g (.child d src msg) ↔ d = c ∧ ∃ k, produceKey msg = some k := by
        simp only [NamesAny, names_child, hc, true_and, exists_and_left]
      rw [hany]
      obtain ⟨k, hk⟩ := Option.isSome_iff_exists.mp hc
      rw [hk]
      by_cases heq : c = d
      · cases hm : produceKey msg <;> simp [recordedKey, heq, hm, hd]
      · simp [recordedKey, heq, Ne.symm heq]
  · have hsame : g.step (.child d src msg) = g := if_neg hd
    subst hg
    apply recorded_same h
    · intro c key hk
      obtain ⟨rfl, hc, _⟩ := (names_child c d key src msg).mp hk
      exact hd hc
    · rw [hsame]
    · rw [hsame]

theorem run_recorded (room : String) (acts : List Action) :
    Recorded room acts (run step (init room) acts) := by
  apply history_invariant (P := fun _ => True)
  · constructor
    · intro c hc
      simp [init, State.init] at hc
    · intro c key _
      exact not_since_nil
    · intro c key hc
      simp [init, State.init] at hc
  · intro as a _ h
    by_cases ha : Action.FromChild a
    · cases a with
      | child d src msg => exact recorded_child d src msg h
      | close d => exact recorded_close d h
      | _ => cases ha
    · by_cases hacc : a = .accept
      · subst hacc
        exact recorded_accept h
      · obtain ⟨hc, hi⟩ := step_conns (g := run step (init room) as) ha hacc
        exact recorded_same h (fun c key => not_names ha c key) hc hi
  · simp

lemma forwardedAs_iff (c : ℕ) (key : String × String) :
    ForwardedAs room acts c key ↔ Since step (SendsAs c key) EndsSession (init room) acts := by
  have : ForwardsProduce c key = SendsAs c key := by
    funext g a
    exact propext (forwardsProduce_iff c key a)
  rw [ForwardedAs, this]

lemma SendsAs.namesAny {c : ℕ} {key : String × String} {a : Action} (h : SendsAs c key g a) :
    NamesAny c g a := by
  obtain ⟨src, msg, rfl, hc, _, hm⟩ := h
  cases hk : produceKey msg with
  | some k => exact ⟨k, src, msg, rfl, hc, hk⟩
  | none =>
    rw [produceKey_rewriteRoom hk] at hm
    cases hm

theorem report_complete_iff (room : String) (acts : List Action) (c : ℕ)
    (hc : (run step (init room) acts).state.conns.contains c = true) :
    ReportComplete room acts c ↔ Steady room acts c := by
  have hlast := (run_recorded room acts).latest c
  have hrep : ∀ key, ReportsGone c key (run step (init room) acts) ↔
      Since step (Names c key) (NamesAny c) (init room) acts := by
    intro key
    rw [reportsGone_iff, ← hlast key hc, keyOf]
  simp only [ReportComplete, Steady, hrep, forwardedAs_iff]
  constructor
  · intro h
    by_cases hsome : ∃ key, Since step (Names c key) (NamesAny c) (init room) acts
    · obtain ⟨key, hk⟩ := hsome
      refine Or.inr ⟨key, hk, (h key).mp hk, ?_⟩
      intro other ho
      have hother := (hlast other hc).mpr ((h other).mpr ho)
      rw [(hlast key hc).mpr hk] at hother
      exact (Option.some.inj hother).symm
    · left
      intro key hk
      exact hsome ⟨key, hk⟩
  · rintro (hnone | ⟨key, hk, hs, honly⟩) other
    · constructor
      · intro ho
        exact absurd ho (hnone other)
      · rintro ⟨as, a, bs, rfl, ha, _⟩
        obtain ⟨key, hk⟩ := exists_last ⟨as, a, bs, rfl, ha.namesAny⟩
        exact absurd hk (hnone key)
    · constructor
      · intro ho
        have hother := (hlast other hc).mpr ho
        rw [(hlast key hc).mpr hk] at hother
        obtain rfl := Option.some.inj hother
        exact hs
      · intro ho
        rw [honly other ho]
        exact hk

def produceIn (room : String) : SignalingMessage :=
  .produce room "host" .send .video ⟨"null"⟩ none none

def oneProducer (room : String) : List Action :=
  [.connect "car" 3 none, .accept, .child 1 "streamer" (produceIn room)]

lemma oneProducer_sends (room : String) (key : String × String)
    (h : produceKey (rewriteRoom (produceIn room) "vehicle") = some key) :
    Since step (SendsAs 1 key) EndsSession (init "vehicle") (oneProducer room) := by
  refine ⟨[.connect "car" 3 none, .accept], _, [], rfl, ?_, trivial⟩
  exact ⟨"streamer", produceIn room, rfl, rfl, rfl, h⟩

theorem report_complete_vehicle_room : ReportComplete "vehicle" (oneProducer "vehicle") 1 := by
  apply (report_complete_iff "vehicle" (oneProducer "vehicle") 1 (by decide)).mpr
  refine Or.inr ⟨("host", "vehicle"), ?_, oneProducer_sends _ _ (by decide), ?_⟩
  · refine ⟨[.connect "car" 3 none, .accept], _, [], rfl, ?_, trivial⟩
    exact ⟨"streamer", produceIn "vehicle", rfl, rfl, rfl⟩
  · intro other hs
    change Since step _ _ _ ((([] ++ [.connect "car" 3 none]) ++ [.accept]) ++ [_]) at hs
    simp only [since_snoc, not_since_nil, false_and, or_false] at hs
    rcases hs with h | ⟨⟨_, _, heq, _⟩ | ⟨⟨_, _, heq, _⟩, _⟩, _⟩
    · obtain ⟨_, _, heq, _, _, hm⟩ := h
      cases heq
      exact (Option.some.inj hm).symm
    · cases heq
    · cases heq

/-- A room that the gateway rewrites: the server knows the producer under the vehicle's room, the
report names the room that the child wrote. -/
theorem rewritten_room_unreported :
    ¬∀ (room : String) (acts : List Action) (c : ℕ),
      (run step (init room) acts).state.conns.contains c = true → ReportComplete room acts c := by
  intro h
  have hf : ForwardedAs "vehicle" (oneProducer "front") 1 ("host", "vehicle") :=
    (forwardedAs_iff _ _).mpr (oneProducer_sends _ _ (by decide))
  have hr := (h "vehicle" (oneProducer "front") 1 (by decide) ("host", "vehicle")).mpr hf
  revert hr
  rw [ReportsGone]
  decide

end Gateway

end MediaServo.Host
