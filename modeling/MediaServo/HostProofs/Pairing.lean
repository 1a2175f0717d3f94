import MediaServo.Host.Remote

/-! Pairing of answers with requests: the pending queue against the requests that are in flight,
over every interleaving of children, server and reconnects. -/

namespace MediaServo.Host

open MediaServo.Foundations MediaServo.Common

def slot (connId : ℕ) : UpstreamAction → List ℕ
  | .forward msg => if isSfuRequest msg then [connId] else []
  | _ => []

namespace State

variable (st : State)

lemma noteProducer_pending (connId : ℕ) (msg : SignalingMessage) :
    (st.noteProducer connId msg).pending = st.pending := by
  simp only [noteProducer]
  split <;> rfl

lemma cacheEcho_pending (msg : SignalingMessage) : (st.cacheEcho msg).pending = st.pending := by
  rw [cacheEcho]
  split_ifs <;> rfl

lemma forward_pending (connId : ℕ) (msg : SignalingMessage) :
    (st.forward connId msg).1.pending = st.pending ++ slot connId (st.forward connId msg).2 := by
  rw [forward]
  split_ifs with hj hs
  · rw [cacheEcho_pending]
    simp [slot, hs]
  · rw [cacheEcho_pending]
    simp [slot, hs]
  · simp [slot]

lemma upstream_pending (connId : ℕ) (msg : SignalingMessage) :
    (st.upstream connId msg).1.pending = st.pending ++ slot connId (st.upstream connId msg).2 := by
  rw [← st.noteProducer_pending connId msg]
  unfold upstream
  generalize st.noteProducer connId msg = noted
  dsimp only
  split
  · split_ifs <;> simp [slot]
  · simp [slot]
  · split_ifs <;> simp [slot, isSfuRequest]
  · apply forward_pending

lemma downstream_fifo {msg : SignalingMessage} (h : isFifoResponse msg = true) :
    st.downstream msg = st.routeResponse msg := by
  cases msg with
  | webRtcTransportCreated => simp [downstream, isRelayMsg]
  | produced => simp [downstream, isRelayMsg]
  | consumed => simp [downstream, isRelayMsg]
  | error => simp [downstream, isRelayMsg]
  | sfuStats => simp [downstream, isRelayMsg]
  | _ => cases h

lemma downstream_pending {msg : SignalingMessage} (h : isFifoResponse msg = false) :
    (st.downstream msg).1.pending = st.pending := by
  simp only [downstream]
  split_ifs
  · rfl
  · split
    · cases h
    · cases h
    · cases h
    · cases h
    · cases h
    · rfl
    · rfl
    · split_ifs <;> rfl
    · rfl

end State

/-- The server answers the requests of the gateway and nothing else with the messages that the
gateway pairs. -/
def OneForOne : Action → Prop
  | .answer msg => isFifoResponse msg = true
  | .remote msg => isFifoResponse msg = false
  | _ => True

def Action.Arrives : Action → Prop
  | .answer _ | .remote _ | .garbled => True
  | _ => False

/-- The event that an arrival pushes out of a full channel answers no request. -/
def NoAnswerLost (g : Gateway) (a : Action) : Prop :=
  a.Arrives → eventCap ≤ g.events.length → ∀ e ∈ g.events.head?, e.answers? = none

structure Paired (g : Gateway) : Prop where
  pending : g.state.pending = g.inFlight.map Prod.fst
  tagged : ∀ {q msg}, Event.message q msg ∈ g.events → (q.isSome = true ↔ isFifoResponse msg = true)

lemma Paired.of_eq {g h : Gateway} (hg : Paired g) (hp : h.state.pending = g.state.pending)
    (he : h.events = g.events) (hf : h.inFlight = g.inFlight) : Paired h :=
  ⟨by rw [hp, hf, hg.pending], fun hm => hg.tagged (he ▸ hm)⟩

namespace Gateway

variable {g : Gateway}

lemma push_requests (q : UpstreamQueue) (m : Upbound) :
    (q.push m).hi.filterMap Upbound.request =
      q.hi.filterMap Upbound.request ++ m.request.toList := by
  rw [UpstreamQueue.push]
  by_cases hr : isStatusReport m.msg = true
  · have hnone : m.request = none := by
      obtain ⟨o, msg⟩ := m
      cases msg <;> first | rfl | cases hr
    rw [if_pos hr, hnone]
    split_ifs <;> simp
  · rw [if_neg hr, List.filterMap_append]
    rfl

lemma perform_paired (hg : Paired g) {connId : ℕ} {st : State} {act : UpstreamAction}
    (hp : st.pending = g.state.pending ++ slot connId act) : Paired (g.perform connId st act) := by
  cases act with
  | forward m =>
    refine ⟨?_, hg.tagged⟩
    have hin : (g.perform connId st (.forward m)).inFlight =
        g.inFlight ++ (Upbound.request ⟨some connId, m⟩).toList := by
      rw [perform, inFlight, push_requests, inFlight, List.append_assoc (_ ++ _)]
    change st.pending = _
    rw [hin, List.map_append, ← hg.pending, hp]
    congr 1
    by_cases hs : isSfuRequest m = true
    · simp [slot, Upbound.request, hs]
    · simp [slot, Upbound.request, hs]
  | reply m => exact hg.of_eq (hp.trans (List.append_nil _)) rfl rfl
  | drop => exact hg.of_eq (hp.trans (List.append_nil _)) rfl rfl

lemma child_paired (hg : Paired g) (connId : ℕ) (src : String) (msg : SignalingMessage) :
    Paired (g.child connId src msg) := by
  rw [child]
  split_ifs
  · apply perform_paired hg
    exact State.upstream_pending { g.state with
      conns := g.state.conns.adjust connId ({ · with src := src }) } connId msg
  · exact hg

lemma close_paired (hg : Paired g) (connId : ℕ) : Paired (g.close connId) := by
  refine hg.of_eq rfl rfl ?_
  rw [close, inFlight, inFlight]
  congr 1
  dsimp only
  split
  · rw [push_requests]
    simp [Upbound.request, isSfuRequest]
  · rfl

lemma report_paired (hg : Paired g) {msg : SignalingMessage} (hm : isReport msg = true) :
    Paired (g.sendRemote msg) := by
  rw [sendRemote]
  split_ifs
  · refine hg.of_eq rfl rfl ?_
    rw [inFlight, inFlight, push_requests]
    cases msg <;> simp [Upbound.request]
  · exact hg

lemma sendHi_paired (hg : Paired g) : Paired g.sendHi := by
  rw [sendHi]
  split
  · exact hg
  · rename_i m rest hhi
    split_ifs
    · refine hg.of_eq rfl rfl ?_
      rw [inFlight, inFlight, hhi]
      cases hm : m.request <;> simp [hm]
    · exact hg

lemma sendLo_paired (hg : Paired g) : Paired g.sendLo := by
  rw [sendLo]
  split
  · exact hg
  · split_ifs
    · exact hg.of_eq rfl rfl rfl
    · exact hg

lemma receive_paired {e : Event} {left : List Request} (hg : Paired g)
    (hleft : g.requests = e.answers?.toList ++ left)
    (htag : ∀ {q msg}, e = .message q msg → (q.isSome = true ↔ isFifoResponse msg = true))
    (hroom : eventCap ≤ g.events.length → ∀ d ∈ g.events.head?, d.answers? = none)
    (hj : g.state.joined = true) : Paired (({ g with requests := left }).receive e) := by
  have hflight : ∀ es : List Event, es.filterMap Event.answers? = g.events.filterMap Event.answers? →
      Gateway.inFlight { g with requests := left, events := es ++ [e] } = g.inFlight := by
    intro es hes
    rw [inFlight, inFlight, hleft, List.filterMap_append, hes]
    cases ha : e.answers? <;> simp [ha]
  have hmem : ∀ {es : List Event} {q msg}, (∀ d ∈ es, d ∈ g.events) →
      Event.message q msg ∈ es ++ [e] → (q.isSome = true ↔ isFifoResponse msg = true) := by
    intro es q msg hes hm
    obtain hm | hm := List.mem_append.mp hm
    · exact hg.tagged (hes _ hm)
    · exact htag (List.mem_singleton.mp hm).symm
  rw [receive]
  rw [if_neg (not_not.mpr hj)]
  split_ifs with hlen
  · exact ⟨by rw [hflight g.events rfl]; exact hg.pending, hmem (fun _ hd => hd)⟩
  · have htail : g.events.tail.filterMap Event.answers? = g.events.filterMap Event.answers? := by
      have hd := hroom (not_lt.mp hlen)
      cases hev : g.events with
      | nil => rfl
      | cons d es =>
        rw [hev] at hd
        rw [List.tail_cons, List.filterMap_cons, hd d rfl]
    exact ⟨by rw [hflight _ htail]; exact hg.pending, hmem (fun _ hd => List.mem_of_mem_tail hd)⟩

lemma receive_of_not_joined (e : Event) (hj : g.state.joined ≠ true) : g.receive e = g := by
  rw [receive, if_pos hj]

lemma answer_paired (hg : Paired g) {msg : SignalingMessage} (hm : isFifoResponse msg = true)
    (hroom : eventCap ≤ g.events.length → ∀ d ∈ g.events.head?, d.answers? = none) :
    Paired (g.answer msg) := by
  rw [answer]
  split
  · exact hg
  · rename_i q rest hq
    split_ifs with hj
    · refine receive_paired hg hq ?_ hroom hj
      intro q' msg' he
      cases he
      simp [hm]
    · exact hg

lemma remote_paired (hg : Paired g) {e : Event} (he : e.answers? = none)
    (htag : ∀ {q msg}, e = .message q msg → (q.isSome = true ↔ isFifoResponse msg = true))
    (hroom : eventCap ≤ g.events.length → ∀ d ∈ g.events.head?, d.answers? = none) :
    Paired (g.receive e) := by
  by_cases hj : g.state.joined = true
  · exact receive_paired hg (by rw [he]; rfl) htag hroom hj
  · rw [receive_of_not_joined e hj]
    exact hg

lemma deliver_paired (hg : Paired g) : Paired g.deliver := by
  rw [deliver]
  split
  · exact hg
  · rename_i rest hev
    refine ⟨?_, fun hm => hg.tagged (hev ▸ List.mem_cons_of_mem _ hm)⟩
    rw [hg.pending, inFlight, inFlight, hev]
    rfl
  · rename_i q msg rest hev
    have htag := hg.tagged (hev ▸ List.mem_cons_self)
    refine ⟨?_, fun hm => hg.tagged (hev ▸ List.mem_cons_of_mem _ hm)⟩
    have hpend := hg.pending
    rw [inFlight, hev] at hpend
    cases q with
    | none =>
      have hfifo : isFifoResponse msg = false := by
        simpa using htag
      change (g.state.downstream msg).1.pending = _
      rw [State.downstream_pending _ hfifo, hpend]
      rfl
    | some q =>
      have hhead : g.state.pending = q.1 ::
          (Gateway.inFlight { g with events := rest }).map Prod.fst := hpend
      change (g.state.downstream msg).1.pending = _
      rw [State.downstream_fifo _ (htag.mp rfl), State.routeResponse, hhead]
      rfl

lemma disconnect_paired (hg : Paired g) : Paired g.disconnect := by
  rw [disconnect]
  split_ifs
  · exact ⟨rfl, fun hm => by cases hm⟩
  · exact hg

theorem step_paired (hg : Paired g) {a : Action} (henv : OneForOne a) (hroom : NoAnswerLost g a) :
    Paired (g.step a) := by
  cases a with
  | accept => exact hg.of_eq rfl rfl rfl
  | child connId src msg => exact child_paired hg connId src msg
  | close connId => exact close_paired hg connId
  | report msg =>
    rw [step]
    split_ifs with hm
    · exact report_paired hg hm
    · exact hg
  | takeConfigPush => exact hg.of_eq rfl rfl rfl
  | connect peerId negotiated nonce =>
    rw [step, connect]
    split_ifs
    · exact hg
    · exact hg.of_eq rfl rfl rfl
    · exact hg.of_eq rfl rfl rfl
  | sendHi => exact sendHi_paired hg
  | sendLo => exact sendLo_paired hg
  | answer msg => exact answer_paired hg henv (hroom trivial)
  | remote msg =>
    refine remote_paired hg rfl ?_ (hroom trivial)
    intro q m he
    cases he
    have hf : isFifoResponse msg = false := henv
    simp [hf]
  | garbled => exact remote_paired hg rfl (fun he => by cases he) (hroom trivial)
  | deliver => exact deliver_paired hg
  | disconnect => exact disconnect_paired hg

lemma run_paired {room : String} {acts : List Action} (henv : ∀ a ∈ acts, OneForOne a)
    (hroom : Along step NoAnswerLost (.init room) acts) : Paired (run step (.init room) acts) := by
  have hinit : Paired (.init room) := ⟨rfl, fun hm => by cases hm⟩
  generalize Gateway.init room = g at hinit hroom
  induction acts generalizing g with
  | nil => exact hinit
  | cons a acts ih =>
    apply ih (fun b hb => henv b (List.mem_cons_of_mem _ hb))
    · exact step_paired hinit (henv a List.mem_cons_self) hroom.1
    · exact hroom.2

lemma deliver_answer (hg : Paired g) {q : Option Request} {msg : SignalingMessage}
    {rest : List Event} (hev : g.events = .message q msg :: rest)
    (hm : isFifoResponse msg = true) :
    ∃ connId request, q = some (connId, request) ∧
      g.deliver.delivered = g.delivered ++ match g.state.conns.get connId with
        | some conn => [(connId, rewriteRoom msg conn.room)]
        | none => [] := by
  have htag := hg.tagged (hev ▸ List.mem_cons_self)
  obtain ⟨⟨connId, request⟩, rfl⟩ := Option.isSome_iff_exists.mp (htag.mpr hm)
  refine ⟨connId, request, rfl, ?_⟩
  have hpend := hg.pending
  rw [inFlight, hev] at hpend
  have hhead : g.state.pending = connId ::
      (Gateway.inFlight { g with events := rest }).map Prod.fst := hpend
  rw [deliver, hev]
  dsimp only
  rw [State.downstream_fifo _ hm, State.routeResponse]
  cases hc : g.state.conns.get connId <;> simp only [hhead, hc]

end Gateway

theorem fifo_pairing (room : String) (acts : List Action) (henv : ∀ a ∈ acts, OneForOne a)
    (hroom : Along Gateway.step NoAnswerLost (.init room) acts) :
    (run Gateway.step (.init room) acts).state.pending =
        (run Gateway.step (.init room) acts).inFlight.map Prod.fst ∧
      ∀ as bs, acts = as ++ .deliver :: bs → ∀ q msg rest,
        (run Gateway.step (.init room) as).events = .message q msg :: rest →
        isFifoResponse msg = true →
        ∃ connId request, q = some (connId, request) ∧
          (run Gateway.step (.init room) (as ++ [.deliver])).delivered =
            (run Gateway.step (.init room) as).delivered ++
              match (run Gateway.step (.init room) as).state.conns.get connId with
              | some conn => [(connId, rewriteRoom msg conn.room)]
              | none => [] := by
  refine ⟨(Gateway.run_paired henv hroom).pending, ?_⟩
  rintro as bs rfl q msg rest hev hm
  have has : Paired (run Gateway.step (.init room) as) := by
    apply Gateway.run_paired
    · exact fun a ha => henv a (List.mem_append_left _ ha)
    · exact ((along_append as _).mp hroom).1
  rw [run_snoc]
  exact Gateway.deliver_answer has hev hm

instance : DecidablePred OneForOne
  | .answer _ => inferInstanceAs (Decidable (_ = _))
  | .remote _ => inferInstanceAs (Decidable (_ = _))
  | .accept | .child _ _ _ | .close _ | .report _ | .takeConfigPush | .connect _ _ _ | .sendHi
  | .sendLo | .garbled | .deliver | .disconnect => isTrue trivial

def createTransport : SignalingMessage := .createWebRtcTransport "vehicle" "host" .send

def twoChildren : List Action :=
  [.accept, .accept, .connect "v" 3 none, .child 1 "cam0" createTransport,
    .child 2 "cam1" createTransport, .sendHi, .sendHi, .close 1, .answer (.produced "vehicle" "x"),
    .answer (.produced "vehicle" "y"), .deliver, .deliver]

lemma noAnswerLost_of_short {g : Gateway} {a : Action} (h : g.events.length < eventCap) :
    NoAnswerLost g a :=
  fun _ hfull => absurd hfull (not_le.mpr h)

theorem fifo_pairing_two_children :
    (∀ a ∈ twoChildren, OneForOne a) ∧
      Along Gateway.step NoAnswerLost (.init "vehicle") twoChildren ∧
      (run Gateway.step (.init "vehicle") twoChildren).state.pending =
        (run Gateway.step (.init "vehicle") twoChildren).inFlight.map Prod.fst ∧
      (run Gateway.step (.init "vehicle") twoChildren).delivered = [(2, .produced "" "y")] := by
  have henv : ∀ a ∈ twoChildren, OneForOne a := by decide
  have hroom : Along Gateway.step NoAnswerLost (.init "vehicle") twoChildren := by
    refine ⟨?_, ?_, ?_, ?_, ?_, ?_, ?_, ?_, ?_, ?_, ?_, ?_, trivial⟩ <;>
      exact noAnswerLost_of_short (by decide)
  exact ⟨henv, hroom, (fifo_pairing "vehicle" twoChildren henv hroom).1, by decide⟩

def flooded : List Action :=
  ([.accept, .accept, .connect "v" 3 none, .child 1 "cam0" createTransport, .sendHi,
      .answer (.produced "vehicle" "x")] : List Action) ++
    List.replicate 64 (Action.remote (.newProducer "vehicle" "z" "p" .video none)) ++
    List.replicate 64 Action.deliver ++
    ([.child 2 "cam1" createTransport, .sendHi, .answer (.produced "vehicle" "y"), .deliver] :
      List Action)

theorem answer_misdelivered :
    (∀ a ∈ flooded, OneForOne a) ∧
      (run Gateway.step (.init "vehicle") flooded).delivered.filter
        (fun d => isFifoResponse d.2) = [(1, .produced "" "y")] ∧
      (run Gateway.step (.init "vehicle") flooded).inFlight = [] ∧
      (run Gateway.step (.init "vehicle") flooded).state.pending = [2] := by
  decide +kernel

end MediaServo.Host
