import MediaServo.ClientProofs.CallTurns

/-! Whose answer a call takes. What the link, the relay and the supervisor do keeps the stream of a
waiting call settled, so a call of an orderly run goes on with the answers to its own requests. -/

namespace MediaServo.Client

open MediaServo.Foundations MediaServo.Common

variable {rx : Receiver} {cap : ℕ} {x : Tagged} {r : Request} {q : ℕ} {e : Prop}
  {before after : List (Option ℕ × Verdict)}

lemma settled_send (h : Settled q e (rx.lost ++ (rx.queue.map r.view ++ r.view x :: after))) :
    Settled q e ((rx.send cap x).lost ++ ((rx.send cap x).queue.map r.view ++ after)) := by
  by_cases hc : rx.queue.length < cap
  · simpa [Receiver.send, hc, Receiver.lost] using h
  · simp only [Receiver.send, hc, if_false]
    exact Or.inr (Or.inl rfl)

lemma settled_pass (h : Settled q e (before ++ (rx.queue.map r.view ++ r.view x :: after)))
    (hd : cap ≤ rx.queue.length → ∀ y ∈ rx.queue.head?,
      y.origin ≠ some q ∧ r.verdict y.event ≠ .stop) :
    Settled q e (before ++ ((rx.send cap x).queue.map r.view ++ after)) := by
  by_cases hc : rx.queue.length < cap
  · simpa [Receiver.send, hc] using h
  · simp only [Receiver.send, hc, if_false]
    cases hq : rx.queue with
    | nil =>
      rw [hq] at h
      exact h
    | cons y rest =>
      obtain ⟨ho, hv⟩ := hd (Nat.le_of_not_lt hc) y (by simp [hq])
      rw [hq] at h
      simpa using h.remove ho hv

lemma verdict_of_kind {m : SignalingMessage} (h : replyKind m = some r.kind) :
    r.verdict (.message m) ≠ .skip := by
  cases m with
  | webRtcTransportCreated | routerRtpCapabilities | consumed | dataProducerCreated =>
    cases r with
    | createTransport | routerCapabilities | consume | createDataProducer =>
      simp [Request.verdict, awaitTransportCreated, awaitRouterCaps, awaitConsumed,
        awaitDataProducerCreated] <;> cases h
    | consumeData => cases h
  | dataConsumed _ _ _ sp =>
    cases r with
    | consumeData => cases sp <;> simp [Request.verdict, awaitDataConsumed]
    | _ => simp [replyKind, Request.kind] at h
  | _ => cases h

lemma onOther_ne_take (m : SignalingMessage) : onOther m ≠ .take := by
  cases m with
  | error code message =>
    simp only [onOther]
    split <;> nofun
  | _ => nofun

lemma verdict_of_other {m : SignalingMessage} (h : replyKind m ≠ some r.kind) :
    r.verdict (.message m) ≠ .take := by
  intro hv
  cases r with
  | createTransport =>
    simp only [Request.verdict, awaitTransportCreated] at hv
    split at hv
    · exact h rfl
    · exact onOther_ne_take m hv
  | routerCapabilities =>
    simp only [Request.verdict, awaitRouterCaps] at hv
    split at hv
    · exact h rfl
    · cases hv
  | consume =>
    simp only [Request.verdict, awaitConsumed] at hv
    split at hv
    · exact h rfl
    · exact onOther_ne_take m hv
  | createDataProducer =>
    simp only [Request.verdict, awaitDataProducerCreated] at hv
    split at hv
    · exact h rfl
    · exact onOther_ne_take m hv
  | consumeData =>
    simp only [Request.verdict, awaitDataConsumed] at hv
    split at hv
    · exact h rfl
    · cases hv
    · exact onOther_ne_take m hv

lemma verdict_error (code : ℕ) (text : String) : r.verdict (.message (.error code text)) ≠ .take :=
  verdict_of_other nofun

lemma answeredBy_spec {o : Owed} {ev : LinkEvent} (h : o.answeredBy ev) (r : Request) :
    r.owedVerdict o = .take ∧ r.verdict ev ≠ .skip ∨
      r.owedVerdict o = .skip ∧ r.verdict ev ≠ .take := by
  have hgo : r.verdict ev ≠ .skip → r.verdict ev ≠ .take →
      r.owedVerdict o = .take ∧ r.verdict ev ≠ .skip ∨
        r.owedVerdict o = .skip ∧ r.verdict ev ≠ .take := by
    intro h₁ h₂
    by_cases hk : o.request.map Request.kind = some r.kind
    · exact Or.inl ⟨by simp [Request.owedVerdict, hk], h₁⟩
    · exact Or.inr ⟨by simp [Request.owedVerdict, hk], h₂⟩
  simp only [Owed.answeredBy] at h
  split at h
  · next code text =>
    split at h
    · next ht =>
      obtain ⟨_, ho⟩ := of_decide_eq_true h
      exact Or.inr ⟨by simp [Request.owedVerdict, ho], verdict_error code text⟩
    · next ht =>
      have hstop : onOther (.error code text) = .stop := by simp [onOther, ht]
      apply hgo
      · cases r with
        | routerCapabilities => rintro ⟨⟩
        | _ =>
          intro hv
          cases hstop.symm.trans hv
      · exact verdict_error code text
  · next m _ =>
    obtain ⟨_, hk⟩ := of_decide_eq_true h
    by_cases hr : replyKind m = some r.kind
    · exact Or.inl ⟨by simp [Request.owedVerdict, ← hk, hr], verdict_of_kind hr⟩
    · exact Or.inr ⟨by simp [Request.owedVerdict, ← hk, hr], verdict_of_other hr⟩
  · exact hgo (by rintro ⟨⟩) (by rintro ⟨⟩)
  · cases h

namespace RoomSession

variable {s s' : RoomSession}

lemma Inv.carry (hs : s.Inv none) (f : Task → Task)
    (htasks : ∀ i, s'.tasks.get i = (s.tasks.get i).map f) (htaken : s'.pumpTaken = s.pumpTaken)
    (hnext : s'.nextTask = s.nextTask) (hpump : ∀ t, (f t).pumpEvents = t.pumpEvents)
    (hfit : ∀ i t, t.Fit s.eventsLock i → (f t).Fit s'.eventsLock i)
    (hwaits : ∀ i t, s.tasks.get i = some t → t.Waits s.toWires → (f t).Waits s'.toWires)
    (hsound : s'.toWires.Sound) : s'.Inv none := by
  have hget : ∀ i t, s'.tasks.get i = some t → ∃ u, s.tasks.get i = some u ∧ f u = t := by
    intro i t hi
    rw [htasks] at hi
    exact Option.map_eq_some_iff.mp hi
  constructor
  · intro i t hi
    obtain ⟨u, hu, rfl⟩ := hget i t hi
    exact hfit i u (hs.fit i u hu)
  · intro i t hne hi
    obtain ⟨u, hu, rfl⟩ := hget i t hi
    exact hwaits i u hu (hs.waits i u hne hu)
  · intro i k t u hi hk ht hu
    obtain ⟨t', hi', rfl⟩ := hget i t hi
    obtain ⟨u', hk', rfl⟩ := hget k u hk
    rw [hpump] at ht hu
    exact hs.pumpOne i k t' u' hi' hk' ht hu
  · intro h i t hi
    obtain ⟨u, hu, rfl⟩ := hget i t hi
    rw [hpump]
    exact hs.untaken (htaken ▸ h) i u hu
  · exact hsound
  · intro i hi
    rw [htasks, hs.fresh i (hnext ▸ hi)]
    rfl

lemma Inv.rewire (hs : s.Inv none) {w : Wires} (hsound : w.Sound)
    (h : ∀ i t r k q, s.tasks.get i = some t → t.prog = .ask r k → t.asked = some q →
      Settled q (s.dry t.source) (s.stream t.source r) →
      Settled q (w.dry t.source) (w.stream t.source r)) : Inv { s with toWires := w } none := by
  refine hs.carry id (fun i => by simp) rfl rfl (fun _ => rfl) (fun _ _ => id) ?_ hsound
  intro i t hi hw r k q hp hq
  exact h i t r k q hi hp hq (hw r k q hp hq)

lemma spares_spec {i : ℕ} {t : Task} {k : SignalingMessage → Prog} (h : s.spares x)
    (hi : s.tasks.get i = some t) (hp : t.prog = .ask r k) (hq : t.asked = some q)
    (hsrc : t.source ≠ .pump) : x.origin ≠ some q ∧ r.verdict x.event ≠ .stop := by
  have ht := List.all_eq_true.mp h (i, t) ((FiniteMap.mem_toList _ _ _).mpr hi)
  simpa [hp, hq, hsrc] using ht

lemma Inv.emit (hs : s.Inv none) (hup : s.link = .up) (ho : s.relayHolds) (l : Link)
    (server : List Owed) (hl : l ≠ .broken) (hserver : l ≠ .up → server = [])
    (hx : l = .up → ∀ reason, x.event ≠ .disconnected reason)
    (hset : ∀ (r : Request) (q : ℕ) (e e' : Prop) (before : List (Option ℕ × Verdict)),
      (e → e') → Settled q e (before ++ s.server.map r.due) →
      Settled q e' (before ++ r.view x :: server.map r.due)) :
    (RoomSession.emit { s with link := l, server := server } x).Inv none := by
  obtain ⟨hdead, f, hf, hclean⟩ := hs.sound.quiet (Or.inl hup)
  refine hs.rewire (w := (RoomSession.emit { s with link := l, server := server } x).toWires)
    ⟨?_, hserver, ?_⟩ ?_
  · intro h
    have h : l = .up ∨ l = .broken := h
    refine ⟨hdead, f.send linkCap x, by simp [RoomSession.emit, hf], ?_⟩
    intro y hy
    have hmem : y ∈ f.queue ∨ y = x := by
      simp only [Receiver.send] at hy
      split at hy
      · simpa using hy
      · obtain hy | hy := List.mem_append.mp hy
        · exact Or.inl (List.mem_of_mem_tail hy)
        · exact Or.inr (List.mem_singleton.mp hy)
    obtain hy | rfl := hmem
    · exact hclean y hy
    · exact hx (h.resolve_right hl)
  · intro h
    rw [show (RoomSession.emit { s with link := l, server := server } x).dead = s.dead from rfl,
      hdead] at h
    cases h
  · intro i t r k q hi hp hq hw
    have hpass : t.source ≠ .pump → linkCap ≤ f.queue.length → ∀ y ∈ f.queue.head?,
        y.origin ≠ some q ∧ r.verdict y.event ≠ .stop := by
      intro hsrc hc y hy
      have h : s.spares y := by
        simp only [relayHolds, hf, Option.all_some, Bool.or_eq_true, decide_eq_true_eq] at ho
        obtain ho | ho := ho
        · omega
        · rw [hy] at ho
          exact ho
      exact spares_spec h hi hp hq hsrc
    cases hsrc : t.source with
    | main | own _ =>
      rw [hsrc] at hw hpass
      simp only [Wires.stream, Wires.receiver, Wires.relayQueue, RoomSession.emit, hf,
        Option.map_some, Option.getD_some, Wires.dry, hup, hl, ← List.append_assoc] at hw ⊢
      have h := hset r q _ False _ (by simp) hw
      rw [List.append_assoc] at h ⊢
      exact settled_pass h (hpass (by simp))
    | pump =>
      rw [hsrc] at hw
      cases hfirst : s.firstLink with
      | false =>
        simp only [Wires.stream, Wires.receiver, RoomSession.emit, hfirst] at hw ⊢
        exact hw.mono fun _ => Or.inr rfl
      | true =>
        simp only [Wires.stream, Wires.receiver, RoomSession.emit, hfirst, if_true,
          ← List.append_assoc] at hw ⊢
        have h := hset r q (s.dry .pump) (l ≠ .up ∨ true = false) _ ?_ hw
        · rw [List.append_assoc] at h ⊢
          exact settled_send h
        · simp [Wires.dry, hup, hfirst]

lemma relayed_fit {l : Option ℕ} {i : ℕ} {t : Task} (h : t.Fit l i) : (t.relayed x).Fit l i := by
  cases hsrc : t.source with
  | main | pump =>
    simp only [Task.relayed, hsrc]
    exact h
  | own rx =>
    simp only [Task.relayed, hsrc]
    refine ⟨h.paired, nofun, nofun, ?_, ?_, h.control, h.starts, h.idle⟩
    · intro d seed tr hw
      cases hsrc.symm.trans (h.pumpWho d seed tr hw)
    · intro l d hw
      cases hsrc.symm.trans (h.waitWho l d hw)

lemma Inv.relay (hs : s.Inv none) (f : Option Receiver) (dead : Bool)
    (hset : ∀ (r : Request) (q : ℕ) (e : Prop) (before : List (Option ℕ × Verdict)),
      Settled q e (before ++ (s.relayQueue.map r.view ++ s.server.map r.due)) →
      Settled q e (before ++ r.view x ::
        (((f.map Receiver.queue).getD []).map r.view ++ s.server.map r.due)))
    (hsound : Wires.Sound { s.toWires with forwarder := f, dead := dead }) :
    Inv { s.relay x with forwarder := f, dead := dead } none := by
  refine hs.carry (Task.relayed x) (fun _ => FiniteMap.get_mapValues _ _ _) rfl rfl ?_
    (fun _ _ => relayed_fit) ?_ ⟨hsound.quiet, hsound.server, hsound.dead⟩
  · intro t
    cases h : t.source <;> simp [Task.relayed, h]
  · intro i t _ hw r k q hp hq
    cases hsrc : t.source with
    | main =>
      simp only [Task.relayed, hsrc] at hp hq ⊢
      have h := hw r k q hp hq
      simp only [hsrc, Wires.stream, Wires.receiver, ← List.append_assoc] at h
      rw [List.append_assoc] at h
      have h := hset r q _ _ h
      rw [List.append_assoc] at h
      exact settled_send h
    | own rx =>
      simp only [Task.relayed, hsrc] at hp hq ⊢
      have h := hw r k q hp hq
      simp only [hsrc, Wires.stream, Wires.receiver, ← List.append_assoc] at h
      rw [List.append_assoc] at h
      have h := hset r q _ _ h
      rw [List.append_assoc] at h
      exact settled_send h
    | pump =>
      simp only [Task.relayed, hsrc] at hp hq ⊢
      have h := hw r k q hp hq
      rw [hsrc] at h
      exact h

lemma Inv.runForwarder (hs : s.Inv none) : s.runForwarder.Inv none := by
  simp only [RoomSession.runForwarder]
  cases hf : s.forwarder with
  | none => exact hs
  | some rx =>
    have hqueue : s.relayQueue = rx.queue := by simp [Wires.relayQueue, hf]
    have hclean : s.link = .up ∨ s.link = .broken → s.dead = false ∧
        ∀ x ∈ rx.queue, ∀ reason, x.event ≠ .disconnected reason := by
      intro h
      obtain ⟨hd, f, hf', hx⟩ := hs.sound.quiet h
      cases hf.symm.trans hf'
      exact ⟨hd, hx⟩
    have halive : s.dead = false := by
      by_contra h
      rw [Bool.not_eq_false] at h
      cases hf.symm.trans (hs.sound.dead h)
    have hsound : ∀ rest : Receiver, rest.queue ⊆ rx.queue →
        Wires.Sound { s.toWires with forwarder := some rest } := by
      intro rest hsub
      refine ⟨?_, hs.sound.server, ?_⟩
      · intro h
        exact ⟨halive, rest, rfl, fun x hx => (hclean h).2 x (hsub hx)⟩
      · intro h
        cases halive.symm.trans h
    simp only
    split
    · refine hs.rewire (w := { s.toWires with forwarder := some { rx with lagged := false } })
        (hsound _ (fun _ hx => hx)) ?_
      intro i t r k q _ _ _ hw
      cases hsrc : t.source with
      | main | own _ | pump =>
        rw [hsrc] at hw
        simpa [Wires.stream, Wires.receiver, Wires.relayQueue, Wires.dry, hf] using hw
    · cases hq : rx.queue with
      | nil => exact hs
      | cons x rest =>
        have hgo : Inv { s.relay x with forwarder := some { rx with queue := rest } } none := by
          refine hs.relay _ s.dead ?_ (hsound ⟨rest, rx.lagged⟩ (by simp [hq]))
          intro r q e before h
          simpa [hqueue, hq] using h
        cases hx : x.event with
        | message m =>
          simp only [hx]
          exact hgo
        | error text =>
          simp only [hx]
          exact hgo
        | disconnected reason =>
          simp only [hx]
          have hlink : s.link ≠ .up ∧ s.link ≠ .broken := by
            refine ⟨?_, ?_⟩
            · intro h
              exact (hclean (Or.inl h)).2 x (by simp [hq]) reason hx
            · intro h
              exact (hclean (Or.inr h)).2 x (by simp [hq]) reason hx
          refine hs.relay _ _ ?_ ⟨?_, hs.sound.server, fun _ => rfl⟩
          · intro r q e before h
            have h := h.cut (f := e) (o := x.origin)
            simpa [hs.sound.server hlink.1, Request.view, Request.verdict, hx] using h
          · intro h
            exact absurd h (by simp [hlink])

lemma Inv.linkEnds (hs : s.Inv none) : (s.step .linkEnds).Inv none := by
  simp only [RoomSession.step]
  cases hlink : s.link with
  | up =>
    have hquiet := hs.sound.quiet (Or.inl hlink)
    refine hs.rewire (w := { s.toWires with link := .broken, server := [] })
      ⟨fun _ => hquiet, fun _ => rfl, fun h => hs.sound.dead h⟩ ?_
    intro i t r k q _ _ _ hw
    cases hsrc : t.source with
    | main | own _ =>
      simp only [hsrc, Wires.stream, Wires.receiver, Wires.relayQueue, ← List.append_assoc] at hw ⊢
      rw [List.map_nil, List.append_nil]
      exact hw.dry rfl
    | pump =>
      simp only [hsrc, Wires.stream, Wires.receiver, ← List.append_assoc] at hw ⊢
      have h := hw.dry (f := Wires.dry { s.toWires with link := .broken, server := [] } .pump)
        (Or.inl (by simp))
      simpa using h
  | closing =>
    refine hs.rewire (w := { s.toWires with link := .down })
      ⟨by simp, fun _ => hs.sound.server (by simp [hlink]), fun h => hs.sound.dead h⟩ ?_
    intro i t r k q _ _ _ hw
    cases hsrc : t.source with
    | main | own _ =>
      rw [hsrc] at hw
      exact hw.mono (by simp [Wires.dry, hlink])
    | pump =>
      rw [hsrc] at hw
      exact hw.mono (by simp [Wires.dry])
  | down | broken => exact hs

lemma Inv.reconnect (hs : s.Inv none) (hd : s.dead) : s.reconnect.Inv none := by
  have hlink : s.link ≠ .up ∧ s.link ≠ .broken := by
    refine ⟨?_, ?_⟩
    · intro h
      cases (hs.sound.quiet (Or.inl h)).1.symm.trans hd
    · intro h
      cases (hs.sound.quiet (Or.inr h)).1.symm.trans hd
  have hserver := hs.sound.server hlink.1
  have hforwarder := hs.sound.dead hd
  have hnew : Inv { s with
      link := .up, firstLink := false, server := [], forwarder := some .fresh, dead := false }
      none := by
    refine hs.rewire (w := { s.toWires with
      link := .up, firstLink := false, server := [], forwarder := some .fresh, dead := false })
      ⟨fun _ => ⟨rfl, .fresh, rfl, fun _ hx => absurd hx List.not_mem_nil⟩, fun _ => rfl, by simp⟩ ?_
    intro i t r k q _ _ _ hw
    cases hsrc : t.source with
    | main | own _ =>
      rw [hsrc] at hw
      have h := hw.mono (f := False) (by simp [Wires.dry, hlink])
      simpa [Wires.stream, Wires.receiver, Wires.relayQueue, Receiver.fresh, Wires.dry, hserver,
        hforwarder] using h
    | pump =>
      rw [hsrc] at hw
      have h := hw.mono (f := True) (fun _ => trivial)
      simpa [Wires.stream, Wires.receiver, Wires.dry, hserver] using h
  apply (hnew.slots s.slots (some s.nextTask)).spawn
  · exact ⟨by simp, by simp, by simp, by simp, by simp, by simp, fun _ => Or.inl rfl, Or.inl rfl⟩
  · rfl
  · simp

lemma Inv.withdraw (hs : s.Inv none) (p : String) : (s.step (.withdraw p)).Inv none := by
  refine hs.carry (fun t => { t with who := t.who.withdraw p })
    (fun _ => FiniteMap.get_mapValues _ _ _) rfl rfl (fun _ => rfl) ?_ (fun _ _ _ hw => hw) hs.sound
  intro i t h
  cases hwho : t.who with
  | replay slot rest n =>
    exact ⟨h.paired, h.locked, h.pumps, nofun, nofun, nofun, nofun, h.idle⟩
  | consume _ | openControl | waitVideoProducer _ _ | replayStart | pump _ _ _ =>
    simp only [Who.withdraw]
    rw [← hwho]
    exact h

lemma Inv.answer (hs : s.Inv none) {e : LinkEvent} (ho : s.relayHolds) :
    (s.step (.answer e)).Inv none := by
  simp only [RoomSession.step]
  cases hserver : s.server with
  | nil => exact hs
  | cons o rest =>
    simp only
    split
    · next h =>
      refine hs.emit h.1 ho s.link rest ?_ (fun hn => absurd h.1 hn) ?_ ?_
      · simp [h.1]
      · intro _ reason he
        have ha := h.2
        simp only at he
        rw [he] at ha
        cases ha
      · intro r q e' e'' before he hset
        rw [hserver] at hset
        exact (hset.mono he).replace (answeredBy_spec h.2 r)
    · exact hs

lemma Inv.unasked (hs : s.Inv none) (hup : s.link = .up) (ho : s.relayHolds) {e : LinkEvent}
    (hd : ∀ reason, e ≠ .disconnected reason) (hv : ∀ r : Request, r.verdict e ≠ .take) :
    (s.emit ⟨e, none⟩).Inv none := by
  refine hs.emit hup ho s.link s.server ?_ (fun hn => absurd hup hn) ?_ ?_
  · simp [hup]
  · exact fun _ => hd
  · intro r q e' e'' before he hset
    exact (hset.mono he).insert (hv r)

lemma Inv.step (hs : s.Inv none) {a : SessionAction} (ho : s.orderly a) : (s.step a).Inv none := by
  cases a with
  | consume p =>
    exact hs.spawn ⟨by simp, fun _ => Or.inl rfl, by simp, by simp, by simp, by simp, by simp, Or.inl rfl⟩ rfl
      (by simp)
  | openControl labels =>
    exact hs.spawn ⟨by simp, fun _ => Or.inl rfl, by simp, by simp, by simp, fun _ => Or.inl rfl, by simp,
      Or.inl rfl⟩ rfl (by simp)
  | waitVideoProducer label =>
    exact hs.spawn ⟨by simp, fun _ => Or.inl rfl, by simp, by simp, fun _ _ _ => rfl, by simp, by simp,
      Or.inl rfl⟩ rfl (by simp)
  | turn i reply =>
    simp only [RoomSession.step]
    cases hi : s.tasks.get i with
    | none => exact hs
    | some t =>
      apply hs.turn hi
      intro r k hp hq
      simpa [orderly, hi, hp, hq] using ho
  | fail i =>
    simp only [RoomSession.step]
    cases hi : s.tasks.get i with
    | none => exact hs
    | some t => exact hs.finish (by simp) hi (hs.fit i t hi) id (by simp) (fun _ => rfl)
  | answer e => exact hs.answer ho
  | notice m =>
    simp only [RoomSession.step]
    split
    · next h => exact hs.unasked h.1 ho (by simp) fun r => verdict_of_other (by simp [h.2])
    · exact hs
  | garbled text =>
    simp only [RoomSession.step]
    split
    · next h => exact hs.unasked h ho (by simp) (by rintro _ ⟨⟩)
    · exact hs
  | forward => exact hs.runForwarder
  | hangUp reason =>
    simp only [RoomSession.step]
    split
    · next h =>
      refine hs.emit h ho _ _ (by simp) (fun _ => rfl) (by simp) ?_
      intro r q e e' before _ hset
      exact hset.cut
    · exact hs
  | linkEnds => exact hs.linkEnds
  | reconnect =>
    simp only [RoomSession.step]
    split
    · next h => exact hs.reconnect h.1
    · exact hs
  | withdraw p => exact hs.withdraw p

lemma inv_start (room peer : String) : (start room peer).Inv none where
  fit i t h := by simp [start] at h
  waits i t _ h := by simp [start] at h
  pumpOne i k t u h := by simp [start] at h
  untaken _ i t h := by simp [start] at h
  sound := ⟨fun _ => ⟨rfl, .fresh, rfl, fun _ hx => absurd hx List.not_mem_nil⟩,
    fun h => absurd rfl h, nofun⟩
  fresh _ _ := rfl

lemma Inv.run {acts : List SessionAction} (hs : s.Inv none)
    (h : Along RoomSession.step (fun s a => s.orderly a) s acts) :
    (run RoomSession.step s acts).Inv none := by
  induction acts generalizing s with
  | nil => exact hs
  | cons a acts ih => exact ih (hs.step h.1) h.2

/-- In an orderly run a call goes on with the answers to its own requests. -/
theorem answers_paired (room peer : String) (acts : List SessionAction)
    (h : Along RoomSession.step (fun s a => s.orderly a) (start room peer) acts) :
    (run RoomSession.step (start room peer) acts).Paired :=
  fun i t hi => (((inv_start room peer).run h).fit i t hi).paired

def aTransport (id : String) : LinkEvent :=
  .message (.webRtcTransportCreated "car" "desk" id ⟨"u", "p"⟩ ⟨[], "auto"⟩ none none)

def someReply : EngineReply := ⟨"AA", 0⟩

def consumed : List SessionAction :=
  ([.consume "front"] : List SessionAction) ++ List.replicate 3 (SessionAction.turn 0 someReply) ++
    ([.answer (aTransport "t0"), .forward] : List SessionAction) ++
    List.replicate 3 (SessionAction.turn 0 someReply) ++
    ([.answer (.message (.routerRtpCapabilities "car" ⟨"\x7b\x7d"⟩)), .forward,
      .turn 0 someReply] : List SessionAction)

theorem answers_paired_consume :
    ((run RoomSession.step (start "car" "desk") consumed).tasks.get 0).map Task.held =
      some [(1, some 1), (0, some 0)] ∧ (run RoomSession.step (start "car" "desk") consumed).Paired :=
  ⟨by decide, answers_paired "car" "desk" consumed (by decide)⟩

def lateTransport : List SessionAction :=
  ([.consume "front"] : List SessionAction) ++ List.replicate 3 (SessionAction.turn 0 someReply) ++
    ([.fail 0, .answer (aTransport "t0"), .forward, .consume "rear"] : List SessionAction) ++
    List.replicate 4 (SessionAction.turn 1 someReply)

/-- The next consume builds on the transport of the one before. -/
theorem late_transport_taken :
    ¬(run RoomSession.step (start "car" "desk") lateTransport).Paired := by
  intro h
  have hheld : ((run RoomSession.step (start "car" "desk") lateTransport).tasks.get 1).map
      Task.held = some [(1, some 0)] := by
    decide
  obtain ⟨t, ht, hp⟩ := Option.map_eq_some_iff.mp hheld
  have := h 1 t ht (1, some 0) (by simp [hp])
  cases this

end RoomSession

end MediaServo.Client
