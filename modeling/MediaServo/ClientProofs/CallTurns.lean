import MediaServo.ClientProofs.CallInvariant

/-! A turn of a task keeps the invariant: its reads, its requests, and its locks. -/

namespace MediaServo.Client

open MediaServo.Foundations MediaServo.Common

namespace RoomSession

variable {s : RoomSession} {i : ℕ} {t u : Task} {busy : Option ℕ}

lemma Inv.putReceiver (hs : s.Inv none) (hi : s.tasks.get i = some t)
    (hl : t.prog.needsEvents = false) (rx : Receiver) :
    (s.putReceiver rx t).1.Inv (some i) ∧ (s.putReceiver rx t).1.eventsLock = s.eventsLock ∧
      (s.putReceiver rx t).1.tasks = s.tasks := by
  have hfit := hs.fit i t hi
  cases hsrc : t.source with
  | main =>
    simp only [RoomSession.putReceiver, hsrc]
    obtain h | h := hfit.locked hsrc
    · rw [hl] at h
      cases h
    · exact ⟨hs.setMain h rx, trivial, trivial⟩
  | pump =>
    simp only [RoomSession.putReceiver, hsrc]
    exact ⟨hs.setPump hi (hfit.pumps hsrc) rx, trivial, trivial⟩
  | own _ =>
    simp only [RoomSession.putReceiver, hsrc]
    exact ⟨hs.but, trivial, trivial⟩

lemma putReceiver_task (rx : Receiver) : ∃ src, (s.putReceiver rx t).2 = { t with source := src } ∧
    (src = .main ↔ t.source = .main) ∧ (src = .pump ↔ t.source = .pump) := by
  cases hsrc : t.source with
  | main | pump =>
    refine ⟨t.source, ?_, by simp [hsrc], by simp [hsrc]⟩
    simp only [putReceiver, hsrc]
    rw [← hsrc]
  | own _ => exact ⟨.own rx, by simp [putReceiver, hsrc], by simp, by simp⟩

lemma stream_read {rx : Receiver} {x : Tagged} {rest : List Tagged} {r : Request}
    (hrx : s.receiver t.source = rx) (hlag : rx.lagged = false) (hq : rx.queue = x :: rest) :
    s.stream t.source r = r.view x ::
      (s.putReceiver ⟨rest, false⟩ t).1.stream (s.putReceiver ⟨rest, false⟩ t).2.source r := by
  subst hrx
  cases hsrc : t.source with
  | main | pump | own _ =>
    simp only [hsrc, Wires.receiver] at hlag hq
    simp [putReceiver, hsrc, Wires.stream, Wires.receiver, Wires.relayQueue, Receiver.lost, hlag, hq]

lemma dry_read (rx : Receiver) : (s.putReceiver rx t).1.dry (s.putReceiver rx t).2.source ↔
    s.dry t.source := by
  cases hsrc : t.source <;> simp [putReceiver, hsrc, Wires.dry]

lemma Inv.read (hs : s.Inv none) (hi : s.tasks.get i = some t) {r : Request}
    {c : SignalingMessage → Prog} {q : ℕ} (hprog : t.prog = .ask r c) (hask : t.asked = some q) :
    (s.read i t r c q).Inv none := by
  have hfit := hs.fit i t hi
  have hplain : t.prog.plain := by simp [hprog, Prog.plain]
  have hbusy : ∀ k, some i = some k → k = i := by
    rintro k ⟨⟩
    rfl
  have hfail : ∀ rx, ((s.putReceiver rx t).1.finish i (s.putReceiver rx t).2 false).Inv none := by
    intro rx
    obtain ⟨hb, hel, htasks⟩ := hs.putReceiver hi (Prog.plain_spec hplain).1 rx
    obtain ⟨src, ht, hm, hp⟩ := putReceiver_task (s := s) (t := t) rx
    apply hb.finish hbusy (u := t)
    · rw [htasks]
      exact hi
    · rw [ht, hel]
      exact hfit.go hplain hm hp hfit.paired hfit.idle
    · rw [ht]
      exact id
    · simp
    · rw [ht]
      intro h
      exact absurd h (hfit.who_of_plain hplain)
  have hw := hs.waits i t (by simp) hi r c q hprog hask
  simp only [RoomSession.read]
  cases hlag : (s.receiver t.source).lagged with
  | true => exact hfail _
  | false =>
    cases hqueue : (s.receiver t.source).queue with
    | nil => exact hs
    | cons x rest =>
      simp only [Bool.false_eq_true, if_false]
      rw [stream_read rfl hlag hqueue, Request.view] at hw
      obtain ⟨hb, hel, htasks⟩ := hs.putReceiver hi (Prog.plain_spec hplain).1 ⟨rest, false⟩
      obtain ⟨src, ht, hm, hp⟩ := putReceiver_task (s := s) (t := t) ⟨rest, false⟩
      have hi' := hi
      rw [← htasks] at hi'
      split
      · next m hv he =>
        rw [hv] at hw
        apply hb.put hbusy hi'
        · rw [ht, hel]
          refine hfit.go hplain hm hp ?_ (Or.inl rfl)
          intro p hmem
          obtain rfl | hmem := List.mem_cons.mp hmem
          · exact hw.take_own
          · exact hfit.paired p hmem
        · exact waits_of_asked_none rfl
        · rw [ht]
          exact id
      · next hv =>
        rw [hv] at hw
        apply hb.put hbusy hi'
        · rw [ht, hel]
          exact hfit.go hplain hm hp hfit.paired hfit.idle
        · intro r' c' q' hp' hq'
          have hp'' : t.prog = .ask r' c' := by simpa [ht] using hp'
          have hq'' : t.asked = some q' := by simpa [ht] using hq'
          rw [hprog] at hp''
          rw [hask] at hq''
          cases hp''
          cases hq''
          have := hw.skip_rest
          rwa [← dry_read] at this
        · rw [ht]
          exact id
      · exact hfail _

lemma stream_append (w : Wires) (o : Owed) (src : Source) (r : Request) :
    Wires.stream { w with server := w.server ++ [o] } src r = w.stream src r ++
      if src = .pump ∧ w.firstLink = false then [] else [r.due o] := by
  cases src with
  | pump => cases h : w.firstLink <;> simp [Wires.stream, Wires.receiver, h]
  | main | own _ => simp [Wires.stream, Wires.receiver, Wires.relayQueue]

lemma Inv.append (hs : s.Inv busy) (hup : s.link = .up) (o : Owed) (n : ℕ) :
    Inv { s with server := s.server ++ [o], nextRequest := n } busy where
  fit := hs.fit
  waits k v hne hk r c q hp hq := by
    have hw := hs.waits k v hne hk r c q hp hq
    rw [stream_append s.toWires o]
    split
    · next h =>
      rw [List.append_nil]
      exact hw
    · next h =>
      have hnot : ¬s.dry v.source := by
        cases hsrc : v.source <;> simp_all [Wires.dry]
      exact (hw.mono hnot).append _
  pumpOne := hs.pumpOne
  untaken := hs.untaken
  sound := by
    refine ⟨hs.sound.quiet, ?_, hs.sound.dead⟩
    intro h
    exact absurd hup h
  fresh := hs.fresh

lemma Inv.count (hs : s.Inv busy) (n : ℕ) : Inv { s with nextRequest := n } busy where
  fit := hs.fit
  waits := hs.waits
  pumpOne := hs.pumpOne
  untaken := hs.untaken
  sound := hs.sound
  fresh := hs.fresh

lemma Inv.ask (hs : s.Inv none) (hi : s.tasks.get i = some t) {r : Request}
    {c : SignalingMessage → Prog} (hprog : t.prog = .ask r c) (ho : s.mayAsk t r) :
    (s.ask i t r).Inv none := by
  have hfit := hs.fit i t hi
  have hplain : t.prog.plain := by simp [hprog, Prog.plain]
  have hnext : Task.Fit s.eventsLock i { t with asked := some s.nextRequest } :=
    hfit.go hplain Iff.rfl Iff.rfl hfit.paired (Or.inr ⟨r, c, hprog⟩)
  simp only [mayAsk, Bool.and_eq_true, decide_eq_true_eq] at ho
  cases hlink : s.link with
  | closing => exact absurd hlink ho.2
  | down | broken =>
    simp only [RoomSession.ask, hlink]
    exact hs.finish (by simp) hi hfit id (by simp) (fun _ => rfl)
  | up =>
    simp only [RoomSession.ask, hlink]
    have hs' := hs.append hlink ⟨s.nextRequest, some r⟩ (s.nextRequest + 1)
    refine hs'.put (i := i) (by simp) hi hnext ?_ id
    intro r' c' q hp hq
    have hp' : t.prog = .ask r' c' := hp
    rw [hprog] at hp'
    cases hp'
    cases hq
    rw [stream_append s.toWires]
    split
    · next h =>
      rw [List.append_nil]
      obtain ⟨h₁, h₂⟩ := h
      have h₁ : t.source = .pump := h₁
      apply settled_of_dry ho.1
      simp [Wires.dry, h₁, h₂]
    · exact settled_of_unclaimed ho.1 (by simp [Request.owedVerdict])

lemma Inv.tell (hs : s.Inv none) (hi : s.tasks.get i = some t) {m : SignalingMessage} {c : Prog}
    (hprog : t.prog = .tell m c) (hask : t.asked = none) : (s.tell i t c).Inv none := by
  have hfit := hs.fit i t hi
  have hplain : t.prog.plain := by simp [hprog, Prog.plain]
  have hnext : Task.Fit s.eventsLock i { t with prog := c } :=
    hfit.go hplain Iff.rfl Iff.rfl hfit.paired (Or.inl hask)
  cases hlink : s.link with
  | closing =>
    simp only [RoomSession.tell, hlink]
    exact (hs.count (s.nextRequest + 1)).put (i := i) (by simp) hi hnext (waits_of_asked_none hask) id
  | down | broken =>
    simp only [RoomSession.tell, hlink]
    exact hs.finish (by simp) hi hfit id (by simp) (fun _ => rfl)
  | up =>
    simp only [RoomSession.tell, hlink]
    exact (hs.append hlink ⟨s.nextRequest, none⟩ (s.nextRequest + 1)).put (i := i) (by simp) hi hnext (waits_of_asked_none hask) id

lemma Inv.settle (hs : s.Inv (some i)) (hi : s.tasks.get i = some t)
    (hw : t.Waits s.toWires) : s.Inv none where
  fit := hs.fit
  waits k v _ hk := by
    by_cases h : k = i
    · subst h
      rw [hi] at hk
      cases hk
      exact hw
    · exact hs.waits k v (by simpa using Ne.symm h) hk
  pumpOne := hs.pumpOne
  untaken := hs.untaken
  sound := hs.sound
  fresh := hs.fresh

lemma waits_of_done {w : Wires} (h : t.prog = .done) : t.Waits w := by
  intro r k q hp _
  rw [h] at hp
  cases hp

lemma Inv.pumpTurn (hs : s.Inv none) (hi : s.tasks.get i = some t) {d : Bool}
    {seed : List String} {tr : Option String} (hwho : t.who = .pump d seed tr)
    (hprog : t.prog = .done) (hask : t.asked = none) : (s.pumpTurn i t d seed tr).Inv none := by
  have hfit := hs.fit i t hi
  have hsrc := hfit.pumpWho d seed tr hwho
  have hev := hfit.pumps hsrc
  have hbusy : ∀ k, some i = some k → k = i := by
    rintro k ⟨⟩
    rfl
  have hnext : ∀ d' seed' tr' p, Task.Fit s.eventsLock i
      { t with who := .pump d' seed' tr', prog := p } := by
    intro d' seed' tr' p
    refine ⟨hfit.paired, ?_, fun _ => hev, fun _ _ _ _ => hsrc, nofun, nofun, nofun, Or.inl hask⟩
    intro h
    rw [hsrc] at h
    cases h
  have hput : ∀ rx d' seed' p, Inv ({ s with pump := rx }.putTask i
      { t with who := .pump d' seed' tr, prog := p }) none := by
    intro rx d' seed' p
    exact (hs.setPump hi hev rx).put hbusy hi (hnext d' seed' tr p) (waits_of_asked_none hask) id
  have hread : ∀ rx, Inv { s with pump := rx } none := by
    intro rx
    exact (hs.setPump hi hev rx).settle hi (waits_of_done hprog)
  have hseed : ∀ rx d' seed', Inv ({ s with pump := rx }.putTask i
      { t with who := .pump d' seed' tr }) none := fun rx d' seed' => hput rx d' seed' t.prog
  have hstay : ∀ d' seed' p, (s.putTask i { t with who := .pump d' seed' tr, prog := p }).Inv none := by
    intro d' seed' p
    exact hs.put nofun hi (hnext d' seed' tr p) (waits_of_asked_none hask) id
  simp only [RoomSession.pumpTurn]
  split
  · split
    · exact hread _
    · exact hstay false seed t.prog
    · split
      · split
        · exact hseed _ _ _
        · exact hread _
      · exact hread _
  · split
    · exact hstay _ _ _
    · split
      · exact hread _
      · exact hs
      · split
        · split
          · exact hput _ _ _ _
          · exact hread _
        · exact hread _

lemma Inv.waitTurn (hs : s.Inv none) (hi : s.tasks.get i = some t) {l : Option String} {d : Bool}
    (hwho : t.who = .waitVideoProducer l d) (hprog : t.prog = .done) :
    (s.waitTurn i t l d).Inv none := by
  have hfit := hs.fit i t hi
  have hsrc := hfit.waitWho l d hwho
  have hlock : s.eventsLock = some i := by
    obtain h | h := hfit.locked hsrc
    · rw [hprog] at h
      cases h
    · exact h
  have hbusy : ∀ k, some i = some k → k = i := by
    rintro k ⟨⟩
    rfl
  have hnext : ∀ d', Task.Fit s.eventsLock i { t with who := .waitVideoProducer l d' } := by
    intro d'
    exact ⟨hfit.paired, fun _ => Or.inr hlock, hfit.pumps, nofun, fun _ _ _ => hsrc, nofun, nofun,
      hfit.idle⟩
  have hread : ∀ rx, Inv { s with main := rx } none := by
    intro rx
    exact (hs.setMain hlock rx).settle hi (waits_of_done hprog)
  have hput : ∀ rx d', Inv ({ s with main := rx }.putTask i
      { t with who := .waitVideoProducer l d' }) none := by
    intro rx d'
    exact (hs.setMain hlock rx).put hbusy hi (hnext d') (waits_of_done hprog) id
  have hleave : ∀ rx, Inv ({ s with main := rx }.leave i) none := by
    intro rx
    exact (hs.setMain hlock rx).leave hbusy
  simp only [RoomSession.waitTurn]
  split
  · exact hput _ _
  · exact hs.put nofun hi (hnext false) (waits_of_done hprog) id
  · exact hread _
  · exact hleave _
  · exact hs
  · split
    · split
      · exact hleave _
      · exact hread _
    · exact hleave _
    · exact hread _

lemma Inv.lock (hs : s.Inv none) (hi : s.tasks.get i = some t) {l : Lock} {c : Prog}
    (hprog : t.prog = .lock l c) (hl : s.lockHolder l = none) :
    ((s.takeLock i l).putTask i { t with prog := c }).Inv none := by
  have hfit := hs.fit i t hi
  have hask : t.asked = none := by
    obtain h | ⟨r, k, h⟩ := hfit.idle
    · exact h
    · rw [hprog] at h
      cases h
  have hlock : (s.takeLock i l).Inv none := by
    cases l with
    | consume => exact ⟨hs.fit, hs.waits, hs.pumpOne, hs.untaken, hs.sound, hs.fresh⟩
    | events =>
      refine ⟨?_, hs.waits, hs.pumpOne, hs.untaken, hs.sound, hs.fresh⟩
      intro k v hk
      obtain ⟨h₁, h₂, h₃, h₄, h₅, h₆, h₇, h₈⟩ := hs.fit k v hk
      refine ⟨h₁, ?_, h₃, h₄, h₅, h₆, h₇, h₈⟩
      intro hm
      obtain h | h := h₂ hm
      · exact Or.inl h
      · have hl' : s.eventsLock = none := hl
        rw [hl'] at h
        cases h
  refine hlock.put nofun (u := t) ?_ ⟨hfit.paired, ?_, hfit.pumps, hfit.pumpWho, hfit.waitWho, ?_, ?_,
    Or.inl hask⟩ (waits_of_asked_none hask) id
  · cases l <;> exact hi
  · intro hm
    cases l with
    | consume =>
      obtain h | h := hfit.locked hm
      · rw [hprog] at h
        exact Or.inl h
      · exact Or.inr h
    | events => exact Or.inr rfl
  · intro hc
    obtain h | h := hfit.control hc
    · rw [hprog] at h
      exact Or.inl h
    · exact Or.inr h
  · intro hr
    obtain h | h := hfit.starts hr
    · rw [hprog] at h
      cases h
      exact Or.inr rfl
    · rw [hprog] at h
      cases h

lemma Inv.takePump (hs : s.Inv none) (hi : s.tasks.get i = some t) {c : Prog}
    (hprog : t.prog = .takePumpEvents c) (hp : s.pumpTaken = false) :
    Inv { s.putTask i { t with prog := c, pumpEvents := true } with pumpTaken := true } none := by
  have hfit := hs.fit i t hi
  have hask : t.asked = none := by
    obtain h | ⟨r, k, h⟩ := hfit.idle
    · exact h
    · rw [hprog] at h
      cases h
  have htaken : Inv { s with pumpTaken := true } none :=
    ⟨hs.fit, hs.waits, hs.pumpOne, nofun, hs.sound, hs.fresh⟩
  refine htaken.putFirst (i := i) nofun hi ⟨hfit.paired, ?_, fun _ => rfl, hfit.pumpWho,
    hfit.waitWho, fun _ => Or.inr rfl, ?_, Or.inl hask⟩ (waits_of_asked_none hask)
    (fun _ => Or.inr ⟨rfl, hs.untaken hp⟩)
  · intro hm
    obtain h | h := hfit.locked hm
    · rw [hprog] at h
      cases h
    · exact Or.inr h
  · intro hr
    obtain h | h := hfit.starts hr <;> rw [hprog] at h <;> cases h

lemma establish_fit {l : Option ℕ} (hfit : t.Fit l i) (hp : t.prog.plain) (hask : t.asked = none)
    (tid : String) (c : Prog) : Task.Fit l i { Task.establish t tid with prog := c } := by
  have h : Task.Fit l i { t with prog := c } :=
    hfit.go hp Iff.rfl Iff.rfl hfit.paired (Or.inl hask)
  cases hwho : t.who with
  | pump d seed tr =>
    simp only [Task.establish, hwho]
    exact ⟨h.paired, h.locked, h.pumps, fun _ _ _ _ => hfit.pumpWho d seed tr hwho, nofun, nofun,
      nofun, h.idle⟩
  | _ =>
    simp only [Task.establish, hwho]
    rwa [hwho] at h

lemma establish_asked (tid : String) : (Task.establish t tid).asked = t.asked ∧
    (Task.establish t tid).pumpEvents = t.pumpEvents := by
  cases h : t.who <;> simp [Task.establish, h]

lemma Inv.turn (hs : s.Inv none) (hi : s.tasks.get i = some t)
    (ho : ∀ r k, t.prog = .ask r k → t.asked = none → s.mayAsk t r) (reply : EngineReply) :
    (s.turn i t reply).Inv none := by
  have hfit := hs.fit i t hi
  have hidle : (∀ r k, t.prog ≠ .ask r k) → t.asked = none := by
    intro h
    obtain h' | ⟨r, k, h'⟩ := hfit.idle
    · exact h'
    · exact absurd h' (h r k)
  cases hprog : t.prog with
  | done =>
    simp only [RoomSession.turn, hprog]
    split
    · next d seed tr hwho => exact hs.pumpTurn hi hwho hprog (hidle (by simp [hprog]))
    · next l d hwho => exact hs.waitTurn hi hwho hprog
    · refine hs.finish nofun hi hfit id ?_ (fun _ => rfl)
      intro _ hwho
      obtain h | h := hfit.control hwho
      · rw [hprog] at h
        cases h
      · exact h
  | fail =>
    simp only [RoomSession.turn, hprog]
    exact hs.finish nofun hi hfit id (by nofun) (fun _ => rfl)
  | lock l c =>
    simp only [RoomSession.turn, hprog]
    split
    · next h => exact hs.lock hi hprog h
    · exact hs
  | takePumpEvents c =>
    simp only [RoomSession.turn, hprog]
    split
    · exact hs.finish nofun hi hfit id (by nofun) (fun _ => rfl)
    · next h => exact hs.takePump hi hprog (by simpa using h)
  | engine op c =>
    have hask := hidle (by simp [hprog])
    simp only [RoomSession.turn, hprog]
    have hgo : Task.Fit s.eventsLock i { t with prog := c reply } :=
      hfit.go (by simp [hprog, Prog.plain]) Iff.rfl Iff.rfl hfit.paired (Or.inl hask)
    exact hs.put nofun hi hgo (waits_of_asked_none hask) id
  | tell m c =>
    simp only [RoomSession.turn, hprog]
    exact hs.tell hi hprog (hidle (by simp [hprog]))
  | ask r c =>
    simp only [RoomSession.turn, hprog]
    split
    · next h => exact hs.ask hi hprog (ho r c hprog h)
    · next q h => exact hs.read hi hprog h
  | establish tid c =>
    have hask := hidle (by simp [hprog])
    simp only [RoomSession.turn, hprog]
    obtain ⟨h₁, h₂⟩ := establish_asked (t := t) tid
    apply hs.put nofun hi (establish_fit hfit (by simp [hprog, Prog.plain]) hask tid c)
    · exact waits_of_asked_none (h₁.trans hask)
    · intro h
      rw [← h₂]
      exact h

end RoomSession

end MediaServo.Client
