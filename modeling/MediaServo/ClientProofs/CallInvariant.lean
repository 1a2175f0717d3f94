import MediaServo.Client.Calls

/-! Whose answer a call takes. The stream of a waiting call is what it has not read, what the relay
has not sent on, and what the server owes. It is settled for the request at hand from the moment
the request is sent, when it held no other answer of its kind then. -/

namespace MediaServo.Client

open MediaServo.Foundations MediaServo.Common

def Request.owedVerdict (r : Request) (o : Owed) : Verdict :=
  if o.request.map kind = some r.kind then .take else .skip

def Request.view (r : Request) (x : Tagged) : Option ℕ × Verdict := (x.origin, r.verdict x.event)

def Request.due (r : Request) (o : Owed) : Option ℕ × Verdict := (some o.id, r.owedVerdict o)

def Receiver.lost (rx : Receiver) : List (Option ℕ × Verdict) :=
  match rx.lagged with
  | true => [(none, .stop)]
  | false => []

namespace Wires

def relayQueue (w : Wires) : List Tagged := (w.forwarder.map Receiver.queue).getD []

def stream (w : Wires) (src : Source) (r : Request) : List (Option ℕ × Verdict) :=
  let rx := w.receiver src
  match src with
  | .pump => rx.lost ++ (rx.queue.map r.view ++ if w.firstLink then w.server.map r.due else [])
  | _ => rx.lost ++ (rx.queue.map r.view ++ (w.relayQueue.map r.view ++ w.server.map r.due))

def dry (w : Wires) : Source → Prop
  | .pump => w.link ≠ .up ∨ w.firstLink = false
  | _ => w.link = .broken

end Wires

namespace RoomSession

/-- Every answer that a call has gone on with was the answer to its own request. -/
def Paired (s : RoomSession) : Prop :=
  ∀ i t, s.tasks.get i = some t → ∀ p ∈ t.held, p.2 = some p.1

def mayAsk (s : RoomSession) (t : Task) (r : Request) : Bool :=
  unclaimed (s.stream t.source r) && s.link ≠ .closing

def spares (s : RoomSession) (x : Tagged) : Bool :=
  s.tasks.toList.all fun p =>
    match p.2.prog, p.2.asked with
    | .ask r _, some q =>
        p.2.source = .pump || (x.origin ≠ some q && r.verdict x.event ≠ .stop)
    | _, _ => true

def relayHolds (s : RoomSession) : Bool :=
  s.forwarder.all fun rx => rx.queue.length < linkCap || rx.queue.head?.all s.spares

def orderly (s : RoomSession) : SessionAction → Bool
  | .turn i _ =>
      (s.tasks.get i).all fun t =>
        match t.prog, t.asked with
        | .ask r _, none => s.mayAsk t r
        | _, _ => true
  | .answer _ | .notice _ | .garbled _ | .hangUp _ => s.relayHolds
  | _ => true

end RoomSession

def Prog.needsEvents : Prog → Bool
  | .lock .events _ => true
  | .lock .consume k => k.needsEvents
  | _ => false

def Prog.needsPump : Prog → Bool
  | .lock _ k => k.needsPump
  | .takePumpEvents _ => true
  | _ => false

def Prog.plain : Prog → Bool
  | .engine _ _ | .tell _ _ | .ask _ _ | .establish _ _ => true
  | _ => false

lemma Prog.plain_spec {p : Prog} (h : p.plain) : p.needsEvents = false ∧ p.needsPump = false ∧
    p ≠ .done ∧ p ≠ .lock .consume .done := by
  cases p <;> simp_all [plain, needsEvents, needsPump]

structure Task.Fit (eventsLock : Option ℕ) (i : ℕ) (t : Task) : Prop where
  paired : ∀ p ∈ t.held, p.2 = some p.1
  locked : t.source = .main → t.prog.needsEvents ∨ eventsLock = some i
  pumps : t.source = .pump → t.pumpEvents
  pumpWho : ∀ d seed tr, t.who = .pump d seed tr → t.source = .pump
  waitWho : ∀ l d, t.who = .waitVideoProducer l d → t.source = .main
  control : t.who = .openControl → t.prog.needsPump ∨ t.pumpEvents
  starts : t.who = .replayStart → t.prog = .lock .consume .done ∨ t.prog = .done
  idle : t.asked = none ∨ ∃ r k, t.prog = .ask r k

lemma Task.Fit.who_of_plain {l : Option ℕ} {i : ℕ} {t : Task} (h : t.Fit l i)
    (hp : t.prog.plain) : t.who ≠ .replayStart := by
  intro hw
  obtain h | h := h.starts hw
  · exact (Prog.plain_spec hp).2.2.2 h
  · exact (Prog.plain_spec hp).2.2.1 h

lemma Task.Fit.go {l : Option ℕ} {i : ℕ} {t : Task} (h : t.Fit l i)
    (hp : t.prog.plain) {src : Source} {prog : Prog} {asked : Option ℕ} {held : List (ℕ × Option ℕ)}
    (hmain : src = .main ↔ t.source = .main) (hpump : src = .pump ↔ t.source = .pump)
    (hheld : ∀ p ∈ held, p.2 = some p.1) (hidle : asked = none ∨ ∃ r k, prog = .ask r k) :
    Task.Fit l i ⟨t.who, src, prog, asked, held, t.pumpEvents⟩ where
  paired := hheld
  locked hs := by
    obtain h | h := h.locked (hmain.mp hs)
    · rw [(Prog.plain_spec hp).1] at h
      cases h
    · exact Or.inr h
  pumps hs := h.pumps (hpump.mp hs)
  pumpWho d seed tr hd := hpump.mpr (h.pumpWho d seed tr hd)
  waitWho l d hd := hmain.mpr (h.waitWho l d hd)
  control hc := by
    obtain h | h := h.control hc
    · rw [(Prog.plain_spec hp).2.1] at h
      cases h
    · exact Or.inr h
  starts hc := absurd hc (h.who_of_plain hp)
  idle := hidle

def Task.Waits (w : Wires) (t : Task) : Prop :=
  ∀ r k q, t.prog = .ask r k → t.asked = some q →
    Settled q (w.dry t.source) (w.stream t.source r)

structure Wires.Sound (w : Wires) : Prop where
  quiet : w.link = .up ∨ w.link = .broken → w.dead = false ∧ ∃ f, w.forwarder = some f ∧
    ∀ x ∈ f.queue, ∀ reason, x.event ≠ .disconnected reason
  server : w.link ≠ .up → w.server = []
  dead : w.dead → w.forwarder = none

namespace RoomSession

structure Inv (s : RoomSession) (busy : Option ℕ) : Prop where
  fit : ∀ i t, s.tasks.get i = some t → t.Fit s.eventsLock i
  waits : ∀ i t, busy ≠ some i → s.tasks.get i = some t → t.Waits s.toWires
  pumpOne : ∀ i k t u, s.tasks.get i = some t → s.tasks.get k = some u → t.pumpEvents →
    u.pumpEvents → i = k
  untaken : s.pumpTaken = false → ∀ i t, s.tasks.get i = some t → t.pumpEvents = false
  sound : s.toWires.Sound
  fresh : ∀ i, s.nextTask ≤ i → s.tasks.get i = none

variable {s : RoomSession} {i k : ℕ} {t u : Task} {busy : Option ℕ}

lemma Inv.but (hs : s.Inv none) : s.Inv (some i) where
  fit := hs.fit
  waits k t _ := hs.waits k t (by simp)
  pumpOne := hs.pumpOne
  untaken := hs.untaken
  sound := hs.sound
  fresh := hs.fresh

lemma waits_of_asked_none {w : Wires} (h : t.asked = none) : t.Waits w := by
  intro r k q _ hq
  rw [h] at hq
  cases hq

lemma Inv.lt_next (hs : s.Inv busy) (hi : s.tasks.get i = some t) : i < s.nextTask := by
  by_contra h
  rw [hs.fresh i (Nat.le_of_not_lt h)] at hi
  cases hi

lemma Inv.putFirst (hs : s.Inv busy) (hb : ∀ k, busy = some k → k = i)
    (hi : s.tasks.get i = some u) (hfit : t.Fit s.eventsLock i) (hw : t.Waits s.toWires)
    (hp : t.pumpEvents → u.pumpEvents ∨
      s.pumpTaken ∧ ∀ k v, s.tasks.get k = some v → v.pumpEvents = false) :
    (s.putTask i t).Inv none := by
  have hget : ∀ k v, (s.putTask i t).tasks.get k = some v →
      k = i ∧ v = t ∨ k ≠ i ∧ s.tasks.get k = some v := by
    intro k v hk
    rw [putTask, FiniteMap.get_set] at hk
    split_ifs at hk with h
    · cases hk
      exact Or.inl ⟨h, rfl⟩
    · exact Or.inr ⟨h, hk⟩
  have hother : ∀ k v, k ≠ i → s.tasks.get k = some v → v.pumpEvents → t.pumpEvents = false := by
    intro k v hne hk hv
    by_contra ht
    rw [Bool.not_eq_false] at ht
    obtain h | ⟨_, h⟩ := hp ht
    · exact hne (hs.pumpOne k i v u hk hi hv h)
    · rw [h k v hk] at hv
      cases hv
  constructor
  · intro k v hk
    obtain ⟨rfl, rfl⟩ | ⟨_, hk⟩ := hget k v hk
    · exact hfit
    · exact hs.fit k v hk
  · intro k v _ hk
    obtain ⟨rfl, rfl⟩ | ⟨hne, hk⟩ := hget k v hk
    · exact hw
    · exact hs.waits k v (fun h => hne (hb k h)) hk
  · intro k k' v v' hk hk' hv hv'
    obtain ⟨rfl, rfl⟩ | ⟨hne, h₁⟩ := hget k v hk
    · obtain ⟨rfl, rfl⟩ | ⟨hne', h₂⟩ := hget k' v' hk'
      · rfl
      · rw [hother k' v' hne' h₂ hv'] at hv
        cases hv
    · obtain ⟨rfl, rfl⟩ | ⟨_, h₂⟩ := hget k' v' hk'
      · rw [hother k v hne h₁ hv] at hv'
        cases hv'
      · exact hs.pumpOne k k' v v' h₁ h₂ hv hv'
  · intro h k v hk
    obtain ⟨rfl, rfl⟩ | ⟨_, hk⟩ := hget k v hk
    · by_contra hv
      rw [Bool.not_eq_false] at hv
      obtain h' | ⟨h', _⟩ := hp hv
      · rw [hs.untaken h k u hi] at h'
        cases h'
      · have h'' : s.pumpTaken = false := h
        rw [h''] at h'
        cases h'
    · exact hs.untaken h k v hk
  · exact hs.sound
  · intro k hk
    have hne : k ≠ i := by
      have := hs.lt_next hi
      have hk' : s.nextTask ≤ k := hk
      omega
    rw [putTask, FiniteMap.get_set_ne _ _ hne]
    exact hs.fresh k hk

lemma Inv.put (hs : s.Inv busy) (hb : ∀ k, busy = some k → k = i) (hi : s.tasks.get i = some u)
    (hfit : t.Fit s.eventsLock i) (hw : t.Waits s.toWires) (hp : t.pumpEvents → u.pumpEvents) :
    (s.putTask i t).Inv none :=
  hs.putFirst hb hi hfit hw fun h => Or.inl (hp h)

lemma Inv.leave (hs : s.Inv busy) (hb : ∀ k, busy = some k → k = i) : (s.leave i).Inv none := by
  have hget : ∀ k v, (s.leave i).tasks.get k = some v → k ≠ i ∧ s.tasks.get k = some v := by
    intro k v hk
    simp only [RoomSession.leave, FiniteMap.get_remove] at hk
    split_ifs at hk with h
    exact ⟨h, hk⟩
  constructor
  · intro k v hk
    obtain ⟨hne, hk⟩ := hget k v hk
    obtain ⟨h₁, h₂, h₃, h₄, h₅, h₆, h₇, h₈⟩ := hs.fit k v hk
    refine ⟨h₁, ?_, h₃, h₄, h₅, h₆, h₇, h₈⟩
    intro hm
    obtain h | h := h₂ hm
    · exact Or.inl h
    · right
      simp [RoomSession.leave, free, h, hne]
  · intro k v _ hk
    obtain ⟨hne, hk⟩ := hget k v hk
    exact hs.waits k v (fun h => hne (hb k h)) hk
  · intro k k' v v' hk hk'
    exact hs.pumpOne k k' v v' (hget k v hk).2 (hget k' v' hk').2
  · intro h k v hk
    exact hs.untaken h k v (hget k v hk).2
  · exact hs.sound
  · intro k hk
    simp only [RoomSession.leave, FiniteMap.get_remove]
    split_ifs
    · rfl
    · exact hs.fresh k hk

lemma Inv.spawn (hs : s.Inv none) (hfit : t.Fit s.eventsLock s.nextTask) (ha : t.asked = none)
    (hp : t.pumpEvents → s.pumpTaken ∧ ∀ k v, s.tasks.get k = some v → v.pumpEvents = false) :
    (s.spawn t).Inv none := by
  have hget : ∀ k v, (s.spawn t).tasks.get k = some v →
      k = s.nextTask ∧ v = t ∨ s.tasks.get k = some v := by
    intro k v hk
    rw [RoomSession.spawn, FiniteMap.get_set] at hk
    split_ifs at hk with h
    · cases hk
      exact Or.inl ⟨h, rfl⟩
    · exact Or.inr hk
  constructor
  · intro k v hk
    obtain ⟨rfl, rfl⟩ | hk := hget k v hk
    · exact hfit
    · exact hs.fit k v hk
  · intro k v _ hk
    obtain ⟨rfl, rfl⟩ | hk := hget k v hk
    · exact waits_of_asked_none ha
    · exact hs.waits k v (by simp) hk
  · intro k k' v v' hk hk' hv hv'
    obtain ⟨rfl, rfl⟩ | h₁ := hget k v hk
    · obtain ⟨rfl, rfl⟩ | h₂ := hget k' v' hk'
      · rfl
      · rw [(hp hv).2 k' v' h₂] at hv'
        cases hv'
    · obtain ⟨rfl, rfl⟩ | h₂ := hget k' v' hk'
      · rw [(hp hv').2 k v h₁] at hv
        cases hv
      · exact hs.pumpOne k k' v v' h₁ h₂ hv hv'
  · intro h k v hk
    obtain ⟨rfl, rfl⟩ | hk := hget k v hk
    · by_contra hv
      rw [Bool.not_eq_false] at hv
      have h' : s.pumpTaken = false := h
      rw [(hp hv).1] at h'
      cases h'
    · exact hs.untaken h k v hk
  · exact hs.sound
  · intro k hk
    have hk' : s.nextTask + 1 ≤ k := hk
    rw [RoomSession.spawn, FiniteMap.get_set_ne _ _ (by omega)]
    exact hs.fresh k (by omega)

lemma Inv.setMain (hs : s.Inv none) (h : s.eventsLock = some i) (rx : Receiver) :
    Inv { s with main := rx } (some i) where
  fit := hs.fit
  waits k v hne hk := by
    intro r c q hp hq
    have hw := hs.waits k v (by simp) hk r c q hp hq
    cases hsrc : v.source with
    | main =>
      obtain hl | hl := (hs.fit k v hk).locked hsrc
      · rw [hp] at hl
        cases hl
      · rw [h] at hl
        exact absurd hl hne
    | pump | own _ =>
      rw [hsrc] at hw
      exact hw
  pumpOne := hs.pumpOne
  untaken := hs.untaken
  sound := ⟨hs.sound.quiet, hs.sound.server, hs.sound.dead⟩
  fresh := hs.fresh

lemma Inv.setPump (hs : s.Inv none) (hi : s.tasks.get i = some t) (ht : t.pumpEvents)
    (rx : Receiver) : Inv { s with pump := rx } (some i) where
  fit := hs.fit
  waits k v hne hk := by
    intro r c q hp hq
    have hw := hs.waits k v (by simp) hk r c q hp hq
    cases hsrc : v.source with
    | pump =>
      have := hs.pumpOne i k t v hi hk ht ((hs.fit k v hk).pumps hsrc)
      exact absurd (congrArg some this) hne
    | main | own _ =>
      rw [hsrc] at hw
      exact hw
  pumpOne := hs.pumpOne
  untaken := hs.untaken
  sound := ⟨hs.sound.quiet, hs.sound.server, hs.sound.dead⟩
  fresh := hs.fresh

lemma Inv.slots (hs : s.Inv busy) (l : List String) (v : Option ℕ) :
    Inv { s with slots := l, supervisor := v } busy where
  fit := hs.fit
  waits := hs.waits
  pumpOne := hs.pumpOne
  untaken := hs.untaken
  sound := hs.sound
  fresh := hs.fresh

lemma Inv.dropDead (hs : s.Inv busy) : Inv { s with supervisor := none, dead := false } busy where
  fit := hs.fit
  waits k v hne hk r c q hp hq := by
    have hw := hs.waits k v hne hk r c q hp hq
    cases hsrc : v.source with
    | main | pump | own _ =>
      rw [hsrc] at hw
      exact hw
  pumpOne := hs.pumpOne
  untaken := hs.untaken
  sound := ⟨fun h => ⟨rfl, (hs.sound.quiet h).2⟩, hs.sound.server, nofun⟩
  fresh := hs.fresh

lemma replayTask_fit (slot : String) (rest : List String) (n : ℕ) :
    (s.replayTask slot rest n).Fit s.eventsLock i :=
  ⟨nofun, nofun, nofun, nofun, nofun, nofun, nofun, Or.inl rfl⟩

lemma Inv.replayNext (hs : s.Inv busy) (hb : ∀ k, busy = some k → k = i)
    (hi : s.tasks.get i = some u) (l : List String) : (s.replayNext i l).Inv none := by
  cases l with
  | nil => exact (hs.leave hb).dropDead
  | cons slot rest =>
    exact hs.put hb hi (replayTask_fit slot rest 1) (waits_of_asked_none rfl) nofun

lemma Inv.finish (hs : s.Inv busy) (hb : ∀ k, busy = some k → k = i)
    (hi : s.tasks.get i = some u) (hfit : t.Fit s.eventsLock i) (hp : t.pumpEvents → u.pumpEvents)
    {ok : Bool} (hok : ok → t.who = .openControl → u.pumpEvents)
    (hstart : t.who = .replayStart → busy = none) : (s.finish i t ok).Inv none := by
  cases hwho : t.who with
  | consume p =>
    simp only [RoomSession.finish, hwho]
    split
    · exact (hs.leave hb).slots _ _
    · exact hs.leave hb
  | openControl =>
    simp only [RoomSession.finish, hwho]
    split
    · next h =>
      have hu := hok h hwho
      apply (hs.leave hb).spawn
      · exact ⟨by rintro _ ⟨⟩, by rintro ⟨⟩, fun _ => rfl, fun _ _ _ _ => rfl, by rintro _ _ ⟨⟩,
          by rintro ⟨⟩, by rintro ⟨⟩, Or.inl rfl⟩
      · rfl
      · intro _
        refine ⟨?_, ?_⟩
        · by_contra hn
          rw [Bool.not_eq_true] at hn
          rw [hs.untaken hn i u hi] at hu
          cases hu
        · intro k v hk
          simp only [RoomSession.leave, FiniteMap.get_remove] at hk
          split_ifs at hk with hki
          by_contra hv
          rw [Bool.not_eq_false] at hv
          exact hki (hs.pumpOne k i v u hk hi hv hu)
    · exact hs.leave hb
  | waitVideoProducer l d =>
    simp only [RoomSession.finish, hwho]
    exact hs.leave hb
  | replayStart =>
    simp only [RoomSession.finish, hwho]
    split
    · exact hs.replayNext hb hi _
    · rwa [hstart hwho] at hs
  | replay slot rest n =>
    simp only [RoomSession.finish, hwho]
    split
    · exact hs.replayNext hb hi _
    · exact hs.put hb hi (replayTask_fit slot rest _) (waits_of_asked_none rfl) (by rintro ⟨⟩)
  | pump d seed tr =>
    simp only [RoomSession.finish, hwho]
    have hsrc := hfit.pumpWho d seed tr hwho
    refine hs.put hb hi ⟨hfit.paired, ?_, hfit.pumps, fun _ _ _ _ => hsrc, by simp, by simp, by simp,
      Or.inl rfl⟩ (waits_of_asked_none rfl) hp
    intro h
    rw [hsrc] at h
    cases h

end RoomSession

end MediaServo.Client
