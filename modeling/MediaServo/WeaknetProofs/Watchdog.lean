import MediaServo.Weaknet.Watchdog

/-! What a watchdog takes down. It reads an expiry when it starts and the state again when it wakes,
and the two are of one session as long as nothing newer than its spawn is in place by then. -/

namespace MediaServo.Weaknet.Fuse

open MediaServo.Foundations

namespace WatchdogStage

def slept : WatchdogStage → Option Slept
  | .starting => none
  | .sleeping e | .woken e | .tearing e _ _ | .removing e _ => some e

def torn : WatchdogStage → Option State
  | .tearing _ st _ | .removing _ st => some st
  | _ => none

def awake : WatchdogStage → Bool
  | .starting | .sleeping _ => false
  | _ => true

end WatchdogStage

namespace Proc

def putting : Proc → Option ℕ
  | .apply _ (.mounting n _) | .apply _ (.writing n) => some n
  | _ => none

def recorded : Proc → Option ℕ
  | .apply _ (.written n) | .apply _ (.killing n _) | .apply _ (.spawning n)
  | .apply _ (.recording n _) => some n
  | _ => none

def carried : Proc → Option State
  | .set _ (.mounting st _) | .set _ (.writing st) => some st
  | _ => none

def places : Proc → Option ℕ
  | .apply _ (.mounting n (_ :: _)) | .apply _ (.writing n) => some n
  | .set _ (.mounting st (_ :: _)) | .set _ (.writing st) => some st.session
  | _ => none

def burns (n : ℕ) : Proc → Bool
  | .watchdog w => w.stage.awake && w.spawned ≤ n
  | _ => false

end Proc

namespace Site

def before (s : Site) (n : ℕ) : Bool :=
  s.state.all (·.session < n) && s.kernel.toList.all (·.2 < n)

/-- A sleep ends only before a newer session is in place, and none is put in place before the
watchdogs that are awake are at their end. -/
def orderly (s : Site) : Event → Bool
  | .act i _ =>
      (s.procs.get i).all fun p =>
        match p with
        | .watchdog ⟨n, .sleeping e⟩ => s.now < e.expiry || s.before n
        | p => p.places.all fun n => s.procs.toList.all fun q => !q.2.burns n
  | _ => true

/-- A session that a watchdog takes down has come to its recorded expiry, and no newer one is
touched. -/
structure Burning (s : Site) : Prop where
  tears : ∀ i n e st rest, s.procs.get i = some (.watchdog ⟨n, .tearing e st rest⟩) →
    st.expiresAtMs ≤ s.now ∧ st.session < n ∧
      ∀ o ∈ rest, ∀ k, s.kernel.get o = some k → k < n
  removes : ∀ i n e st, s.procs.get i = some (.watchdog ⟨n, .removing e st⟩) →
    ∀ q, s.state = some q → q.expiresAtMs ≤ s.now ∧ q.session < n

end Site

namespace Watchdog

def Precedes (w : Watchdog) (n : ℕ) : Prop :=
  w.spawned ≤ n ∧ ∀ e, w.stage.slept = some e → e.session < n

/-- A state is not older than what the watchdog has been spawned for and what it has read, and it has
the expiry that has been read if it is of that session. -/
def Accepts (w : Watchdog) (st : State) : Prop :=
  w.spawned ≤ st.session + 1 ∧ ∀ e, w.stage.slept = some e → e.session ≤ st.session ∧
    (st.session = e.session → st.expiresAtMs = e.expiry)

def Suits (w : Watchdog) (p : Proc) : Prop :=
  (∀ n, p.putting = some n → w.Precedes n) ∧ ∀ st, p.carried = some st → w.Accepts st

structure Ok (s : Site) (w : Watchdog) : Prop where
  spawned : w.spawned ≤ s.applied
  slept : ∀ e, w.stage.slept = some e → w.spawned ≤ e.session + 1 ∧ e.session < s.applied
  accepts : ∀ st, s.state = some st → w.Accepts st
  awake : w.stage.awake → (∀ e, w.stage.slept = some e → e.expiry ≤ s.now) ∧
    (∀ st, s.state = some st → st.session < w.spawned) ∧
    ∀ o k, s.kernel.get o = some k → k < w.spawned
  torn : ∀ st, w.stage.torn = some st → st.expiresAtMs ≤ s.now ∧ st.session < w.spawned

end Watchdog

structure Proc.Ok (s : Site) (i : ℕ) (p : Proc) : Prop where
  holds : p.holdsLock → s.lock = some i
  putting : ∀ n, p.putting = some n → n + 1 = s.applied ∧
    ∀ st, s.state = some st → st.session < n
  recorded : ∀ n, p.recorded = some n → n + 1 = s.applied ∧
    ∀ st, s.state = some st → st.session = n
  carried : ∀ st, p.carried = some st → st.session < s.applied ∧
    ∀ q, s.state = some q → q.session = st.session ∧ q.expiresAtMs = st.expiresAtMs
  watch : ∀ w, p = .watchdog w → w.Ok s

variable {s : Site} {i k n : ℕ} {p q : Proc} {w : Watchdog}

lemma Proc.putting_of_free (h : p.holdsLock = false) : p.putting = none := by
  cases p with
  | apply req stage => cases stage <;> simp_all [Proc.holdsLock, Proc.putting]
  | _ => rfl

lemma Proc.recorded_of_free (h : p.holdsLock = false) : p.recorded = none := by
  cases p with
  | apply req stage => cases stage <;> simp_all [Proc.holdsLock, Proc.recorded]
  | _ => rfl

lemma Proc.carried_of_free (h : p.holdsLock = false) : p.carried = none := by
  cases p with
  | set req stage => cases stage <;> simp_all [Proc.holdsLock, Proc.carried]
  | _ => rfl

lemma Watchdog.suits_of_free (h : p.holdsLock = false) : w.Suits p := by
  constructor
  · intro n hn
    rw [Proc.putting_of_free h] at hn
    cases hn
  · intro st hst
    rw [Proc.carried_of_free h] at hst
    cases hst

lemma Proc.ok_of_free (h : p.holdsLock = false) (hw : ∀ w, p = .watchdog w → w.Ok s) : p.Ok s i := by
  constructor
  · intro hl
    rw [h] at hl
    cases hl
  · intro n hn
    rw [Proc.putting_of_free h] at hn
    cases hn
  · intro n hn
    rw [Proc.recorded_of_free h] at hn
    cases hn
  · intro st hst
    rw [Proc.carried_of_free h] at hst
    cases hst
  · exact hw

lemma Watchdog.Ok.frame {s' : Site} (h : w.Ok s) (hnow : s.now ≤ s'.now)
    (happlied : s.applied ≤ s'.applied) (hstate : ∀ st, s'.state = some st → s.state = some st)
    (hkernel : w.stage.awake → ∀ o k, s'.kernel.get o = some k → k < w.spawned) : w.Ok s' := by
  constructor
  · exact h.spawned.trans happlied
  · intro e he
    obtain ⟨h₁, h₂⟩ := h.slept e he
    exact ⟨h₁, h₂.trans_le happlied⟩
  · intro st hst
    exact h.accepts st (hstate st hst)
  · intro ha
    obtain ⟨h₁, h₂, _⟩ := h.awake ha
    exact ⟨fun e he => (h₁ e he).trans hnow, fun st hst => h₂ st (hstate st hst), hkernel ha⟩
  · intro st hst
    obtain ⟨h₁, h₂⟩ := h.torn st hst
    exact ⟨h₁.trans hnow, h₂⟩

lemma Watchdog.Ok.expired (h : w.Ok s) (ha : w.stage.awake) {e : Slept}
    (he : w.stage.slept = some e) {st : State} (hst : s.state = some st) :
    st.expiresAtMs ≤ s.now ∧ st.session < w.spawned := by
  obtain ⟨hexp, hnew, _⟩ := h.awake ha
  have hlt := hnew st hst
  obtain ⟨hle, hsame⟩ := (h.accepts st hst).2 e he
  have hspawn := (h.slept e he).1
  refine ⟨?_, hlt⟩
  rw [hsame (by omega)]
  exact hexp e he

namespace Site

structure Inv (s : Site) : Prop where
  fresh : ∀ i p, s.procs.get i = some p → i < s.next
  old : ∀ st, s.state = some st → st.session < s.applied
  ok : ∀ i p, s.procs.get i = some p → p.Ok s i
  suits : ∀ i w k p, s.procs.get i = some (.watchdog w) → s.procs.get k = some p → w.Suits p

lemma Inv.burning (hs : s.Inv) : s.Burning := by
  constructor
  · intro i n e st rest hi
    have hok := (hs.ok i _ hi).watch _ rfl
    obtain ⟨he, hl⟩ := hok.torn st rfl
    exact ⟨he, hl, fun o _ k hk => (hok.awake rfl).2.2 o k hk⟩
  · intro i n e st hi q hq
    exact ((hs.ok i _ hi).watch _ rfl).expired rfl rfl hq

lemma inv_empty : empty.Inv := by
  constructor <;> intros <;> simp_all [empty]

def NoHolder (s : Site) : Prop := ∀ k p, s.procs.get k = some p → p.holdsLock = false

lemma Inv.alone (hs : s.Inv) (hl : s.lock = some i) (hi : s.procs.get i = none) : s.NoHolder := by
  intro k p hk
  by_contra h
  rw [Bool.not_eq_false] at h
  have := (hs.ok k p hk).holds h
  rw [hl] at this
  cases this
  rw [hi] at hk
  cases hk

lemma Inv.idle (hs : s.Inv) (hf : s.lockFree) : s.NoHolder := by
  intro k p hk
  by_contra h
  rw [Bool.not_eq_false] at h
  simp [lockFree, alive, (hs.ok k p hk).holds h, hk, FiniteMap.contains] at hf

lemma Inv.change {s' : Site} (hs : s.Inv) (hprocs : s'.procs = s.procs) (hnext : s'.next = s.next)
    (hold : ∀ st, s'.state = some st → st.session < s'.applied)
    (hholder : ∀ k p, s.procs.get k = some p → p.holdsLock → p.Ok s' k)
    (hwatch : ∀ k w, s.procs.get k = some (.watchdog w) → w.Ok s') : s'.Inv := by
  constructor
  · rw [hprocs, hnext]
    exact hs.fresh
  · exact hold
  · rw [hprocs]
    intro k p hk
    by_cases hl : p.holdsLock
    · exact hholder k p hk hl
    · apply Proc.ok_of_free (by simpa using hl)
      rintro w rfl
      exact hwatch k w hk
  · rw [hprocs]
    exact hs.suits

lemma Inv.frame {s' : Site} (hs : s.Inv) (hprocs : s'.procs = s.procs) (hnext : s'.next = s.next)
    (hlock : s'.lock = s.lock) (happlied : s'.applied = s.applied) (hnow : s.now ≤ s'.now)
    (hstate : ∀ st, s'.state = some st → s.state = some st)
    (hkernel : ∀ o k, s'.kernel.get o = some k → s.kernel.get o = some k ∨
      ∀ j w, s.procs.get j = some (.watchdog w) → w.stage.awake → k < w.spawned) : s'.Inv := by
  apply hs.change hprocs hnext
  · intro st hst
    rw [happlied]
    exact hs.old st (hstate st hst)
  · intro k p hk hl
    obtain ⟨h₁, h₂, h₃, h₄, _⟩ := hs.ok k p hk
    constructor
    · rwa [hlock]
    · intro n hn
      obtain ⟨ha, hb⟩ := h₂ n hn
      exact ⟨by rw [ha, happlied], fun st hst => hb st (hstate st hst)⟩
    · intro n hn
      obtain ⟨ha, hb⟩ := h₃ n hn
      exact ⟨by rw [ha, happlied], fun st hst => hb st (hstate st hst)⟩
    · intro st hst
      obtain ⟨ha, hb⟩ := h₄ st hst
      exact ⟨by rwa [happlied], fun q hq => hb q (hstate q hq)⟩
    · rintro w rfl
      cases hl
  · intro k w hk
    have hok := (hs.ok k _ hk).watch w rfl
    apply hok.frame hnow happlied.ge hstate
    intro ha o j hj
    obtain h | h := hkernel o j hj
    · exact (hok.awake ha).2.2 o j h
    · exact h k w hk ha

lemma Inv.drop (hs : s.Inv) (i : ℕ) : (s.drop i).Inv := by
  constructor
  · intro k p hk
    exact hs.fresh k p (FiniteMap.get_of_remove hk)
  · exact hs.old
  · intro k p hk
    obtain ⟨h₁, h₂, h₃, h₄, h₅⟩ := hs.ok k p (FiniteMap.get_of_remove hk)
    refine ⟨h₁, h₂, h₃, h₄, ?_⟩
    intro w hw
    exact (h₅ w hw).frame le_rfl le_rfl (fun _ h => h) fun ha => ((h₅ w hw).awake ha).2.2
  · intro k w j p hk hj
    exact hs.suits k w j p (FiniteMap.get_of_remove hk) (FiniteMap.get_of_remove hj)

lemma Inv.add (hs : s.Inv) (hlt : i < s.next) (hok : q.Ok s i)
    (hq : ∀ k w, s.procs.get k = some (.watchdog w) → w.Suits q)
    (hw : ∀ w k p, q = .watchdog w → s.procs.get k = some p → w.Suits p) : (s.add i q).Inv := by
  have hget : ∀ k p, (s.add i q).procs.get k = some p →
      k = i ∧ p = q ∨ s.procs.get k = some p := by
    intro k p hk
    simp only [Site.add, FiniteMap.get_set] at hk
    split_ifs at hk with h
    · cases hk
      exact Or.inl ⟨h, rfl⟩
    · exact Or.inr hk
  have hframe : ∀ (k : ℕ) (p : Proc), p.Ok s k → p.Ok (s.add i q) k := by
    rintro k p ⟨h₁, h₂, h₃, h₄, h₅⟩
    refine ⟨h₁, h₂, h₃, h₄, ?_⟩
    intro w hw
    exact (h₅ w hw).frame le_rfl le_rfl (fun _ h => h) fun ha => ((h₅ w hw).awake ha).2.2
  constructor
  · intro k p hk
    obtain ⟨rfl, rfl⟩ | hk := hget k p hk
    · exact hlt
    · exact hs.fresh k p hk
  · exact hs.old
  · intro k p hk
    obtain ⟨rfl, rfl⟩ | hk := hget k p hk
    · exact hframe k p hok
    · exact hframe k p (hs.ok k p hk)
  · intro k w j p hk hj
    obtain ⟨rfl, rfl⟩ | hk' := hget k _ hk
    · obtain ⟨rfl, rfl⟩ | hj' := hget j p hj
      · exact Watchdog.suits_of_free rfl
      · exact hw w j p rfl hj'
    · obtain ⟨rfl, rfl⟩ | hj' := hget j p hj
      · exact hq k w hk'
      · exact hs.suits k w j p hk' hj'

lemma Inv.put (hs : s.Inv) (hn : s.NoHolder) {st : State} (hold : st.session < s.applied)
    (hw : ∀ k w, s.procs.get k = some (.watchdog w) → w.Accepts st ∧
      (w.stage.awake → st.session < w.spawned)) : Inv { s with state := some st } := by
  apply hs.change
  · rfl
  · rfl
  · rintro _ ⟨⟩
    exact hold
  · intro k p hk hl
    rw [hn k p hk] at hl
    cases hl
  · intro k w hk
    have hok := (hs.ok k _ hk).watch w rfl
    constructor
    · exact hok.spawned
    · exact hok.slept
    · rintro _ ⟨⟩
      exact (hw k w hk).1
    · intro ha
      obtain ⟨h₁, _, h₃⟩ := hok.awake ha
      refine ⟨h₁, ?_, h₃⟩
      rintro _ ⟨⟩
      exact (hw k w hk).2 ha
    · exact hok.torn

lemma Inv.begin (hs : s.Inv) (hn : s.NoHolder) : Inv { s with applied := s.applied + 1 } := by
  apply hs.change
  · rfl
  · rfl
  · intro st hst
    exact Nat.lt_succ_of_lt (hs.old st hst)
  · intro k p hk hl
    rw [hn k p hk] at hl
    cases hl
  · intro k w hk
    have hok := (hs.ok k _ hk).watch w rfl
    exact hok.frame le_rfl (Nat.le_succ _) (fun _ h => h) fun ha => (hok.awake ha).2.2

lemma Inv.relock (hs : s.Inv) (hn : s.NoHolder) (l : Option ℕ) : Inv { s with lock := l } := by
  apply hs.change
  · rfl
  · rfl
  · exact hs.old
  · intro k p hk hl
    rw [hn k p hk] at hl
    cases hl
  · intro k w hk
    have hok := (hs.ok k _ hk).watch w rfl
    exact hok.frame le_rfl le_rfl (fun _ h => h) fun ha => (hok.awake ha).2.2

lemma Inv.join (hs : s.Inv) (hq : q.holdsLock = false) (hok : ∀ w, q = .watchdog w → w.Ok s ∧
      ∀ k p, s.procs.get k = some p → w.Suits p) :
    Inv { s.add s.next q with next := s.next + 1 } := by
  have hgrow : Inv { s with next := s.next + 1 } := by
    refine ⟨fun k p hk => Nat.lt_succ_of_lt (hs.fresh k p hk), hs.old, ?_, hs.suits⟩
    intro k p hk
    obtain ⟨h₁, h₂, h₃, h₄, h₅⟩ := hs.ok k p hk
    refine ⟨h₁, h₂, h₃, h₄, ?_⟩
    intro w hw
    exact (h₅ w hw).frame le_rfl le_rfl (fun _ h => h) fun ha => ((h₅ w hw).awake ha).2.2
  apply hgrow.add (Nat.lt_succ_self _)
  · apply Proc.ok_of_free hq
    intro w hw
    have := (hok w hw).1
    exact this.frame le_rfl le_rfl (fun _ h => h) fun ha => (this.awake ha).2.2
  · intro k w _
    exact Watchdog.suits_of_free hq
  · intro w k p hw hk
    exact (hok w hw).2 k p hk

structure Calm (s s' : Site) (i : ℕ) : Prop where
  inv : s'.Inv
  lock : s'.lock = s.lock
  state : s'.state = s.state
  applied : s'.applied = s.applied
  next : s'.next = s.next
  free : s'.procs.get i = none
  sub : ∀ k p, s'.procs.get k = some p → s.procs.get k = some p

lemma get_drop {k : ℕ} (h : (s.drop i).procs.get k = some p) : s.procs.get k = some p :=
  FiniteMap.get_of_remove h

lemma Inv.dropped (hs : s.Inv) (i : ℕ) : Calm s (s.drop i) i :=
  ⟨hs.drop i, rfl, rfl, rfl, rfl, FiniteMap.get_remove_self _ _, fun _ _ => get_drop⟩

lemma Inv.kernel (hs : s.Inv) (m : FiniteMap String ℕ) (h : ∀ o k, m.get o = some k →
    s.kernel.get o = some k ∨
      ∀ j w, s.procs.get j = some (.watchdog w) → w.stage.awake → k < w.spawned) :
    Inv { s with kernel := m } := by
  apply hs.frame
  case hkernel => exact h
  all_goals first | rfl | exact le_rfl | exact fun _ h => h

lemma Inv.unmount (hs : s.Inv) (o : String) : Calm s (Effect.apply (s.drop i) i (.unmount o)) i := by
  obtain ⟨h₁, h₂, h₃, h₄, h₅, h₆, h₇⟩ := hs.dropped i
  refine ⟨?_, h₂, h₃, h₄, h₅, h₆, h₇⟩
  apply h₁.kernel
  intro o' k hk
  exact Or.inl (FiniteMap.get_of_remove hk)

lemma Inv.mount (hs : s.Inv) {n : ℕ} (o : String)
    (h : ∀ j w, s.procs.get j = some (.watchdog w) → w.stage.awake → n < w.spawned) :
    Calm s (Effect.apply (s.drop i) i (.mount n o)) i := by
  obtain ⟨h₁, h₂, h₃, h₄, h₅, h₆, h₇⟩ := hs.dropped i
  refine ⟨?_, h₂, h₃, h₄, h₅, h₆, h₇⟩
  apply h₁.kernel
  intro o' k hk
  rw [FiniteMap.get_set] at hk
  split_ifs at hk
  · cases hk
    exact Or.inr fun j w hj => h j w (get_drop hj)
  · exact Or.inl hk

lemma Inv.pid (hs : s.Inv) (e : Option ℕ) : Calm s (Effect.apply (s.drop i) i (.pid e)) i := by
  obtain ⟨h₁, h₂, h₃, h₄, h₅, h₆, h₇⟩ := hs.dropped i
  refine ⟨?_, h₂, h₃, h₄, h₅, h₆, h₇⟩
  apply h₁.frame
  case hkernel => exact fun o k hk => Or.inl hk
  all_goals first | rfl | exact le_rfl | exact fun _ h => h

lemma Inv.kill (hs : s.Inv) (j : ℕ) : Calm s (Effect.apply (s.drop i) i (.kill j)) i := by
  refine ⟨(hs.drop i).drop j, rfl, rfl, rfl, rfl, ?_, fun k p hk => get_drop (get_drop hk)⟩
  apply Option.eq_none_iff_forall_not_mem.mpr
  intro p hp
  have hp := get_drop hp
  simp [Site.drop] at hp

lemma Inv.forget (hs : s.Inv) : Inv { s with state := none } := by
  apply hs.frame
  case hkernel => exact fun o k hk => Or.inl hk
  case hstate => nofun
  all_goals rfl

lemma Inv.quit (hs : s.Inv) {m : Move} (hi : s.procs.get i = some p) (hm : m.next = none)
    (h₁ : (m.effect.apply (s.drop i) i).Inv)
    (hfree : (m.effect.apply (s.drop i) i).procs.get i = none)
    (hlock : (m.effect.apply (s.drop i) i).lock = s.lock) : (s.perform i p m).Inv := by
  simp only [perform, hm, Option.any_none, Bool.not_false, Bool.and_true]
  split_ifs with hl
  · exact h₁.relock (h₁.alone (hlock.trans ((hs.ok i p hi).holds hl)) hfree) none
  · exact h₁

lemma Inv.over (hs : s.Inv) {m : Move} (hi : s.procs.get i = some p) (hm : m.next = none)
    (h : Calm s (m.effect.apply (s.drop i) i) i) : (s.perform i p m).Inv :=
  hs.quit hi hm h.inv h.free h.lock

lemma perform_some {m : Move} (hm : m.next = some q) (hl : p.holdsLock → q.holdsLock) :
    s.perform i p m = (m.effect.apply (s.drop i) i).add i q := by
  have : (p.holdsLock && !q.holdsLock) = false := by
    cases hp : p.holdsLock <;> simp_all
  simp [perform, hm, this]

end Site

structure Proc.Follows (p q : Proc) : Prop where
  holds : q.holdsLock = p.holdsLock
  putting : ∀ n, q.putting = some n → p.putting = some n
  recorded : ∀ n, q.recorded = some n → p.recorded = some n
  carried : ∀ st, q.carried = some st → p.carried = some st
  command : ∀ w, q ≠ .watchdog w

namespace Site

lemma Inv.still (hs : s.Inv) {m : Move} (hi : s.procs.get i = some p) (hm : m.next = some q)
    (h : Calm s (m.effect.apply (s.drop i) i) i) (hq : p.Follows q) : (s.perform i p m).Inv := by
  obtain ⟨h₁, h₂, h₃, h₄, _⟩ := hs.ok i p hi
  rw [perform_some hm (by rw [hq.holds]; exact id)]
  apply h.inv.add
  · rw [h.next]
    exact hs.fresh i p hi
  · constructor
    · rw [hq.holds, h.lock]
      exact h₁
    · rw [h.applied, h.state]
      exact fun n hn => h₂ n (hq.putting n hn)
    · rw [h.applied, h.state]
      exact fun n hn => h₃ n (hq.recorded n hn)
    · rw [h.applied, h.state]
      exact fun st hst => h₄ st (hq.carried st hst)
    · exact fun w hw => absurd hw (hq.command w)
  · intro k w hk
    obtain ⟨ha, hb⟩ := hs.suits k w i p (h.sub k _ hk) hi
    exact ⟨fun n hn => ha n (hq.putting n hn), fun st hst => hb st (hq.carried st hst)⟩
  · exact fun w k p hw => absurd hw (hq.command w)

lemma Inv.goes (hs : s.Inv) (hi : s.procs.get i = some p) (hq : p.Follows q) :
    (s.perform i p (.go q)).Inv :=
  hs.still hi rfl (hs.dropped i) hq

lemma Inv.watch (hs : s.Inv) {m : Move} (hi : s.procs.get i = some p)
    (hp : p.holdsLock = false) (hm : m.next = some (.watchdog w))
    (h : Calm s (m.effect.apply (s.drop i) i) i) (hok : w.Ok (m.effect.apply (s.drop i) i))
    (hsuits : ∀ k q, s.procs.get k = some q → w.Suits q) : (s.perform i p m).Inv := by
  rw [perform_some hm (by simp [hp])]
  apply h.inv.add
  · rw [h.next]
    exact hs.fresh i p hi
  · apply Proc.ok_of_free rfl
    rintro _ ⟨⟩
    exact hok
  · exact fun k w' _ => Watchdog.suits_of_free rfl
  · rintro _ k q ⟨⟩ hk
    exact hsuits k q (h.sub k q hk)

lemma Inv.reads (hs : s.Inv) (hi : s.procs.get i = some p) (hp : p.holdsLock = false) (hok : w.Ok s)
    (hsuits : ∀ k q, s.procs.get k = some q → w.Suits q) :
    (s.perform i p (.go (.watchdog w))).Inv :=
  hs.watch hi hp rfl (hs.dropped i) ⟨hok.spawned, hok.slept, hok.accepts, hok.awake, hok.torn⟩ hsuits

lemma awake_of_orderly {ok : Bool} (ho : s.orderly (.act i ok)) (hi : s.procs.get i = some p)
    (hn : p.places = some n) (k : ℕ) (w : Watchdog) (hk : s.procs.get k = some (.watchdog w))
    (ha : w.stage.awake) : n < w.spawned := by
  have hall : s.procs.toList.all fun q => !q.2.burns n := by
    cases p with
    | watchdog w => cases hn
    | _ => simpa [orderly, hi, hn] using ho
  rw [List.all_eq_true] at hall
  have := hall (k, .watchdog w) (by simpa using hk)
  simpa [Proc.burns, ha] using this

lemma Inv.killing (hs : s.Inv) (hi : s.procs.get i = some p) {stage : KillStage} {ok : Bool}
    {again : KillStage → Proc} {done : Proc} (ha : ∀ k, p.Follows (again k)) (hd : p.Follows done) :
    (s.perform i p (stage.move s ok again done)).Inv := by
  cases stage with
  | read =>
    cases hf : s.pidfile with
    | none =>
      simp only [KillStage.move, hf]
      exact hs.goes hi hd
    | some pid =>
      cases ok with
      | false =>
        simp only [KillStage.move, hf]
        exact hs.goes hi hd
      | true =>
        simp only [KillStage.move, hf]
        exact hs.goes hi (ha _)
  | kill pid =>
    cases ok with
    | false => exact hs.still hi rfl (hs.dropped i) (ha _)
    | true => exact hs.still hi rfl (hs.kill pid) (ha _)
  | unlink =>
    cases ok with
    | false => exact hs.goes hi hd
    | true => exact hs.still hi rfl (hs.pid none) hd

lemma Inv.steps (hs : s.Inv) (hi : s.procs.get i = some p) {k : KernelStep}
    (ha : ∀ j w, s.procs.get j = some (.watchdog w) → w.stage.awake → n < w.spawned)
    (hq : p.Follows q) : (s.perform i p ⟨k.effect n, some q⟩).Inv := by
  cases k with
  | add o => exact hs.still hi rfl (hs.mount o ha) hq
  | del o => exact hs.still hi rfl (hs.unmount o) hq

lemma Inv.take (hs : s.Inv) (hi : s.procs.get i = some p) (hf : s.lockFree) (hp : p.holdsLock = false)
    (hl : q.holdsLock) (h₁ : q.putting = none) (h₂ : q.recorded = none) (h₃ : q.carried = none) :
    (s.perform i p ⟨.take, some q⟩).Inv := by
  have hn : (s.drop i).NoHolder := fun k p hk => hs.idle hf k p (get_drop hk)
  rw [perform_some rfl (by simp [hp])]
  apply ((hs.drop i).relock hn (some i)).add
  · exact hs.fresh i p hi
  · constructor
    · exact fun _ => rfl
    · simp [h₁]
    · simp [h₂]
    · simp [h₃]
    · rintro w rfl
      cases hl
  · intro k w _
    simp [Watchdog.Suits, h₁, h₃]
  · rintro w _ _ rfl
    cases hl

theorem Inv.apply (hs : s.Inv) {req : ApplyRequest} {stage : ApplyStage} {ok : Bool}
    (hi : s.procs.get i = some (.apply req stage)) (ho : s.orderly (.act i ok)) :
    (s.perform i (.apply req stage) (req.move s ok stage)).Inv := by
  have hok := hs.ok i _ hi
  have hquit : (s.perform i (.apply req stage) .quit).Inv := hs.over hi rfl (hs.dropped i)
  have hlone : ∀ _ : stage ≠ .start, (s.drop i).NoHolder := by
    intro hne
    have hl : (s.drop i).lock = some i := hok.holds (by cases stage <;> first | rfl | simp at hne)
    exact (hs.drop i).alone hl (FiniteMap.get_remove_self _ _)
  cases stage with
  | start =>
    simp only [ApplyRequest.move]
    split_ifs with hf
    · exact hs.take hi hf rfl rfl rfl rfl rfl
    · exact hquit
  | locked =>
    cases ok with
    | false => exact hquit
    | true =>
      simp only [ApplyRequest.move, if_true]
      rw [perform_some rfl fun _ => rfl]
      apply ((hs.drop i).begin (hlone nofun)).add
      · exact hs.fresh i _ hi
      · constructor
        · exact fun _ => hok.holds rfl
        · rintro _ ⟨⟩
          exact ⟨rfl, hs.old⟩
        all_goals nofun
      · intro k w hk
        have hw := (hs.ok k _ (get_drop hk)).watch w rfl
        refine ⟨?_, nofun⟩
        rintro _ ⟨⟩
        exact ⟨hw.spawned, fun e he => (hw.slept e he).2⟩
      · nofun
  | mounting n rest =>
    cases rest with
    | nil =>
      cases ok with
      | false =>
        apply hs.goes hi
        exact ⟨rfl, nofun, nofun, nofun, nofun⟩
      | true =>
        apply hs.goes hi
        exact ⟨rfl, fun _ h => h, nofun, nofun, nofun⟩
    | cons k rest =>
      cases ok with
      | false =>
        apply hs.goes hi
        exact ⟨rfl, nofun, nofun, nofun, nofun⟩
      | true =>
        apply hs.steps hi (awake_of_orderly ho hi rfl)
        exact ⟨rfl, fun _ h => h, nofun, nofun, nofun⟩
  | undoing rest =>
    cases rest with
    | nil => exact hquit
    | cons o rest =>
      cases ok with
      | false => exact hs.still hi rfl (hs.dropped i) ⟨rfl, nofun, nofun, nofun, nofun⟩
      | true => exact hs.still hi rfl (hs.unmount o) ⟨rfl, nofun, nofun, nofun, nofun⟩
  | writing n =>
    cases ok with
    | false => exact hquit
    | true =>
      obtain ⟨hn, _⟩ := hok.putting n rfl
      simp only [ApplyRequest.move, if_true]
      rw [perform_some rfl fun _ => rfl]
      apply Inv.add
      · apply (hs.drop i).put (hlone nofun)
        · exact Nat.lt_of_succ_le hn.le
        · intro k w hk
          obtain ⟨hspawn, hslept⟩ := (hs.suits k w i _ (get_drop hk) hi).1 n rfl
          refine ⟨⟨hspawn.trans (Nat.le_succ n), ?_⟩, awake_of_orderly ho hi rfl k w (get_drop hk)⟩
          intro e he
          have hlt := hslept e he
          exact ⟨hlt.le, fun h => absurd h hlt.ne'⟩
      · exact hs.fresh i _ hi
      · refine ⟨fun _ => hok.holds rfl, nofun, ?_, nofun, nofun⟩
        rintro _ ⟨⟩
        refine ⟨hn, ?_⟩
        rintro _ ⟨⟩
        rfl
      · intro k w _
        exact ⟨nofun, nofun⟩
      · nofun
  | written n =>
    cases ok with
    | false => exact hquit
    | true => exact hs.goes hi ⟨rfl, nofun, fun _ h => h, nofun, nofun⟩
  | killing n stage =>
    apply hs.killing hi
    · exact fun k => ⟨rfl, nofun, fun _ h => h, nofun, nofun⟩
    · exact ⟨rfl, nofun, fun _ h => h, nofun, nofun⟩
  | spawning n =>
    cases ok with
    | false => exact hquit
    | true =>
      obtain ⟨hn, hstate⟩ := hok.recorded n rfl
      simp only [ApplyRequest.move, if_true]
      rw [perform_some rfl fun _ => rfl]
      apply Inv.add
      · apply (hs.drop i).join rfl
        rintro _ ⟨⟩
        refine ⟨⟨le_rfl, nofun, ?_, nofun, nofun⟩, ?_⟩
        · intro st hst
          refine ⟨?_, nofun⟩
          rw [hstate st hst, hn]
          exact le_rfl
        · intro k p hk
          exact Watchdog.suits_of_free (hlone nofun k p hk)
      · exact Nat.lt_succ_of_lt (hs.fresh i _ hi)
      · refine ⟨fun _ => hok.holds rfl, nofun, ?_, nofun, nofun⟩
        rintro _ ⟨⟩
        exact ⟨hn, hstate⟩
      · intro k w _
        exact ⟨nofun, nofun⟩
      · nofun
  | recording n pid =>
    cases ok with
    | false => exact hs.over hi rfl (hs.dropped i)
    | true => exact hs.over hi rfl (hs.pid (some pid))

theorem Inv.set (hs : s.Inv) {req : SetRequest} {stage : SetStage} {ok : Bool}
    (hi : s.procs.get i = some (.set req stage)) (ho : s.orderly (.act i ok)) :
    (s.perform i (.set req stage) (req.move s ok stage)).Inv := by
  have hok := hs.ok i _ hi
  have hquit : (s.perform i (.set req stage) .quit).Inv := hs.over hi rfl (hs.dropped i)
  cases stage with
  | start =>
    simp only [SetRequest.move]
    split_ifs with hf
    · exact hs.take hi hf rfl rfl rfl rfl rfl
    · exact hquit
  | locked =>
    cases hst : s.state with
    | none => simpa only [SetRequest.move, hst] using hquit
    | some prior =>
      cases ok with
      | false => simpa [SetRequest.move, hst] using hquit
      | true =>
        simp only [SetRequest.move, hst, if_true]
        rw [Move.go, perform_some rfl fun _ => rfl]
        apply (hs.drop i).add
        · exact hs.fresh i _ hi
        · refine ⟨fun _ => hok.holds rfl, nofun, nofun, ?_, nofun⟩
          rintro _ ⟨⟩
          refine ⟨hs.old prior hst, ?_⟩
          intro q hq
          simp only [Site.drop, hst] at hq
          cases hq
          exact ⟨rfl, rfl⟩
        · intro k w hk
          refine ⟨nofun, ?_⟩
          rintro _ ⟨⟩
          exact ((hs.ok k _ (get_drop hk)).watch w rfl).accepts prior hst
        · nofun
  | mounting prior rest =>
    cases rest with
    | nil =>
      cases ok with
      | false => exact hquit
      | true => exact hs.goes hi ⟨rfl, nofun, nofun, fun _ h => h, nofun⟩
    | cons k rest =>
      cases ok with
      | false => exact hquit
      | true =>
        apply hs.steps hi (awake_of_orderly ho hi rfl)
        exact ⟨rfl, nofun, nofun, fun _ h => h, nofun⟩
  | writing prior =>
    cases ok with
    | false => exact hs.over hi rfl (hs.dropped i)
    | true =>
      have hl : (s.drop i).lock = some i := hok.holds rfl
      apply hs.quit hi rfl
      · apply (hs.drop i).put ((hs.drop i).alone hl (FiniteMap.get_remove_self _ _))
        · exact (hok.carried prior rfl).1
        · intro k w hk
          exact ⟨(hs.suits k w i _ (get_drop hk) hi).2 prior rfl,
            awake_of_orderly ho hi rfl k w (get_drop hk)⟩
      · exact FiniteMap.get_remove_self _ _
      · rfl

theorem Inv.clear (hs : s.Inv) {dev : String} {stage : ClearStage} {ok : Bool}
    (hi : s.procs.get i = some (.clear dev stage)) :
    (s.perform i (.clear dev stage) (stage.move s dev ok)).Inv := by
  have hquit : (s.perform i (.clear dev stage) .quit).Inv := hs.over hi rfl (hs.dropped i)
  have hgo : ∀ t, (s.perform i (.clear dev stage) (.go (.clear dev t))).Inv := fun t =>
    hs.goes hi ⟨rfl, nofun, nofun, nofun, nofun⟩
  cases stage with
  | look =>
    cases hst : s.state with
    | none => simpa only [ClearStage.move, hst] using hquit
    | some st =>
      simp only [ClearStage.move, hst]
      split_ifs
      · exact hgo _
      · exact hquit
  | killing found stage =>
    apply hs.killing hi
    · exact fun k => ⟨rfl, nofun, nofun, nofun, nofun⟩
    · exact ⟨rfl, nofun, nofun, nofun, nofun⟩
  | read =>
    cases ok with
    | false => exact hquit
    | true => exact hgo _
  | tearing rest =>
    cases rest with
    | nil => exact hgo _
    | cons o rest =>
      cases ok with
      | false => exact hgo _
      | true => exact hs.still hi rfl (hs.unmount o) ⟨rfl, nofun, nofun, nofun, nofun⟩
  | removing =>
    cases ok with
    | false => exact hs.over hi rfl (hs.dropped i)
    | true => exact hs.quit hi rfl (hs.drop i).forget (FiniteMap.get_remove_self _ _) rfl

lemma Inv.suits_read (hs : s.Inv) (hi : s.procs.get i = some (.watchdog w)) {st : State}
    (hst : s.state = some st) (hk : s.procs.get k = some q) :
    Watchdog.Suits ⟨w.spawned, .sleeping ⟨st.session, st.expiresAtMs⟩⟩ q := by
  have hok := hs.ok k q hk
  obtain ⟨ha, hb⟩ := hs.suits i w k q hi hk
  constructor
  · intro n hn
    refine ⟨(ha n hn).1, ?_⟩
    rintro _ ⟨⟩
    exact (hok.putting n hn).2 st hst
  · intro r hr
    refine ⟨(hb r hr).1, ?_⟩
    obtain ⟨hses, hexp⟩ := (hok.carried r hr).2 st hst
    rintro _ ⟨⟩
    exact ⟨hses.le, fun _ => hexp.symm⟩

theorem Inv.burn (hs : s.Inv) {ok : Bool} (hi : s.procs.get i = some (.watchdog w))
    (ho : s.orderly (.act i ok)) : (s.perform i (.watchdog w) (w.move s ok)).Inv := by
  have hok := (hs.ok i _ hi).watch w rfl
  have hsuits := hs.suits i w
  have hquit : (s.perform i (.watchdog w) .quit).Inv := hs.over hi rfl (hs.dropped i)
  obtain ⟨n, stage⟩ := w
  cases stage with
  | starting =>
    cases hst : s.state with
    | none => simpa only [Watchdog.move, hst] using hquit
    | some st =>
      simp only [Watchdog.move, hst]
      split_ifs
      · apply hs.reads hi rfl
        · obtain ⟨hle, _⟩ := hok.accepts st hst
          refine ⟨hok.spawned, ?_, ?_, nofun, nofun⟩
          · rintro _ ⟨⟩
            exact ⟨hle, hs.old st hst⟩
          · intro st' hst'
            rw [hst] at hst'
            cases hst'
            refine ⟨hle, ?_⟩
            rintro _ ⟨⟩
            exact ⟨le_rfl, fun _ => rfl⟩
        · exact fun k q hk => hs.suits_read hi hst hk
      · exact hquit
  | sleeping e =>
    by_cases hnow : e.expiry ≤ s.now
    · have hbefore : s.before n := by
        simp only [orderly, hi, Option.all_some, Bool.or_eq_true, decide_eq_true_eq] at ho
        exact ho.resolve_left (by omega)
      simp only [before, Bool.and_eq_true, Option.all_eq_true, decide_eq_true_eq,
        List.all_eq_true] at hbefore
      simp only [Watchdog.move, hnow, if_true]
      apply hs.reads hi rfl
      · refine ⟨hok.spawned, hok.slept, hok.accepts, ?_, nofun⟩
        intro _
        refine ⟨?_, hbefore.1, ?_⟩
        · rintro _ ⟨⟩
          exact hnow
        · exact fun o k hk => hbefore.2 (o, k) (by simpa using hk)
      · exact fun k q hk => hsuits k q hi hk
    · simp only [Watchdog.move, hnow, if_false]
      exact hs.reads hi rfl hok fun k q hk => hsuits k q hi hk
  | woken e =>
    cases hst : s.state with
    | none => simpa only [Watchdog.move, hst] using hquit
    | some st =>
      cases ok with
      | false => simpa [Watchdog.move, hst] using hquit
      | true =>
        simp only [Watchdog.move, hst, if_true]
        apply hs.reads hi rfl
        · refine ⟨hok.spawned, hok.slept, hok.accepts, hok.awake, ?_⟩
          rintro _ ⟨⟩
          exact hok.expired rfl rfl hst
        · exact fun k q hk => hsuits k q hi hk
  | tearing e st rest =>
    cases rest with
    | nil =>
      apply hs.reads hi rfl
      · exact ⟨hok.spawned, hok.slept, hok.accepts, hok.awake, hok.torn⟩
      · exact fun k q hk => hsuits k q hi hk
    | cons o rest =>
      have hnext : Watchdog.Ok s ⟨n, .tearing e st rest⟩ :=
        ⟨hok.spawned, hok.slept, hok.accepts, hok.awake, hok.torn⟩
      cases ok with
      | false => exact hs.reads hi rfl hnext fun k q hk => hsuits k q hi hk
      | true =>
        apply hs.watch hi rfl rfl (hs.unmount o)
        · apply hnext.frame
          · exact le_rfl
          · exact le_rfl
          · exact fun _ h => h
          · intro _ o' k hk
            exact (hok.awake rfl).2.2 o' k (FiniteMap.get_of_remove hk)
        · exact fun k q hk => hsuits k q hi hk
  | removing e st =>
    cases ok with
    | false => exact hs.over hi rfl (hs.dropped i)
    | true => exact hs.quit hi rfl (hs.drop i).forget (FiniteMap.get_remove_self _ _) rfl

theorem Inv.step (hs : s.Inv) (ev : Event) (ho : s.orderly ev) : (s.step ev).Inv := by
  cases ev with
  | tick ms =>
    apply hs.frame
    case hnow => exact Nat.le_add_right _ _
    case hkernel => exact fun o k hk => Or.inl hk
    all_goals first | rfl | exact fun _ h => h
  | start cmd =>
    apply hs.join
    · cases cmd <;> rfl
    · intro w hw
      cases cmd <;> cases hw
  | act i ok =>
    simp only [Site.step]
    split
    · next p hi =>
      cases p with
      | apply req stage => exact hs.apply hi ho
      | set req stage => exact hs.set hi ho
      | clear dev stage => exact hs.clear hi
      | watchdog w => exact hs.burn hi ho
    · exact hs
  | die i => exact hs.drop i

/-- In an orderly run a watchdog takes down expired sessions only, and none applied after it has been
spawned. -/
theorem burns_expired (events : List Event)
    (h : Along Site.step (fun s ev => s.orderly ev) empty events) :
    (run Site.step empty events).Burning :=
  (run_invariant inv_empty (fun _ ev hs ho => hs.step ev ho) h).burning

def applyLo (secs : ℕ) : Command :=
  .apply ⟨secs, [.del "lo root", .add "lo root"], ["lo root"], ["lo root"]⟩

theorem burns_expired_second :
    (run Site.step empty
      (Event.start (applyLo 60) :: List.replicate 10 (Event.act 0 true) ++
        ([.act 1 true, .tick 5000] : List Event) ++
        Event.start (applyLo 1) :: List.replicate 12 (Event.act 2 true) ++
        ([.act 3 true, .tick 1000] : List Event) ++
        List.replicate 3 (Event.act 3 true))).Burning :=
  burns_expired _ (by decide)

/-- The second apply writes its state when the sleep of the first's watchdog is over, and has not
come to kill it. -/
def burntEarly : List Event :=
  Event.start (applyLo 5) :: List.replicate 10 (Event.act 0 true) ++
    ([.act 1 true, .tick 5000] : List Event) ++
    Event.start (applyLo 60) :: List.replicate 6 (Event.act 2 true) ++
    List.replicate 2 (Event.act 1 true)

/-- The watchdog is about to tear the new session down, a minute before its expiry, and removes its
state. -/
theorem new_session_burnt :
    (run Site.step empty burntEarly).procs.get 1 =
        some (.watchdog ⟨1, .tearing ⟨0, 5000⟩ ⟨1, 65000, ["lo root"]⟩ ["lo root"]⟩) ∧
      (run Site.step empty burntEarly).kernel.get "lo root" = some 1 ∧
      (run Site.step empty burntEarly).now = 5000 ∧
      (run Site.step empty (burntEarly ++ List.replicate 3 (.act 1 true))).kernel.get "lo root" =
        none ∧
      (run Site.step empty (burntEarly ++ List.replicate 3 (.act 1 true))).state = none ∧
      ¬(run Site.step empty burntEarly).Burning := by
  refine ⟨by decide, by decide, by decide, by decide,
    by decide, ?_⟩
  intro h
  have htear : (run Site.step empty burntEarly).procs.get 1 =
      some (.watchdog ⟨1, .tearing ⟨0, 5000⟩ ⟨1, 65000, ["lo root"]⟩ ["lo root"]⟩) := by
    decide
  exact Nat.lt_irrefl 1 (h.tears 1 1 _ _ _ htear).2.1

end Site

end MediaServo.Weaknet.Fuse
