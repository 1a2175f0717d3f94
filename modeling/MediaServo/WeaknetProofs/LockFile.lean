import MediaServo.Weaknet.LockFile

/-! The write lock over every run in which `/proc` answers and a reap takes away the file that has
been judged. A file of a live caller is never judged dead, so that it stays at the path until its
own caller drops it. -/

namespace MediaServo.Weaknet

open MediaServo.Foundations

namespace LockStage

def file : LockStage → Option ℕ
  | .create _ | .check _ => none
  | .stamp f | .fill f _ | .held f | .read _ f | .judge _ f _ | .reap _ f => some f

def fresh : LockStage → Option ℕ
  | .stamp f | .fill f _ => some f
  | _ => none

lemma file_of_holds {t : LockStage} {f : ℕ} (h : t.holds = some f) : t.file = some f := by
  cases t <;> simp_all [holds, file]

lemma holds_of_fresh {t : LockStage} {f : ℕ} (h : t.fresh = some f) : t.holds = some f := by
  cases t <;> simp_all [holds, fresh]

end LockStage

structure LockStage.Ok (s : LockDir) (pid : ℕ) (t : LockStage) : Prop where
  runs : ∃ st, s.procs.get pid = some st
  mine : ∀ f, t.holds = some f → s.path = some f
  blank : ∀ f, t.fresh = some f → s.owners.get f = none
  stamped : ∀ f st, t = .fill f st → s.procs.get pid = some st
  filled : ∀ f o, t = .held f → s.owners.get f = some o →
    o.pid = pid ∧ s.procs.get pid = some o.starttime
  seen : ∀ a f o, t = .judge a f o → s.owners.get f = some o
  judged : ∀ a f, t = .reap a f → ∀ k c, s.callers.get k = some c → c.stage.holds ≠ some f
  old : ∀ f, t.file = some f → f < s.next

namespace LockDir

structure Inv (s : LockDir) : Prop where
  ok : ∀ i c, s.callers.get i = some c → c.stage.Ok s c.pid
  one : ∀ i k c d f, s.callers.get i = some c → s.callers.get k = some d →
    c.stage.holds = some f → d.stage.holds = some f → i = k
  pathOld : ∀ f, s.path = some f → f < s.next
  ownersOld : ∀ f o, s.owners.get f = some o → f < s.next
  callersOld : ∀ i c, s.callers.get i = some c → i < s.next

/-- One caller has the lock at most, and the file at the path is the one that a drop removes. -/
structure Exclusive (s : LockDir) : Prop where
  one : ∀ i k c d, s.callers.get i = some c → s.callers.get k = some d →
    c.stage.holds.isSome → d.stage.holds.isSome → i = k
  own : ∀ i c f, s.callers.get i = some c → c.stage.holds = some f → s.path = some f

def sound (s : LockDir) : LockEvent → Bool
  | .act i ok =>
      (s.callers.get i).all fun c =>
        match c.stage with
        | .stamp _ | .judge _ _ _ => ok
        | .reap _ f => !ok || s.path.all (· = f)
        | _ => true
  | _ => true

variable {s : LockDir} {i k : ℕ} {c d : LockCaller} {t : LockStage}

lemma Inv.exclusive (hs : s.Inv) : s.Exclusive := by
  constructor
  · intro i k c d hi hk hc hd
    obtain ⟨f, hf⟩ := Option.isSome_iff_exists.mp hc
    obtain ⟨g, hg⟩ := Option.isSome_iff_exists.mp hd
    have hp := (hs.ok i c hi).mine f hf
    rw [(hs.ok k d hk).mine g hg] at hp
    cases hp
    exact hs.one i k c d f hi hk hf hg
  · intro i c f hi
    exact (hs.ok i c hi).mine f

lemma inv_empty : empty.Inv := by
  constructor <;> intros <;> simp_all [empty]

lemma Inv.callers (hs : s.Inv) {m : FiniteMap ℕ LockCaller}
    (hok : ∀ k d, m.get k = some d → d.stage.Ok s d.pid)
    (hheld : ∀ k d f, m.get k = some d → d.stage.holds = some f →
      ∃ d', s.callers.get k = some d' ∧ d'.stage.holds = some f)
    (hold : ∀ k d, m.get k = some d → k < s.next) : Inv { s with callers := m } := by
  constructor
  · intro k d hk
    obtain ⟨h₁, h₂, h₃, h₄, h₅, h₆, h₇, h₈⟩ := hok k d hk
    refine ⟨h₁, h₂, h₃, h₄, h₅, h₆, ?_, h₈⟩
    intro a f hf k d hk hd
    obtain ⟨d', hk', hd'⟩ := hheld k d f hk hd
    exact h₇ a f hf k d' hk' hd'
  · intro a b x y f ha hb hx hy
    obtain ⟨x', ha', hx'⟩ := hheld a x f ha hx
    obtain ⟨y', hb', hy'⟩ := hheld b y f hb hy
    exact hs.one a b x' y' f ha' hb' hx' hy'
  · exact hs.pathOld
  · exact hs.ownersOld
  · exact hold

lemma Inv.go (hs : s.Inv) (hi : s.callers.get i = some c) (ht : t.Ok s c.pid)
    (hh : ∀ f, t.holds = some f → c.stage.holds = some f) : (s.go i c.pid t).Inv := by
  apply hs.callers
  · intro k d hk
    rw [FiniteMap.get_set] at hk
    split_ifs at hk
    · cases hk
      exact ht
    · exact hs.ok k d hk
  · intro k d f hk hf
    rw [FiniteMap.get_set] at hk
    split_ifs at hk with h
    · cases hk
      subst h
      exact ⟨c, hi, hh f hf⟩
    · exact ⟨d, hk, hf⟩
  · intro k d hk
    rw [FiniteMap.get_set] at hk
    split_ifs at hk with h
    · subst h
      exact hs.callersOld k c hi
    · exact hs.callersOld k d hk

lemma Inv.quit (hs : s.Inv) (i : ℕ) : (s.quit i).Inv := by
  apply hs.callers
  · intro k d hk
    exact hs.ok k d (FiniteMap.get_of_remove hk)
  · intro k d f hk hf
    exact ⟨d, FiniteMap.get_of_remove hk, hf⟩
  · intro k d hk
    exact hs.callersOld k d (FiniteMap.get_of_remove hk)

lemma Inv.unlink (hs : s.Inv) (h : ∀ k d, s.callers.get k = some d → d.stage.holds = none) :
    s.unlink.Inv := by
  constructor
  · intro k d hk
    obtain ⟨h₁, _, h₃, h₄, h₅, h₆, h₇, h₈⟩ := hs.ok k d hk
    refine ⟨h₁, ?_, h₃, h₄, h₅, h₆, h₇, h₈⟩
    intro f hf
    rw [h k d hk] at hf
    cases hf
  · exact hs.one
  · intro f hf
    cases hf
  · exact hs.ownersOld
  · exact hs.callersOld

lemma Inv.create (hs : s.Inv) (hi : s.callers.get i = some c) (hp : s.path = none) :
    (s.create.go i c.pid (.stamp s.next)).Inv := by
  have hnone : ∀ k d f, s.callers.get k = some d → d.stage.holds ≠ some f := by
    intro k d f hk hf
    have := (hs.ok k d hk).mine f hf
    rw [hp] at this
    cases this
  have hget : ∀ k d, (s.create.go i c.pid (.stamp s.next)).callers.get k = some d →
      k = i ∧ d = ⟨c.pid, .stamp s.next⟩ ∨ s.callers.get k = some d := by
    intro k d hk
    simp only [LockDir.go, LockDir.create, FiniteMap.get_set] at hk
    split_ifs at hk with h
    · cases hk
      exact Or.inl ⟨h, rfl⟩
    · exact Or.inr hk
  constructor
  · intro k d hk
    obtain ⟨rfl, rfl⟩ | hk := hget k d hk
    · constructor
      · exact (hs.ok k c hi).runs
      · exact fun f hf => hf
      · intro f hf
        cases hf
        apply Option.eq_none_iff_forall_not_mem.mpr
        intro o ho
        exact Nat.lt_irrefl _ (hs.ownersOld _ o ho)
      · nofun
      · nofun
      · nofun
      · nofun
      · intro f hf
        cases hf
        exact Nat.lt_succ_self _
    · obtain ⟨h₁, _, h₃, h₄, h₅, h₆, _, h₈⟩ := hs.ok k d hk
      refine ⟨h₁, ?_, h₃, h₄, h₅, h₆, ?_, fun f hf => Nat.lt_succ_of_lt (h₈ f hf)⟩
      · intro f hf
        exact absurd hf (hnone k d f hk)
      · intro a f hf k' d' hk' hd'
        obtain ⟨rfl, rfl⟩ | hk' := hget k' d' hk'
        · cases hd'
          rw [hf] at h₈
          exact Nat.lt_irrefl _ (h₈ _ rfl)
        · exact hnone k' d' f hk' hd'
  · intro a b x y f ha hb hx hy
    obtain ⟨rfl, rfl⟩ | ha := hget a x ha
    · obtain ⟨rfl, rfl⟩ | hb := hget b y hb
      · rfl
      · exact absurd hy (hnone b y f hb)
    · exact absurd hx (hnone a x f ha)
  · intro f hf
    cases hf
    exact Nat.lt_succ_self _
  · intro f o ho
    exact Nat.lt_succ_of_lt (hs.ownersOld f o ho)
  · intro k d hk
    obtain ⟨rfl, rfl⟩ | hk := hget k d hk
    · exact Nat.lt_succ_of_lt (hs.callersOld k c hi)
    · exact Nat.lt_succ_of_lt (hs.callersOld k d hk)

lemma Inv.write (hs : s.Inv) {f st : ℕ} (hi : s.callers.get i = some c) (hc : c.stage = .held f)
    (hblank : s.owners.get f = none) (hp : s.procs.get c.pid = some st) :
    (s.write f ⟨c.pid, st⟩).Inv := by
  have hmine : ∀ k d, s.callers.get k = some d → d.stage.holds = some f → k = i ∧ d = c := by
    intro k d hk hd
    obtain rfl := hs.one k i d c f hk hi hd (by rw [hc, LockStage.holds])
    rw [hk] at hi
    cases hi
    exact ⟨rfl, rfl⟩
  constructor
  · intro k d hk
    obtain ⟨h₁, h₂, h₃, h₄, h₅, h₆, h₇, h₈⟩ := hs.ok k d hk
    refine ⟨h₁, h₂, ?_, h₄, ?_, ?_, h₇, h₈⟩
    · intro g hg
      have hne : g ≠ f := by
        rintro rfl
        obtain ⟨_, rfl⟩ := hmine k d hk (LockStage.holds_of_fresh hg)
        simp [hc, LockStage.fresh] at hg
      simpa only [LockDir.write, FiniteMap.get_set_ne _ _ hne] using h₃ g hg
    · intro g o hg ho
      simp only [LockDir.write, FiniteMap.get_set] at ho
      split_ifs at ho with h
      · subst h
        cases ho
        obtain ⟨_, rfl⟩ := hmine k d hk (by rw [hg, LockStage.holds])
        exact ⟨rfl, hp⟩
      · exact h₅ g o hg ho
    · intro a g o hg
      have ho := h₆ a g o hg
      have hne : g ≠ f := by
        rintro rfl
        rw [hblank] at ho
        cases ho
      simpa only [LockDir.write, FiniteMap.get_set_ne _ _ hne] using ho
  · exact hs.one
  · exact hs.pathOld
  · intro g o ho
    simp only [LockDir.write, FiniteMap.get_set] at ho
    split_ifs at ho with h
    · subst h
      apply (hs.ok i c hi).old
      rw [hc, LockStage.file]
    · exact hs.ownersOld g o ho
  · exact hs.callersOld

lemma Inv.idle (hs : s.Inv) {f : ℕ} (hp : s.path.all (· = f))
    (hf : ∀ k d, s.callers.get k = some d → d.stage.holds ≠ some f) :
    ∀ k d, s.callers.get k = some d → d.stage.holds = none := by
  intro k d hk
  cases hd : d.stage.holds with
  | none => rfl
  | some g =>
    rw [(hs.ok k d hk).mine g hd] at hp
    simp at hp
    subst hp
    exact absurd hd (hf k d hk)

lemma Inv.dead (hs : s.Inv) {f : ℕ} {o : LockOwner} (ho : s.owners.get f = some o)
    (hd : s.procs.get o.pid ≠ some o.starttime) :
    ∀ k d, s.callers.get k = some d → d.stage.holds ≠ some f := by
  intro k d hk hf
  have hok := hs.ok k d hk
  cases hstage : d.stage with
  | held g =>
    rw [hstage, LockStage.holds] at hf
    cases hf
    obtain ⟨hpid, hlive⟩ := hok.filled f o hstage ho
    rw [hpid] at hd
    exact hd hlive
  | stamp g | fill g st =>
    rw [hstage, LockStage.holds] at hf
    cases hf
    have := hok.blank f (by rw [hstage, LockStage.fresh])
    rw [ho] at this
    cases this
  | _ =>
    rw [hstage] at hf
    cases hf

lemma Inv.searching (hs : s.Inv) (hi : s.callers.get i = some c) (ht : t.file = none) :
    (s.go i c.pid t).Inv := by
  have hnone : ∀ f, t.holds ≠ some f := by
    intro f hf
    rw [LockStage.file_of_holds hf] at ht
    cases ht
  apply hs.go hi
  · refine ⟨(hs.ok i c hi).runs, ?_, ?_, ?_, ?_, ?_, ?_, ?_⟩
    · exact fun f hf => absurd hf (hnone f)
    · exact fun f hf => absurd (LockStage.holds_of_fresh hf) (hnone f)
    · rintro f st rfl
      cases ht
    · rintro f o rfl
      cases ht
    · rintro a f o rfl
      cases ht
    · rintro a f rfl
      cases ht
    · intro f hf
      rw [ht] at hf
      cases hf
  · exact fun f hf => absurd hf (hnone f)

theorem Inv.act (hs : s.Inv) (hi : s.callers.get i = some c) (ok : Bool)
    (ho : s.sound (.act i ok)) : (s.act i c.pid ok c.stage).Inv := by
  have hok := hs.ok i c hi
  obtain ⟨st, hst⟩ := hok.runs
  simp only [sound, hi, Option.all_some] at ho
  cases hstage : c.stage with
  | create attempt =>
    cases ok with
    | false => exact hs.quit i
    | true =>
      cases hp : s.path with
      | none => simpa [LockDir.act, hp] using hs.create hi hp
      | some f => simpa [LockDir.act, hp] using hs.searching hi rfl
  | stamp f =>
    rw [hstage] at ho hok
    simp only [LockDir.act, ho, if_true, hst, Option.getD_some]
    apply hs.go hi
    · refine ⟨⟨st, hst⟩, hok.mine, hok.blank, ?_, ?_, ?_, ?_, hok.old⟩
      · rintro _ _ ⟨⟩
        exact hst
      all_goals nofun
    · intro g hg
      rwa [hstage]
  | fill f start =>
    rw [hstage] at hok
    have hheld : LockStage.Ok s c.pid (.held f) := by
      refine ⟨⟨st, hst⟩, hok.mine, nofun, nofun, ?_, nofun, nofun, hok.old⟩
      rintro _ o ⟨⟩ hf
      rw [hok.blank f rfl] at hf
      cases hf
    have hgo : (s.go i c.pid (.held f)).Inv := by
      apply hs.go hi hheld
      intro g hg
      rwa [hstage]
    cases ok with
    | false => exact hgo
    | true =>
      apply hgo.write (c := ⟨c.pid, .held f⟩) (i := i)
      · exact FiniteMap.get_set_self _ _ _
      · rfl
      · exact hok.blank f rfl
      · exact hok.stamped f start rfl
  | held f =>
    have hquit := hs.quit i
    cases ok with
    | false => exact hquit
    | true =>
      apply hquit.unlink
      intro k d hk
      have hne : k ≠ i := by
        rintro rfl
        simp [LockDir.quit] at hk
      have hk := FiniteMap.get_of_remove hk
      cases hd : d.stage.holds with
      | none => rfl
      | some g =>
        exact absurd (hs.exclusive.one k i d c hk hi (by rw [hd]; rfl) (by rw [hstage]; rfl)) hne
  | check attempt =>
    cases hp : s.path with
    | none => simpa [LockDir.act, hp] using hs.quit i
    | some f =>
      cases ok with
      | false => simpa [LockDir.act, hp] using hs.quit i
      | true =>
        simp only [LockDir.act, hp, if_true]
        apply hs.go hi
        · refine ⟨⟨st, hst⟩, nofun, nofun, nofun, nofun, nofun, nofun, ?_⟩
          rintro _ ⟨⟩
          exact hs.pathOld f hp
        · nofun
  | read attempt f =>
    rw [hstage] at hok
    cases howner : s.owners.get f with
    | none => simpa [LockDir.act, howner] using hs.quit i
    | some o =>
      cases ok with
      | false => simpa [LockDir.act, howner] using hs.quit i
      | true =>
        simp only [LockDir.act, howner, if_true]
        apply hs.go hi
        · refine ⟨⟨st, hst⟩, nofun, nofun, nofun, nofun, ?_, nofun, hok.old⟩
          rintro _ _ _ ⟨⟩
          exact howner
        · nofun
  | judge attempt f o =>
    rw [hstage] at ho hok
    by_cases hlive : s.procs.get o.pid = some o.starttime
    · simpa [LockDir.act, ho, hlive] using hs.quit i
    · simp only [LockDir.act, hlive, and_false, if_false]
      apply hs.go hi
      · refine ⟨⟨st, hst⟩, nofun, nofun, nofun, nofun, nofun, ?_, hok.old⟩
        rintro _ _ ⟨⟩
        exact hs.dead (hok.seen attempt f o rfl) hlive
      · nofun
  | reap attempt f =>
    rw [hstage] at ho hok
    cases ok with
    | false => simpa [LockDir.act] using hs.quit i
    | true =>
      have hfree := hs.unlink (hs.idle (by simpa using ho) (hok.judged attempt f rfl))
      simp only [LockDir.act, true_and]
      split_ifs
      · exact hfree.quit i
      · exact hfree.searching hi rfl
      · exact hs.quit i

lemma Inv.boot (hs : s.Inv) {pid : ℕ} (h : s.procs.get pid = none) (st : ℕ) :
    Inv { s with procs := s.procs.set pid st } := by
  have hget : ∀ p t, s.procs.get p = some t → (s.procs.set pid st).get p = some t := by
    intro p t hp
    have hne : p ≠ pid := by
      rintro rfl
      rw [h] at hp
      cases hp
    rwa [FiniteMap.get_set_ne _ _ hne]
  constructor
  · intro k d hk
    obtain ⟨⟨t, ht⟩, h₂, h₃, h₄, h₅, h₆, h₇, h₈⟩ := hs.ok k d hk
    refine ⟨⟨t, hget _ _ ht⟩, h₂, h₃, ?_, ?_, h₆, h₇, h₈⟩
    · intro f t' hf
      exact hget _ _ (h₄ f t' hf)
    · intro f o hf ho
      obtain ⟨hp, hl⟩ := h₅ f o hf ho
      exact ⟨hp, hget _ _ hl⟩
  · exact hs.one
  · exact hs.pathOld
  · exact hs.ownersOld
  · exact hs.callersOld

lemma Inv.die (hs : s.Inv) (pid : ℕ) : Inv { s with
    procs := s.procs.remove pid, callers := s.callers.retain fun _ c => c.pid ≠ pid } := by
  have hget : ∀ k d, (s.callers.retain fun _ c => c.pid ≠ pid).get k = some d →
      s.callers.get k = some d ∧ d.pid ≠ pid := by
    intro k d hk
    rw [FiniteMap.get_retain, Option.filter_eq_some_iff] at hk
    simpa using hk
  constructor
  · intro k d hk
    obtain ⟨hk, hne⟩ := hget k d hk
    obtain ⟨⟨t, ht⟩, h₂, h₃, h₄, h₅, h₆, h₇, h₈⟩ := hs.ok k d hk
    refine ⟨⟨t, ?_⟩, h₂, h₃, ?_, ?_, h₆, ?_, h₈⟩
    · rwa [FiniteMap.get_remove_ne _ hne]
    · intro f t' hf
      rw [FiniteMap.get_remove_ne _ hne]
      exact h₄ f t' hf
    · intro f o hf ho
      rw [FiniteMap.get_remove_ne _ hne]
      exact h₅ f o hf ho
    · intro a f hf k' d' hk'
      exact h₇ a f hf k' d' (hget k' d' hk').1
  · intro a b x y f ha hb
    exact hs.one a b x y f (hget a x ha).1 (hget b y hb).1
  · exact hs.pathOld
  · exact hs.ownersOld
  · intro k d hk
    exact hs.callersOld k d (hget k d hk).1

lemma Inv.acquire (hs : s.Inv) {pid st : ℕ} (h : s.procs.get pid = some st) : Inv { s with
    callers := s.callers.set s.next ⟨pid, .create 0⟩, next := s.next + 1 } := by
  have hget : ∀ k d, (s.callers.set s.next ⟨pid, .create 0⟩).get k = some d →
      k = s.next ∧ d = ⟨pid, .create 0⟩ ∨ s.callers.get k = some d := by
    intro k d hk
    rw [FiniteMap.get_set] at hk
    split_ifs at hk with hne
    · cases hk
      exact Or.inl ⟨hne, rfl⟩
    · exact Or.inr hk
  have hheld : ∀ k d f, (s.callers.set s.next ⟨pid, .create 0⟩).get k = some d →
      d.stage.holds = some f → s.callers.get k = some d := by
    intro k d f hk hf
    obtain ⟨rfl, rfl⟩ | hk := hget k d hk
    · cases hf
    · exact hk
  constructor
  · intro k d hk
    obtain ⟨rfl, rfl⟩ | hk := hget k d hk
    · exact ⟨⟨st, h⟩, nofun, nofun, nofun, nofun, nofun, nofun, nofun⟩
    · obtain ⟨h₁, h₂, h₃, h₄, h₅, h₆, h₇, h₈⟩ := hs.ok k d hk
      refine ⟨h₁, h₂, h₃, h₄, h₅, h₆, ?_, fun f hf => Nat.lt_succ_of_lt (h₈ f hf)⟩
      intro a f hf k' d' hk' hd'
      exact h₇ a f hf k' d' (hheld k' d' f hk' hd') hd'
  · intro a b x y f ha hb hx hy
    exact hs.one a b x y f (hheld a x f ha hx) (hheld b y f hb hy) hx hy
  · intro f hf
    exact Nat.lt_succ_of_lt (hs.pathOld f hf)
  · intro f o ho
    exact Nat.lt_succ_of_lt (hs.ownersOld f o ho)
  · intro k d hk
    obtain ⟨rfl, rfl⟩ | hk := hget k d hk
    · exact Nat.lt_succ_self _
    · exact Nat.lt_succ_of_lt (hs.callersOld k d hk)

theorem Inv.step (hs : s.Inv) (ev : LockEvent) (ho : s.sound ev) : (s.step ev).Inv := by
  cases ev with
  | boot pid st =>
    simp only [LockDir.step]
    split
    · next h => exact hs.boot h st
    · exact hs
  | die pid => exact hs.die pid
  | acquire pid =>
    simp only [LockDir.step]
    split
    · next h => exact hs.acquire h
    · exact hs
  | act i ok =>
    simp only [LockDir.step]
    split
    · next c h => exact hs.act h ok ho
    · exact hs

/-- The lock is one caller's at most in every run of which each reap removes the file that has been
judged. -/
theorem lock_exclusive (events : List LockEvent)
    (h : Along LockDir.step (fun s ev => s.sound ev) empty events) :
    (run LockDir.step empty events).Exclusive :=
  (run_invariant inv_empty (fun _ ev hs ho => hs.step ev ho) h).exclusive

theorem lock_exclusive_reaped :
    (run LockDir.step empty
      (([.boot 4 1, .acquire 4, .act 0 true, .act 0 true, .act 0 true, .die 4, .boot 5 2,
        .acquire 5] : List LockEvent) ++ List.replicate 8 (LockEvent.act 2 true) ++
        ([.boot 6 3, .acquire 6] : List LockEvent) ++
        List.replicate 4 (LockEvent.act 4 true))).Exclusive :=
  lock_exclusive _ (by decide)

/-- Two callers judge the lock of a dead process. The first reaps it and takes the lock, and the
second reaps the lock of the first. -/
def reapedTwice : List LockEvent :=
  ([.boot 4 1, .acquire 4, .act 0 true, .act 0 true, .act 0 true, .die 4, .boot 5 2, .boot 6 3,
    .acquire 5, .acquire 6] : List LockEvent) ++
    List.replicate 4 (LockEvent.act 2 true) ++ List.replicate 4 (LockEvent.act 3 true) ++
    List.replicate 4 (LockEvent.act 2 true) ++ List.replicate 4 (LockEvent.act 3 true)

/-- Then both have the lock, and what the first drops is the file of the second. -/
theorem lock_taken_twice :
    (run LockDir.step empty reapedTwice).callers.get 2 = some ⟨5, .held 4⟩ ∧
      (run LockDir.step empty reapedTwice).callers.get 3 = some ⟨6, .held 5⟩ ∧
      (run LockDir.step empty (reapedTwice ++ [.act 2 true])).path = none ∧
      (run LockDir.step empty (reapedTwice ++ [.act 2 true])).callers.get 3 = some ⟨6, .held 5⟩ ∧
      ¬(run LockDir.step empty reapedTwice).Exclusive := by
  refine ⟨by decide, by decide, by decide, by decide, ?_⟩
  intro h
  have := h.one 2 3 ⟨5, .held 4⟩ ⟨6, .held 5⟩ (by decide) (by decide) rfl rfl
  cases this

end LockDir

end MediaServo.Weaknet
