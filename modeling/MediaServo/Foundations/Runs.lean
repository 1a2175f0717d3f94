import Mathlib.Data.List.Basic
import Mathlib.Tactic

/-! Runs of a deterministic step function over a list of actions. `Along` says that a
condition on the state before a step and on the action holds at every step of a run,
`Happened` that it holds at some step, and `Since` that it held at some step and another
condition at no later one. -/

namespace MediaServo.Foundations

variable {σ α : Type}

def run (step : σ → α → σ) (s : σ) (acts : List α) : σ := acts.foldl step s

def Along (step : σ → α → σ) (C : σ → α → Prop) : σ → List α → Prop
  | _, [] => True
  | s, a :: acts => C s a ∧ Along step C (step s a) acts

def Happened (step : σ → α → σ) (C : σ → α → Prop) (s : σ) (acts : List α) : Prop :=
  ∃ as a bs, acts = as ++ a :: bs ∧ C (run step s as) a

def Since (step : σ → α → σ) (C D : σ → α → Prop) (s : σ) (acts : List α) : Prop :=
  ∃ as a bs, acts = as ++ a :: bs ∧ C (run step s as) a ∧
    Along step (fun t b => ¬D t b) (step (run step s as) a) bs

variable {step : σ → α → σ} {C D : σ → α → Prop} {s : σ}

@[simp] lemma run_nil : run step s [] = s := rfl

@[simp] lemma run_cons (a : α) (acts : List α) :
    run step s (a :: acts) = run step (step s a) acts := rfl

lemma run_append (as bs : List α) : run step s (as ++ bs) = run step (run step s as) bs :=
  List.foldl_append

lemma run_snoc (as : List α) (a : α) : run step s (as ++ [a]) = step (run step s as) a := by
  rw [run_append, run_cons, run_nil]

lemma run_hom {τ : Type} {step' : τ → α → τ} (f : σ → τ) (h : ∀ t a, f (step t a) = step' (f t) a)
    (acts : List α) : f (run step s acts) = run step' (f s) acts := by
  induction acts generalizing s with
  | nil => rfl
  | cons a acts ih => rw [run_cons, run_cons, ih, h]

instance [∀ t a, Decidable (C t a)] : (s : σ) → (acts : List α) → Decidable (Along step C s acts)
  | _, [] => inferInstanceAs (Decidable True)
  | s, a :: acts =>
      haveI := instDecidableAlong (step s a) acts
      inferInstanceAs (Decidable (C s a ∧ Along step C (step s a) acts))

lemma along_append (as bs : List α) :
    Along step C s (as ++ bs) ↔ Along step C s as ∧ Along step C (run step s as) bs := by
  induction as generalizing s with
  | nil => simp [Along]
  | cons a as ih => simp [Along, ih, and_assoc]

lemma along_congr (h : ∀ t a, C t a ↔ D t a) {acts : List α} :
    Along step C s acts ↔ Along step D s acts := by
  have : C = D := by
    funext t a
    exact propext (h t a)
  rw [this]

lemma Along.mono {acts : List α} (h : Along step C s acts) (hCD : ∀ t a, C t a → D t a) :
    Along step D s acts := by
  induction acts generalizing s with
  | nil => trivial
  | cons a acts ih => exact ⟨hCD s a h.1, ih h.2⟩

lemma along_of_no_trace {T : σ → Prop} (hleave : ∀ t a, ¬C t a → T (step t a))
    (hkeep : ∀ t a, T t → T (step t a)) {acts : List α} (h : ¬T (run step s acts)) :
    Along step C s acts := by
  induction acts using List.reverseRecOn with
  | nil => trivial
  | append_singleton as a ih =>
    rw [run_snoc] at h
    refine (along_append as [a]).mpr ⟨ih fun ht => h (hkeep _ a ht), ?_, trivial⟩
    by_contra hc
    exact h (hleave _ a hc)

lemma Along.and {acts : List α} (h : Along step C s acts) (k : Along step D s acts) :
    Along step (fun t a => C t a ∧ D t a) s acts := by
  induction acts generalizing s with
  | nil => trivial
  | cons a acts ih => exact ⟨⟨h.1, k.1⟩, ih h.2 k.2⟩

theorem run_invariant {I : σ → Prop} (hs : I s) (hstep : ∀ t a, I t → C t a → I (step t a))
    {acts : List α} (ha : Along step C s acts) : I (run step s acts) := by
  induction acts generalizing s with
  | nil => exact hs
  | cons a acts ih => exact ih (hstep s a hs ha.1) ha.2

theorem run_preserves {I : σ → Prop} (hs : I s) (hstep : ∀ t a, I t → I (step t a))
    (acts : List α) : I (run step s acts) := by
  induction acts generalizing s with
  | nil => exact hs
  | cons a acts ih => exact ih (hstep s a hs)

lemma Happened.snoc {acts : List α} (h : Happened step C s acts) (a : α) :
    Happened step C s (acts ++ [a]) := by
  obtain ⟨as, b, bs, rfl, hb⟩ := h
  exact ⟨as, b, bs ++ [a], by simp, hb⟩

lemma happened_last {acts : List α} {a : α} (h : C (run step s acts) a) :
    Happened step C s (acts ++ [a]) :=
  ⟨acts, a, [], rfl, h⟩

lemma not_since_nil : ¬Since step C D s [] := by
  rintro ⟨as, a, bs, h, _⟩
  simp at h

lemma since_snoc {acts : List α} {a : α} :
    Since step C D s (acts ++ [a]) ↔
      C (run step s acts) a ∨ (Since step C D s acts ∧ ¬D (run step s acts) a) := by
  constructor
  · rintro ⟨as, b, bs, h, hc, hd⟩
    induction bs using List.reverseRecOn with
    | nil =>
      obtain ⟨rfl, hb⟩ := List.append_inj' h rfl
      cases hb
      exact Or.inl hc
    | append_singleton bs c _ =>
      rw [← List.cons_append, ← List.append_assoc] at h
      obtain ⟨rfl, hb⟩ := List.append_inj' h rfl
      cases hb
      obtain ⟨hbs, ha⟩ := (along_append bs [a]).mp hd
      rw [← run_cons, ← run_append] at ha
      exact Or.inr ⟨⟨as, b, bs, rfl, hc, hbs⟩, ha.1⟩
  · rintro (hc | ⟨⟨as, b, bs, rfl, hc, hbs⟩, hd⟩)
    · exact ⟨acts, a, [], rfl, hc, trivial⟩
    · refine ⟨as, b, bs ++ [a], by simp, hc, (along_append bs [a]).mpr ⟨hbs, ?_, trivial⟩⟩
      rwa [run_append, run_cons] at hd

lemma exists_last {κ : Type} {P : κ → σ → α → Prop} {acts : List α}
    (h : Happened step (fun t a => ∃ k, P k t a) s acts) :
    ∃ k, Since step (P k) (fun t a => ∃ k, P k t a) s acts := by
  obtain ⟨as, a, bs, rfl, k, hk⟩ := h
  induction bs using List.reverseRecOn with
  | nil => exact ⟨k, since_snoc.2 (Or.inl hk)⟩
  | append_singleton bs b ih =>
    rw [← List.cons_append, ← List.append_assoc]
    by_cases hb : ∃ k, P k (run step s (as ++ a :: bs)) b
    · obtain ⟨k', hk'⟩ := hb
      exact ⟨k', since_snoc.2 (Or.inl hk')⟩
    · obtain ⟨k', hk'⟩ := ih
      exact ⟨k', since_snoc.2 (Or.inr ⟨hk', hb⟩)⟩

theorem history_invariant {I : List α → σ → Prop} {P : α → Prop} (hs : I [] s)
    (hstep : ∀ as a, P a → I as (run step s as) → I (as ++ [a]) (step (run step s as) a))
    {acts : List α} (hP : ∀ a ∈ acts, P a) : I acts (run step s acts) := by
  induction acts using List.reverseRecOn with
  | nil => exact hs
  | append_singleton as a ih =>
    rw [run_snoc]
    apply hstep as a (hP a (by simp))
    exact ih (fun b hb => hP b (by simp [hb]))

end MediaServo.Foundations

