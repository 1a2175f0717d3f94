import MediaServo.Server.Heartbeat

/-! When the heartbeat of a session ends it: only pings and pongs of the peer count as signs of life,
and a budget that cannot be computed ends nothing. -/

namespace MediaServo.Server.Heartbeat

open MediaServo.Foundations

variable {checks : Bool} {cfg : Config} {limit : ℕ} {acts : List (ℕ × Event)} {t : ℕ} {e : Event}

/-- A tick of a task whose pings got out so far, later than the limit after the beginning and
after each sign. -/
def Overdue (limit : ℕ) (acts : List (ℕ × Event)) : Prop :=
  ∃ before t sent after, acts = before ++ (t, .tick sent) :: after ∧
    (∀ u, (u, .tick false) ∉ before) ∧ limit < t ∧ ∀ a, (a, .sign) ∈ before → a + limit < t

structure Knows (cfg : Config) (limit : ℕ) (acts : List (ℕ × Event)) (w : Watch) : Prop where
  sign : ∀ a, (a, .sign) ∈ acts → a ≤ w.lastAlive
  stamp : w.lastAlive = 0 ∨ (w.lastAlive, .sign) ∈ acts
  beating : w.beating = true ↔ 0 < cfg.interval ∧ w.dead = false ∧ ∀ u, (u, .tick false) ∉ acts
  dead : w.dead = true ↔ 0 < cfg.interval ∧ Overdue limit acts

lemma overdue_snoc : Overdue limit (acts ++ [(t, e)]) ↔ Overdue limit acts ∨
    (∃ sent, e = .tick sent) ∧ (∀ u, (u, .tick false) ∉ acts) ∧ limit < t ∧
      ∀ a, (a, .sign) ∈ acts → a + limit < t := by
  constructor
  · rintro ⟨before, u, sent, after, heq, hsent, hlate, hsigns⟩
    rcases List.eq_nil_or_concat after with rfl | ⟨init, last, rfl⟩
    · obtain ⟨rfl, hlast⟩ := List.append_inj' heq rfl
      cases hlast
      exact .inr ⟨⟨sent, rfl⟩, hsent, hlate, hsigns⟩
    · rw [List.concat_eq_append, ← List.cons_append, ← List.append_assoc] at heq
      exact .inl ⟨before, u, sent, init, (List.append_inj' heq rfl).1, hsent, hlate, hsigns⟩
  · rintro (⟨before, u, sent, after, rfl, h⟩ | ⟨⟨sent, rfl⟩, h⟩)
    · exact ⟨before, u, sent, after ++ [(t, e)], by simp, h⟩
    · exact ⟨acts, t, sent, [], rfl, h⟩

lemma mem_snoc {x : ℕ × Event} (h : x.2 ≠ e) : x ∈ acts ++ [(t, e)] ↔ x ∈ acts := by
  rw [List.mem_append, List.mem_singleton, or_iff_left]
  rintro rfl
  exact h rfl

lemma exceeded_iff {w : Watch} (h : Knows cfg limit acts w) :
    limit < t - w.lastAlive ↔ limit < t ∧ ∀ a, (a, .sign) ∈ acts → a + limit < t := by
  constructor
  · intro hlate
    refine ⟨by omega, ?_⟩
    intro a ha
    have := h.sign a ha
    omega
  · rintro ⟨hlate, hsigns⟩
    rcases h.stamp with hzero | hmem
    · omega
    · have := hsigns _ hmem
      omega

lemma exceeded_some {budget silent : ℕ}
    (hbudget : pongBudget checks cfg.interval (max cfg.miss 1) = some budget) :
    pongBudgetExceeded checks silent cfg.interval (max cfg.miss 1) =
      some (decide (seconds budget < silent)) := by
  rw [pongBudgetExceeded, hbudget, Option.map_some]

lemma Knows.step {budget : ℕ}
    (hbudget : pongBudget checks cfg.interval (max cfg.miss 1) = some budget) {w : Watch}
    (h : Knows cfg (seconds budget) acts w) (hlast : ∀ x ∈ acts, x.1 ≤ t) :
    Knows cfg (seconds budget) (acts ++ [(t, e)]) (step checks cfg w (t, e)) := by
  cases e with
  | sign =>
    refine ⟨?_, .inr (by simp [Heartbeat.step]), ?_, ?_⟩
    · intro a ha
      rcases List.mem_append.mp ha with ha | ha
      · exact hlast _ ha
      · cases List.mem_singleton.mp ha
        exact le_rfl
    · simp only [mem_snoc (e := .sign) (x := (_, .tick false)) (by simp)]
      exact h.beating
    · rw [overdue_snoc]
      simpa [Heartbeat.step] using h.dead
  | frame =>
    refine ⟨?_, ?_, ?_, ?_⟩
    · simpa [Heartbeat.step] using h.sign
    · simpa [Heartbeat.step] using h.stamp
    · simpa [Heartbeat.step] using h.beating
    · rw [overdue_snoc]
      simpa [Heartbeat.step] using h.dead
  | tick sent =>
    have hsign (a : ℕ) : (a, Event.sign) ∈ acts ++ [(t, .tick sent)] ↔ (a, Event.sign) ∈ acts :=
      mem_snoc (by simp)
    rw [Heartbeat.step]
    simp only [exceeded_some hbudget]
    split_ifs with hbeating
    · obtain ⟨hon, hdead, hsent⟩ := h.beating.mp hbeating
      by_cases hlate : seconds budget < t - w.lastAlive
      · simp only [decide_eq_true hlate]
        refine ⟨fun a ha => h.sign a ((hsign a).mp ha), h.stamp.imp_right (hsign _).mpr, by simp, ?_⟩
        simp only [overdue_snoc, true_iff]
        exact ⟨hon, .inr ⟨⟨sent, rfl⟩, hsent, (exceeded_iff h).mp hlate⟩⟩
      · simp only [decide_eq_false hlate]
        refine ⟨fun a ha => h.sign a ((hsign a).mp ha), h.stamp.imp_right (hsign _).mpr, ?_, ?_⟩
        · cases sent <;> simp [hon, hdead, hsent]
        · rw [h.dead, overdue_snoc, ← exceeded_iff h]
          simp [hlate]
    · refine ⟨fun a ha => h.sign a ((hsign a).mp ha), h.stamp.imp_right (hsign _).mpr, ?_, ?_⟩
      · constructor
        · exact fun hb => absurd hb hbeating
        · rintro ⟨hon, hdead, hsent⟩
          refine h.beating.mpr ⟨hon, hdead, fun u hu => hsent u (List.mem_append_left _ hu)⟩
      · rw [h.dead, overdue_snoc]
        constructor
        · exact fun hd => ⟨hd.1, .inl hd.2⟩
        · rintro ⟨hon, hover | ⟨_, hsent, _⟩⟩
          · exact ⟨hon, hover⟩
          · by_contra hno
            refine hbeating (h.beating.mpr ⟨hon, ?_, hsent⟩)
            rw [← Bool.not_eq_true, h.dead]
            exact hno

lemma knows_run {budget : ℕ}
    (hbudget : pongBudget checks cfg.interval (max cfg.miss 1) = some budget)
    (hsorted : acts.Pairwise fun x y => x.1 ≤ y.1) :
    Knows cfg (seconds budget) acts (run (step checks cfg) (start cfg) acts) := by
  induction acts using List.reverseRecOn with
  | nil =>
    have hnever : ¬Overdue (seconds budget) [] := by
      rintro ⟨before, _, _, after, heq, _⟩
      simp at heq
    exact ⟨by simp, .inl rfl, by simp [start], by simp [start, hnever]⟩
  | append_singleton acts x ih =>
    obtain ⟨hacts, _, hlast⟩ := List.pairwise_append.mp hsorted
    rw [run_snoc]
    exact (ih hacts).step hbudget fun y hy => hlast y hy x (List.mem_singleton_self x)

lemma not_dead_of_panic (hbudget : pongBudget checks cfg.interval (max cfg.miss 1) = none)
    (acts : List (ℕ × Event)) : (run (step checks cfg) (start cfg) acts).dead = false := by
  apply run_preserves (I := fun w : Watch => w.dead = false) rfl
  rintro w ⟨t, e⟩ hw
  cases e with
  | sign => exact hw
  | frame => exact hw
  | tick sent =>
    simp only [Heartbeat.step, pongBudgetExceeded, hbudget, Option.map_none]
    split_ifs
    · exact hw
    · exact hw

/-- The heartbeat ends a session exactly when it is on, its budget can be computed, and a tick comes
later than the budget after every sign of its peer, while no ping failed to get out before; frames of
another kind do not count. -/
theorem heartbeat_ends_iff (checks : Bool) (cfg : Config) (acts : List (ℕ × Event))
    (hsorted : acts.Pairwise fun x y => x.1 ≤ y.1) :
    (run (step checks cfg) (start cfg) acts).dead = true ↔ 0 < cfg.interval ∧
      ∃ budget, pongBudget checks cfg.interval (max cfg.miss 1) = some budget ∧
        Overdue (seconds budget) acts := by
  cases hbudget : pongBudget checks cfg.interval (max cfg.miss 1) with
  | none => simp [not_dead_of_panic hbudget acts]
  | some budget =>
    rw [(knows_run hbudget hsorted).dead]
    simp

def fiveSeconds : Config := ⟨5, 2, by decide, by decide⟩

theorem heartbeat_ends_talkative :
    (run (step true fiveSeconds) (start fiveSeconds) [(seconds 5, .tick true), (seconds 9, .frame),
      (seconds 10, .tick true), (seconds 14, .frame), (seconds 15, .tick true),
      (seconds 19, .frame), (seconds 20, .tick true)]).dead = true := by
  refine (heartbeat_ends_iff true fiveSeconds _ (by decide)).mpr ⟨by decide, 15, by decide, ?_⟩
  exact ⟨[(seconds 5, .tick true), (seconds 9, .frame), (seconds 10, .tick true),
    (seconds 14, .frame), (seconds 15, .tick true), (seconds 19, .frame)], seconds 20, true, [], rfl,
    by simp, by decide, by simp⟩

/-- A budget of zero is over at the first tick. -/
example : pongBudget false 5 (2 ^ 32 - 1) = some 0 ∧ pongBudget true 5 (2 ^ 32 - 1) = none := by
  decide

end MediaServo.Server.Heartbeat
