import Mathlib.Data.List.Nodup
import Mathlib.Tactic

/-! Lists ordered by a rank, those of one rank in the order in which they came. -/

namespace MediaServo.Foundations

variable {α : Type} {rank : α → ℕ} {ks : List ℕ} {l : List α} {R : α → α → Prop}

def byRank (rank : α → ℕ) (ks : List ℕ) (l : List α) : List α :=
  ks.flatMap fun k => l.filter fun a => rank a = k

lemma mem_byRank {a : α} : a ∈ byRank rank ks l ↔ a ∈ l ∧ rank a ∈ ks := by
  simp only [byRank, List.mem_flatMap, List.mem_filter, decide_eq_true_eq]
  constructor
  · rintro ⟨k, hk, ha, rfl⟩
    exact ⟨ha, hk⟩
  · intro ⟨ha, hk⟩
    exact ⟨rank a, hk, ha, rfl⟩

lemma byRank_perm (hks : ks.Nodup) (h : ∀ a ∈ l, rank a ∈ ks) : (byRank rank ks l).Perm l := by
  induction ks generalizing l with
  | nil =>
    cases l with
    | nil => exact .nil
    | cons a l => cases h a List.mem_cons_self
  | cons k ks ih =>
    have hk : k ∉ ks := (List.nodup_cons.mp hks).1
    have hrest : byRank rank ks l = byRank rank ks (l.filter fun a => !decide (rank a = k)) := by
      apply List.flatMap_congr
      intro k' hk'
      rw [List.filter_filter]
      apply List.filter_congr
      intro a _
      by_cases ha : rank a = k'
      · have hne : rank a ≠ k := fun he => hk (he ▸ ha ▸ hk')
        simp [ha, ha ▸ hne]
      · simp [ha]
    have hperm : (byRank rank ks l).Perm (l.filter fun a => !decide (rank a = k)) := by
      rw [hrest]
      apply ih (List.nodup_cons.mp hks).2
      intro a ha
      obtain ⟨hm, hne⟩ := List.mem_filter.mp ha
      obtain he | hr := List.mem_cons.mp (h a hm)
      · simp [he] at hne
      · exact hr
    exact (hperm.append_left _).trans (List.filter_append_perm _ l)

lemma byRank_map {β : Type} (f : β → α) (l : List β) :
    byRank rank ks (l.map f) = (byRank (fun b => rank (f b)) ks l).map f := by
  simp only [byRank, List.map_flatMap, List.filter_map]
  rfl

lemma byRank_pairwise (hks : ks.Pairwise (· < ·)) (h : ∀ a ∈ l, rank a ∈ ks) :
    (byRank rank ks l).Pairwise R ↔
      (∀ a ∈ l, ∀ b ∈ l, rank a < rank b → R a b) ∧
        l.Pairwise fun a b => rank a = rank b → R a b := by
  simp only [byRank, List.pairwise_flatMap, List.mem_filter, decide_eq_true_eq]
  constructor
  · intro ⟨hsame, hless⟩
    refine ⟨?_, ?_⟩
    · intro a ha b hb hab
      have hpair := List.pairwise_iff_getElem.mp hless
      obtain ⟨i, hi, hia⟩ := List.getElem_of_mem (h a ha)
      obtain ⟨j, hj, hjb⟩ := List.getElem_of_mem (h b hb)
      have hij : i < j := by
        by_contra hc
        have hle := (List.pairwise_iff_getElem.mp hks) j i hj hi
        obtain hlt | heq := Nat.lt_or_eq_of_le (Nat.le_of_not_lt hc)
        · have := hle hlt
          omega
        · subst heq
          omega
      exact hpair i j hi hj hij a ⟨ha, hia.symm⟩ b ⟨hb, hjb.symm⟩
    · rw [List.pairwise_iff_forall_sublist]
      intro a b hab heq
      have hmem := hab.subset
      have hk := hsame (rank a) (h a (hmem (by simp)))
      rw [List.pairwise_filter, List.pairwise_iff_forall_sublist] at hk
      exact hk hab (by simp) (by simp [heq])
  · intro ⟨hless, hsame⟩
    refine ⟨?_, ?_⟩
    · intro k _
      rw [List.pairwise_filter]
      apply hsame.imp
      intro a b hab ha hb
      simp only [decide_eq_true_eq] at ha hb
      exact hab (ha.trans hb.symm)
    · apply hks.imp
      intro k k' hkk a ⟨ha, hak⟩ b ⟨hb, hbk⟩
      exact hless a ha b hb (by omega)

lemma findSome?_byRank {β : Type} {f : α → Option β} {b : β} (hks : ks.Pairwise (· < ·)) :
    (byRank rank ks l).findSome? f = some b ↔
      ∃ l₁ a l₂, l = l₁ ++ a :: l₂ ∧ f a = some b ∧ rank a ∈ ks ∧
        (∀ c ∈ l₁, rank c ∈ ks → f c ≠ none → rank a < rank c) ∧
        ∀ c ∈ l₂, rank c ∈ ks → f c ≠ none → rank a ≤ rank c := by
  induction ks with
  | nil => simp [byRank]
  | cons k ks ih =>
    obtain ⟨hlow, hks⟩ := List.pairwise_cons.mp hks
    have hsplit : byRank rank (k :: ks) l = (l.filter fun a => rank a = k) ++ byRank rank ks l := rfl
    have hnone : (l.filter fun a => rank a = k).findSome? f = none ↔
        ∀ c ∈ l, rank c = k → f c = none := by
      simp [List.findSome?_eq_none_iff]
    rw [hsplit, List.findSome?_append, Option.or_eq_some_iff, ih hks, hnone]
    constructor
    · rintro (h | ⟨hno, l₁, a, l₂, rfl, hf, ha, h₁, h₂⟩)
      · obtain ⟨m₁, a, m₂, hm, hf, hbefore⟩ := List.findSome?_eq_some_iff.mp h
        obtain ⟨l₁, l₂, rfl, rfl, hl₂⟩ := List.filter_eq_append_iff.mp hm
        obtain ⟨n₁, n₂, rfl, hn₁, ha, rfl⟩ := List.filter_eq_cons_iff.mp hl₂
        simp only [decide_eq_true_eq] at ha hn₁
        refine ⟨l₁ ++ n₁, a, n₂, by simp, hf, by simp [ha], ?_, ?_⟩
        · intro c hc hcm hcf
          obtain hck | hck := List.mem_cons.mp hcm
          · obtain hc | hc := List.mem_append.mp hc
            · exact absurd (hbefore c (by simp [hc, hck])) hcf
            · exact absurd hck (hn₁ c hc)
          · exact ha ▸ hlow _ hck
        · intro c _ hcm _
          obtain hck | hck := List.mem_cons.mp hcm
          · omega
          · have := hlow _ hck
            omega
      · refine ⟨l₁, a, l₂, rfl, hf, List.mem_cons_of_mem _ ha, ?_, ?_⟩
        · intro c hc hcm hcf
          obtain hck | hck := List.mem_cons.mp hcm
          · exact absurd (hno c (by simp [hc]) hck) hcf
          · exact h₁ c hc hck hcf
        · intro c hc hcm hcf
          obtain hck | hck := List.mem_cons.mp hcm
          · exact absurd (hno c (by simp [hc]) hck) hcf
          · exact h₂ c hc hck hcf
    · rintro ⟨l₁, a, l₂, rfl, hf, ha, h₁, h₂⟩
      obtain hak | hak := List.mem_cons.mp ha
      · left
        have hl₁ : (l₁.filter fun c => rank c = k).findSome? f = none := by
          rw [List.findSome?_eq_none_iff]
          intro c hc
          obtain ⟨hc, hck⟩ := List.mem_filter.mp hc
          simp only [decide_eq_true_eq] at hck
          by_contra hcf
          have := h₁ c hc (by simp [hck]) hcf
          omega
        simp [List.findSome?_append, hl₁, hak, hf]
      · right
        have hlt := hlow _ hak
        refine ⟨?_, l₁, a, l₂, rfl, hf, hak, fun c hc hcm => h₁ c hc (List.mem_cons_of_mem _ hcm),
          fun c hc hcm => h₂ c hc (List.mem_cons_of_mem _ hcm)⟩
        intro c hc hck
        by_contra hcf
        obtain hc | hc := List.mem_append.mp hc
        · have := h₁ c hc (by simp [hck]) hcf
          omega
        · obtain rfl | hc := List.mem_cons.mp hc
          · omega
          · have := h₂ c hc (by simp [hck]) hcf
            omega

end MediaServo.Foundations
