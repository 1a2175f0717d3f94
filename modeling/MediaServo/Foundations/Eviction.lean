import MediaServo.Foundations.FiniteMap

/-! Eviction from a finite map: while the map is over a cap, an entry of least rank is dropped. -/

namespace MediaServo.Foundations.FiniteMap

variable {κ ν : Type} [DecidableEq κ]

def oldest (rank : ν → ℕ) (m : FiniteMap κ ν) : Option κ :=
  (m.toList.argmin (fun e => rank e.2)).map Prod.fst

def evictLoop (rank : ν → ℕ) (cap : ℕ) : ℕ → FiniteMap κ ν → FiniteMap κ ν
  | 0, m => m
  | fuel + 1, m =>
      if cap < m.size then
        match oldest rank m with
        | some k => evictLoop rank cap fuel (m.remove k)
        | none => m
      else m

/-- One unit of fuel per entry is enough, see `size_evict_le`. -/
def evict (rank : ν → ℕ) (cap : ℕ) (m : FiniteMap κ ν) : FiniteMap κ ν :=
  evictLoop rank cap m.size m

variable {rank : ν → ℕ} {cap : ℕ} {m : FiniteMap κ ν}

lemma oldest_spec {k : κ} (h : oldest rank m = some k) :
    ∃ v, m.get k = some v ∧ ∀ j w, m.get j = some w → rank v ≤ rank w := by
  obtain ⟨⟨k, v⟩, he, rfl⟩ := Option.map_eq_some_iff.mp h
  refine ⟨v, (mem_toList m k v).mp (List.argmin_mem he), fun j w hj => ?_⟩
  exact List.le_of_mem_argmin (f := fun e : κ × ν => rank e.2) ((mem_toList m j w).mpr hj) he

omit [DecidableEq κ] in
lemma oldest_isSome (h : 0 < m.size) : ∃ k, oldest rank m = some k := by
  cases ho : oldest rank m with
  | some k => exact ⟨k, rfl⟩
  | none =>
    rw [oldest, Option.map_eq_none_iff, List.argmin_eq_none] at ho
    simp [size, ho] at h

lemma get_of_evictLoop (fuel : ℕ) {k : κ} {v : ν} (h : (evictLoop rank cap fuel m).get k = some v) :
    m.get k = some v := by
  induction fuel generalizing m with
  | zero => exact h
  | succ fuel ih =>
    rw [evictLoop] at h
    split_ifs at h
    · split at h
      · exact get_of_remove (ih h)
      · exact h
    · exact h

lemma size_evictLoop (fuel : ℕ) (hf : m.size ≤ fuel) :
    (evictLoop rank cap fuel m).size = min cap m.size := by
  induction fuel generalizing m with
  | zero => simp only [evictLoop]; omega
  | succ fuel ih =>
    rw [evictLoop]
    split_ifs with hc
    · obtain ⟨k, hk⟩ : ∃ k, oldest rank m = some k := oldest_isSome (by omega)
      obtain ⟨v, hv, -⟩ := oldest_spec hk
      have hs := size_remove m hv
      simp only [hk]
      rw [ih (by omega)]
      omega
    · omega

lemma rank_evictLoop_le (fuel : ℕ) {j k : κ} {v w : ν} (hk : m.get k = some v)
    (hd : (evictLoop rank cap fuel m).get k = none)
    (hj : (evictLoop rank cap fuel m).get j = some w) : rank v ≤ rank w := by
  induction fuel generalizing m with
  | zero => rw [evictLoop, hk] at hd; contradiction
  | succ fuel ih =>
    rw [evictLoop] at hd hj
    split_ifs at hd hj with hc
    · split at hd
      · rename_i i hi
        simp only [hi] at hj
        obtain ⟨u, hu, hmin⟩ := oldest_spec hi
        by_cases hki : k = i
        · subst hki
          obtain rfl : u = v := Option.some.inj (hu.symm.trans hk)
          exact hmin j w (get_of_remove (get_of_evictLoop fuel hj))
        · exact ih (by rwa [get_remove_ne m hki]) hd hj
      · rw [hk] at hd; contradiction
    · rw [hk] at hd; contradiction

lemma get_of_evict {k : κ} {v : ν} (h : (evict rank cap m).get k = some v) : m.get k = some v :=
  get_of_evictLoop m.size h

lemma size_evict : (evict rank cap m).size = min cap m.size := size_evictLoop m.size le_rfl

lemma size_evict_le : (evict rank cap m).size ≤ cap := by
  rw [size_evict]
  exact min_le_left cap m.size

lemma rank_evict_le {j k : κ} {v w : ν} (hk : m.get k = some v)
    (hd : (evict rank cap m).get k = none) (hj : (evict rank cap m).get j = some w) :
    rank v ≤ rank w :=
  rank_evictLoop_le m.size hk hd hj

lemma evict_of_le (h : m.size ≤ cap) : evict rank cap m = m := by
  rw [evict]
  cases hm : m.size with
  | zero => rfl
  | succ n => rw [evictLoop, if_neg (by omega)]

lemma evict_of_succ (h : m.size = cap + 1) :
    ∃ k v, m.get k = some v ∧ (∀ j w, m.get j = some w → rank v ≤ rank w) ∧
      evict rank cap m = m.remove k := by
  obtain ⟨k, hk⟩ : ∃ k, oldest rank m = some k := oldest_isSome (by omega)
  obtain ⟨v, hv, hmin⟩ := oldest_spec hk
  refine ⟨k, v, hv, hmin, ?_⟩
  have hs := size_remove m hv
  have hloop : evictLoop rank cap cap (m.remove k) = m.remove k := by
    cases cap with
    | zero => rfl
    | succ n => rw [evictLoop, if_neg (by omega)]
  rw [evict, h, evictLoop, if_pos (by omega)]
  simp only [hk, hloop]

end MediaServo.Foundations.FiniteMap
