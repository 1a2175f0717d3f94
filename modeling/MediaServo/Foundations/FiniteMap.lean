import Mathlib.Data.Finmap
import Mathlib.Data.List.Sigma
import Mathlib.Tactic

/-! Finite maps as association lists with distinct keys: lookup, point updates, filtering and
traversal, on top of Mathlib's association lists. -/

namespace MediaServo.Foundations

abbrev FiniteMap (κ ν : Type) := AList (fun _ : κ => ν)

namespace FiniteMap

variable {κ ν μ : Type}

def toList (m : FiniteMap κ ν) : List (κ × ν) := m.entries.map (fun e => (e.1, e.2))

def size (m : FiniteMap κ ν) : ℕ := m.toList.length

def retain (m : FiniteMap κ ν) (p : κ → ν → Bool) : FiniteMap κ ν where
  entries := m.entries.filter (fun e => p e.1 e.2)
  nodupKeys := List.NodupKeys.sublist List.filter_sublist m.nodupKeys

def mapValues (m : FiniteMap κ ν) (f : κ → ν → μ) : FiniteMap κ μ where
  entries := m.entries.map (Sigma.map id f)
  nodupKeys := List.NodupKeys.map₂ f m.entries m.nodupKeys

lemma keys_nodup (m : FiniteMap κ ν) : (m.toList.map Prod.fst).Nodup := by
  simpa only [toList, List.map_map] using! m.nodupKeys

lemma toList_pairwise (m : FiniteMap κ ν) : m.toList.Pairwise (fun a b => a.1 ≠ b.1) :=
  List.pairwise_map.mp m.keys_nodup

variable [DecidableEq κ]

def get (m : FiniteMap κ ν) (k : κ) : Option ν := AList.lookup k m

def set (m : FiniteMap κ ν) (k : κ) (v : ν) : FiniteMap κ ν := AList.insert k v m

def remove (m : FiniteMap κ ν) (k : κ) : FiniteMap κ ν := AList.erase k m

def contains (m : FiniteMap κ ν) (k : κ) : Bool := (m.get k).isSome

def adjust (m : FiniteMap κ ν) (k : κ) (f : ν → ν) : FiniteMap κ ν :=
  m.mapValues (fun j v => if j = k then f v else v)

@[simp] lemma get_empty (k : κ) : (∅ : FiniteMap κ ν).get k = none :=
  AList.lookup_empty k

@[simp] lemma get_set_self (m : FiniteMap κ ν) (k : κ) (v : ν) : (m.set k v).get k = some v :=
  AList.lookup_insert m

lemma get_set_ne (m : FiniteMap κ ν) {j k : κ} (v : ν) (h : j ≠ k) : (m.set k v).get j = m.get j :=
  AList.lookup_insert_ne h

@[simp] lemma set_set (m : FiniteMap κ ν) (k : κ) (v w : ν) : (m.set k v).set k w = m.set k w :=
  AList.insert_insert m

lemma get_set (m : FiniteMap κ ν) (j k : κ) (v : ν) :
    (m.set k v).get j = if j = k then some v else m.get j := by
  by_cases h : j = k
  · subst j; simp
  · rw [get_set_ne m v h, if_neg h]

lemma get_of_set {m : FiniteMap κ ν} {j k : κ} {v w : ν} (h : (m.set k v).get j = some w) :
    (j = k ∧ w = v) ∨ (j ≠ k ∧ m.get j = some w) := by
  rw [get_set] at h
  split_ifs at h with hjk
  · exact .inl ⟨hjk, (Option.some.inj h).symm⟩
  · exact .inr ⟨hjk, h⟩

@[simp] lemma get_remove_self (m : FiniteMap κ ν) (k : κ) : (m.remove k).get k = none :=
  AList.lookup_erase k m

lemma get_remove_ne (m : FiniteMap κ ν) {j k : κ} (h : j ≠ k) : (m.remove k).get j = m.get j :=
  AList.lookup_erase_ne h

lemma get_remove (m : FiniteMap κ ν) (j k : κ) :
    (m.remove k).get j = if j = k then none else m.get j := by
  by_cases h : j = k
  · subst j; simp
  · rw [get_remove_ne m h, if_neg h]

lemma get_of_remove {m : FiniteMap κ ν} {j k : κ} {v : ν} (h : (m.remove k).get j = some v) :
    m.get j = some v := by
  rw [get_remove] at h
  split_ifs at h
  exact h

@[simp] lemma get_mapValues (m : FiniteMap κ ν) (f : κ → ν → μ) (k : κ) :
    (m.mapValues f).get k = (m.get k).map (f k) :=
  List.dlookup_map₂ k

lemma get_adjust (m : FiniteMap κ ν) (j k : κ) (f : ν → ν) :
    (m.adjust k f).get j = if j = k then (m.get j).map f else m.get j := by
  rw [adjust, get_mapValues]
  split_ifs with h <;> cases m.get j <;> simp

@[simp] lemma mem_toList (m : FiniteMap κ ν) (k : κ) (v : ν) :
    (k, v) ∈ m.toList ↔ m.get k = some v := by
  have h : (k, v) ∈ m.toList ↔ (⟨k, v⟩ : Sigma fun _ : κ => ν) ∈ m.entries := by
    simp only [toList, List.mem_map, Prod.mk.injEq]
    constructor
    · rintro ⟨⟨_, _⟩, he, rfl, rfl⟩; exact he
    · intro he; exact ⟨_, he, rfl, rfl⟩
  rw [h]
  exact (AList.mem_lookup_iff (s := m)).symm

lemma forall_get_iff {m : FiniteMap κ ν} {P : ν → Prop} :
    (∀ k v, m.get k = some v → P v) ↔ ∀ e ∈ m.toList, P e.2 := by
  refine ⟨?_, ?_⟩
  · intro h e he
    exact h e.1 e.2 ((mem_toList m e.1 e.2).mp he)
  · intro h k v hk
    exact h (k, v) ((mem_toList m k v).mpr hk)

lemma get_retain (m : FiniteMap κ ν) (p : κ → ν → Bool) (k : κ) :
    (m.retain p).get k = (m.get k).filter (p k) := by
  have hm : ∀ v, (m.retain p).get k = some v ↔ m.get k = some v ∧ p k v = true := by
    intro v
    rw [← mem_toList, ← mem_toList]
    simp only [toList, retain, List.mem_map, List.mem_filter, Prod.mk.injEq]
    constructor
    · rintro ⟨⟨_, _⟩, ⟨he, hp⟩, rfl, rfl⟩; exact ⟨⟨_, he, rfl, rfl⟩, hp⟩
    · rintro ⟨⟨⟨_, _⟩, he, rfl, rfl⟩, hp⟩; exact ⟨_, ⟨he, hp⟩, rfl, rfl⟩
  ext v
  rw [hm, Option.filter_eq_some_iff]

@[simp] lemma contains_iff (m : FiniteMap κ ν) (k : κ) :
    m.contains k = true ↔ ∃ v, m.get k = some v := by
  rw [contains, Option.isSome_iff_exists]

lemma size_remove (m : FiniteMap κ ν) {k : κ} {v : ν} (h : m.get k = some v) :
    (m.remove k).size + 1 = m.size := by
  have hk : k ∈ m.entries.keys := by
    rw [← List.dlookup_isSome]
    exact Option.isSome_iff_exists.mpr ⟨v, h⟩
  obtain ⟨b, l₁, l₂, _, he, hr⟩ := List.exists_of_kerase hk
  simp only [size, toList, List.length_map]
  change (List.kerase k m.entries).length + 1 = _
  rw [hr, he]
  simp
  omega

lemma size_eq_zero (m : FiniteMap κ ν) (h : ∀ k, m.get k = none) : m.size = 0 := by
  rw [size, List.length_eq_zero_iff, List.eq_nil_iff_forall_not_mem]
  rintro ⟨k, v⟩ hk
  rw [mem_toList, h k] at hk
  cases hk

@[simp] lemma set_remove_self (m : FiniteMap κ ν) (k : κ) (v : ν) :
    (m.set k v).remove k = m.remove k := by
  apply AList.ext
  simp [remove, set, AList.erase, AList.insert]

lemma get_of_toList_nil {m : FiniteMap κ ν} (h : m.toList = []) (k : κ) : m.get k = none := by
  rw [Option.eq_none_iff_forall_ne_some]
  intro v hv
  rw [← mem_toList, h] at hv
  cases hv

lemma remove_of_none (m : FiniteMap κ ν) {k : κ} (h : m.get k = none) : m.remove k = m := by
  apply AList.ext
  exact List.kerase_of_notMem_keys (List.dlookup_eq_none.mp h)

lemma toList_set (m : FiniteMap κ ν) (k : κ) (v : ν) :
    (m.set k v).toList = (k, v) :: (m.remove k).toList := rfl

lemma size_set (m : FiniteMap κ ν) (k : κ) (v : ν) : (m.set k v).size = (m.remove k).size + 1 := by
  rw [size, toList_set, List.length_cons, size]

lemma size_set_le (m : FiniteMap κ ν) (k : κ) (v : ν) : (m.set k v).size ≤ m.size + 1 := by
  rw [size_set]
  cases h : m.get k with
  | none => rw [remove_of_none m h]
  | some w => have := size_remove m h; omega

lemma get_foldl_remove (m : FiniteMap κ ν) (ks : List κ) (j : κ) :
    (ks.foldl remove m).get j = if j ∈ ks then none else m.get j := by
  induction ks generalizing m with
  | nil => simp
  | cons k ks ih =>
    rw [List.foldl_cons, ih, get_remove]
    by_cases hk : j = k
    · simp [hk]
    · simp [hk]

lemma toList_perm_remove (m : FiniteMap κ ν) {k : κ} {v : ν} (h : m.get k = some v) :
    m.toList.Perm ((k, v) :: (m.remove k).toList) := by
  have hk : k ∈ m.entries.keys := by
    rw [← List.dlookup_isSome]
    exact Option.isSome_iff_exists.mpr ⟨v, h⟩
  obtain ⟨b, l₁, l₂, _, he, hr⟩ := List.exists_of_kerase hk
  have hb : b = v := by
    have hm : (k, b) ∈ m.toList := by
      rw [toList, he]
      simp
    rw [mem_toList, h] at hm
    exact (Option.some.inj hm).symm
  subst hb
  have hrest : (m.remove k).toList = (l₁ ++ l₂).map (fun e => (e.1, e.2)) := by
    change (List.kerase k m.entries).map _ = _
    rw [hr]
  rw [hrest, toList, he, List.map_append, List.map_cons, List.map_append]
  exact List.perm_middle

section Buckets

variable {α : Type}

def flatten (m : FiniteMap κ (List α)) : List (κ × α) :=
  m.toList.flatMap (fun e => e.2.map (fun a => (e.1, a)))

lemma flatten_push (m : FiniteMap κ (List α)) (k : κ) (a : α) :
    (m.set k ((m.get k).getD [] ++ [a])).flatten.Perm (m.flatten ++ [(k, a)]) := by
  rw [flatten, toList_set, List.flatMap_cons, List.map_append]
  have hperm : (((m.get k).getD []).map (fun a => (k, a)) ++ (m.remove k).flatten).Perm m.flatten := by
    cases h : m.get k with
    | none =>
      rw [remove_of_none m h]
      exact List.Perm.refl _
    | some l =>
      apply List.Perm.symm
      exact List.Perm.flatMap_right _ (toList_perm_remove m h)
  have hcomm : ([(k, a)] ++ (m.remove k).flatten).Perm ((m.remove k).flatten ++ [(k, a)]) :=
    List.perm_append_comm
  rw [List.append_assoc]
  apply (hcomm.append_left _).trans
  rw [← List.append_assoc]
  exact hperm.append_right _

lemma flatten_foldl_push (l : List (κ × α)) (m : FiniteMap κ (List α)) :
    (l.foldl (fun (acc : FiniteMap κ (List α)) e =>
      acc.set e.1 ((acc.get e.1).getD [] ++ [e.2])) m).flatten.Perm (m.flatten ++ l) := by
  induction l generalizing m with
  | nil => simp
  | cons e l ih =>
    rw [List.foldl_cons]
    apply (ih _).trans
    have h := (flatten_push m e.1 e.2).append_right l
    rwa [List.append_assoc] at h

end Buckets

end FiniteMap

end MediaServo.Foundations
