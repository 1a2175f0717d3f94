import Mathlib.Logic.Function.Basic
import Mathlib.Tactic

/-! A directory of files. A name leads to a file, a descriptor stays on its file when the name
moves or goes, and a write starts at the beginning of the file. -/

namespace MediaServo.Foundations

structure Files (ν β : Type) where
  names : ν → Option ℕ
  contents : ℕ → List β
  next : ℕ
  separate : ∀ {m n i}, names m = some i → names n = some i → m = n
  fresh : ∀ {n i}, names n = some i → i < next

namespace Files

variable {ν β : Type} {f f' : Files ν β} {m n : ν}

def read (f : Files ν β) (n : ν) : Option (List β) := (f.names n).map f.contents

def write (f : Files ν β) (fd : ℕ) (text : List β) : Files ν β :=
  { f with contents := Function.update f.contents fd (text ++ (f.contents fd).drop text.length) }

@[simp] lemma names_write (fd : ℕ) (text : List β) : (f.write fd text).names = f.names := rfl

lemma contents_write {fd : ℕ} {text : List β} (h : f.contents fd = []) :
    (f.write fd text).contents fd = text := by
  simp [write, h]

lemma read_write {fd : ℕ} (text : List β) (h : f.names m ≠ some fd) :
    (f.write fd text).read m = f.read m := by
  simp only [read, write]
  cases hm : f.names m with
  | none => rfl
  | some j =>
    have hj : j ≠ fd := by
      rintro rfl
      exact h hm
    simp [Function.update_of_ne hj]

variable [DecidableEq ν]

private def newFile (f : Files ν β) (n : ν) : Files ν β where
  names := Function.update f.names n (some f.next)
  contents := Function.update f.contents f.next []
  next := f.next + 1
  separate := by
    intro a b i ha hb
    have hfresh : ∀ m, f.names m ≠ some f.next := fun m hm => absurd (f.fresh hm) (lt_irrefl _)
    simp only [Function.update_apply] at ha hb
    split_ifs at ha hb with hm hn hn
    · rw [hm, hn]
    · cases ha
      exact absurd hb (hfresh b)
    · cases hb
      exact absurd ha (hfresh a)
    · exact f.separate ha hb
  fresh := by
    intro a i ha
    simp only [Function.update_apply] at ha
    split_ifs at ha
    · cases ha
      exact Nat.lt_succ_self _
    · exact Nat.lt_succ_of_lt (f.fresh ha)

def create (f : Files ν β) (n : ν) : Files ν β × ℕ :=
  match f.names n with
  | some i => ({ f with contents := Function.update f.contents i [] }, i)
  | none => (f.newFile n, f.next)

def remove (f : Files ν β) (n : ν) : Files ν β where
  names := Function.update f.names n none
  contents := f.contents
  next := f.next
  separate := by
    intro a b i ha hb
    simp only [Function.update_apply] at ha hb
    split_ifs at ha hb
    exact f.separate ha hb
  fresh := by
    intro a i ha
    simp only [Function.update_apply] at ha
    split_ifs at ha
    exact f.fresh ha

private def moved (f : Files ν β) (m n : ν) (i : ℕ) (hi : f.names m = some i) : Files ν β where
  names := Function.update (Function.update f.names m none) n (some i)
  contents := f.contents
  next := f.next
  separate := by
    have hother : ∀ a, a ≠ m → f.names a ≠ some i := fun a ha h => ha (f.separate h hi)
    intro a b j ha hb
    simp only [Function.update_apply] at ha hb
    split_ifs at ha hb with h1 h2 h3 h4 h5
    · rw [h1, h2]
    · cases ha
      exact absurd hb (hother b h3)
    · cases hb
      exact absurd ha (hother a h4)
    · exact f.separate ha hb
  fresh := by
    intro a j ha
    simp only [Function.update_apply] at ha
    split_ifs at ha
    · cases ha
      exact f.fresh hi
    · exact f.fresh ha

def rename (f : Files ν β) (m n : ν) : Option (Files ν β) :=
  match h : f.names m with
  | none => none
  | some i => some (f.moved m n i h)

lemma names_create : (f.create n).1.names n = some (f.create n).2 := by
  simp only [create]
  split
  · assumption
  · simp [newFile]

lemma contents_create : (f.create n).1.contents (f.create n).2 = [] := by
  simp only [create]
  split <;> simp [newFile]

lemma read_create (h : m ≠ n) : (f.create n).1.read m = f.read m := by
  simp only [create, read]
  split
  · rename_i i hi
    cases hm : f.names m with
    | none => rfl
    | some j =>
      have hij : j ≠ i := by
        rintro rfl
        exact h (f.separate hm hi)
      simp [Function.update_of_ne hij]
  · cases hm : f.names m with
    | none => simp [newFile, Function.update_of_ne h, hm]
    | some j => simp [newFile, Function.update_of_ne h, hm, Function.update_of_ne (f.fresh hm).ne]

lemma read_remove (h : m ≠ n) : (f.remove n).read m = f.read m := by
  simp [read, remove, Function.update_of_ne h]

lemma read_rename (h : f.rename m n = some f') : f'.read n = f.read m := by
  simp only [rename] at h
  split at h
  · cases h
  · rename_i i hi
    cases h
    simp [read, moved, hi]

lemma rename_none (h : f.names m = none) : f.rename m n = none := by
  rw [rename]
  split
  · rfl
  · rename_i i hi
    rw [h] at hi
    cases hi

end Files

end MediaServo.Foundations
