import Mathlib.Tactic

/-! Loops that write samples into planes, and planes as rows a fixed number of samples apart. An
access outside a plane faults. -/

namespace MediaServo.Foundations.Raster

variable {α σ τ : Type}

def forRange : ℕ → (ℕ → σ → Option σ) → σ → Option σ
  | 0, _, s => some s
  | n + 1, body, s => (forRange n body s).bind (body n)

def forGrid (rows cols : ℕ) (body : ℕ → ℕ → σ → Option σ) : σ → Option σ :=
  forRange rows fun r => forRange cols (body r)

def both (f : σ → Option σ) (g : τ → Option τ) (s : σ × τ) : Option (σ × τ) :=
  (f s.1).bind fun a => (g s.2).map fun b => (a, b)

def store (j : ℕ) (a : α) (dst : List α) : Option (List α) :=
  if j < dst.length then some (dst.set j a) else none

def copyAt (src : List α) (i j : ℕ) (dst : List α) : Option (List α) :=
  src[i]?.bind fun a => store j a dst

def copySlice (src : List α) (i j n : ℕ) (dst : List α) : Option (List α) :=
  if i + n ≤ src.length ∧ j + n ≤ dst.length then
    some (dst.take j ++ (src.drop i).take n ++ dst.drop (j + n))
  else none

def writeAll : List (ℕ × Option α) → List α → Option (List α)
  | [], dst => some dst
  | w :: ws, dst => (w.2.bind fun a => store w.1 a dst).bind (writeAll ws)

section Loops

lemma both_eq_some {f : σ → Option σ} {g : τ → Option τ} {s s' : σ × τ} :
    both f g s = some s' ↔ f s.1 = some s'.1 ∧ g s.2 = some s'.2 := by
  simp only [both, Option.bind_eq_some_iff, Option.map_eq_some_iff]
  constructor
  · rintro ⟨a, ha, b, hb, rfl⟩
    exact ⟨ha, hb⟩
  · rintro ⟨ha, hb⟩
    exact ⟨_, ha, _, hb, rfl⟩

lemma forRange_both {n : ℕ} {f : ℕ → σ → Option σ} {g : ℕ → τ → Option τ} {s s' : σ × τ} :
    forRange n (fun i => both (f i) (g i)) s = some s' ↔
      forRange n f s.1 = some s'.1 ∧ forRange n g s.2 = some s'.2 := by
  induction n generalizing s' with
  | zero => simp only [forRange, Option.some.injEq, Prod.ext_iff]
  | succ n ih =>
    simp only [forRange, Option.bind_eq_some_iff, ih, both_eq_some]
    constructor
    · rintro ⟨t, ⟨hf, hg⟩, hf', hg'⟩
      exact ⟨⟨_, hf, hf'⟩, _, hg, hg'⟩
    · rintro ⟨⟨a, hf, hf'⟩, b, hg, hg'⟩
      exact ⟨(a, b), ⟨hf, hg⟩, hf', hg'⟩

lemma forRange_congr {n : ℕ} {f g : ℕ → σ → Option σ} (h : ∀ i < n, f i = g i) :
    forRange n f = forRange n g := by
  induction n with
  | zero => rfl
  | succ n ih =>
    funext s
    rw [forRange, forRange, ih fun i hi => h i (by omega), h n (by omega)]

lemma forGrid_two (body : ℕ → ℕ → σ → Option σ) (s : σ) :
    forGrid 2 2 body s = ((body 0 0 s).bind (body 0 1)).bind fun s => (body 1 0 s).bind (body 1 1) := rfl

lemma forGrid_both {rows cols : ℕ} {f : ℕ → ℕ → σ → Option σ} {g : ℕ → ℕ → τ → Option τ}
    {s s' : σ × τ} :
    forGrid rows cols (fun r c => both (f r c) (g r c)) s = some s' ↔
      forGrid rows cols f s.1 = some s'.1 ∧ forGrid rows cols g s.2 = some s'.2 := by
  rw [forGrid, forGrid, forGrid, ← forRange_both]
  have hrow (r : ℕ) : forRange cols (fun c => both (f r c) (g r c)) =
      both (forRange cols (f r)) (forRange cols (g r)) := by
    funext t
    ext t'
    exact forRange_both.trans both_eq_some.symm
  rw [forRange_congr fun r _ => hrow r]

end Loops

section Writes

variable {ws : List (ℕ × Option α)} {dst dst' : List α}

lemma writeAll_append {ws' : List (ℕ × Option α)} :
    writeAll (ws ++ ws') dst = (writeAll ws dst).bind (writeAll ws') := by
  induction ws generalizing dst with
  | nil => rfl
  | cons w ws ih =>
    rw [List.cons_append, writeAll, writeAll]
    cases w.2.bind fun a => store w.1 a dst with
    | none => rfl
    | some d => exact ih

lemma writeAll_length (h : writeAll ws dst = some dst') : dst'.length = dst.length := by
  induction ws generalizing dst with
  | nil =>
    cases h
    rfl
  | cons w ws ih =>
    obtain ⟨d, hd, hrest⟩ := Option.bind_eq_some_iff.1 h
    obtain ⟨a, -, hstore⟩ := Option.bind_eq_some_iff.1 hd
    rw [store] at hstore
    split_ifs at hstore with hj
    cases hstore
    rw [ih hrest, List.length_set]

lemma writeAll_isSome_iff :
    (∃ dst', writeAll ws dst = some dst') ↔ ∀ w ∈ ws, w.2.isSome ∧ w.1 < dst.length := by
  induction ws generalizing dst with
  | nil => simp only [writeAll, Option.some.injEq, exists_eq', List.not_mem_nil, IsEmpty.forall_iff,
      implies_true]
  | cons w ws ih =>
    rw [List.forall_mem_cons]
    constructor
    · rintro ⟨dst', h⟩
      obtain ⟨d, hd, hrest⟩ := Option.bind_eq_some_iff.1 h
      obtain ⟨a, ha, hstore⟩ := Option.bind_eq_some_iff.1 hd
      rw [store] at hstore
      split_ifs at hstore with hj
      cases hstore
      refine ⟨⟨Option.isSome_iff_exists.2 ⟨a, ha⟩, hj⟩, fun w hw => ?_⟩
      simpa only [List.length_set] using ih.1 ⟨dst', hrest⟩ w hw
    · rintro ⟨⟨hval, hj⟩, hws⟩
      obtain ⟨a, ha⟩ := Option.isSome_iff_exists.1 hval
      obtain ⟨dst', h⟩ := (@ih (dst.set w.1 a)).2 (by simpa only [List.length_set] using hws)
      exact ⟨dst', by rw [writeAll, ha, Option.bind_some, store, if_pos hj, Option.bind_some, h]⟩

lemma writeAll_kept {k : ℕ} (h : writeAll ws dst = some dst') (hk : ∀ w ∈ ws, w.1 ≠ k) :
    dst'[k]? = dst[k]? := by
  induction ws generalizing dst with
  | nil =>
    cases h
    rfl
  | cons w ws ih =>
    obtain ⟨d, hd, hrest⟩ := Option.bind_eq_some_iff.1 h
    obtain ⟨a, -, hstore⟩ := Option.bind_eq_some_iff.1 hd
    rw [store] at hstore
    split_ifs at hstore with hj
    cases hstore
    rw [ih hrest fun w hw => hk w (List.mem_cons_of_mem _ hw),
      List.getElem?_set_ne (hk w List.mem_cons_self)]

lemma writeAll_written {w : ℕ × Option α} (h : writeAll ws dst = some dst')
    (hagree : ∀ w ∈ ws, ∀ w' ∈ ws, w.1 = w'.1 → w.2 = w'.2) (hw : w ∈ ws) : dst'[w.1]? = w.2 := by
  induction ws generalizing dst w with
  | nil => exact absurd hw List.not_mem_nil
  | cons v ws ih =>
    obtain ⟨d, hd, hrest⟩ := Option.bind_eq_some_iff.1 h
    have hagree' : ∀ w ∈ ws, ∀ w' ∈ ws, w.1 = w'.1 → w.2 = w'.2 := fun w hw w' hw' =>
      hagree w (List.mem_cons_of_mem _ hw) w' (List.mem_cons_of_mem _ hw')
    by_cases hlater : ∃ w' ∈ ws, w'.1 = w.1
    · obtain ⟨w', hw', heq⟩ := hlater
      rw [← heq, hagree w hw w' (List.mem_cons_of_mem _ hw') heq.symm]
      exact ih hrest hagree' hw'
    · push Not at hlater
      obtain rfl | hw := List.mem_cons.1 hw
      · obtain ⟨a, ha, hstore⟩ := Option.bind_eq_some_iff.1 hd
        rw [store] at hstore
        split_ifs at hstore with hj
        cases hstore
        rw [writeAll_kept hrest hlater, List.getElem?_set_self hj, ha]
      · exact absurd rfl (hlater w hw)

lemma forRange_writeAll (n : ℕ) (turn : ℕ → List (ℕ × Option α)) :
    forRange n (fun i => writeAll (turn i)) dst = writeAll ((List.range n).flatMap turn) dst := by
  induction n with
  | zero => rfl
  | succ n ih =>
    rw [forRange, ih, List.range_succ, List.flatMap_append, writeAll_append, List.flatMap_singleton]

end Writes

section Grids

variable {rows cols : ℕ} {place : ℕ → ℕ → ℕ} {val : ℕ → ℕ → Option α} {src dst dst' : List α}

def gridWrites (rows cols : ℕ) (place : ℕ → ℕ → ℕ) (val : ℕ → ℕ → Option α) : List (ℕ × Option α) :=
  (List.range rows).flatMap fun r => (List.range cols).map fun c => (place r c, val r c)

def turnWrites (rows cols : ℕ) (turn : ℕ → ℕ → List (ℕ × Option α)) : List (ℕ × Option α) :=
  (List.range rows).flatMap fun r => (List.range cols).flatMap (turn r)

@[simp] lemma mem_gridWrites {w : ℕ × Option α} : w ∈ gridWrites rows cols place val ↔
    ∃ r < rows, ∃ c < cols, (place r c, val r c) = w := by
  simp only [gridWrites, List.mem_flatMap, List.mem_range, List.mem_map]

@[simp] lemma mem_turnWrites {turn : ℕ → ℕ → List (ℕ × Option α)} {w : ℕ × Option α} :
    w ∈ turnWrites rows cols turn ↔ ∃ r < rows, ∃ c < cols, w ∈ turn r c := by
  simp only [turnWrites, List.mem_flatMap, List.mem_range]

lemma forGrid_writeAll (turn : ℕ → ℕ → List (ℕ × Option α)) :
    forGrid rows cols (fun r c => writeAll (turn r c)) dst = writeAll (turnWrites rows cols turn) dst := by
  have hrow (r : ℕ) : (forRange cols fun c => writeAll (turn r c)) =
      writeAll ((List.range cols).flatMap (turn r)) := by
    funext d
    exact forRange_writeAll cols (turn r)
  rw [forGrid, forRange_congr fun r _ => hrow r, forRange_writeAll, turnWrites]

lemma forGrid_writes {body : ℕ → ℕ → List α → Option (List α)}
    (hbody : ∀ r c, body r c = writeAll [(place r c, val r c)]) :
    forGrid rows cols body dst = writeAll (gridWrites rows cols place val) dst := by
  have hturn : body = fun r c => writeAll [(place r c, val r c)] := by
    funext r c
    exact hbody r c
  rw [hturn, forGrid_writeAll, turnWrites, gridWrites]
  simp only [List.map_eq_flatMap]

lemma writeAll_single (j : ℕ) (a : Option α) :
    writeAll [(j, a)] dst = a.bind fun m => store j m dst := by
  rw [writeAll]
  cases a.bind fun m => store j m dst <;> rfl

lemma copyAt_eq (i j : ℕ) : copyAt src i j = writeAll [(j, src[i]?)] := by
  funext d
  rw [copyAt, writeAll_single]

lemma copySlice_eq_some {i j n : ℕ} : copySlice src i j n dst = some dst' ↔
    (i + n ≤ src.length ∧ j + n ≤ dst.length) ∧
      writeAll ((List.range n).map fun c => (j + c, src[i + c]?)) dst = some dst' := by
  rw [copySlice]
  split_ifs with hfit
  · have hwrites : ∀ w ∈ (List.range n).map fun c => (j + c, src[i + c]?),
        w.2.isSome ∧ w.1 < dst.length := by
      intro w hw
      obtain ⟨c, hc, rfl⟩ := List.mem_map.1 hw
      have hc := List.mem_range.1 hc
      refine ⟨?_, by change j + c < _; omega⟩
      rw [List.getElem?_eq_getElem (by omega : i + c < src.length)]
      rfl
    obtain ⟨d, hd⟩ := writeAll_isSome_iff.2 hwrites
    have hsame : dst.take j ++ (src.drop i).take n ++ dst.drop (j + n) = d := by
      apply List.ext_getElem?
      intro k
      by_cases hk : ∃ c < n, j + c = k
      · obtain ⟨c, hc, rfl⟩ := hk
        have hagree : ∀ w ∈ (List.range n).map fun c => (j + c, src[i + c]?),
            ∀ w' ∈ (List.range n).map fun c => (j + c, src[i + c]?), w.1 = w'.1 → w.2 = w'.2 := by
          intro w hw w' hw' heq
          obtain ⟨c, -, rfl⟩ := List.mem_map.1 hw
          obtain ⟨c', -, rfl⟩ := List.mem_map.1 hw'
          have : c = c' := by change j + c = j + c' at heq; omega
          rw [this]
        rw [writeAll_written (w := (j + c, src[i + c]?)) hd hagree
          (List.mem_map.2 ⟨c, List.mem_range.2 hc, rfl⟩)]
        grind
      · push Not at hk
        rw [writeAll_kept hd]
        · have hout : k < j ∨ j + n ≤ k := by
            by_contra h
            exact hk (k - j) (by omega) (by omega)
          have hsize : (dst.take j ++ (src.drop i).take n).length = j + n := by
            simp only [List.length_append, List.length_take, List.length_drop]
            omega
          rcases hout with hlt | hge
          · rw [List.append_assoc, List.getElem?_append_left (by rw [List.length_take]; omega),
              List.getElem?_take_of_lt hlt]
          · rw [List.getElem?_append_right (by omega), List.getElem?_drop, hsize]
            congr 1
            omega
        · intro w hw
          obtain ⟨c, hc, rfl⟩ := List.mem_map.1 hw
          exact hk c (List.mem_range.1 hc)
    rw [hsame, hd]
    exact ⟨fun h => ⟨hfit, h⟩, fun h => h.2⟩
  · constructor
    · intro h
      cases h
    · exact fun h => absurd h.1 hfit

lemma forRange_copySlice {i j : ℕ → ℕ} :
    forRange rows (fun r => copySlice src (i r) (j r) cols) dst = some dst' ↔
      (∀ r < rows, i r + cols ≤ src.length ∧ j r + cols ≤ dst.length) ∧
        writeAll (gridWrites rows cols (fun r c => j r + c) fun r c => src[i r + c]?) dst =
          some dst' := by
  rw [gridWrites, ← forRange_writeAll]
  induction rows generalizing dst' with
  | zero => simp only [forRange, Nat.not_lt_zero, IsEmpty.forall_iff, implies_true, true_and]
  | succ n ih =>
    simp only [forRange, Option.bind_eq_some_iff, copySlice_eq_some, ih]
    constructor
    · rintro ⟨d, ⟨hfit, hd⟩, hlast, hwrite⟩
      rw [forRange_writeAll] at hd
      rw [writeAll_length hd] at hlast
      refine ⟨fun r hr => ?_, d, by rw [forRange_writeAll, hd], hwrite⟩
      rcases Nat.lt_succ_iff_lt_or_eq.1 hr with hr | rfl
      · exact hfit r hr
      · exact hlast
    · rintro ⟨hfit, d, hd, hwrite⟩
      refine ⟨d, ⟨fun r hr => hfit r (by omega), hd⟩, ?_, hwrite⟩
      rw [forRange_writeAll] at hd
      rw [writeAll_length hd]
      exact hfit n (Nat.lt_succ_self n)

end Grids

/-- A plane, with the distance between the starts of its rows. -/
structure Plane (α : Type) where
  samples : List α
  stride : ℕ

namespace Plane

def sample (p : Plane α) (x y : ℕ) : Option α := p.samples[y * p.stride + x]?

def Agree (w h : ℕ) (p q : Plane α) : Prop := ∀ x < w, ∀ y < h, p.sample x y = q.sample x y

lemma agree_of_row {w h : ℕ} (hrow : h ≤ 1) (samples : List α) (s s' : ℕ) :
    Agree w h ⟨samples, s⟩ ⟨samples, s'⟩ := by
  intro x _ y hy
  have : y = 0 := by omega
  simp only [sample, this, Nat.zero_mul]

end Plane

/-- The rows of a picture are within so many samples, and do not run into one another. -/
structure Room (len stride w h : ℕ) : Prop where
  wide : w ≤ stride
  long : ∀ y < h, y * stride + w ≤ len

def Within (len stride w h : ℕ) : Prop := ∀ x < w, ∀ y < h, y * stride + x < len

lemma Room.index_lt {len stride w h x y : ℕ} (hroom : Room len stride w h) (hx : x < w) (hy : y < h) :
    y * stride + x < len := by
  have := hroom.long y hy
  omega

lemma index_inj {stride w x y x' y' : ℕ} (hwide : w ≤ stride) (hx : x < w) (hx' : x' < w)
    (heq : y * stride + x = y' * stride + x') : x = x' ∧ y = y' := by
  have hpos : 0 < stride := by omega
  have hy : y = y' := by
    have hdiv := congrArg (· / stride) heq
    simpa only [Nat.mul_comm _ stride, Nat.mul_add_div hpos, Nat.div_eq_of_lt (hx.trans_le hwide),
      Nat.div_eq_of_lt (hx'.trans_le hwide), Nat.add_zero] using hdiv
  subst hy
  exact ⟨by omega, rfl⟩

lemma Room.within {len stride w h : ℕ} (hroom : Room len stride w h) : Within len stride w h :=
  fun _ hx _ hy => hroom.index_lt hx hy

lemma Room.within_row {len stride stride' w h : ℕ} (hroom : Room len stride w h) (hrow : h ≤ 1) :
    Within len stride' w h := by
  intro x hx y hy
  have := hroom.index_lt hx hy
  obtain rfl : y = 0 := by omega
  rwa [Nat.zero_mul, Nat.zero_add] at this ⊢

def Draws (ws : List (ℕ × Option α)) (w h : ℕ) (img : ℕ → ℕ → Option α) (stride : ℕ) : Prop :=
  ∀ a, a ∈ ws ↔ ∃ x < w, ∃ y < h, (y * stride + x, img x y) = a

/-- A picture drawn into a plane, with the rest of the plane as it was. -/
structure Drawn (w h : ℕ) (img : ℕ → ℕ → Option α) (stride : ℕ) (dst dst' : List α) : Prop where
  length : dst'.length = dst.length
  visible : ∀ x < w, ∀ y < h, dst'[y * stride + x]? = img x y
  kept : ∀ k, (∀ x < w, ∀ y < h, y * stride + x ≠ k) → dst'[k]? = dst[k]?

namespace Draws

variable {ws : List (ℕ × Option α)} {w h stride : ℕ} {img : ℕ → ℕ → Option α} {dst dst' : List α}

lemma isSome_iff (hws : Draws ws w h img stride) : (∃ dst', writeAll ws dst = some dst') ↔
    (∀ x < w, ∀ y < h, (img x y).isSome) ∧ Within dst.length stride w h := by
  rw [writeAll_isSome_iff]
  constructor
  · intro hall
    have hplace (x : ℕ) (hx : x < w) (y : ℕ) (hy : y < h) :=
      hall _ ((hws _).2 ⟨x, hx, y, hy, rfl⟩)
    exact ⟨fun x hx y hy => (hplace x hx y hy).1, fun x hx y hy => (hplace x hx y hy).2⟩
  · rintro ⟨himg, hwithin⟩ a ha
    obtain ⟨x, hx, y, hy, rfl⟩ := (hws a).1 ha
    exact ⟨himg x hx y hy, hwithin x hx y hy⟩

lemma drawn (hws : Draws ws w h img stride) (hwide : w ≤ stride) (hrun : writeAll ws dst = some dst') :
    Drawn w h img stride dst dst' where
  length := writeAll_length hrun
  visible x hx y hy := by
    have hagree : ∀ a ∈ ws, ∀ b ∈ ws, a.1 = b.1 → a.2 = b.2 := by
      intro a ha b hb heq
      obtain ⟨i, hi, j, -, rfl⟩ := (hws a).1 ha
      obtain ⟨i', hi', j', -, rfl⟩ := (hws b).1 hb
      obtain ⟨rfl, rfl⟩ := index_inj hwide hi hi' heq
      rfl
    exact writeAll_written hrun hagree ((hws _).2 ⟨x, hx, y, hy, rfl⟩)
  kept k hk := by
    apply writeAll_kept hrun
    intro a ha
    obtain ⟨x, hx, y, hy, rfl⟩ := (hws a).1 ha
    exact hk x hx y hy

end Draws

/-- The turns of a loop over a grid, one for each place in a picture. -/
structure Turns (rows cols w h : ℕ) where
  x : ℕ → ℕ → ℕ
  y : ℕ → ℕ → ℕ
  row : ℕ → ℕ → ℕ
  col : ℕ → ℕ → ℕ
  place_mem : ∀ r < rows, ∀ c < cols, x r c < w ∧ y r c < h
  turn_mem : ∀ i < w, ∀ j < h, row i j < rows ∧ col i j < cols
  place_turn : ∀ i < w, ∀ j < h, x (row i j) (col i j) = i ∧ y (row i j) (col i j) = j
  turn_place : ∀ r < rows, ∀ c < cols, row (x r c) (y r c) = r ∧ col (x r c) (y r c) = c

namespace Turns

variable {rows cols w h stride : ℕ} (t : Turns rows cols w h) {val : ℕ → ℕ → Option α}
  {dst dst' : List α}

lemma draws : Draws (gridWrites rows cols (fun r c => t.y r c * stride + t.x r c) val) w h
    (fun x y => val (t.row x y) (t.col x y)) stride := by
  intro a
  rw [mem_gridWrites]
  constructor
  · rintro ⟨r, hr, c, hc, rfl⟩
    obtain ⟨hx, hy⟩ := t.place_mem r hr c hc
    obtain ⟨hrow, hcol⟩ := t.turn_place r hr c hc
    exact ⟨_, hx, _, hy, by simp only [hrow, hcol]⟩
  · rintro ⟨x, hx, y, hy, rfl⟩
    obtain ⟨hrow, hcol⟩ := t.turn_mem x hx y hy
    obtain ⟨hx, hy⟩ := t.place_turn x hx y hy
    exact ⟨_, hrow, _, hcol, by rw [hx, hy]⟩

variable {src : List α} {source : ℕ → ℕ → ℕ}

lemma forGrid_copyAt : forGrid rows cols (fun r c => copyAt src (source r c) (t.y r c * stride + t.x r c)) dst =
    writeAll (gridWrites rows cols (fun r c => t.y r c * stride + t.x r c) fun r c => src[source r c]?)
      dst :=
  forGrid_writes fun _ _ => copyAt_eq _ _

lemma copies_isSome_iff :
    (∃ dst', forGrid rows cols (fun r c => copyAt src (source r c) (t.y r c * stride + t.x r c)) dst =
      some dst') ↔
      (∀ r < rows, ∀ c < cols, source r c < src.length) ∧ Within dst.length stride w h := by
  rw [forGrid_copyAt, t.draws.isSome_iff]
  simp only [isSome_getElem?]
  apply and_congr_left'
  constructor
  · intro hsrc r hr c hc
    obtain ⟨hx, hy⟩ := t.place_mem r hr c hc
    obtain ⟨hrow, hcol⟩ := t.turn_place r hr c hc
    simpa only [hrow, hcol] using hsrc _ hx _ hy
  · intro hsrc x hx y hy
    obtain ⟨hrow, hcol⟩ := t.turn_mem x hx y hy
    exact hsrc _ hrow _ hcol

lemma copies_drawn (hwide : w ≤ stride)
    (hrun : forGrid rows cols (fun r c => copyAt src (source r c) (t.y r c * stride + t.x r c)) dst =
      some dst') :
    Drawn w h (fun x y => src[source (t.row x y) (t.col x y)]?) stride dst dst' := by
  rw [forGrid_copyAt] at hrun
  exact t.draws.drawn hwide hrun

lemma exists_copied (hdst : Room dst.length stride w h)
    (hsrc : ∀ r < rows, ∀ c < cols, source r c < src.length) :
    ∃ dst', forGrid rows cols (fun r c => copyAt src (source r c) (t.y r c * stride + t.x r c)) dst =
        some dst' ∧
      Drawn w h (fun x y => src[source (t.row x y) (t.col x y)]?) stride dst dst' := by
  obtain ⟨dst', hrun⟩ := t.copies_isSome_iff.2 ⟨hsrc, hdst.within⟩
  exact ⟨dst', hrun, t.copies_drawn hdst.wide hrun⟩

def straight (w h : ℕ) : Turns h w w h where
  x _ c := c
  y r _ := r
  row _ j := j
  col i _ := i
  place_mem _ hr _ hc := ⟨hc, hr⟩
  turn_mem _ hi _ hj := ⟨hj, hi⟩
  place_turn _ _ _ _ := ⟨rfl, rfl⟩
  turn_place _ _ _ _ := ⟨rfl, rfl⟩

end Turns

section Slices

variable {w h stride : ℕ} {i : ℕ → ℕ} {src dst dst' : List α}

lemma slices_drawn (hwide : w ≤ stride)
    (hrun : forRange h (fun row => copySlice src (i row) (row * stride) w) dst = some dst') :
    Drawn w h (fun x y => src[i y + x]?) stride dst dst' :=
  (Turns.straight w h).draws.drawn hwide (forRange_copySlice.1 hrun).2

lemma slices_iff (hwide : w ≤ stride) :
    (∃ dst', forRange h (fun row => copySlice src (i row) (row * stride) w) dst = some dst') ↔
      (∀ row < h, i row + w ≤ src.length) ∧ Room dst.length stride w h := by
  constructor
  · rintro ⟨dst', hrun⟩
    have hfit := (forRange_copySlice.1 hrun).1
    exact ⟨fun row hrow => (hfit row hrow).1, hwide, fun row hrow => (hfit row hrow).2⟩
  · rintro ⟨hsrc, hdst⟩
    have hval : ∀ x < w, ∀ y < h, (src[i y + x]?).isSome := by
      intro x hx y hy
      have := hsrc y hy
      rw [List.getElem?_eq_getElem (by omega)]
      rfl
    have hdraws : Draws (gridWrites h w (fun r c => r * stride + c) fun r c => src[i r + c]?) w h
        (fun x y => src[i y + x]?) stride := (Turns.straight w h).draws
    obtain ⟨dst', hrun⟩ := hdraws.isSome_iff.2 ⟨hval, hdst.within⟩
    exact ⟨dst', forRange_copySlice.2 ⟨fun row hrow => ⟨hsrc row hrow, hdst.long row hrow⟩, hrun⟩⟩

end Slices

namespace Drawn

variable {w h stride : ℕ} {img : ℕ → ℕ → Option α} {dst dst' : List α}

lemma room {w' h' : ℕ} (hdrawn : Drawn w h img stride dst dst') (hdst : Room dst.length stride w' h') :
    Room dst'.length stride w' h' := by
  rw [hdrawn.length]
  exact hdst

lemma exists_outside {t t' : ℕ} (hw : 0 < w) (hh : 1 < h) (hwide : w ≤ t') (hne : t ≠ t') : ∃ x < w, ∃ y < h, ∀ x' < w, ∀ y' < h, y' * t + x' ≠ y * t' + x := by
  rcases Nat.lt_or_gt_of_ne hne with hlt | hgt
  · refine ⟨w - 1, by omega, h - 1, by omega, fun x' hx' y' hy' heq => ?_⟩
    have hrow : y' * t ≤ (h - 1) * t := Nat.mul_le_mul_right t (by omega)
    have hlast : (h - 1) * t < (h - 1) * t' := Nat.mul_lt_mul_of_pos_left hlt (by omega)
    omega
  · refine ⟨0, hw, 1, hh, fun x' hx' y' hy' heq => ?_⟩
    rcases Nat.eq_zero_or_pos y' with rfl | hpos
    · omega
    · have : t ≤ y' * t := Nat.le_mul_of_pos_left t hpos
      omega

lemma stride_eq {t t' len : ℕ} {b : α} {d : List α} (hw : 0 < w) (hh : 1 < h)
    (hroom : Room len t' w h) (hdrawn : Drawn w h img t (List.replicate len b) d)
    (hread : ∀ x < w, ∀ y < h, (Plane.mk d t').sample x y ≠ some b) : t = t' := by
  by_contra hne
  obtain ⟨x, hx, y, hy, hout⟩ := exists_outside hw hh hroom.wide hne
  apply hread x hx y hy
  rw [Plane.sample, hdrawn.kept _ hout, List.getElem?_replicate_of_lt (hroom.index_lt hx hy)]

lemma ne_some {len : ℕ} {a b : α} {d : List α} (hab : a ≠ b)
    (hdrawn : Drawn w h img stride (List.replicate len a) d) (himg : ∀ x y, img x y ≠ some b) (k : ℕ) :
    d[k]? ≠ some b := by
  by_cases hk : ∃ x < w, ∃ y < h, y * stride + x = k
  · obtain ⟨x, hx, y, hy, rfl⟩ := hk
    rw [hdrawn.visible x hx y hy]
    exact himg x y
  · push Not at hk
    rw [hdrawn.kept k hk]
    intro heq
    exact hab (List.eq_of_mem_replicate (List.mem_of_getElem? heq)).symm

/-- Where every picture that is read by one stride and drawn by another can be read back, these are
the strides of the planes. -/
theorem strides_eq {len len' s s' t t' : ℕ} {a b : α} (hab : a ≠ b) (hw : 0 < w) (hh : 1 < h)
    (hsrc : Room len s' w h) (hdst : Room len' t' w h)
    (hall : ∀ src dst : List α, src.length = len → dst.length = len' →
      ∃ d, Drawn w h (fun x y => (Plane.mk src s).sample x y) t dst d ∧ Plane.Agree w h ⟨d, t'⟩ ⟨src, s'⟩) :
    s = s' ∧ t = t' := by
  have ht : t = t' := by
    obtain ⟨d, hdrawn, hagree⟩ := hall (List.replicate len a) (List.replicate len' b)
      List.length_replicate List.length_replicate
    apply stride_eq hw hh hdst hdrawn
    intro x hx y hy
    rw [hagree x hx y hy, Plane.sample, List.getElem?_replicate_of_lt (hsrc.index_lt hx hy)]
    intro heq
    exact hab (Option.some.inj heq)
  subst ht
  refine ⟨?_, rfl⟩
  by_contra hne
  -- one sample stands out, at the start of the second row
  obtain ⟨d, hdrawn, hagree⟩ := hall ((List.replicate len a).set s' b) (List.replicate len' a)
    (by rw [List.length_set, List.length_replicate]) List.length_replicate
  have hread := hagree 0 hw 1 hh
  have hplace : s' < (List.replicate len a).length := by
    have := hsrc.index_lt hw hh
    rw [List.length_replicate]
    omega
  rw [Plane.sample, hdrawn.visible 0 hw 1 hh, Plane.sample, Plane.sample, Nat.one_mul, Nat.one_mul,
    Nat.add_zero, Nat.add_zero, List.getElem?_set_self hplace,
    List.getElem?_set_ne (Ne.symm hne)] at hread
  exact hab (List.eq_of_mem_replicate (List.mem_of_getElem? hread)).symm

end Drawn

end MediaServo.Foundations.Raster
