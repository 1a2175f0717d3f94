import Mathlib.Data.String.Basic
import MediaServo.Weaknet.Surfaces
import MediaServo.WeaknetProofs.Merging

/-! Where the merges agree. The flat object keeps the loss mode of the base, which the other two
merges choose anew: they part when a Gilbert model meets a simple loss, either way round. -/

namespace MediaServo.Weaknet

open MediaServo.Foundations

variable {fmt : FloatText} {render : Value → String} {s : ImpairSpec} {ov : StepOverride}

namespace ValueMap

variable {m : ValueMap} {j k : String} {v : Value}

lemma get_nil : get [] j = none := rfl

lemma get_cons (e : String × Value) : get (e :: m) j = if e.1 = j then some e.2 else get m j := by
  by_cases h : e.1 = j <;> simp [get, h]

lemma get_insert : (m.insert k v).get j = if k = j then some v else m.get j := by
  induction m with
  | nil => exact get_cons (k, v)
  | cons e rest ih =>
    simp only [insert]
    split
    · next he =>
      subst he
      rw [get_cons, get_cons]
      split <;> rfl
    · next he =>
      split
      · exact get_cons (k, v)
      · rw [get_cons, get_cons, ih]
        split
        · next hj =>
          subst hj
          rw [if_neg (Ne.symm he)]
        · rfl

lemma get_insertOpt {o : Option Value} :
    (m.insertOpt k o).get j = if k = j then o.or (m.get j) else m.get j := by
  cases o with
  | none => simp [insertOpt]
  | some v =>
    rw [insertOpt, get_insert]
    rfl

lemma mem_insert {e : String × Value} (h : e ∈ m.insert k v) : e = (k, v) ∨ e ∈ m := by
  induction m with
  | nil => simpa [insert] using h
  | cons x rest ih =>
    simp only [insert] at h
    split at h
    · obtain rfl | h := List.mem_cons.mp h
      · exact Or.inl rfl
      · exact Or.inr (List.mem_cons_of_mem _ h)
    · split at h
      · exact List.mem_cons.mp h
      · obtain rfl | h := List.mem_cons.mp h
        · exact Or.inr List.mem_cons_self
        · exact (ih h).imp_right (List.mem_cons_of_mem _)

def Sorted (m : ValueMap) : Prop := m.Pairwise fun a b => a.1 < b.1

lemma sorted_insert (h : m.Sorted) : (m.insert k v).Sorted := by
  induction m with
  | nil => exact List.pairwise_singleton _ _
  | cons e rest ih =>
    obtain ⟨hhead, hrest⟩ := List.pairwise_cons.mp h
    simp only [insert]
    split
    · next he =>
      subst he
      exact List.pairwise_cons.mpr ⟨hhead, hrest⟩
    · next he =>
      split
      · next hlt =>
        refine List.pairwise_cons.mpr ⟨?_, h⟩
        intro x hx
        obtain rfl | hx := List.mem_cons.mp hx
        · exact hlt
        · exact lt_trans hlt (hhead x hx)
      · next hlt =>
        refine List.pairwise_cons.mpr ⟨?_, ih hrest⟩
        intro x hx
        obtain rfl | hx := mem_insert hx
        · exact lt_of_le_of_ne (not_lt.mp hlt) he
        · exact hhead x hx

lemma sorted_insertOpt {o : Option Value} (h : m.Sorted) : (m.insertOpt k o).Sorted := by
  cases o with
  | none => exact h
  | some v => exact sorted_insert h

lemma get_overwrite {body : ValueMap} (h : body.Sorted) :
    (body.foldl (fun flat e => ValueMap.insert flat e.1 e.2) m).get j =
      (body.get j).or (m.get j) := by
  induction body generalizing m with
  | nil => rfl
  | cons e rest ih =>
    obtain ⟨hhead, hrest⟩ := List.pairwise_cons.mp h
    rw [List.foldl_cons, ih hrest, get_insert, get_cons]
    split
    · next he =>
      have hnone : rest.find? (fun x => x.1 == j) = none := by
        apply List.find?_eq_none.mpr
        intro x hx
        simpa [← he] using (hhead x hx).ne'
      simp [get, hnone]
    · rfl

end ValueMap

def Legal (m : ValueMap) : Prop := ∀ e ∈ m, e.1 ∈ known

lemma legal_insert {m : ValueMap} {k : String} {v : Value} (h : Legal m) (hk : k ∈ known) :
    Legal (m.insert k v) := by
  intro e he
  obtain rfl | he := ValueMap.mem_insert he
  · exact hk
  · exact h e he

lemma legal_insertOpt {m : ValueMap} {k : String} {o : Option Value} (h : Legal m)
    (hk : k ∈ known) : Legal (m.insertOpt k o) := by
  cases o with
  | none => exact h
  | some v => exact legal_insert h hk

lemma legal_insertLoss {m : ValueMap} (h : Legal m) (l : Option LossSpec) :
    Legal (insertLoss m l) := by
  cases l with
  | none => exact h
  | some l =>
    cases l with
    | simple p => exact legal_insert (legal_insert h (by decide)) (by decide)
    | geModel loss r hh k =>
      exact legal_insert (legal_insert (legal_insert h (by decide)) (by decide)) (by decide)

lemma legal_specToFlatMap (s : ImpairSpec) : Legal (specToFlatMap s) := by
  apply legal_insert _ (by decide)
  apply legal_insert _ (by decide)
  apply legal_insertOpt _ (by decide)
  apply legal_insertOpt _ (by decide)
  apply legal_insertOpt _ (by decide)
  apply legal_insertLoss
  apply legal_insert _ (by decide)
  apply legal_insert _ (by decide)
  nofun

lemma legal_body (ov : StepOverride) : Legal ov.body := by
  apply legal_insertOpt _ (by decide)
  apply legal_insertOpt _ (by decide)
  apply legal_insertOpt _ (by decide)
  apply legal_insertOpt _ (by decide)
  apply legal_insertOpt _ (by decide)
  apply legal_insertOpt _ (by decide)
  apply legal_insertOpt _ (by decide)
  nofun

lemma legal_overwrite {m body : ValueMap} (hm : Legal m) (hb : Legal body) :
    Legal (body.foldl (fun flat e => ValueMap.insert flat e.1 e.2) m) := by
  induction body generalizing m with
  | nil => exact hm
  | cons e rest ih =>
    apply ih
    · exact legal_insert hm (hb e List.mem_cons_self)
    · intro x hx
      exact hb x (List.mem_cons_of_mem _ hx)

lemma fromFlatJson_legal {m : ValueMap} (h : Legal m) :
    fromFlatJson fmt render (.object m) = readSpec fmt render m := by
  have hnone : m.keys.find? (fun k => !known.contains k) = none := by
    apply List.find?_eq_none.mpr
    intro k hk
    obtain ⟨e, he, rfl⟩ := List.mem_map.mp hk
    simpa using h e he
  simp only [fromFlatJson, hnone]

lemma sorted_body (ov : StepOverride) : ov.body.Sorted := by
  apply ValueMap.sorted_insertOpt
  apply ValueMap.sorted_insertOpt
  apply ValueMap.sorted_insertOpt
  apply ValueMap.sorted_insertOpt
  apply ValueMap.sorted_insertOpt
  apply ValueMap.sorted_insertOpt
  apply ValueMap.sorted_insertOpt
  exact List.Pairwise.nil

def flat (s : ImpairSpec) (ov : StepOverride) : ValueMap :=
  ov.body.foldl (fun flat e => ValueMap.insert flat e.1 e.2) (specToFlatMap s)

def flatLoss (base : Option LossSpec) (ov : StepOverride) : Option LossSpec :=
  match base with
  | some (.geModel loss r h k) =>
      let g := ov.gemodel.getD (r, h, k)
      some (.geModel (ov.loss.getD loss) g.1 g.2.1 g.2.2)
  | some (.simple p) => some (.simple (ov.loss.getD p))
  | none => ov.loss.map LossSpec.simple

lemma get_insertLoss_of_ne {m : ValueMap} {l : Option LossSpec} {j : String} (h₁ : "loss" ≠ j)
    (h₂ : "loss_mode" ≠ j) (h₃ : "gemodel" ≠ j) : (insertLoss m l).get j = m.get j := by
  cases l with
  | none => rfl
  | some l => cases l <;> simp [insertLoss, ValueMap.get_insert, h₁, h₂, h₃]

lemma get_flat (j : String) : (flat s ov).get j = (ov.body.get j).or ((specToFlatMap s).get j) :=
  ValueMap.get_overwrite (sorted_body ov)

lemma flat_rtt : getU64 render (flat s ov) "rtt_ms" = .ok (ov.rttMs.getD s.rttMs) := by
  have h : (flat s ov).get "rtt_ms" = some (.posInt (ov.rttMs.getD s.rttMs)) := by
    rw [get_flat]
    cases hv : ov.rttMs <;> simp [StepOverride.body, specToFlatMap, ValueMap.get_insertOpt,
      ValueMap.get_insert, get_insertLoss_of_ne, ValueMap.get_nil, hv]
  simp [getU64, h, Value.isNumber, Value.asU64]

lemma flat_jitter : getU64 render (flat s ov) "jitter_ms" = .ok (ov.jitterMs.getD s.jitterMs) := by
  have h : (flat s ov).get "jitter_ms" = some (.posInt (ov.jitterMs.getD s.jitterMs)) := by
    rw [get_flat]
    cases hv : ov.jitterMs <;> simp [StepOverride.body, specToFlatMap, ValueMap.get_insertOpt,
      ValueMap.get_insert, get_insertLoss_of_ne, ValueMap.get_nil, hv]
  simp [getU64, h, Value.isNumber, Value.asU64]

lemma flat_reorder :
    getOptStr render (flat s ov) "reorder" = .ok (ov.reorderPct.or s.reorderPct) := by
  have h : (flat s ov).get "reorder" = (ov.reorderPct.or s.reorderPct).map Value.string := by
    rw [get_flat]
    cases hv : ov.reorderPct <;> simp [StepOverride.body, specToFlatMap, ValueMap.get_insertOpt,
      ValueMap.get_insert, get_insertLoss_of_ne, ValueMap.get_nil, hv]
  rw [getOptStr, h]
  cases ov.reorderPct.or s.reorderPct <;> rfl

lemma flat_seed : getSeed render (flat s ov) = .ok (ov.seed.or s.seed) := by
  have h : (flat s ov).get "seed" = (ov.seed.or s.seed).map Value.posInt := by
    rw [get_flat]
    cases hv : ov.seed <;> simp [StepOverride.body, specToFlatMap, ValueMap.get_insertOpt,
      ValueMap.get_insert, get_insertLoss_of_ne, ValueMap.get_nil, hv]
  rw [getSeed, h]
  cases ov.seed.or s.seed <;> rfl

lemma flat_rate (hs : ∀ r, s.rateMbps = some r → r.isFinite) :
    getRate render (flat s ov) = .ok (ov.rateMbps.or s.rateMbps) := by
  have h : (flat s ov).get "rate_mbps" = (ov.rateMbps.or s.rateMbps).map Value.float := by
    rw [get_flat]
    cases hv : ov.rateMbps with
    | some r => simp [StepOverride.body, ValueMap.get_insertOpt, hv]
    | none =>
      simp only [StepOverride.body, specToFlatMap, ValueMap.get_insertOpt, ValueMap.get_insert,
        ValueMap.get_nil, hv]
      cases hr : s.rateMbps with
      | none => simp [get_insertLoss_of_ne, ValueMap.get_insert, ValueMap.get_nil]
      | some r => simp [Value.ofF64, hs r hr]
  rw [getRate, h]
  cases ov.rateMbps.or s.rateMbps <;> rfl

lemma flat_limit : getLimit render (flat s ov) = .ok s.limit := by
  have h : (flat s ov).get "limit" = some (.posInt s.limit) := by
    rw [get_flat]
    simp [StepOverride.body, specToFlatMap, ValueMap.get_insertOpt, ValueMap.get_insert,
      ValueMap.get_nil]
  simp [getLimit, getU64, h, Value.isNumber, Value.asU64]

lemma flat_dir : getDir render (flat s ov) = .ok s.dir := by
  have h : (flat s ov).get "dir" = some (.string s.dir.text) := by
    rw [get_flat]
    simp [StepOverride.body, specToFlatMap, ValueMap.get_insertOpt, ValueMap.get_insert,
      ValueMap.get_nil]
  rw [getDir, h]
  cases s.dir <;> rfl

def LossSpec.text : LossSpec → String
  | .simple p => p
  | .geModel loss _ _ _ => loss

def LossSpec.mode : LossSpec → String
  | .simple _ => "simple"
  | .geModel _ _ _ _ => "gemodel"

def LossSpec.trio : LossSpec → Option (String × String × String)
  | .simple _ => none
  | .geModel _ r h k => some (r, h, k)

def trioValue (g : String × String × String) : Value :=
  .array [.string g.1, .string g.2.1, .string g.2.2]

lemma get_insertLoss (a b : Value) (l : Option LossSpec) :
    let m := insertLoss ((ValueMap.insert [] "rtt_ms" a).insert "jitter_ms" b) l
    m.get "loss" = l.map (fun x => .string x.text) ∧
      m.get "loss_mode" = l.map (fun x => .string x.mode) ∧
      m.get "gemodel" = (l.bind LossSpec.trio).map trioValue := by
  cases l with
  | none => simp [insertLoss, ValueMap.get_insert, ValueMap.get_nil]
  | some l =>
    cases l <;> simp [insertLoss, ValueMap.get_insert, ValueMap.get_nil, LossSpec.text,
      LossSpec.mode, LossSpec.trio, trioValue]

lemma flat_get_loss : (flat s ov).get "loss" =
    (ov.loss.or (s.loss.map LossSpec.text)).map Value.string := by
  rw [get_flat, Option.map_or, Option.map_map]
  congr 1
  · cases hv : ov.loss <;> simp [StepOverride.body, ValueMap.get_insertOpt, ValueMap.get_nil, hv]
  · simp only [specToFlatMap, ValueMap.get_insertOpt, ValueMap.get_insert]
    exact (get_insertLoss _ _ s.loss).1

lemma flat_get_mode : (flat s ov).get "loss_mode" =
    (s.loss.map LossSpec.mode).map Value.string := by
  have hbody : ov.body.get "loss_mode" = none := by
    simp [StepOverride.body, ValueMap.get_insertOpt, ValueMap.get_nil]
  rw [get_flat, hbody, Option.none_or, Option.map_map]
  simp only [specToFlatMap, ValueMap.get_insertOpt, ValueMap.get_insert]
  exact (get_insertLoss _ _ s.loss).2.1

lemma flat_get_gemodel : (flat s ov).get "gemodel" =
    (ov.gemodel.or (s.loss.bind LossSpec.trio)).map trioValue := by
  rw [get_flat, Option.map_or]
  congr 1
  · cases hv : ov.gemodel <;>
      simp [StepOverride.body, ValueMap.get_insertOpt, ValueMap.get_nil, hv, trioValue]
  · simp only [specToFlatMap, ValueMap.get_insertOpt, ValueMap.get_insert]
    exact (get_insertLoss _ _ s.loss).2.2

lemma getOptStr_of_get {m : ValueMap} {k : String} {o : Option String}
    (h : m.get k = o.map Value.string) : getOptStr render m k = .ok o := by
  rw [getOptStr, h]
  cases o <;> rfl

lemma getGemodel_of_get {m : ValueMap} {o : Option (String × String × String)}
    (h : m.get "gemodel" = o.map trioValue) : getGemodel render m = .ok o := by
  rw [getGemodel, h]
  cases o with
  | none => rfl
  | some g => simp [trioValue, Value.asStr]

lemma flat_loss : lossOf ((s.loss.map LossSpec.mode).getD "simple")
    (ov.loss.or (s.loss.map LossSpec.text)) (ov.gemodel.or (s.loss.bind LossSpec.trio)) =
      .ok (flatLoss s.loss ov) := by
  cases s.loss with
  | none => cases hl : ov.loss <;> simp [flatLoss, lossOf, hl]
  | some l =>
    cases l with
    | simple p => cases hl : ov.loss <;> simp [flatLoss, lossOf, LossSpec.mode, LossSpec.text, hl]
    | geModel p r h k =>
      cases hl : ov.loss <;> cases hg : ov.gemodel <;>
        simp [flatLoss, lossOf, LossSpec.mode, LossSpec.text, LossSpec.trio, hl, hg]

lemma mergeFlat_eq (hs : ∀ r, s.rateMbps = some r → r.isFinite) :
    mergeFlat fmt render s ov.body = (do
      let t := merged s ov (flatLoss s.loss ov)
      t.validate fmt
      pure t) := by
  have hlegal : Legal (flat s ov) := legal_overwrite (legal_specToFlatMap s) (legal_body ov)
  rw [mergeFlat]
  change fromFlatJson fmt render (.object (flat s ov)) = _
  rw [fromFlatJson_legal hlegal]
  simp only [readSpec, flat_rtt, flat_jitter, getOptStr_of_get flat_get_loss,
    getOptStr_of_get flat_get_mode, getGemodel_of_get flat_get_gemodel, flat_loss, flat_rate hs,
    flat_seed, flat_limit, flat_dir, flat_reorder, bind, Except.bind, merged]

lemma mergeFlat_ok {t : ImpairSpec} (hs : ∀ r, s.rateMbps = some r → r.isFinite) :
    mergeFlat fmt render s ov.body = .ok t ↔
      t = merged s ov (flatLoss s.loss ov) ∧ t.validate fmt = .ok () := by
  rw [mergeFlat_eq hs]
  simp only [bind_unit_ok]
  constructor
  · intro ⟨hv, ht⟩
    cases ht
    exact ⟨rfl, hv⟩
  · intro ⟨ht, hv⟩
    subst ht
    exact ⟨hv, rfl⟩

lemma rate_isFinite {r : Binary64} (h : validateRate fmt r = .ok ()) : r.isFinite := by
  by_contra hr
  simp [validateRate, hr] at h

lemma ImpairSpec.finite_of_valid (hv : s.validate fmt = .ok ()) :
    ∀ r, s.rateMbps = some r → r.isFinite := by
  intro r hr
  have h := (validate_iff.1 hv).2.2.2
  rw [hr] at h
  exact rate_isFinite h

lemma merged_empty : merged s .empty (flatLoss s.loss .empty) = s := by
  cases hl : s.loss with
  | none => simp [merged, flatLoss, StepOverride.empty, ← hl]
  | some l => cases l <;> simp [merged, flatLoss, StepOverride.empty, ← hl]

lemma fromFlatJson_specToFlatMap (hv : s.validate fmt = .ok ()) :
    fromFlatJson fmt render (.object (specToFlatMap s)) = .ok s :=
  have h : mergeFlat fmt render s StepOverride.empty.body = .ok s ↔
      s = merged s .empty (flatLoss s.loss .empty) ∧ s.validate fmt = .ok () :=
    mergeFlat_ok (ImpairSpec.finite_of_valid hv)
  h.mpr ⟨(merged_empty).symm, hv⟩

def StepOverride.crosses (base : Option LossSpec) (ov : StepOverride) : Bool :=
  match base with
  | some (.geModel _ _ _ _) => ov.gemodel.isNone && ov.loss.isSome
  | _ => ov.gemodel.isSome

/-- The values of an override, those of its Gilbert model apart, are in their ranges. -/
structure StepOverride.InRange (fmt : FloatText) (ov : StepOverride) : Prop where
  rtt : validateOpt validateRtt ov.rttMs = .ok ()
  loss : validateOpt validateLoss ov.loss = .ok ()
  reorder : validateOpt validateReorder ov.reorderPct = .ok ()
  rate : validateOpt (validateRate fmt) ov.rateMbps = .ok ()

lemma mergeLoss_eq_flatLoss {base : Option LossSpec} :
    mergeLoss base ov = .ok (flatLoss base ov) ↔ ¬ov.crosses base := by
  cases base with
  | none =>
    cases hg : ov.gemodel with
    | none => cases hl : ov.loss <;> simp [mergeLoss, flatLoss, StepOverride.crosses, hg, hl]
    | some g =>
      cases hl : ov.loss <;>
        simp [mergeLoss, flatLoss, StepOverride.crosses, LossSpec.inherited, hg, hl]
  | some l =>
    cases l with
    | simple p =>
      cases hg : ov.gemodel with
      | none => cases hl : ov.loss <;> simp [mergeLoss, flatLoss, StepOverride.crosses, hg, hl]
      | some g =>
        simp only [mergeLoss, flatLoss, StepOverride.crosses, hg]
        cases ov.loss.or (LossSpec.inherited (some (.simple p))) <;> simp
    | geModel p r h k =>
      cases hg : ov.gemodel <;> cases hl : ov.loss <;>
        simp [mergeLoss, flatLoss, StepOverride.crosses, LossSpec.inherited, hg, hl]

lemma StepOverride.Valid.inRange (h : ov.Valid fmt) : ov.InRange fmt where
  rtt := by
    cases hv : ov.rttMs with
    | none => rfl
    | some v => exact h.rtt hv
  loss := by
    cases hv : ov.loss with
    | none => rfl
    | some l => exact h.loss hv
  reorder := h.reorder
  rate := h.rate

lemma merged_rtt {loss : Option LossSpec} (hs : validateRtt s.rttMs = .ok ()) :
    validateRtt (merged s ov loss).rttMs = .ok () ↔ validateOpt validateRtt ov.rttMs = .ok () := by
  cases hv : ov.rttMs with
  | none => simp [merged, hv, validateOpt, hs]
  | some v => simp [merged, hv, validateOpt]

lemma flatLoss_valid {base : Option LossSpec} (hb : validateOpt LossSpec.validate base = .ok ())
    (hc : ov.crosses base) (hl : validateOpt validateLoss ov.loss = .ok ()) :
    validateOpt LossSpec.validate (flatLoss base ov) = .ok () := by
  cases base with
  | none =>
    cases ho : ov.loss with
    | none => simp [flatLoss, ho, validateOpt]
    | some p =>
      rw [ho] at hl
      simpa [flatLoss, ho, validateOpt, LossSpec.validate] using hl
  | some l =>
    cases l with
    | simple p =>
      cases ho : ov.loss with
      | none => simpa [flatLoss, ho] using hb
      | some p' =>
        rw [ho] at hl
        simpa [flatLoss, ho, validateOpt, LossSpec.validate] using hl
    | geModel p r h k =>
      obtain ⟨hg, ho⟩ : ov.gemodel = none ∧ ov.loss.isSome := by
        simpa [StepOverride.crosses] using hc
      obtain ⟨p', hp⟩ := Option.isSome_iff_exists.mp ho
      rw [hp] at hl
      simp only [flatLoss, hg, hp, Option.getD_none, Option.getD_some]
      exact loss_validate_geModel.2 ⟨hl, (loss_validate_geModel.1 hb).2⟩

lemma flatLoss_inRange {base : Option LossSpec}
    (h : validateOpt LossSpec.validate (flatLoss base ov) = .ok ()) :
    validateOpt validateLoss ov.loss = .ok () := by
  cases ho : ov.loss with
  | none => rfl
  | some p =>
    cases base with
    | none => simpa [flatLoss, ho, validateOpt, LossSpec.validate] using h
    | some l =>
      cases l with
      | simple p' => simpa [flatLoss, ho, validateOpt, LossSpec.validate] using h
      | geModel p' r hh k =>
        rw [flatLoss, ho] at h
        exact (loss_validate_geModel.1 h).1

/-- The three merges all reject, or give one specification. -/
def MergesAgree (fmt : FloatText) (render : Value → String) (s : ImpairSpec) (ov : StepOverride) :
    Prop :=
  (mergeSpec fmt s ov.args).toOption = (mergeStep fmt s ov).toOption ∧
    (mergeFlat fmt render s ov.body).toOption = (mergeStep fmt s ov).toOption

lemma toOption_eq {α : Type} {x y : Except String α} (h : ∀ a, x = .ok a ↔ y = .ok a) :
    x.toOption = y.toOption := by
  cases hx : x with
  | ok a => rw [(h a).mp hx]
  | error e =>
    cases hy : y with
    | ok b => exact absurd ((h b).mpr hy) (by simp [hx])
    | error e' => rfl

lemma cliLoss_ok {base loss : Option LossSpec} :
    cliLoss base ov.args = .ok loss ↔ mergeLoss base ov = .ok loss := by
  simp only [cliLoss, mergeLoss, StepOverride.args]
  cases ov.gemodel with
  | none => cases ov.loss <;> simp
  | some g => cases ov.loss.or (LossSpec.inherited base) <;> simp

lemma mergeSpec_ok {t : ImpairSpec} :
    mergeSpec fmt s ov.args = .ok t ↔ mergeStep fmt s ov = .ok t := by
  simp only [mergeStep, mergeSpec, bind_eq_ok, cliLoss_ok]
  rfl

lemma agree_of_not_crosses (hs : ∀ r, s.rateMbps = some r → r.isFinite)
    (h : ¬ov.crosses s.loss) : MergesAgree fmt render s ov := by
  refine ⟨toOption_eq fun _ => mergeSpec_ok, toOption_eq ?_⟩
  intro t
  rw [mergeFlat_ok hs, mergeStep_ok, mergeLoss_eq_flatLoss.2 h]
  constructor
  · intro ⟨ht, hv⟩
    exact ⟨_, rfl, ht, hv⟩
  · intro ⟨loss, hl, ht, hv⟩
    cases hl
    exact ⟨ht, hv⟩

lemma agree_of_not_inRange (hv : s.validate fmt = .ok ()) (h : ¬ov.InRange fmt) :
    MergesAgree fmt render s ov := by
  refine ⟨toOption_eq fun _ => mergeSpec_ok, toOption_eq ?_⟩
  intro t
  constructor
  · intro ht
    obtain ⟨rfl, ht⟩ := (mergeFlat_ok (ImpairSpec.finite_of_valid hv)).mp ht
    obtain ⟨hrtt, hl, hreorder, hrate⟩ := validate_iff.1 ht
    exact absurd ⟨(merged_rtt (validate_iff.1 hv).1).mp hrtt, flatLoss_inRange hl,
      (validateOpt_or.1 hreorder).1, (validateOpt_or.1 hrate).1⟩ h
  · intro ht
    exact absurd (valid_of_merge ht).inRange h

lemma mergeFlat_of_crosses (hv : s.validate fmt = .ok ()) (hc : ov.crosses s.loss)
    (hr : ov.InRange fmt) :
    mergeFlat fmt render s ov.body = .ok (merged s ov (flatLoss s.loss ov)) := by
  obtain ⟨hrtt, hl, hreorder, hrate⟩ := validate_iff.1 hv
  refine (mergeFlat_ok (ImpairSpec.finite_of_valid hv)).mpr ⟨rfl, validate_iff.2 ⟨?_, ?_, ?_, ?_⟩⟩
  · exact (merged_rtt hrtt).mpr hr.rtt
  · exact flatLoss_valid hl hc hr.loss
  · exact validateOpt_or.2 ⟨hr.reorder, fun _ => hreorder⟩
  · exact validateOpt_or.2 ⟨hr.rate, fun _ => hrate⟩

/-- A specification comes back from its flat object. The merges agree when the override keeps to
the kind of loss of the base, or has a value that all of them reject. -/
theorem merges_agree_iff (fmt : FloatText) (render : Value → String) (s : ImpairSpec)
    (ov : StepOverride) (hv : s.validate fmt = .ok ()) :
    fromFlatJson fmt render (.object (specToFlatMap s)) = .ok s ∧
      (MergesAgree fmt render s ov ↔ ¬ov.crosses s.loss ∨ ¬ov.InRange fmt) := by
  refine ⟨fromFlatJson_specToFlatMap hv, ?_, ?_⟩
  · intro hagree
    by_contra h
    rw [not_or, not_not, not_not] at h
    obtain ⟨hc, hr⟩ := h
    have hstep := hagree.2
    rw [mergeFlat_of_crosses hv hc hr] at hstep
    cases hm : mergeStep fmt s ov with
    | error e =>
      rw [hm] at hstep
      cases hstep
    | ok t =>
      rw [hm] at hstep
      have ht : merged s ov (flatLoss s.loss ov) = t := Option.some.inj hstep
      obtain ⟨loss, hl, htl, _⟩ := mergeStep_ok.1 hm
      have hloss : flatLoss s.loss ov = loss := congrArg ImpairSpec.loss (ht.trans htl)
      rw [← hloss] at hl
      exact mergeLoss_eq_flatLoss.1 hl hc
  · intro h
    obtain h | h := h
    · exact agree_of_not_crosses (ImpairSpec.finite_of_valid hv) h
    · exact agree_of_not_inRange hv h

def lossyBase : ImpairSpec := { ImpairSpec.default with loss := some (.simple "2%") }

lemma lossyBase_valid : lossyBase.validate plainText = .ok () := by
  decide +kernel

theorem merges_agree_lossier :
    fromFlatJson plainText (fun _ => "") (.object (specToFlatMap lossyBase)) = .ok lossyBase ∧
      MergesAgree plainText (fun _ => "") lossyBase
        { StepOverride.empty with loss := some "5%" } := by
  obtain ⟨hback, hagree⟩ := merges_agree_iff plainText (fun _ => "") lossyBase
    { StepOverride.empty with loss := some "5%" } lossyBase_valid
  exact ⟨hback, hagree.mpr (Or.inl (by decide))⟩

/-- Over a simple loss REST passes over the Gilbert model that the other two install. -/
theorem gilbert_ignored_by_rest :
    ImpairSpec.validate plainText lossyBase = .ok () ∧
      ¬MergesAgree plainText (fun _ => "") lossyBase
        { StepOverride.empty with gemodel := some ("25", "0", "100") } := by
  refine ⟨lossyBase_valid, ?_⟩
  intro h
  obtain ⟨hstep, hrest⟩ : mergeStep plainText lossyBase
      { StepOverride.empty with gemodel := some ("25", "0", "100") } =
        .ok { lossyBase with loss := some (.geModel "2%" "25" "0" "100") } ∧
    mergeFlat plainText (fun _ => "") lossyBase
      (StepOverride.body { StepOverride.empty with gemodel := some ("25", "0", "100") }) =
        .ok lossyBase := by decide +kernel
  have := h.2
  rw [hstep, hrest] at this
  revert this
  decide

end MediaServo.Weaknet
