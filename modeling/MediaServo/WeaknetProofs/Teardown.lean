import MediaServo.Weaknet.Teardown

/-! The recorded teardown over every run of commands. It takes down all that weaknet has in the kernel
as long as no command replaces or removes the record too early, and a link that was there before
weaknet is never deleted. -/

namespace MediaServo.Weaknet.Teardown

open MediaServo.Foundations

def Op.puts : Op → Option Obj
  | .rootAdd dev | .hang dev => some (.root dev)
  | .ifbChange | .ifbAdd => some (.root ifbDev)
  | .linkAdd => some .link
  | .ingressAdd dev | .mirred dev => some (.ingress dev)
  | _ => none

def Op.takes : Op → List Obj
  | .rootDel dev => [.root dev]
  | .ingressDel dev => [.ingress dev]
  | .linkDel => [.link, .root ifbDev, .ingress ifbDev]
  | _ => []

def Kernel.Linked (k : Kernel) : Prop :=
  k.link = none → k.roots.get ifbDev = none ∧ k.ingress.get ifbDev = none

def Kernel.objs (k : Kernel) : List Obj :=
  (k.roots.toList.filter fun r => r.2.ours).map (fun r => .root r.1) ++
    (k.ingress.toList.filter fun i => i.2).map (fun i => .ingress i.1) ++
    if k.link = some true then [.link] else []

def StepPlan.ops (step : StepPlan) : List Op := step.run :: step.alt.toList

def touched (plan : List StepPlan) : List Obj := plan.flatMap fun step => step.ops.filterMap Op.puts

def takesDown (obj : Obj) : List Op → List Bool → Bool
  | [], _ => false
  | op :: ops, oks => oks.headD true && obj ∈ op.takes || takesDown obj ops oks.tail

variable {k k' : Kernel} {op : Op} {ops : List Op} {plan : List StepPlan} {oks : List Bool} {obj : Obj}

lemma Kernel.mem_objs : obj ∈ k.objs ↔ k.has obj := by
  cases obj with
  | root dev =>
    simp only [objs, has, List.mem_append, List.mem_map, List.mem_filter, Prod.exists,
      FiniteMap.mem_toList, Option.any_eq_true]
    aesop
  | ingress dev =>
    simp only [objs, has, List.mem_append, List.mem_map, List.mem_filter, Prod.exists,
      FiniteMap.mem_toList]
    aesop
  | link => simp [objs, has]

inductive Effect (k : Kernel) (op : Op) : Kernel → Prop
  | same (ht : op.takes = []) : Effect k op k
  | root (dev : String) (r : Root) (hp : op.puts = some (.root dev))
      (hl : dev = ifbDev → k.link = none → (k.roots.get dev).isSome) :
      Effect k op { k with roots := k.roots.set dev r }
  | ingress (dev : String) (hp : op.puts = some (.ingress dev))
      (hl : dev = ifbDev → k.link = none → (k.ingress.get dev).isSome) :
      Effect k op { k with ingress := k.ingress.set dev true }
  | link (hp : op.puts = some .link) (hl : k.link = none) : Effect k op { k with link := some true }
  | rootDel (dev : String) (ho : op = .rootDel dev) :
      Effect k op { k with roots := k.roots.remove dev }
  | ingressDel (dev : String) (ho : op = .ingressDel dev) :
      Effect k op { k with ingress := k.ingress.remove dev }
  | linkDel (ho : op = .linkDel) :
      Effect k op ⟨k.roots.remove ifbDev, k.ingress.remove ifbDev, none⟩

namespace Op

lemma effect (h : op.exec k = some k') : Effect k op k' := by
  cases op with
  | rootDel dev =>
    simp only [exec] at h
    split at h <;> cases h
    exact .rootDel dev rfl
  | rootAdd dev =>
    simp only [exec] at h
    split_ifs at h with hc
    cases h
    apply Effect.root dev _ rfl
    rintro rfl hl
    simp [hl] at hc
  | hang dev =>
    simp only [exec] at h
    split at h <;> cases h
    apply Effect.root dev _ rfl
    intro _ _
    exact Option.isSome_iff_exists.mpr ⟨_, ‹_›⟩
  | flush dev =>
    simp only [exec] at h
    split_ifs at h
    cases h
    exact .same rfl
  | linkAdd =>
    simp only [exec] at h
    split_ifs at h with hc
    cases h
    exact .link rfl (by simpa using hc)
  | linkUp =>
    simp only [exec] at h
    split_ifs at h
    cases h
    exact .same rfl
  | linkDel =>
    simp only [exec] at h
    split_ifs at h
    cases h
    exact .linkDel rfl
  | ifbChange =>
    simp only [exec] at h
    split at h <;> cases h
    apply Effect.root ifbDev _ rfl
    intro _ _
    simp [*]
  | ifbAdd =>
    simp only [exec] at h
    split_ifs at h with hc
    cases h
    apply Effect.root ifbDev _ rfl
    intro _ hl
    simp [hl] at hc
  | ingressAdd dev =>
    simp only [exec] at h
    split_ifs at h with hc
    cases h
    apply Effect.ingress dev rfl
    rintro rfl hl
    simp [hl] at hc
  | ingressFlush dev =>
    simp only [exec] at h
    split_ifs at h
    cases h
    exact .same rfl
  | mirred dev =>
    simp only [exec] at h
    split_ifs at h with hc
    cases h
    apply Effect.ingress dev rfl
    intro _ hl
    simp [hl] at hc
  | ingressDel dev =>
    simp only [exec] at h
    split at h <;> cases h
    exact .ingressDel dev rfl

lemma exec_linked (hk : k.Linked) (h : op.exec k = some k') : k'.Linked := by
  intro hl
  cases effect h with
  | same ht => exact hk hl
  | root dev r hp hd =>
    obtain ⟨hr, hi⟩ := hk hl
    refine ⟨?_, hi⟩
    rw [FiniteMap.get_set]
    split_ifs with he
    · subst he
      simpa [hr] using hd rfl hl
    · exact hr
  | ingress dev hp hd =>
    obtain ⟨hr, hi⟩ := hk hl
    refine ⟨hr, ?_⟩
    rw [FiniteMap.get_set]
    split_ifs with he
    · subst he
      simpa [hi] using hd rfl hl
    · exact hi
  | link hp hn => cases hl
  | rootDel dev ho =>
    obtain ⟨hr, hi⟩ := hk hl
    simp [FiniteMap.get_remove, hr, hi]
  | ingressDel dev ho =>
    obtain ⟨hr, hi⟩ := hk hl
    simp [FiniteMap.get_remove, hr, hi]
  | linkDel ho => simp

lemma takes_of_puts (h : op.puts = some obj) : op.takes = [] := by
  cases op <;> simp_all [puts, takes]

lemma exec_has (h : op.exec k = some k') (ho : k'.has obj) :
    op.puts = some obj ∨ k.has obj ∧ obj ∉ op.takes := by
  cases effect h with
  | same ht => exact Or.inr ⟨ho, by simp [ht]⟩
  | root dev r hp hd =>
    by_cases he : obj = .root dev
    · exact Or.inl (he ▸ hp)
    · refine Or.inr ⟨?_, by simp [takes_of_puts hp]⟩
      cases obj <;> simp_all [Kernel.has, FiniteMap.get_set]
  | ingress dev hp hd =>
    by_cases he : obj = .ingress dev
    · exact Or.inl (he ▸ hp)
    · refine Or.inr ⟨?_, by simp [takes_of_puts hp]⟩
      cases obj <;> simp_all [Kernel.has, FiniteMap.get_set]
  | link hp hn =>
    by_cases he : obj = .link
    · exact Or.inl (he ▸ hp)
    · refine Or.inr ⟨?_, by simp [takes_of_puts hp]⟩
      cases obj <;> simp_all [Kernel.has]
  | rootDel dev ho' =>
    subst ho'
    right
    by_cases he : obj = .root dev
    · simp [he, Kernel.has] at ho
    · cases obj <;> simp_all [Kernel.has, takes, FiniteMap.get_remove]
  | ingressDel dev ho' =>
    subst ho'
    right
    cases obj <;> simp_all [Kernel.has, takes, FiniteMap.get_remove]
  | linkDel ho' =>
    subst ho'
    right
    by_cases he : obj = .root ifbDev
    · simp [he, Kernel.has] at ho
    · cases obj <;> simp_all [Kernel.has, takes, FiniteMap.get_remove]

lemma exec_link (hl : k.link = some false) (h : op.exec k = some k') (ho : op ≠ .linkDel) :
    k'.link = some false := by
  cases effect h with
  | link hp hn => simp [hl] at hn
  | linkDel ho' => exact absurd ho' ho
  | _ => exact hl

lemma exec_takes (hk : k.Linked) (ho : obj ∈ op.takes) : ((op.exec k).getD k).has obj = false := by
  cases op <;> simp only [takes, List.mem_cons, List.not_mem_nil, or_false] at ho
  case rootDel dev =>
    subst ho
    cases hr : k.roots.get dev <;> simp [exec, hr, Kernel.has]
  case ingressDel dev =>
    subst ho
    cases hi : k.ingress.get dev <;> simp [exec, hi, Kernel.has]
  case linkDel =>
    cases hl : k.link with
    | none =>
      obtain ⟨hr, hi⟩ := hk hl
      obtain rfl | rfl | rfl := ho <;> simp [exec, hl, hr, hi, Kernel.has]
    | some ours => obtain rfl | rfl | rfl := ho <;> simp [exec, hl, Kernel.has]

lemma exec_of_attempt {ok : Bool} (h : op.attempt k ok = some k') : op.exec k = some k' := by
  cases ok with
  | true => exact h
  | false => cases h

end Op

section

variable {I : Kernel → Prop}

lemma runSteps_preserves
    (h : ∀ step ∈ plan, ∀ op ∈ step.ops, ∀ k k', I k → op.exec k = some k' → I k') (hk : I k)
    (oks : List Bool) : I (runSteps k oks plan).1 := by
  induction plan generalizing k oks with
  | nil => exact hk
  | cons step plan ih =>
    have hrest : ∀ step' ∈ plan, ∀ op ∈ step'.ops, ∀ k k', I k → op.exec k = some k' → I k' :=
      fun step' hs => h step' (by simp [hs])
    rw [runSteps]
    split
    · rename_i k₁ he
      exact ih hrest (h step (by simp) step.run (by simp [StepPlan.ops]) k k₁ hk
        (Op.exec_of_attempt he)) _
    · split
      · rename_i alt ha
        split
        · rename_i k₁ he
          exact ih hrest (h step (by simp) alt (by simp [StepPlan.ops, ha]) k k₁ hk
            (Op.exec_of_attempt he)) _
        · split_ifs
          · exact ih hrest hk _
          · exact hk
      · split_ifs
        · exact ih hrest hk _
        · exact hk

lemma tryAll_preserves (h : ∀ op ∈ ops, ∀ k k', I k → op.exec k = some k' → I k') (hk : I k)
    (oks : List Bool) : I (tryAll k oks ops) := by
  induction ops generalizing k oks with
  | nil => exact hk
  | cons op ops ih =>
    apply ih fun op' ho => h op' (by simp [ho])
    cases he : op.attempt k (oks.headD true) with
    | none => exact hk
    | some k₁ => exact h op (by simp) k k₁ hk (Op.exec_of_attempt he)

end

lemma runSteps_linked (hk : k.Linked) (oks : List Bool) (plan : List StepPlan) :
    (runSteps k oks plan).1.Linked :=
  runSteps_preserves (fun _ _ _ _ _ _ => Op.exec_linked) hk oks

lemma tryAll_linked (hk : k.Linked) (oks : List Bool) (ops : List Op) :
    (tryAll k oks ops).Linked :=
  tryAll_preserves (fun _ _ _ _ => Op.exec_linked) hk oks

lemma runSteps_has (ho : (runSteps k oks plan).1.has obj) : k.has obj ∨ obj ∈ touched plan := by
  revert ho
  apply runSteps_preserves (I := fun k' => k'.has obj → k.has obj ∨ obj ∈ touched plan)
  · intro step hs op hop k₁ k₂ ih he ho
    obtain hp | ⟨ho', _⟩ := Op.exec_has he ho
    · exact Or.inr (List.mem_flatMap.mpr ⟨step, hs, List.mem_filterMap.mpr ⟨op, hop, hp⟩⟩)
    · exact ih ho'
  · exact Or.inl

lemma tryAll_has (hk : k.Linked) (hd : ∀ op ∈ ops, op.puts = none)
    (ho : (tryAll k oks ops).has obj) : k.has obj ∧ takesDown obj ops oks = false := by
  induction ops generalizing k oks with
  | nil => exact ⟨ho, rfl⟩
  | cons op ops ih =>
    have hk₁ : ((op.attempt k (oks.headD true)).getD k).Linked := by
      cases he : op.attempt k (oks.headD true) with
      | none => exact hk
      | some k₁ => exact Op.exec_linked hk (Op.exec_of_attempt he)
    obtain ⟨ho₁, ht⟩ := ih hk₁ (fun op' hop => hd op' (by simp [hop])) ho
    have hop : k.has obj := by
      cases he : op.attempt k (oks.headD true) with
      | none =>
        rw [he] at ho₁
        exact ho₁
      | some k₁ =>
        rw [he] at ho₁
        obtain hp | ⟨hb, _⟩ := Op.exec_has (Op.exec_of_attempt he) ho₁
        · simp [hd op (by simp)] at hp
        · exact hb
    refine ⟨hop, ?_⟩
    simp only [takesDown, ht, Bool.or_false, Bool.and_eq_false_iff, decide_eq_false_iff_not]
    by_cases hb : oks.headD true = true
    · right
      intro hm
      rw [Op.attempt, if_pos hb, Op.exec_takes hk hm] at ho₁
      cases ho₁
    · exact Or.inl (by simpa using hb)

lemma takesDown_of (h : ∃ op ∈ ops, obj ∈ op.takes) (hoks : ∀ b ∈ oks, b = true) :
    takesDown obj ops oks = true := by
  induction ops generalizing oks with
  | nil => simp at h
  | cons op ops ih =>
    have hhead : oks.headD true = true := by
      cases oks with
      | nil => rfl
      | cons b oks => exact hoks b (by simp)
    simp only [takesDown, hhead, Bool.true_and, Bool.or_eq_true, decide_eq_true_eq]
    obtain ⟨op', hop, ho⟩ := h
    cases hop with
    | head => exact Or.inl ho
    | tail _ hop => exact Or.inr (ih ⟨op', hop, ho⟩ fun b hb => hoks b (List.mem_of_mem_tail hb))

lemma tryAll_link (hl : k.link = some false) (hd : Op.linkDel ∉ ops) :
    (tryAll k oks ops).link = some false := by
  apply tryAll_preserves (I := fun k => k.link = some false) _ hl
  intro op hop k₁ k₂ h₁ he
  exact Op.exec_link h₁ he fun h => hd (h ▸ hop)

lemma runSteps_link (hl : k.link = some false) (hd : ∀ step ∈ plan, Op.linkDel ∉ step.ops) :
    (runSteps k oks plan).1.link = some false := by
  apply runSteps_preserves (I := fun k => k.link = some false) _ hl
  intro step hs op hop k₁ k₂ h₁ he
  exact Op.exec_link h₁ he fun h => hd step hs (h ▸ hop)

lemma touched_append (p q : List StepPlan) : touched (p ++ q) = touched p ++ touched q :=
  List.flatMap_append

lemma foreign_has (roots : FiniteMap String RootKind) (ingress : FiniteMap String Unit)
    (link : Bool) : (Kernel.foreign roots ingress link).has obj = false := by
  cases obj with
  | root dev => simp [Kernel.foreign, Kernel.has, Option.any_map]
  | ingress dev => simp [Kernel.foreign, Kernel.has]
  | link => cases link <;> simp [Kernel.foreign, Kernel.has]

lemma foreign_linked (roots : FiniteMap String RootKind) (ingress : FiniteMap String Unit)
    (link : Bool) : (Kernel.foreign roots ingress link).Linked := by
  intro hl
  cases link with
  | true => simp [Kernel.foreign] at hl
  | false => simp [Kernel.foreign]

section

variable {req : ApplyRequest} {o : Outcome}

def probeLeaves (k : Kernel) (o : Outcome) : Bool :=
  k.link.isNone && !o.sidecar && o.probeAdd && !o.probeDel

lemma probe_linked (hk : k.Linked) (o : Outcome) : (probe k o).1.Linked := by
  rw [probe]
  split_ifs
  · exact hk
  · exact hk
  · split
    · exact hk
    · rename_i k₁ he
      have hk₁ := Op.exec_linked hk (Op.exec_of_attempt he)
      cases hd : Op.linkDel.attempt k₁ o.probeDel with
      | none => exact hk₁
      | some k₂ => exact Op.exec_linked hk₁ (Op.exec_of_attempt hd)

lemma probe_has (hk : k.Linked) (ho : (probe k o).1.has obj) :
    k.has obj ∨ obj = .link ∧ probeLeaves k o := by
  rw [probe] at ho
  split_ifs at ho with hl hs
  · exact Or.inl ho
  · exact Or.inl ho
  · split at ho
    · exact Or.inl ho
    · rename_i k₁ he
      have hk₁ := Op.exec_linked hk (Op.exec_of_attempt he)
      have hdel : ∀ op ∈ [Op.linkDel], op.puts = none := by simp [Op.puts]
      have ho₀ : (tryAll k₁ [o.probeDel] [.linkDel]).has obj := ho
      obtain ⟨ho₁, ht⟩ := tryAll_has hk₁ hdel ho₀
      obtain hp | ⟨hb, _⟩ := Op.exec_has (Op.exec_of_attempt he) ho₁
      · cases hp
        refine Or.inr ⟨rfl, ?_⟩
        have ha : o.probeAdd = true := by
          by_contra hb
          simp [Op.attempt, hb] at he
        simp_all [probeLeaves, takesDown, Op.takes]
      · exact Or.inl hb

lemma probe_link (hl : k.link = some false) (o : Outcome) : (probe k o).1.link = some false := by
  rw [probe, if_pos (by simp [hl])]
  exact hl

lemma rollback_puts (dev : String) (u c i : Bool) :
    ∀ op ∈ rollbackSteps dev u c i, op.puts = none := by
  cases u <;> cases c <;> cases i <;> simp [rollbackSteps, rollbackIfb, Op.puts]

lemma planTeardown_puts (iface : String) (u c : Bool) :
    ∀ op ∈ planTeardown iface u c, op.puts = none := by
  cases u <;> cases c <;> simp [planTeardown, Op.puts]

lemma mem_touched : obj ∈ touched plan ↔ ∃ step ∈ plan, ∃ op ∈ step.ops, op.puts = some obj := by
  simp only [touched, List.mem_flatMap, List.mem_filterMap]

lemma touched_skeleton {dev : String} {add sig : Bool} {legs : ℕ}
    (h : obj ∈ touched (planSkeleton dev add legs sig)) : obj = .root dev := by
  obtain ⟨step, hs, op, hop, hp⟩ := mem_touched.1 h
  simp only [planSkeleton, List.mem_append, List.mem_replicate,
    List.mem_ite_nil_right, List.mem_cons, List.not_mem_nil, or_false] at hs
  have hh : op = .rootDel dev ∨ op = .rootAdd dev ∨ op = .hang dev ∨ op = .flush dev := by
    rcases hs with (((⟨_, rfl | rfl⟩ | ⟨_, rfl⟩) | rfl) | ⟨_, rfl⟩) | ⟨_, rfl⟩ <;>
      simp_all [StepPlan.ops]
  obtain rfl | rfl | rfl | rfl := hh <;> simp_all [Op.puts]

lemma touched_ifb {dev : String} {need : Bool} {legs : ℕ}
    (h : obj ∈ touched (planIfb dev legs need)) :
    obj = .link ∧ need ∨ obj = .root ifbDev ∨ obj = .ingress dev := by
  obtain ⟨step, hs, op, hop, hp⟩ := mem_touched.1 h
  simp only [planIfb, List.mem_append, List.mem_replicate,
    List.mem_ite_nil_right, List.mem_cons, List.not_mem_nil, or_false] at hs
  rcases hs with (⟨hn, rfl⟩ | rfl | rfl | rfl | rfl) | ⟨_, rfl⟩ <;>
    simp [StepPlan.ops] at hop
  · subst hop
    cases hp
    exact Or.inl ⟨rfl, hn⟩
  · subst hop
    cases hp
  · obtain rfl | rfl := hop <;> cases hp <;> exact Or.inr (Or.inl rfl)
  · subst hop
    cases hp
    exact Or.inr (Or.inr rfl)
  · subst hop
    cases hp
  · subst hop
    cases hp
    exact Or.inr (Or.inr rfl)

def ApplyRequest.wants (req : ApplyRequest) (makes : Bool) : List Obj :=
  (if req.installSkeleton then [.root req.iface] else []) ++
    if req.useIfb then [.root ifbDev, .ingress req.iface] ++ (if makes then [.link] else []) else []

def State.objs (st : State) : List Obj :=
  [.root st.iface] ++ (if st.ifbUsed then [.ingress st.iface, .root ifbDev] else []) ++
    if st.createdIfb then [.link, .root ifbDev, .ingress ifbDev] else []

lemma wants_mono {a b : Bool} (h : a = true → b = true) (hw : obj ∈ req.wants a) :
    obj ∈ req.wants b := by
  simp only [ApplyRequest.wants, List.mem_append, List.mem_ite_nil_right] at hw ⊢
  tauto

lemma touched_plan {created : Bool} (h : obj ∈ touched (req.plan k created)) :
    obj ∈ req.wants created := by
  rw [ApplyRequest.plan, touched_append, List.mem_append] at h
  rw [ApplyRequest.wants, List.mem_append]
  obtain h | h := h
  · split_ifs at h with hi
    · rw [touched_skeleton h, if_pos hi]
      exact Or.inl (List.mem_singleton_self _)
    · simp [touched] at h
  · split_ifs at h with hu
    · rw [if_pos hu]
      obtain ⟨rfl, hc⟩ | rfl | rfl := touched_ifb h
      · simp [hc]
      · simp
      · simp
    · simp [touched] at h

lemma newState_wants {prior : Option State} {created : Bool} (h : obj ∈ req.wants created) :
    obj ∈ (req.newState prior created).objs := by
  simp only [ApplyRequest.wants, List.mem_append, List.mem_ite_nil_right, List.mem_cons,
    List.not_mem_nil, or_false] at h
  rcases h with ⟨_, rfl⟩ | ⟨hu, (rfl | rfl) | ⟨hc, rfl⟩⟩
  · simp [ApplyRequest.newState, State.objs]
  · simp [ApplyRequest.newState, State.objs, hu]
  · simp [ApplyRequest.newState, State.objs, hu]
  · simp [ApplyRequest.newState, State.objs, hc]

lemma newState_keeps {st : State} {created : Bool} (h : obj ∈ st.objs)
    (hi : req.iface = st.iface ∨ obj ≠ .root st.iface ∧ obj ≠ .ingress st.iface) :
    obj ∈ (req.newState (some st) created).objs := by
  simp only [State.objs, List.mem_append, List.mem_ite_nil_right, List.mem_cons, List.not_mem_nil,
    or_false] at h
  simp only [State.objs, ApplyRequest.newState, Option.any_some, List.mem_append,
    List.mem_ite_nil_right, List.mem_cons, List.not_mem_nil, or_false, Bool.or_eq_true]
  obtain hi | ⟨hr, hg⟩ := hi
  · rw [hi]
    tauto
  · tauto

lemma rollback_takes {created : Bool} (h : obj ∈ req.wants created) :
    ∃ op ∈ rollbackSteps req.iface req.useIfb created req.installSkeleton, obj ∈ op.takes := by
  simp only [ApplyRequest.wants, List.mem_append, List.mem_ite_nil_right, List.mem_cons,
    List.not_mem_nil, or_false] at h
  rcases h with ⟨hi, rfl⟩ | ⟨hu, (rfl | rfl) | ⟨hc, rfl⟩⟩
  · exact ⟨.rootDel req.iface, by simp [rollbackSteps, hi], by simp [Op.takes]⟩
  · exact ⟨.rootDel ifbDev, by simp [rollbackSteps, rollbackIfb, hu], by simp [Op.takes]⟩
  · exact ⟨.ingressDel req.iface, by simp [rollbackSteps, rollbackIfb, hu], by simp [Op.takes]⟩
  · exact ⟨.linkDel, by simp [rollbackSteps, rollbackIfb, hu, hc], by simp [Op.takes]⟩

lemma takes_planTeardown {iface : String} {u c : Bool} {l : List Op} :
    (∃ op ∈ planTeardown iface u c, obj ∈ op.takes) ↔ obj ∈ State.objs ⟨iface, u, c, l⟩ := by
  cases u <;> cases c <;> simp [planTeardown, State.objs, Op.takes] <;> tauto

end

/-! A plan of which no step fails for a reason of its own. -/

section Smooth

lemma runSteps_all {oks : List Bool} (h : ∀ b ∈ oks, b = true) (k : Kernel) (plan : List StepPlan) :
    runSteps k oks plan = runSteps k [] plan := by
  have hhead : ∀ {l : List Bool}, (∀ b ∈ l, b = true) → l.headD true = true := by
    intro l hl
    cases l with
    | nil => rfl
    | cons b l => exact hl b (by simp)
  have htail : ∀ {l : List Bool}, (∀ b ∈ l, b = true) → ∀ b ∈ l.tail, b = true :=
    fun hl b hb => hl b (List.mem_of_mem_tail hb)
  induction plan generalizing k oks with
  | nil => rfl
  | cons step plan ih =>
    simp only [runSteps, hhead h, hhead (htail h), List.headD_nil, List.tail_nil, ih (htail h),
      ih (htail (htail h))]

lemma runSteps_append (k : Kernel) (p q : List StepPlan) (h : (runSteps k [] p).2 = true) :
    runSteps k [] (p ++ q) = runSteps (runSteps k [] p).1 [] q := by
  induction p generalizing k with
  | nil => rfl
  | cons step p ih =>
    rw [List.cons_append, runSteps]
    rw [runSteps] at h ⊢
    split at h
    · exact ih _ h
    · split at h
      · split at h
        · exact ih _ h
        · split_ifs at h ⊢ with hb
          exact ih k h
      · split_ifs at h ⊢ with hb
        exact ih k h

def Passes (k : Kernel) (plan : List StepPlan) (Q : Kernel → Prop) : Prop :=
  (runSteps k [] plan).2 = true ∧ Q (runSteps k [] plan).1

variable {P Q : Kernel → Prop}

lemma Passes.append {p q : List StepPlan} (h : Passes k p P)
    (hq : ∀ k', P k' → Passes k' q Q) : Passes k (p ++ q) Q := by
  rw [Passes, runSteps_append k p q h.1]
  exact hq _ h.2

lemma Passes.after {p q : List StepPlan} (h : Passes k p (· = k)) (hq : Passes k q Q) :
    Passes k (p ++ q) Q :=
  h.append fun k' hk' => by
    rw [show k' = k from hk']
    exact hq

lemma passes_nil (h : Q k) : Passes k [] Q := ⟨rfl, h⟩

lemma passes_run {step : StepPlan} {m : Kernel} (h : step.run.exec k = some m) (hQ : Q m) :
    Passes k [step] Q := by
  simp only [Passes, runSteps, Op.attempt, List.headD_nil, if_true, h]
  exact ⟨trivial, hQ⟩

lemma passes_alt {step : StepPlan} {alt : Op} {m : Kernel} (h : step.run.exec k = none)
    (ha : step.alt = some alt) (halt : alt.exec k = some m) (hQ : Q m) : Passes k [step] Q := by
  simp only [Passes, runSteps, Op.attempt, List.headD_nil, List.tail_nil, if_true, h, ha, halt]
  exact ⟨trivial, hQ⟩

lemma passes_skip {step : StepPlan} (h : step.run.exec k = none) (ha : step.alt = none)
    (hb : step.bestEffort = true) (hQ : Q k) : Passes k [step] Q := by
  simp only [Passes, runSteps, Op.attempt, List.headD_nil, if_true, h, ha, hb]
  exact ⟨trivial, hQ⟩

lemma passes_replicate {step : StepPlan} (n : ℕ) (h : ∀ k, Q k → Passes k [step] Q) (hk : Q k) :
    Passes k (List.replicate n step) Q := by
  induction n with
  | zero => exact passes_nil hk
  | succ n ih =>
    rw [List.replicate_succ']
    exact ih.append h

def mirrorFree (k : Kernel) : Bool :=
  match k.roots.get ifbDev with
  | none => true
  | some r => r.kind = .netem

lemma passes_hang {dev : String} {s : StepPlan} (hs : s.run = .hang dev)
    (hd : dev ≠ ifbDev) {link : Option Bool} {o : Option Root}
    (hk : (k.roots.get dev).isSome ∧ k.link = link ∧ k.roots.get ifbDev = o) :
    Passes k [s] (fun k => (k.roots.get dev).isSome ∧ k.link = link ∧ k.roots.get ifbDev = o) := by
  obtain ⟨hr, hl, ho⟩ := hk
  obtain ⟨r, hr⟩ := Option.isSome_iff_exists.mp hr
  apply passes_run (m := { k with roots := k.roots.set dev { r with ours := true } })
  · rw [hs, Op.exec, hr]
  · refine ⟨by simp, hl, ?_⟩
    rw [FiniteMap.get_set_ne _ _ (Ne.symm hd)]
    exact ho

lemma passes_skeleton {dev : String} {legs : ℕ} {sig : Bool} (hd : dev ≠ ifbDev)
    (hr : k.roots.get dev = none ∨ rootIsHtb k dev = true) :
    Passes k (planSkeleton dev (!rootIsHtb k dev) legs sig)
      (fun k' => k'.link = k.link ∧ k'.roots.get ifbDev = k.roots.get ifbDev) := by
  have hadd : Passes k (if !rootIsHtb k dev then [⟨.rootDel dev, none, true⟩, ⟨.rootAdd dev, none, false⟩]
      else []) (fun k' => (k'.roots.get dev).isSome ∧ k'.link = k.link ∧
        k'.roots.get ifbDev = k.roots.get ifbDev) := by
    split_ifs with h
    · have hnone : k.roots.get dev = none := hr.resolve_right (by simpa using h)
      refine Passes.after (p := [⟨.rootDel dev, none, true⟩])
        (passes_skip (by rw [Op.exec, hnone]) rfl rfl rfl) ?_
      apply passes_run (m := { k with roots := k.roots.set dev ⟨.htb, true⟩ })
      · simp [Op.exec, hnone, hd]
      · exact ⟨by simp, rfl, FiniteMap.get_set_ne _ _ (Ne.symm hd)⟩
    · apply passes_nil
      refine ⟨?_, rfl, rfl⟩
      have hhtb : rootIsHtb k dev = true := by simpa using h
      rw [rootIsHtb, Option.any_eq_true] at hhtb
      obtain ⟨r, hr, _⟩ := hhtb
      simp [hr]
  have hhang : ∀ (step : StepPlan) (n : ℕ), step.run = .hang dev → ∀ k₁ : Kernel,
      (k₁.roots.get dev).isSome ∧ k₁.link = k.link ∧ k₁.roots.get ifbDev = k.roots.get ifbDev →
      Passes k₁ (List.replicate n step) (fun k' => (k'.roots.get dev).isSome ∧ k'.link = k.link ∧
        k'.roots.get ifbDev = k.roots.get ifbDev) :=
    fun step n hs k₁ h₁ => passes_replicate n (fun _ => passes_hang hs hd) h₁
  have hsig : ∀ k₁ : Kernel,
      (k₁.roots.get dev).isSome ∧ k₁.link = k.link ∧ k₁.roots.get ifbDev = k.roots.get ifbDev →
      Passes k₁ (if sig then [⟨.hang dev, none, false⟩] else [])
        (fun k' => k'.link = k.link ∧ k'.roots.get ifbDev = k.roots.get ifbDev) := by
    intro k₁ h₁
    split_ifs
    · obtain ⟨hthrough, hafter⟩ := passes_hang (s := ⟨.hang dev, none, false⟩) rfl hd h₁
      exact ⟨hthrough, hafter.2⟩
    · exact passes_nil h₁.2
  rw [planSkeleton]
  exact (((hadd.append (hhang _ 3 rfl)).append fun k₁ h₁ =>
    passes_run (by rw [Op.exec, if_pos h₁.1]) h₁).append (hhang _ legs rfl)).append hsig

lemma passes_ifb {dev : String} {legs : ℕ} {need : Bool} (hd : dev ≠ ifbDev)
    (hl : if need then k.link = none else k.link.isSome) (hroot : mirrorFree k = true) :
    Passes k (planIfb dev legs need) (fun _ => True) := by
  have hlink : Passes k (if need then [⟨.linkAdd, none, false⟩] else [])
      (fun k => k.link.isSome ∧ mirrorFree k = true) := by
    cases need with
    | true =>
      apply passes_run (m := { k with link := some true })
      · simp only [if_true] at hl
        simp [Op.exec, hl]
      · exact ⟨rfl, hroot⟩
    | false => exact passes_nil ⟨by simpa using hl, hroot⟩
  have hmirred : ∀ k₁ : Kernel, k₁.link.isSome ∧ (k₁.ingress.get dev).isSome →
      Passes k₁ [⟨.mirred dev, none, false⟩] (fun k => k.link.isSome ∧ (k.ingress.get dev).isSome) := by
    rintro k₁ ⟨hl, hi⟩
    exact passes_run (m := { k₁ with ingress := k₁.ingress.set dev true })
      (by simp [Op.exec, hl, hi]) ⟨hl, by simp⟩
  rw [planIfb]
  refine (hlink.append fun k₁ h₁ => ?_).append (P := fun k => k.link.isSome ∧ (k.ingress.get dev).isSome)
    fun k₂ h₂ => ⟨(passes_replicate legs hmirred h₂).1, trivial⟩
  refine Passes.after (p := [⟨.linkUp, none, false⟩])
    (passes_run (by rw [Op.exec, if_pos h₁.1]) rfl) ?_
  refine Passes.append (p := [⟨.ifbChange, some .ifbAdd, false⟩])
    (P := fun k => k.link.isSome) ?_ fun k₂ h₂ => ?_
  · cases hr : k₁.roots.get ifbDev with
    | none =>
      exact passes_alt (m := { k₁ with roots := k₁.roots.set ifbDev ⟨.netem, true⟩ })
        (by rw [Op.exec, hr]) rfl (by simp [Op.exec, hr, h₁.1]) h₁.1
    | some r =>
      obtain ⟨kind, ours⟩ := r
      have hkind : kind = .netem := by simpa [mirrorFree, hr] using h₁.2
      subst hkind
      exact passes_run (m := { k₁ with roots := k₁.roots.set ifbDev ⟨.netem, true⟩ })
        (by rw [Op.exec, hr]) h₁.1
  · refine Passes.append (p := [⟨.ingressAdd dev, none, true⟩])
      (P := fun k => k.link.isSome ∧ (k.ingress.get dev).isSome) ?_ fun k₃ h₃ => ?_
    · cases hi : k₂.ingress.get dev with
      | none =>
        exact passes_run (m := { k₂ with ingress := k₂.ingress.set dev true })
          (by simp [Op.exec, hi, hd]) ⟨h₂, by simp⟩
      | some b =>
        exact passes_skip (by simp [Op.exec, hi]) rfl rfl ⟨h₂, by simp [hi]⟩
    · exact passes_run (by rw [Op.exec, if_pos h₃.2]) h₃

end Smooth

namespace Site

def covers (s : Site) (obj : Obj) : Bool :=
  s.state.any fun st => st.steps.any fun op => obj ∈ op.takes

/-- The recorded teardown takes down whatever weaknet has in the kernel. -/
def Covered (s : Site) : Prop := ∀ obj, s.kernel.has obj → s.covers obj

structure Inv (s : Site) : Prop where
  linked : s.kernel.Linked
  planned : ∀ st, s.state = some st → st.steps = planTeardown st.iface st.ifbUsed st.createdIfb

structure Borrowed (s : Site) : Prop where
  link : s.kernel.link = some false
  kept : ∀ st, s.state = some st → st.createdIfb = false

variable {s : Site} {req : ApplyRequest} {prior : Option State} {o : Outcome} {created : Bool}

lemma covers_iff : s.covers obj ↔ ∃ st, s.state = some st ∧ ∃ op ∈ st.steps, obj ∈ op.takes := by
  simp [covers, Option.any_eq_true]

lemma Inv.covers_iff (hs : s.Inv) : s.covers obj ↔ ∃ st, s.state = some st ∧ obj ∈ st.objs := by
  rw [Site.covers_iff]
  apply exists_congr
  intro st
  apply and_congr_right
  intro hst
  rw [hs.planned st hst]
  exact takes_planTeardown

lemma mount_covered (hs : s.Inv) (hc : s.Covered)
    (hput : (∀ obj ∈ req.wants created, s.covers obj) ∨
      (prior = none ∧ (∀ b ∈ o.rollback, b = true) ∧ o.shown ∧ (o.verified → o.written)) ∨
      ((runSteps s.kernel o.steps (req.plan s.kernel created)).2 = true ∧ o.shown ∧ o.verified ∧
        o.written))
    (hnew : o.shown → o.verified → o.written →
      ∀ obj, s.kernel.has obj → obj ∈ (req.newState prior created).objs) :
    (req.mount s prior o created).Covered := by
  have hk := runSteps_linked hs.linked o.steps (req.plan s.kernel created)
  have hwas : ∀ obj, (runSteps s.kernel o.steps (req.plan s.kernel created)).1.has obj →
      s.covers obj ∨ obj ∈ req.wants created :=
    fun obj hobj => (runSteps_has hobj).imp (hc obj) touched_plan
  intro obj hobj
  simp only [ApplyRequest.mount] at hobj ⊢
  split_ifs at hobj ⊢ with hbad hset hgood
  · -- a failed set keeps the record
    obtain h | h := hwas obj hobj
    · exact h
    · obtain hput | ⟨rfl, _⟩ | ⟨hr, hshown, hver, _⟩ := hput
      · exact hput obj h
      · cases hset
      · simp [hr, hver] at hbad
  · -- a failed apply is rolled back
    obtain ⟨hr, ht⟩ := tryAll_has hk (rollback_puts _ _ _ _) hobj
    obtain h | h := hwas obj hr
    · exact h
    · obtain hput | ⟨_, hroll, _⟩ | ⟨hr, hshown, hver, _⟩ := hput
      · exact hput obj h
      · rw [takesDown_of (rollback_takes h) hroll] at ht
        cases ht
      · simp [hr, hver] at hbad
  · simp only [Bool.and_eq_true] at hgood
    have hver : o.verified = true := by
      by_contra hv
      simp [hgood.1, hv] at hbad
    refine covers_iff.2 ⟨_, rfl, (takes_planTeardown (l := (req.newState prior created).steps)).2 ?_⟩
    obtain h | h := runSteps_has hobj
    · exact hnew hgood.1 hver hgood.2 obj h
    · exact newState_wants (touched_plan h)
  · obtain h | h := hwas obj hobj
    · exact h
    · obtain hput | ⟨_, _, hshown, hwrite⟩ | ⟨_, hshown, _, hwritten⟩ := hput
      · exact hput obj h
      · have hver : o.verified = true := by
          by_contra hv
          simp [hshown, hv] at hbad
        simp [hshown, hwrite hver] at hgood
      · simp [hshown, hwritten] at hgood

lemma mount_inv (hs : s.Inv) : (req.mount s prior o created).Inv := by
  have hk := runSteps_linked hs.linked o.steps (req.plan s.kernel created)
  simp only [ApplyRequest.mount]
  split_ifs
  · exact ⟨hk, hs.planned⟩
  · exact ⟨tryAll_linked hk _ _, hs.planned⟩
  · refine ⟨hk, ?_⟩
    intro st hst
    cases hst
    rfl
  · exact ⟨hk, hs.planned⟩

lemma plan_keeps_link {step : StepPlan} (h : step ∈ req.plan k created) :
    Op.linkDel ∉ step.ops := by
  intro hm
  simp only [ApplyRequest.plan, planSkeleton, planIfb, List.mem_append, List.mem_ite_nil_right,
    List.mem_cons, List.not_mem_nil, or_false, List.mem_replicate] at h
  rcases h with ⟨_, (((⟨_, rfl | rfl⟩ | ⟨_, rfl⟩) | rfl) | ⟨_, rfl⟩) | ⟨_, rfl⟩⟩ |
      ⟨_, (⟨_, rfl⟩ | rfl | rfl | rfl | rfl) | ⟨_, rfl⟩⟩ <;>
    simp [StepPlan.ops] at hm

lemma mount_borrowed (hs : s.Borrowed) (hp : ∀ st, prior = some st → st.createdIfb = false)
    (hc : created = false) : (req.mount s prior o created).Borrowed := by
  have hl : (runSteps s.kernel o.steps (req.plan s.kernel created)).1.link = some false :=
    runSteps_link hs.link fun _ => plan_keeps_link
  simp only [ApplyRequest.mount]
  split_ifs
  · exact ⟨hl, hs.kept⟩
  · refine ⟨tryAll_link hl ?_, hs.kept⟩
    cases req.useIfb <;> cases req.installSkeleton <;> simp [rollbackSteps, rollbackIfb, hc]
  · refine ⟨hl, ?_⟩
    intro st hst
    cases hst
    cases prior with
    | none => simp [ApplyRequest.newState, hc]
    | some st => simp [ApplyRequest.newState, hc, hp st rfl]
  · exact ⟨hl, hs.kept⟩

lemma closeIngress_has (hk : k.Linked) {oks : List Bool}
    (h : (closeIngress req prior k oks).has obj) : k.has obj := by
  cases prior with
  | none => exact h
  | some st =>
    simp only [closeIngress] at h
    split_ifs at h
    · exact (tryAll_has hk (by simp [rollbackIfb, Op.puts]) h).1
    · exact h

lemma closeIngress_linked (hk : k.Linked) (oks : List Bool) :
    (closeIngress req prior k oks).Linked := by
  cases prior with
  | none => exact hk
  | some st =>
    simp only [closeIngress]
    split_ifs
    · exact tryAll_linked hk _ _
    · exact hk

lemma closeIngress_link (hl : k.link = some false) (oks : List Bool) :
    (closeIngress req prior k oks).link = some false := by
  cases prior with
  | none => exact hl
  | some st =>
    simp only [closeIngress]
    split_ifs
    · exact tryAll_link hl (by simp [rollbackIfb])
    · exact hl

lemma closeIngress_root {dev : String} (hd : dev ≠ ifbDev) (oks : List Bool) :
    (closeIngress req prior k oks).roots.get dev = k.roots.get dev := by
  cases prior with
  | none => rfl
  | some st =>
    simp only [closeIngress]
    split_ifs
    · apply tryAll_preserves (I := fun k' => k'.roots.get dev = k.roots.get dev) _ rfl
      intro op hop k₁ k₂ h₁ he
      simp only [rollbackIfb, List.mem_append, List.mem_cons, List.not_mem_nil, or_false,
        Bool.false_eq_true, if_false] at hop
      obtain rfl | rfl := hop <;> simp only [Op.exec] at he <;> split at he <;> cases he
      · exact h₁
      · rw [FiniteMap.get_remove_ne _ hd]
        exact h₁
    · rfl

def leavesLink (s : Site) (req : ApplyRequest) (o : Outcome) : Bool :=
  req.ports != 0 && o.channel && probeLeaves s.kernel o

lemma prepare_state : (prepare s req prior o).1.state = s.state := by
  simp only [prepare]
  split_ifs <;> rfl

lemma prepare_linked (hk : s.kernel.Linked) : (prepare s req prior o).1.kernel.Linked := by
  simp only [prepare]
  split_ifs
  · exact hk
  · exact probe_linked hk o
  · exact closeIngress_linked (probe_linked hk o) _
  · exact closeIngress_linked (probe_linked hk o) _

lemma prepare_has (hk : s.kernel.Linked) (h : (prepare s req prior o).1.kernel.has obj) :
    s.kernel.has obj ∨ obj = .link ∧ leavesLink s req o := by
  have hleave : ¬(req.ports = 0 ∨ !o.channel) → (probe s.kernel o).1.has obj →
      s.kernel.has obj ∨ obj = .link ∧ leavesLink s req o := by
    intro hr hp
    obtain h | ⟨h, hl⟩ := probe_has hk hp
    · exact Or.inl h
    · exact Or.inr ⟨h, by simp_all [leavesLink]⟩
  simp only [prepare] at h
  split_ifs at h with hr
  · exact Or.inl h
  · exact hleave (by simpa using hr) h
  all_goals exact hleave (by simpa using hr) (closeIngress_has (probe_linked hk o) h)

lemma prepare_link (hl : s.kernel.link = some false) :
    (prepare s req prior o).1.kernel.link = some false := by
  simp only [prepare]
  split_ifs
  · exact hl
  · exact probe_link hl o
  · exact closeIngress_link (probe_link hl o) _
  · exact closeIngress_link (probe_link hl o) _

lemma prepare_created (hl : s.kernel.link = some false)
    (h : (prepare s req prior o).2 = some created) : created = false := by
  simp only [prepare] at h
  split_ifs at h
  cases h
  simp [probe_link hl o]

lemma probe_root (hk : k.Linked) (o : Outcome) (dev : String) :
    (probe k o).1.roots.get dev = k.roots.get dev := by
  rw [probe]
  split_ifs with hl
  · rfl
  · rfl
  · have hnone := (hk (by simpa using hl)).1
    split
    · rfl
    · rename_i k₁ he
      have hk₁ := Op.exec_of_attempt he
      simp only [Op.exec] at hk₁
      split_ifs at hk₁
      cases hk₁
      cases hd : Op.linkDel.attempt { k with link := some true } o.probeDel with
      | none => rfl
      | some k₂ =>
        have hk₂ := Op.exec_of_attempt hd
        simp only [Op.exec, Option.isSome_some, if_true, Option.some.injEq] at hk₂
        subst hk₂
        rw [Option.getD_some, FiniteMap.get_remove]
        split_ifs with hdev
        · rw [hdev, hnone]
        · rfl

def Admitted (s : Site) (req : ApplyRequest) (o : Outcome) : Prop :=
  req.ports ≠ 0 ∧ o.channel ∧ o.gate ∧ (req.useIfb → (probe s.kernel o).2) ∧
    rootAllowed s.kernel req.iface s.state.isSome

def found (s : Site) (req : ApplyRequest) (o : Outcome) : List Obj :=
  s.kernel.objs ++ if leavesLink s req o then [.link] else []

def recorded (s : Site) (req : ApplyRequest) : Bool :=
  s.state.any fun st => (req.wants s.kernel.link.isNone).all fun obj => obj ∈ st.objs

/-- An apply that may be recorded finds nothing of weaknet's beside what it asks for itself. What is not
recorded yet is rolled back without a failure, and the read-back and the write do not fail. -/
def ApplyKeeps (s : Site) (req : ApplyRequest) (o : Outcome) : Prop :=
  (o.shown → o.verified → o.written → ∀ obj ∈ s.found req o,
    obj = .root req.iface ∨ req.useIfb ∧ (obj = .root ifbDev ∨ obj = .ingress req.iface)) ∧
  (s.recorded req ∨ (∀ b ∈ o.rollback, b = true) ∧ o.shown ∧ (o.verified → o.written))

/-- A set stays on the interface, or leaves nothing on the old one, and it asks for what is recorded
already, or nothing of it fails. -/
def SetKeeps (s : Site) (req : ApplyRequest) (prior : Option State) (o : Outcome) : Prop :=
  (o.shown → o.verified → o.written → ∀ st ∈ prior, req.iface = st.iface ∨
    .root st.iface ∉ s.found req o ∧ .ingress st.iface ∉ s.found req o) ∧
  (s.recorded req ∨ (∀ b ∈ o.steps, b = true) ∧ o.shown ∧ o.verified ∧ o.written ∧
    req.iface ≠ ifbDev ∧ (req.useIfb → mirrorFree s.kernel))

/-- What a replay may meet: a link that its probe leaves is in the record, and an admitted request
keeps to the above. -/
def ReplayKeeps (s : Site) (req : ApplyRequest) (prior : Option State) (o : Outcome) : Prop :=
  (leavesLink s req o → s.covers .link) ∧ (Admitted s req o →
    if prior.isNone then ApplyKeeps s req o else o.counters → SetKeeps s req prior o)

instance : Decidable (Admitted s req o) := inferInstanceAs (Decidable (_ ∧ _ ∧ _ ∧ (_ → _) ∧ _))

instance : Decidable (ApplyKeeps s req o) := by
  delta ApplyKeeps
  infer_instance

instance : Decidable (SetKeeps s req prior o) := by
  delta SetKeeps
  infer_instance

instance : Decidable (ReplayKeeps s req prior o) := by
  delta ReplayKeeps
  infer_instance

/-- The condition on a run, for each of its commands: a replay keeps to the above, a clear removes
the record only when of each thing of weaknet's some recorded step does not fail, and a check at the
start removes it only when there is nothing. -/
def Orderly (s : Site) : Command → Prop
  | .apply req o => ReplayKeeps s req none o
  | .set req o => ∀ prior ∈ s.state, ReplayKeeps s req (some prior) o
  | .clear _ o => ∀ st ∈ s.state, o.read → o.removed →
      ∀ obj ∈ s.kernel.objs, takesDown obj st.steps o.steps
  | .startup o => o.readable → !o.agrees → o.removed → s.kernel.objs = []

instance : DecidablePred (Orderly s)
  | .apply _ _ => inferInstanceAs (Decidable (ReplayKeeps _ _ _ _))
  | .set _ _ => inferInstanceAs (Decidable (∀ _ ∈ _, ReplayKeeps _ _ _ _))
  | .clear _ _ => inferInstanceAs (Decidable (∀ st ∈ s.state, _ → _ → ∀ obj ∈ s.kernel.objs, _ = _))
  | .startup _ => inferInstanceAs (Decidable (_ = _ → _ = _ → _ = _ → _ = _))

lemma replay_cases (s : Site) (req : ApplyRequest) (prior : Option State) (o : Outcome) :
    replay s req prior o = (prepare s req prior o).1 ∨
      ∃ created, (prepare s req prior o).2 = some created ∧
        replay s req prior o = req.mount (prepare s req prior o).1 prior o created := by
  rw [replay]
  split
  · rename_i created h
    rw [h]
    exact Or.inr ⟨created, rfl, rfl⟩
  · rename_i h
    rw [h]
    exact Or.inl rfl

lemma replay_inv (hs : s.Inv) : (replay s req prior o).Inv := by
  have hp : (prepare s req prior o).1.Inv := by
    refine ⟨prepare_linked hs.linked, ?_⟩
    rw [prepare_state]
    exact hs.planned
  obtain h | ⟨created, _, h⟩ := replay_cases s req prior o <;> rw [h]
  · exact hp
  · exact mount_inv hp

lemma prepare_some (hk : s.kernel.Linked) (h : (prepare s req prior o).2 = some created) :
    Admitted s req o ∧ (prior.isSome → o.counters) ∧
      created = (req.useIfb && (probe s.kernel o).1.link.isNone) ∧
      (prepare s req prior o).1 = ⟨s.state, closeIngress req prior (probe s.kernel o).1 o.closing⟩ := by
  simp only [prepare] at h ⊢
  split_ifs at h ⊢ with hports hgate hcounters
  cases h
  have hroot : rootAllowed (probe s.kernel o).1 req.iface s.state.isSome =
      rootAllowed s.kernel req.iface s.state.isSome := by
    rw [rootAllowed, rootAllowed, probe_root hk]
  rw [hroot] at hgate
  refine ⟨⟨?_, ?_, ?_, ?_, ?_⟩, ?_, rfl, rfl⟩ <;> simp_all

lemma made_of_created (h : created = (req.useIfb && (probe k o).1.link.isNone)) (hc : created = true) :
    k.link.isNone = true := by
  rw [h, Bool.and_eq_true] at hc
  rw [probe] at hc
  split_ifs at hc with hl
  · exact hc.2
  · simpa using hl
  · simpa using hl

lemma Inv.recorded_covers (hs : s.Inv) (h : s.recorded req)
    (hcr : created = true → s.kernel.link.isNone = true) :
    ∀ obj ∈ req.wants created, s.covers obj := by
  intro obj hobj
  rw [recorded, Option.any_eq_true] at h
  obtain ⟨st, hst, hall⟩ := h
  rw [List.all_eq_true] at hall
  exact hs.covers_iff.2 ⟨st, hst, by simpa using hall obj (wants_mono hcr hobj)⟩

lemma set_through {st : State} (hs : s.Inv) (ho : Admitted s req o) (hoks : ∀ b ∈ o.steps, b = true)
    (hd : req.iface ≠ ifbDev) (hfree : req.useIfb → mirrorFree s.kernel)
    (hcr : created = (req.useIfb && (probe s.kernel o).1.link.isNone)) :
    let k := closeIngress req (some st) (probe s.kernel o).1 o.closing
    (runSteps k o.steps (req.plan k created)).2 = true := by
  intro k
  have hprobe := probe_root hs.linked o
  have hroot : k.roots.get req.iface = none ∨ rootIsHtb k req.iface = true := by
    have hallow := ho.2.2.2.2
    rw [rootAllowed] at hallow
    rw [rootIsHtb, closeIngress_root hd, hprobe]
    split at hallow
    · exact Or.inl ‹_›
    · rename_i hget
      simp [hget]
    · cases hallow
  rw [runSteps_all hoks, ApplyRequest.plan]
  have hskel : Passes k (if req.installSkeleton then
      planSkeleton req.iface (!rootIsHtb k req.iface) req.rootLegs req.sigPort else [])
      (fun k' => k'.link = k.link ∧ k'.roots.get ifbDev = k.roots.get ifbDev) := by
    split_ifs
    · exact passes_skeleton hd hroot
    · exact passes_nil ⟨rfl, rfl⟩
  refine (hskel.append (Q := fun _ => True) fun k' hk' => ?_).1
  split_ifs with hu
  · -- a set with the mirror closes nothing
    have hk : k = (probe s.kernel o).1 := by simp [k, closeIngress, hu]
    apply passes_ifb hd
    · rw [hk'.1, hk, hcr, hu, Bool.true_and]
      cases (probe s.kernel o).1.link <;> simp
    · have hfree := hfree hu
      rw [mirrorFree] at hfree ⊢
      rw [hk'.2, hk, hprobe]
      exact hfree
  · exact passes_nil trivial

lemma replay_covered (hs : s.Inv) (hc : s.Covered) (hprior : ∀ st ∈ prior, s.state = some st)
    (ho : ReplayKeeps s req prior o) : (replay s req prior o).Covered := by
  have hp : (prepare s req prior o).1.Inv := by
    refine ⟨prepare_linked hs.linked, ?_⟩
    rw [prepare_state]
    exact hs.planned
  have hcov : (prepare s req prior o).1.Covered := by
    intro obj hobj
    rw [covers, prepare_state]
    obtain h | ⟨rfl, h⟩ := prepare_has hs.linked hobj
    · exact hc obj h
    · exact ho.1 h
  have hfound : ∀ obj, (prepare s req prior o).1.kernel.has obj → obj ∈ s.found req o := by
    intro obj hobj
    rw [found, List.mem_append]
    obtain h | ⟨rfl, h⟩ := prepare_has hs.linked hobj
    · exact Or.inl (Kernel.mem_objs.2 h)
    · exact Or.inr (by simp [h])
  obtain h | ⟨created, hcr, h⟩ := replay_cases s req prior o <;> rw [h]
  · exact hcov
  · obtain ⟨hadm, hcount, hmade, hsite⟩ := prepare_some hs.linked hcr
    have hrec : s.recorded req → ∀ obj ∈ req.wants created, (prepare s req prior o).1.covers obj := by
      intro hr obj hobj
      rw [covers, prepare_state]
      exact hs.recorded_covers hr (made_of_created hmade) obj hobj
    have hkeeps := ho.2 hadm
    cases prior with
    | none =>
      obtain ⟨hown, hput⟩ := hkeeps
      apply mount_covered hp hcov (hput.imp hrec fun h => Or.inl ⟨rfl, h⟩)
      intro hshown hver hwrite obj hobj
      have hobj := hown hshown hver hwrite obj (hfound obj hobj)
      simp only [ApplyRequest.newState, State.objs, Option.any_none, Bool.or_false]
      rcases hobj with rfl | ⟨hu, rfl | rfl⟩
      · simp
      · simp [hu]
      · simp [hu]
    | some st =>
      obtain ⟨hsame, hput⟩ := hkeeps (hcount rfl)
      apply mount_covered hp hcov
      · refine hput.imp hrec fun ⟨hoks, hshown, hver, hwrite, hd, hfree⟩ =>
          Or.inr ⟨?_, hshown, hver, hwrite⟩
        rw [hsite]
        exact set_through hs hadm hoks hd hfree hmade
      · intro hshown hver hwrite obj hobj
        obtain ⟨st', hst', hmem⟩ := hp.covers_iff.1 (hcov obj hobj)
        rw [prepare_state, hprior st rfl] at hst'
        cases hst'
        apply newState_keeps hmem
        refine (hsame hshown hver hwrite st rfl).imp_right fun hout => ⟨?_, ?_⟩
        · rintro rfl
          exact hout.1 (hfound _ hobj)
        · rintro rfl
          exact hout.2 (hfound _ hobj)

lemma replay_borrowed (hs : s.Borrowed) (hp : ∀ st, prior = some st → st.createdIfb = false) :
    (replay s req prior o).Borrowed := by
  have hb : (prepare s req prior o).1.Borrowed := by
    refine ⟨prepare_link hs.link, ?_⟩
    rw [prepare_state]
    exact hs.kept
  obtain h | ⟨created, hcr, h⟩ := replay_cases s req prior o <;> rw [h]
  · exact hb
  · exact mount_borrowed hb hp (prepare_created hs.link hcr)

lemma Inv.puts (hs : s.Inv) {st : State} (hst : s.state = some st) : ∀ op ∈ st.steps, op.puts = none := by
  rw [hs.planned st hst]
  exact planTeardown_puts _ _ _

lemma Inv.clearSteps_puts (hs : s.Inv) (dev : String) : ∀ op ∈ s.clearSteps dev, op.puts = none := by
  rw [clearSteps]
  split
  · rename_i st h
    exact hs.puts h
  · simp [Op.puts]

lemma step_inv (hs : s.Inv) (c : Command) : (s.step c).Inv := by
  cases c with
  | apply req o => exact replay_inv hs
  | set req o =>
    simp only [step]
    split
    · exact replay_inv hs
    · exact hs
  | clear dev o =>
    simp only [step, clear]
    split_ifs
    · exact ⟨tryAll_linked hs.linked _ _, nofun⟩
    · exact ⟨tryAll_linked hs.linked _ _, hs.planned⟩
    · exact hs
  | startup o =>
    simp only [step, startupCrossCheck]
    split_ifs
    · exact ⟨hs.linked, nofun⟩
    · exact hs

lemma step_covered (hs : s.Inv) (hc : s.Covered) {c : Command} (ho : s.Orderly c) :
    (s.step c).Covered := by
  cases c with
  | apply req o => exact replay_covered hs hc (by simp) ho
  | set req o =>
    simp only [step]
    split
    · rename_i prior h
      exact replay_covered hs hc (by simp [h]) (ho prior h)
    · exact hc
  | clear dev o =>
    simp only [step, clear]
    split_ifs with hr hm
    · intro obj hobj
      obtain ⟨hk, ht⟩ := tryAll_has hs.linked (hs.clearSteps_puts dev) hobj
      obtain ⟨st, hst, _⟩ := covers_iff.1 (hc obj hk)
      rw [clearSteps, hst] at ht
      simp [ho st hst hr hm obj (Kernel.mem_objs.2 hk)] at ht
    · intro obj hobj
      exact hc obj (tryAll_has hs.linked (hs.clearSteps_puts dev) hobj).1
    · exact hc
  | startup o =>
    simp only [step, startupCrossCheck]
    split_ifs with h
    · simp only [Bool.and_eq_true, Bool.not_eq_true'] at h
      have hn := ho h.1.1.2 (by simp [h.1.2]) h.2
      intro obj hobj
      rw [← Kernel.mem_objs, hn] at hobj
      cases hobj
    · exact hc

lemma step_borrowed (hs : s.Borrowed) (hi : s.Inv) (c : Command) : (s.step c).Borrowed := by
  cases c with
  | apply req o => exact replay_borrowed hs nofun
  | set req o =>
    simp only [step]
    split
    · rename_i prior h
      apply replay_borrowed hs
      intro st hst
      cases hst
      exact hs.kept prior h
    · exact hs
  | clear dev o =>
    have hd : Op.linkDel ∉ s.clearSteps dev := by
      rw [clearSteps]
      split
      · rename_i st h
        rw [hi.planned st h, hs.kept st h]
        cases st.ifbUsed <;> simp [planTeardown]
      · simp
    simp only [step, clear]
    split_ifs
    · exact ⟨tryAll_link hs.link hd, nofun⟩
    · exact ⟨tryAll_link hs.link hd, hs.kept⟩
    · exact hs
  | startup o =>
    simp only [step, startupCrossCheck]
    split_ifs
    · exact ⟨hs.link, nofun⟩
    · exact hs

def initial (roots : FiniteMap String RootKind) (ingress : FiniteMap String Unit) (link : Bool) :
    Site :=
  ⟨none, Kernel.foreign roots ingress link⟩

variable {roots : FiniteMap String RootKind} {ingress : FiniteMap String Unit} {link : Bool}

lemma initial_inv : (initial roots ingress link).Inv :=
  ⟨foreign_linked _ _ _, nofun⟩

lemma initial_covered : (initial roots ingress link).Covered := by
  intro obj hobj
  rw [initial, foreign_has] at hobj
  cases hobj

lemma initial_borrowed : (initial roots ingress true).Borrowed :=
  ⟨rfl, nofun⟩

lemma Covered.clear (hc : s.Covered) (hs : s.Inv) (dev : String) {o : ClearOutcome} (hr : o.read)
    (hok : o.steps = []) (obj : Obj) : (Teardown.clear s dev o).kernel.has obj = false := by
  rw [Teardown.clear, if_pos hr, hok]
  by_contra h
  obtain ⟨hk, ht⟩ := tryAll_has hs.linked (hs.clearSteps_puts dev) (by simpa using h)
  obtain ⟨st, hst, htakes⟩ := covers_iff.1 (hc obj hk)
  rw [clearSteps, hst, takesDown_of htakes (by simp)] at ht
  cases ht

lemma run_borrowed (roots : FiniteMap String RootKind) (ingress : FiniteMap String Unit)
    (cmds : List Command) : (run step (initial roots ingress true) cmds).Borrowed := by
  have hstep : ∀ (s : Site) (c : Command), s.Inv ∧ s.Borrowed → (step s c).Inv ∧ (step s c).Borrowed :=
    fun s c hs => ⟨step_inv hs.1 c, step_borrowed hs.2 hs.1 c⟩
  have h := run_preserves (s := initial roots ingress true) (I := fun s => s.Inv ∧ s.Borrowed)
    ⟨initial_inv, initial_borrowed⟩ hstep cmds
  exact h.2

lemma run_covered {cmds : List Command} (ho : Along step Orderly (initial roots ingress link) cmds) :
    (run step (initial roots ingress link) cmds).Inv ∧
      (run step (initial roots ingress link) cmds).Covered :=
  run_invariant (I := fun s => s.Inv ∧ s.Covered) ⟨initial_inv, initial_covered⟩
    (fun _ c hs hc => ⟨step_inv hs.1 c, step_covered hs.1 hs.2 hc⟩) ho

def smooth : Outcome :=
  ⟨true, false, true, true, true, true, true, [], true, [], true, true, [], true⟩

def mirrored : List Command :=
  [.apply ⟨"eth0", .outbound, 2, true⟩ smooth, .set ⟨"eth0", .both, 2, true⟩ smooth,
    .set ⟨"eth0", .inbound, 1, false⟩ { smooth with written := false, steps := [true, false] },
    .apply ⟨"eth1", .outbound, 1, false⟩ { smooth with verified := false },
    .set ⟨"eth0", .outbound, 2, false⟩ smooth, .clear "lo" ⟨true, [true, false], true⟩]

end Site

end MediaServo.Weaknet.Teardown
