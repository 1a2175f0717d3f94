import MediaServo.HostProofs.ConfigSteps

/-! The ledger that four writers share: the conflict lamp, updates that get lost, and a running row
beside a cluster that is gone. -/

namespace MediaServo.Host

open MediaServo.Foundations

/-- The conflict lamp says that the cloud believes in another configuration than the one running. -/
def Ledger.Truthful (l : Ledger) : Prop :=
  l.flags.conflict = true ↔ ∃ r p, l.running = some r ∧ l.lastPush = some p ∧ r.hash ≠ p.hash

lemma truthful_congr {l l' : Ledger} (hr : l'.running = l.running) (hp : l'.lastPush = l.lastPush)
    (hc : l'.flags.conflict = l.flags.conflict) : l'.Truthful ↔ l.Truthful := by
  rw [Ledger.Truthful, hr, hp, hc, Ledger.Truthful]

lemma commit_truthful (l : Ledger) (running : Running) (result : String) :
    (l.commit running result).Truthful := by
  simp only [Ledger.Truthful, Ledger.commit, Ledger.pushHistory, flagsAfterCommit]
  cases hp : l.lastPush with
  | none => simp
  | some p => simpa using ne_comm

lemma record_truthful (l : Ledger) (k : String) :
    ({ l with
        lastPush := some ⟨k, none⟩
        flags := { l.flags with conflict := l.running.any (fun r => r.hash ≠ k) } } :
      Ledger).Truthful := by
  cases l.running <;> simp [Ledger.Truthful]

lemma clear_truthful {l : Ledger} (hc : l.flags.conflict = false) :
    ({ l with running := none } : Ledger).Truthful := by
  simp [Ledger.Truthful, hc]

def Phase.inHand? : Phase → Option Ledger
  | .recordSaving l | .bootSaving _ l | .clearing l => some l
  | ph => ph.run?.map Run.led

section Steps

variable {y : Reader} {env : Env} {d : Dir} {hash : Content → String} {j : Job} {s : Device}
  {e : Effect} {ph : Phase}

lemma inHand_of_restored {l : Ledger} (h : ph.restored? = some l) : ph.inHand? = some l := by
  cases ph <;> simp_all [Phase.restored?, Phase.inHand?, Phase.run?]

lemma Steps.saves_inHand {l : Ledger} {next : Except Ending Phase}
    (h : Steps y env d hash j s (.save l) next) : j.phase.inHand? ≠ none := by
  rcases h.saves with ⟨l', hl, _⟩ | ⟨r, hp, _⟩ | ⟨cfg, hp⟩ | hp
  · simp [inHand_of_restored hl]
  · simp [hp, Phase.inHand?, Phase.run?]
  · simp [hp, Phase.inHand?]
  · simp [hp, Phase.inHand?]

lemma Steps.saves_truthful {l : Ledger} {next : Except Ending Phase}
    (h : Steps y env d hash j s (.save l) next)
    (hj : ∀ l', j.phase.inHand? = some l' → l'.Truthful) : l.Truthful := by
  generalize hs : Effect.save l = e at h
  cases h with
  | @residueSaved r detail survivors l' h hrun hpush hflag =>
    cases hs
    exact (truthful_congr hrun hpush hflag).mpr (hj _ (by rw [h]; rfl))
  | @prepared r l' h hrun hpush hflag =>
    cases hs
    exact (truthful_congr hrun hpush hflag).mpr (hj _ (by rw [h]; rfl))
  | @refusalSaved r reason result l' h hrun hpush hflag =>
    cases hs
    exact (truthful_congr hrun hpush hflag).mpr (hj _ (by rw [h]; rfl))
  | committed h =>
    cases hs
    exact commit_truthful _ _ _
  | recorded h =>
    cases hs
    exact hj _ (by rw [h]; rfl)
  | bootSaved h =>
    cases hs
    exact hj _ (by rw [h]; rfl)
  | cleared h =>
    cases hs
    exact hj _ (by rw [h]; rfl)
  | _ => cases hs

lemma Steps.held_truthful {l : Ledger} (h : Steps y env d hash j s e (.ok ph))
    (hl : ph.inHand? = some l) (hs : s.ledger.Truthful)
    (hj : ∀ l', j.phase.inHand? = some l' → l'.Truthful)
    (hclear : ∀ l', ph = .clearing l' → s.ledger.flags.conflict = false) : l.Truthful := by
  generalize hn : (Except.ok ph : Except Ending Phase) = next at h
  cases h with
  | current h _ =>
    rw [finish_ok hn.symm] at hl
    cases hl
  | committed h =>
    rw [finish_ok hn.symm] at hl
    cases hl
  | gatesPassed h _ =>
    cases hn
    cases hl
    exact hs
  | prepared l' h hrun hpush hflag =>
    cases hn
    cases hl
    exact (truthful_congr hrun hpush hflag).mpr (hj _ (by rw [h]; rfl))
  | recordLoaded l' h hl' =>
    cases hn
    cases hl
    rw [hl']
    exact record_truthful _ _
  | bootMatched h =>
    cases hn
    cases hl
    exact commit_truthful _ _ _
  | stopLoaded h =>
    cases hn
    cases hl
    exact clear_truthful (hclear _ rfl)
  | _ => first
    | (cases hn; done)
    | (cases hn; cases hl; done)
    | (cases hn; simp_all [Phase.inHand?, Phase.run?])

lemma Steps.saved_restored {l l' : Ledger} (h : Steps y env d hash j s (.save l) (.ok ph))
    (hl : ph.restored? = some l') : l' = l := by
  generalize hs : Effect.save l = e at h
  generalize hn : (Except.ok ph : Except Ending Phase) = next at h
  cases h with
  | prepared l' h _ _ _ =>
    cases hs
    cases hn
    cases hl
    rfl
  | committed h =>
    rw [finish_ok hn.symm] at hl
    cases hl
  | _ => first
    | (cases hs; done)
    | (cases hn; done)
    | (cases hn; cases hl)

end Steps

/-- The processes on a device, with those whose ledger in hand another save has overtaken, whether
one of them has saved since, and the commands that took apps of the cluster down since the last
commit. A stop that ends with leftovers does not count: it keeps the row because nobody knows. -/
@[ext]
structure Audited where
  site : Site
  stale : List ℕ
  lost : Bool
  torn : List ℕ

section Runs

variable (y : Reader) (env : Env) (d : Dir) (hash : Content → String)
  (names : String → Except String (List String))

def Effect.isSave : Effect → Bool
  | .save _ => true
  | _ => false

namespace Audited

def overtaken (t : Audited) (i : ℕ) : List ℕ :=
  (t.site.jobs.toList.filter (fun e => e.1 ≠ i ∧ e.2.phase.inHand?.isSome)).map Prod.fst

def staleAfter (t : Audited) (i : ℕ) (j : Job) (m : Move) : List ℕ :=
  if m.effect.isSave then t.overtaken i
  else if j.phase.inHand? = none then t.stale.filter (· ≠ i)
  else t.stale

def tornAfter (t : Audited) (i : ℕ) (j : Job) (m : Move) : List ℕ :=
  match j.phase with
  | .committing _ | .bootSaving _ _ => if m.effect.isSave then [] else t.torn
  | .stopSwept _ =>
      match m.next with
      | .error (.failed _) => t.torn.filter (· ≠ i)
      | _ => t.torn
  | _ => if m.effect = .tearDown then i :: t.torn else t.torn

def after (t : Audited) (i : ℕ) (j : Job) (m : Move) : Audited :=
  ⟨t.site.settle i j m, t.staleAfter i j m, t.lost || (m.effect.isSave && i ∈ t.stale),
    t.tornAfter i j m⟩

def step (t : Audited) (a : SiteAction) : Audited :=
  match a with
  | .move i r =>
      match t.site.jobs.get i with
      | some j =>
          if t.site.blocked j r then t else t.after i j (j.move y env d hash names r t.site.device)
      | none => t
  | a => { t with site := t.site.step y env d hash names a }

/-- A process loads the ledger only while no other one has it in hand, `host stop` clears the row
only while the conflict lamp is off, and a command that took an app down neither ends nor dies
beside a running row. -/
def Careful (t : Audited) : SiteAction → Prop
  | .move i r => ∀ j, t.site.jobs.get i = some j → t.site.blocked j r = false →
      let m := j.move y env d hash names r t.site.device
      (∀ ph, m.next = .ok ph → ph.inHand? ≠ none → j.phase.inHand? = none →
        ∀ k jk, t.site.jobs.get k = some jk → k ≠ i → jk.phase.inHand? = none) ∧
      (∀ l, m.next = .ok (.clearing l) → t.site.device.ledger.flags.conflict = false) ∧
      ∀ e, m.next = .error e → i ∈ t.tornAfter i j m →
        (m.effect.apply t.site.device).ledger.running = none
  | .kill i => i ∈ t.torn → t.site.device.ledger.running = none
  | _ => True

structure Inv (t : Audited) : Prop where
  truth : t.site.device.ledger.Truthful
  held : ∀ i j l, t.site.jobs.get i = some j → j.phase.inHand? = some l → l.Truthful
  one : ∀ i k ji jk, t.site.jobs.get i = some ji → t.site.jobs.get k = some jk →
    ji.phase.inHand? ≠ none → jk.phase.inHand? ≠ none → i = k
  current : ∀ i j l, t.site.jobs.get i = some j → j.phase.restored? = some l →
    l.running = t.site.device.ledger.running
  clear : ∀ i j l, t.site.jobs.get i = some j → j.phase = .clearing l → l.running = none
  fresh : t.stale = []
  kept : t.lost = false
  torn : t.site.device.ledger.running ≠ none → ∀ i ∈ t.torn, ∃ j, t.site.jobs.get i = some j

variable {y env d hash names} {t : Audited} {i : ℕ} {j : Job} {m : Move}

lemma overtaken_nil (h : Inv t) (hj : t.site.jobs.get i = some j) (hh : j.phase.inHand? ≠ none) :
    t.overtaken i = [] := by
  rw [overtaken, List.map_eq_nil_iff, List.filter_eq_nil_iff]
  rintro ⟨k, jk⟩ hk
  rw [FiniteMap.mem_toList] at hk
  intro hc
  simp only [ne_eq, decide_eq_true_eq] at hc
  exact hc.1 (h.one k i jk j hk hj (by simpa [Option.isSome_iff_ne_none] using hc.2) hh)

lemma Inv.stale_after (h : Inv t) (hj : t.site.jobs.get i = some j)
    (hs : m.Within y env d hash j t.site.device) : t.staleAfter i j m = [] := by
  rw [staleAfter]
  split_ifs with hsave
  · cases he : m.effect with
    | save l =>
      rw [Move.Within, he] at hs
      exact overtaken_nil h hj hs.saves_inHand
    | _ => simp [he, Effect.isSave] at hsave
  · rw [h.fresh]
    rfl
  · exact h.fresh

lemma Inv.running_after (h : Inv t) (hj : t.site.jobs.get i = some j)
    (hs : m.Within y env d hash j t.site.device)
    (hrun : (m.effect.apply t.site.device).ledger.running ≠ none) :
    t.tornAfter i j m = [] ∨ t.site.device.ledger.running ≠ none := by
  by_cases hsave : ∃ l, m.effect = .save l
  · obtain ⟨l, hl⟩ := hsave
    rw [Move.Within, hl] at hs
    rw [hl] at hrun
    rcases hs.saves with ⟨l', hl', hr⟩ | ⟨r, hp, _⟩ | ⟨cfg, hp⟩ | hp
    · have hcur := h.current i j l' hj hl'
      rw [← hr] at hcur
      exact Or.inr (hcur ▸ hrun)
    · exact Or.inl (by simp [tornAfter, hp, hl, Effect.isSave])
    · exact Or.inl (by simp [tornAfter, hp, hl, Effect.isSave])
    · exact absurd (h.clear i j l hj hp) hrun
  · rw [ledger_of_quiet (fun l hl => hsave ⟨l, hl⟩)] at hrun
    exact Or.inr hrun

lemma mem_tornAfter {k : ℕ} (h : k ∈ t.tornAfter i j m) : k = i ∨ k ∈ t.torn := by
  rw [tornAfter] at h
  split at h
  · split_ifs at h
    · cases h
    · exact Or.inr h
  · split_ifs at h
    · cases h
    · exact Or.inr h
  · split at h
    · exact Or.inr (List.mem_filter.mp h).1
    · exact Or.inr h
  · split_ifs at h
    · exact List.mem_cons.mp h
    · exact Or.inr h

lemma step_site (t : Audited) (a : SiteAction) :
    (t.step y env d hash names a).site = t.site.step y env d hash names a := by
  cases a with
  | move i r =>
    cases hj : t.site.jobs.get i with
    | none => simp [step, Site.step, hj]
    | some j => cases hb : t.site.blocked j r <;> simp [step, Site.step, hj, hb, after]
  | _ => rfl

lemma Inv.one_after (h : Inv t) (hj : t.site.jobs.get i = some j)
    (hload : ∀ ph, m.next = .ok ph → ph.inHand? ≠ none → j.phase.inHand? = none →
      ∀ k jk, t.site.jobs.get k = some jk → k ≠ i → jk.phase.inHand? = none)
    {k : ℕ} {jk : Job} {ph : Phase} (hn : m.next = .ok ph) (hh : ph.inHand? ≠ none) (hne : k ≠ i)
    (hk : t.site.jobs.get k = some jk) : jk.phase.inHand? = none := by
  by_cases hold : j.phase.inHand? = none
  · exact hload ph hn hh hold k jk hk hne
  · by_contra hkh
    exact hne (h.one k i jk j hk hj hkh hold)

lemma Inv.moved (h : Inv t) (hj : t.site.jobs.get i = some j)
    (hs : m.Within y env d hash j t.site.device)
    (hload : ∀ ph, m.next = .ok ph → ph.inHand? ≠ none → j.phase.inHand? = none →
      ∀ k jk, t.site.jobs.get k = some jk → k ≠ i → jk.phase.inHand? = none)
    (hclear : ∀ l, m.next = .ok (.clearing l) → t.site.device.ledger.flags.conflict = false)
    (hend : ∀ e, m.next = .error e → i ∈ t.tornAfter i j m →
      (m.effect.apply t.site.device).ledger.running = none) : Inv (t.after i j m) := by
  have hmine : ∀ l, j.phase.inHand? = some l → l.Truthful := fun l hl => h.held i j l hj hl
  refine ⟨?_, ?_, ?_, ?_, ?_, h.stale_after hj hs, ?_, ?_⟩
  · by_cases hsave : ∃ l, m.effect = .save l
    · obtain ⟨l, hl⟩ := hsave
      rw [Move.Within, hl] at hs
      simp only [after, Site.settle, hl]
      exact hs.saves_truthful hmine
    · simp only [after, Site.settle]
      rw [ledger_of_quiet (fun l hl => hsave ⟨l, hl⟩)]
      exact h.truth
  · intro k jk l hk hl
    rcases get_settle hk with ⟨rfl, ph, hn, rfl⟩ | ⟨-, hk⟩
    · rw [Move.Within, hn] at hs
      refine hs.held_truthful hl h.truth hmine (fun l' hc => hclear l' ?_)
      rw [hn, hc]
    · exact h.held k jk l hk hl
  · intro a b ja jb ha hb hla hlb
    rcases get_settle ha with ⟨rfl, ph, hn, rfl⟩ | ⟨hna, hga⟩
    · rcases get_settle hb with ⟨rfl, _⟩ | ⟨hnb, hgb⟩
      · rfl
      · exact absurd (h.one_after hj hload hn hla hnb hgb) hlb
    · rcases get_settle hb with ⟨rfl, ph, hn, rfl⟩ | ⟨_, hgb⟩
      · exact absurd (h.one_after hj hload hn hlb hna hga) hla
      · exact h.one a b ja jb hga hgb hla hlb
  · intro k jk l hk hl
    simp only [after, Site.settle]
    by_cases hsave : ∃ l, m.effect = .save l
    · obtain ⟨l', hl'⟩ := hsave
      rw [Move.Within, hl'] at hs
      rcases get_settle hk with ⟨rfl, ph, hn, rfl⟩ | ⟨hne, hk⟩
      · rw [hn] at hs
        rw [hl', hs.saved_restored hl]
        rfl
      · -- two processes with a ledger in hand
        exact absurd (h.one k i jk j hk hj (by simp [inHand_of_restored hl]) hs.saves_inHand) hne
    · rw [ledger_of_quiet (fun l hl => hsave ⟨l, hl⟩)]
      rcases get_settle hk with ⟨rfl, ph, hn, rfl⟩ | ⟨-, hk⟩
      · rw [Move.Within, hn] at hs
        rcases hs.restored hl with hr | ⟨l', hl', hr⟩
        · exact hr
        · rw [hr]
          exact h.current k j l' hj hl'
      · exact h.current k jk l hk hl
  · intro k jk l hk hp
    rcases get_settle hk with ⟨rfl, ph, hn, rfl⟩ | ⟨-, hk⟩
    · have hph : ph = .clearing l := hp
      rw [Move.Within, hn, hph] at hs
      rw [hs.toClearing]
    · exact h.clear k jk l hk hp
  · simp [after, h.kept, h.fresh]
  · intro hrun k hk
    rcases h.running_after hj hs hrun with hnil | hold
    · have hk' : k ∈ t.tornAfter i j m := hk
      rw [hnil] at hk'
      cases hk'
    · by_cases hki : k = i
      · subst hki
        cases hn : m.next with
        | ok ph => exact ⟨{ j with phase := ph }, by simp [after, Site.settle, hn]⟩
        | error e => exact absurd (hend e hn hk) hrun
      · obtain ⟨jk, hjk⟩ := h.torn hold k ((mem_tornAfter hk).resolve_left hki)
        exact ⟨jk, (settle_other hki).trans hjk⟩

lemma Inv.frame {s : Site} (h : Inv t) (hled : s.device.ledger = t.site.device.ledger)
    (hjobs : ∀ k jk, s.jobs.get k = some jk →
      t.site.jobs.get k = some jk ∨ jk.phase.inHand? = none)
    (hkeep : ∀ k jk, t.site.device.ledger.running ≠ none → k ∈ t.torn →
      t.site.jobs.get k = some jk → s.jobs.get k = some jk) : Inv { t with site := s } := by
  have hin : ∀ k jk, s.jobs.get k = some jk → jk.phase.inHand? ≠ none →
      t.site.jobs.get k = some jk :=
    fun k jk hk hh => (hjobs k jk hk).resolve_right hh
  refine ⟨?_, ?_, ?_, ?_, ?_, h.fresh, h.kept, ?_⟩
  · exact hled ▸ h.truth
  · intro k jk l hk hl
    exact h.held k jk l (hin k jk hk (by simp [hl])) hl
  · intro a b ja jb ha hb hla hlb
    exact h.one a b ja jb (hin a ja ha hla) (hin b jb hb hlb) hla hlb
  · intro k jk l hk hl
    exact hled ▸ h.current k jk l (hin k jk hk (by simp [inHand_of_restored hl])) hl
  · intro k jk l hk hp
    exact h.clear k jk l (hin k jk hk (by simp [hp, Phase.inHand?])) hp
  · intro hrun k hk
    have hold : t.site.device.ledger.running ≠ none := hled ▸ hrun
    obtain ⟨jk, hjk⟩ := h.torn hold k hk
    exact ⟨jk, hkeep k jk hold hk hjk⟩

lemma Inv.spawned {dev : Device} (h : Inv t) (hled : dev.ledger = t.site.device.ledger)
    (hj : j.phase.inHand? = none) :
    Inv { t with site := ({ t.site with device := dev } : Site).spawn i j } := by
  refine h.frame (by rw [spawn_device]; exact hled) ?_ (fun k jk _ _ hk => spawn_keeps hk)
  intro k jk hk
  rcases get_spawn hk with ⟨-, rfl⟩ | hk
  · exact Or.inr hj
  · exact Or.inl hk

lemma step_move {r : Reply} (hj : t.site.jobs.get i = some j) (hb : t.site.blocked j r = false) :
    t.step y env d hash names (.move i r) =
      t.after i j (j.move y env d hash names r t.site.device) := by
  simp [step, hj, hb]

lemma Inv.stepped (h : Inv t) {a : SiteAction} (ha : t.Careful y env d hash names a) :
    Inv (t.step y env d hash names a) := by
  cases a with
  | push i p =>
    simp only [step, Site.step]
    split_ifs
    · exact h.spawned rfl rfl
    · exact h
  | exec i topo force opts => exact h.spawned rfl rfl
  | restart i actor =>
    simp only [step, Site.step]
    split_ifs
    · exact h.spawned rfl rfl
    · exact h
  | stop i => exact h.spawned rfl rfl
  | move i r =>
    cases hj : t.site.jobs.get i with
    | none => simpa [step, hj] using h
    | some j =>
      cases hb : t.site.blocked j r with
      | true => simpa [step, hj, hb] using h
      | false =>
        obtain ⟨hload, hclear, hend⟩ := ha j hj hb
        rw [step_move hj hb]
        exact h.moved hj move_within hload hclear hend
  | kill i =>
    refine h.frame rfl (fun k jk hk => Or.inl (get_of_killed hk).2) ?_
    intro k jk hrun hk hjk
    have hki : k ≠ i := by
      rintro rfl
      exact hrun (ha hk)
    exact (FiniteMap.get_remove_ne _ hki).trans hjk
  | edit content => exact h.frame rfl (fun _ _ hk => Or.inl hk) (fun _ _ _ _ hk => hk)
  | provide present => exact h.frame rfl (fun _ _ hk => Or.inl hk) (fun _ _ _ _ hk => hk)

def start (dev : Device) : Audited := ⟨Site.idle dev, [], false, []⟩

lemma start_inv {dev : Device} (hdev : dev.ledger.Truthful) : Inv (start dev) := by
  refine ⟨hdev, ?_, ?_, ?_, ?_, rfl, rfl, nofun⟩
  · exact fun _ _ _ hi => (idle_nobody hi).elim
  · exact fun _ _ _ _ hi => (idle_nobody hi).elim
  · exact fun _ _ _ hi => (idle_nobody hi).elim
  · exact fun _ _ _ hi => (idle_nobody hi).elim

end Audited

theorem ledger_truth (y : Reader) (env : Env) (d : Dir) (hash : Content → String)
    (names : String → Except String (List String)) (dev : Device) (hdev : dev.ledger.Truthful)
    (acts : List SiteAction)
    (ha : Along (Audited.step y env d hash names) (Audited.Careful y env d hash names)
      (Audited.start dev) acts) :
    let s := run (Site.step y env d hash names) (Site.idle dev) acts
    let t := run (Audited.step y env d hash names) (Audited.start dev) acts
    s.device.ledger.Truthful ∧ t.lost = false ∧
      ((∀ i, s.jobs.get i = none) → ∀ row, s.device.ledger.running = some row → t.torn = []) := by
  intro s t
  have hinv : t.Inv := run_invariant (Audited.start_inv hdev) (fun t a h ha => h.stepped ha) ha
  have hsite : t.site = s := run_hom Audited.site Audited.step_site acts
  rw [← hsite]
  refine ⟨hinv.truth, hinv.kept, fun hnone row hrow => ?_⟩
  rw [List.eq_nil_iff_forall_not_mem]
  intro i hi
  obtain ⟨j, hj⟩ := hinv.torn (by simp [hrow]) i hi
  rw [hnone i] at hj
  cases hj

end Runs

def Audited.careful (y : Reader) (env : Env) (d : Dir) (hash : Content → String)
    (names : String → Except String (List String)) (t : Audited) : SiteAction → Bool
  | .move i r =>
      (t.site.jobs.get i).all (fun j =>
        let m := j.move y env d hash names r t.site.device
        t.overtaken i = [] && !t.site.device.ledger.flags.conflict &&
          (m.next.isOk || i ∉ t.tornAfter i j m))
  | .kill i => i ∉ t.torn
  | _ => true

lemma Audited.careful_of {y : Reader} {env : Env} {d : Dir} {hash : Content → String}
    {names : String → Except String (List String)} {t : Audited} {a : SiteAction}
    (h : t.careful y env d hash names a = true) : t.Careful y env d hash names a := by
  cases a with
  | move i r =>
    intro j hj _
    simp only [careful, hj, Option.all_some, Bool.and_eq_true, decide_eq_true_eq,
      Bool.not_eq_true'] at h
    obtain ⟨⟨hnone, hlamp⟩, hend⟩ := h
    refine ⟨fun ph _ _ _ k jk hk hne => ?_, fun _ _ => hlamp, fun e he hi => ?_⟩
    · by_contra hh
      have hmem : k ∈ t.overtaken i := by
        rw [overtaken, List.mem_map]
        refine ⟨(k, jk), List.mem_filter.mpr ⟨(FiniteMap.mem_toList _ _ _).mpr hk, ?_⟩, rfl⟩
        simpa [hne, Option.isSome_iff_ne_none] using hh
      rw [hnone] at hmem
      cases hmem
    · simp [he, Except.isOk, Except.toBool, hi] at hend
  | kill i =>
    intro hi
    simp [careful, hi] at h
  | _ => trivial

def partialStop : List SiteAction :=
  [.stop 2, .move 2 { touched := true },
    .move 2 { survivors := [⟨4711, "car", "/opt/host/bin/host-agent"⟩] }]

lemma Audited.careful_of_ok {y : Reader} {env : Env} {d : Dir} {hash : Content → String}
    {names : String → Except String (List String)} {t : Audited} {i : ℕ} {j : Job} {r : Reply}
    (hj : t.site.jobs.get i = some j) (hother : t.overtaken i = [])
    (hlamp : t.site.device.ledger.flags.conflict = false)
    (hok : (j.move y env d hash names r t.site.device).next.isOk = true) :
    t.careful y env d hash names (.move i r) = true := by
  simp [careful, hj, hother, hlamp, hok]

lemma audited_pushed :
    run (Audited.step cameraReader plainEnv optDir cameraHash cameraNames)
      (Audited.start runningDevice) pushed =
      ⟨pushSite runningDevice.ledger (.judging (.text newYaml)), [], false, []⟩ := by
  have hsite : (run (Audited.step cameraReader plainEnv optDir cameraHash cameraNames)
      (Audited.start runningDevice) pushed).site =
      run (Site.step cameraReader plainEnv optDir cameraHash cameraNames) (Site.idle runningDevice)
        pushed := run_hom Audited.site Audited.step_site _
  have hstale : (run (Audited.step cameraReader plainEnv optDir cameraHash cameraNames)
      (Audited.start runningDevice) pushed).stale = [] := by decide +kernel
  have hlost : (run (Audited.step cameraReader plainEnv optDir cameraHash cameraNames)
      (Audited.start runningDevice) pushed).lost = false := by decide +kernel
  have htorn : (run (Audited.step cameraReader plainEnv optDir cameraHash cameraNames)
      (Audited.start runningDevice) pushed).torn = [] := by decide +kernel
  exact Audited.ext (hsite.trans (run_pushed runningDevice.ledger)) hstale hlost htorn

theorem ledger_truth_changed :
    let s := run (Site.step cameraReader plainEnv optDir cameraHash cameraNames)
      (Site.idle runningDevice) (changed ++ partialStop)
    let t := run (Audited.step cameraReader plainEnv optDir cameraHash cameraNames)
      (Audited.start runningDevice) (changed ++ partialStop)
    s.device.ledger.running = some ⟨cameraHash (.text newYaml), "push", none⟩ ∧
      s.device.ledger.Truthful ∧ t.lost = false ∧ t.torn = [] := by
  have hdev : runningDevice.ledger.Truthful := by simp [runningDevice, Ledger.Truthful]
  have hjob : (pushSite runningDevice.ledger (.judging (.text newYaml))).jobs.get 1 =
      some (pushJobAt (.judging (.text newYaml))) := rfl
  have hmove : (pushJobAt (.judging (.text newYaml))).move cameraReader plainEnv optDir cameraHash
      cameraNames default (pushSite runningDevice.ledger (.judging (.text newYaml))).device = _ :=
    move_pushed rfl
  have hcareful : Along (Audited.step cameraReader plainEnv optDir cameraHash cameraNames)
      (fun t a => t.careful cameraReader plainEnv optDir cameraHash cameraNames a = true)
      (Audited.start runningDevice) (changed ++ partialStop) := by
    rw [changed, List.append_assoc, along_append, audited_pushed]
    refine ⟨by decide +kernel, ?_, ?_⟩
    · exact Audited.careful_of_ok hjob rfl rfl (by rw [hmove]; rfl)
    · rw [Audited.step_move hjob rfl, hmove]
      decide +kernel
  have hend : run (Site.step cameraReader plainEnv optDir cameraHash cameraNames)
      (Site.idle runningDevice) (changed ++ partialStop) =
      Site.idle (changedDevice runningDevice.ledger) := by
    rw [run_append, show Site.idle runningDevice = Site.idle (bootedDevice runningDevice.ledger) from
      rfl, run_changed rfl]
    rfl
  obtain ⟨htruth, hlost, htorn⟩ := ledger_truth cameraReader plainEnv optDir cameraHash cameraNames
    runningDevice hdev (changed ++ partialStop)
    (hcareful.mono (fun t a h => Audited.careful_of h))
  have hrow : (run (Site.step cameraReader plainEnv optDir cameraHash cameraNames)
      (Site.idle runningDevice) (changed ++ partialStop)).device.ledger.running =
      some ⟨cameraHash (.text newYaml), "push", none⟩ := by
    rw [hend]
    rfl
  refine ⟨hrow, htruth, hlost, htorn ?_ _ hrow⟩
  rw [hend]
  exact fun _ => FiniteMap.get_empty _

def repushedDevice : Device :=
  { runningDevice with
    backups := [1]
    version := 1
    ledger := { runningDevice.ledger with
      lastPush := some ⟨cameraHash (.text oldYaml), none⟩ } }

lemma alone_repushed :
    (Site.pushJob ⟨oldYaml, 1⟩).alone cameraReader plainEnv optDir cameraHash cameraNames
      repushReplies runningDevice = (repushedDevice, none) := by
  rw [runningDevice, repushedDevice, runningDevice]
  generalize cameraDevice.present = present
  rfl

def replaceReplies : List Reply :=
  List.replicate 5 default ++ listing cameraRoster :: List.replicate 12 default ++
    [listing cameraRoster, default]

def editedDevice : Device := { repushedDevice with hostYaml := some (.text newYaml) }

def conflictDevice : Device :=
  { editedDevice with
    oxfile := some (cameraOxfile newYaml)
    ledger := repushedDevice.ledger.commit ⟨cameraHash (.text newYaml), "cli", none⟩ "applied" }

lemma alone_replaced :
    (Site.execJob .cliRun false ⟨"cli", none⟩).alone cameraReader plainEnv optDir cameraHash
      cameraNames replaceReplies editedDevice = (conflictDevice, none) := by
  have hm : editedDevice.ledger.runningMatch (cameraHash (.text newYaml)) = false := by
    decide
  have hg : gates cameraReader plainEnv optDir editedDevice newYaml =
      .ok (cameraOxfile newYaml) := newYaml_gates rfl
  refine (alone_queued rfl rfl).trans ((alone_judging rfl hm hg).trans ?_)
  rw [conflictDevice]
  generalize cameraOxfile newYaml = rendered
  rfl

def editedThenStopped : List SiteAction :=
  started ++ (repushed ++ (SiteAction.edit (some (.text newYaml)) ::
    ((SiteAction.exec 2 .cliRun false ⟨"cli", none⟩ :: replaceReplies.map (SiteAction.move 2)) ++
      ([.stop 3, .move 3 { touched := true }, .move 3 default, .move 3 default] :
        List SiteAction))))

lemma run_editedThenStopped :
    run (Site.step cameraReader plainEnv optDir cameraHash cameraNames) (Site.idle cameraDevice)
      editedThenStopped =
    Site.idle { conflictDevice with ledger := { conflictDevice.ledger with running := none } } := by
  have hedit : Site.step cameraReader plainEnv optDir cameraHash cameraNames
      (Site.solo 1 (Site.pushJob ⟨oldYaml, 1⟩) (repushedDevice, none))
      (.edit (some (.text newYaml))) = Site.idle editedDevice := rfl
  rw [editedThenStopped, run_append, run_started, run_append, repushed, run_push, alone_repushed,
    run_cons, hedit, run_append, run_exec, alone_replaced]
  rfl

theorem conflict_lamp_stays_on :
    ¬∀ (y : Reader) (env : Env) (d : Dir) (hash : Content → String)
      (names : String → Except String (List String)) (dev : Device), dev.ledger = {} →
      ∀ acts : List SiteAction,
        let s := run (Site.step y env d hash names) (Site.idle dev) acts
        let t := run (Audited.step y env d hash names) (Audited.start dev) acts
        s.device.ledger.Truthful ∧ t.lost = false ∧
          ((∀ i, s.jobs.get i = none) → ∀ row, s.device.ledger.running = some row →
            t.torn = []) := by
  intro hall
  obtain ⟨htruth, -⟩ := hall cameraReader plainEnv optDir cameraHash cameraNames cameraDevice rfl
    editedThenStopped
  rw [run_editedThenStopped] at htruth
  have hlamp : conflictDevice.ledger.flags.conflict = true := by decide
  obtain ⟨r, p, hr, -⟩ := htruth.mp hlamp
  cases hr

end MediaServo.Host
