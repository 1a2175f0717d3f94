import MediaServo.HostProofs.CommandLines
import MediaServo.HostProofs.ConfigSteps

/-! When the activated oxfile is the render of the configuration that the ledger says is running. -/

namespace MediaServo.Host

open MediaServo.Foundations

def Effect.writesOxfile : Effect → Bool
  | .writeOxfile _ | .activate => true
  | _ => false

def Effect.writesStaging : Effect → Bool
  | .unstage | .stage _ | .activate => true
  | _ => false

def Phase.stagedRun? : Phase → Option Run
  | .listing r | .tearing r _ | .verifying r | .preparing r | .activating r => some r
  | _ => none

def Phase.activeRun? : Phase → Option Run
  | .applying r | .refusing r _ _ | .reconciling r | .committing r => some r
  | _ => none

def Job.written? (j : Job) : Option String :=
  match j.phase.activeRun? with
  | some r => some r.cfg
  | none => j.push.map Push.config

def Move.shown? (m : Move) (j : Job) : Option String :=
  match m.next with
  | .ok ph => ({ j with phase := ph } : Job).written?
  | .error _ => j.written?

section Steps

variable {y : Reader} {env : Env} {d : Dir} {hash : Content → String} {j : Job} {s : Device}
  {e : Effect} {ph : Phase}

def Run.Sound (y : Reader) (env : Env) (d : Dir) (hash : Content → String) (r : Run) : Prop :=
  r.hash = hash (.text r.cfg) ∧ toOxfileInDir y env r.cfg d = .ok r.rendered

lemma stagedRun_run {r : Run} (h : ph.stagedRun? = some r) : ph.run? = some r := by
  cases ph <;> simp_all [Phase.stagedRun?, Phase.run?]

lemma activeRun_run {r : Run} (h : ph.activeRun? = some r) : ph.run? = some r := by
  cases ph <;> simp_all [Phase.activeRun?, Phase.run?]

lemma run_holdsLock {r : Run} (h : ph.run? = some r) : ph.holdsLock = true := by
  cases ph <;> simp_all [Phase.run?, Phase.holdsLock]

lemma restored_holdsLock {l : Ledger} (h : ph.restored? = some l) : ph.holdsLock = true := by
  cases ph <;> simp_all [Phase.restored?, Phase.run?, Phase.holdsLock]

lemma Steps.sound (h : Steps y env d hash j s e (.ok ph))
    (hj : ∀ r, j.phase.run? = some r → r.Sound y env d hash) {r : Run} (hr : ph.run? = some r) :
    r.Sound y env d hash := by
  generalize hn : (Except.ok ph : Except Ending Phase) = next at h
  cases h with
  | current h _ =>
    rw [finish_ok hn.symm] at hr
    cases hr
  | committed h =>
    rw [finish_ok hn.symm] at hr
    cases hr
  | gatesPassed h hrender =>
    cases hn
    cases hr
    exact ⟨rfl, hrender⟩
  | @prepared r' l' h _ _ _ =>
    cases hn
    cases hr
    have hphase : j.phase.run? = some r' := by
      rw [h]
      rfl
    exact hj r' hphase
  | _ => first
    | (cases hn; done)
    | (cases hn; simp_all [Phase.run?])

lemma Steps.written (h : Steps y env d hash j s e (.ok ph)) (he : e.writesOxfile = false)
    (hs : ph ≠ .storing) : ({ j with phase := ph } : Job).written? = j.written? := by
  generalize hn : (Except.ok ph : Except Ending Phase) = next at h
  cases h with
  | current h _ => exact absurd (finish_ok hn.symm) hs
  | committed h => exact absurd (finish_ok hn.symm) hs
  | bootDeclined h =>
    cases hn
    rcases h with ⟨_, h⟩ | ⟨_, _, h⟩ <;> simp [Job.written?, h, Phase.activeRun?]
  | _ => first
    | (cases hn; done)
    | (cases hn; simp_all [Job.written?, Phase.activeRun?, Effect.writesOxfile])

lemma Steps.active {r : Run} (h : Steps y env d hash j s e (.ok ph))
    (he : e.writesOxfile = false) (hr : ph.activeRun? = some r) :
    ∃ r', j.phase.activeRun? = some r' := by
  generalize hn : (Except.ok ph : Except Ending Phase) = next at h
  cases h with
  | current h _ =>
    rw [finish_ok hn.symm] at hr
    cases hr
  | committed h =>
    rw [finish_ok hn.symm] at hr
    cases hr
  | activated h => cases he
  | _ => first
    | (cases hn; done)
    | (cases hn; cases hr; done)
    | (cases hn; simp_all [Phase.activeRun?])

lemma Steps.stagingHolder {next : Except Ending Phase} (h : Steps y env d hash j s e next)
    (he : e.writesStaging = true) : j.phase.holdsLock = true := by
  cases h <;> simp_all [Effect.writesStaging, Phase.holdsLock]

lemma Steps.keepsStaged (h : Steps y env d hash j s e (.ok ph))
    (hj : ∀ r, j.phase.stagedRun? = some r → s.staging = some r.rendered) {r : Run}
    (hr : ph.stagedRun? = some r) : (e.apply s).staging = some r.rendered := by
  generalize hn : (Except.ok ph : Except Ending Phase) = next at h
  cases h with
  | current h _ =>
    rw [finish_ok hn.symm] at hr
    cases hr
  | committed h =>
    rw [finish_ok hn.symm] at hr
    cases hr
  | @prepared r' l' h _ _ _ =>
    cases hn
    cases hr
    have hphase : j.phase.stagedRun? = some r' := by
      rw [h]
      rfl
    exact hj r' hphase
  | staged h =>
    cases hn
    cases hr
    rfl
  | _ => first
    | (cases hn; done)
    | (cases hn; simp_all [Phase.stagedRun?, Effect.apply])

lemma Steps.writes {next : Except Ending Phase} (h : Steps y env d hash j s e next)
    (he : e.writesOxfile = true) (hsound : ∀ r, j.phase.run? = some r → r.Sound y env d hash)
    (hstaged : ∀ r, j.phase.stagedRun? = some r → s.staging = some r.rendered) :
    ∃ ph cfg text, next = .ok ph ∧ ph ≠ .storing ∧
      ({ j with phase := ph } : Job).written? = some cfg ∧
      toOxfileInDir y env cfg d = .ok text ∧ (e.apply s).oxfile = some text := by
  cases h with
  | @wroteOxfile p text h hp hr =>
    exact ⟨_, p.config, text, rfl, nofun, by simp [Job.written?, Phase.activeRun?, hp], hr, rfl⟩
  | @activated r h =>
    have hs := hsound r (by rw [h]; rfl)
    exact ⟨_, r.cfg, r.rendered, rfl, nofun, rfl, hs.2, hstaged r (by rw [h]; rfl)⟩
  | _ => cases he

lemma Steps.toBootSaving {cfg : String} {l : Ledger}
    (h : Steps y env d hash j s e (.ok (.bootSaving cfg l))) :
    l = bootCommitted s.ledger (hash (.text cfg)) := by
  generalize hn : (Except.ok (Phase.bootSaving cfg l) : Except Ending Phase) = next at h
  cases h with
  | current h _ => cases finish_ok hn.symm
  | committed h => cases finish_ok hn.symm
  | bootMatched h =>
    cases hn
    rfl
  | _ => cases hn

lemma Steps.toStoring (h : Steps y env d hash j s e (.ok .storing)) :
    (∃ c, j.phase = .judging c ∧ e = .nothing ∧ s.ledger.runningMatch (hash c) = true) ∨
      ∃ r, j.phase = .committing r ∧ e = .save (r.committed j.opts) := by
  generalize hn : (Except.ok Phase.storing : Except Ending Phase) = next at h
  cases h with
  | current h hm => exact Or.inl ⟨_, h, rfl, hm⟩
  | committed h => exact Or.inr ⟨_, h, rfl⟩
  | _ => cases hn

lemma Steps.fromCommitting {r : Run} {next : Except Ending Phase}
    (h : Steps y env d hash j s e next) (hp : j.phase = .committing r) (he : e ≠ .nothing) :
    e = .save (r.committed j.opts) := by
  cases h with
  | committed h =>
    rw [hp] at h
    cases h
    rfl
  | _ => first
    | exact absurd rfl he
    | simp_all

lemma oxfile_of_quiet (he : e.writesOxfile = false) : (e.apply s).oxfile = s.oxfile := by
  cases e <;> first | rfl | cases he

lemma staging_of_quiet (he : e.writesStaging = false) : (e.apply s).staging = s.staging := by
  cases e <;> first | rfl | cases he

end Steps

/-- What the processes have in hand, in every state of every run. -/
structure Site.Kept (y : Reader) (env : Env) (d : Dir) (hash : Content → String) (s : Site) :
    Prop where
  one : OneHolder s
  staged : ∀ i j r, s.jobs.get i = some j → j.phase.stagedRun? = some r →
    s.device.staging = some r.rendered
  sound : ∀ i j r, s.jobs.get i = some j → j.phase.run? = some r → r.Sound y env d hash
  boot : ∀ i j cfg l, s.jobs.get i = some j → j.phase = .bootSaving cfg l →
    ∃ row, l.running = some row ∧ row.hash = hash (.text cfg)
  clear : ∀ i j l, s.jobs.get i = some j → j.phase = .clearing l → l.running = none

/-- The processes on a device, which of them wrote the oxfile last and has neither committed its
configuration, nor found it running, nor ended since, and the configuration that was written last. -/
structure Watched where
  site : Site
  writer : Option ℕ
  shown : Option String

section Runs

variable (y : Reader) (env : Env) (d : Dir) (hash : Content → String)
  (names : String → Except String (List String))

/-- The oxfile is the render of a configuration with the fingerprint of the row, if there is one. -/
def Agree (row : Option Running) (oxfile : Option String) : Prop :=
  ∀ r, row = some r → ∃ cfg text, hash (.text cfg) = r.hash ∧
    toOxfileInDir y env cfg d = .ok text ∧ oxfile = some text

/-- The oxfile is the render of the configuration that was written last. -/
def Shows (shown oxfile : Option String) : Prop :=
  ∀ cfg, shown = some cfg → ∃ text, toOxfileInDir y env cfg d = .ok text ∧ oxfile = some text

namespace Watched

def released (next : Except Ending Phase) : Bool :=
  match next with
  | .error _ => true
  | .ok ph => ph = .storing

def observe (t : Watched) : SiteAction → Option ℕ
  | .move i r =>
      match t.site.jobs.get i with
      | some j =>
          if t.site.blocked j r then t.writer
          else
            let m := j.move y env d hash names r t.site.device
            if m.effect.writesOxfile then some i
            else if released m.next ∧ t.writer = some i then none
            else t.writer
      | none => t.writer
  | .kill i => if t.writer = some i then none else t.writer
  | _ => t.writer

def displays (t : Watched) : SiteAction → Option String
  | .move i r =>
      match t.site.jobs.get i with
      | some j =>
          let m := j.move y env d hash names r t.site.device
          if t.site.blocked j r = false ∧ m.effect.writesOxfile then m.shown? j else t.shown
      | none => t.shown
  | _ => t.shown

def step (t : Watched) (a : SiteAction) : Watched :=
  ⟨t.site.step y env d hash names a, t.observe y env d hash names a, t.displays y env d hash names a⟩

/-- The end of a process does no harm when there is no running row, or it names the configuration
that the process wrote, and no other process holds the lock. -/
def Harmless (t : Watched) (i : ℕ) (j : Job) (l : Ledger) : Prop :=
  (∀ row, l.running = some row → ∃ cfg, j.written? = some cfg ∧ row.hash = hash (.text cfg)) ∧
    ∀ k jk, t.site.jobs.get k = some jk → k ≠ i → jk.phase.holdsLock = false

/-- The process that wrote the oxfile neither ends nor dies before its commit, unless that does no
harm; a push that finds its configuration running read the file that it wrote; and the boot pass
commits only a file with the render of the one that was written into the oxfile last. -/
def Lands (t : Watched) : SiteAction → Prop
  | .move i r => ∀ j, t.site.jobs.get i = some j → t.site.blocked j r = false →
      let m := j.move y env d hash names r t.site.device
      (t.writer = some i →
        (∀ e, m.next = .error e → (∀ run, j.phase = .committing run → m.effect = .nothing) →
          t.Harmless hash i j (m.effect.apply t.site.device).ledger) ∧
        ∀ c, j.phase = .judging c → m.next = .ok .storing → j.written?.map Content.text = some c) ∧
      ∀ cfg l, j.phase = .bootSaving cfg l → m.effect = .save l →
        ∃ c, t.shown = some c ∧ toOxfileInDir y env cfg d = toOxfileInDir y env c d
  | .kill i => ∀ j, t.site.jobs.get i = some j → t.writer = some i →
      t.Harmless hash i j t.site.device.ledger
  | _ => True

structure Inv (t : Watched) : Prop where
  kept : t.site.Kept y env d hash
  shows : Shows y env d t.shown t.site.device.oxfile
  agree : t.writer = none → Agree y env d hash t.site.device.ledger.running t.site.device.oxfile
  wrote : ∀ i, t.writer = some i → ∃ j cfg text, t.site.jobs.get i = some j ∧
    j.written? = some cfg ∧ toOxfileInDir y env cfg d = .ok text ∧ t.site.device.oxfile = some text
  active : ∀ i j r, t.site.jobs.get i = some j → j.phase.activeRun? = some r → t.writer ≠ none
  restored : ∀ i j l, t.site.jobs.get i = some j → j.phase.restored? = some l → t.writer = none →
    Agree y env d hash l.running t.site.device.oxfile

end Watched

variable {y env d hash names} {t : Watched} {i : ℕ} {j : Job} {r : Reply}

def Job.Fresh (j : Job) : Prop :=
  j.phase = .received ∨ j.phase = .queued ∨ j.phase = .bootQueued ∨ j.phase = .stopping

lemma Job.Fresh.run_none (h : j.Fresh) (ru : Run) : j.phase.run? ≠ some ru := by
  rcases h with h | h | h | h <;> simp [h, Phase.run?]

lemma Job.Fresh.restored_none (h : j.Fresh) (l : Ledger) : j.phase.restored? ≠ some l := by
  rcases h with h | h | h | h <;> simp [h, Phase.restored?, Phase.run?]

lemma Job.Fresh.not_saving (h : j.Fresh) (cfg : String) (l : Ledger) :
    j.phase ≠ .bootSaving cfg l ∧ j.phase ≠ .clearing l := by
  rcases h with h | h | h | h <;> simp [h]

lemma Job.Fresh.unlocked (h : j.Fresh) : j.phase.holdsLock = false := by
  rcases h with h | h | h | h <;> simp [h, Phase.holdsLock]

lemma Site.Kept.frame {s s' : Site} (h : s.Kept y env d hash) (hone : OneHolder s')
    (hst : s'.device.staging = s.device.staging)
    (hjobs : ∀ k jk, s'.jobs.get k = some jk → s.jobs.get k = some jk ∨ jk.Fresh) :
    s'.Kept y env d hash := by
  refine ⟨hone, ?_, ?_, ?_, ?_⟩
  · intro i j ru hj hr
    rw [hst]
    rcases hjobs i j hj with hj | hfresh
    · exact h.staged i j ru hj hr
    · exact absurd (stagedRun_run hr) (hfresh.run_none ru)
  · intro i j ru hj hr
    rcases hjobs i j hj with hj | hfresh
    · exact h.sound i j ru hj hr
    · exact absurd hr (hfresh.run_none ru)
  · intro i j cfg l hj hp
    rcases hjobs i j hj with hj | hfresh
    · exact h.boot i j cfg l hj hp
    · exact absurd hp (hfresh.not_saving cfg l).1
  · intro i j l hj hp
    rcases hjobs i j hj with hj | hfresh
    · exact h.clear i j l hj hp
    · exact absurd hp (hfresh.not_saving "" l).2

lemma Site.Kept.killed {s : Site} (h : s.Kept y env d hash) :
    ({ s with jobs := s.jobs.remove i } : Site).Kept y env d hash := by
  refine h.frame ?_ rfl (fun k jk hk => Or.inl (get_of_killed hk).2)
  exact fun a b ja jb ha hb hla hlb =>
    h.one a b ja jb (get_of_killed ha).2 (get_of_killed hb).2 hla hlb

lemma Site.Kept.moved {s : Site} (h : s.Kept y env d hash) (hj : s.jobs.get i = some j)
    (hb : s.blocked j r = false) :
    (s.settle i j (j.move y env d hash names r s.device)).Kept y env d hash := by
  have hsteps : (j.move y env d hash names r s.device).Within y env d hash j s.device := move_within
  refine ⟨oneHolder_settle h.one hj hb, ?_, ?_, ?_, ?_⟩
  · intro k jk ru hk hr
    rcases get_settle hk with ⟨rfl, ph, hn, rfl⟩ | ⟨hne, hk⟩
    · rw [Move.Within, hn] at hsteps
      exact hsteps.keepsStaged (fun ru hru => h.staged k j ru hj hru) hr
    · have hold := h.staged k jk ru hk hr
      cases he : (j.move y env d hash names r s.device).effect.writesStaging with
      | false => exact (staging_of_quiet he).trans hold
      | true =>
        have hi := hsteps.stagingHolder he
        exact absurd (h.one k i jk j hk hj (run_holdsLock (stagedRun_run hr)) hi) hne
  · intro k jk ru hk hr
    rcases get_settle hk with ⟨rfl, ph, hn, rfl⟩ | ⟨_, hk⟩
    · rw [Move.Within, hn] at hsteps
      exact hsteps.sound (fun ru hru => h.sound k j ru hj hru) hr
    · exact h.sound k jk ru hk hr
  · intro k jk cfg l hk hp
    rcases get_settle hk with ⟨rfl, ph, hn, rfl⟩ | ⟨_, hk⟩
    · rw [Move.Within, hn, show ph = _ from hp] at hsteps
      rw [hsteps.toBootSaving]
      exact ⟨_, rfl, rfl⟩
    · exact h.boot k jk cfg l hk hp
  · intro k jk l hk hp
    rcases get_settle hk with ⟨rfl, ph, hn, rfl⟩ | ⟨_, hk⟩
    · rw [Move.Within, hn, show ph = _ from hp] at hsteps
      rw [hsteps.toClearing]
    · exact h.clear k jk l hk hp

namespace Watched

lemma Inv.frame {t' : Watched} (h : Inv y env d hash t) (hkept : t'.site.Kept y env d hash)
    (hled : t'.site.device.ledger = t.site.device.ledger)
    (hox : t'.site.device.oxfile = t.site.device.oxfile) (hw : t'.writer = t.writer)
    (hs : t'.shown = t.shown)
    (hjobs : ∀ k jk, t'.site.jobs.get k = some jk → t.site.jobs.get k = some jk ∨ jk.Fresh)
    (hkeep : ∀ i j, t.writer = some i → t.site.jobs.get i = some j → t'.site.jobs.get i = some j) :
    Inv y env d hash t' := by
  refine ⟨hkept, ?_, ?_, ?_, ?_, ?_⟩
  · rw [hs, hox]
    exact h.shows
  · rw [hw, hled, hox]
    exact h.agree
  · intro i hi
    rw [hw] at hi
    obtain ⟨j, cfg, text, hj, hwr, hr, ho⟩ := h.wrote i hi
    exact ⟨j, cfg, text, hkeep i j hi hj, hwr, hr, hox.trans ho⟩
  · intro i j ru hj hr
    rw [hw]
    rcases hjobs i j hj with hj | hfresh
    · exact h.active i j ru hj hr
    · exact absurd (activeRun_run hr) (hfresh.run_none ru)
  · intro i j l hj hl hn
    rw [hw] at hn
    rw [hox]
    rcases hjobs i j hj with hj | hfresh
    · exact h.restored i j l hj hl hn
    · exact absurd hl (hfresh.restored_none l)

lemma Inv.spawned (h : Inv y env d hash t) (hf : j.Fresh) {dev : Device}
    (hled : dev.ledger = t.site.device.ledger) (hox : dev.oxfile = t.site.device.oxfile)
    (hst : dev.staging = t.site.device.staging) :
    Inv y env d hash ⟨({ t.site with device := dev } : Site).spawn i j, t.writer, t.shown⟩ := by
  have hone : OneHolder ({ t.site with device := dev } : Site) := h.kept.one
  have hjobs : ∀ k jk, (({ t.site with device := dev } : Site).spawn i j).jobs.get k = some jk →
      t.site.jobs.get k = some jk ∨ jk.Fresh := by
    intro k jk hk
    rcases get_spawn hk with ⟨_, rfl⟩ | hk
    · exact Or.inr hf
    · exact Or.inl hk
  refine h.frame (h.kept.frame (oneHolder_spawn hone hf.unlocked) ?_ hjobs) ?_ ?_ rfl rfl hjobs ?_
  · rw [spawn_device]
    exact hst
  · rw [spawn_device]
    exact hled
  · rw [spawn_device]
    exact hox
  · exact fun k jk _ hk => spawn_keeps hk

lemma Inv.agree_of_harmless (h : Inv y env d hash t) (hj : t.site.jobs.get i = some j)
    (hw : t.writer = some i) {l : Ledger} (hh : t.Harmless hash i j l) :
    Agree y env d hash l.running t.site.device.oxfile := by
  intro row hrow
  obtain ⟨cfg, hcfg, hhash⟩ := hh.1 row hrow
  obtain ⟨j', cfg', text, hj', hwr, hr, ho⟩ := h.wrote i hw
  rw [hj] at hj'
  cases hj'
  rw [hcfg] at hwr
  cases hwr
  exact ⟨cfg, text, hhash.symm, hr, ho⟩

lemma Inv.killed (h : Inv y env d hash t) (hl : t.Lands y env d hash names (.kill i)) :
    Inv y env d hash (t.step y env d hash names (.kill i)) := by
  have hkept : (t.step y env d hash names (.kill i)).site.Kept y env d hash := h.kept.killed
  by_cases hw : t.writer = some i
  · obtain ⟨j, _, _, hj, _⟩ := h.wrote i hw
    have hh := hl j hj hw
    have hlock : ∀ k jk, (t.site.jobs.remove i).get k = some jk → jk.phase.holdsLock = false :=
      fun k jk hk => hh.2 k jk (get_of_killed hk).2 (get_of_killed hk).1
    have hnone : (t.step y env d hash names (.kill i)).writer = none := if_pos hw
    refine ⟨hkept, h.shows, fun _ => h.agree_of_harmless hj hw hh, ?_, ?_, ?_⟩
    · intro k hk
      rw [hnone] at hk
      cases hk
    · intro k jk ru hk hr
      exact absurd (run_holdsLock (activeRun_run hr)) (by simp [hlock k jk hk])
    · intro k jk l hk hr
      exact absurd (restored_holdsLock hr) (by simp [hlock k jk hk])
  · refine h.frame hkept rfl rfl (if_neg hw) rfl (fun k jk hk => Or.inl (get_of_killed hk).2) ?_
    intro k jk hk hjk
    have hki : k ≠ i := by
      rintro rfl
      exact hw hk
    exact (FiniteMap.get_remove_ne _ hki).trans hjk

lemma step_move (hj : t.site.jobs.get i = some j) (hb : t.site.blocked j r = false) :
    t.step y env d hash names (.move i r) =
      ⟨t.site.settle i j (j.move y env d hash names r t.site.device),
        if (j.move y env d hash names r t.site.device).effect.writesOxfile then some i
        else if released (j.move y env d hash names r t.site.device).next ∧ t.writer = some i then none
        else t.writer,
        if (j.move y env d hash names r t.site.device).effect.writesOxfile then
          (j.move y env d hash names r t.site.device).shown? j
        else t.shown⟩ := by
  simp [step, Site.step, observe, displays, hj, hb]

lemma Inv.written (h : Inv y env d hash t) (hj : t.site.jobs.get i = some j)
    (hb : t.site.blocked j r = false) {m : Move} (hm : m = j.move y env d hash names r t.site.device)
    (he : m.effect.writesOxfile = true) :
    Inv y env d hash ⟨t.site.settle i j m, some i, m.shown? j⟩ := by
  have hsteps : m.Within y env d hash j t.site.device := hm ▸ move_within
  have hkept : (t.site.settle i j m).Kept y env d hash := hm ▸ h.kept.moved hj hb
  obtain ⟨ph, cfg, text, hn, _, hwr, hr, ho⟩ := hsteps.writes he
    (fun ru hru => h.kept.sound i j ru hj hru) (fun ru hru => h.kept.staged i j ru hj hru)
  refine ⟨hkept, ?_, nofun, ?_, fun _ _ _ _ _ => nofun, fun _ _ _ _ _ => nofun⟩
  · rintro c hc
    rw [Move.shown?, hn] at hc
    cases hwr.symm.trans hc
    exact ⟨text, hr, ho⟩
  · rintro k hk
    cases hk
    refine ⟨{ j with phase := ph }, cfg, text, ?_, hwr, hr, ho⟩
    simp [Site.settle, hn]

lemma Inv.agree_after (h : Inv y env d hash t) (hj : t.site.jobs.get i = some j) {m : Move}
    (hsteps : m.Within y env d hash j t.site.device) (hw : t.writer = none)
    (hboot : ∀ cfg l, j.phase = .bootSaving cfg l → m.effect = .save l →
      ∃ c, t.shown = some c ∧ toOxfileInDir y env cfg d = toOxfileInDir y env c d) :
    Agree y env d hash (m.effect.apply t.site.device).ledger.running t.site.device.oxfile := by
  by_cases hsave : ∃ l, m.effect = .save l
  · obtain ⟨l, hl⟩ := hsave
    rw [Move.Within, hl] at hsteps
    rw [hl]
    rcases hsteps.saves with ⟨l', hl', hrun⟩ | ⟨ru, hp, _⟩ | ⟨cfg, hp⟩ | hp
    · have := h.restored i j l' hj hl' hw
      rw [← hrun] at this
      exact this
    · exact absurd hw (h.active i j ru hj (by rw [hp]; rfl))
    · obtain ⟨c, hc, hrender⟩ := hboot cfg l hp hl
      obtain ⟨text, hr, ho⟩ := h.shows c hc
      rw [← hrender] at hr
      obtain ⟨row, hrow, hhash⟩ := h.kept.boot i j cfg l hj hp
      intro row' hrow'
      have heq : row' = row := Option.some.inj (hrow'.symm.trans hrow)
      rw [heq]
      exact ⟨cfg, text, hhash.symm, hr, ho⟩
    · intro row hrow
      have hnone : l.running = some row := hrow
      rw [h.kept.clear i j l hj hp] at hnone
      cases hnone
  · rw [ledger_of_quiet (fun l hl => hsave ⟨l, hl⟩)]
    exact h.agree hw

lemma Inv.agree_released (h : Inv y env d hash t) (hj : t.site.jobs.get i = some j) {m : Move}
    (hsteps : m.Within y env d hash j t.site.device) (hw : t.writer = some i)
    (hrel : released m.next = true)
    (hend : ∀ e, m.next = .error e → (∀ run, j.phase = .committing run → m.effect = .nothing) →
      t.Harmless hash i j (m.effect.apply t.site.device).ledger)
    (hcurrent : ∀ c, j.phase = .judging c → m.next = .ok .storing →
      j.written?.map Content.text = some c) :
    Agree y env d hash (m.effect.apply t.site.device).ledger.running t.site.device.oxfile ∧
      (j.phase.holdsLock = true ∨
        ∀ k jk, t.site.jobs.get k = some jk → k ≠ i → jk.phase.holdsLock = false) := by
  obtain ⟨j', cfg, text, hj', hwr, hr, ho⟩ := h.wrote i hw
  rw [hj] at hj'
  cases hj'
  by_cases hcommit : ∃ run, j.phase = .committing run ∧ m.effect ≠ .nothing
  · obtain ⟨run, hp, hne⟩ := hcommit
    rw [hsteps.fromCommitting hp hne]
    have hrun : j.phase.run? = some run := by
      rw [hp]
      rfl
    have hcfg : run.cfg = cfg := by
      rw [Job.written?, hp] at hwr
      exact Option.some.inj hwr
    refine ⟨?_, Or.inl (run_holdsLock hrun)⟩
    rintro row hrow
    cases hrow
    exact ⟨cfg, text, hcfg ▸ (h.kept.sound i j run hj hrun).1.symm, hr, ho⟩
  · have hquiet : ∀ run, j.phase = .committing run → m.effect = .nothing := by
      intro run hp
      by_contra hne
      exact hcommit ⟨run, hp, hne⟩
    cases hn : m.next with
    | error e =>
      have hh := hend e hn hquiet
      exact ⟨h.agree_of_harmless hj hw hh, Or.inr hh.2⟩
    | ok ph =>
      have hph : ph = .storing := by
        rw [hn] at hrel
        simpa [released] using hrel
      rw [hph] at hn
      rw [Move.Within, hn] at hsteps
      rcases hsteps.toStoring with ⟨c, hp, he, hm⟩ | ⟨run, hp, he⟩
      · have hc := hcurrent c hp hn
        rw [hwr] at hc
        cases hc
        refine ⟨?_, Or.inl (by rw [hp]; rfl)⟩
        rw [he]
        intro row hrow
        have hrun : t.site.device.ledger.running = some row := hrow
        rw [Ledger.runningMatch, hrun] at hm
        have hhash : row.hash = hash (.text cfg) := by simpa using hm
        exact ⟨cfg, text, hhash.symm, hr, ho⟩
      · rw [hquiet run hp] at he
        cases he

lemma Inv.writer_through (h : Inv y env d hash t) (hj : t.site.jobs.get i = some j) {m : Move}
    (hkept : (t.site.settle i j m).Kept y env d hash) (he : m.effect.writesOxfile = false)
    (hrel : released m.next = true)
    (hagree : Agree y env d hash (m.effect.apply t.site.device).ledger.running t.site.device.oxfile)
    (hlock : j.phase.holdsLock = true ∨
      ∀ k jk, t.site.jobs.get k = some jk → k ≠ i → jk.phase.holdsLock = false) :
    Inv y env d hash ⟨t.site.settle i j m, none, t.shown⟩ := by
  have hox : (t.site.settle i j m).device.oxfile = t.site.device.oxfile := oxfile_of_quiet he
  have hfree : ∀ k jk, (t.site.settle i j m).jobs.get k = some jk → jk.phase.holdsLock = false := by
    intro k jk hk
    rcases get_settle hk with ⟨rfl, ph, hn, rfl⟩ | ⟨hne, hk⟩
    · have hph : ph = .storing := by
        rw [hn] at hrel
        simpa [released] using hrel
      rw [hph]
      rfl
    · rcases hlock with hheld | hfree
      · by_contra hkl
        exact hne (h.kept.one k i jk j hk hj (Bool.of_not_eq_false hkl) hheld)
      · exact hfree k jk hk hne
  refine ⟨hkept, hox ▸ h.shows, fun _ => hox ▸ hagree, nofun, ?_, ?_⟩
  · intro k jk ru hk hr
    exact absurd (run_holdsLock (activeRun_run hr)) (by simp [hfree k jk hk])
  · intro k jk l hk hr
    exact absurd (restored_holdsLock hr) (by simp [hfree k jk hk])

lemma Inv.writer_kept (h : Inv y env d hash t) (hj : t.site.jobs.get i = some j) {m : Move}
    (hkept : (t.site.settle i j m).Kept y env d hash)
    (hsteps : m.Within y env d hash j t.site.device) (he : m.effect.writesOxfile = false)
    (hrel : ¬(released m.next = true ∧ t.writer = some i))
    (hboot : ∀ cfg l, j.phase = .bootSaving cfg l → m.effect = .save l →
      ∃ c, t.shown = some c ∧ toOxfileInDir y env cfg d = toOxfileInDir y env c d) :
    Inv y env d hash ⟨t.site.settle i j m, t.writer, t.shown⟩ := by
  have hox : (t.site.settle i j m).device.oxfile = t.site.device.oxfile := oxfile_of_quiet he
  refine ⟨hkept, hox ▸ h.shows, ?_, ?_, ?_, ?_⟩
  · intro hw
    exact hox ▸ h.agree_after hj hsteps hw hboot
  · intro k hk
    obtain ⟨jk, cfg, text, hjk, hwr, hr, ho⟩ := h.wrote k hk
    by_cases hki : k = i
    · subst hki
      rw [hj] at hjk
      cases hjk
      cases hn : m.next with
      | error e => exact absurd ⟨by simp [hn, released], hk⟩ hrel
      | ok ph =>
        have hph : ph ≠ .storing := by
          rintro rfl
          exact hrel ⟨by simp [hn, released], hk⟩
        rw [Move.Within, hn] at hsteps
        refine ⟨{ j with phase := ph }, cfg, text, ?_, (hsteps.written he hph).trans hwr, hr,
          hox.trans ho⟩
        simp [Site.settle, hn]
    · exact ⟨jk, cfg, text, (settle_other hki).trans hjk, hwr, hr, hox.trans ho⟩
  · intro k jk ru hk hr
    rcases get_settle hk with ⟨rfl, ph, hn, rfl⟩ | ⟨_, hk⟩
    · rw [Move.Within, hn] at hsteps
      obtain ⟨ru', hr'⟩ := hsteps.active he hr
      exact h.active k j ru' hj hr'
    · exact h.active k jk ru hk hr
  · intro k jk l hk hr hw
    rw [hox]
    rcases get_settle hk with ⟨rfl, ph, hn, rfl⟩ | ⟨_, hk⟩
    · rw [Move.Within, hn] at hsteps
      rcases hsteps.restored hr with hrun | ⟨l', hl', hrun⟩
      · rw [hrun]
        exact h.agree hw
      · rw [hrun]
        exact h.restored k j l' hj hl' hw
    · exact h.restored k jk l hk hr hw

lemma Inv.moved (h : Inv y env d hash t) (hj : t.site.jobs.get i = some j)
    (hb : t.site.blocked j r = false) (hl : t.Lands y env d hash names (.move i r)) :
    Inv y env d hash (t.step y env d hash names (.move i r)) := by
  rw [step_move hj hb]
  obtain ⟨hwriter, hboot⟩ := hl j hj hb
  have hkept : (t.site.settle i j (j.move y env d hash names r t.site.device)).Kept y env d hash :=
    h.kept.moved hj hb
  have hsteps : (j.move y env d hash names r t.site.device).Within y env d hash j t.site.device :=
    move_within
  generalize hm : j.move y env d hash names r t.site.device = m at *
  cases he : m.effect.writesOxfile with
  | true =>
    rw [if_pos rfl]
    exact h.written hj hb hm.symm he
  | false =>
    simp only [Bool.false_eq_true, if_false]
    by_cases hrel : released m.next = true ∧ t.writer = some i
    · -- the last writer is through: nobody else holds the lock
      rw [if_pos hrel]
      obtain ⟨hagree, hlock⟩ := h.agree_released hj hsteps hrel.2 hrel.1 (hwriter hrel.2).1
        (hwriter hrel.2).2
      exact h.writer_through hj hkept he hrel.1 hagree hlock
    · rw [if_neg hrel]
      exact h.writer_kept hj hkept hsteps he hrel hboot

lemma Inv.stepped (h : Inv y env d hash t) {a : SiteAction} (hl : t.Lands y env d hash names a) :
    Inv y env d hash (t.step y env d hash names a) := by
  have hfresh : ∀ {j : Job} {i : ℕ}, j.Fresh → Inv y env d hash ⟨t.site.spawn i j, t.writer, t.shown⟩ :=
    fun hf => h.spawned hf rfl rfl rfl
  have hfiles : ∀ dev : Device, dev.ledger = t.site.device.ledger →
      dev.oxfile = t.site.device.oxfile → dev.staging = t.site.device.staging →
      Inv y env d hash ⟨{ t.site with device := dev }, t.writer, t.shown⟩ := by
    intro dev hled hox hst
    exact h.frame (h.kept.frame h.kept.one hst (fun k jk hk => Or.inl hk)) hled hox rfl rfl
      (fun k jk hk => Or.inl hk) (fun i j _ hj => hj)
  cases a with
  | push i p =>
    simp only [step, Site.step, observe]
    split_ifs
    · exact hfresh (Or.inl rfl)
    · exact h
  | exec i topo force opts => exact hfresh (Or.inr (Or.inl rfl))
  | restart i actor =>
    simp only [step, Site.step, observe]
    split_ifs
    · exact h.spawned (Or.inr (Or.inr (Or.inl rfl))) rfl rfl rfl
    · exact h
  | stop i => exact hfresh (Or.inr (Or.inr (Or.inr rfl)))
  | move i r =>
    cases hj : t.site.jobs.get i with
    | none => simpa [step, Site.step, observe, displays, hj] using h
    | some j =>
      cases hb : t.site.blocked j r with
      | true => simpa [step, Site.step, observe, displays, hj, hb] using h
      | false => exact h.moved hj hb hl
  | kill i => exact h.killed hl
  | edit content => exact hfiles _ rfl rfl rfl
  | provide present => exact hfiles _ rfl rfl rfl

end Watched

theorem activation_agreement (y : Reader) (env : Env) (d : Dir) (hash : Content → String)
    (names : String → Except String (List String)) (dev : Device)
    (hdev : Agree y env d hash dev.ledger.running dev.oxfile) (shown : Option String)
    (hshown : Shows y env d shown dev.oxfile) (acts : List SiteAction)
    (ha : Along (Watched.step y env d hash names) (Watched.Lands y env d hash names)
      ⟨Site.idle dev, none, shown⟩ acts) :
    let s := run (Site.step y env d hash names) (Site.idle dev) acts
    (∀ i, s.jobs.get i = none) → Agree y env d hash s.device.ledger.running s.device.oxfile := by
  intro s hquiet
  have hstart : Watched.Inv y env d hash ⟨Site.idle dev, none, shown⟩ := by
    refine ⟨⟨?_, ?_, ?_, ?_, ?_⟩, hshown, fun _ => hdev, nofun, ?_, ?_⟩
    · exact fun _ _ _ _ hi => (idle_nobody hi).elim
    · exact fun _ _ _ hi => (idle_nobody hi).elim
    · exact fun _ _ _ hi => (idle_nobody hi).elim
    · exact fun _ _ _ _ hi => (idle_nobody hi).elim
    · exact fun _ _ _ hi => (idle_nobody hi).elim
    · exact fun _ _ _ hi => (idle_nobody hi).elim
    · exact fun _ _ _ hi => (idle_nobody hi).elim
  have hinv := run_invariant hstart (fun t a ht hl => ht.stepped hl) ha
  have hsite : (run (Watched.step y env d hash names) ⟨Site.idle dev, none, shown⟩ acts).site = s :=
    run_hom Watched.site (fun _ _ => rfl) acts
  rw [← hsite]
  apply hinv.agree
  cases hw : (run (Watched.step y env d hash names) ⟨Site.idle dev, none, shown⟩ acts).writer with
  | none => rfl
  | some i =>
    obtain ⟨j, _, _, hj, _⟩ := hinv.wrote i hw
    rw [hsite, hquiet i] at hj
    cases hj

end Runs

/-- The last writer goes on with what it wrote, commits, or dies alone over a ledger without a
running row, and the boot pass read what the last writer wrote. -/
def Watched.goesOn (y : Reader) (env : Env) (d : Dir) (hash : Content → String)
    (names : String → Except String (List String)) (t : Watched) : SiteAction → Bool
  | .move i r =>
      match t.site.jobs.get i with
      | some j =>
          let m := j.move y env d hash names r t.site.device
          match j.phase with
          | .judging c =>
              (m.next.isOk ∧ j.written?.map Content.text = some c) ∨ t.writer ≠ some i
          | .bootSaving cfg _ => m.next.isOk ∧ t.shown = some cfg
          | .committing _ => m.effect ≠ .nothing
          | _ => m.next.isOk ∨ t.writer ≠ some i
      | none => true
  | .kill i =>
      t.writer ≠ some i ∨ (t.site.device.ledger.running = none ∧
        t.site.jobs.toList.all (fun e => e.1 = i || !e.2.phase.holdsLock))
  | _ => true

lemma Watched.lands_of_goesOn {y : Reader} {env : Env} {d : Dir} {hash : Content → String}
    {names : String → Except String (List String)} {t : Watched} {a : SiteAction}
    (h : Watched.goesOn y env d hash names t a = true) : t.Lands y env d hash names a := by
  cases a with
  | move i r =>
    intro j hj _
    simp only [Watched.goesOn, hj] at h
    refine ⟨fun hw => ⟨fun e he hq => ?_, fun c hp _ => ?_⟩, fun cfg l hp _ => ?_⟩
    · cases hp : j.phase <;> simp_all [Except.isOk, Except.toBool]
    · simp only [hp, hw, ne_eq, not_true, or_false, decide_eq_true_eq] at h
      exact h.2
    · simp only [hp, decide_eq_true_eq] at h
      exact ⟨cfg, h.2, rfl⟩
  | kill i =>
    intro j _ hw
    simp only [Watched.goesOn, hw, ne_eq, not_true, false_or, decide_eq_true_eq] at h
    obtain ⟨hnone, hall⟩ := h
    refine ⟨by simp [hnone], fun k jk hk hne => ?_⟩
    have hfree := List.all_eq_true.mp hall (k, jk) ((FiniteMap.mem_toList _ _ _).mpr hk)
    simpa [hne] using hfree
  | _ => trivial

def halfStarted : Device := bootedDevice { pendingApply := some ⟨cameraHash (.text oldYaml)⟩ }

def bootCommit : List SiteAction :=
  .restart 2 none :: ([default, default, listing cameraRoster, default, default, default] :
    List Reply).map (.move 2)

def bootedLedger : Ledger := bootCommitted halfStarted.ledger (cameraHash (.text oldYaml))

lemma run_bootCommit :
    run (Site.step cameraReader plainEnv optDir cameraHash cameraNames) (Site.idle halfStarted)
      bootCommit = Site.idle (bootedDevice bootedLedger) := by
  rfl

lemma watched_pushed :
    run (Watched.step cameraReader plainEnv optDir cameraHash cameraNames)
      ⟨Site.idle halfStarted, none, some oldYaml⟩ (bootCommit ++ pushed) =
      ⟨pushSite bootedLedger (.judging (.text newYaml)), some 1, some newYaml⟩ := by
  have hsite : (run (Watched.step cameraReader plainEnv optDir cameraHash cameraNames)
      ⟨Site.idle halfStarted, none, some oldYaml⟩ (bootCommit ++ pushed)).site =
      run (Site.step cameraReader plainEnv optDir cameraHash cameraNames) (Site.idle halfStarted)
        (bootCommit ++ pushed) := run_hom Watched.site (fun _ _ => rfl) _
  have hpushed : run (Site.step cameraReader plainEnv optDir cameraHash cameraNames)
      (Site.idle halfStarted) (bootCommit ++ pushed) =
      pushSite bootedLedger (.judging (.text newYaml)) := by
    rw [run_append, run_bootCommit, run_pushed]
  have hwriter : (run (Watched.step cameraReader plainEnv optDir cameraHash cameraNames)
      ⟨Site.idle halfStarted, none, some oldYaml⟩ (bootCommit ++ pushed)).writer = some 1 := by
    decide +kernel
  have hshown : (run (Watched.step cameraReader plainEnv optDir cameraHash cameraNames)
      ⟨Site.idle halfStarted, none, some oldYaml⟩ (bootCommit ++ pushed)).shown = some newYaml := by
    decide +kernel
  rw [← hpushed, ← hsite, ← hwriter, ← hshown]

theorem activation_agreement_changed :
    let s := run (Site.step cameraReader plainEnv optDir cameraHash cameraNames)
      (Site.idle halfStarted) (bootCommit ++ changed)
    s.device.ledger.running = some ⟨cameraHash (.text newYaml), "push", none⟩ ∧
      Agree cameraReader plainEnv optDir cameraHash s.device.ledger.running s.device.oxfile := by
  have hjob : (pushSite bootedLedger (.judging (.text newYaml))).jobs.get 1 =
      some (pushJobAt (.judging (.text newYaml))) := rfl
  have hmove : (pushJobAt (.judging (.text newYaml))).move cameraReader plainEnv optDir cameraHash
      cameraNames default (pushSite bootedLedger (.judging (.text newYaml))).device = _ :=
    move_pushed rfl
  have hgoes : Along (Watched.step cameraReader plainEnv optDir cameraHash cameraNames)
      (fun t a => Watched.goesOn cameraReader plainEnv optDir cameraHash cameraNames t a = true)
      ⟨Site.idle halfStarted, none, some oldYaml⟩ (bootCommit ++ changed) := by
    rw [changed, ← List.append_assoc, along_append, watched_pushed]
    refine ⟨by decide +kernel, ?_, ?_⟩
    · simp only [Watched.goesOn, hjob, hmove]
      rfl
    · rw [Watched.step_move hjob rfl, hmove]
      decide +kernel
  have hend : run (Site.step cameraReader plainEnv optDir cameraHash cameraNames)
      (Site.idle halfStarted) (bootCommit ++ changed) = Site.idle (changedDevice bootedLedger) := by
    rw [run_append, run_bootCommit, run_changed rfl]
  have hshown : Shows cameraReader plainEnv optDir (some oldYaml) halfStarted.oxfile := by
    rintro cfg hcfg
    cases hcfg
    exact ⟨_, oldYaml_rendered, rfl⟩
  have hagree : Agree cameraReader plainEnv optDir cameraHash halfStarted.ledger.running
      halfStarted.oxfile := by
    rintro r hr
    cases hr
  refine ⟨by rw [hend]; rfl, ?_⟩
  apply activation_agreement cameraReader plainEnv optDir cameraHash cameraNames halfStarted hagree
    (some oldYaml) hshown (bootCommit ++ changed) (hgoes.mono (fun t a h => Watched.lands_of_goesOn h))
  rw [hend]
  exact fun _ => FiniteMap.get_empty _

def interrupted : List SiteAction :=
  .push 1 ⟨newYaml, 1⟩ :: (List.replicate 4 (.move 1 default) ++ [.kill 1])

lemma run_interrupted :
    run (Site.step cameraReader plainEnv optDir cameraHash cameraNames) (Site.idle cameraDevice)
      (started ++ interrupted) =
    Site.idle { runningDevice with
      hostYaml := some (.text newYaml)
      oxfile := some (cameraOxfile newYaml)
      backups := [1] } := by
  rw [run_append, run_started]
  rfl

theorem activation_disagreement :
    ¬∀ (y : Reader) (env : Env) (d : Dir) (hash : Content → String)
      (names : String → Except String (List String)) (dev : Device),
      dev.ledger = {} → ∀ acts : List SiteAction,
        let s := run (Site.step y env d hash names) (Site.idle dev) acts
        (∀ i, s.jobs.get i = none) → Agree y env d hash s.device.ledger.running s.device.oxfile := by
  intro hall
  have h := hall cameraReader plainEnv optDir cameraHash cameraNames cameraDevice rfl
    (started ++ interrupted)
  rw [run_interrupted] at h
  obtain ⟨cfg, text, hhash, hr, ho⟩ := h (fun _ => FiniteMap.get_empty _) _ rfl
  rw [cameraHash_old hhash, oldYaml_rendered] at hr
  cases hr
  have hne : some (cameraOxfile newYaml) ≠ some (cameraOxfile oldYaml) := by decide +kernel
  exact hne ho

end MediaServo.Host
