import MediaServo.Host.ConfigJobs
import MediaServo.HostProofs.Tokens

/-! What a process on an instance directory can do in one step. -/

namespace MediaServo.Host

open MediaServo.Foundations

def Phase.run? : Phase → Option Run
  | .sweeping r | .staging r | .listing r | .tearing r _ | .verifying r | .residue r _ _
  | .preparing r | .activating r | .applying r | .refusing r _ _ | .reconciling r
  | .committing r => some r
  | _ => none

def Phase.restored? : Phase → Option Ledger
  | .recordSaving l => some l
  | ph => ph.run?.map Run.led

section Steps

variable (y : Reader) (env : Env) (d : Dir) (hash : Content → String)

inductive Steps (j : Job) (s : Device) : Effect → Except Ending Phase → Prop
  | failed (e : String) : Steps j s .nothing (.error (.failed e))
  | orphan (h : j.push = none) : Steps j s .nothing (.error .done)
  | accepted {p : Push} (h : j.phase = .received) (hp : j.push = some p)
      (hv : s.version < p.version) : Steps j s .nothing (.ok .backingUp)
  | copyFailed {p : Push} (e : String) (h : j.phase = .backingUp) (hp : j.push = some p) :
      Steps j s (.backup p.version) (.error (.failed e))
  | backedUp {p : Push} (h : j.phase = .backingUp) (hp : j.push = some p) :
      Steps j s (.backup p.version) (.ok .writingYaml)
  | wroteYaml {p : Push} (h : j.phase = .writingYaml) (hp : j.push = some p) :
      Steps j s (.writeYaml p.config) (.ok .writingOxfile)
  | wroteOxfile {p : Push} {text : String} (h : j.phase = .writingOxfile) (hp : j.push = some p)
      (hr : toOxfileInDir y env p.config d = .ok text) :
      Steps j s (.writeOxfile text) (.ok .queued)
  | acquired (h : j.phase = .queued) : Steps j s .nothing (.ok .locked)
  | read {c : Content} (h : j.phase = .locked) (hc : s.hostYaml = some c) :
      Steps j s .nothing (.ok (.judging c))
  | current {c : Content} (h : j.phase = .judging c)
      (hm : s.ledger.runningMatch (hash c) = true) :
      Steps j s .nothing (j.finish (.noOp (hash c)))
  | gateRefused {c : Content} (reason : String) (h : j.phase = .judging c) :
      Steps j s .nothing (.error (.outcome (.refused reason)))
  | gatesPassed {cfg rendered : String} (h : j.phase = .judging (.text cfg))
      (hr : toOxfileInDir y env cfg d = .ok rendered) :
      Steps j s .nothing (.ok (.sweeping ⟨hash (.text cfg), cfg, rendered, s.ledger⟩))
  | swept {r : Run} (h : j.phase = .sweeping r) : Steps j s .unstage (.ok (.staging r))
  | staged {r : Run} (h : j.phase = .staging r) :
      Steps j s (.stage r.rendered) (.ok (.listing r))
  | listed {r : Run} (targets : List String) (h : j.phase = .listing r) :
      Steps j s .nothing (.ok (.tearing r targets))
  | unlisted {r : Run} (reason : String) (h : j.phase = .listing r) :
      Steps j s .unstage (.error (.outcome (.refused reason)))
  | tore {r : Run} {n : String} {rest : List String} (h : j.phase = .tearing r (n :: rest)) :
      Steps j s .tearDown (.ok (.tearing r rest))
  | torn {r : Run} (h : j.phase = .tearing r []) : Steps j s .nothing (.ok (.verifying r))
  | clean {r : Run} (h : j.phase = .verifying r) : Steps j s .nothing (.ok (.preparing r))
  | dirty {r : Run} (detail : String) (survivors : List SurvivorInfo) (h : j.phase = .verifying r) :
      Steps j s .unstage (.ok (.residue r detail survivors))
  | residueSaved {r : Run} {detail : String} {survivors : List SurvivorInfo} (l : Ledger)
      (h : j.phase = .residue r detail survivors) (hrun : l.running = r.led.running)
      (hpush : l.lastPush = r.led.lastPush) (hflag : l.flags.conflict = r.led.flags.conflict) :
      Steps j s (.save l) (.error (.outcome (.residue survivors)))
  | prepared {r : Run} (l : Ledger) (h : j.phase = .preparing r)
      (hrun : l.running = r.led.running) (hpush : l.lastPush = r.led.lastPush)
      (hflag : l.flags.conflict = r.led.flags.conflict) :
      Steps j s (.save l) (.ok (.activating (r.save l)))
  | activated {r : Run} (h : j.phase = .activating r) : Steps j s .activate (.ok (.applying r))
  | applyRefused {r : Run} (reason result : String) (h : j.phase = .applying r) :
      Steps j s .nothing (.ok (.refusing r reason result))
  | applied {r : Run} (h : j.phase = .applying r) : Steps j s .nothing (.ok (.reconciling r))
  | refusalSaved {r : Run} {reason result : String} (l : Ledger)
      (h : j.phase = .refusing r reason result) (hrun : l.running = r.led.running)
      (hpush : l.lastPush = r.led.lastPush) (hflag : l.flags.conflict = r.led.flags.conflict) :
      Steps j s (.save l) (.error (.outcome (.refused reason)))
  | mismatched {r : Run} (reason result : String) (h : j.phase = .reconciling r) :
      Steps j s .nothing (.ok (.refusing r reason result))
  | reconciled {r : Run} (h : j.phase = .reconciling r) :
      Steps j s .nothing (.ok (.committing r))
  | committed {r : Run} (h : j.phase = .committing r) :
      Steps j s (.save (r.committed j.opts)) (j.finish (.applied r.hash))
  | stored {p : Push} (h : j.phase = .storing) (hp : j.push = some p) :
      Steps j s (.store p.version) (.ok .recordQueued)
  | recordAcquired (h : j.phase = .recordQueued) : Steps j s .nothing (.ok .recordReading)
  | recordRead {c : Content} (h : j.phase = .recordReading) (hc : s.hostYaml = some c) :
      Steps j s .nothing (.ok (.recordLoading (hash c)))
  | recordLoaded {k : String} (l : Ledger) (h : j.phase = .recordLoading k)
      (hl : l = { s.ledger with
        lastPush := some ⟨k, none⟩
        flags := { s.ledger.flags with conflict := s.ledger.running.any (fun r => r.hash ≠ k) } }) :
      Steps j s .nothing (.ok (.recordSaving l))
  | recorded {l : Ledger} (h : j.phase = .recordSaving l) : Steps j s (.save l) (.error .done)
  | bootAcquired (h : j.phase = .bootQueued) : Steps j s .nothing (.ok .bootReading)
  | bootRead {cfg : String} (h : j.phase = .bootReading) (hc : s.hostYaml = some (.text cfg)) :
      Steps j s .nothing (.ok (.bootChecking cfg))
  | bootChecked {cfg : String} (registry : List String) (h : j.phase = .bootChecking cfg) :
      Steps j s .nothing (.ok (.bootJudging cfg registry))
  | bootDeclined (h : (∃ cfg, j.phase = .bootChecking cfg) ∨
      ∃ cfg registry, j.phase = .bootJudging cfg registry) :
      Steps j s .nothing (.ok (.bootDeciding false))
  | bootMatched {cfg : String} {registry : List String} (h : j.phase = .bootJudging cfg registry) :
      Steps j s .nothing (.ok (.bootSaving cfg (bootCommitted s.ledger (hash (.text cfg)))))
  | bootSaved {cfg : String} {l : Ledger} (h : j.phase = .bootSaving cfg l) :
      Steps j s (.save l) (.ok (.bootDeciding true))
  | bootExecutes (h : j.phase = .bootDeciding false) : Steps j s .nothing (.ok .queued)
  | bootEnds {c : Content} {committed : Bool} (o : Outcome) (h : j.phase = .bootDeciding committed)
      (hc : s.hostYaml = some c)
      (ho : (committed = true ∧ o = .applied (hash c)) ∨
        (s.ledger.runningMatch (hash c) = true ∧ o = .noOp (hash c))) :
      Steps j s .nothing (.error (.outcome o))
  | stopTore (failed : Bool) (h : j.phase = .stopping) : Steps j s .tearDown (.ok (.stopSwept failed))
  | stopQuiet (failed : Bool) (h : j.phase = .stopping) : Steps j s .nothing (.ok (.stopSwept failed))
  | stopIdle {failed : Bool} (h : j.phase = .stopSwept failed) (hr : s.ledger.running = none) :
      Steps j s .nothing (.error .done)
  | stopLoaded {failed : Bool} (h : j.phase = .stopSwept failed) :
      Steps j s .nothing (.ok (.clearing { s.ledger with running := none }))
  | cleared {l : Ledger} (h : j.phase = .clearing l) : Steps j s (.save l) (.error .done)

variable {y env d hash} {names : String → Except String (List String)} {j : Job} {s : Device}
  {r : Reply}

/-- A step of a process as a move. -/
def Move.Within (m : Move) (y : Reader) (env : Env) (d : Dir) (hash : Content → String) (j : Job)
    (s : Device) : Prop :=
  Steps y env d hash j s m.effect m.next

lemma within_fail (e : String) : (Move.fail e).Within y env d hash j s := .failed e

lemma within_io {what : String} {m : Move} (h : m.Within y env d hash j s) :
    (Move.io r what m).Within y env d hash j s := by
  rw [Move.io]
  split
  · exact h
  · exact within_fail _

lemma pushMove_within {p : Push} (hp : j.push = some p)
    (hph : j.phase = .received ∨ j.phase = .backingUp ∨ j.phase = .writingYaml ∨
      j.phase = .writingOxfile ∨ j.phase = .storing) :
    (Job.pushMove y env d p r s j.phase).Within y env d hash j s := by
  rcases hph with h | h | h | h | h
  · rw [h, Job.pushMove]
    split_ifs with hv
    · exact within_fail _
    · split
      · exact within_fail _
      · exact .accepted h hp (not_le.mp hv)
  · rw [h, Job.pushMove]
    split
    · exact .backedUp h hp
    · split_ifs
      · exact .copyFailed _ h hp
      · exact within_fail _
    · exact within_fail _
  · rw [h, Job.pushMove]
    exact within_io (.wroteYaml h hp)
  · rw [h, Job.pushMove]
    split
    · exact within_fail _
    · split
      · exact within_fail _
      · split
        · exact within_fail _
        · rename_i hr
          exact within_io (.wroteOxfile h hp hr)
  · rw [h, Job.pushMove]
    exact .stored h hp

lemma judge_within {content : Content} (h : j.phase = .judging content) :
    (j.judge y env d hash r s content).Within y env d hash j s := by
  simp only [Job.judge]
  split_ifs with hskip
  · refine .current h ?_
    by_contra hm
    simp [shouldReconcile, hm] at hskip
  · cases content with
    | raw bytes => exact within_fail _
    | text cfg =>
      simp only [gates]
      cases validate y cfg with
      | error e => exact .gateRefused _ h
      | ok _ =>
        cases missingKeyFile y d s cfg with
        | some path => exact .gateRefused _ h
        | none =>
          cases hr : toOxfileInDir y env cfg d with
          | error e => exact within_fail _
          | ok rendered =>
            by_cases ht : missingTokens s rendered = []
            · simp only [ht, if_true]
              exact .gatesPassed h hr
            · simp only [ht, if_false]
              exact .gateRefused _ h

lemma verify_within {run : Run} (h : j.phase = .verifying run) :
    (j.verify env r run).Within y env d hash j s := by
  simp only [Job.verify]
  split_ifs
  · exact .clean h
  · exact .dirty _ _ h

lemma reconcile_within {run : Run} (h : j.phase = .reconciling run) :
    (Job.reconcile y env names r s run).Within y env d hash j s := by
  rw [Job.reconcile]
  split
  · split
    · exact .mismatched _ _ h
    · exact .reconciled h
  · exact within_fail _

lemma bootJudge_within {cfg : String} {registry : List String}
    (h : j.phase = .bootJudging cfg registry) :
    (Job.bootJudge y env hash names s cfg registry).Within y env d hash j s := by
  have hdecline : (Move.go (.bootDeciding false)).Within y env d hash j s :=
    .bootDeclined (Or.inr ⟨cfg, registry, h⟩)
  rw [Job.bootJudge]
  split_ifs
  · split
    · split
      · exact hdecline
      · exact .bootMatched h
    · exact hdecline
  · exact hdecline

lemma bootDecide_within {committed : Bool} (h : j.phase = .bootDeciding committed) :
    (Job.bootDecide y env hash r s committed).Within y env d hash j s := by
  rw [Job.bootDecide]
  split
  · exact within_fail _
  · rename_i hc
    simp only
    split_ifs with hcommitted hskip
    · exact .bootEnds _ h hc (Or.inl ⟨hcommitted, rfl⟩)
    · refine .bootEnds _ h hc (Or.inr ⟨?_, rfl⟩)
      by_contra hm
      simp [gateNeedsReconcile, shouldReconcile, hm] at hskip
    · rw [Bool.eq_false_iff.mpr hcommitted] at h
      exact .bootExecutes h

theorem move_within : (j.move y env d hash names r s).Within y env d hash j s := by
  have hpush : j.phase = .received ∨ j.phase = .backingUp ∨ j.phase = .writingYaml ∨
      j.phase = .writingOxfile ∨ j.phase = .storing →
      (j.move y env d hash names r s).Within y env d hash j s := by
    intro hph
    cases hp : j.push with
    | none =>
      have hmove : j.move y env d hash names r s = Move.stop .done := by
        rcases hph with h | h | h | h | h <;> simp only [Job.move, h, hp]
      rw [hmove]
      exact .orphan hp
    | some p =>
      have hmove : j.move y env d hash names r s = Job.pushMove y env d p r s j.phase := by
        rcases hph with h | h | h | h | h <;> simp only [Job.move, h, hp]
      rw [hmove]
      exact pushMove_within hp hph
  cases h : j.phase with
  | received => exact hpush (Or.inl h)
  | backingUp => exact hpush (Or.inr (Or.inl h))
  | writingYaml => exact hpush (Or.inr (Or.inr (Or.inl h)))
  | writingOxfile => exact hpush (Or.inr (Or.inr (Or.inr (Or.inl h))))
  | queued =>
    simp only [Job.move, h, Job.coreMove]
    exact within_io (.acquired h)
  | locked =>
    simp only [Job.move, h, Job.coreMove]
    cases hc : s.hostYaml with
    | some c => exact within_io (.read h hc)
    | none => exact within_fail _
  | judging c =>
    simp only [Job.move, h, Job.coreMove]
    exact judge_within h
  | sweeping run =>
    simp only [Job.move, h, Job.coreMove]
    exact .swept h
  | staging run =>
    simp only [Job.move, h, Job.coreMove]
    exact within_io (.staged h)
  | listing run =>
    simp only [Job.move, h, Job.coreMove]
    split
    · exact .listed _ h
    · exact .unlisted _ h
  | tearing run targets =>
    cases targets with
    | nil =>
      simp only [Job.move, h, Job.coreMove]
      exact .torn h
    | cons n rest =>
      simp only [Job.move, h, Job.coreMove]
      exact .tore h
  | verifying run =>
    simp only [Job.move, h, Job.coreMove]
    exact verify_within h
  | residue run detail survivors =>
    simp only [Job.move, h, Job.coreMove]
    exact within_io (.residueSaved _ h rfl rfl rfl)
  | preparing run =>
    simp only [Job.move, h, Job.coreMove]
    exact within_io (.prepared _ h rfl rfl rfl)
  | activating run =>
    simp only [Job.move, h, Job.coreMove]
    split
    · exact within_io (.activated h)
    · exact within_fail _
  | applying run =>
    simp only [Job.move, h, Job.coreMove]
    split
    · exact .applyRefused _ _ h
    · exact .applied h
  | refusing run reason result =>
    simp only [Job.move, h, Job.coreMove]
    exact within_io (.refusalSaved _ h rfl rfl rfl)
  | reconciling run =>
    simp only [Job.move, h, Job.coreMove]
    exact reconcile_within h
  | committing run =>
    simp only [Job.move, h, Job.coreMove]
    exact within_io (.committed h)
  | storing => exact hpush (Or.inr (Or.inr (Or.inr (Or.inr h))))
  | recordQueued =>
    simp only [Job.move, h, Job.recordMove]
    exact within_io (.recordAcquired h)
  | recordReading =>
    simp only [Job.move, h, Job.recordMove]
    cases hc : s.hostYaml with
    | some c => exact within_io (.recordRead h hc)
    | none => exact within_fail _
  | recordLoading k =>
    simp only [Job.move, h, Job.recordMove]
    exact .recordLoaded _ h rfl
  | recordSaving l =>
    simp only [Job.move, h, Job.recordMove]
    exact within_io (.recorded h)
  | bootQueued =>
    simp only [Job.move, h, Job.bootMove]
    exact within_io (.bootAcquired h)
  | bootReading =>
    simp only [Job.move, h, Job.bootMove]
    split
    · rename_i hc
      exact within_io (.bootRead h hc)
    · exact within_fail _
  | bootChecking cfg =>
    simp only [Job.move, h, Job.bootMove]
    split_ifs
    · exact .bootChecked _ h
    · exact .bootDeclined (Or.inl ⟨cfg, h⟩)
  | bootJudging cfg registry =>
    simp only [Job.move, h, Job.bootMove]
    exact bootJudge_within h
  | bootSaving cfg l =>
    simp only [Job.move, h, Job.bootMove]
    exact within_io (.bootSaved h)
  | bootDeciding committed =>
    simp only [Job.move, h, Job.bootMove]
    exact bootDecide_within h
  | stopping =>
    simp only [Job.move, h, Job.stopMove]
    split_ifs
    · exact .stopTore _ h
    · exact .stopQuiet _ h
  | stopSwept failed =>
    simp only [Job.move, h, Job.stopMove]
    split_ifs
    · exact within_fail _
    · cases hr : s.ledger.running with
      | none => exact .stopIdle h hr
      | some _ => exact .stopLoaded h
  | clearing l =>
    simp only [Job.move, h, Job.stopMove]
    exact within_io (.cleared h)

lemma finish_ok {o : Outcome} {ph : Phase} (h : j.finish o = .ok ph) : ph = .storing := by
  rw [Job.finish.eq_def] at h
  split at h
  · exact (Except.ok.inj h).symm
  · exact (Except.ok.inj h).symm
  · cases h

lemma Steps.holdsLock {e : Effect} {ph : Phase} (h : Steps y env d hash j s e (.ok ph))
    (hl : ph.holdsLock = true) : j.phase.holdsLock = true ∨ j.phase.awaitsLock = true := by
  generalize hn : (Except.ok ph : Except Ending Phase) = next at h
  cases h with
  | current h _ => simp [h, Phase.holdsLock]
  | committed h => simp [h, Phase.holdsLock]
  | bootDeclined h => rcases h with ⟨_, h⟩ | ⟨_, _, h⟩ <;> simp [h, Phase.holdsLock]
  | _ => first
    | (cases hn; done)
    | (cases hn; simp_all [Phase.holdsLock, Phase.awaitsLock])

lemma Steps.restored {e : Effect} {ph : Phase} {l : Ledger} (h : Steps y env d hash j s e (.ok ph))
    (hl : ph.restored? = some l) :
    l.running = s.ledger.running ∨ ∃ l', j.phase.restored? = some l' ∧ l.running = l'.running := by
  generalize hn : (Except.ok ph : Except Ending Phase) = next at h
  cases h with
  | current h _ =>
    rw [finish_ok hn.symm] at hl
    cases hl
  | committed h =>
    rw [finish_ok hn.symm] at hl
    cases hl
  | gatesPassed h _ =>
    cases hn
    cases hl
    exact Or.inl rfl
  | recordLoaded l' h hl' =>
    cases hn
    cases hl
    rw [hl']
    exact Or.inl rfl
  | prepared l' h hrun _ _ =>
    cases hn
    cases hl
    exact Or.inr ⟨_, by rw [h]; rfl, hrun⟩
  | _ => first
    | (cases hn; done)
    | (cases hn; simp_all [Phase.restored?, Phase.run?])

lemma Steps.saves {l : Ledger} {next : Except Ending Phase}
    (h : Steps y env d hash j s (.save l) next) :
    (∃ l', j.phase.restored? = some l' ∧ l.running = l'.running) ∨
      (∃ r, j.phase = .committing r ∧ l.running = some ⟨r.hash, j.opts.origin, j.opts.actor⟩) ∨
      (∃ cfg, j.phase = .bootSaving cfg l) ∨ j.phase = .clearing l := by
  generalize hs : Effect.save l = e at h
  cases h with
  | residueSaved l' h hrun _ _ =>
    cases hs
    exact Or.inl ⟨_, by rw [h]; rfl, hrun⟩
  | prepared l' h hrun _ _ =>
    cases hs
    exact Or.inl ⟨_, by rw [h]; rfl, hrun⟩
  | refusalSaved l' h hrun _ _ =>
    cases hs
    exact Or.inl ⟨_, by rw [h]; rfl, hrun⟩
  | committed h =>
    cases hs
    exact Or.inr (Or.inl ⟨_, h, rfl⟩)
  | recorded h =>
    cases hs
    exact Or.inl ⟨_, by rw [h]; rfl, rfl⟩
  | bootSaved h =>
    cases hs
    exact Or.inr (Or.inr (Or.inl ⟨_, h⟩))
  | cleared h =>
    cases hs
    exact Or.inr (Or.inr (Or.inr h))
  | _ => cases hs

lemma Steps.toClearing {e : Effect} {l : Ledger} (h : Steps y env d hash j s e (.ok (.clearing l))) :
    l = { s.ledger with running := none } := by
  generalize hn : (Except.ok (Phase.clearing l) : Except Ending Phase) = next at h
  cases h with
  | current h _ => cases finish_ok hn.symm
  | committed h => cases finish_ok hn.symm
  | stopLoaded h =>
    cases hn
    rfl
  | _ => cases hn

lemma ledger_of_quiet {e : Effect} (he : ∀ l, e ≠ .save l) : (e.apply s).ledger = s.ledger := by
  cases e with
  | save l => exact absurd rfl (he l)
  | _ => rfl

lemma io_of_acquired {ph : Phase} (ha : j.phase.awaitsLock = true)
    (h : (j.move y env d hash names r s).next = .ok ph) : r.io = none := by
  cases hio : r.io with
  | none => rfl
  | some e =>
    cases hp : j.phase <;> simp [hp, Phase.awaitsLock] at ha <;>
      simp [Job.move, hp, Job.coreMove, Job.recordMove, Job.bootMove, Move.io, hio, Move.fail,
        Move.stop] at h

end Steps

section Site

variable {y : Reader} {env : Env} {d : Dir} {hash : Content → String}
  {names : String → Except String (List String)} {s : Site} {i k : ℕ} {j : Job} {r : Reply}

lemma get_spawn {jn : Job} (h : (s.spawn i j).jobs.get k = some jn) :
    (k = i ∧ jn = j) ∨ s.jobs.get k = some jn := by
  rw [Site.spawn] at h
  split_ifs at h
  · exact Or.inr h
  · rw [FiniteMap.get_set] at h
    split_ifs at h with hk
    · exact Or.inl ⟨hk, (Option.some.inj h).symm⟩
    · exact Or.inr h

lemma spawn_device : (s.spawn i j).device = s.device := by
  rw [Site.spawn]
  split_ifs <;> rfl

lemma spawn_keeps {jk : Job} (hk : s.jobs.get k = some jk) : (s.spawn i j).jobs.get k = some jk := by
  rw [Site.spawn]
  split_ifs with hc
  · exact hk
  · rw [FiniteMap.get_set, if_neg]
    · exact hk
    · rintro rfl
      exact hc ((FiniteMap.contains_iff _ _).mpr ⟨jk, hk⟩)

lemma get_settle {m : Move} {jn : Job} (h : (s.settle i j m).jobs.get k = some jn) :
    (k = i ∧ ∃ ph, m.next = .ok ph ∧ jn = { j with phase := ph }) ∨
      (k ≠ i ∧ s.jobs.get k = some jn) := by
  simp only [Site.settle] at h
  split at h
  · rename_i ph hnext
    rw [FiniteMap.get_set] at h
    split_ifs at h with hk
    · exact Or.inl ⟨hk, ph, hnext, (Option.some.inj h).symm⟩
    · exact Or.inr ⟨hk, h⟩
  · rw [FiniteMap.get_remove] at h
    split_ifs at h with hk
    exact Or.inr ⟨hk, h⟩

lemma get_of_killed {jk : Job} (h : (s.jobs.remove i).get k = some jk) :
    k ≠ i ∧ s.jobs.get k = some jk := by
  rw [FiniteMap.get_remove] at h
  split_ifs at h with hki
  exact ⟨hki, h⟩

lemma settle_other {m : Move} (hk : k ≠ i) : (s.settle i j m).jobs.get k = s.jobs.get k := by
  simp only [Site.settle]
  split
  · exact FiniteMap.get_set_ne _ _ hk
  · exact FiniteMap.get_remove_ne _ hk

def OneHolder (s : Site) : Prop :=
  ∀ i k ji jk, s.jobs.get i = some ji → s.jobs.get k = some jk → ji.phase.holdsLock = true →
    jk.phase.holdsLock = true → i = k

lemma oneHolder_spawn (h : OneHolder s) (hj : j.phase.holdsLock = false) :
    OneHolder (s.spawn i j) := by
  intro a b ja jb ha hb hla hlb
  rcases get_spawn ha with ⟨rfl, rfl⟩ | ha
  · rw [hj] at hla
    cases hla
  · rcases get_spawn hb with ⟨rfl, rfl⟩ | hb
    · rw [hj] at hlb
      cases hlb
    · exact h a b ja jb ha hb hla hlb

lemma free_of_acquired (hb : s.blocked j r = false) (ha : j.phase.awaitsLock = true) {ph : Phase}
    (hn : (j.move y env d hash names r s.device).next = .ok ph) {jk : Job}
    (hk : s.jobs.get k = some jk) : jk.phase.holdsLock = false := by
  have hio := io_of_acquired ha hn
  have hfree : s.lockFree = true := by
    by_contra hf
    simp [Site.blocked, ha, hio, hf] at hb
  have := List.all_eq_true.mp hfree (k, jk) ((FiniteMap.mem_toList _ _ _).mpr hk)
  simpa using this

lemma oneHolder_settle (h : OneHolder s) (hj : s.jobs.get i = some j)
    (hb : s.blocked j r = false) :
    OneHolder (s.settle i j (j.move y env d hash names r s.device)) := by
  have hother : ∀ k jk ph, (j.move y env d hash names r s.device).next = .ok ph →
      ph.holdsLock = true → k ≠ i → s.jobs.get k = some jk → jk.phase.holdsLock = false := by
    intro k jk ph hn hl hne hk
    have hsteps : (j.move y env d hash names r s.device).Within y env d hash j s.device :=
      move_within
    rw [Move.Within, hn] at hsteps
    rcases hsteps.holdsLock hl with hheld | hwait
    · by_contra hkl
      exact hne (h k i jk j hk hj (Bool.of_not_eq_false hkl) hheld)
    · exact free_of_acquired hb hwait hn hk
  intro a b ja jb ha hb hla hlb
  rcases get_settle ha with ⟨rfl, ph, hn, rfl⟩ | ⟨hna, hga⟩
  · rcases get_settle hb with ⟨rfl, _⟩ | ⟨hnb, hgb⟩
    · rfl
    · rw [hother b jb ph hn hla hnb hgb] at hlb
      cases hlb
  · rcases get_settle hb with ⟨rfl, ph, hn, rfl⟩ | ⟨_, hgb⟩
    · rw [hother a ja ph hn hlb hna hga] at hla
      cases hla
    · exact h a b ja jb hga hgb hla hlb

end Site

def Site.idle (dev : Device) : Site := ⟨dev, ∅⟩

lemma idle_nobody {dev : Device} {i : ℕ} {j : Job} (h : (Site.idle dev).jobs.get i = some j) :
    False := by
  rw [Site.idle, FiniteMap.get_empty] at h
  cases h

section Alone

variable (y : Reader) (env : Env) (d : Dir) (hash : Content → String)
  (names : String → Except String (List String))

def Job.alone : List Reply → Job → Device → Device × Option Phase
  | [], j, s => (s, some j.phase)
  | r :: rs, j, s =>
      let m := j.move y env d hash names r s
      match m.next with
      | .ok ph => alone rs { j with phase := ph } (m.effect.apply s)
      | .error _ => (m.effect.apply s, none)

def Site.solo (i : ℕ) (j : Job) (t : Device × Option Phase) : Site :=
  match t.2 with
  | some ph => ⟨t.1, (∅ : FiniteMap ℕ Job).set i { j with phase := ph }⟩
  | none => Site.idle t.1

variable {y env d hash names} {i : ℕ} {j : Job} {dev : Device}

lemma run_idle (rs : List Reply) :
    run (Site.step y env d hash names) (Site.idle dev) (rs.map (SiteAction.move i)) =
      Site.idle dev := by
  induction rs with
  | nil => rfl
  | cons r rs ih => exact ih

lemma solo_unblocked (r : Reply) :
    (⟨dev, (∅ : FiniteMap ℕ Job).set i j⟩ : Site).blocked j r = false := by
  cases ha : j.phase.awaitsLock with
  | false => simp [Site.blocked, ha]
  | true =>
    have hfree : j.phase.holdsLock = false := by
      cases hp : j.phase <;> simp_all [Phase.awaitsLock, Phase.holdsLock]
    have hl : (⟨dev, (∅ : FiniteMap ℕ Job).set i j⟩ : Site).lockFree = true := by
      rw [Site.lockFree, List.all_eq_true]
      rintro ⟨k, jk⟩ hk
      rw [FiniteMap.mem_toList, FiniteMap.get_set] at hk
      split_ifs at hk
      · cases hk
        simp [hfree]
      · simp at hk
    simp [Site.blocked, hl]

lemma run_solo (rs : List Reply) :
    run (Site.step y env d hash names) ⟨dev, (∅ : FiniteMap ℕ Job).set i j⟩
        (rs.map (SiteAction.move i)) =
      Site.solo i j (j.alone y env d hash names rs dev) := by
  induction rs generalizing j dev with
  | nil => rfl
  | cons r rs ih =>
    rw [List.map_cons, run_cons]
    simp only [Site.step, FiniteMap.get_set_self, solo_unblocked, Bool.false_eq_true, if_false,
      Job.alone, Site.settle]
    cases hn : (j.move y env d hash names r dev).next with
    | ok ph =>
      simp only [FiniteMap.set_set]
      exact ih
    | error e =>
      simp only [FiniteMap.set_remove_self]
      exact run_idle rs

lemma run_exec {topo : Topology} {force : Bool} {opts : ExecuteOpts} (rs : List Reply) :
    run (Site.step y env d hash names) (Site.idle dev)
        (.exec i topo force opts :: rs.map (SiteAction.move i)) =
      Site.solo i (Site.execJob topo force opts)
        ((Site.execJob topo force opts).alone y env d hash names rs dev) :=
  run_solo rs

lemma run_push {p : Push} (rs : List Reply) :
    run (Site.step y env d hash names) (Site.idle dev) (.push i p :: rs.map (SiteAction.move i)) =
      Site.solo i (Site.pushJob p) ((Site.pushJob p).alone y env d hash names rs dev) :=
  run_solo rs

variable {r : Reply} {rs : List Reply} {cfg rendered : String}

lemma alone_queued {c : Content} (hp : j.phase = .queued) (hc : dev.hostYaml = some c) :
    j.alone y env d hash names (default :: default :: rs) dev =
      Job.alone y env d hash names rs { j with phase := .judging c } dev := by
  have hio : (default : Reply).io = none := rfl
  simp [Job.alone, Job.move, hp, Job.coreMove, Move.io, hio, hc, Move.go, Effect.apply]

lemma move_judging (hp : j.phase = .judging (.text cfg))
    (hm : dev.ledger.runningMatch (hash (.text cfg)) = false)
    (hg : gates y env d dev cfg = .ok rendered) :
    j.move y env d hash names r dev =
      .go (.sweeping ⟨hash (.text cfg), cfg, rendered, dev.ledger⟩) := by
  simp [Job.move, hp, Job.coreMove, Job.judge, shouldReconcile, hm, hg]

lemma alone_judging (hp : j.phase = .judging (.text cfg))
    (hm : dev.ledger.runningMatch (hash (.text cfg)) = false)
    (hg : gates y env d dev cfg = .ok rendered) :
    j.alone y env d hash names (r :: rs) dev =
      Job.alone y env d hash names rs
        { j with phase := .sweeping ⟨hash (.text cfg), cfg, rendered, dev.ledger⟩ } dev := by
  rw [Job.alone, move_judging hp hm hg]
  rfl

end Alone

section Camera

def oldYaml : String :=
  "sources:\n  - id: cam0\n    mode: camera\n    input: /dev/video0\nstreams:\n  - id: t1\n    source: cam0\n"

def newYaml : String := oldYaml ++ "signaling:\n  psk: secret\n"

def keyYaml : String := oldYaml ++ "control:\n  hmac_key_file: etc/control.key\n"

def cameraReader : Reader := fun cfg =>
  if cfg = oldYaml then .ok (oneCamera "cam0")
  else if cfg = newYaml then .ok { oneCamera "cam0" with signaling := some { psk := some "secret" } }
  else if cfg = keyYaml then
    .ok { oneCamera "cam0" with control := some { hmacKeyFile := some "etc/control.key" } }
  else .error "invalid type"

def cameraHash (c : Content) : String :=
  if c = .text oldYaml then "cff4462ae319a0af32a3a8cfd3b24b29e08e93e798fdaf5d5adfa443caaa7787"
  else if c = .text newYaml then "564918292c191c114169919c2b0de8f016b0ae5701dd94b3b86c96be14f07682"
  else if c = .text keyYaml then "9f17e48ad567dfb23e8e5ae5aeb43439d438aec07e8032d82570febf570caf4e"
  else ""

lemma cameraHash_old {cfg : String} (h : cameraHash (.text cfg) = cameraHash (.text oldYaml)) :
    cfg = oldYaml := by
  by_contra hne
  have hold : Content.text cfg ≠ .text oldYaml := fun hc => hne (Content.text.inj hc)
  simp only [cameraHash, if_neg hold] at h
  split_ifs at h <;> simp at h

def cameraRoster : List String :=
  ["host-agent", "host-recorder", "host-controller", "host-emergency", "host-audio",
    "host-capturer-cam0", "host-streamer-t1"]

def cameraNames : String → Except String (List String) := fun _ => .ok cameraRoster

def cameraOxfile (cfg : String) : String :=
  ((toOxfileInDir cameraReader plainEnv cfg optDir).toOption).getD ""

def cameraDevice : Device where
  hostYaml := some (.text oldYaml)
  present := tokenPaths (cameraOxfile oldYaml) ++ tokenPaths (cameraOxfile newYaml)

def listing (apps : List String) : Reply :=
  { answer := .ok (apps.map (fun n => ⟨n, "running", some "mediaservo-host"⟩)) }

lemma oldYaml_rendered :
    toOxfileInDir cameraReader plainEnv oldYaml optDir = .ok (cameraOxfile oldYaml) := by
  rfl

lemma newYaml_rendered :
    toOxfileInDir cameraReader plainEnv newYaml optDir = .ok (cameraOxfile newYaml) := by
  rfl

lemma missingTokens_nil {s : Device} (hs : s.present = cameraDevice.present) {cfg : String}
    (hcfg : cfg = oldYaml ∨ cfg = newYaml) : missingTokens s (cameraOxfile cfg) = [] := by
  rw [missingTokens, hs, List.filter_eq_nil_iff]
  intro p hp
  rcases hcfg with rfl | rfl <;> simp [cameraDevice, hp]

lemma oldYaml_gates {s : Device} (hs : s.present = cameraDevice.present) :
    gates cameraReader plainEnv optDir s oldYaml = .ok (cameraOxfile oldYaml) := by
  have hv : validate cameraReader oldYaml = .ok () := by rfl
  have hk : missingKeyFile cameraReader optDir s oldYaml = none := by rfl
  simp [gates, hv, hk, oldYaml_rendered, missingTokens_nil hs (Or.inl rfl)]

lemma newYaml_gates {s : Device} (hs : s.present = cameraDevice.present) :
    gates cameraReader plainEnv optDir s newYaml = .ok (cameraOxfile newYaml) := by
  have hv : validate cameraReader newYaml = .ok () := by rfl
  have hk : missingKeyFile cameraReader optDir s newYaml = none := by rfl
  simp [gates, hv, hk, newYaml_rendered, missingTokens_nil hs (Or.inr rfl)]

def startReplies : List Reply := List.replicate 11 default ++ [listing cameraRoster, default]

def runningDevice : Device :=
  { cameraDevice with
    oxfile := some (cameraOxfile oldYaml)
    ledger := { running := some ⟨cameraHash (.text oldYaml), "cli", none⟩
                history := [⟨cameraHash (.text oldYaml), "cli", none, "applied"⟩] } }

lemma alone_started :
    (Site.execJob .cliRun false ⟨"cli", none⟩).alone cameraReader plainEnv optDir cameraHash
      cameraNames startReplies cameraDevice = (runningDevice, none) := by
  have hm : cameraDevice.ledger.runningMatch (cameraHash (.text oldYaml)) = false := by rfl
  have hg : gates cameraReader plainEnv optDir cameraDevice oldYaml =
      .ok (cameraOxfile oldYaml) := oldYaml_gates rfl
  refine (alone_queued rfl rfl).trans ((alone_judging rfl hm hg).trans ?_)
  rw [runningDevice]
  generalize cameraOxfile oldYaml = rendered
  rfl

def started : List SiteAction :=
  .exec 0 .cliRun false ⟨"cli", none⟩ :: startReplies.map (.move 0)

lemma run_started :
    run (Site.step cameraReader plainEnv optDir cameraHash cameraNames) (Site.idle cameraDevice)
      started = Site.idle runningDevice := by
  rw [started, run_exec, alone_started]
  rfl

def repushReplies : List Reply :=
  List.replicate 6 default ++ listing cameraRoster :: List.replicate 5 default

def repushed : List SiteAction := .push 1 ⟨oldYaml, 1⟩ :: repushReplies.map (.move 1)

def pushed : List SiteAction :=
  .push 1 ⟨newYaml, 1⟩ :: (List.replicate 6 default).map (.move 1)

def commitReplies : List Reply :=
  List.replicate 3 default ++ listing cameraRoster :: List.replicate 11 default ++
    listing cameraRoster :: List.replicate 6 default

def changed : List SiteAction := pushed ++ commitReplies.map (.move 1)

def pushedDevice (l : Ledger) : Device :=
  { cameraDevice with
    hostYaml := some (.text newYaml)
    oxfile := some (cameraOxfile newYaml)
    backups := [1]
    ledger := l }

def pushJobAt (phase : Phase) : Job := { Site.pushJob ⟨newYaml, 1⟩ with phase := phase }

def pushSite (l : Ledger) (phase : Phase) : Site :=
  ⟨pushedDevice l, (∅ : FiniteMap ℕ Job).set 1 (pushJobAt phase)⟩

lemma move_pushed {l : Ledger} (hl : l.runningMatch (cameraHash (.text newYaml)) = false) :
    (pushJobAt (.judging (.text newYaml))).move cameraReader plainEnv optDir cameraHash cameraNames
        default (pushedDevice l) =
      .go (.sweeping ⟨cameraHash (.text newYaml), newYaml, cameraOxfile newYaml, l⟩) :=
  move_judging rfl hl (newYaml_gates rfl)

def bootedDevice (l : Ledger) : Device := { runningDevice with ledger := l }

lemma run_pushed (l : Ledger) :
    run (Site.step cameraReader plainEnv optDir cameraHash cameraNames) (Site.idle (bootedDevice l))
      pushed = pushSite l (.judging (.text newYaml)) := by
  rw [pushed, run_push]
  rfl

def changedDevice (l : Ledger) : Device :=
  { pushedDevice { l.commit ⟨cameraHash (.text newYaml), "push", none⟩ "applied" with
      lastPush := some ⟨cameraHash (.text newYaml), none⟩
      flags := { flagsAfterCommit ⟨cameraHash (.text newYaml), "push", none⟩ l.lastPush with
        conflict := false } } with
    version := 1 }

lemma run_changed {l : Ledger} (hl : l.runningMatch (cameraHash (.text newYaml)) = false) :
    run (Site.step cameraReader plainEnv optDir cameraHash cameraNames) (Site.idle (bootedDevice l))
      changed = Site.idle (changedDevice l) := by
  have hm : (pushedDevice l).ledger.runningMatch (cameraHash (.text newYaml)) = false := hl
  have hg : gates cameraReader plainEnv optDir (pushedDevice l) newYaml = .ok (cameraOxfile newYaml) :=
    newYaml_gates rfl
  have halone : (pushJobAt (.judging (.text newYaml))).alone cameraReader plainEnv optDir cameraHash
      cameraNames commitReplies (pushedDevice l) = (changedDevice l, none) := by
    refine (alone_judging rfl hm hg).trans ?_
    rw [changedDevice, pushedDevice, pushedDevice]
    generalize cameraOxfile newYaml = rendered
    rfl
  rw [changed, run_append, run_pushed, pushSite, run_solo, halone]
  rfl

end Camera

end MediaServo.Host
