import MediaServo.HostProofs.ConfigSteps

/-! What a rejected push leaves behind, and which version the agent reports. -/

namespace MediaServo.Host

open MediaServo.Foundations

lemma recover_backup (s : Device) (v : ℕ) :
    ((Effect.backup v).apply s).recoverConfigVersion = max v s.recoverConfigVersion := by
  simp only [Effect.apply, Device.recoverConfigVersion, List.foldl_cons]
  rw [Nat.max_comm, List.foldl_assoc]

section Atomicity

variable (y : Reader) (env : Env) (d : Dir) (rs : Fin 4 → Reply) (s : Device)

/-- Every rejection leaves host.yaml, the oxfile and the recovered version as they were. -/
def RejectsCleanly (msg : Common.SignalingMessage) : Prop :=
  ∀ s' e, handleConfigPush y env d rs s msg = (s', .error e) →
    s'.hostYaml = s.hostYaml ∧ s'.oxfile = s.oxfile ∧
      s'.recoverConfigVersion = s.recoverConfigVersion

/-- The push gets as far as a backup file of its own. -/
def LeavesBackup (p : Push) : Prop :=
  s.version < p.version ∧ validate y p.config = .ok () ∧ s.hostYaml ≠ none ∧
    ((rs 1).io = none ∨ (rs 1).partialCopy = true)

def ReplacesYaml (p : Push) : Prop :=
  LeavesBackup y rs s p ∧ (rs 1).io = none ∧ (rs 2).io = none

def Completes (p : Push) : Prop :=
  ReplacesYaml y rs s p ∧ missingKeyFile y d s p.config = none ∧
    (∃ text, toOxfileInDir y env p.config d = .ok text) ∧ (rs 3).io = none

variable {y env d rs s} {p : Push}

def pushPhases (rs : Fin 4 → Reply) : List (Phase × Reply) :=
  [(.received, rs 0), (.backingUp, rs 1), (.writingYaml, rs 2), (.writingOxfile, rs 3)]

lemma rejected_early (h : ¬LeavesBackup y rs s p) :
    ∃ e, runPhases y env d p (pushPhases rs) s = (s, .error e) := by
  by_cases hv : p.version ≤ s.version
  · simp [pushPhases, runPhases, Job.pushMove, hv, Move.fail, Move.stop, Effect.apply]
  · cases hval : validate y p.config with
    | error e => simp [pushPhases, runPhases, Job.pushMove, hv, hval, Move.fail, Move.stop, Effect.apply]
    | ok u =>
      cases hyaml : s.hostYaml with
      | none =>
        simp [pushPhases, runPhases, Job.pushMove, hv, hval, hyaml, Move.go, Move.fail, Move.stop,
          Effect.apply]
      | some c =>
        cases hio : (rs 1).io with
        | none => exact absurd ⟨not_le.mp hv, hval, by simp [hyaml], Or.inl hio⟩ h
        | some e =>
          have hp : (rs 1).partialCopy = false := by
            by_contra hp
            exact h ⟨not_le.mp hv, hval, by simp [hyaml], Or.inr (Bool.of_not_eq_false hp)⟩
          simp [pushPhases, runPhases, Job.pushMove, hv, hval, hyaml, hio, hp, Move.go, Effect.apply]

lemma rejected_backedUp (h : LeavesBackup y rs s p) (hr : ¬ReplacesYaml y rs s p) :
    ∃ e, runPhases y env d p (pushPhases rs) s =
      ((Effect.backup p.version).apply s, .error e) := by
  obtain ⟨hv, hval, hyaml, hcopy⟩ := h
  obtain ⟨c, hc⟩ := Option.ne_none_iff_exists'.mp hyaml
  cases hio : (rs 1).io with
  | some e =>
    have hp : (rs 1).partialCopy = true := by simpa [hio] using hcopy
    simp [pushPhases, runPhases, Job.pushMove, not_le.mpr hv, hval, hc, hio, hp, Move.go,
      Effect.apply]
  | none =>
    cases hio' : (rs 2).io with
    | none => exact absurd ⟨⟨hv, hval, hyaml, hcopy⟩, hio, hio'⟩ hr
    | some e =>
      simp [pushPhases, runPhases, Job.pushMove, not_le.mpr hv, hval, hc, hio, hio', Move.go, Move.io,
        Move.fail, Move.stop, Effect.apply]

lemma replaced (h : ReplacesYaml y rs s p) :
    runPhases y env d p (pushPhases rs) s =
      runPhases y env d p [(.writingOxfile, rs 3)]
        ((Effect.writeYaml p.config).apply ((Effect.backup p.version).apply s)) := by
  obtain ⟨⟨hv, hval, hyaml, _⟩, hio, hio'⟩ := h
  obtain ⟨c, hc⟩ := Option.ne_none_iff_exists'.mp hyaml
  simp [pushPhases, runPhases, Job.pushMove, not_le.mpr hv, hval, hc, hio, hio', Move.go, Move.io,
    Effect.apply]

lemma rejected_replaced (h : ReplacesYaml y rs s p) (hc : ¬Completes y env d rs s p) :
    ∃ e, runPhases y env d p (pushPhases rs) s =
      ((Effect.writeYaml p.config).apply ((Effect.backup p.version).apply s), .error e) := by
  have hkey : missingKeyFile y d ((Effect.writeYaml p.config).apply
      ((Effect.backup p.version).apply s)) p.config = missingKeyFile y d s p.config := rfl
  rw [replaced h]
  simp only [runPhases, Job.pushMove, h.1.2.1, hkey]
  cases hk : missingKeyFile y d s p.config with
  | some path => exact ⟨_, rfl⟩
  | none =>
    cases hr : toOxfileInDir y env p.config d with
    | error e => exact ⟨_, rfl⟩
    | ok text =>
      cases hio : (rs 3).io with
      | none => exact absurd ⟨h, hk, ⟨text, hr⟩, hio⟩ hc
      | some e =>
        simp only [Move.io, hio]
        exact ⟨_, rfl⟩

lemma completed (h : Completes y env d rs s p) :
    ∃ s', runPhases y env d p (pushPhases rs) s = (s', .ok ()) := by
  obtain ⟨hr, hk, ⟨text, ht⟩, hio⟩ := h
  have hkey : missingKeyFile y d ((Effect.writeYaml p.config).apply
      ((Effect.backup p.version).apply s)) p.config = none := hk
  rw [replaced hr]
  simp [runPhases, Job.pushMove, hr.1.2.1, hkey, ht, Move.io, hio]

lemma handleConfigPush_error {roomId target config : String} {version : ℕ} {actor : Option String}
    {s' : Device} {e : Ending} :
    handleConfigPush y env d rs s (.configPush roomId target config version actor) = (s', .error e) ↔
      runPhases y env d ⟨config, version⟩ (pushPhases rs) s = (s', .error e) := by
  simp only [handleConfigPush, pushPhases]
  split
  · rename_i t h
    simp [h]
  · rename_i t e' h
    simp [h]

theorem rejectsCleanly_iff (msg : Common.SignalingMessage) :
    RejectsCleanly y env d rs s msg ↔
      ∀ roomId target config version actor, msg = .configPush roomId target config version actor →
        LeavesBackup y rs s ⟨config, version⟩ → ¬Completes y env d rs s ⟨config, version⟩ →
        version ≤ s.recoverConfigVersion ∧
          (ReplacesYaml y rs s ⟨config, version⟩ → s.hostYaml = some (.text config)) := by
  constructor
  · rintro hclean roomId target config version actor rfl hb hc
    by_cases hr : ReplacesYaml y rs s ⟨config, version⟩
    · obtain ⟨e, he⟩ := rejected_replaced hr hc
      obtain ⟨hyaml, -, hrec⟩ := hclean _ e (handleConfigPush_error.2 he)
      have hmax : max version s.recoverConfigVersion = s.recoverConfigVersion :=
        (recover_backup s version).symm.trans hrec
      exact ⟨max_eq_right_iff.mp hmax, fun _ => hyaml.symm⟩
    · obtain ⟨e, he⟩ := rejected_backedUp hb hr
      obtain ⟨-, -, hrec⟩ := hclean _ e (handleConfigPush_error.2 he)
      rw [recover_backup] at hrec
      exact ⟨max_eq_right_iff.mp hrec, fun h => absurd h hr⟩
  · intro hcond s' e he
    cases msg with
    | configPush roomId target config version actor =>
      rw [handleConfigPush_error] at he
      by_cases hb : LeavesBackup y rs s ⟨config, version⟩
      · by_cases hc : Completes y env d rs s ⟨config, version⟩
        · obtain ⟨t, ht⟩ := completed hc
          rw [ht] at he
          cases he
        · obtain ⟨hv, hyaml⟩ := hcond roomId target config version actor rfl hb hc
          have hrec : ((Effect.backup version).apply s).recoverConfigVersion =
              s.recoverConfigVersion := (recover_backup s version).trans (max_eq_right hv)
          by_cases hr : ReplacesYaml y rs s ⟨config, version⟩
          · obtain ⟨e', he'⟩ := rejected_replaced hr hc
            rw [he'] at he
            cases he
            exact ⟨(hyaml hr).symm, rfl, hrec⟩
          · obtain ⟨e', he'⟩ := rejected_backedUp hb hr
            rw [he'] at he
            cases he
            exact ⟨rfl, rfl, hrec⟩
      · obtain ⟨e', he'⟩ := rejected_early hb
        rw [he'] at he
        cases he
        exact ⟨rfl, rfl, rfl⟩
    | _ =>
      cases he
      exact ⟨rfl, rfl, rfl⟩

end Atomicity

def Job.main (j : Job) : Bool := j.push.isSome || j.boot

def Job.tookUp (j : Job) (m : Move) (s : Device) : Option Content :=
  match j.phase with
  | .judging c =>
      match m.next with
      | .ok .storing => some c
      | .error (.outcome (.noOp _)) => some c
      | _ => none
  | .committing r => if m.effect = .nothing then none else some (.text r.cfg)
  | .bootSaving cfg _ => if m.effect = .nothing then none else some (.text cfg)
  | .bootDeciding _ =>
      match m.next with
      | .error (.outcome (.noOp _)) => s.hostYaml
      | _ => none
  | _ => none

def Phase.recording : Phase → Bool
  | .storing | .recordQueued | .recordReading | .recordLoading _ | .recordSaving _ => true
  | _ => false

/-- The processes on a device, with the version of the push that the agent took up last, the push
whose backup is made and whose configuration it has not taken up, and whether the agent is down. -/
@[ext]
structure Reported where
  site : Site
  taken : ℕ
  owed : Option Push
  down : Bool

section Versions

variable (y : Reader) (env : Env) (d : Dir) (hash : Content → String)
  (names : String → Except String (List String))

namespace Reported

def backedUp (t : Reported) (j : Job) (m : Move) : Option Push :=
  match m.effect with
  | .backup _ => j.push
  | _ => t.owed

def credit (t : Reported) (j : Job) (m : Move) : ℕ × Option Push :=
  match t.backedUp j m with
  | some p =>
      if j.main ∧ j.tookUp m t.site.device = some (.text p.config) then (p.version, none)
      else (t.taken, some p)
  | none => (t.taken, none)

def account (t : Reported) : SiteAction → ℕ × Option Push
  | .move i r =>
      match t.site.jobs.get i with
      | some j =>
          if t.site.blocked j r then (t.taken, t.owed)
          else t.credit j (j.move y env d hash names r t.site.device)
      | none => (t.taken, t.owed)
  | _ => (t.taken, t.owed)

def isDown (t : Reported) : SiteAction → Bool
  | .kill i => t.down || (t.site.jobs.get i).any (fun j => j.topo = .agentRun)
  | .restart i _ => t.down && !(t.site.agentGone && !t.site.jobs.contains i)
  | _ => t.down

def step (t : Reported) (a : SiteAction) : Reported :=
  ⟨t.site.step y env d hash names a, (t.account y env d hash names a).1,
    (t.account y env d hash names a).2, t.isDown a⟩

/-- A push reaches an agent that is up, and neither a push nor a boot pass ends while there is a
push that has its backup and has not been taken up. -/
def Honours (t : Reported) : SiteAction → Prop
  | .push _ _ => t.down = false
  | .move i r => ∀ j e, t.site.jobs.get i = some j → t.site.blocked j r = false → j.main = true →
      (j.move y env d hash names r t.site.device).next = .error e →
      (t.account y env d hash names (.move i r)).2 = none
  | _ => True

/-- What is known while a push is at a phase. -/
def Fits (t : Reported) (p : Push) : Phase → Prop
  | .received => t.owed = none ∧ t.site.device.version = t.taken
  | .backingUp =>
      t.owed = none ∧ t.site.device.version = t.taken ∧ t.site.device.version < p.version
  | .storing => t.owed = some p ∨ (t.owed = none ∧ t.taken = p.version)
  | .recordQueued | .recordReading | .recordLoading _ | .recordSaving _ =>
      t.site.device.version = p.version ∧
        (t.owed = some p ∨ (t.owed = none ∧ t.taken = p.version))
  | .bootQueued | .bootReading | .bootChecking _ | .bootJudging _ _ | .bootSaving _ _
  | .bootDeciding _ | .stopping | .stopSwept _ | .clearing _ => False
  | _ => t.owed = some p ∧ t.site.device.version = t.taken

structure Inv (t : Reported) : Prop where
  recover : t.site.device.recoverConfigVersion = (t.owed.map Push.version).getD t.taken
  one : ∀ i k ji jk, t.site.jobs.get i = some ji → t.site.jobs.get k = some jk → ji.main = true →
    jk.main = true → i = k
  agent : ∀ i j, t.site.jobs.get i = some j → j.main = true → j.topo = .agentRun
  push : ∀ i j p, t.site.jobs.get i = some j → j.push = some p → j.boot = false ∧ t.Fits p j.phase
  boot : ∀ i j, t.site.jobs.get i = some j → j.boot = true →
    t.site.device.version = t.site.device.recoverConfigVersion
  rest : t.down = false → (∀ i j, t.site.jobs.get i = some j → j.main = false) →
    t.owed = none ∧ t.site.device.version = t.taken

variable {y env d hash names} {t : Reported} {j : Job} {m : Move} {p : Push} {ph : Phase}

def after (t : Reported) (i : ℕ) (j : Job) (m : Move) : Reported :=
  ⟨t.site.settle i j m, (t.credit j m).1, (t.credit j m).2, t.down⟩

lemma backedUp_quiet (hb : ∀ v, m.effect ≠ .backup v) : t.backedUp j m = t.owed := by
  rw [backedUp]
  split
  · rename_i v h
    exact absurd h (hb v)
  · rfl

lemma credit_quiet (hb : ∀ v, m.effect ≠ .backup v) (ht : j.tookUp m t.site.device = none) :
    t.credit j m = (t.taken, t.owed) := by
  rw [credit, backedUp_quiet hb, ht]
  cases t.owed <;> simp

lemma credit_taking (ho : t.owed = some p) (hb : ∀ v, m.effect ≠ .backup v) :
    (t.credit j m).2 = some p ∨ ((t.credit j m).2 = none ∧ (t.credit j m).1 = p.version) := by
  rw [credit, backedUp_quiet hb, ho]
  dsimp only
  split_ifs
  · exact Or.inr ⟨rfl, rfl⟩
  · exact Or.inl rfl

lemma Fits.stepped {i : ℕ} (hf : t.Fits p j.phase) (hp : j.push = some p)
    (hs : m.Within y env d hash j t.site.device) (hn : m.next = .ok ph) :
    (t.after i j m).Fits p ph := by
  have hquiet := @credit_quiet t j m
  obtain ⟨e, next⟩ := m
  cases hn
  rw [Move.Within] at hs
  generalize hnext : (Except.ok ph : Except Ending Phase) = next at hs
  cases hs with
  | current h _ =>
    cases finish_ok hnext.symm
    rw [h] at hf
    exact credit_taking hf.1 (by simp)
  | committed h =>
    cases finish_ok hnext.symm
    rw [h] at hf
    exact credit_taking hf.1 (by simp)
  | backedUp h hp' =>
    cases hnext
    simp_all [Fits, after, credit, backedUp, Job.tookUp]
    exact hf.2.1
  | bootDeclined h => rcases h with ⟨_, h⟩ | ⟨_, _, h⟩ <;> simp [h, Fits] at hf
  | bootSaved h => simp [h, Fits] at hf
  | _ => first
    | (cases hnext; done)
    | -- nothing is backed up or taken up
      (cases hnext
       have hcredit := hquiet (by simp) (by simp_all [Job.tookUp])
       simp_all [Fits, after, Site.settle, Effect.apply])

lemma Fits.ended {e : Ending} (hf : t.Fits p j.phase) (hp : j.push = some p)
    (hs : m.Within y env d hash j t.site.device) (hn : m.next = .error e)
    (hstore : j.phase ≠ .storing) (howed : (t.credit j m).2 = none) :
    (m.effect.apply t.site.device).version = (t.credit j m).1 := by
  have hquiet := @credit_quiet t j m
  obtain ⟨f, next⟩ := m
  cases hn
  rw [Move.Within] at hs
  generalize hnext : (Except.error e : Except Ending Phase) = next at hs
  cases hs with
  | failed e' =>
    cases hnext
    have hnone : j.tookUp ⟨.nothing, .error (.failed e')⟩ t.site.device = none := by
      cases h : j.phase <;> simp [Job.tookUp, h]
    have hcredit := hquiet (by simp) hnone
    cases h : j.phase <;> simp_all [Fits, Effect.apply]
  | copyFailed e' h hp' =>
    cases hnext
    simp_all [credit, backedUp, Job.tookUp]
  | current h _ => simp [hp] at hnext
  | committed h => simp [hp] at hnext
  | _ => first
    | (cases hnext; done)
    | (cases hnext
       simp_all [Fits]
       done)
    | (cases hnext
       have hcredit := hquiet (by simp) (by simp_all [Job.tookUp])
       simp_all [Fits, Effect.apply])

lemma backups_of_quiet {e : Effect} {s : Device} (he : ∀ v, e ≠ .backup v) :
    (e.apply s).recoverConfigVersion = s.recoverConfigVersion := by
  cases e with
  | backup v => exact absurd rfl (he v)
  | _ => rfl

lemma backup_by {v : ℕ} (hs : m.Within y env d hash j t.site.device) (he : m.effect = .backup v) :
    j.phase = .backingUp ∧ ∃ p, j.push = some p ∧ v = p.version := by
  rw [Move.Within, he] at hs
  generalize hn : m.next = next at hs
  cases hs with
  | copyFailed e h hp => exact ⟨h, _, hp, rfl⟩
  | backedUp h hp => exact ⟨h, _, hp, rfl⟩

lemma quiet_of_pushless (hs : m.Within y env d hash j t.site.device) (hp : j.push = none) :
    (m.effect.apply t.site.device).recoverConfigVersion =
      t.site.device.recoverConfigVersion ∧
    (m.effect.apply t.site.device).version = t.site.device.version := by
  rw [Move.Within] at hs
  generalize m.effect = e at hs
  generalize m.next = next at hs
  cases hs <;> first | exact ⟨rfl, rfl⟩ | simp_all

lemma Inv.frame {t' : Reported} (h : Inv t)
    (hrec : t'.site.device.recoverConfigVersion = t.site.device.recoverConfigVersion)
    (hver : t'.site.device.version = t.site.device.version) (htaken : t'.taken = t.taken)
    (howed : t'.owed = t.owed) (hdown : t'.down = false → t.down = false)
    (hjobs : ∀ i j, t'.site.jobs.get i = some j → j.main = true → t.site.jobs.get i = some j)
    (hkeep : t'.down = false → ∀ i j, t.site.jobs.get i = some j → j.main = true →
      t'.site.jobs.get i = some j) : Inv t' := by
  have hfits : ∀ p ph, t'.Fits p ph = t.Fits p ph := by
    intro p ph
    cases ph <;> simp only [Fits, hver, htaken, howed]
  refine ⟨?_, ?_, ?_, ?_, ?_, ?_⟩
  · rw [hrec, htaken, howed]
    exact h.recover
  · intro i k ji jk hi hk hmi hmk
    exact h.one i k ji jk (hjobs i ji hi hmi) (hjobs k jk hk hmk) hmi hmk
  · intro i j hj hm
    exact h.agent i j (hjobs i j hj hm) hm
  · intro i j p hj hp
    have hm : j.main = true := by simp [Job.main, hp]
    obtain ⟨hb, hf⟩ := h.push i j p (hjobs i j hj hm) hp
    exact ⟨hb, (hfits p _).mpr hf⟩
  · intro i j hj hb
    have hm : j.main = true := by simp [Job.main, hb]
    rw [hver, hrec]
    exact h.boot i j (hjobs i j hj hm) hb
  · intro hd hnone
    rw [howed, hver, htaken]
    apply h.rest (hdown hd)
    intro i j hj
    by_contra hm
    exact hm (hnone i j (hkeep hd i j hj (Bool.of_not_eq_false hm)))

lemma Inv.credited {i : ℕ} (h : Inv t) (hj : t.site.jobs.get i = some j)
    (hs : m.Within y env d hash j t.site.device) :
    (m.effect.apply t.site.device).recoverConfigVersion =
      ((t.credit j m).2.map Push.version).getD (t.credit j m).1 := by
  by_cases hb : ∃ v, m.effect = .backup v
  · obtain ⟨v, hv⟩ := hb
    obtain ⟨hph, p, hp, rfl⟩ := backup_by hs hv
    obtain ⟨-, hf⟩ := h.push i j p hj hp
    rw [hph] at hf
    obtain ⟨ho, hver, hlt⟩ := hf
    have hcredit : t.credit j m = (t.taken, some p) := by
      simp [credit, backedUp, hv, hp, Job.tookUp, hph]
    have hrec : t.site.device.recoverConfigVersion = t.taken := by
      rw [h.recover, ho]
      rfl
    rw [hcredit, hv, recover_backup, hrec]
    simp only [Option.map_some, Option.getD_some]
    omega
  · have hquiet : ∀ v, m.effect ≠ .backup v := fun v hv => hb ⟨v, hv⟩
    rw [backups_of_quiet hquiet, h.recover, credit, backedUp_quiet hquiet]
    cases t.owed with
    | none => rfl
    | some p =>
      dsimp only
      split_ifs <;> rfl

lemma storing_goes {r : Reply} {e : Ending} (hp : j.push = some p) (h : j.phase = .storing) :
    (j.move y env d hash names r t.site.device).next ≠ .error e := by
  simp [Job.move, h, hp, Job.pushMove]

lemma Inv.moved {i : ℕ} {r : Reply} (h : Inv t) (hj : t.site.jobs.get i = some j)
    (hmain : j.main = true)
    (hm : m = j.move y env d hash names r t.site.device)
    (hend : ∀ e, m.next = .error e → (t.credit j m).2 = none) : Inv (t.after i j m) := by
  have hs : m.Within y env d hash j t.site.device := hm ▸ move_within
  have hother : ∀ k jk, k ≠ i → t.site.jobs.get k = some jk → jk.main = false := by
    intro k jk hne hk
    by_contra hkm
    exact hne (h.one k i jk j hk hj (Bool.of_not_eq_false hkm) hmain)
  have hself : ∀ k jk, (t.after i j m).site.jobs.get k = some jk → jk.main = true →
      k = i ∧ ∃ ph, m.next = .ok ph ∧ jk = { j with phase := ph } := by
    intro k jk hk hkm
    rcases get_settle hk with hk | ⟨hne, hk⟩
    · exact hk
    · rw [hother k jk hne hk] at hkm
      cases hkm
  refine ⟨h.credited hj hs, ?_, ?_, ?_, ?_, ?_⟩
  · intro a b ja jb ha hb hma hmb
    exact (hself a ja ha hma).1.trans (hself b jb hb hmb).1.symm
  · intro k jk hk hkm
    obtain ⟨rfl, ph, -, rfl⟩ := hself k jk hk hkm
    exact h.agent k j hj hmain
  · intro k jk p hk hp
    obtain ⟨rfl, ph, hn, rfl⟩ := hself k jk hk (by simp [Job.main, hp])
    obtain ⟨hb, hf⟩ := h.push k j p hj hp
    exact ⟨hb, hf.stepped hp hs hn⟩
  · intro k jk hk hb
    obtain ⟨rfl, ph, hn, rfl⟩ := hself k jk hk (by simp [Job.main, hb])
    have hp : j.push = none := by
      by_contra hp
      obtain ⟨p, hp⟩ := Option.ne_none_iff_exists'.mp hp
      have hboot : j.boot = true := hb
      rw [(h.push k j p hj hp).1] at hboot
      cases hboot
    obtain ⟨hrec, hver⟩ := quiet_of_pushless hs hp
    exact hver.trans ((h.boot k j hj hb).trans hrec.symm)
  · intro hd hnone
    cases hn : m.next with
    | ok ph =>
      have hget : (t.after i j m).site.jobs.get i = some { j with phase := ph } := by
        simp [after, Site.settle, hn]
      have := hnone i _ hget
      rw [show ({ j with phase := ph } : Job).main = j.main from rfl, hmain] at this
      cases this
    | error e =>
      have howed := hend e hn
      refine ⟨howed, ?_⟩
      change (m.effect.apply t.site.device).version = (t.credit j m).1
      cases hp : j.push with
      | some p =>
        obtain ⟨-, hf⟩ := h.push i j p hj hp
        refine hf.ended hp hs hn (fun hst => ?_) howed
        rw [hm] at hn
        exact storing_goes hp hst hn
      | none =>
        have hboot : j.boot = true := by simpa [Job.main, hp] using hmain
        obtain ⟨hrec, hver⟩ := quiet_of_pushless hs hp
        have hcredit := h.credited hj hs
        rw [howed] at hcredit
        rw [hver, h.boot i j hj hboot, ← hrec, hcredit]
        rfl

lemma Inv.bystander {i : ℕ} (h : Inv t) (hj : t.site.jobs.get i = some j) (hmain : j.main = false)
    (hs : m.Within y env d hash j t.site.device) : Inv (t.after i j m) := by
  have hp : j.push = none := by simpa [Job.main] using (Bool.or_eq_false_iff.mp hmain).1
  obtain ⟨hrec, hver⟩ := quiet_of_pushless hs hp
  have hcredit : t.credit j m = (t.taken, t.owed) := by
    have hquiet : ∀ v, m.effect ≠ .backup v := by
      intro v hv
      obtain ⟨-, p, hp', -⟩ := backup_by hs hv
      simp [hp] at hp'
    rw [credit, backedUp_quiet hquiet]
    cases t.owed <;> simp [hmain]
  refine h.frame hrec hver (by rw [after, hcredit]) (by rw [after, hcredit]) id ?_ ?_
  · intro k jk hk hkm
    rcases get_settle hk with ⟨rfl, ph, -, rfl⟩ | ⟨-, hk⟩
    · rw [show ({ j with phase := ph } : Job).main = j.main from rfl, hmain] at hkm
      cases hkm
    · exact hk
  · intro _ k jk hk hkm
    have hne : k ≠ i := by
      rintro rfl
      rw [hj] at hk
      cases hk
      rw [hmain] at hkm
      cases hkm
    exact (settle_other hne).trans hk

lemma no_main_of_pushable (h : t.site.pushable = true) {i : ℕ} (hj : t.site.jobs.get i = some j) :
    j.main = false := by
  have := List.all_eq_true.mp h (i, j) ((FiniteMap.mem_toList _ _ _).mpr hj)
  simpa [Job.main] using this

lemma Inv.entered {i : ℕ} {jn : Job} {dev : Device} {down : Bool} (h : Inv t)
    (hnone : ∀ k jk, t.site.jobs.get k = some jk → jk.main = false)
    (hrec : dev.recoverConfigVersion = t.site.device.recoverConfigVersion) (hmain : jn.main = true)
    (htopo : jn.topo = .agentRun)
    (hpush : ∀ p, jn.push = some p → jn.boot = false ∧
      Fits ⟨⟨dev, t.site.jobs.set i jn⟩, t.taken, t.owed, down⟩ p jn.phase)
    (hboot : jn.boot = true → dev.version = dev.recoverConfigVersion) :
    Inv ⟨⟨dev, t.site.jobs.set i jn⟩, t.taken, t.owed, down⟩ := by
  have hself : ∀ k jk, (t.site.jobs.set i jn).get k = some jk → jk.main = true →
      k = i ∧ jk = jn := by
    intro k jk hk hkm
    rw [FiniteMap.get_set] at hk
    split_ifs at hk with hki
    · exact ⟨hki, (Option.some.inj hk).symm⟩
    · rw [hnone k jk hk] at hkm
      cases hkm
  refine ⟨hrec.trans h.recover, ?_, ?_, ?_, ?_, ?_⟩
  · intro a b ja jb ha hb hma hmb
    exact (hself a ja ha hma).1.trans (hself b jb hb hmb).1.symm
  · intro k jk hk hkm
    rw [(hself k jk hk hkm).2]
    exact htopo
  · intro k jk q hk hq
    have hkn := (hself k jk hk (by simp [Job.main, hq])).2
    rw [hkn] at hq ⊢
    exact hpush q hq
  · intro k jk hk hb
    rw [(hself k jk hk (by simp [Job.main, hb])).2] at hb
    exact hboot hb
  · intro _ hall
    rw [hall i jn (FiniteMap.get_set_self _ _ _)] at hmain
    cases hmain

lemma Inv.spawned {i : ℕ} {jn : Job} (h : Inv t) (hm : jn.main = false) :
    Inv { t with site := t.site.spawn i jn } := by
  refine h.frame (by rw [spawn_device]) (by rw [spawn_device]) rfl rfl id ?_ ?_
  · intro k jk hk hkm
    rcases get_spawn hk with ⟨-, rfl⟩ | hk
    · rw [hm] at hkm
      cases hkm
    · exact hk
  · exact fun _ k jk hk _ => spawn_keeps hk

lemma Inv.killed {i : ℕ} (h : Inv t) : Inv (t.step y env d hash names (.kill i)) := by
  refine h.frame rfl rfl rfl rfl ?_ ?_ ?_
  · intro hd
    exact (Bool.or_eq_false_iff.mp hd).1
  · intro k jk hk _
    exact (get_of_killed hk).2
  · intro hd k jk hk hkm
    have hki : k ≠ i := by
      rintro rfl
      have hany := (Bool.or_eq_false_iff.mp hd).2
      simp [hk, h.agent k jk hk hkm] at hany
    exact (FiniteMap.get_remove_ne _ hki).trans hk

lemma no_main_of_agentGone (h : Inv t) (hg : t.site.agentGone = true) {i : ℕ}
    (hj : t.site.jobs.get i = some j) : j.main = false := by
  by_contra hm
  have := List.all_eq_true.mp hg (i, j) ((FiniteMap.mem_toList _ _ _).mpr hj)
  simp [h.agent i j hj (Bool.of_not_eq_false hm)] at this

lemma Inv.restarted {i : ℕ} {actor : Option String} (h : Inv t) :
    Inv (t.step y env d hash names (.restart i actor)) := by
  simp only [step, Site.step, account, isDown]
  split_ifs with hg
  · have hnone : ∀ k jk, t.site.jobs.get k = some jk → jk.main = false :=
      fun k jk hk => no_main_of_agentGone h hg hk
    simp only [Site.spawn]
    split_ifs with hc
    · -- the number is in use: the agent comes up without a boot pass of its own
      simp only [hg, hc, Bool.not_true, Bool.and_false, Bool.not_false, Bool.and_true]
      refine ⟨h.recover, h.one, h.agent, ?_, ?_, ?_⟩
      · intro k jk q hk hq
        have := hnone k jk hk
        simp [Job.main, hq] at this
      · exact fun _ _ _ _ => rfl
      · intro hd _
        obtain ⟨ho, -⟩ := h.rest hd hnone
        refine ⟨ho, ?_⟩
        have hrec := h.recover
        rw [ho] at hrec
        exact hrec
    · exact h.entered hnone rfl rfl rfl (by rintro _ ⟨⟩) (fun _ => rfl)
  · simpa [hg] using h

lemma step_move {i : ℕ} {r : Reply} (hj : t.site.jobs.get i = some j)
    (hb : t.site.blocked j r = false) :
    t.step y env d hash names (.move i r) =
      t.after i j (j.move y env d hash names r t.site.device) := by
  simp [step, Site.step, account, isDown, hj, hb, after]

lemma Inv.stepped (h : Inv t) {a : SiteAction} (ha : t.Honours y env d hash names a) :
    Inv (t.step y env d hash names a) := by
  cases a with
  | push i q =>
    simp only [step, Site.step, account, isDown]
    split_ifs with hq
    · have hnone : ∀ k jk, t.site.jobs.get k = some jk → jk.main = false :=
        fun k jk hk => no_main_of_pushable hq hk
      obtain ⟨ho, hver⟩ := h.rest ha hnone
      rw [Site.spawn]
      split_ifs
      · exact h
      · refine h.entered hnone rfl rfl rfl (fun p hp => ?_) (by rintro ⟨⟩)
        exact ⟨rfl, ho, hver⟩
    · exact h
  | exec i topo force opts => exact h.spawned rfl
  | restart i actor => exact h.restarted
  | stop i => exact h.spawned rfl
  | move i r =>
    cases hj : t.site.jobs.get i with
    | none => simpa [step, Site.step, account, isDown, hj] using h
    | some j =>
      cases hb : t.site.blocked j r with
      | true => simpa [step, Site.step, account, isDown, hj, hb] using h
      | false =>
        rw [step_move hj hb]
        cases hmain : j.main with
        | false => exact h.bystander hj hmain move_within
        | true =>
          refine h.moved hj hmain rfl (fun e he => ?_)
          have := ha j e hj hb hmain he
          simpa [account, hj, hb] using this
  | kill i => exact h.killed
  | edit content => exact h.frame rfl rfl rfl rfl id (fun _ _ hk _ => hk) (fun _ _ _ hk _ => hk)
  | provide present => exact h.frame rfl rfl rfl rfl id (fun _ _ hk _ => hk) (fun _ _ _ hk _ => hk)

lemma Inv.version_eq (h : Inv t) (hd : t.down = false)
    (hj : ∀ i j, t.site.jobs.get i = some j → j.boot = false ∧ j.phase.recording = false) :
    t.site.device.version = t.taken := by
  by_cases hmain : ∃ i j, t.site.jobs.get i = some j ∧ j.main = true
  · obtain ⟨i, j, hget, hm⟩ := hmain
    obtain ⟨hboot, hrec⟩ := hj i j hget
    obtain ⟨p, hp⟩ : ∃ p, j.push = some p := by
      rw [← Option.isSome_iff_exists]
      simpa [Job.main, hboot] using hm
    obtain ⟨-, hf⟩ := h.push i j p hget hp
    cases hph : j.phase <;> simp_all [Fits, Phase.recording]
  · refine (h.rest hd (fun i j hget => ?_)).2
    by_contra hm
    exact hmain ⟨i, j, hget, Bool.of_not_eq_false hm⟩

def start (dev : Device) : Reported := ⟨Site.idle dev, dev.recoverConfigVersion, none, true⟩

lemma start_inv (dev : Device) : Inv (start dev) := by
  refine ⟨rfl, ?_, ?_, ?_, ?_, nofun⟩
  · exact fun _ _ _ _ hi => (idle_nobody hi).elim
  · exact fun _ _ hi => (idle_nobody hi).elim
  · exact fun _ _ _ hi => (idle_nobody hi).elim
  · exact fun _ _ hi => (idle_nobody hi).elim

end Reported

theorem config_push_honest (y : Reader) (env : Env) (d : Dir) (hash : Content → String)
    (names : String → Except String (List String)) :
    (∀ rs s msg, RejectsCleanly y env d rs s msg ↔
      ∀ roomId target config version actor, msg = .configPush roomId target config version actor →
        LeavesBackup y rs s ⟨config, version⟩ → ¬Completes y env d rs s ⟨config, version⟩ →
        version ≤ s.recoverConfigVersion ∧
          (ReplacesYaml y rs s ⟨config, version⟩ → s.hostYaml = some (.text config))) ∧
    ∀ (dev : Device) (acts : List SiteAction),
      Along (Reported.step y env d hash names) (Reported.Honours y env d hash names)
        (Reported.start dev) acts →
      let s := run (Site.step y env d hash names) (Site.idle dev) acts
      let t := run (Reported.step y env d hash names) (Reported.start dev) acts
      t.down = false →
        ((∀ i j, s.jobs.get i = some j → j.boot = false ∧ j.phase.recording = false) →
          s.device.version = t.taken) ∧
        ((∀ i j, s.jobs.get i = some j → j.main = false) →
          s.device.recoverConfigVersion = t.taken) := by
  refine ⟨fun rs s msg => rejectsCleanly_iff msg, ?_⟩
  intro dev acts ha s t hdown
  have hinv : t.Inv := run_invariant (Reported.start_inv dev) (fun t a h ha => h.stepped ha) ha
  have hsite : t.site = s := run_hom Reported.site (fun _ _ => rfl) acts
  rw [← hsite]
  refine ⟨hinv.version_eq hdown, fun hnone => ?_⟩
  rw [hinv.recover, (hinv.rest hdown hnone).1]
  rfl

end Versions

def Reported.honoured (y : Reader) (env : Env) (d : Dir) (hash : Content → String)
    (names : String → Except String (List String)) (t : Reported) : SiteAction → Bool
  | .push _ _ => !t.down
  | .move i r =>
      (t.account y env d hash names (.move i r)).2.isNone ||
        (t.site.jobs.get i).all (fun j => (j.move y env d hash names r t.site.device).next.isOk)
  | _ => true

lemma Reported.honours_of_honoured {y : Reader} {env : Env} {d : Dir} {hash : Content → String}
    {names : String → Except String (List String)} {t : Reported} {a : SiteAction}
    (h : t.honoured y env d hash names a = true) : t.Honours y env d hash names a := by
  cases a with
  | push i p =>
    rw [honoured, Bool.not_eq_true'] at h
    exact h
  | move i r =>
    intro j e hj _ _ he
    simpa [honoured, hj, he, Except.isOk, Except.toBool] using h
  | _ => trivial

lemma Reported.honoured_of_ok {y : Reader} {env : Env} {d : Dir} {hash : Content → String}
    {names : String → Except String (List String)} {t : Reported} {i : ℕ} {j : Job} {r : Reply}
    (hj : t.site.jobs.get i = some j)
    (hok : (j.move y env d hash names r t.site.device).next.isOk = true) :
    t.honoured y env d hash names (.move i r) = true := by
  simp [honoured, hj, hok]

def booted (i : ℕ) : List SiteAction :=
  .restart i none ::
    (List.replicate 3 (SiteAction.move i default) ++
      ([.move i (listing cameraRoster)] : List SiteAction))

lemma run_booted :
    run (Site.step cameraReader plainEnv optDir cameraHash cameraNames) (Site.idle runningDevice)
      (booted 0) = Site.idle (bootedDevice runningDevice.ledger) := by
  rfl

lemma reported_pushed :
    run (Reported.step cameraReader plainEnv optDir cameraHash cameraNames)
      (Reported.start runningDevice) (booted 0 ++ pushed) =
      ⟨pushSite runningDevice.ledger (.judging (.text newYaml)), 0, some ⟨newYaml, 1⟩, false⟩ := by
  have hsite : (run (Reported.step cameraReader plainEnv optDir cameraHash cameraNames)
      (Reported.start runningDevice) (booted 0 ++ pushed)).site =
      run (Site.step cameraReader plainEnv optDir cameraHash cameraNames) (Site.idle runningDevice)
        (booted 0 ++ pushed) := run_hom Reported.site (fun _ _ => rfl) _
  have hpushed : run (Site.step cameraReader plainEnv optDir cameraHash cameraNames)
      (Site.idle runningDevice) (booted 0 ++ pushed) =
      pushSite runningDevice.ledger (.judging (.text newYaml)) := by
    rw [run_append, run_booted, run_pushed]
  have htaken : (run (Reported.step cameraReader plainEnv optDir cameraHash cameraNames)
      (Reported.start runningDevice) (booted 0 ++ pushed)).taken = 0 := by decide +kernel
  have howed : (run (Reported.step cameraReader plainEnv optDir cameraHash cameraNames)
      (Reported.start runningDevice) (booted 0 ++ pushed)).owed = some ⟨newYaml, 1⟩ := by
    decide +kernel
  have hdown : (run (Reported.step cameraReader plainEnv optDir cameraHash cameraNames)
      (Reported.start runningDevice) (booted 0 ++ pushed)).down = false := by decide +kernel
  exact Reported.ext (hsite.trans hpushed) htaken howed hdown

theorem config_push_honest_changed :
    RejectsCleanly cameraReader plainEnv optDir (fun _ => default) runningDevice
      (.configPush "vehicle" "car7" newYaml 1 none) ∧
    let s := run (Site.step cameraReader plainEnv optDir cameraHash cameraNames)
      (Site.idle runningDevice) (booted 0 ++ changed)
    let t := run (Reported.step cameraReader plainEnv optDir cameraHash cameraNames)
      (Reported.start runningDevice) (booted 0 ++ changed)
    t.taken = 1 ∧ s.device.version = t.taken ∧ s.device.recoverConfigVersion = t.taken := by
  obtain ⟨hclean, hruns⟩ :=
    config_push_honest cameraReader plainEnv optDir cameraHash cameraNames
  have hjob : (pushSite runningDevice.ledger (.judging (.text newYaml))).jobs.get 1 =
      some (pushJobAt (.judging (.text newYaml))) := rfl
  have hmove : (pushJobAt (.judging (.text newYaml))).move cameraReader plainEnv optDir cameraHash
      cameraNames default (pushSite runningDevice.ledger (.judging (.text newYaml))).device = _ :=
    move_pushed rfl
  have hend : run (Site.step cameraReader plainEnv optDir cameraHash cameraNames)
      (Site.idle runningDevice) (booted 0 ++ changed) =
      Site.idle (changedDevice runningDevice.ledger) := by
    rw [run_append, run_booted, run_changed rfl]
  have hlast : run (Reported.step cameraReader plainEnv optDir cameraHash cameraNames)
      (Reported.start runningDevice) (booted 0 ++ changed) = run
        (Reported.step cameraReader plainEnv optDir cameraHash cameraNames)
        ⟨pushSite runningDevice.ledger (.judging (.text newYaml)), 0, some ⟨newYaml, 1⟩, false⟩
        (commitReplies.map (.move 1)) := by
    rw [changed, ← List.append_assoc, run_append, reported_pushed]
  obtain ⟨htaken, hdown⟩ : (run (Reported.step cameraReader plainEnv optDir cameraHash cameraNames)
      (Reported.start runningDevice) (booted 0 ++ changed)).taken = 1 ∧
      (run (Reported.step cameraReader plainEnv optDir cameraHash cameraNames)
        (Reported.start runningDevice) (booted 0 ++ changed)).down = false := by
    rw [hlast, commitReplies, List.replicate_succ, List.cons_append, List.cons_append, List.map_cons,
      run_cons, Reported.step_move hjob rfl, hmove]
    decide +kernel
  refine ⟨(hclean _ _ _).mpr ?_, htaken, ?_⟩
  · rintro roomId target config version actor hmsg hb hc
    cases hmsg
    exact absurd ⟨⟨hb, rfl, rfl⟩, by rfl, ⟨_, newYaml_rendered⟩, rfl⟩ hc
  · have hhon : Along (Reported.step cameraReader plainEnv optDir cameraHash cameraNames)
        (fun t a => t.honoured cameraReader plainEnv optDir cameraHash cameraNames a = true)
        (Reported.start runningDevice) (booted 0 ++ changed) := by
      rw [changed, ← List.append_assoc, along_append, reported_pushed]
      refine ⟨by decide +kernel, ?_, ?_⟩
      · exact Reported.honoured_of_ok hjob (by rw [hmove]; rfl)
      · rw [Reported.step_move hjob rfl, hmove]
        decide +kernel
    obtain ⟨hver, hrec⟩ := hruns runningDevice (booted 0 ++ changed)
      (hhon.mono (fun t a h => Reported.honours_of_honoured h)) hdown
    have hnobody : ∀ {i j}, (run (Site.step cameraReader plainEnv optDir cameraHash cameraNames)
        (Site.idle runningDevice) (booted 0 ++ changed)).jobs.get i = some j → False := by
      intro i j hj
      rw [hend] at hj
      exact idle_nobody hj
    exact ⟨hver (fun i j hj => (hnobody hj).elim), hrec (fun i j hj => (hnobody hj).elim)⟩

/-- A push whose key file is missing is rejected after its backup and its host.yaml are written; the
agent restarts, and its boot pass refuses the same configuration. -/
def keylessPush : List SiteAction :=
  booted 0 ++ SiteAction.push 1 ⟨keyYaml, 1⟩ :: List.replicate 4 (SiteAction.move 1 default) ++
    SiteAction.restart 2 none :: List.replicate 7 (SiteAction.move 2 default)

def Reported.reaches (t : Reported) : SiteAction → Bool
  | .push _ _ => !t.down
  | _ => true

def keylessDevice : Device := { runningDevice with present := [] }

theorem rejected_push_lingers :
    (¬∀ (y : Reader) (env : Env) (d : Dir) (rs : Fin 4 → Reply) (s : Device)
      (msg : Common.SignalingMessage), RejectsCleanly y env d rs s msg) ∧
    ¬∀ (y : Reader) (env : Env) (d : Dir) (hash : Content → String)
      (names : String → Except String (List String)) (dev : Device) (acts : List SiteAction),
      Along (Reported.step y env d hash names) (fun t a => t.reaches a = true)
        (Reported.start dev) acts →
      let s := run (Site.step y env d hash names) (Site.idle dev) acts
      let t := run (Reported.step y env d hash names) (Reported.start dev) acts
      t.down = false → (∀ i, s.jobs.get i = none) → s.device.version = t.taken := by
  constructor
  · intro hall
    have hyaml : (handleConfigPush cameraReader plainEnv optDir (fun _ => default) keylessDevice
        (.configPush "vehicle" "car7" keyYaml 1 none)).1.hostYaml = some (.text keyYaml) := by
      decide +kernel
    have hfails : (handleConfigPush cameraReader plainEnv optDir (fun _ => default) keylessDevice
        (.configPush "vehicle" "car7" keyYaml 1 none)).2.isOk = false := by decide +kernel
    have hne : some (Content.text keyYaml) ≠ keylessDevice.hostYaml := by decide
    generalize hout : handleConfigPush cameraReader plainEnv optDir (fun _ => default) keylessDevice
      (.configPush "vehicle" "car7" keyYaml 1 none) = out at hyaml hfails
    obtain ⟨s', r⟩ := out
    cases r with
    | ok v => cases hfails
    | error e =>
      obtain ⟨hkept, -⟩ := hall cameraReader plainEnv optDir (fun _ => default) keylessDevice
        (.configPush "vehicle" "car7" keyYaml 1 none) s' e hout
      exact hne (hyaml.symm.trans hkept)
  · intro hall
    have hup : Along (Reported.step cameraReader plainEnv optDir cameraHash cameraNames)
        (fun t a => t.reaches a = true) (Reported.start keylessDevice) keylessPush := by
      decide
    have hnone : (run (Site.step cameraReader plainEnv optDir cameraHash cameraNames)
        (Site.idle keylessDevice) keylessPush).jobs.toList = [] := by decide +kernel
    have hdown : (run (Reported.step cameraReader plainEnv optDir cameraHash cameraNames)
        (Reported.start keylessDevice) keylessPush).down = false := by decide
    have hver : (run (Site.step cameraReader plainEnv optDir cameraHash cameraNames)
        (Site.idle keylessDevice) keylessPush).device.version = 1 := by decide +kernel
    have htaken : (run (Reported.step cameraReader plainEnv optDir cameraHash cameraNames)
        (Reported.start keylessDevice) keylessPush).taken = 0 := by decide +kernel
    have := hall cameraReader plainEnv optDir cameraHash cameraNames keylessDevice keylessPush
      hup hdown (FiniteMap.get_of_toList_nil hnone)
    rw [hver, htaken] at this
    cases this

end MediaServo.Host
