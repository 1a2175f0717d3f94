import MediaServo.Server.Persistence

/-! A registry and its file agree once its operations have completed, as long as no save begins
while another is under way. -/

namespace MediaServo.Server.Persistence

open MediaServo.Foundations

namespace Phase

variable {β : Type}

@[simp] def Saving : Phase β → Prop
  | .snapped _ | .created _ _ | .written _ _ | .cleaning => True
  | _ => False

@[simp] def Behind : Phase β → Prop
  | .mutated | .cleaning | .failing | .failed => True
  | _ => False

@[simp] def Completed : Phase β → Prop
  | .done | .refused => True
  | _ => False

@[simp] def text : Phase β → Option (List β)
  | .snapped y | .created y _ | .written y _ => some y
  | _ => none

/-- The temporary file is the operation's own. -/
def Holds (f : Files FileName β) : Phase β → Prop
  | .created _ fd => f.names .tmp = some fd ∧ f.contents fd = []
  | .written y fd => f.names .tmp = some fd ∧ f.contents fd = y
  | _ => True

instance : DecidablePred (Saving (β := β))
  | .snapped _ | .created _ _ | .written _ _ | .cleaning => .isTrue trivial
  | .mutated | .done | .refused | .failing | .failed => .isFalse not_false

instance : DecidablePred (Completed (β := β))
  | .done | .refused => .isTrue trivial
  | .mutated | .snapped _ | .created _ _ | .written _ _ | .cleaning | .failing | .failed =>
    .isFalse not_false

structure Keeps (p q : Phase β) : Prop where
  saving : q.Saving → p.Saving
  text : ∀ y, q.text = some y → p.text = some y
  behind : ¬q.Behind → ¬p.Behind
  completed : q.Completed → p.Completed

lemma keeps_failing {p : Phase β} : p.Keeps .failing := ⟨by simp, by simp, by simp, by simp⟩

lemma keeps_cleaning {p : Phase β} (h : p.Saving) : p.Keeps .cleaning :=
  ⟨fun _ => h, by simp, by simp, by simp⟩

lemma keeps_text {p q : Phase β} {y : List β} (hp : p.text = some y) (hq : q.text = some y) :
    p.Keeps q := by
  cases p <;> cases q <;> simp_all <;> exact ⟨by simp, by simp, by simp, by simp⟩

lemma saving_of_text {p : Phase β} {y : List β} (h : p.text = some y) : p.Saving := by
  cases p <;> simp_all [text, Saving]

lemma holds_of_not_saving {p : Phase β} (f : Files FileName β) (h : ¬p.Saving) : p.Holds f := by
  cases p <;> simp_all [Holds, Saving]

lemma not_behind_of_completed {p : Phase β} (h : p.Completed) : ¬p.Behind := by
  cases p <;> simp_all [Completed, Behind]

end Phase

variable {R : Registry} {β : Type}

def loadFile (ofYaml : List β → Option (FiniteMap String R.Form)) :
    Option (List β) → Option (FiniteMap String R.Form)
  | none => some ∅
  | some y => ofYaml y

def Store.OnKey (s : Store R β) (k : String) (Q : Phase β → Prop) : Prop :=
  ∀ j u, s.tasks.get j = some u → R.key u.op = k → Q u.phase

/-- A save begins only when no other is under way. -/
def Alone (s : Store R β) : Action R → Prop
  | .start _ _ => True
  | .next i _ => ∀ t, s.tasks.get i = some t → t.phase = .mutated →
      ∀ j u, s.tasks.get j = some u → ¬u.phase.Saving

instance [DecidableEq β] (s : Store R β) : DecidablePred (Alone s)
  | .start _ _ => .isTrue trivial
  | .next i _ =>
      decidable_of_iff
        (∀ t ∈ s.tasks.get i, t.phase = .mutated → ∀ e ∈ s.tasks.toList, ¬e.2.phase.Saving) <| by
        simp only [Alone, FiniteMap.forall_get_iff (P := fun u : Task R β => ¬u.phase.Saving), Option.mem_def]

lemma Store.OnKey.of_set {s s' : Store R β} {i : ℕ} {t : Task R β} {p : Phase β} {k : String}
    {Q Q' : Phase β → Prop} (ht : s.tasks.get i = some t)
    (htasks : s'.tasks = s.tasks.set i { t with phase := p }) (h : s'.OnKey k Q)
    (hQ : ∀ p, Q p → Q' p) (hp : Q p → Q' t.phase) : s.OnKey k Q' := by
  intro j u hj hk
  by_cases hji : j = i
  · subst hji
    rw [ht] at hj
    cases hj
    exact hp (h j ⟨t.op, p⟩ (by rw [htasks, FiniteMap.get_set_self]) hk)
  · exact hQ _ (h j u (by rw [htasks, FiniteMap.get_set_ne _ _ hji, hj]) hk)

variable (ofYaml : List β → Option (FiniteMap String R.Form))

structure Inv (s : Store R β) : Prop where
  single : ∀ {i j t u}, s.tasks.get i = some t → s.tasks.get j = some u →
    t.phase.Saving → u.phase.Saving → i = j
  holds : ∀ {i t}, s.tasks.get i = some t → t.phase.Holds s.files
  snap : ∀ {i t y}, s.tasks.get i = some t → t.phase.text = some y →
    ∃ doc, ofYaml y = some doc ∧
      ∀ k, s.OnKey k (fun p => ¬p.Behind) → doc.get k = (s.memory.get k).map R.form
  disk : ∃ doc, loadFile ofYaml (s.files.read .target) = some doc ∧
    ∀ k, s.OnKey k Phase.Completed → doc.get k = (s.memory.get k).map R.form

variable {ofYaml}

section Move

variable {s s' : Store R β} {i : ℕ} {t : Task R β} {p : Phase β}

lemma Inv.not_saving (h : Inv ofYaml s) (ht : s.tasks.get i = some t) (hs : t.phase.Saving) {j : ℕ}
    {u : Task R β} (hj : s.tasks.get j = some u) (hji : j ≠ i) : ¬u.phase.Saving :=
  fun hu => hji (h.single hj ht hu hs)

lemma Inv.move (h : Inv ofYaml s) (ht : s.tasks.get i = some t)
    (htasks : s'.tasks = s.tasks.set i { t with phase := p })
    (hmem : ∀ k, (R.key t.op = k → ¬p.Behind) → s'.memory.get k = s.memory.get k)
    (hfiles : t.phase.Saving ∨ s'.files = s.files) (hholds : p.Holds s'.files)
    (hkeeps : t.phase.Keeps p) (hread : s'.files.read .target = s.files.read .target) : Inv ofYaml s' := by
  have hmem' : ∀ k, s'.OnKey k (fun p => ¬p.Behind) → s'.memory.get k = s.memory.get k := by
    intro k hk
    apply hmem k
    intro hkey
    exact hk i ⟨t.op, p⟩ (by rw [htasks, FiniteMap.get_set_self]) hkey
  refine ⟨?_, ?_, ?_, ?_⟩
  · intro j l u v hj hl hu hv
    rw [htasks] at hj hl
    obtain ⟨hji, rfl⟩ | ⟨hji, hj'⟩ := FiniteMap.get_of_set hj <;>
      obtain ⟨hli, rfl⟩ | ⟨hli, hl'⟩ := FiniteMap.get_of_set hl
    · rw [hji, hli]
    · exact absurd hv (h.not_saving ht (hkeeps.saving hu) hl' hli)
    · exact absurd hu (h.not_saving ht (hkeeps.saving hv) hj' hji)
    · exact h.single hj' hl' hu hv
  · intro j u hj
    rw [htasks] at hj
    obtain ⟨rfl, rfl⟩ | ⟨hji, hj⟩ := FiniteMap.get_of_set hj
    · exact hholds
    · obtain hs | hf := hfiles
      · exact Phase.holds_of_not_saving _ (h.not_saving ht hs hj hji)
      · rw [hf]
        exact h.holds hj
  · intro j u y hj hy
    rw [htasks] at hj
    obtain ⟨doc, hdoc, heq⟩ : ∃ doc, ofYaml y = some doc ∧
        ∀ k, s.OnKey k (fun p => ¬p.Behind) → doc.get k = (s.memory.get k).map R.form := by
      obtain ⟨rfl, rfl⟩ | ⟨hji, hj⟩ := FiniteMap.get_of_set hj
      · exact h.snap ht (hkeeps.text y hy)
      · exact h.snap hj hy
    refine ⟨doc, hdoc, ?_⟩
    intro k hk
    rw [hmem' k hk]
    exact heq k (hk.of_set ht htasks (fun _ hq => hq) hkeeps.behind)
  · obtain ⟨doc, hdoc, heq⟩ := h.disk
    refine ⟨doc, by rw [hread, hdoc], ?_⟩
    intro k hk
    rw [hmem' k (fun j u hj hkey => Phase.not_behind_of_completed (hk j u hj hkey))]
    exact heq k (hk.of_set ht htasks (fun _ hq => hq) hkeeps.completed)

lemma Inv.snapped (h : Inv ofYaml s) (ht : s.tasks.get i = some t)
    (hnone : ∀ j u, s.tasks.get j = some u → ¬u.phase.Saving) {y : List β}
    {doc : FiniteMap String R.Form} (hy : ofYaml y = some doc)
    (hdoc : ∀ k, doc.get k = (s.memory.get k).map R.form) :
    Inv ofYaml (s.setPhase i t (.snapped y)) := by
  refine ⟨?_, ?_, ?_, ?_⟩
  · intro j l u v hj hl hu hv
    obtain ⟨hji, rfl⟩ | ⟨hji, hj'⟩ := FiniteMap.get_of_set hj <;>
      obtain ⟨hli, rfl⟩ | ⟨hli, hl'⟩ := FiniteMap.get_of_set hl
    · rw [hji, hli]
    · exact absurd hv (hnone l v hl')
    · exact absurd hu (hnone j u hj')
    · exact absurd hu (hnone j u hj')
  · intro j u hj
    obtain ⟨-, rfl⟩ | ⟨-, hj'⟩ := FiniteMap.get_of_set hj
    · trivial
    · exact h.holds hj'
  · intro j u z hj hz
    obtain ⟨-, rfl⟩ | ⟨-, hj'⟩ := FiniteMap.get_of_set hj
    · cases hz
      exact ⟨doc, hy, fun k _ => hdoc k⟩
    · exact absurd (Phase.saving_of_text hz) (hnone j u hj')
  · obtain ⟨old, hold, heq⟩ := h.disk
    refine ⟨old, hold, ?_⟩
    intro k hk
    exact heq k (hk.of_set ht rfl (fun _ hq => hq) (by simp))

lemma Inv.renamed (h : Inv ofYaml s) (ht : s.tasks.get i = some t) {y : List β} {fd : ℕ}
    (hp : t.phase = .written y fd) {files : Files FileName β}
    (hrename : s.files.rename .tmp .target = some files) :
    Inv ofYaml ({ s with files := files }.setPhase i t .done) := by
  have hs : t.phase.Saving := by rw [hp]; trivial
  have hheld : s.files.names .tmp = some fd ∧ s.files.contents fd = y := by
    simpa only [hp] using! h.holds ht
  have hread : files.read .target = some y := by
    rw [Files.read_rename hrename, Files.read, hheld.1, Option.map_some, hheld.2]
  have hnone : ∀ j u, (s.tasks.set i { t with phase := .done }).get j = some u →
      ¬u.phase.Saving := by
    intro j u hj hu
    obtain ⟨-, rfl⟩ | ⟨hji, hj'⟩ := FiniteMap.get_of_set hj
    · exact hu
    · exact h.not_saving ht hs hj' hji hu
  refine ⟨?_, ?_, ?_, ?_⟩
  · intro j l u v hj hl hu
    exact absurd hu (hnone j u hj)
  · intro j u hj
    exact Phase.holds_of_not_saving _ (hnone j u hj)
  · intro j u z hj hz
    exact absurd (Phase.saving_of_text hz) (hnone j u hj)
  · obtain ⟨doc, hdoc, heq⟩ := h.snap ht (y := y) (by rw [hp]; rfl)
    refine ⟨doc, (congrArg (loadFile ofYaml) hread).trans hdoc, ?_⟩
    intro k hk
    apply heq k
    exact hk.of_set ht rfl (fun _ hq => Phase.not_behind_of_completed hq)
      (fun _ => by rw [hp]; exact id)

end Move

section Step

variable {s : Store R β}

lemma Inv.added (h : Inv ofYaml s) {i : ℕ} (hi : ¬s.tasks.contains i) {op : R.Op} {p : Phase β}
    (hp : ¬p.Saving) {memory : FiniteMap String R.Entry}
    (hmem : ∀ k, (R.key op = k → ¬p.Behind) → memory.get k = s.memory.get k) :
    Inv ofYaml { s with memory := memory, tasks := s.tasks.set i ⟨op, p⟩ } := by
  have hold : ∀ {k : String} {Q : Phase β → Prop},
      Store.OnKey { s with memory := memory, tasks := s.tasks.set i ⟨op, p⟩ } k Q →
        s.OnKey k Q := by
    intro k Q hk j u hj hkey
    have hji : j ≠ i := by
      rintro rfl
      exact hi (by rw [FiniteMap.contains, hj]; rfl)
    exact hk j u (by rw [FiniteMap.get_set_ne _ _ hji, hj]) hkey
  have hmem' : ∀ {k : String}, Store.OnKey { s with memory := memory, tasks := s.tasks.set i ⟨op, p⟩ }
      k (fun p => ¬p.Behind) → memory.get k = s.memory.get k := by
    intro k hk
    apply hmem k
    intro hkey
    exact hk i ⟨op, p⟩ (FiniteMap.get_set_self _ _ _) hkey
  refine ⟨?_, ?_, ?_, ?_⟩
  · intro j l u v hj hl hu hv
    obtain ⟨-, rfl⟩ | ⟨-, hj'⟩ := FiniteMap.get_of_set hj
    · exact absurd hu hp
    · obtain ⟨-, rfl⟩ | ⟨-, hl'⟩ := FiniteMap.get_of_set hl
      · exact absurd hv hp
      · exact h.single hj' hl' hu hv
  · intro j u hj
    obtain ⟨-, rfl⟩ | ⟨-, hj'⟩ := FiniteMap.get_of_set hj
    · exact Phase.holds_of_not_saving _ hp
    · exact h.holds hj'
  · intro j u y hj hy
    obtain ⟨-, rfl⟩ | ⟨-, hj'⟩ := FiniteMap.get_of_set hj
    · exact absurd (Phase.saving_of_text hy) hp
    · obtain ⟨doc, hdoc, heq⟩ := h.snap hj' hy
      refine ⟨doc, hdoc, ?_⟩
      intro k hk
      rw [heq k (hold hk)]
      exact congrArg _ (hmem' hk).symm
  · obtain ⟨doc, hdoc, heq⟩ := h.disk
    refine ⟨doc, hdoc, ?_⟩
    intro k hk
    rw [heq k (hold hk)]
    exact congrArg _ (hmem' fun j u hj hkey => Phase.not_behind_of_completed (hk j u hj hkey)).symm

lemma start_inv (h : Inv ofYaml s) (i : ℕ) (op : R.Op) : Inv ofYaml (start s i op) := by
  simp only [start]
  split
  · exact h
  rename_i hi
  split
  · exact h.added hi (by simp) (fun _ _ => rfl)
  · rename_i m hm
    refine h.added hi (by simp) ?_
    intro k hk
    exact R.exec_other hm (fun heq => hk heq.symm trivial)

lemma advance_inv {yaml : FiniteMap String R.Form → List β}
    (hserde : ∀ doc, ∃ doc', ofYaml (yaml doc) = some doc' ∧ ∀ k, doc'.get k = doc.get k)
    (h : Inv ofYaml s) {i : ℕ} {t : Task R β} (ht : s.tasks.get i = some t) (fault : Option ℕ)
    (halone : t.phase = .mutated → ∀ j u, s.tasks.get j = some u → ¬u.phase.Saving) :
    Inv ofYaml (advance yaml s i t fault) := by
  have hheld := h.holds ht
  have htarget : ∀ {fd}, s.files.names .tmp = some fd → s.files.names .target ≠ some fd := by
    intro fd hfd hfd'
    cases s.files.separate hfd hfd'
  simp only [advance]
  split
  next hp =>
    obtain ⟨doc, hdoc, heq⟩ := hserde s.snapshot
    refine h.snapped ht (halone hp) hdoc ?_
    intro k
    rw [heq k, Store.snapshot, FiniteMap.get_mapValues]
  next hp => exact h.move ht rfl (fun _ _ => rfl) (.inr rfl) trivial Phase.keeps_failing rfl
  next y hp =>
    refine h.move ht rfl (fun _ _ => rfl) (.inl (by rw [hp]; trivial))
      ⟨Files.names_create, Files.contents_create⟩ (Phase.keeps_text (y := y) (by rw [hp]; rfl) rfl) ?_
    exact Files.read_create (by decide)
  next hp =>
    exact h.move ht rfl (fun _ _ => rfl) (.inr rfl) trivial
      (Phase.keeps_cleaning (by rw [hp]; trivial)) rfl
  next y fd hp =>
    rw [hp] at hheld
    refine h.move ht rfl (fun _ _ => rfl) (.inl (by rw [hp]; trivial))
      ⟨hheld.1, Files.contents_write hheld.2⟩ (Phase.keeps_text (y := y) (by rw [hp]; rfl) rfl) ?_
    exact Files.read_write _ (htarget hheld.1)
  next y fd n hp =>
    rw [hp] at hheld
    refine h.move ht rfl (fun _ _ => rfl) (.inl (by rw [hp]; trivial)) trivial
      (Phase.keeps_cleaning (by rw [hp]; trivial)) ?_
    exact Files.read_write _ (htarget hheld.1)
  next y fd hp =>
    split
    next files hrename => exact h.renamed ht hp hrename
    next =>
      exact h.move ht rfl (fun _ _ => rfl) (.inr rfl) trivial
        (Phase.keeps_cleaning (by rw [hp]; trivial)) rfl
  next hp =>
    exact h.move ht rfl (fun _ _ => rfl) (.inr rfl) trivial
      (Phase.keeps_cleaning (by rw [hp]; trivial)) rfl
  next hp =>
    refine h.move ht rfl (fun _ _ => rfl) (.inl (by rw [hp]; trivial)) trivial
      Phase.keeps_failing ?_
    exact Files.read_remove (by decide)
  next hp =>
    refine h.move ht rfl ?_ (.inr rfl) trivial (by rw [hp]; exact ⟨by simp, by simp, by simp, by simp⟩) rfl
    intro k hk
    have hkey : k ≠ R.key t.op := fun heq => hk heq.symm trivial
    split
    · exact FiniteMap.get_remove_ne _ hkey
    · rfl
  all_goals exact h

lemma step_inv {yaml : FiniteMap String R.Form → List β}
    (hserde : ∀ doc, ∃ doc', ofYaml (yaml doc) = some doc' ∧ ∀ k, doc'.get k = doc.get k)
    (s : Store R β) (a : Action R) (h : Inv ofYaml s) (ha : Alone s a) :
    Inv ofYaml (step yaml s a) := by
  cases a with
  | start i op => exact start_inv h i op
  | next i fault =>
    simp only [step]
    split
    · exact h
    · rename_i t ht
      exact advance_inv hserde h ht fault (ha t ht)

end Step

/-- A server that has loaded the file and runs no operation yet. -/
structure Loaded (ofYaml : List β → Option (FiniteMap String R.Form)) (s : Store R β) : Prop where
  idle : s.tasks = ∅
  file : ∃ doc, loadFile ofYaml (s.files.read .target) = some doc ∧
    ∀ k, doc.get k = (s.memory.get k).map R.form

lemma Loaded.inv {s : Store R β} (h : Loaded ofYaml s) : Inv ofYaml s := by
  have hnone : ∀ i t, s.tasks.get i ≠ some t := by
    intro i t
    simp [h.idle]
  refine ⟨fun hi => absurd hi (hnone _ _), fun hi => absurd hi (hnone _ _),
    fun hi => absurd hi (hnone _ _), ?_⟩
  obtain ⟨doc, hdoc, heq⟩ := h.file
  exact ⟨doc, hdoc, fun k _ => heq k⟩

/-- The file holds the registry, at every key of which `P` holds. -/
def FileHolds (ofYaml : List β → Option (FiniteMap String R.Form)) (s : Store R β)
    (P : String → Prop) : Prop :=
  ∃ doc, loadFile ofYaml (s.files.read .target) = some doc ∧
    ∀ k, P k → doc.get k = (s.memory.get k).map R.form

theorem registry_persists (c : Crypto) (name : RegistryName)
    (yaml : FiniteMap String (name.registry c).Form → List β)
    (ofYaml : List β → Option (FiniteMap String (name.registry c).Form))
    (hserde : ∀ doc, ∃ doc', ofYaml (yaml doc) = some doc' ∧ ∀ k, doc'.get k = doc.get k)
    (s : Store (name.registry c) β) (hs : Loaded ofYaml s) (acts : List (Action (name.registry c)))
    (halone : Along (step yaml) Alone s acts) :
    FileHolds ofYaml (run (step yaml) s acts)
        (fun k => (run (step yaml) s acts).OnKey k Phase.Completed) ∧
      ((∀ i t, (run (step yaml) s acts).tasks.get i = some t → t.phase.Completed) →
        FileHolds ofYaml (run (step yaml) s acts) (fun _ => True)) := by
  have hinv : Inv ofYaml (run (step yaml) s acts) :=
    run_invariant hs.inv (step_inv hserde) halone
  obtain ⟨doc, hdoc, heq⟩ := hinv.disk
  refine ⟨⟨doc, hdoc, heq⟩, ?_⟩
  intro hall
  exact ⟨doc, hdoc, fun k _ => heq k (fun j u hj _ => hall j u hj)⟩

section Devices

def entries (doc : FiniteMap String DeviceEntryFile) : List (String × DeviceEntryFile) := doc.toList

def ofEntries (text : List (String × DeviceEntryFile)) : Option (FiniteMap String DeviceEntryFile) :=
  some (text.map (fun e => (⟨e.1, e.2⟩ : Sigma fun _ => DeviceEntryFile))).toAList

lemma ofEntries_entries (doc : FiniteMap String DeviceEntryFile) :
    ∃ doc', ofEntries (entries doc) = some doc' ∧ ∀ k, doc'.get k = doc.get k := by
  refine ⟨_, rfl, ?_⟩
  intro k
  rw [FiniteMap.get, AList.lookup_to_alist, entries, FiniteMap.toList, List.map_map]
  exact congrArg (List.dlookup k) (List.map_id _)

def noCrypto : Crypto where
  sha256 _ := List.replicate 32 0
  encodeBase64 _ := ""
  decodeBase64 _ := none
  validKey _ := false
  verifyStrict _ _ _ := false

def registered : FiniteMap String Entry :=
  ((∅ : FiniteMap String Entry).set "cam-a" (.secret "sha256:a")).set "cam-b" (.secret "sha256:b")

def twoDevices : Store (RegistryName.devices.registry noCrypto) (String × DeviceEntryFile) where
  memory := registered
  files :=
    { names := fun
        | .target => some 0
        | .tmp => none
      contents := fun _ => entries (registered.mapValues (fun _ e => e.file))
      next := 1
      separate := by
        intro m n i hm hn
        cases m <;> cases n <;> simp_all
      fresh := by
        intro n i hn
        cases n <;> simp_all }
  tasks := ∅

lemma twoDevices_loaded : Loaded ofEntries twoDevices := by
  obtain ⟨doc, hdoc, heq⟩ := ofEntries_entries (registered.mapValues (fun _ e => e.file))
  refine ⟨rfl, doc, hdoc, ?_⟩
  intro k
  exact (heq k).trans (FiniteMap.get_mapValues _ _ _)

def save (i : ℕ) : List (Action (RegistryName.devices.registry noCrypto)) :=
  List.replicate 4 (.next i none)

def inTurn : List (Action (RegistryName.devices.registry noCrypto)) :=
  .start 0 (DeviceOp.revoke "cam-a") :: save 0 ++ .start 1 (DeviceOp.revoke "cam-b") :: save 1

def overtaken : List (Action (RegistryName.devices.registry noCrypto)) :=
  [.start 0 (DeviceOp.revoke "cam-a"), .next 0 none, .start 1 (DeviceOp.revoke "cam-b")] ++ save 1 ++
    List.replicate 3 (.next 0 none)

theorem registry_persists_in_turn :
    FileHolds ofEntries (run (step entries) twoDevices inTurn) (fun _ => True) := by
  have hall : ∀ i t, (run (step entries) twoDevices inTurn).tasks.get i = some t →
      t.phase.Completed := by
    rw [FiniteMap.forall_get_iff (P := fun t : Task _ _ => t.phase.Completed)]
    decide
  exact (registry_persists noCrypto .devices entries ofEntries ofEntries_entries twoDevices
    twoDevices_loaded inTurn (by decide)).2 hall

theorem revoked_device_back_on_disk :
    ∃ acts : List (Action (RegistryName.devices.registry noCrypto)),
      (∀ i t, (run (step entries) twoDevices acts).tasks.get i = some t →
        t.phase.Completed) ∧
      ¬FileHolds ofEntries (run (step entries) twoDevices acts) (fun _ => True) := by
  refine ⟨overtaken, ?_, ?_⟩
  · rw [FiniteMap.forall_get_iff (P := fun t : Task _ _ => t.phase.Completed)]
    decide
  · rintro ⟨doc, hdoc, heq⟩
    have hload : (loadFile (R := RegistryName.devices.registry noCrypto) ofEntries
        ((run (step entries) twoDevices overtaken).files.read .target)).map
          (fun d => d.contains "cam-b") = some true := by
      decide
    have hmemory : (run (step entries) twoDevices overtaken).memory.contains "cam-b" = false := by
      decide
    rw [hdoc, Option.map_some, Option.some.injEq, FiniteMap.contains, heq "cam-b" trivial,
      Option.isSome_map] at hload
    exact Bool.false_ne_true (hmemory.symm.trans hload)

end Devices

end MediaServo.Server.Persistence
