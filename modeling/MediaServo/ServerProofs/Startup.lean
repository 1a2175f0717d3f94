import MediaServo.Server.Startup

/-! Which instances have names of their own, and which startup commands are for the instance that
they name. -/

namespace MediaServo.Server.Startup

variable {env : Env} {cwd : Option Text} {t : Text} {sub : Sub} {args : List Text}

/-- An absolute directory by its components. -/
structure InstanceDir where
  parts : List Text
  proper : ∀ c ∈ parts, c ≠ [] ∧ c ≠ ['.'] ∧ '/' ∉ c

def InstanceDir.text (d : InstanceDir) : Text := '/' :: ['/'].intercalate d.parts

/-- Two instances share no unit and no daemon address. -/
structure Apart (env : Env) (canonicalize : Text → Option Text) (d₁ d₂ : InstanceDir) : Prop where
  unit : startupUnitName env.serverNamespace d₁.text ≠ startupUnitName env.serverNamespace d₂.text
  daemon : daemonPort env.cwd d₁.text ≠ daemonPort env.cwd d₂.text
  hostDaemon : hostDaemonPort canonicalize d₁.text ≠ hostDaemonPort canonicalize d₂.text

/-- The command acts on the unit of the instance. -/
def ActsOn (env : Env) (args : List Text) (sub : Sub) (d : InstanceDir) : Prop :=
  cmdStartup env args = .unit sub (startupUnitName env.serverNamespace d.text)

/-- The paths of the two instances are told apart by what their names keep of them. -/
structure Distinguished (canonicalize : Text → Option Text) (d₁ d₂ : InstanceDir) : Prop where
  slugs : slug d₁.text ≠ slug d₂.text
  sums : ¬ byteSum (oxmgrHome d₁.text) ≡ byteSum (oxmgrHome d₂.text) [MOD 400]
  hostSums : ¬ byteSum (oxmgrHome ((canonicalize d₁.text).getD d₁.text)) ≡
    byteSum (oxmgrHome ((canonicalize d₂.text).getD d₂.text)) [MOD 400]

/-- The command names the subcommand first, and either is `on`, which reads its directory, or meets
a smart default whose unit is that of the directory. -/
def Reads (env : Env) (args : List Text) (sub : Sub) (d : InstanceDir) : Prop :=
  args = [sub.word, d.text] ∧
    (sub = .on ∨ slug (absolute env.cwd (smartDefault env)) = slug d.text)

lemma splitOn_text (d : InstanceDir) :
    d.text.splitOn '/' = if d.parts = [] then [[], []] else [] :: d.parts := by
  split_ifs with h
  · rw [InstanceDir.text, h]
    rfl
  · have hclean : ∀ l ∈ [] :: d.parts, '/' ∉ l := by
      intro l hl
      obtain rfl | hl := List.mem_cons.mp hl
      · simp
      · exact (d.proper l hl).2.2
    have htext : d.text = ['/'].intercalate ([] :: d.parts) := by
      obtain ⟨c, cs, hcs⟩ := List.exists_cons_of_ne_nil h
      rw [InstanceDir.text, hcs, List.intercalate_cons_cons]
      simp
    rw [htext, List.splitOn_intercalate _ hclean (by simp)]

lemma pieces_text (d : InstanceDir) : pieces d.text = d.parts := by
  have hself : d.parts.filter (fun c => decide (c ≠ [] ∧ c ≠ ['.'])) = d.parts := by
    rw [List.filter_eq_self]
    intro c hc
    obtain ⟨hne, hdot, -⟩ := d.proper c hc
    simp [hne, hdot]
  rw [pieces, splitOn_text]
  split_ifs with h
  · simp [h]
  · rw [List.filter_cons_of_neg (by simp), hself]

lemma isAbsolute_text (d : InstanceDir) : isAbsolute d.text = true := rfl

lemma intercalate_concat (cs : List Text) (c : Text) :
    ∃ head, ['/'].intercalate (cs ++ [c]) = head ++ c := by
  induction cs with
  | nil => exact ⟨[], by simp⟩
  | cons b bs ih =>
    obtain ⟨head, hhead⟩ := ih
    obtain ⟨e, es, he⟩ := List.exists_cons_of_ne_nil (l := bs ++ [c]) (by simp)
    rw [List.cons_append, he, List.intercalate_cons_cons, ← he, hhead]
    exact ⟨b ++ ['/'] ++ head, by simp⟩

lemma trailing_text (d : InstanceDir) : absolute.trailing d.text = [] := by
  rw [absolute.trailing, if_neg]
  rintro ⟨hlast, hne⟩
  rw [pieces_text] at hne
  obtain ⟨cs, c, hcs⟩ := (List.eq_nil_or_concat' d.parts).resolve_left hne
  obtain ⟨hc, -, hslash⟩ := d.proper c (by simp [hcs])
  obtain ⟨front, x, rfl⟩ := (List.eq_nil_or_concat' c).resolve_left hc
  have hx : d.text.getLast? = some x := by
    obtain ⟨head, hhead⟩ := intercalate_concat cs (front ++ [x])
    rw [InstanceDir.text, hcs, hhead, ← List.append_assoc, ← List.cons_append, List.getLast?_concat]
  rw [hx] at hlast
  simp at hslash
  exact hslash.2 (Option.some.inj hlast).symm

lemma absolute_text (cwd : Option Text) (d : InstanceDir) : absolute cwd d.text = d.text := by
  have htwo : d.text.take 2 ≠ ['/', '/'] := by
    intro h
    cases hp : d.parts with
    | nil => simp [InstanceDir.text, hp] at h
    | cons c cs =>
      obtain ⟨hc, -, hslash⟩ := d.proper c (by simp [hp])
      obtain ⟨x, xs, rfl⟩ := List.exists_cons_of_ne_nil hc
      have hx : x = '/' := by
        cases cs <;> simpa [InstanceDir.text, hp] using h
      simp [hx] at hslash
  have hroot : absolute cwd d.text =
      (if d.text.take 2 = ['/', '/'] ∧ d.text.take 3 ≠ ['/', '/', '/'] then ['/', '/'] else ['/']) ++
        ['/'].intercalate (pieces d.text) ++ absolute.trailing d.text := rfl
  rw [hroot, if_neg fun h => htwo h.1, pieces_text, trailing_text, List.append_nil]
  rfl

lemma framed_inj {a b c x y : Text} : a ++ b ++ '-' :: x ++ c = a ++ b ++ '-' :: y ++ c ↔ x = y := by
  simp

lemma startupUnitName_inj {ns d₁ d₂ : Text} :
    startupUnitName ns d₁ = startupUnitName ns d₂ ↔ slug d₁ = slug d₂ := framed_inj

def InstanceDir.home (d : InstanceDir) : InstanceDir where
  parts := d.parts ++ ["run".toList, "oxmgr".toList]
  proper := by
    intro c hc
    simp only [List.mem_append, List.mem_cons, List.not_mem_nil, or_false] at hc
    obtain hc | rfl | rfl := hc
    · exact d.proper c hc
    · decide
    · decide

lemma getLast?_text (d : InstanceDir) : d.text.getLast? = some '/' ↔ d.parts = [] := by
  constructor
  · intro h
    by_contra hne
    have htrail := trailing_text d
    rw [absolute.trailing, pieces_text, if_pos ⟨h, hne⟩] at htrail
    cases htrail
  · intro h
    simp [InstanceDir.text, h]

lemma join_text (d : InstanceDir) (c : Text) :
    join d.text c = '/' :: ['/'].intercalate (d.parts ++ [c]) := by
  rw [join]
  split_ifs with h
  · rw [InstanceDir.text, (getLast?_text d).mp h]
    simp
  · have hne : d.parts ≠ [] := fun hp => h ((getLast?_text d).mpr hp)
    have hsnoc : ∀ cs : List Text, cs ≠ [] →
        ['/'].intercalate (cs ++ [c]) = ['/'].intercalate cs ++ '/' :: c := by
      intro cs
      induction cs with
      | nil => intro hcs; exact absurd rfl hcs
      | cons b bs ih =>
        intro _
        cases bs with
        | nil => simp [List.intercalate_cons_cons]
        | cons e es =>
          have := ih (by simp)
          simp only [List.cons_append, List.intercalate_cons_cons] at this ⊢
          rw [this]
          simp
    rw [hsnoc d.parts hne, InstanceDir.text]
    rfl

lemma oxmgrHome_text (d : InstanceDir) : oxmgrHome d.text = d.home.text := by
  have hrun : ∀ c ∈ d.parts ++ ["run".toList], c ≠ [] ∧ c ≠ ['.'] ∧ '/' ∉ c := by
    intro c hc
    exact d.home.proper c (by
      simp only [List.mem_append, List.mem_cons, List.not_mem_nil, or_false, InstanceDir.home] at hc ⊢
      tauto)
  rw [oxmgrHome, join_text]
  have := join_text ⟨d.parts ++ ["run".toList], hrun⟩ "oxmgr".toList
  rw [InstanceDir.text] at this
  rw [this, InstanceDir.text, InstanceDir.home, List.append_assoc]
  rfl

lemma daemonPort_text (cwd : Option Text) (d : InstanceDir) :
    daemonPort cwd d.text = daemonPortBase + byteSum (oxmgrHome d.text) % 400 := by
  rw [daemonPort, oxmgrHome_text, absolute_text, instanceDaemonPort]

lemma apart_iff {canonicalize : Text → Option Text} {d₁ d₂ : InstanceDir} :
    Apart env canonicalize d₁ d₂ ↔ Distinguished canonicalize d₁ d₂ := by
  have hdaemon : daemonPort env.cwd d₁.text = daemonPort env.cwd d₂.text ↔
      byteSum (oxmgrHome d₁.text) ≡ byteSum (oxmgrHome d₂.text) [MOD 400] := by
    rw [daemonPort_text, daemonPort_text, Nat.add_left_cancel_iff]
    rfl
  have hhost : hostDaemonPort canonicalize d₁.text = hostDaemonPort canonicalize d₂.text ↔
      byteSum (oxmgrHome ((canonicalize d₁.text).getD d₁.text)) ≡
        byteSum (oxmgrHome ((canonicalize d₂.text).getD d₂.text)) [MOD 400] := by
    rw [hostDaemonPort, hostDaemonPort, Nat.add_left_cancel_iff]
    rfl
  constructor
  · intro h
    exact ⟨fun hs => h.unit (startupUnitName_inj.mpr hs), fun hs => h.daemon (hdaemon.mpr hs),
      fun hs => h.hostDaemon (hhost.mpr hs)⟩
  · intro h
    exact ⟨fun hs => h.slugs (startupUnitName_inj.mp hs), fun hs => h.sums (hdaemon.mp hs),
      fun hs => h.hostSums (hhost.mp hs)⟩

lemma subOf_word (sub : Sub) : subOf sub.word = some sub := by cases sub <;> rfl

lemma subOf_text (d : InstanceDir) : subOf d.text = none := by
  rw [subOf, List.find?_eq_none]
  intro s _
  cases s <;> simp [Sub.word, InstanceDir.text]

lemma parseDir_text (env : Env) (d : InstanceDir) : parseDir env [d.text] = .ok d.text := by
  have hoption : ¬ "--".toList <+: d.text := by
    rintro ⟨t, ht⟩
    cases ht
  rw [parseDir, if_neg hoption, if_neg (by simp), if_pos (isAbsolute_text d)]

lemma cmdStartup_on (env : Env) (d : InstanceDir) :
    cmdStartup env [Sub.on.word, d.text] = .unit .on (startupUnitName env.serverNamespace d.text) := by
  have hparse := parseDir_text env d
  simp only [cmdStartup, List.headD_cons, List.tail_cons, subOf_word, ne_eq, not_true_eq_false,
    false_and, if_false, if_true, hparse, absolute_text]

lemma cmdStartup_other (env : Env) (d : InstanceDir) (h : sub ≠ .on) :
    cmdStartup env [sub.word, d.text] = .unit sub
      (startupUnitName env.serverNamespace (absolute env.cwd (smartDefault env))) := by
  simp [cmdStartup, subOf_word, h, parseDir]

lemma cmdStartup_swapped (env : Env) (d : InstanceDir) :
    cmdStartup env [d.text, sub.word] = .refused (usage env) := by
  simp [cmdStartup, subOf_text]

lemma perm_pair {l : List Text} {x y : Text} (h : l.Perm [x, y]) : l = [x, y] ∨ l = [y, x] := by
  obtain ⟨a, b, rfl⟩ := List.length_eq_two.mp h.length_eq
  have ha : a = x ∨ a = y := by simpa using h.subset (List.mem_cons_self (a := a))
  obtain rfl | rfl := ha
  · left
    rw [List.singleton_perm_singleton.mp ((List.perm_cons a).mp h)]
  · right
    have hswap := h.trans (List.Perm.swap a x [])
    rw [List.singleton_perm_singleton.mp ((List.perm_cons a).mp hswap)]

lemma actsOn_iff (d : InstanceDir) (hargs : args.Perm [sub.word, d.text]) :
    ActsOn env args sub d ↔ Reads env args sub d := by
  obtain rfl | rfl := perm_pair hargs
  · rw [ActsOn, Reads]
    by_cases h : sub = .on
    · subst h
      simp [cmdStartup_on]
    · rw [cmdStartup_other env d h]
      simp [h, startupUnitName_inj]
  · have hne : [d.text, sub.word] ≠ [sub.word, d.text] := by
      intro heq
      have hsome := subOf_word sub
      rw [← (List.cons.inj heq).1, subOf_text] at hsome
      cases hsome
    rw [ActsOn, Reads, cmdStartup_swapped]
    simp [hne]

/-- Instances are isolated, and a command is for the one that it names, exactly when their paths
differ in what the names keep and the command is read in full. -/
theorem instances_isolated_iff (env : Env) (canonicalize : Text → Option Text)
    (d₁ d₂ : InstanceDir) (sub : Sub) (args : List Text) (_ : d₁.text ≠ d₂.text)
    (hargs : args.Perm [sub.word, d₁.text]) :
    (Apart env canonicalize d₁ d₂ ∧ ActsOn env args sub d₁) ↔
      (Distinguished canonicalize d₁ d₂ ∧ Reads env args sub d₁) :=
  and_congr apart_iff (actsOn_iff d₁ hargs)

def instanceAt (name : Text) (h : name ≠ [] ∧ name ≠ ['.'] ∧ '/' ∉ name) : InstanceDir where
  parts := ["srv".toList, name]
  proper := by
    intro c hc
    obtain rfl | rfl : c = "srv".toList ∨ c = name := by simpa using hc
    · decide
    · exact h

def plainEnv : Env where
  serverNamespace := "msrtc-server".toList
  cwd := some "/home".toList
  exeDir := none
  present _ := false

theorem instances_isolated_on :
    Apart plainEnv some (instanceAt ['a'] (by decide)) (instanceAt ['b'] (by decide)) ∧
      ActsOn plainEnv [Sub.on.word, "/srv/a".toList] .on (instanceAt ['a'] (by decide)) := by
  apply (instances_isolated_iff plainEnv some (instanceAt ['a'] (by decide))
    (instanceAt ['b'] (by decide)) .on [Sub.on.word, "/srv/a".toList] (by decide)
    (List.Perm.refl _)).mpr
  exact ⟨⟨by decide, by decide, by decide⟩, rfl, Or.inl rfl⟩

/-- Two directories whose names have the same letters share their daemons, and an `off` for one of
them is for another directory. -/
theorem instances_not_isolated :
    (instanceAt ['a', 'b'] (by decide)).text ≠ (instanceAt ['b', 'a'] (by decide)).text ∧
      ¬ Apart plainEnv some (instanceAt ['a', 'b'] (by decide)) (instanceAt ['b', 'a'] (by decide)) ∧
      ¬ ActsOn plainEnv [Sub.off.word, "/srv/ab".toList] .off (instanceAt ['a', 'b'] (by decide)) := by
  refine ⟨by decide, ?_, ?_⟩
  · intro h
    exact h.daemon (by rfl)
  · intro h
    have hperm : [Sub.off.word, "/srv/ab".toList].Perm
        [Sub.off.word, (instanceAt ['a', 'b'] (by decide)).text] := List.Perm.refl _
    obtain ⟨-, hon | hslug⟩ := (actsOn_iff _ hperm).mp h
    · cases hon
    · exact absurd hslug (by decide)

end MediaServo.Server.Startup
