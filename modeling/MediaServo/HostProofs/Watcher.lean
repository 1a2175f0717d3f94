import MediaServo.Host.Watcher

/-! Which contents the file-watch bell rings for, over every order of edits, pushes, samples and
core runs. -/

namespace MediaServo.Host.Watch

open MediaServo.Foundations

/-- A content seen in two samples in a row that the core was not handed last rings the bell. -/
def NoneMissed (l : List Sample) : Prop :=
  ∀ as x y bs h, l = as ++ x :: y :: bs → x.value = some h → y.value = some h →
    y.handed ≠ some h → y.triggered = true

/-- The bell rings only for a content that the sample before saw too. -/
def NonePremature (l : List Sample) : Prop :=
  ∀ as y bs, l = as ++ y :: bs → y.triggered = true →
    ∃ cs x h, as = cs ++ [x] ∧ x.value = some h ∧ y.value = some h

/-- Between two rings for the same content a sample saw something else. -/
def OncePerContent (l : List Sample) : Prop :=
  ∀ as x bs y cs, l = as ++ x :: (bs ++ y :: cs) → x.triggered = true → y.triggered = true →
    y.value = x.value → ∃ z ∈ bs, z.value ≠ x.value

def lastValue (l : List Sample) : Option String := l.getLast?.bind Sample.value

/-- A content that rang and has been the only one since. -/
def Settled (l : List Sample) (h : String) : Prop :=
  ∀ as x bs, l = as ++ x :: bs → x.triggered = true → (∀ z ∈ bs, z.value = x.value) →
    x.value = some h

variable {l : List Sample} {y : Sample}

lemma snoc_split {as bs : List Sample} {x : Sample} (h : l ++ [y] = as ++ x :: bs) :
    (bs = [] ∧ x = y ∧ as = l) ∨ ∃ cs, bs = cs ++ [y] ∧ l = as ++ x :: cs := by
  rcases List.eq_nil_or_concat' bs with rfl | ⟨cs, b, rfl⟩
  · obtain ⟨hl, hx⟩ := List.append_inj' h rfl
    cases hx
    exact Or.inl ⟨rfl, rfl, hl.symm⟩
  · rw [← List.cons_append, ← List.append_assoc] at h
    obtain ⟨hl, hb⟩ := List.append_inj' h rfl
    cases hb
    exact Or.inr ⟨cs, rfl, hl⟩

lemma NoneMissed.snoc (h : NoneMissed l)
    (hy : ∀ k, lastValue l = some k → y.value = some k → y.handed ≠ some k → y.triggered = true) :
    NoneMissed (l ++ [y]) := by
  intro as x z bs k heq hx hz hne
  have hsplit : l ++ [y] = (as ++ [x]) ++ z :: bs := by
    simpa using heq
  rcases snoc_split hsplit with ⟨_, rfl, rfl⟩ | ⟨cs, _, hl⟩
  · exact hy k (by simpa [lastValue] using hx) hz hne
  · exact h as x z cs k (by simpa using hl) hx hz hne

lemma NonePremature.snoc (h : NonePremature l)
    (hy : y.triggered = true → ∃ k, lastValue l = some k ∧ y.value = some k) :
    NonePremature (l ++ [y]) := by
  intro as z bs heq hz
  rcases snoc_split heq with ⟨_, rfl, rfl⟩ | ⟨cs, _, hl⟩
  · obtain ⟨k, hk, hzk⟩ := hy hz
    rcases List.eq_nil_or_concat' as with rfl | ⟨ds, x, rfl⟩
    · cases hk
    · exact ⟨ds, x, k, rfl, by simpa [lastValue] using hk, hzk⟩
  · exact h as z cs hl hz

lemma Settled.snoc {h k : String} (hl : Settled l h) (hnew : y.triggered = true → y.value = some k)
    (hold : y.value = some h → k = h) : Settled (l ++ [y]) k := by
  intro as x bs heq hx hbs
  rcases snoc_split heq with ⟨_, rfl, _⟩ | ⟨cs, rfl, hl'⟩
  · exact hnew hx
  · have hxh := hl as x cs hl' hx (fun z hz => hbs z (by simp [hz]))
    have hyx : y.value = x.value := hbs y (by simp)
    rw [hxh, hold (hyx.trans hxh)]

lemma OncePerContent.snoc {h : String} (ho : OncePerContent l) (hl : Settled l h)
    (hy : y.triggered = true → y.value ≠ some h) : OncePerContent (l ++ [y]) := by
  intro as x bs z cs heq hx hz hzx
  have hsplit : l ++ [y] = (as ++ x :: bs) ++ z :: cs := by
    simpa using heq
  rcases snoc_split hsplit with ⟨_, rfl, hl'⟩ | ⟨ds, _, hl'⟩
  · by_contra hall
    have hbs : ∀ w ∈ bs, w.value = x.value := by
      intro w hw
      by_contra hne
      exact hall ⟨w, hw, hne⟩
    exact hy hz (hzx.trans (hl as x bs hl'.symm hx hbs))
  · exact ho as x bs z ds (by simpa using hl') hx hz hzx

namespace Agent

/-- The content did not change between the core's last read and the watcher's first one, and no
edit or push brings back the content of the watcher's baseline while the core has been handed
another one since. -/
def Attended (s : Agent) : Action → Prop
  | .spawn => ∀ h, s.file = some h → s.handed = some h
  | .edit content => content = some s.baseline → s.handed = some s.baseline
  | .pushWrite content => content = s.baseline → s.handed = some s.baseline
  | _ => True

variable {s : Agent}

lemma watchTick_trigger {cur prev : Option String} {baseline h : String} :
    watchTick cur prev baseline = .trigger h ↔ cur = some h ∧ prev = some h ∧ h ≠ baseline := by
  cases cur with
  | none => simp [watchTick]
  | some k =>
    simp only [watchTick]
    split_ifs with hb hp
    · simp only [Option.some.injEq, false_iff]
      rintro ⟨rfl, _, hne⟩
      exact hne hb
    · simp only [WatchAction.trigger.injEq, Option.some.injEq]
      constructor
      · rintro rfl
        exact ⟨rfl, hp, hb⟩
      · exact fun h => h.1
    · simp only [Option.some.injEq, false_iff]
      rintro ⟨rfl, hp', _⟩
      exact hp hp'

def Rings (s : Agent) : Prop := ∃ h, watchTick s.file s.prev s.baseline = .trigger h

instance : Decidable s.Rings :=
  match h : watchTick s.file s.prev s.baseline with
  | .trigger k => isTrue ⟨k, h⟩
  | .follow => isFalse (by rintro ⟨k, hk⟩; rw [h] at hk; cases hk)
  | .wait => isFalse (by rintro ⟨k, hk⟩; rw [h] at hk; cases hk)

lemma rings_iff : s.Rings ↔ ∃ h, s.file = some h ∧ s.prev = some h ∧ h ≠ s.baseline := by
  simp only [Rings, watchTick_trigger]

lemma sample_samples :
    s.sample.samples = s.samples ++ [⟨s.file, s.handed, decide s.Rings⟩] := by
  rw [sample]
  split
  · rename_i h hk
    have : s.Rings := ⟨h, hk⟩
    simp [this]
  · rename_i hn
    have : ¬s.Rings := fun ⟨h, hk⟩ => hn h hk
    simp [this]

lemma sample_prev : s.sample.prev = s.file := by
  rw [sample]
  split <;> rfl

lemma sample_file : s.sample.file = s.file := by
  rw [sample]
  split <;> rfl

lemma sample_of_rings {h : String} (hr : watchTick s.file s.prev s.baseline = .trigger h) :
    s.sample.baseline = h ∧ s.sample.handed = some h := by
  simp only [sample, hr, and_self]

lemma sample_of_quiet (hr : ¬s.Rings) :
    s.sample.baseline = s.baseline ∧ s.sample.handed = s.handed := by
  rw [sample]
  split
  · rename_i h hk
    exact absurd ⟨h, hk⟩ hr
  · exact ⟨rfl, rfl⟩

/-- What every run keeps: the loop remembers its last sample, and a content that rang and stayed
is the baseline. -/
structure Watched (s : Agent) : Prop where
  before : s.stage = .booting ∨ s.stage = .live → s.samples = []
  last : s.prev = lastValue s.samples
  settled : Settled s.samples s.baseline
  premature : NonePremature s.samples
  once : OncePerContent s.samples

lemma Watched.frame {t : Agent} (h : s.Watched)
    (hstage : t.stage = .live → s.stage = .booting ∨ s.stage = .live)
    (hboot : t.stage = .booting → s.stage = .booting) (hp : t.prev = s.prev)
    (hb : t.baseline = s.baseline) (hl : t.samples = s.samples) : t.Watched where
  before := by
    rw [hl]
    rintro (hs | hs)
    · exact h.before (Or.inl (hboot hs))
    · exact h.before (hstage hs)
  last := by
    rw [hp, hl]
    exact h.last
  settled := by
    rw [hb, hl]
    exact h.settled
  premature := by
    rw [hl]
    exact h.premature
  once := by
    rw [hl]
    exact h.once

lemma sample_watched (h : s.Watched) (hs : s.stage = .watching) : s.sample.Watched where
  before := by
    rw [sample]
    split
    · rintro (hc | hc) <;> cases hc
    · simp [hs]
  last := by
    simp [sample_prev, sample_samples, lastValue]
  settled := by
    rw [sample_samples]
    by_cases hr : s.Rings
    · obtain ⟨k, hk⟩ := hr
      obtain ⟨hf, _, hne⟩ := watchTick_trigger.1 hk
      rw [(sample_of_rings hk).1]
      apply h.settled.snoc
      · exact fun _ => hf
      · intro hb
        rw [hf] at hb
        exact Option.some.inj hb
    · rw [(sample_of_quiet hr).1]
      apply h.settled.snoc
      · intro ht
        exact absurd (of_decide_eq_true ht) hr
      · exact fun _ => rfl
  premature := by
    rw [sample_samples]
    apply h.premature.snoc
    intro ht
    obtain ⟨k, hf, hp, _⟩ := rings_iff.1 (of_decide_eq_true ht)
    exact ⟨k, h.last ▸ hp, hf⟩
  once := by
    rw [sample_samples]
    apply h.once.snoc h.settled
    intro ht hb
    obtain ⟨k, hf, _, hne⟩ := rings_iff.1 (of_decide_eq_true ht)
    rw [show s.file = some s.baseline from hb] at hf
    exact hne (Option.some.inj hf).symm

lemma step_watched (a : Action) (h : s.Watched) : (s.step a).Watched := by
  cases a with
  | edit content => exact h.frame Or.inr id rfl rfl rfl
  | boot =>
    simp only [step]
    split_ifs
    · exact h.frame Or.inr id rfl rfl rfl
    · exact h
  | bells =>
    simp only [step]
    split_ifs with hs
    · exact h.frame (fun _ => Or.inl hs) nofun rfl rfl rfl
    · exact h
  | spawn =>
    simp only [step]
    split_ifs with hs
    · have hnil := h.before (Or.inr hs)
      refine ⟨?_, ?_, ?_, h.premature, h.once⟩
      · rintro (hc | hc) <;> cases hc
      · simp [spawnWatcher, hnil, lastValue]
      · intro as x bs heq
        simp [spawnWatcher, hnil] at heq
    · exact h
  | sample =>
    simp only [step]
    split_ifs with hs
    · exact sample_watched h hs
    · exact h
  | execute read =>
    simp only [step]
    split_ifs
    · exact h.frame nofun nofun rfl rfl rfl
    · exact h.frame nofun nofun rfl rfl rfl
    · exact h
  | pushWrite content =>
    simp only [step]
    split_ifs
    · exact h
    · exact h.frame Or.inr id rfl rfl rfl
  | pushExecute =>
    simp only [step]
    split_ifs
    · exact h
    · exact h.frame Or.inr id rfl rfl rfl

lemma start_watched (file : Option String) : (start file).Watched where
  before := fun _ => rfl
  last := rfl
  settled := by
    intro as x bs heq
    simp [start] at heq
  premature := by
    intro as x bs heq
    simp [start] at heq
  once := by
    intro as x bs y cs heq
    simp [start] at heq

def Running (s : Agent) : Prop := s.stage = .watching ∨ s.stage = .executing

/-- A run in which every edit is attended to: a file that is back at the baseline is what the core
was handed last. -/
structure Noticed (s : Agent) : Prop where
  handed : s.Running → s.file = some s.baseline → s.handed = some s.baseline
  missed : NoneMissed s.samples

lemma take_handed (h : s.file = some s.baseline) : s.take.handed = some s.baseline := by
  simp [take, h]

lemma sample_noticed (h : s.Watched) (hn : s.Noticed) (hs : s.stage = .watching) :
    s.sample.Noticed where
  handed := by
    intro _ hf
    rw [sample_file] at hf
    by_cases hr : s.Rings
    · obtain ⟨k, hk⟩ := hr
      rw [(sample_of_rings hk).1, (sample_of_rings hk).2]
    · rw [(sample_of_quiet hr).1] at hf ⊢
      rw [(sample_of_quiet hr).2]
      exact hn.handed (Or.inl hs) hf
  missed := by
    rw [sample_samples]
    apply hn.missed.snoc
    intro k hlast hf hne
    -- the content is not the baseline, which the core was handed last
    have hb : k ≠ s.baseline := by
      rintro rfl
      exact hne (hn.handed (Or.inl hs) hf)
    simp only [decide_eq_true_eq]
    exact rings_iff.2 ⟨k, hf, h.last.trans hlast, hb⟩

lemma step_noticed (a : Action) (h : s.Watched) (hn : s.Noticed) (ha : s.Attended a) :
    (s.step a).Noticed := by
  cases a with
  | edit content => exact ⟨fun _ hf => ha hf, hn.missed⟩
  | boot =>
    simp only [step]
    split_ifs
    · exact ⟨fun _ hf => take_handed hf, hn.missed⟩
    · exact hn
  | bells =>
    simp only [step]
    split_ifs
    · refine ⟨?_, hn.missed⟩
      rintro (hc | hc) <;> cases hc
    · exact hn
  | spawn =>
    simp only [step]
    split_ifs
    · exact ⟨fun _ hf => ha _ hf, hn.missed⟩
    · exact hn
  | sample =>
    simp only [step]
    split_ifs with hs
    · exact sample_noticed h hn hs
    · exact hn
  | execute read =>
    simp only [step]
    split_ifs with hs
    · exact ⟨fun _ hf => take_handed hf, hn.missed⟩
    · exact ⟨fun _ hf => hn.handed (Or.inr hs) hf, hn.missed⟩
    · exact hn
  | pushWrite content =>
    simp only [step]
    split_ifs
    · exact hn
    · exact ⟨fun _ hf => ha (Option.some.inj hf), hn.missed⟩
  | pushExecute =>
    simp only [step]
    split_ifs
    · exact hn
    · exact ⟨fun _ hf => take_handed hf, hn.missed⟩

theorem rings_confirmed_once (file : Option String) (acts : List Action) :
    NonePremature (run step (start file) acts).samples ∧
      OncePerContent (run step (start file) acts).samples := by
  have h := run_preserves (start_watched file) (fun _ a hs => step_watched a hs) acts
  exact ⟨h.premature, h.once⟩

theorem edits_noticed (file : Option String) (acts : List Action)
    (ha : Along step Attended (start file) acts) :
    NoneMissed (run step (start file) acts).samples ∧
      NonePremature (run step (start file) acts).samples ∧
      OncePerContent (run step (start file) acts).samples := by
  have hstart : (start file).Watched ∧ (start file).Noticed := by
    refine ⟨start_watched file, ?_, ?_⟩
    · rintro (hc | hc) <;> cases hc
    · intro as x y bs k heq
      simp [start] at heq
  have h := run_invariant (I := fun t => t.Watched ∧ t.Noticed) hstart
    (fun _ a hs hc => ⟨step_watched a hs.1, step_noticed a hs.1 hs.2 hc⟩) ha
  exact ⟨h.2.missed, rings_confirmed_once file acts⟩

def localEdit : List Action :=
  [.boot, .bells, .spawn, .sample, .edit (some "new"), .sample, .sample, .execute true, .sample]

theorem edits_noticed_local_edit :
    Along step Attended (start (some "old")) localEdit ∧
      NoneMissed (run step (start (some "old")) localEdit).samples := by
  have ha : Along step Attended (start (some "old")) localEdit := by
    refine ⟨trivial, trivial, fun _ hf => hf, trivial, ?_, trivial, trivial, trivial, trivial, trivial⟩
    intro hc
    revert hc
    decide
  exact ⟨ha, (edits_noticed (some "old") localEdit ha).1⟩

def pushReverted : List Action :=
  [.boot, .bells, .spawn, .pushWrite "pushed", .pushExecute, .edit (some "old"), .sample, .sample]

theorem reverted_push_missed :
    ¬∀ (file : Option String) (acts : List Action),
      NoneMissed (run step (start file) acts).samples ∧
        NonePremature (run step (start file) acts).samples ∧
        OncePerContent (run step (start file) acts).samples := by
  intro h
  have hm := (h (some "old") pushReverted).1 []
    ⟨some "old", some "pushed", false⟩ ⟨some "old", some "pushed", false⟩ [] "old"
    (by decide) rfl rfl (by decide)
  cases hm

end Agent

end MediaServo.Host.Watch
