import MediaServo.Foundations.Partial
import MediaServo.Host.Translate

/-! What an accepted configuration guarantees of its ids, and the apps that it is rendered to. -/

namespace MediaServo.Host

lemma checkIds_ok {kind what : String} {seen ids : List String} :
    checkIds kind what seen ids = .ok () ↔
      (∀ id ∈ ids, validId id = true) ∧ ids.Nodup ∧ ∀ id ∈ ids, id ∉ seen := by
  induction ids generalizing seen with
  | nil => simp [checkIds]
  | cons id rest ih =>
    simp only [checkIds, checkId]
    by_cases hv : validId id = true
    · by_cases hs : id ∈ seen
      · simp [hv, hs]
      · simp only [hv, if_true, hs, if_false, ih, List.nodup_cons, List.mem_cons, not_or]
        constructor
        · rintro ⟨h1, h2, h3⟩
          refine ⟨?_, ⟨fun hm => (h3 id hm).1 rfl, h2⟩, ?_⟩
          · rintro k (rfl | hk)
            · exact hv
            · exact h1 k hk
          · rintro k (rfl | hk)
            · exact hs
            · exact (h3 k hk).2
        · rintro ⟨h1, ⟨h2, h3⟩, h4⟩
          refine ⟨fun k hk => h1 k (Or.inr hk), h3, fun k hk => ⟨?_, h4 k (Or.inr hk)⟩⟩
          rintro rfl
          exact h2 hk
    · simp [hv]

lemma forall₂_map_eq {α β γ : Type} {R : α → β → Prop} {f : α → γ} {g : β → γ}
    (hR : ∀ a b, R a b → g b = f a) {l : List α} {r : List β} (h : List.Forall₂ R l r) :
    r.map g = l.map f := by
  induction h with
  | nil => rfl
  | cons hab _ ih => rw [List.map_cons, List.map_cons, hR _ _ hab, ih]

lemma forall₂_mem {α β : Type} {R : α → β → Prop} {l : List α} {r : List β}
    (h : List.Forall₂ R l r) {a : α} (ha : a ∈ l) : ∃ b ∈ r, R a b := by
  induction h with
  | nil => cases ha
  | @cons x b l r hab _ ih =>
    rcases List.mem_cons.mp ha with rfl | ha
    · exact ⟨b, List.mem_cons_self, hab⟩
    · obtain ⟨y, hy, hay⟩ := ih ha
      exact ⟨y, List.mem_cons_of_mem b hy, hay⟩

lemma sourceConfig_id {d : SourceDefaults} {c : Source} {s : SourceConfig}
    (h : sourceConfig d c = .ok s) : s.id = c.id := by
  simp only [sourceConfig] at h
  split_ifs at h
  cases h
  rfl

lemma streamConfig_id {d : StreamDefaults} {c : Stream} {s : StreamConfig}
    (h : streamConfig d c = .ok s) : s.id = c.id := by
  simp only [streamConfig] at h
  split_ifs at h
  cases h
  rfl

namespace HostConfig

variable {c : HostConfig}

lemma cameraConfigs_ids {sources : List SourceConfig} (h : c.cameraConfigs = .ok sources) :
    sources.map SourceConfig.id = c.sources.map Source.id :=
  forall₂_map_eq (fun _ _ hab => sourceConfig_id hab) (Foundations.mapM_eq_ok.mp h)

lemma streamConfigs_ids {streams : List StreamConfig} (h : c.streamConfigs = .ok streams) :
    streams.map StreamConfig.id = c.streams.map Stream.id :=
  forall₂_map_eq (fun _ _ hab => streamConfig_id hab) (Foundations.mapM_eq_ok.mp h)

structure Accepted (c : HostConfig) (sources : List SourceConfig) (streams : List StreamConfig) :
    Prop where
  cameraConfigs : c.cameraConfigs = .ok sources
  streamConfigs : c.streamConfigs = .ok streams
  sourceIds : ∀ s ∈ sources, validId s.id = true
  sourcesNodup : (sources.map SourceConfig.id).Nodup
  streamIds : ∀ s ∈ streams, validId s.id = true
  streamsNodup : (streams.map StreamConfig.id).Nodup

lemma accepted_of_validate (h : c.validate = .ok ()) :
    ∃ sources streams, c.Accepted sources streams := by
  rw [validate] at h
  cases hs : c.cameraConfigs with
  | error e =>
    rw [hs] at h
    cases h
  | ok sources =>
    cases ht : c.streamConfigs with
    | error e =>
      rw [hs, ht] at h
      cases h
    | ok streams =>
      rw [hs, ht] at h
      simp only [bind, Except.bind] at h
      split at h
      · cases h
      · rename_i hcs
        have hsrc := checkIds_ok.1 hcs
        have hstr := checkIds_ok.1 h
        refine ⟨sources, streams, hs, ht, ?_, hsrc.2.1, ?_, hstr.2.1⟩
        · intro s hm
          exact hsrc.1 _ (List.mem_map_of_mem hm)
        · intro s hm
          exact hstr.1 _ (List.mem_map_of_mem hm)

end HostConfig

lemma accepted_of_text {y : Reader} {cfg : String} {c : HostConfig} (hp : parse y cfg = .ok c)
    (hv : validate y cfg = .ok ()) : ∃ sources streams, c.Accepted sources streams := by
  rw [validate, hp] at hv
  exact HostConfig.accepted_of_validate hv

lemma apps_of_accepted {c : HostConfig} {sources : List SourceConfig} {streams : List StreamConfig}
    (h : c.Accepted sources streams) (env : Env) (inst : Option Dir) :
    apps env c inst = .ok (fixedApps env c inst ++ sources.map (capturerApp env inst) ++
      (streams.map StreamConfig.id).map (streamerApp env c inst sources streams)) := by
  rw [apps, h.cameraConfigs, h.streamConfigs, HostConfig.streamConfigs_ids h.streamConfigs]
  rfl

def rosterBases (c : HostConfig) : List String :=
  fixedAppBases.filter (fun b => ¬(b = "recorder" ∧ c.recordEnabledRaw = some false))

def rosterNames (env : Env) (c : HostConfig) : List String :=
  (rosterBases c).map env.appName ++
    c.sources.map (fun s => instanceName (env.appName "capturer") s.id) ++
    c.streams.map (fun s => instanceName (env.appName "streamer") s.id)

section Names

variable {c : HostConfig} {sources : List SourceConfig} {streams : List StreamConfig}

lemma apps_names (h : c.Accepted sources streams) (env : Env) (inst : Option Dir) :
    (fixedApps env c inst ++ sources.map (capturerApp env inst) ++
      (streams.map StreamConfig.id).map (streamerApp env c inst sources streams)).map App.name =
      rosterNames env c := by
  have hsources := HostConfig.cameraConfigs_ids h.cameraConfigs
  have hstreams := HostConfig.streamConfigs_ids h.streamConfigs
  have hcapturers : (sources.map (capturerApp env inst)).map App.name =
      (sources.map SourceConfig.id).map (instanceName (env.appName "capturer")) := by
    rw [List.map_map, List.map_map]
    rfl
  have hstreamers : ((streams.map StreamConfig.id).map
      (streamerApp env c inst sources streams)).map App.name =
      (streams.map StreamConfig.id).map (instanceName (env.appName "streamer")) := by
    rw [List.map_map]
    rfl
  have hfixed : (fixedApps env c inst).map App.name = (rosterBases c).map env.appName := by
    rw [fixedApps, List.map_map]
    rfl
  rw [List.map_append, List.map_append, hfixed, hcapturers, hstreamers, hsources, hstreams,
    List.map_map, List.map_map]
  rfl

lemma appName_append (env : Env) (kind id : String) :
    instanceName (env.appName kind) id = env.appName (kind ++ "-" ++ id) := by
  simp [instanceName, Env.appName, String.append_assoc]

lemma appName_inj (env : Env) {a b : String} : env.appName a = env.appName b ↔ a = b := by
  rw [Env.appName, Env.appName]
  exact String.append_right_inj _

lemma rosterNames_eq (env : Env) (c : HostConfig) :
    rosterNames env c = (rosterBases c ++ c.sources.map (fun s => "capturer-" ++ s.id) ++
      c.streams.map (fun s => "streamer-" ++ s.id)).map env.appName := by
  simp only [rosterNames, List.map_append, List.map_map, appName_append]
  rfl

lemma instances_not_fixed (id : String) :
    "capturer-" ++ id ∉ fixedAppBases ∧ "streamer-" ++ id ∉ fixedAppBases := by
  have hstart : ∀ b ∈ fixedAppBases,
      b.toList.take 2 ≠ ['c', 'a'] ∧ b.toList.take 2 ≠ ['s', 't'] := by decide
  refine ⟨fun hm => (hstart _ hm).1 ?_, fun hm => (hstart _ hm).2 ?_⟩
  · simp [String.toList_append]
  · simp [String.toList_append]

lemma mem_rosterBases {b : String} (h : b ∈ rosterBases c) : b ∈ fixedAppBases :=
  (List.mem_filter.mp h).1

lemma rosterNames_nodup (h : c.Accepted sources streams) (env : Env) : (rosterNames env c).Nodup := by
  have hsources : (c.sources.map Source.id).Nodup := by
    rw [← HostConfig.cameraConfigs_ids h.cameraConfigs]
    exact h.sourcesNodup
  have hstreams : (c.streams.map Stream.id).Nodup := by
    rw [← HostConfig.streamConfigs_ids h.streamConfigs]
    exact h.streamsNodup
  have hprefixed : ∀ (p : String) {ids : List String}, ids.Nodup → (ids.map (p ++ ·)).Nodup := by
    intro p ids hn
    exact hn.map (fun a b hab => (String.append_right_inj p).mp hab)
  rw [rosterNames_eq, List.nodup_map_iff (fun a b hab => (appName_inj env).mp hab)]
  refine List.nodup_append'.mpr ⟨List.nodup_append'.mpr ⟨?_, ?_, ?_⟩, ?_, ?_⟩
  · have hfixed : fixedAppBases.Nodup := by decide
    exact hfixed.filter _
  · simpa [List.map_map, Function.comp_def] using hprefixed "capturer-" hsources
  · intro b hb hm
    obtain ⟨s, _, rfl⟩ := List.mem_map.mp hm
    exact (instances_not_fixed s.id).1 (mem_rosterBases hb)
  · simpa [List.map_map, Function.comp_def] using hprefixed "streamer-" hstreams
  · intro b hb hm
    obtain ⟨s, _, rfl⟩ := List.mem_map.mp hm
    rcases List.mem_append.mp hb with hb | hb
    · exact (instances_not_fixed s.id).2 (mem_rosterBases hb)
    · obtain ⟨src, _, he⟩ := List.mem_map.mp hb
      have htake := congrArg (fun t => t.toList.take 2) he
      simp [String.toList_append] at htake

lemma recorder_expected (c : HostConfig) :
    c.recordConfig.enabled = true ↔ c.recordEnabledRaw = some true := by
  rw [HostConfig.recordConfig]
  cases c.recordEnabledRaw with
  | none => simp
  | some b => simp

lemma mem_expectedNames {env : Env} {n : String} :
    n ∈ expectedNames env c ↔
      (∃ b ∈ fixedAppBases, n = env.appName b ∧ (b = "recorder" → c.recordEnabledRaw = some true)) ∨
      n ∈ c.sources.map (fun s => instanceName (env.appName "capturer") s.id) ++
        c.streams.map (fun s => instanceName (env.appName "streamer") s.id) := by
  have hfixed : n ∈ (if c.recordConfig.enabled then fixedAppBases.map env.appName
      else (fixedAppBases.map env.appName).filter (· ≠ env.appName "recorder")) ↔
      ∃ b ∈ fixedAppBases, n = env.appName b ∧
        (b = "recorder" → c.recordEnabledRaw = some true) := by
    rw [← recorder_expected]
    by_cases he : c.recordConfig.enabled = true
    · simp [he, eq_comm]
    · rw [if_neg he, List.mem_filter, List.mem_map, decide_eq_true_eq]
      constructor
      · rintro ⟨⟨b, hb, rfl⟩, hne⟩
        exact ⟨b, hb, rfl, fun hr => absurd (congrArg _ hr) hne⟩
      · rintro ⟨b, hb, rfl, hr⟩
        exact ⟨⟨b, hb, rfl⟩, fun heq => he (hr ((appName_inj env).mp heq))⟩
  simp only [expectedNames, List.append_assoc, List.mem_append, hfixed,
    HostConfig.cameraAndStreamIds, List.map_map]
  rfl

lemma mem_rosterNames {env : Env} {n : String} :
    n ∈ rosterNames env c ↔
      (∃ b ∈ fixedAppBases, n = env.appName b ∧ (b = "recorder" → c.recordEnabledRaw ≠ some false)) ∨
      n ∈ c.sources.map (fun s => instanceName (env.appName "capturer") s.id) ++
        c.streams.map (fun s => instanceName (env.appName "streamer") s.id) := by
  have hfixed : n ∈ (rosterBases c).map env.appName ↔ ∃ b ∈ fixedAppBases, n = env.appName b ∧
      (b = "recorder" → c.recordEnabledRaw ≠ some false) := by
    simp only [rosterBases, List.mem_map, List.mem_filter, decide_eq_true_eq, not_and]
    constructor
    · rintro ⟨b, ⟨hb, hr⟩, rfl⟩
      exact ⟨b, hb, rfl, hr⟩
    · rintro ⟨b, hb, rfl, hr⟩
      exact ⟨b, ⟨hb, hr⟩, rfl⟩
  rw [rosterNames, List.append_assoc, List.mem_append, hfixed]

lemma expectedNames_subset {env : Env} {n : String} (h : n ∈ expectedNames env c) :
    n ∈ rosterNames env c := by
  rw [mem_expectedNames] at h
  rw [mem_rosterNames]
  rcases h with ⟨b, hb, rfl, hr⟩ | h
  · exact Or.inl ⟨b, hb, rfl, fun hrec => by simp [hr hrec]⟩
  · exact Or.inr h

lemma only_recorder_unexpected {env : Env} {n : String} (h : n ∈ rosterNames env c)
    (hn : n ∉ expectedNames env c) : n = env.appName "recorder" := by
  rw [mem_rosterNames] at h
  rw [mem_expectedNames, not_or] at hn
  rcases h with ⟨b, hb, rfl, _⟩ | h
  · by_contra hne
    exact hn.1 ⟨b, hb, rfl, fun hrec => absurd (congrArg _ hrec) hne⟩
  · exact absurd h hn.2

end Names

end MediaServo.Host
