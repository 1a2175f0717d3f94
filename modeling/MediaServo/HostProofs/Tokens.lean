import MediaServo.Host.Tokens
import MediaServo.HostProofs.Roster

/-! The token files of an instance: the names that the translator gives to the apps against what
the issuing command writes there. A token with topics of its own grants no more than the matrix grants
its role. -/

namespace MediaServo.Host

open MediaServo.Foundations

def tokenFile (d : Dir) (name : String) : String := d.tokenDir ++ "/" ++ name

lemma tokenFile_inj (d : Dir) {a b : String} : tokenFile d a = tokenFile d b ↔ a = b := by
  simp [tokenFile, String.append_assoc, String.append_right_inj]

lemma joinPath_last (dir rel : String) (c : Char) (h : rel.toList.getLast? = some c) :
    (joinPath dir rel).toList.getLast? = some c := by
  have hne : rel.toList ≠ [] := by
    intro hn
    rw [hn] at h
    cases h
  simp only [joinPath]
  split_ifs
  · exact h
  · exact h
  · rw [String.toList_append, List.getLast?_append_of_ne_nil _ hne, h]
  · rw [String.toList_append, List.getLast?_append_of_ne_nil _ hne, h]

lemma joinPath_tokenDir (d : Dir) (name : String) (h : isAbsolute name = false) :
    joinPath d.tokenDir name = tokenFile d name := by
  have hlast : d.tokenDir.toList.getLast? = some 'k' := joinPath_last _ "link" 'k' rfl
  have hne : d.tokenDir.isEmpty = false := by
    rw [Bool.eq_false_iff]
    intro he
    rw [String.isEmpty_iff.mp he] at hlast
    cases hlast
  simp [joinPath, h, hne, hlast, tokenFile]

lemma validId_head {id : String} (h : validId id = true) :
    ∃ c rest, id.toList = c :: rest ∧ idChar c = true := by
  simp only [validId, Bool.and_eq_true, Bool.not_eq_true'] at h
  cases hid : id.toList with
  | nil =>
    have : id = "" := String.toList_inj.mp hid
    rw [this] at h
    cases h.1
  | cons c rest =>
    rw [hid] at h
    simp only [List.all_cons, Bool.and_eq_true] at h
    exact ⟨c, rest, rfl, h.2.1⟩

lemma token_not_absolute {id : String} (suffix : String) (h : validId id = true) :
    isAbsolute (id ++ suffix) = false := by
  obtain ⟨c, rest, hid, hc⟩ := validId_head h
  have hne : '/' ≠ c := by
    rintro rfl
    revert hc
    decide
  have hslash : "/".toList = ['/'] := by decide
  simp only [isAbsolute, Common.startsWith, String.toList_append, hid, hslash, List.cons_append]
  simpa [List.isPrefixOf] using hne

lemma captureRequest_out (d : Dir) {src : SourceConfig} (h : validId src.id = true) :
    (captureRequest d src).out = tokenFile d (src.id ++ ".token") :=
  joinPath_tokenDir d _ (token_not_absolute _ h)

lemma streamRequest_out (d : Dir) {s : StreamConfig} (h : validId s.id = true) :
    (streamRequest d s).out = tokenFile d (s.id ++ "-stream.token") :=
  joinPath_tokenDir d _ (token_not_absolute _ h)

lemma recorderRequest_out (d : Dir) : (recorderRequest d).out = tokenFile d "recorder.token" :=
  joinPath_tokenDir d "recorder.token" (by decide)

lemma agentRequest_out (d : Dir) : (agentRequest d).out = tokenFile d "agent.token" :=
  joinPath_tokenDir d "agent.token" (by decide)

lemma optional_flag {α : Type} {flag : String} {text : α → String} {v : Option α}
    {o : String × String} (h : o ∈ optional flag text v) : o.1 = flag := by
  cases v with
  | none => cases h
  | some v =>
    rw [List.mem_singleton.mp h]

lemma lookup_skip {l : List (String × String)} (h : ∀ o ∈ l, o.1 ≠ "--token")
    (rest : List (String × String)) :
    (l ++ rest).lookup "--token" = rest.lookup "--token" := by
  induction l with
  | nil => rfl
  | cons o l ih =>
    have hne : ("--token" == o.1) = false := by simpa using (h o List.mem_cons_self).symm
    rw [List.cons_append, List.lookup_cons, hne]
    exact ih (fun o ho => h o (List.mem_cons_of_mem _ ho))

lemma lookup_optional {α : Type} {flag : String} (text : α → String) (v : Option α)
    (h : flag ≠ "--token") (rest : List (String × String)) :
    (optional flag text v ++ rest).lookup "--token" = rest.lookup "--token" := by
  apply lookup_skip
  intro o ho
  rw [optional_flag ho]
  exact h

lemma encoderOptions_flag {sourceFps : String → Option ℕ} {sc : StreamConfig} {o : String × String}
    (h : o ∈ encoderOptions sourceFps sc) :
    o.1 ∈ ["--encoder-backend", "--degradation", "--content-hint", "--bitrate-kbps",
      "--min-bitrate-kbps", "--keyframe-interval"] := by
  simp only [encoderOptions, List.mem_append] at h
  rcases h with ((((h | h) | h) | h) | h) | h
  · simp [optional_flag h]
  · split_ifs at h
    · simp [List.mem_singleton.mp h]
    · cases h
  · split_ifs at h
    · simp [List.mem_singleton.mp h]
    · cases h
  · simp [optional_flag h]
  · simp [optional_flag h]
  · simp [optional_flag h]

section Paths

variable (env : Env) (c : HostConfig) (d : Dir)

lemma pathOptions_token (name : String) :
    (pathOptions (some d) name).lookup "--token" = some (tokenFile d name) := by
  simp [pathOptions, List.lookup_cons, tokenFile]

lemma agent_tokenPath :
    (fixedApp env c (some d) "agent").tokenPath = some (tokenFile d "agent.token") := by
  simp only [App.tokenPath, fixedApp, fixedOptions, agentOptions, String.reduceEq, if_false, if_true,
    List.append_assoc]
  rw [lookup_optional _ _ (by decide), lookup_optional _ _ (by decide),
    lookup_optional _ _ (by decide), lookup_optional _ _ (by decide), pathOptions_token]

lemma recorder_tokenPath :
    (fixedApp env c (some d) "recorder").tokenPath = some (tokenFile d "recorder.token") := by
  simp only [App.tokenPath, fixedApp, fixedOptions, if_true, pathOptions_token]

lemma capturer_tokenPath (src : SourceConfig) :
    (capturerApp env (some d) src).tokenPath = some (tokenFile d (src.id ++ ".token")) := by
  simp only [App.tokenPath, capturerApp, List.cons_append, List.nil_append]
  rw [List.lookup_cons]
  simp only [show ("--token" == "--camera") = false by decide]
  split_ifs
  · rw [lookup_optional _ _ (by decide), pathOptions_token]
  · exact pathOptions_token d _

lemma streamer_tokenPath (sources : List SourceConfig) (streams : List StreamConfig)
    (stream : String) :
    (streamerApp env c (some d) sources streams stream).tokenPath =
      some (tokenFile d (stream ++ "-stream.token")) := by
  simp only [App.tokenPath, streamerApp]
  rw [lookup_skip, pathOptions_token]
  intro o ho
  rcases List.mem_append.mp ho with ho | ho
  · simp only [List.mem_cons, List.not_mem_nil, or_false] at ho
    rcases ho with rfl | rfl <;> simp
  · split at ho
    · have := encoderOptions_flag ho
      intro heq
      rw [heq] at this
      revert this
      decide
    · cases ho

def tokenNames (sources : List SourceConfig) (streams : List StreamConfig) : List String :=
  (if c.recordEnabledRaw = some false then ["agent.token"] else ["agent.token", "recorder.token"]) ++
    sources.map (fun s => s.id ++ ".token") ++ streams.map (fun s => s.id ++ "-stream.token")

lemma fixed_tokenPaths :
    (fixedApps env c (some d)).filterMap App.tokenPath =
      (if c.recordEnabledRaw = some false then ["agent.token"]
        else ["agent.token", "recorder.token"]).map (tokenFile d) := by
  have hnone : ∀ base, base = "controller" ∨ base = "emergency" ∨ base = "audio" →
      (fixedApp env c (some d) base).tokenPath = none := by
    rintro base (rfl | rfl | rfl)
    · simp only [App.tokenPath, fixedApp, fixedOptions, String.reduceEq, if_false, if_true]
      have := lookup_optional (hmacKeyArg (some d)) c.controlHmacKeyFile
        (show "--hmac-key-file" ≠ "--token" by decide) []
      simpa using this
    · rfl
    · rfl
  by_cases hr : c.recordEnabledRaw = some false
  · simp [fixedApps, fixedAppBases, hr, agent_tokenPath, hnone]
  · simp [fixedApps, fixedAppBases, hr, agent_tokenPath, recorder_tokenPath, hnone]

lemma app_tokenPaths (sources : List SourceConfig) (streams : List StreamConfig) :
    (fixedApps env c (some d) ++ sources.map (capturerApp env (some d)) ++
      (streams.map StreamConfig.id).map (streamerApp env c (some d) sources streams)).filterMap
        App.tokenPath = (tokenNames c sources streams).map (tokenFile d) := by
  rw [List.filterMap_append, List.filterMap_append, fixed_tokenPaths, tokenNames, List.map_append,
    List.map_append]
  congr 1
  · congr 1
    rw [List.filterMap_map, List.map_map, ← List.filterMap_eq_map]
    congr 1
    funext src
    exact capturer_tokenPath env d src
  · rw [List.map_map, List.filterMap_map, List.map_map, ← List.filterMap_eq_map]
    congr 1
    funext st
    exact streamer_tokenPath env c d sources streams st.id

end Paths

/-- No source is called like a file that another app uses. -/
def NamesApart (c : HostConfig) : Prop :=
  ∀ src ∈ c.sources, src.id ≠ "agent" ∧
    (c.recordEnabledRaw ≠ some false → src.id ≠ "recorder") ∧
    ∀ s ∈ c.streams, src.id ≠ s.id ++ "-stream"

def fixedStems (c : HostConfig) : List String :=
  if c.recordEnabledRaw = some false then ["agent"] else ["agent", "recorder"]

lemma tokenNames_eq (c : HostConfig) (sources : List SourceConfig) (streams : List StreamConfig) :
    tokenNames c sources streams =
      (fixedStems c ++ sources.map SourceConfig.id ++
        (streams.map StreamConfig.id).map (· ++ "-stream")).map (· ++ ".token") := by
  have happ : ∀ s : String, s ++ "-stream.token" = (s ++ "-stream") ++ ".token" := by
    intro s
    rw [String.append_assoc]
    rfl
  simp only [tokenNames, fixedStems, List.map_append, List.map_map]
  split_ifs
  · simp [Function.comp_def, happ]
  · simp [Function.comp_def, happ]

lemma stream_stem_ne (s t : String) (h : t.toList.getLast? ≠ some 'm') : s ++ "-stream" ≠ t := by
  rintro rfl
  apply h
  rw [String.toList_append, List.getLast?_append_of_ne_nil _ (by decide)]
  decide

lemma tokenNames_nodup {c : HostConfig} {sources : List SourceConfig} {streams : List StreamConfig}
    (h : c.Accepted sources streams) : (tokenNames c sources streams).Nodup ↔ NamesApart c := by
  have hsrc : ∀ id, id ∈ sources.map SourceConfig.id ↔ ∃ src ∈ c.sources, src.id = id := by
    intro id
    rw [HostConfig.cameraConfigs_ids h.cameraConfigs, List.mem_map]
  have hstr : ∀ id, id ∈ streams.map StreamConfig.id ↔ ∃ s ∈ c.streams, s.id = id := by
    intro id
    rw [HostConfig.streamConfigs_ids h.streamConfigs, List.mem_map]
  have htoken : Function.Injective (fun s : String => s ++ ".token") :=
    fun _ _ he => (String.append_left_inj _).mp he
  have hstream : Function.Injective (fun s : String => s ++ "-stream") :=
    fun _ _ he => (String.append_left_inj _).mp he
  rw [tokenNames_eq, List.nodup_map_iff htoken, List.nodup_append, List.nodup_append]
  constructor
  · rintro ⟨⟨_, _, hfs⟩, _, hdis⟩ src hm
    have hid : src.id ∈ sources.map SourceConfig.id := (hsrc src.id).mpr ⟨src, hm, rfl⟩
    refine ⟨?_, ?_, ?_⟩
    · intro heq
      refine hfs "agent" ?_ src.id hid heq.symm
      rw [fixedStems]
      split_ifs <;> simp
    · intro hr heq
      refine hfs "recorder" ?_ src.id hid heq.symm
      rw [fixedStems, if_neg hr]
      simp
    · intro s hs heq
      refine hdis src.id (List.mem_append_right _ hid) (s.id ++ "-stream") ?_ heq
      exact List.mem_map_of_mem ((hstr s.id).mpr ⟨s, hs, rfl⟩)
  · intro hap
    refine ⟨⟨?_, h.sourcesNodup, ?_⟩, (List.nodup_map_iff hstream).mpr h.streamsNodup, ?_⟩
    · rw [fixedStems]
      split_ifs <;> decide
    · rintro a ha b hb rfl
      obtain ⟨src, hm, rfl⟩ := (hsrc a).mp hb
      rw [fixedStems] at ha
      split_ifs at ha with hr
      · exact (hap src hm).1 (List.mem_singleton.mp ha)
      · simp only [List.mem_cons, List.not_mem_nil, or_false] at ha
        rcases ha with ha | ha
        · exact (hap src hm).1 ha
        · exact (hap src hm).2.1 hr ha
    · rintro a ha b hb rfl
      obtain ⟨k, hk, hka⟩ := List.mem_map.mp hb
      obtain ⟨s, hs, rfl⟩ := (hstr k).mp hk
      rcases List.mem_append.mp ha with ha | ha
      · have hfix : a = "agent" ∨ a = "recorder" := by
          rw [fixedStems] at ha
          split_ifs at ha
          · exact Or.inl (List.mem_singleton.mp ha)
          · simpa using ha
        rcases hfix with rfl | rfl
        · exact stream_stem_ne s.id "agent" (by decide) hka
        · exact stream_stem_ne s.id "recorder" (by decide) hka
      · obtain ⟨src, hm, rfl⟩ := (hsrc a).mp ha
        exact (hap src hm).2.2 s hs hka.symm

section Issue

variable {sign : NodeAcl → String → Except String Unit} {st : Issuing} {r : TokenRequest}

lemma issueMissing_cases (h : (issueMissing sign st r).firstErr = none) :
    st.firstErr = none ∧
      ((st.tokens.contains r.out = true ∧ (issueMissing sign st r).tokens = st.tokens) ∨
        (st.tokens.contains r.out = false ∧ ∃ acl, buildAcl r.node r.role r.topics = .ok acl ∧
          (issueMissing sign st r).tokens = st.tokens.set r.out acl)) := by
  simp only [issueMissing, issueOne] at h ⊢
  split_ifs at h ⊢ with he hc
  · rw [h] at he
    cases he
  · exact ⟨h, Or.inl ⟨hc, rfl⟩⟩
  · refine ⟨by simpa using he, Or.inr ⟨Bool.eq_false_iff.mpr hc, ?_⟩⟩
    cases ha : buildAcl r.node r.role r.topics with
    | error e =>
      rw [ha] at h
      cases h
    | ok acl =>
      rw [ha] at h
      refine ⟨acl, rfl, ?_⟩
      cases hs : sign acl r.out with
      | error e =>
        simp only [hs] at h
        cases h
      | ok u =>
        simp only [hs]

lemma foldl_err {rs : List TokenRequest}
    (h : (rs.foldl (issueMissing sign) st).firstErr = none) : st.firstErr = none := by
  induction rs generalizing st with
  | nil => exact h
  | cons r rs ih => exact (issueMissing_cases (ih h)).1

lemma foldl_keeps {rs : List TokenRequest} {p : String} {acl : NodeAcl}
    (h : (rs.foldl (issueMissing sign) st).firstErr = none) (hp : st.tokens.get p = some acl) :
    (rs.foldl (issueMissing sign) st).tokens.get p = some acl := by
  induction rs generalizing st with
  | nil => exact hp
  | cons r rs ih =>
    apply ih h
    obtain ⟨_, ⟨_, ht⟩ | ⟨hn, acl', _, ht⟩⟩ := issueMissing_cases (foldl_err h)
    · rw [ht]
      exact hp
    · rw [ht, FiniteMap.get_set_ne]
      · exact hp
      · rintro rfl
        simp [FiniteMap.contains, hp] at hn

lemma foldl_untouched {rs : List TokenRequest} {p : String}
    (h : (rs.foldl (issueMissing sign) st).firstErr = none) (hp : st.tokens.get p = none)
    (hrs : ∀ q ∈ rs, q.out ≠ p) : (rs.foldl (issueMissing sign) st).tokens.get p = none := by
  induction rs generalizing st with
  | nil => exact hp
  | cons r rs ih =>
    apply ih h
    · obtain ⟨_, ⟨_, ht⟩ | ⟨_, acl', _, ht⟩⟩ := issueMissing_cases (foldl_err h)
      · rw [ht]
        exact hp
      · rw [ht, FiniteMap.get_set_ne]
        · exact hp
        · exact (hrs r List.mem_cons_self).symm
    · exact fun q hq => hrs q (List.mem_cons_of_mem _ hq)

lemma first_request_wins {as bs : List TokenRequest} {acl : NodeAcl}
    (h : ((as ++ r :: bs).foldl (issueMissing sign) st).firstErr = none)
    (hp : st.tokens.get r.out = none) (has : ∀ q ∈ as, q.out ≠ r.out)
    (hacl : buildAcl r.node r.role r.topics = .ok acl) :
    ((as ++ r :: bs).foldl (issueMissing sign) st).tokens.get r.out = some acl := by
  rw [List.foldl_append, List.foldl_cons] at h ⊢
  apply foldl_keeps h
  have hr := foldl_err h
  have hnone := foldl_untouched (issueMissing_cases hr).1 hp has
  obtain ⟨_, ⟨hc, _⟩ | ⟨_, acl', ha, ht⟩⟩ := issueMissing_cases hr
  · simp [FiniteMap.contains, hnone] at hc
  · rw [hacl] at ha
    cases ha
    rw [ht, FiniteMap.get_set_self]

end Issue

structure OwnTokens (tokens : FiniteMap String NodeAcl) (env : Env) (c : HostConfig) (d : Dir)
    (sources : List SourceConfig) (streams : List StreamConfig) : Prop where
  agent : ∀ p, (fixedApp env c (some d) "agent").tokenPath = some p →
    tokens.get p = some (NodeAcl.forRole "host-agent" .monitor)
  recorder : c.recordEnabledRaw ≠ some false →
    ∀ p, (fixedApp env c (some d) "recorder").tokenPath = some p →
      tokens.get p = some (NodeAcl.forRole "host-recorder" .recorder)
  capturer : ∀ src ∈ sources, ∀ p, (capturerApp env (some d) src).tokenPath = some p →
    tokens.get p = some { NodeAcl.forRole ("host-capturer-" ++ src.id) .capture with
      publishAllow := ["camera/" ++ src.id] }
  streamer : ∀ s ∈ streams, ∀ p,
    (streamerApp env c (some d) sources streams s.id).tokenPath = some p →
      tokens.get p = some { NodeAcl.forRole ("host-streamer-" ++ s.id) .pusher with
        subscribeAllow := ["camera/" ++ s.source, "vision/" ++ s.source] }

/-- The apps' token files are apart, and issuing into an empty directory, when it succeeds, gives
each app its own token. -/
def TokensApart (sign : NodeAcl → String → Except String Unit) (env : Env) (c : HostConfig)
    (d : Dir) : Prop :=
  ∃ as sources streams, apps env c (some d) = .ok as ∧ c.cameraConfigs = .ok sources ∧
    c.streamConfigs = .ok streams ∧ (as.filterMap App.tokenPath).Nodup ∧
    ((issueAll sign d c ∅).firstErr = none →
      OwnTokens (issueAll sign d c ∅).tokens env c d sources streams)

lemma issueAll_of_accepted {sign : NodeAcl → String → Except String Unit} {c : HostConfig}
    {sources : List SourceConfig} {streams : List StreamConfig} (h : c.Accepted sources streams)
    (d : Dir) :
    issueAll sign d c ∅ = (tokenRequests d sources streams).foldl (issueMissing sign) ⟨∅, 0, none⟩ := by
  simp only [issueAll, h.cameraConfigs, h.streamConfigs]

lemma map_split {α β : Type} {f : α → β} {l : List α} {a : α} (h : a ∈ l) (hn : (l.map f).Nodup) :
    ∃ as bs, l = as ++ a :: bs ∧ ∀ b ∈ as, f b ≠ f a := by
  obtain ⟨as, bs, rfl⟩ := List.append_of_mem h
  refine ⟨as, bs, rfl, ?_⟩
  intro b hb heq
  rw [List.map_append, List.nodup_append] at hn
  exact hn.2.2 (f b) (List.mem_map_of_mem hb) (f a) (by simp) heq

section Outs

variable {c : HostConfig} {sources : List SourceConfig} {streams : List StreamConfig} (d : Dir)

lemma capture_out_eq (h : c.Accepted sources streams) {src : SourceConfig} (hs : src ∈ sources)
    {name : String} : (captureRequest d src).out = tokenFile d (name ++ ".token") ↔ src.id = name := by
  rw [captureRequest_out d (h.sourceIds src hs), tokenFile_inj, String.append_left_inj]

lemma stream_out (h : c.Accepted sources streams) {s : StreamConfig} (hs : s ∈ streams) :
    (streamRequest d s).out = tokenFile d ((s.id ++ "-stream") ++ ".token") := by
  rw [streamRequest_out d (h.streamIds s hs), String.append_assoc]
  rfl

lemma stream_out_eq (h : c.Accepted sources streams) {s : StreamConfig} (hs : s ∈ streams)
    {name : String} :
    (streamRequest d s).out = tokenFile d (name ++ ".token") ↔ s.id ++ "-stream" = name := by
  rw [stream_out d h hs, tokenFile_inj, String.append_left_inj]

lemma fixed_out_free (h : c.Accepted sources streams) {name : String}
    (hsrc : ∀ src ∈ sources, src.id ≠ name) (hm : name.toList.getLast? ≠ some 'm') :
    ∀ q ∈ sources.map (captureRequest d) ++ streams.map (streamRequest d),
      q.out ≠ tokenFile d (name ++ ".token") := by
  intro q hq
  rcases List.mem_append.mp hq with hq | hq
  · obtain ⟨src, hs, rfl⟩ := List.mem_map.mp hq
    intro heq
    exact hsrc src hs ((capture_out_eq d h hs).mp heq)
  · obtain ⟨s, hs, rfl⟩ := List.mem_map.mp hq
    intro heq
    exact stream_stem_ne s.id name hm ((stream_out_eq d h hs).mp heq)

end Outs

lemma ownTokens_of_apart {sign : NodeAcl → String → Except String Unit} {env : Env}
    {c : HostConfig} {d : Dir} {sources : List SourceConfig} {streams : List StreamConfig}
    (h : c.Accepted sources streams) (hap : NamesApart c)
    (herr : (issueAll sign d c ∅).firstErr = none) :
    OwnTokens (issueAll sign d c ∅).tokens env c d sources streams := by
  rw [issueAll_of_accepted h] at herr ⊢
  have hsrc : ∀ src ∈ sources, ∃ s ∈ c.sources, s.id = src.id := by
    intro src hs
    have : src.id ∈ c.sources.map Source.id := by
      rw [← HostConfig.cameraConfigs_ids h.cameraConfigs]
      exact List.mem_map_of_mem hs
    exact List.mem_map.mp this
  have hstr : ∀ s ∈ streams, ∃ t ∈ c.streams, t.id = s.id := by
    intro s hs
    have : s.id ∈ c.streams.map Stream.id := by
      rw [← HostConfig.streamConfigs_ids h.streamConfigs]
      exact List.mem_map_of_mem hs
    exact List.mem_map.mp this
  have hagent : ∀ src ∈ sources, src.id ≠ "agent" := by
    intro src hs
    obtain ⟨t, ht, hid⟩ := hsrc src hs
    rw [← hid]
    exact (hap t ht).1
  have hrec : c.recordEnabledRaw ≠ some false → ∀ src ∈ sources, src.id ≠ "recorder" := by
    intro hr src hs
    obtain ⟨t, ht, hid⟩ := hsrc src hs
    rw [← hid]
    exact (hap t ht).2.1 hr
  constructor
  · intro p hp
    rw [agent_tokenPath] at hp
    cases hp
    rw [← agentRequest_out]
    have hsplit : tokenRequests d sources streams =
        (sources.map (captureRequest d) ++ streams.map (streamRequest d) ++ [recorderRequest d]) ++
          agentRequest d :: [] := by
      simp [tokenRequests]
    rw [hsplit] at herr ⊢
    apply first_request_wins herr rfl
    · intro q hq
      rw [agentRequest_out]
      rcases List.mem_append.mp hq with hq | hq
      · exact fixed_out_free d h hagent (by decide) q hq
      · rw [List.mem_singleton.mp hq, recorderRequest_out, Ne, tokenFile_inj]
        decide
    · rfl
  · intro hr p hp
    rw [recorder_tokenPath] at hp
    cases hp
    rw [← recorderRequest_out]
    rw [tokenRequests] at herr ⊢
    apply first_request_wins herr rfl
    · intro q hq
      rw [recorderRequest_out]
      exact fixed_out_free d h (hrec hr) (by decide) q hq
    · rfl
  · intro src hs p hp
    rw [capturer_tokenPath] at hp
    cases hp
    rw [← captureRequest_out d (h.sourceIds src hs)]
    obtain ⟨as, bs, rfl, has⟩ := map_split hs h.sourcesNodup
    have hsplit : tokenRequests d (as ++ src :: bs) streams =
        as.map (captureRequest d) ++ captureRequest d src ::
          (bs.map (captureRequest d) ++ streams.map (streamRequest d) ++
            [recorderRequest d, agentRequest d]) := by
      simp [tokenRequests]
    rw [hsplit] at herr ⊢
    apply first_request_wins herr rfl
    · intro q hq
      obtain ⟨b, hb, rfl⟩ := List.mem_map.mp hq
      rw [captureRequest_out d (h.sourceIds src hs)]
      intro heq
      exact has b hb ((capture_out_eq d h (by simp [hb])).mp heq)
    · rfl
  · intro s hs p hp
    rw [streamer_tokenPath] at hp
    cases hp
    rw [← streamRequest_out d (h.streamIds s hs)]
    obtain ⟨as, bs, rfl, has⟩ := map_split hs h.streamsNodup
    have hsplit : tokenRequests d sources (as ++ s :: bs) =
        (sources.map (captureRequest d) ++ as.map (streamRequest d)) ++ streamRequest d s ::
          (bs.map (streamRequest d) ++ [recorderRequest d, agentRequest d]) := by
      simp [tokenRequests]
    rw [hsplit] at herr ⊢
    apply first_request_wins herr rfl
    · intro q hq
      rw [stream_out d h hs]
      rcases List.mem_append.mp hq with hq | hq
      · obtain ⟨src, hm, rfl⟩ := List.mem_map.mp hq
        intro heq
        obtain ⟨t, ht, hid⟩ := hsrc src hm
        obtain ⟨u, hu, hid'⟩ := hstr s hs
        refine (hap t ht).2.2 u hu ?_
        rw [hid, hid']
        exact (capture_out_eq d h hm).mp heq
      · obtain ⟨b, hb, rfl⟩ := List.mem_map.mp hq
        intro heq
        have := (stream_out_eq d h (by simp [hb])).mp heq
        exact has b hb ((String.append_left_inj _).mp this)
    · rfl

lemma namesApart_of_tokensApart {sign : NodeAcl → String → Except String Unit} {env : Env}
    {c : HostConfig} {d : Dir} {sources : List SourceConfig} {streams : List StreamConfig}
    (h : c.Accepted sources streams) (ht : TokensApart sign env c d) : NamesApart c := by
  obtain ⟨as, _, _, has, _, _, hn, _⟩ := ht
  rw [apps_of_accepted h] at has
  cases has
  rw [app_tokenPaths, List.nodup_map_iff (fun _ _ he => (tokenFile_inj d).mp he)] at hn
  exact (tokenNames_nodup h).mp hn

theorem tokens_apart_iff (sign : NodeAcl → String → Except String Unit) (y : Reader) (env : Env)
    (cfg : String) (c : HostConfig) (d : Dir) (hp : parse y cfg = .ok c)
    (hv : validate y cfg = .ok ()) : TokensApart sign env c d ↔ NamesApart c := by
  obtain ⟨sources, streams, h⟩ := accepted_of_text hp hv
  constructor
  · exact namesApart_of_tokensApart h
  · intro hap
    refine ⟨_, sources, streams, apps_of_accepted h env (some d), h.cameraConfigs,
      h.streamConfigs, ?_, fun herr => ownTokens_of_apart h hap herr⟩
    rw [app_tokenPaths, List.nodup_map_iff (fun _ _ he => (tokenFile_inj d).mp he)]
    exact (tokenNames_nodup h).mpr hap

def oneCamera (id : String) : HostConfig where
  sources := [⟨id, some .camera, some "/dev/video0", none, none, none, none, none⟩]
  streams := [⟨"t1", some id, none, none, none, none, none, none⟩]

def plainEnv : Env := ⟨none, some ⟨"/opt/host/bin", by decide⟩, some "car7"⟩

def optDir : Dir := ⟨"/opt/host", by decide⟩

theorem tokens_apart_cam0 : TokensApart (fun _ _ => .ok ()) plainEnv (oneCamera "cam0") optDir := by
  apply (tokens_apart_iff (fun _ _ => .ok ()) (fun _ => .ok (oneCamera "cam0")) plainEnv ""
    (oneCamera "cam0") optDir rfl (by rfl)).mpr
  rintro src hs
  rw [List.mem_singleton.mp hs]
  refine ⟨by decide, fun _ => by decide, ?_⟩
  intro s hm
  rw [List.mem_singleton.mp hm]
  decide

/-- A source called like the agent: its capturer and the agent share one token file. -/
theorem agent_token_shared :
    ¬∀ (sign : NodeAcl → String → Except String Unit) (y : Reader) (env : Env) (cfg : String)
      (c : HostConfig) (d : Dir), parse y cfg = .ok c → validate y cfg = .ok () →
        TokensApart sign env c d := by
  intro hall
  have hv : validate (fun _ => .ok (oneCamera "agent")) "" = .ok () := by rfl
  obtain ⟨sources, streams, h⟩ := accepted_of_text rfl hv
  have ht := hall (fun _ _ => .ok ()) (fun _ => .ok (oneCamera "agent")) plainEnv ""
    (oneCamera "agent") optDir rfl hv
  exact (namesApart_of_tokensApart h ht _ List.mem_cons_self).1 rfl

variable {t p x : String} {topics : List String} {role : Role}

lemma topicMatches_iff : topicMatches x p = true ↔
    (∃ stem, p.toList = stem ++ ['/', '*'] ∧ stem ++ ['/'] <+: x.toList) ∨
      (¬ wildcard.toList <:+ p.toList ∧ x = p) := by
  have hw : wildcard.toList = ['/', '*'] := by decide
  by_cases h : wildcard.toList <:+ p.toList
  · obtain ⟨stem, hstem⟩ := h
    have hs : wildcard.toList.isSuffixOf p.toList = true :=
      List.isSuffixOf_iff_suffix.mpr ⟨stem, hstem⟩
    rw [topicMatches, if_pos hs, List.isPrefixOf_iff_prefix, ← hstem, List.length_append,
      Nat.add_sub_cancel, List.take_left', hw]
    · constructor
      · intro h
        exact Or.inl ⟨stem, rfl, h⟩
      · rintro (⟨stem', he, h⟩ | ⟨h, _⟩)
        · rwa [List.append_cancel_right he]
        · exact absurd ⟨stem, rfl⟩ h
    · rfl
  · have hs : wildcard.toList.isSuffixOf p.toList = false := by
      rwa [← Bool.not_eq_true, List.isSuffixOf_iff_suffix]
    rw [topicMatches, if_neg (by simp [hs]), decide_eq_true_eq]
    constructor
    · intro he
      exact Or.inr ⟨h, he⟩
    · rintro (⟨stem, he, _⟩ | ⟨_, he⟩)
      · exact absurd ⟨stem, by rw [he, hw]⟩ h
      · exact he

lemma topicMatches_trans (hx : topicMatches x t = true) (ht : topicMatches t p = true) :
    topicMatches x p = true := by
  obtain ⟨stem, hp, hstem⟩ | ⟨_, rfl⟩ := topicMatches_iff.1 ht
  · apply topicMatches_iff.2
    refine Or.inl ⟨stem, hp, ?_⟩
    obtain ⟨stem', ht', hstem'⟩ | ⟨_, rfl⟩ := topicMatches_iff.1 hx
    · -- the wider stem ends before the star of the narrower pattern
      have hshort : stem ++ ['/'] <+: stem' ++ ['/'] := by
        have hle : stem ++ ['/'] <+: (stem' ++ ['/']) ++ ['*'] := by
          rw [List.append_assoc]
          exact ht' ▸ hstem
        obtain he | h := List.prefix_concat_iff.mp hle
        · have hlast := congrArg List.getLast? he
          simp at hlast
        · exact h
      exact hshort.trans hstem'
    · exact hstem
  · exact hx

lemma checkTopics_ok {direction : String} {allowed : List String}
    (h : checkTopics role direction allowed topics = .ok ()) (ht : t ∈ topics) :
    allowed.any (topicMatches t) = true := by
  rw [checkTopics] at h
  split at h
  · cases h
  · next hn =>
    by_contra hc
    exact absurd hc (by simpa using List.find?_eq_none.mp hn t ht)

lemma any_narrowed {allowed : List String} (h : ∀ t ∈ topics, allowed.any (topicMatches t) = true)
    (hx : topics.any (topicMatches x) = true) : allowed.any (topicMatches x) = true := by
  obtain ⟨t, ht, hxt⟩ := List.any_eq_true.mp hx
  obtain ⟨p, hp, htp⟩ := List.any_eq_true.mp (h t ht)
  exact List.any_eq_true.mpr ⟨p, hp, topicMatches_trans hxt htp⟩

lemma forRole_allow (n m : String) (role : Role) :
    (NodeAcl.forRole n role).publishAllow = (NodeAcl.forRole m role).publishAllow ∧
      (NodeAcl.forRole n role).subscribeAllow = (NodeAcl.forRole m role).subscribeAllow := by
  cases role <;> exact ⟨rfl, rfl⟩

theorem narrowed_token_within_role (node : String) (role : Role) (topics : List String)
    (acl : NodeAcl) (hne : topics ≠ []) (hv : validateTopics role topics = .ok ())
    (hb : buildAcl node role topics = .ok acl) (x : String) :
    (acl.canPublish x = true → (NodeAcl.forRole node role).canPublish x = true) ∧
      (acl.canSubscribe x = true → (NodeAcl.forRole node role).canSubscribe x = true) := by
  obtain ⟨hpub, hsub⟩ := forRole_allow "" node role
  rw [validateTopics, if_neg hne, hpub, hsub] at hv
  rw [buildAcl, if_neg hne] at hb
  by_cases hs : (NodeAcl.forRole node role).subscribeAllow ≠ []
  · rw [if_pos hs] at hb hv
    cases hb
    exact ⟨id, any_narrowed fun t ht => checkTopics_ok hv ht⟩
  · rw [if_neg hs] at hb hv
    by_cases hp : (NodeAcl.forRole node role).publishAllow ≠ []
    · rw [if_pos hp] at hb hv
      cases hb
      exact ⟨any_narrowed fun t ht => checkTopics_ok hv ht, id⟩
    · rw [if_neg hp] at hb
      cases hb

theorem narrowed_to_front :
    (NodeAcl.forRole "host-streamer-front" .pusher).canSubscribe "camera/front/raw" = true := by
  have h := narrowed_token_within_role "host-streamer-front" .pusher ["camera/front/*", "vision/front"]
    _ (by decide) (by decide) rfl "camera/front/raw"
  exact h.2 (by decide)

end MediaServo.Host
