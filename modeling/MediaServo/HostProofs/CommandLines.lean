import MediaServo.HostProofs.Oxfile
import MediaServo.HostProofs.Tokens

/-! Which configured values come out of the oxfile as the one argument that they are. -/

namespace MediaServo.Host

open MediaServo.Foundations

section Texts

instance : DecidablePred PlainText := fun s =>
  inferInstanceAs (Decidable (∀ c ∈ s.toList, isPlain c = true))

instance : DecidablePred PlainArg := fun w => inferInstanceAs (Decidable (_ ∧ PlainText w))

lemma plainText_append {a b : String} : PlainText (a ++ b) ↔ PlainText a ∧ PlainText b := by
  simp only [PlainText, String.toList_append, List.mem_append, or_imp, forall_and]

lemma plainText_of_valid {id : String} (h : validId id = true) : PlainText id := by
  simp only [validId, Bool.and_eq_true, List.all_eq_true] at h
  exact fun c hc => idChar_plain (h.2 c hc)

lemma plainArg_of_valid {id : String} (h : validId id = true) : PlainArg id := by
  refine ⟨?_, plainText_of_valid h⟩
  obtain ⟨c, rest, hid, _⟩ := validId_head h
  simp [hid]

lemma plainArg_append_left {a b : String} (h : a.toList ≠ []) :
    PlainArg (a ++ b) ↔ PlainText a ∧ PlainText b := by
  rw [PlainArg, plainText_append, String.toList_append]
  simp [h]

lemma plainArg_nat (n : ℕ) : PlainArg (toString n) := by
  have htext : (toString n).toList = Nat.toDigits 10 n := by
    simp [toString, Nat.repr]
  refine ⟨?_, ?_⟩
  · rw [htext]
    exact Nat.toDigits_ne_nil
  · intro c hc
    rw [htext] at hc
    have hd := Nat.isDigit_of_mem_toDigits (by decide) (by decide) hc
    exact idChar_plain (by simp [idChar, Char.isAlphanum, hd])

lemma plainText_joinPath {dir rel : String} (h : isAbsolute rel = false) (hrel : PlainText rel) :
    PlainText (joinPath dir rel) ↔ PlainText dir := by
  have hslash : PlainText "/" := by decide
  simp only [joinPath, h, Bool.false_eq_true, if_false]
  split_ifs with he
  · rw [String.isEmpty_iff.mp he]
    exact iff_of_true hrel (by decide)
  · rw [plainText_append]
    exact and_iff_left hrel
  · rw [plainText_append, plainText_append]
    tauto

lemma joinPath_ne_nil {dir rel : String} (h : rel.toList ≠ []) : (joinPath dir rel).toList ≠ [] := by
  simp only [joinPath]
  split_ifs
  · exact h
  · exact h
  · simp [h]
  · simp

lemma brandChar_plain {c : Char} (h : brandChar c = true) : isPlain c = true := by
  apply idChar_plain
  simp only [brandChar, Bool.or_eq_true, beq_iff_eq] at h
  rcases h with (h | h) | rfl
  · have halpha : c.isAlpha = true := Bool.or_eq_true_iff.mpr (.inr h)
    simp [idChar, Char.isAlphanum, halpha]
  · simp [idChar, Char.isAlphanum, h]
  · decide

lemma mediaBrand_cases (env : Env) :
    (∃ p, validBrand p = true ∧ env.mediaBrand = ⟨p ++ "-", p ++ "-host"⟩) ∨
      env.mediaBrand = ⟨"host-", "mediaservo-host"⟩ := by
  rw [Env.mediaBrand, mediaBrandFrom]
  cases hb : env.brand.filter validBrand with
  | none => exact Or.inr rfl
  | some p =>
    have hv : validBrand p = true := (Option.filter_eq_some_iff.mp hb).2
    by_cases hp : p ≠ "mediaservo"
    · exact Or.inl ⟨p, hv, if_pos hp⟩
    · exact Or.inr (if_neg hp)

lemma plainText_brand {p : String} (h : validBrand p = true) : PlainText p := by
  simp only [validBrand, Bool.and_eq_true, List.all_eq_true] at h
  exact fun c hc => brandChar_plain (h.2 c hc)

lemma plainText_nameSpace (env : Env) : PlainText env.mediaBrand.nameSpace := by
  rcases mediaBrand_cases env with ⟨p, hp, he⟩ | he
  · rw [he]
    exact plainText_append.2 ⟨plainText_brand hp, by decide⟩
  · rw [he]
    decide

lemma plainText_appPrefix (env : Env) : PlainText env.mediaBrand.appPrefix := by
  rcases mediaBrand_cases env with ⟨p, hp, he⟩ | he
  · rw [he]
    exact plainText_append.2 ⟨plainText_brand hp, by decide⟩
  · rw [he]
    decide

lemma plainText_appName (env : Env) {base : String} (h : PlainText base) :
    PlainText (env.appName base) :=
  plainText_append.2 ⟨plainText_appPrefix env, h⟩

lemma not_absolute_of_head {s : String} {c : Char} {rest : List Char} (hs : s.toList = c :: rest)
    (hc : c ≠ '/') : isAbsolute s = false := by
  have hslash : "/".toList = ['/'] := by decide
  simp only [isAbsolute, Common.startsWith, hs, hslash]
  simpa [List.isPrefixOf] using hc.symm

lemma appName_not_absolute (env : Env) (base : String) : isAbsolute (env.appName base) = false := by
  rcases mediaBrand_cases env with ⟨p, hp, he⟩ | he
  · rw [Env.appName, he]
    cases hl : p.toList with
    | nil =>
      rw [String.toList_inj.mp (hl.trans (by decide : [] = "".toList))] at hp
      exact absurd hp (by decide)
    | cons c rest =>
      have hb : brandChar c = true := by
        simp only [validBrand, Bool.and_eq_true, List.all_eq_true] at hp
        exact hp.2 c (by simp [hl])
      have hhead : (p ++ "-" ++ base).toList = c :: (rest ++ ("-".toList ++ base.toList)) := by
        simp [hl]
      apply not_absolute_of_head hhead
      rintro rfl
      exact absurd hb (by decide)
  · rw [Env.appName, he]
    exact not_absolute_of_head (c := 'h') (by simp; rfl) (by decide)

lemma appName_ne_nil (env : Env) {base : String} (h : base.toList ≠ []) :
    (env.appName base).toList ≠ [] := by
  simp [Env.appName, h]

lemma plainArg_exeCmd (env : Env) {base : String} (hb : PlainArg base) :
    PlainArg (env.exeCmd (env.appName base)) ↔ ∀ e, env.exeDir = some e → PlainText e.path := by
  have hname := plainText_appName env hb.2
  have hne := appName_ne_nil env hb.1
  cases he : env.exeDir with
  | none => simp [Env.exeCmd, he, PlainArg, hname, hne]
  | some e =>
    rw [Env.exeCmd, he]
    simp [PlainArg, plainText_joinPath (appName_not_absolute env base) hname, joinPath_ne_nil hne]

end Texts

section Options

def PlainOptions (l : List (String × String)) : Prop := ∀ o ∈ l, PlainArg o.1 ∧ PlainArg o.2

lemma plainArgs_iff (a : App) :
    (∀ w ∈ a.argv, PlainArg w) ↔ PlainArg a.exe ∧ PlainOptions a.options := by
  rw [App.argv, List.forall_mem_cons]
  simp only [List.mem_flatMap, List.mem_cons, List.not_mem_nil, or_false, PlainOptions]
  constructor
  · intro h
    exact ⟨h.1, fun o ho => ⟨h.2 _ ⟨o, ho, Or.inl rfl⟩, h.2 _ ⟨o, ho, Or.inr rfl⟩⟩⟩
  · rintro ⟨hexe, hopts⟩
    refine ⟨hexe, ?_⟩
    rintro w ⟨o, ho, rfl | rfl⟩
    · exact (hopts o ho).1
    · exact (hopts o ho).2

lemma plainOptions_append {l m : List (String × String)} :
    PlainOptions (l ++ m) ↔ PlainOptions l ∧ PlainOptions m :=
  List.forall_mem_append

lemma plainOptions_single {flag value : String} (h : PlainArg flag) :
    PlainOptions [(flag, value)] ↔ PlainArg value := by
  simp [PlainOptions, h]

lemma plainOptions_optional {α : Type} {flag : String} (h : PlainArg flag) (text : α → String)
    (v : Option α) : PlainOptions (optional flag text v) ↔ ∀ x, v = some x → PlainArg (text x) := by
  cases v with
  | none => simp [optional, PlainOptions]
  | some x => simp [optional, plainOptions_single h]

lemma plainOptions_nat {flag : String} (h : PlainArg flag) (v : Option ℕ) :
    PlainOptions (optional flag toString v) :=
  (plainOptions_optional h _ v).mpr (fun x _ => plainArg_nat x)

variable (env : Env) (c : HostConfig) (d : Dir)

lemma plain_configPath : PlainArg d.configPath ↔ PlainText d.path := by
  rw [PlainArg, Dir.configPath, plainText_joinPath (by decide) (by decide),
    plainText_joinPath (by decide) (by decide)]
  exact and_iff_right (joinPath_ne_nil (by decide))

lemma plain_tokenDir : PlainText d.tokenDir ↔ PlainText d.path := by
  rw [Dir.tokenDir, plainText_joinPath (by decide) (by decide),
    plainText_joinPath (by decide) (by decide)]

lemma plain_pathOptions {token : String} (h : PlainText token) :
    PlainOptions (pathOptions (some d) token) ↔ PlainText d.path := by
  have htoken : PlainArg (d.tokenDir ++ "/" ++ token) ↔ PlainText d.path := by
    rw [PlainArg, plainText_append, plainText_append, plain_tokenDir]
    have hslash : PlainText "/" := by decide
    simp [hslash, h]
  have hflags : PlainArg "--config" ∧ PlainArg "--token" := by decide
  simp only [PlainOptions, pathOptions, List.forall_mem_cons, hflags, true_and, plain_configPath,
    htoken, List.not_mem_nil, false_implies, implies_true, and_true, and_self]

lemma plain_room :
    (∀ r, c.signalingRoom env = some r → PlainArg r) ↔
      ∀ r, c.signaling.bind SignalingSection.room = some r → PlainArg r := by
  rw [HostConfig.signalingRoom]
  cases c.signaling.bind SignalingSection.room with
  | some r => simp
  | none =>
    simp only [Option.none_or, reduceCtorEq, false_implies, implies_true, iff_true]
    intro r hr
    exact plainArg_of_valid (Option.filter_eq_some_iff.mp hr).2

lemma plain_agentOptions :
    PlainOptions (agentOptions env c (some d)) ↔
      (∀ r, c.signaling.bind SignalingSection.room = some r → PlainArg r) ∧
      (∀ u, c.signalingServerUrl = some u → PlainArg u) ∧
      (∀ p, c.signalingPsk = some p → PlainArg p) ∧ PlainText d.path := by
  rw [agentOptions, plainOptions_append, plainOptions_append, plainOptions_append,
    plainOptions_append, plainOptions_optional (by decide) id (c.signalingRoom env),
    plainOptions_optional (by decide) id c.signalingServerUrl,
    plainOptions_optional (by decide) id c.signalingPsk, plain_pathOptions d (by decide)]
  simp only [id, plain_room, plainOptions_nat (by decide : PlainArg "--port"), true_and, and_assoc]

lemma plain_hmacKeyArg {rel : String} (hd : PlainText d.path) :
    PlainArg (hmacKeyArg (some d) rel) ↔ PlainText rel := by
  rw [hmacKeyArg]
  split_ifs with habs
  · have hne : rel.toList ≠ [] := by
      intro hn
      simp [isAbsolute, Common.startsWith, hn] at habs
    exact and_iff_right hne
  · have hslash : PlainText "/" := by decide
    rw [PlainArg, plainText_append, plainText_append]
    simp [hd, hslash]

lemma plain_audioRoom (h : ∀ r, c.signalingRoom env = some r → PlainArg r) :
    PlainArg ("audio-" ++ (c.signalingRoom env).getD "vehicle") := by
  rw [plainArg_append_left (by decide)]
  refine ⟨by decide, ?_⟩
  cases hr : c.signalingRoom env with
  | none => decide
  | some r => exact (h r hr).2

lemma plain_encoderOptions (sourceFps : String → Option ℕ) (sc : StreamConfig) :
    PlainOptions (encoderOptions sourceFps sc) ↔ ∀ b, sc.encoderBackend = some b → PlainArg b := by
  have hbackend : (∀ b, resolvedEncoderBackend sc.codec sc.encoderBackend = some b → PlainArg b) ↔
      ∀ b, sc.encoderBackend = some b → PlainArg b := by
    rw [resolvedEncoderBackend]
    split_ifs with h
    · refine iff_of_true ?_ ?_
      · rintro b hb
        cases hb
        decide
      · intro b hb
        rcases h.1 with h | h
        · rw [h] at hb
          cases hb
        · rw [h] at hb
          cases hb
          decide
    · rfl
  have hdegradation : ∀ g, PlainArg (degradationText g) := by
    intro g
    cases g <;> decide
  simp only [encoderOptions]
  rw [plainOptions_append, plainOptions_append, plainOptions_append, plainOptions_append,
    plainOptions_append, plainOptions_optional (by decide) id, ← hbackend]
  constructor
  · intro h
    exact h.1.1.1.1.1
  · intro h
    refine ⟨⟨⟨⟨⟨h, ?_⟩, ?_⟩, plainOptions_nat (by decide) _⟩, plainOptions_nat (by decide) _⟩,
      plainOptions_nat (by decide) _⟩
    · split_ifs
      · exact (plainOptions_single (by decide)).mpr (hdegradation _)
      · rintro _ ⟨⟩
    · split_ifs
      · exact (plainOptions_single (by decide)).mpr (by decide)
      · rintro _ ⟨⟩

end Options

/-- What is configured, and the directories that are written next to it, have neither white space
nor quotes, backslashes or control characters in them, and no option is left empty. -/
structure PlainValues (env : Env) (c : HostConfig) (d : Dir) : Prop where
  exeDir : ∀ e, env.exeDir = some e → PlainText e.path
  dir : PlainText d.path
  room : ∀ r, c.signaling.bind SignalingSection.room = some r → PlainArg r
  serverUrl : ∀ u, c.signalingServerUrl = some u → PlainArg u
  psk : ∀ p, c.signalingPsk = some p → PlainArg p
  keyFile : ∀ k, c.controlHmacKeyFile = some k → PlainText k
  backend : ∀ s ∈ c.streams, ∀ b,
    s.encoderBackend.or c.streamDefaults.encoderBackend = some b → PlainArg b

section Values

variable {env : Env} {c : HostConfig} {d : Dir} {sources : List SourceConfig}
  {streams : List StreamConfig}

lemma streamConfig_backend {sd : StreamDefaults} {s : Stream} {sc : StreamConfig}
    (h : streamConfig sd s = .ok sc) :
    sc.encoderBackend = s.encoderBackend.or sd.encoderBackend := by
  simp only [streamConfig] at h
  split_ifs at h
  cases h
  rfl

lemma lookupLast_self (hn : (streams.map StreamConfig.id).Nodup) {sc : StreamConfig}
    (h : sc ∈ streams) : lookupLast StreamConfig.id streams sc.id = some sc := by
  rw [lookupLast]
  cases hf : streams.reverse.find? (fun x => x.id = sc.id) with
  | none =>
    have := List.find?_eq_none.mp hf sc (List.mem_reverse.mpr h)
    simp at this
  | some x =>
    have hx := List.mem_reverse.mp (List.mem_of_find?_eq_some hf)
    have hid : x.id = sc.id := by simpa using List.find?_some hf
    rw [List.inj_on_of_nodup_map hn hx h hid]

lemma plain_streamer (h : c.Accepted sources streams) (hd : PlainText d.path)
    (hexe : ∀ e, env.exeDir = some e → PlainText e.path) {sc : StreamConfig} (hs : sc ∈ streams) :
    (∀ w ∈ (streamerApp env c (some d) sources streams sc.id).argv, PlainArg w) ↔
      ∀ b, sc.encoderBackend = some b → PlainArg b := by
  have hid := h.streamIds sc hs
  have hgateway : PlainArg c.signalingGatewayUrl := by
    delta HostConfig.signalingGatewayUrl
    rw [PlainArg, plainText_append, plainText_append]
    exact ⟨by simp, ⟨by decide, (plainArg_nat _).2⟩, by decide⟩
  have hfixed : PlainOptions [("--stream", sc.id), ("--gateway", c.signalingGatewayUrl)] := by
    have hflag : PlainArg "--stream" := by decide
    exact List.forall_mem_cons.mpr ⟨⟨hflag, plainArg_of_valid hid⟩,
      (plainOptions_single (by decide)).mpr hgateway⟩
  have htoken : PlainOptions (pathOptions (some d) (sc.id ++ "-stream.token")) :=
    (plain_pathOptions d (plainText_append.2 ⟨plainText_of_valid hid, by decide⟩)).mpr hd
  simp only [plainArgs_iff, streamerApp, lookupLast_self h.streamsNodup hs, plainOptions_append,
    plain_encoderOptions, plainArg_exeCmd env (by decide : PlainArg "streamer"), hfixed, htoken, true_and,
    and_true]
  exact and_iff_right (fun e he => hexe e he)

lemma plain_capturer (h : c.Accepted sources streams) (hd : PlainText d.path)
    (hexe : ∀ e, env.exeDir = some e → PlainText e.path) {src : SourceConfig} (hs : src ∈ sources) :
    ∀ w ∈ (capturerApp env (some d) src).argv, PlainArg w := by
  have hid := h.sourceIds src hs
  rw [plainArgs_iff]
  refine ⟨(plainArg_exeCmd env (by decide)).mpr hexe, ?_⟩
  simp only [capturerApp, plainOptions_append]
  refine ⟨⟨(plainOptions_single (by decide)).mpr (plainArg_of_valid hid), ?_⟩, ?_⟩
  · split_ifs
    · exact plainOptions_nat (by decide) _
    · rintro _ ⟨⟩
  · exact (plain_pathOptions d (plainText_append.2 ⟨plainText_of_valid hid, by decide⟩)).mpr hd

lemma plain_fixed (h : PlainValues env c d) {base : String} (hb : base ∈ fixedAppBases) :
    ∀ w ∈ (fixedApp env c (some d) base).argv, PlainArg w := by
  have hplain : PlainArg base := by
    revert base
    decide
  rw [plainArgs_iff]
  refine ⟨(plainArg_exeCmd env hplain).mpr h.exeDir, ?_⟩
  simp only [fixedApp, fixedOptions]
  split_ifs
  · exact (plain_pathOptions d (by decide)).mpr h.dir
  · exact (plain_agentOptions env c d).mpr ⟨h.room, h.serverUrl, h.psk, h.dir⟩
  · rw [plainOptions_optional (by decide)]
    exact fun k hk => (plain_hmacKeyArg d h.dir).mpr (h.keyFile k hk)
  · rw [plainOptions_single (by decide)]
    exact plain_audioRoom env c ((plain_room env c).mpr h.room)
  · rintro _ ⟨⟩

def acceptedApps (env : Env) (c : HostConfig) (d : Dir) (sources : List SourceConfig)
    (streams : List StreamConfig) : List App :=
  fixedApps env c (some d) ++ sources.map (capturerApp env (some d)) ++
    (streams.map StreamConfig.id).map (streamerApp env c (some d) sources streams)

lemma fixed_mem_apps {base : String} (hb : base ∈ rosterBases c) :
    fixedApp env c (some d) base ∈ acceptedApps env c d sources streams :=
  List.mem_append_left _ (List.mem_append_left _ (List.mem_map_of_mem hb))

lemma plainValues_of_args (h : c.Accepted sources streams)
    (hargs : ∀ a ∈ acceptedApps env c d sources streams, ∀ w ∈ a.argv, PlainArg w) :
    PlainValues env c d := by
  have hbase : ∀ base ∈ fixedAppBases, base ≠ "recorder" → base ∈ rosterBases c := by
    intro base hb hr
    simp [rosterBases, hb, hr]
  have hagent := (plainArgs_iff _).mp (hargs _ (fixed_mem_apps (hbase "agent" (by decide) (by decide))))
  have hcontroller := (plainArgs_iff _).mp
    (hargs _ (fixed_mem_apps (hbase "controller" (by decide) (by decide))))
  simp only [fixedApp, fixedOptions, String.reduceEq, if_false, if_true] at hagent hcontroller
  have hexe := (plainArg_exeCmd env (by decide)).mp hagent.1
  obtain ⟨hroom, hurl, hpsk, hdir⟩ := (plain_agentOptions env c d).mp hagent.2
  have hkey := (plainOptions_optional (by decide) _ _).mp hcontroller.2
  refine ⟨hexe, hdir, hroom, hurl, hpsk, fun k hk => (plain_hmacKeyArg d hdir).mp (hkey k hk), ?_⟩
  intro s hs b hb
  obtain ⟨sc, hsc, hconf⟩ := forall₂_mem (mapM_eq_ok.mp h.streamConfigs) hs
  have hmem : streamerApp env c (some d) sources streams sc.id ∈
      acceptedApps env c d sources streams :=
    List.mem_append_right _ (List.mem_map_of_mem (List.mem_map_of_mem hsc))
  apply (plain_streamer h hdir hexe hsc).mp (hargs _ hmem) b
  rw [streamConfig_backend hconf, hb]

lemma plainArgs_of_values (h : c.Accepted sources streams) (hv : PlainValues env c d) :
    ∀ a ∈ acceptedApps env c d sources streams, ∀ w ∈ a.argv, PlainArg w := by
  intro a ha
  rcases List.mem_append.mp ha with ha | ha
  · rcases List.mem_append.mp ha with ha | ha
    · obtain ⟨base, hb, rfl⟩ := List.mem_map.mp ha
      exact plain_fixed hv (mem_rosterBases hb)
    · obtain ⟨src, hs, rfl⟩ := List.mem_map.mp ha
      exact plain_capturer h hv.dir hv.exeDir hs
  · obtain ⟨id, hid, rfl⟩ := List.mem_map.mp ha
    obtain ⟨sc, hsc, rfl⟩ := List.mem_map.mp hid
    rw [plain_streamer h hv.dir hv.exeDir hsc]
    intro b hb
    obtain ⟨s, hs, hconf⟩ := forall₂_mem (mapM_eq_ok.mp h.streamConfigs).flip hsc
    rw [streamConfig_backend hconf] at hb
    exact hv.backend s hs b hb

/-- What the oxfile of a configuration is for: it reads as TOML, its entries are the roster, of
which the processes that are watched for are all but the recorder, and its command lines split into
the arguments of the apps. -/
def OxfileWellFormed (y : Reader) (env : Env) (cfg : String) (c : HostConfig) (d : Dir) : Prop :=
  ∃ text lines as expected, toOxfileInDir y env cfg d = .ok text ∧
    Toml.parse text.toList = some lines ∧ apps env c (some d) = .ok as ∧
    expectedProcessNames y env cfg = .ok expected ∧
    (Toml.elements [key "apps"] lines).map (textOf "name") =
      (rosterNames env c).map (fun n => some n.toList) ∧
    (rosterNames env c).Nodup ∧ expected ⊆ rosterNames env c ∧
    (∀ n ∈ rosterNames env c, n ∉ expected → n = env.appName "recorder") ∧ CommandsSplit lines as

lemma rendered (y : Reader) (cfg : String) (hp : parse y cfg = .ok c)
    (h : c.Accepted sources streams) :
    apps env c (some d) = .ok (acceptedApps env c d sources streams) ∧
      toOxfileInDir y env cfg d = .ok (oxfileHeader env (some d) ++
        pushApps (some d) (acceptedApps env c d sources streams)) := by
  have happs := apps_of_accepted h env (some d)
  refine ⟨happs, ?_⟩
  rw [toOxfileInDir, hp]
  change render env c (some d) = _
  rw [render, happs]
  rfl

lemma plain_names (h : c.Accepted sources streams) {a : App}
    (ha : a ∈ acceptedApps env c d sources streams) : PlainText a.name := by
  have hinstance : ∀ kind id : String, PlainText kind → validId id = true →
      PlainText (instanceName (env.appName kind) id) := by
    intro kind id hk hid
    rw [appName_append]
    apply plainText_appName
    rw [plainText_append, plainText_append]
    exact ⟨⟨hk, by decide⟩, plainText_of_valid hid⟩
  rcases List.mem_append.mp ha with ha | ha
  · rcases List.mem_append.mp ha with ha | ha
    · obtain ⟨base, hb, rfl⟩ := List.mem_map.mp ha
      have hbases : ∀ b ∈ fixedAppBases, PlainText b := by decide
      exact plainText_appName env (hbases base (mem_rosterBases hb))
    · obtain ⟨src, hs, rfl⟩ := List.mem_map.mp ha
      exact hinstance "capturer" src.id (by decide) (h.sourceIds src hs)
  · obtain ⟨id, hid, rfl⟩ := List.mem_map.mp ha
    obtain ⟨sc, hsc, rfl⟩ := List.mem_map.mp hid
    exact hinstance "streamer" sc.id (by decide) (h.streamIds sc hsc)

lemma plain_policies {a : App} (ha : a ∈ acceptedApps env c d sources streams) :
    PlainText a.restartPolicy := by
  have halways : PlainText "always" := by decide
  rcases List.mem_append.mp ha with ha | ha
  · rcases List.mem_append.mp ha with ha | ha
    · obtain ⟨base, _, rfl⟩ := List.mem_map.mp ha
      simp only [fixedApp]
      split_ifs
      · decide
      · exact halways
    · obtain ⟨src, _, rfl⟩ := List.mem_map.mp ha
      exact halways
  · obtain ⟨id, _, rfl⟩ := List.mem_map.mp ha
    exact halways

lemma mem_joinPath {dir rel : String} (h : isAbsolute rel = false) {x : Char}
    (hx : x ∈ dir.toList) : x ∈ (joinPath dir rel).toList := by
  simp only [joinPath, h, Bool.false_eq_true, if_false]
  split_ifs with he
  · rw [String.isEmpty_iff.mp he] at hx
    cases hx
  · simp [hx]
  · simp [hx]

lemma plain_newline {s : String} (h : PlainText s) : '\n' ∉ s.toList :=
  newline_clear (fun c hc => isClear_of_plain (h c hc))

lemma oneLiners_of_split (h : c.Accepted sources streams) {lines : List Toml.Line}
    (hsplit : CommandsSplit lines (acceptedApps env c d sources streams)) :
    OneLiners env d (acceptedApps env c d sources streams) := by
  have hfree : ∀ a ∈ acceptedApps env c d sources streams, ∀ w ∈ a.argv, '\n' ∉ w.toList := by
    intro a ha w hw hn
    have := (whitespace_free_of_split hsplit ha hw).2 _ hn
    exact absurd this (by decide)
  have hagent : fixedApp env c (some d) "agent" ∈ acceptedApps env c d sources streams :=
    fixed_mem_apps (by simp [rosterBases, fixedAppBases])
  have hconfig : d.configPath ∈ (fixedApp env c (some d) "agent").argv := by
    simp [App.argv, fixedApp, fixedOptions, agentOptions, pathOptions]
  refine ⟨plain_newline (plainText_nameSpace env), ?_, fun a ha => plain_newline (plain_names h ha),
    ?_, fun a ha => plain_newline (plain_policies ha)⟩
  · intro hn
    exact hfree _ hagent _ hconfig (mem_joinPath (by decide) (mem_joinPath (by decide) hn))
  · intro a ha hn
    rcases mem_command hn with hspace | ⟨w, hw, hnw⟩
    · exact absurd hspace (by decide)
    · exact hfree a ha w hw hnw

lemma plainValues_of_wellFormed {y : Reader} {cfg : String} (hp : parse y cfg = .ok c)
    (h : c.Accepted sources streams) (hw : OxfileWellFormed y env cfg c d) : PlainValues env c d := by
  obtain ⟨text, lines, as, expected, ht, hparse, has, -, -, -, -, -, hsplit⟩ := hw
  obtain ⟨happs, htext⟩ : apps env c (some d) = .ok (acceptedApps env c d sources streams) ∧ _ :=
    rendered y cfg hp h
  rw [htext] at ht
  rw [happs] at has
  cases ht
  cases has
  exact plainValues_of_args h (plain_of_split (oneLiners_of_split h hsplit) hparse hsplit)

lemma wellFormed_of_plainValues {y : Reader} {cfg : String} (hp : parse y cfg = .ok c)
    (h : c.Accepted sources streams) (hplain : PlainValues env c d) :
    OxfileWellFormed y env cfg c d := by
  obtain ⟨happs, htext⟩ := rendered y cfg hp h
  have hargs := plainArgs_of_values h hplain
  have hclear : ∀ {s : String}, PlainText s → ∀ x ∈ s.toList, Toml.isClear x = true :=
    fun hs x hx => isClear_of_plain (hs x hx)
  obtain ⟨lines, hparse, hnames, hsplit⟩ := split_of_plain (hclear (plainText_nameSpace env))
    (hclear hplain.dir) (fun a ha => hclear (plain_names h ha))
    (fun a ha => hclear (plain_policies ha)) hargs
  refine ⟨_, lines, _, expectedNames env c, htext, hparse, happs, ?_, ?_, rosterNames_nodup h env,
    fun n hn => expectedNames_subset hn, fun n hn => only_recorder_unexpected hn, hsplit⟩
  · rw [expectedProcessNames, hp]
    rfl
  · rw [hnames, ← apps_names h env (some d), List.map_map]
    rfl

end Values

theorem oxfile_well_formed_iff (y : Reader) (env : Env) (cfg : String) (c : HostConfig) (d : Dir)
    (hp : parse y cfg = .ok c) (hv : validate y cfg = .ok ()) :
    OxfileWellFormed y env cfg c d ↔ PlainValues env c d := by
  obtain ⟨sources, streams, h⟩ := accepted_of_text hp hv
  exact ⟨plainValues_of_wellFormed hp h, wellFormed_of_plainValues hp h⟩

theorem oxfile_well_formed_cam0 :
    OxfileWellFormed (fun _ => .ok (oneCamera "cam0")) plainEnv "" (oneCamera "cam0") optDir := by
  apply (oxfile_well_formed_iff (fun _ => .ok (oneCamera "cam0")) plainEnv "" (oneCamera "cam0")
    optDir rfl (by rfl)).mpr
  refine ⟨?_, by decide, nofun, nofun, nofun, nofun, ?_⟩
  · rintro e he
    cases he
    decide
  · intro s hs b hb
    rw [List.mem_singleton.mp hs] at hb
    cases hb

def spacedPsk : HostConfig :=
  { oneCamera "cam0" with signaling := some { psk := some "my secret" } }

/-- The validation accepts it, and the agent is given two arguments in its place. -/
theorem spaced_psk_splits :
    ¬∀ (y : Reader) (env : Env) (cfg : String) (c : HostConfig) (d : Dir), parse y cfg = .ok c →
      validate y cfg = .ok () → OxfileWellFormed y env cfg c d := by
  intro hall
  have hv : validate (fun _ => .ok spacedPsk) "" = .ok () := by rfl
  obtain ⟨sources, streams, h⟩ := accepted_of_text rfl hv
  have hw := hall (fun _ => .ok spacedPsk) plainEnv "" spacedPsk optDir rfl hv
  have hpsk := (plainValues_of_wellFormed rfl h hw).psk "my secret" rfl
  exact absurd hpsk (by decide)

end MediaServo.Host
