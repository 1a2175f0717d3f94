import MediaServo.ServerProofs.EnvTables

/-! The variables that a scan reads of a rendering, and of what a merge makes of it. -/

namespace MediaServo.Server.Lifecycle

open MediaServo.Foundations
open Lines (Text lines chomp chomp_clean break_lines break_chomp)

section Scan

variable {b : Block} {logDir l k v a : Text} {ext : List EnvEntry} {ls : List Text} {bs : List Block}
  {s : EnvScan}

lemma scan_skip (hb : startsWith "[" (trim l) = false) (hp : parseQuotedKv (trim l) = none) :
    EnvScan.line s l = s := by
  rw [EnvScan.line, if_neg (not_apps_of_bracket hb), if_neg (by simp [hb]), hp]
  simp

lemma scan_blank : EnvScan.line s [] = s := scan_skip rfl rfl

lemma scan_apps : EnvScan.line s "[[apps]]".toList = { s with app := none, inEnv := false } := by
  have ht : trim "[[apps]]".toList = "[[apps]]".toList := by decide
  rw [EnvScan.line, if_pos ht]

lemma scan_header (header : String) (ht : trim header.toList = header.toList)
    (hb : header.toList.head? = some '[') (hne : header ≠ "[[apps]]") :
    EnvScan.line s header.toList = { s with inEnv := header = "[apps.env]" } := by
  have happs : trim header.toList ≠ "[[apps]]".toList := by
    rw [ht]
    exact fun h => hne (String.toList_inj.mp h)
  have hbracket : startsWith "[" (trim header.toList) := by rwa [ht, startsWith_bracket]
  rw [EnvScan.line, if_neg happs, if_pos hbracket, ht]
  simp only [String.toList_inj]

lemma scan_env (hk : BareKey k) (he : s.inEnv) (ha : s.app = some a) :
    EnvScan.line s (pair k v) = { s with out := s.out ++ [⟨a, k, unescapeToml v⟩] } := by
  have hb := bracket_bare hk v
  rw [EnvScan.line, if_neg (not_apps_of_bracket hb), if_neg (by simp [hb]), if_pos he, trim_bare hk,
    parse_bare hk, ha]

lemma scan_name (he : s.inEnv = false) (ha : s.app = none) :
    EnvScan.line s (pair "name".toList v) = { s with app := some (unescapeToml v) } := by
  have hk : BareKey "name".toList := by decide
  have hb := bracket_bare hk v
  rw [EnvScan.line, if_neg (not_apps_of_bracket hb), if_neg (by rw [hb]; decide), if_neg (by simp [he]),
    trim_bare hk, parse_bare hk, if_pos (by simp [ha])]
  exact if_pos rfl

lemma scan_outside (hk : BareKey k) (he : s.inEnv = false) (hn : s.app.isSome ∨ k ≠ "name".toList) :
    EnvScan.line s (pair k v) = s := by
  have hb := bracket_bare hk v
  rw [EnvScan.line, if_neg (not_apps_of_bracket hb), if_neg (by simp [hb]), if_neg (by simp [he]),
    trim_bare hk, parse_bare hk]
  obtain hn | hn := hn
  · rw [if_neg (by simpa [Option.isNone_iff_eq_none, Option.isSome_iff_ne_none] using hn)]
  · simp only [if_neg hn, ite_self]

def Block.managed (b : Block) : List EnvEntry := b.vars.map fun kv => ⟨b.name, kv.1, unescapeToml kv.2⟩

lemma scan_vars {kvs : List (Text × Text)} (hk : ∀ kv ∈ kvs, BareKey kv.1) (he : s.inEnv)
    (ha : s.app = some a) : (kvs.map fun kv => pair kv.1 kv.2).foldl EnvScan.line s =
      { s with out := s.out ++ kvs.map fun kv => ⟨a, kv.1, unescapeToml kv.2⟩ } := by
  induction kvs generalizing s with
  | nil => simp
  | cons kv kvs ih =>
    rw [List.map_cons, List.foldl_cons, scan_env (hk kv (by simp)) he ha,
      ih (fun x hx => hk x (by simp [hx])) (by exact he) (by exact ha)]
    simp

lemma scan_line {e : EnvEntry} (hm : e.Manual) (happ : e.app = a) (he : s.inEnv) (ha : s.app = some a) :
    EnvScan.line s e.line = { s with out := s.out ++ [e] } := by
  rw [EnvEntry.line, scan_env hm.bare he ha, unescape_escape, ← happ]

lemma scan_manual (hm : ∀ e ∈ ext, e.Manual) (happ : ∀ e ∈ ext, e.app = a) (he : s.inEnv)
    (ha : s.app = some a) : (ext.map EnvEntry.line).foldl EnvScan.line s =
      { s with out := s.out ++ ext } := by
  induction ext generalizing s with
  | nil => simp
  | cons e ext ih =>
    rw [List.map_cons, List.foldl_cons, scan_line (hm e (by simp)) (happ e (by simp)) he ha,
      ih (fun x hx => hm x (by simp [hx])) (fun x hx => happ x (by simp [hx])) (by exact he) (by exact ha)]
    simp

lemma scan_env_header : EnvScan.line s "[apps.env]".toList = { s with inEnv := true } := by
  rw [scan_header "[apps.env]" (by decide) (by decide) (by decide)]
  simp

lemma scan_head (hf : b.Fits) : b.head.foldl EnvScan.line s = ⟨some b.name, false, s.out⟩ := by
  have hname : EnvScan.line { s with app := none, inEnv := false } (pair "name".toList b.name) =
      ⟨some b.name, false, s.out⟩ := by
    rw [scan_name rfl rfl, unescape_plain hf.solid]
  have hafter : ∀ k v : Text, BareKey k → EnvScan.line ⟨some b.name, false, s.out⟩ (pair k v) =
      ⟨some b.name, false, s.out⟩ := fun k v hk => scan_outside hk rfl (Or.inl rfl)
  simp only [Block.head, List.foldl_cons, List.foldl_nil]
  rw [scan_apps, hname, hafter _ _ (by decide), hafter _ _ (by decide)]

lemma scan_logs (hf : b.Fits) (ha : s.app.isSome) :
    (pushLogs b.name logDir ++ b.tail).foldl EnvScan.line s = { s with inEnv := false } := by
  have htail : ∀ s : EnvScan, b.tail.foldl EnvScan.line s = s := by
    intro s
    obtain h | h := hf.tail
    · rw [h]
      rfl
    · rw [h]
      exact scan_blank
  have hlogs : EnvScan.line s "[apps.logs]".toList = { s with inEnv := false } := by
    rw [scan_header "[apps.logs]" (by decide) (by decide) (by decide)]
    simp
  have hafter : ∀ k v : Text, BareKey k → EnvScan.line { s with inEnv := false } (pair k v) =
      { s with inEnv := false } := fun k v hk => scan_outside hk rfl (Or.inl ha)
  rw [List.foldl_append, htail, pushLogs]
  simp only [List.foldl_cons, List.foldl_nil]
  rw [hlogs, hafter _ _ (by decide), hafter _ _ (by decide)]

lemma scan_flat (hf : b.Fits) (hm : ∀ e ∈ ext, e.Manual) (happ : ∀ e ∈ ext, e.app = b.name)
    (ha : s.app = some b.name) : ∃ inEnv, (b.flat ext).foldl EnvScan.line s =
      ⟨some b.name, inEnv, s.out ++ b.managed ++ ext⟩ := by
  rw [Block.flat]
  split_ifs with hv
  · have hmanaged : b.managed = [] := by rw [Block.managed, hv, List.map_nil]
    rw [hmanaged, List.append_nil]
    induction ext generalizing s with
    | nil => exact ⟨s.inEnv, by simp [ha.symm]⟩
    | cons e ext ih =>
      have hentry : EnvScan.line { s with inEnv := true } e.line =
          { s with inEnv := true, out := s.out ++ [e] } :=
        scan_line (hm e (by simp)) (happ e (by simp)) rfl ha
      obtain ⟨inEnv, h⟩ := ih (s := { s with inEnv := true, out := s.out ++ [e] })
        (fun x hx => hm x (by simp [hx])) (fun x hx => happ x (by simp [hx])) ha
      refine ⟨inEnv, ?_⟩
      rw [List.flatMap_cons, List.cons_append, List.foldl_cons, List.cons_append, List.foldl_cons,
        List.nil_append, scan_env_header, hentry, h]
      simp
  · have hvars : (b.vars.map fun kv => pair kv.1 kv.2).foldl EnvScan.line { s with inEnv := true } =
        { s with inEnv := true, out := s.out ++ b.managed } :=
      scan_vars (fun kv hkv => managed_bare _ (hf.vars kv hkv).1) rfl ha
    have hmanual : (ext.map EnvEntry.line).foldl EnvScan.line
        { s with inEnv := true, out := s.out ++ b.managed } =
        { s with inEnv := true, out := s.out ++ b.managed ++ ext } := scan_manual hm happ rfl ha
    refine ⟨true, ?_⟩
    rw [List.foldl_cons, List.foldl_append, scan_env_header, hvars, hmanual, ha]

lemma scan_around (hf : b.Fits) (hm : ∀ e ∈ ext, e.Manual) (happ : ∀ e ∈ ext, e.app = b.name) :
    (b.around logDir (b.flat ext)).foldl EnvScan.line s =
      ⟨some b.name, false, s.out ++ b.managed ++ ext⟩ := by
  obtain ⟨inEnv, hflat⟩ := scan_flat (s := ⟨some b.name, false, s.out⟩) hf hm happ rfl
  have hlogs : (pushLogs b.name logDir ++ b.tail).foldl EnvScan.line
      ⟨some b.name, inEnv, s.out ++ b.managed ++ ext⟩ = ⟨some b.name, false, s.out ++ b.managed ++ ext⟩ :=
    scan_logs hf rfl
  rw [Block.around, List.foldl_append (l := b.head ++ b.flat ext), List.foldl_append (l := b.head),
    scan_head hf, hflat, hlogs]

lemma scan_flats {ext : Text → List EnvEntry} (hf : ∀ b ∈ bs, b.Fits)
    (hm : ∀ a, ∀ e ∈ ext a, e.Manual) (happ : ∀ a, ∀ e ∈ ext a, e.app = a) :
    ((Flats logDir bs ext).foldl EnvScan.line s).out =
      s.out ++ bs.flatMap fun b => b.managed ++ ext b.name := by
  induction bs generalizing s with
  | nil => simp [Flats]
  | cons b bs ih =>
    have hrest := ih (s := ⟨some b.name, false, s.out ++ b.managed ++ ext b.name⟩)
      fun x hx => hf x (by simp [hx])
    rw [Flats] at hrest
    rw [Flats, List.flatMap_cons, List.foldl_append, scan_around (hf b (by simp)) (hm _) (happ _), hrest,
      List.flatMap_cons]
    simp

end Scan

section Rendering

variable {env : Env} {ext : Text → List EnvEntry}

def Env.blocks (env : Env) : List Block :=
  ⟨serverProduct env.brand, env.serverCommand, env.sfuEnvPassthrough, [[]]⟩ ::
    match env.weaknetBin with
    | none => [⟨serverWebApp env.brand, env.webCommand, [], []⟩]
    | some bin => [⟨serverWebApp env.brand, env.webCommand, [], [[]]⟩,
        ⟨weaknetApp, env.weaknetCommand bin, [(weaknetStatedirKey, env.dir ++ "/run/weaknet".toList)], []⟩]

def Env.front (env : Env) : List Text := oxfileHeader ++ env.oxfileDefaults ++ [[]]

lemma oxfileLines_blocks (env : Env) :
    env.oxfileLines = env.front ++ Blocks env.logDir env.blocks fun _ => [] := by
  have hvars : ∀ t : List Text, Block.table
      ⟨serverProduct env.brand, env.serverCommand, env.sfuEnvPassthrough, t⟩ [] = env.sfuVars := by
    intro t
    rw [Block.table, Env.sfuVars]
    simp only [List.map_nil, List.append_nil]
  have hnone : ∀ t : List Text, Block.table ⟨serverWebApp env.brand, env.webCommand, [], t⟩ [] = [] :=
    fun _ => rfl
  rw [Env.oxfileLines, Env.front, Env.blocks]
  cases env.weaknetBin with
  | none =>
    simp only [Option.map_none, Option.getD_none, Blocks, List.flatMap_cons, List.flatMap_nil, hvars,
      hnone, Env.serverEntry, Env.webEntry, app, Block.around, Block.head, List.append_assoc,
      List.cons_append, List.nil_append, List.append_nil]
  | some bin =>
    simp only [Option.map_some, Option.getD_some, Blocks, List.flatMap_cons, List.flatMap_nil, hvars,
      hnone, Env.serverEntry, Env.webEntry, Env.weaknetEntry, app, Block.around, Block.head,
      List.append_assoc, List.cons_append, List.nil_append, List.append_nil]
    rfl

lemma mem_blocks {b : Block} (h : b ∈ env.blocks) :
    (∃ t, b = ⟨serverProduct env.brand, env.serverCommand, env.sfuEnvPassthrough, t⟩ ∧ (t = [] ∨ t = [[]])) ∨
    (∃ t, b = ⟨serverWebApp env.brand, env.webCommand, [], t⟩ ∧ (t = [] ∨ t = [[]])) ∨
    ∃ bin, env.weaknetBin = some bin ∧ b = ⟨weaknetApp, env.weaknetCommand bin,
      [(weaknetStatedirKey, env.dir ++ "/run/weaknet".toList)], []⟩ := by
  rw [Env.blocks] at h
  obtain rfl | h := List.mem_cons.mp h
  · exact Or.inl ⟨_, rfl, Or.inr rfl⟩
  · cases hb : env.weaknetBin with
    | none =>
      rw [hb] at h
      rw [List.mem_singleton.mp h]
      exact Or.inr (Or.inl ⟨_, rfl, Or.inl rfl⟩)
    | some bin =>
      rw [hb] at h
      simp only [List.mem_cons, List.not_mem_nil, or_false] at h
      obtain rfl | rfl := h
      · exact Or.inr (Or.inl ⟨_, rfl, Or.inr rfl⟩)
      · exact Or.inr (Or.inr ⟨bin, rfl, rfl⟩)

lemma prefix_solid {brand : Option Text} : '\\' ∉ binPrefix brand := by
  rw [binPrefix]
  cases hb : brand.filter validBrand with
  | none =>
    simp only
    decide
  | some p =>
    have hv : validBrand p = true := (Option.filter_eq_some_iff.mp hb).2
    simp only [validBrand, Bool.and_eq_true, List.all_eq_true] at hv
    have hp : '\\' ∉ p := fun h => absurd (hv.2 _ h) (by decide)
    simp only
    split_ifs
    · rw [List.mem_append, not_or]
      exact ⟨hp, by decide⟩
    · decide

lemma Env.Breakless.fits (h : env.Breakless) : ∀ b ∈ env.blocks, b.Fits := by
  have hname : ∀ t : Text, '\\' ∉ t → '\\' ∉ binPrefix env.brand ++ t := by
    intro t ht
    rw [List.mem_append, not_or]
    exact ⟨prefix_solid, ht⟩
  intro b hb
  obtain ⟨t, rfl, ht⟩ | ⟨t, rfl, ht⟩ | ⟨bin, hbin, rfl⟩ := mem_blocks hb
  · refine ⟨plain_server, hname _ (by decide), h.server, ?_, ht.imp_right id⟩
    intro kv hkv
    exact ⟨List.mem_append_left _ (sfu_key hkv), h.vars kv hkv⟩
  · exact ⟨plain_web, hname _ (by decide), h.web, fun kv hkv => absurd hkv List.not_mem_nil, ht⟩
  · have hsolid : '\\' ∉ weaknetApp := by decide
    have hkey : weaknetStatedirKey ∈ managedEnvKeys := by decide
    refine ⟨plain_weaknet, hsolid, h.weaknet hbin, ?_, Or.inl rfl⟩
    intro kv hkv
    rw [List.mem_singleton.mp hkv]
    exact ⟨hkey, by simp [h.dir]⟩

lemma server_ne_web {brand : Option Text} : serverProduct brand ≠ serverWebApp brand := by
  intro h
  exact absurd (List.append_cancel_left h) (by decide)

lemma blocks_nodup : (env.blocks.map Block.name).Nodup := by
  rw [Env.blocks]
  cases env.weaknetBin with
  | none => simp [server_ne_web]
  | some bin => simp [server_ne_web, server_not_weaknet, web_not_weaknet]

lemma Env.Breakless.front_lines (h : env.Breakless) :
    ∀ l ∈ env.front, Intact l ∧ isHeader "[[apps]]" l = false ∧ isHeader "[apps.env]" l = false := by
  have hbare : ∀ k v : Text, BareKey k → '\n' ∉ v → Intact (pair k v) ∧
      isHeader "[[apps]]" (pair k v) = false ∧ isHeader "[apps.env]" (pair k v) = false :=
    fun k v hk hv => ⟨intact_bare hk hv, not_header_bare hk (by decide), not_header_bare hk (by decide)⟩
  have hfixed : ∀ l ∈ oxfileHeader, Intact l ∧ isHeader "[[apps]]" l = false ∧
      isHeader "[apps.env]" l = false := by decide
  intro l hl
  simp only [Env.front, Env.oxfileDefaults, List.mem_append, List.mem_cons, List.not_mem_nil,
    or_false] at hl
  obtain (hl | rfl | rfl | rfl | rfl) | rfl := hl
  · exact hfixed l hl
  · decide
  · exact hbare _ _ (by decide) plain_server.unbroken
  · decide
  · exact hbare _ _ (by decide) h.dir
  · decide

lemma scan_front : env.front.foldl EnvScan.line ⟨none, false, []⟩ = ⟨none, false, []⟩ := by
  have hfixed : ∀ l ∈ oxfileHeader, startsWith "[" (trim l) = false ∧ parseQuotedKv (trim l) = none := by
    decide
  have hheader : ∀ ls : List Text, (∀ l ∈ ls, startsWith "[" (trim l) = false ∧
      parseQuotedKv (trim l) = none) → ∀ s, ls.foldl EnvScan.line s = s := by
    intro ls h s
    induction ls with
    | nil => rfl
    | cons l ls ih =>
      rw [List.foldl_cons, scan_skip (h l (by simp)).1 (h l (by simp)).2]
      exact ih fun x hx => h x (by simp [hx])
  have hpair : ∀ k v : Text, BareKey k → k ≠ "name".toList →
      EnvScan.line ⟨none, false, []⟩ (pair k v) = ⟨none, false, []⟩ :=
    fun k v hk hn => scan_outside hk rfl (Or.inr hn)
  have hdefaults : EnvScan.line ⟨none, false, []⟩ "[defaults]".toList = ⟨none, false, []⟩ := by
    rw [scan_header "[defaults]" (by decide) (by decide) (by decide)]
    simp
  rw [Env.front, List.foldl_append (l := oxfileHeader ++ env.oxfileDefaults), List.foldl_append,
    hheader _ hfixed, Env.oxfileDefaults]
  simp only [List.foldl_cons, List.foldl_nil]
  rw [hdefaults, hpair _ _ (by decide) (by decide), hpair _ _ (by decide) (by decide),
    hpair _ _ (by decide) (by decide), scan_blank]

def HasApp (text app : Text) : Prop := (appBlock (pair "name".toList app) (lines text)).isSome

def HasTable (text app : Text) : Prop :=
  ∃ r ∈ appBlock (pair "name".toList app) (lines text), (envTable r.2.1).isSome

lemma claims_nil {b : Block} {a : Text} : b.Claims [] a ↔ b.name = a := by
  simp [Block.Claims]

lemma Env.Breakless.lines_render (h : env.Breakless) : lines env.renderOxfile =
    env.front ++ Blocks env.logDir env.blocks fun _ => [] := by
  rw [Env.renderOxfile, lines_unlines (oxfileLines_intact h), oxfileLines_blocks]

lemma Env.Breakless.search (h : env.Breakless) {b : Block} (hb : b ∈ env.blocks) :
    ∃ before after, appBlock (pair "name".toList b.name) (lines env.renderOxfile) =
      some (before, b.around env.logDir (b.table []), after) := by
  have hnodup : (env.blocks.map Block.name).Nodup := blocks_nodup
  obtain ⟨bs₁, bs₂, hbs⟩ := List.append_of_mem hb
  rw [hbs, List.map_append, List.map_cons, List.nodup_append', List.disjoint_cons_right] at hnodup
  have hhit : appBlock (pair "name".toList b.name) (Blocks env.logDir env.blocks fun _ => []) = _ :=
    appBlock_hit h.fits (by simp) hbs rfl (by
      intro x hx hc
      rw [claims_nil] at hc
      exact hnodup.2.2.1 (hc ▸ List.mem_map_of_mem hx))
  rw [h.lines_render, appBlock_skip fun l hl => (h.front_lines l hl).2.1, hhit]
  exact ⟨_, _, rfl⟩

lemma Env.Breakless.hasApp_iff (h : env.Breakless) {a : Text} :
    HasApp env.renderOxfile a ↔ a ∈ env.blocks.map Block.name := by
  rw [HasApp]
  constructor
  · intro hs
    by_contra ha
    rw [h.lines_render, appBlock_skip fun l hl => (h.front_lines l hl).2.1,
      appBlock_miss h.fits (by simp)] at hs
    · cases hs
    · intro b hb hc
      exact ha (List.mem_map.mpr ⟨b, hb, claims_nil.1 hc⟩)
  · intro ha
    obtain ⟨b, hb, rfl⟩ := List.mem_map.mp ha
    obtain ⟨u, v, huv⟩ := h.search hb
    rw [huv]
    rfl

lemma Env.Breakless.hasTable_iff (h : env.Breakless) {b : Block} (hb : b ∈ env.blocks) :
    HasTable env.renderOxfile b.name ↔ b.vars ≠ [] := by
  obtain ⟨u, v, huv⟩ := h.search hb
  rw [HasTable, huv]
  constructor
  · rintro ⟨r, hr, hs⟩ hv
    cases hr
    rw [envTable_not_rendered (h.fits b hb) hv] at hs
    cases hs
  · intro hv
    refine ⟨_, rfl, ?_⟩
    rw [envTable_rendered (h.fits b hb) (by simp) hv]
    rfl

lemma weaknet_last {bs₁ bs₂ : List Block} {b : Block} (h : env.blocks = bs₁ ++ b :: bs₂)
    (hb : b.name = weaknetApp) : bs₂ = [] := by
  rw [Env.blocks] at h
  have hs : b.name ≠ serverProduct env.brand := hb ▸ server_not_weaknet.symm
  have hw : b.name ≠ serverWebApp env.brand := hb ▸ web_not_weaknet.symm
  cases bs₁ with
  | nil =>
    rw [List.nil_append, List.cons.injEq] at h
    exact absurd (congrArg Block.name h.1).symm hs
  | cons x bs₁ =>
    rw [List.cons_append, List.cons.injEq] at h
    cases hbin : env.weaknetBin with
    | none =>
      rw [hbin] at h
      cases bs₁ with
      | nil => exact absurd (congrArg Block.name (List.cons.inj h.2).1).symm hw
      | cons y bs₁ => simp at h
    | some bin =>
      rw [hbin] at h
      cases bs₁ with
      | nil => exact absurd (congrArg Block.name (List.cons.inj h.2).1).symm hw
      | cons y bs₁ =>
        cases bs₁ with
        | nil => exact (List.cons.inj (List.cons.inj h.2).2).2.symm
        | cons z bs₁ => simp at h

end Rendering

section Values

variable {s t v : Text} {l : Text} {es : List EnvEntry}

def Paired : Text → Bool
  | [] => true
  | '\\' :: [] => false
  | '\\' :: n :: t => (n == '\\' || n == '"') && Paired t
  | _ :: t => Paired t

lemma break_unescape (h : '\n' ∉ s) : '\n' ∉ unescapeToml s ↔ Paired s := by
  induction s using unescapeToml.induct with
  | case1 => simp [unescapeToml, Paired]
  | case2 => simp [unescapeToml, Paired]
  | case3 n t hn ih =>
    simp only [List.mem_cons, not_or] at h
    rw [unescapeToml, if_pos hn, List.mem_cons, not_or, ih h.2.2, Paired]
    simp [h.2.1, hn]
  | case4 n t hn ih =>
    have hp : (n == '\\' || n == '"') = false := by simpa using hn
    rw [unescapeToml, if_neg hn, Paired, hp]
    simp
  | case5 c t h₁ h₂ ih =>
    simp only [List.mem_cons, not_or] at h
    rw [unescapeToml, List.mem_cons, not_or, ih h.2, Paired]
    · simp [h.1]
    · exact h₁
    · exact h₂
    · exact h₁
    · exact h₂

def rawKv (t : Text) : Option (Text × Text) :=
  if '=' ∈ t then
    (unquote (trim ((t.dropWhile (· ≠ '=')).drop 1))).map fun inner => (trim (t.takeWhile (· ≠ '=')), inner)
  else none

lemma parse_raw (t : Text) :
    parseQuotedKv t = (rawKv t).map fun kv => (kv.1, unescapeToml kv.2) := by
  rw [parseQuotedKv, rawKv]
  split_ifs
  · rw [Option.map_map]
    rfl
  · rfl

def EnvScan.rawLine (s : EnvScan) (line : Text) : EnvScan :=
  if startsWith "[" (trim line) || !s.inEnv then s.line line
  else
    match rawKv (trim line), s.app with
    | some kv, some a => { s with out := s.out ++ [⟨a, kv.1, kv.2⟩] }
    | _, _ => s

def rawEntries (text : Text) : List EnvEntry :=
  ((lines text).foldl EnvScan.rawLine ⟨none, false, []⟩).out

def rawManual (text : Text) : List EnvEntry :=
  (rawEntries text).filter fun e => e.key ∉ managedEnvKeys

def EnvEntry.unescaped (e : EnvEntry) : EnvEntry := { e with value := unescapeToml e.value }

def EnvScan.unescaped (s : EnvScan) : EnvScan := { s with out := s.out.map EnvEntry.unescaped }

lemma EnvScan.line_out (s : EnvScan) (out : List EnvEntry) (h : startsWith "[" (trim l) || !s.inEnv) :
    (s.line l).out = s.out ∧ { s.line l with out := out } = EnvScan.line { s with out := out } l := by
  obtain ⟨app, inEnv, found⟩ := s
  simp only [EnvScan.line]
  by_cases happs : trim l = "[[apps]]".toList
  · simp only [if_pos happs, and_self]
  · by_cases hb : startsWith "[" (trim l)
    · simp only [if_neg happs, if_pos hb, and_self]
    · obtain rfl : inEnv = false := by simpa [hb] using h
      simp only [if_neg happs, if_neg hb]
      cases app with
      | some a => exact ⟨rfl, rfl⟩
      | none =>
        cases parseQuotedKv (trim l) with
        | none => exact ⟨rfl, rfl⟩
        | some kv =>
          have hout : ∀ out, (if kv.1 = "name".toList then EnvScan.mk (some kv.2) false out
              else ⟨none, false, out⟩) =
              ⟨if kv.1 = "name".toList then some kv.2 else none, false, out⟩ := by
            intro out
            split_ifs <;> rfl
          simp only [Option.isNone_none, if_true, Bool.false_eq_true, if_false, hout, and_self]

lemma EnvScan.line_unescaped (s : EnvScan) (l : Text) : s.unescaped.line l = (s.rawLine l).unescaped := by
  rw [rawLine]
  split_ifs with h
  · have hline := (s.line_out (s.out.map EnvEntry.unescaped) h)
    rw [unescaped, unescaped, ← hline.2, hline.1]
  · simp only [Bool.or_eq_true, not_or, Bool.not_eq_true', Bool.not_eq_false] at h
    have happs : trim l ≠ "[[apps]]".toList := by
      intro ht
      rw [ht] at h
      exact h.1 (by decide)
    obtain ⟨app, inEnv, out⟩ := s
    simp only [line, unescaped, if_neg happs, if_neg h.1, if_pos h.2, parse_raw]
    cases app with
    | none => cases rawKv (trim l) <;> rfl
    | some a =>
      cases rawKv (trim l) with
      | none => rfl
      | some kv => simp [EnvEntry.unescaped]

lemma manualEntries_raw (text : Text) : manualEntries text = (rawManual text).map EnvEntry.unescaped := by
  have hscan : (lines text).foldl EnvScan.line (EnvScan.unescaped ⟨none, false, []⟩) =
      ((lines text).foldl EnvScan.rawLine ⟨none, false, []⟩).unescaped :=
    List.foldl_hom EnvScan.unescaped EnvScan.line_unescaped
  have hparse : parseEnvEntries text = (rawEntries text).map EnvEntry.unescaped :=
    congrArg EnvScan.out hscan
  rw [manualEntries, hparse, List.filter_map]
  rfl

lemma firsts_unescaped : firsts (es.map EnvEntry.unescaped) = (firsts es).map EnvEntry.unescaped := by
  have hslot : ∀ es : List EnvEntry, (es.map EnvEntry.unescaped).map EnvEntry.slot = es.map EnvEntry.slot :=
    fun es => List.map_map
  induction es using List.reverseRecOn with
  | nil => rfl
  | append_singleton es e ih =>
    have he : e.unescaped.slot = e.slot := rfl
    rw [List.map_append, List.map_singleton, firsts_concat, firsts_concat, ih, hslot, he]
    split_ifs
    · rfl
    · rw [List.map_append, List.map_singleton]

lemma trim_sublist (t : Text) : (trim t).Sublist t :=
  (List.rdropWhile_prefix _ _).sublist.trans (List.dropWhile_sublist _)

lemma unquote_eq (h : unquote t = some v) : t = '"' :: (v ++ ['"']) := by
  cases t with
  | nil => cases h
  | cons c t =>
    by_cases hc : c = '"'
    · subst hc
      simp only [unquote, Option.ite_none_right_eq_some, Option.some.injEq] at h
      rw [← h.2, List.dropLast_append_getLast? _ h.1]
    · simp [unquote, hc] at h

lemma unquote_sublist (h : unquote t = some v) : v.Sublist t := by
  rw [unquote_eq h]
  exact (List.sublist_append_left _ _).cons _

lemma rawKv_sublist {kv : Text × Text} (h : rawKv t = some kv) : kv.2.Sublist t := by
  rw [rawKv] at h
  split_ifs at h
  obtain ⟨v, hv, rfl⟩ := Option.map_eq_some_iff.mp h
  exact (unquote_sublist hv).trans ((trim_sublist _).trans
    ((List.drop_sublist _ _).trans (List.dropWhile_sublist _)))

lemma EnvScan.rawLine_unbroken {s : EnvScan} (hs : ∀ e ∈ s.out, '\n' ∉ e.value) (hl : '\n' ∉ l) :
    ∀ e ∈ (s.rawLine l).out, '\n' ∉ e.value := by
  rw [rawLine]
  split_ifs with h
  · rwa [(s.line_out [] h).1]
  · cases hkv : rawKv (trim l) with
    | none => exact hs
    | some kv =>
      cases s.app with
      | none => exact hs
      | some a =>
        intro e he
        obtain he | he := List.mem_append.mp he
        · exact hs e he
        · rw [List.mem_singleton.mp he]
          exact fun hm => hl ((trim_sublist l).subset ((rawKv_sublist hkv).subset hm))

lemma rawManual_unbroken (text : Text) : ∀ e ∈ rawManual text, '\n' ∉ e.value := by
  have hfold : ∀ (ls : List Text) (s : EnvScan), (∀ l ∈ ls, '\n' ∉ l) → (∀ e ∈ s.out, '\n' ∉ e.value) →
      ∀ e ∈ (ls.foldl EnvScan.rawLine s).out, '\n' ∉ e.value := by
    intro ls
    induction ls with
    | nil => exact fun _ _ hs => hs
    | cons l ls ih =>
      intro s hls hs
      exact ih _ (fun x hx => hls x (by simp [hx])) (EnvScan.rawLine_unbroken hs (hls l (by simp)))
  intro e he
  exact hfold _ _ (fun l hl => break_lines hl) (by simp) e (List.mem_filter.mp he).1

end Values

section Pieces

variable {b : Block} {logDir l t u v w : Text} {c : Char} {e x : EnvEntry} {s : EnvScan}
  {ls : List Text} {bs : List Block} {ext : List EnvEntry} {kv : Text × Text}

lemma trim_split (t : Text) : ∃ a b, t = a ++ (trim t ++ b) ∧ ∀ c ∈ a, isWhitespace c = true := by
  obtain ⟨b, hb⟩ := List.rdropWhile_prefix isWhitespace (t.dropWhile isWhitespace)
  refine ⟨t.takeWhile isWhitespace, b, ?_, fun c hc => List.mem_takeWhile_imp hc⟩
  rw [trim, Lines.trim, hb, List.takeWhile_append_dropWhile]

lemma parse_quoted (h : parseQuotedKv (trim t) = some kv) :
    ∃ u c v w, t = u ++ c :: '"' :: (v ++ '"' :: w) ∧ c ≠ '\\' ∧ kv.2 = unescapeToml v := by
  rw [parseQuotedKv] at h
  split_ifs at h with hsign
  obtain ⟨v, hv, rfl⟩ := Option.map_eq_some_iff.mp h
  obtain ⟨a, b, ht, -⟩ := trim_split t
  obtain ⟨p, q, hp, hno⟩ := List.eq_append_cons_of_mem hsign
  have hdrop : (trim t).dropWhile (· ≠ '=') = '=' :: q := by
    rw [hp, List.dropWhile_append_of_pos, List.dropWhile_cons_of_neg (by simp)]
    intro c hc
    have hne : c ≠ '=' := fun he => hno (he ▸ hc)
    simpa using hne
  rw [hdrop, List.drop_one, List.tail_cons] at hv
  obtain ⟨a', b', hq, hblank⟩ := trim_split q
  rw [unquote_eq hv] at hq
  have hsolid : ∀ c ∈ '=' :: a', c ≠ '\\' := by
    intro c hc
    obtain rfl | hc := List.mem_cons.mp hc
    · decide
    · rintro rfl
      exact absurd (hblank _ hc) (by decide)
  have hlast : '=' :: a' = ('=' :: a').dropLast ++ [('=' :: a').getLast (by simp)] :=
    (List.dropLast_append_getLast _).symm
  refine ⟨a ++ (p ++ ('=' :: a').dropLast), ('=' :: a').getLast (by simp), v, b' ++ b, ?_,
    hsolid _ (List.getLast_mem _), rfl⟩
  have hassoc : '=' :: q = ('=' :: a') ++ '"' :: (v ++ '"' :: b') := by
    rw [hq]
    simp
  rw [hlast] at hassoc
  rw [ht, hp, hassoc]
  simp

lemma parse_escaped (u : Text) : parseQuotedKv (trim (escapeToml u)) = none := by
  rw [Option.eq_none_iff_forall_ne_some]
  intro kv h
  obtain ⟨p, c, v, w, hu, hc, -⟩ := parse_quoted h
  exact hc (escape_quote hu)

lemma parse_closed (u : Text) : parseQuotedKv (trim (escapeToml u ++ ['"'])) = none := by
  rw [Option.eq_none_iff_forall_ne_some]
  intro kv h
  obtain ⟨p, c, v, w, hu, hc, -⟩ := parse_quoted h
  have hlast : p ++ c :: '"' :: (v ++ '"' :: w) =
      (p ++ c :: '"' :: (v ++ '"' :: w).dropLast) ++ [(v ++ '"' :: w).getLast (by simp)] := by
    have hend := List.dropLast_append_getLast (l := v ++ '"' :: w) (by simp)
    rw [List.append_assoc, List.cons_append, List.cons_append, hend]
  rw [hlast] at hu
  exact hc (escape_quote (List.append_inj_left' hu rfl))

lemma rest_unread (w : Text) : ∀ l ∈ spread (escapeToml w ++ ['"']), parseQuotedKv (trim l) = none := by
  induction hn : w.length using Nat.strong_induction_on generalizing w with
  | _ n ih =>
    by_cases hw : '\n' ∈ w
    · obtain ⟨u, w', rfl, hu⟩ := List.eq_append_cons_of_mem hw
      rw [escape_break, List.append_assoc, List.cons_append,
        spread_break fun h => hu (break_escape.1 h), List.forall_mem_cons, trim_chomp, trim_break]
      refine ⟨parse_escaped u, ih w'.length ?_ w' rfl⟩
      rw [← hn, List.length_append, List.length_cons]
      omega
    · have hi : Intact (escapeToml w ++ ['"']) := by
        refine ⟨?_, by simp⟩
        rw [List.mem_append, not_or, break_escape]
        exact ⟨hw, by decide⟩
      rw [spread_intact hi]
      intro l hl
      rw [List.mem_singleton.mp hl]
      exact parse_closed w

lemma first_shorter (hk : BareKey e.key) (hval : e.value = u ++ '\n' :: w)
    (h : parseQuotedKv (trim (e.key ++ " = \"".toList ++ escapeToml u)) = some kv) :
    kv.2.length < e.value.length := by
  obtain ⟨p, c, v, r, ht, hc, hkv⟩ := parse_quoted h
  have hopen : " = \"".toList = [' ', '=', ' '] ++ ['"'] := by decide
  have hplain : '"' ∉ e.key ++ [' ', '=', ' '] := by
    rw [List.mem_append, not_or]
    exact ⟨hk.not_mem (by decide), by decide⟩
  have hline : (e.key ++ [' ', '=', ' ']) ++ '"' :: escapeToml u =
      (p ++ [c]) ++ '"' :: (v ++ '"' :: r) := by
    rw [hopen] at ht
    simpa using ht
  have hescaped : escapeToml u = v ++ '"' :: r := by
    obtain ⟨a, hp, ha⟩ | ⟨a, hp, ha⟩ := List.append_eq_append_iff.mp hline
    · rcases a with _ | ⟨d, a⟩
      · exact (List.cons.inj ha).2
      · have htail : escapeToml u = a ++ '"' :: (v ++ '"' :: r) := (List.cons.inj ha).2
        rcases List.eq_nil_or_concat' a with rfl | ⟨a, d', rfl⟩
        · exact absurd (congrArg List.head? htail) (escape_head u)
        · have hp' : p ++ [c] = (e.key ++ [' ', '=', ' '] ++ d :: a) ++ [d'] := by
            rw [hp]
            simp
          have hcd : c = d' := (List.cons.inj (List.append_inj_right' hp' rfl)).1
          rw [List.append_assoc, List.singleton_append, ← hcd] at htail
          exact absurd (escape_quote htail) hc
    · rcases a with _ | ⟨d, a⟩
      · exact (List.cons.inj ha).2.symm
      · have hd : '"' = d := (List.cons.inj ha).1
        rw [hp, ← hd] at hplain
        exact absurd (List.mem_append_right _ List.mem_cons_self) hplain
  obtain ⟨a, b, rfl, rfl⟩ := escape_split hescaped
  have hcut : unescapeToml ['\\'] = ['\n'] := rfl
  rw [hkv, unescape_append, hcut, hval]
  simp only [List.length_append, List.length_cons, List.length_nil]
  omega

lemma read_shorter (he : e.Manual) (hl : l ∈ spread e.line) (h : parseQuotedKv (trim l) = some kv)
    (hbreak : '\n' ∈ kv.2) : '\n' ∈ e.value ∧ kv.2.length < e.value.length := by
  by_cases hv : '\n' ∈ e.value
  · refine ⟨hv, ?_⟩
    obtain ⟨u, w, hval, hu⟩ := List.eq_append_cons_of_mem hv
    have hsplit : e.line = (e.key ++ " = \"".toList ++ escapeToml u) ++
        '\n' :: (escapeToml w ++ ['"']) := by
      rw [EnvEntry.line, pair_snoc, hval, escape_break]
      simp
    have hfirst : '\n' ∉ e.key ++ " = \"".toList ++ escapeToml u := by
      simp only [List.mem_append, not_or, break_escape]
      exact ⟨⟨he.bare.not_mem (by decide), by decide⟩, hu⟩
    rw [hsplit, spread_break hfirst] at hl
    obtain rfl | hl := List.mem_cons.mp hl
    · rw [trim_chomp, trim_break] at h
      exact first_shorter he.bare hval h
    · rw [rest_unread w l hl] at h
      cases h
  · rw [spread_intact (intact_line he hv)] at hl
    rw [List.mem_singleton.mp hl, EnvEntry.line, trim_bare he.bare, parse_bare he.bare, unescape_escape] at h
    cases h
    exact absurd hbreak hv

lemma table_read (hf : b.Fits) (hl : l ∈ (b.table ext).flatMap spread)
    (h : parseQuotedKv (trim l) = some kv) (hkey : kv.1 ∉ managedEnvKeys) :
    ∃ e ∈ ext, l ∈ spread e.line := by
  have hheader : parseQuotedKv (trim "[apps.env]".toList) = none := by decide
  obtain ⟨y, hy, hl⟩ := List.mem_flatMap.mp hl
  rw [Block.table] at hy
  split_ifs at hy
  · obtain ⟨e, he, rfl⟩ := List.mem_map.mp hy
    rw [spread_table] at hl
    obtain rfl | hl := List.mem_cons.mp hl
    · rw [hheader] at h
      cases h
    · exact ⟨e, he, hl⟩
  · obtain rfl | hy := List.mem_cons.mp hy
    · rw [spread_intact (by decide)] at hl
      rw [List.mem_singleton.mp hl, hheader] at h
      cases h
    · obtain hy | hy := List.mem_append.mp hy
      · obtain ⟨kv', hkv', rfl⟩ := List.mem_map.mp hy
        have hvar := hf.vars kv' hkv'
        have hbare := managed_bare _ hvar.1
        rw [spread_intact (intact_bare hbare hvar.2)] at hl
        rw [List.mem_singleton.mp hl, trim_bare hbare, parse_bare hbare] at h
        cases h
        exact absurd hvar.1 hkey
      · obtain ⟨e, he, rfl⟩ := List.mem_map.mp hy
        exact ⟨e, he, hl⟩

lemma EnvScan.line_inEnv (hb : startsWith "[" (trim l) = false) : (s.line l).inEnv = s.inEnv := by
  rw [line, if_neg (not_apps_of_bracket hb), if_neg (by simp [hb])]
  split_ifs
  · split <;> rfl
  · split
    · split_ifs <;> rfl
    · rfl
  · rfl

lemma EnvScan.mem_line (h : x ∈ (s.line l).out) :
    x ∈ s.out ∨ parseQuotedKv (trim l) = some (x.key, x.value) := by
  by_cases hout : startsWith "[" (trim l) || !s.inEnv
  · exact Or.inl ((s.line_out [] hout).1 ▸ h)
  · obtain ⟨app, inEnv, out⟩ := s
    simp only [Bool.or_eq_true, not_or, Bool.not_eq_true', Bool.not_eq_false] at hout
    simp only [line, if_neg (not_apps_of_bracket (Bool.eq_false_iff.mpr hout.1)), if_neg hout.1,
      if_pos hout.2] at h
    cases hkv : parseQuotedKv (trim l) with
    | none =>
      rw [hkv] at h
      exact Or.inl h
    | some kv =>
      rw [hkv] at h
      cases app with
      | none => exact Or.inl h
      | some a =>
        obtain h | h := List.mem_append.mp h
        · exact Or.inl h
        · rw [List.mem_singleton.mp h]
          exact Or.inr rfl

lemma scan_mem (h : x ∈ (ls.foldl EnvScan.line s).out) :
    x ∈ s.out ∨ ∃ l ∈ ls, parseQuotedKv (trim l) = some (x.key, x.value) := by
  induction ls generalizing s with
  | nil => exact Or.inl h
  | cons l ls ih =>
    obtain h | ⟨l', hl', h⟩ := ih h
    · obtain h | h := EnvScan.mem_line h
      · exact Or.inl h
      · exact Or.inr ⟨l, by simp, h⟩
    · exact Or.inr ⟨l', by simp [hl'], h⟩

lemma scan_quiet (he : s.inEnv = false) (hls : ∀ l ∈ ls, startsWith "[" (trim l) = false) :
    (ls.foldl EnvScan.line s).out = s.out := by
  induction ls generalizing s with
  | nil => rfl
  | cons l ls ih =>
    have hl := hls l (by simp)
    rw [List.foldl_cons, ih ((EnvScan.line_inEnv hl).trans he) fun x hx => hls x (by simp [hx])]
    exact (s.line_out [] (by simp [he])).1

lemma scan_logs_out (hf : b.Fits) :
    ((pushLogs b.name logDir ++ b.tail).foldl EnvScan.line s).out = s.out := by
  have hlogs : EnvScan.line s "[apps.logs]".toList = { s with inEnv := false } := by
    rw [scan_header "[apps.logs]" (by decide) (by decide) (by decide)]
    simp
  rw [pushLogs, List.cons_append, List.foldl_cons, hlogs]
  apply scan_quiet rfl
  intro l hl
  simp only [List.cons_append, List.nil_append, List.mem_cons] at hl
  obtain rfl | rfl | hl := hl
  · exact bracket_bare (by decide) _
  · exact bracket_bare (by decide) _
  · rw [mem_tail hf hl]
    rfl

lemma scan_mids {mid : Block → List Text} (hf : ∀ b ∈ bs, b.Fits)
    (h : x ∈ ((bs.flatMap fun b => b.around logDir (mid b)).foldl EnvScan.line s).out) :
    x ∈ s.out ∨ ∃ b ∈ bs, ∃ l ∈ mid b, parseQuotedKv (trim l) = some (x.key, x.value) := by
  induction bs generalizing s with
  | nil => exact Or.inl h
  | cons b bs ih =>
    have hb := hf b (by simp)
    rw [List.flatMap_cons, List.foldl_append] at h
    obtain h | ⟨b', hb', hl⟩ := ih (fun x hx => hf x (by simp [hx])) h
    · rw [Block.around, List.foldl_append (l := b.head ++ mid b), List.foldl_append (l := b.head),
        scan_head hb, scan_logs_out hb] at h
      obtain h | ⟨l, hl, hp⟩ := scan_mem h
      · exact Or.inl h
      · exact Or.inr ⟨b, by simp, l, hl, hp⟩
    · exact Or.inr ⟨b', by simp [hb'], hl⟩

end Pieces

end MediaServo.Server.Lifecycle
