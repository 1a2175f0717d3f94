import MediaServo.ServerProofs.EnvScan

/-! What a merge of the manual variables into a rendering keeps, and where it goes wrong. -/

namespace MediaServo.Server.Lifecycle

open MediaServo.Foundations
open Lines (Text lines chomp chomp_clean break_lines break_chomp)

section Merge

def readBack (text app key : Text) : Option Text :=
  ((parseEnvEntries text).find? fun e => e.slot = (app, key)).map EnvEntry.value

/-- Whether no entry has two tables of variables, from a line on before which its entry has one or
none. -/
def tablesOnce : Bool → List Text → Bool
  | _, [] => true
  | seen, l :: ls =>
      if isHeader "[[apps]]" l then tablesOnce false ls
      else if isHeader "[apps.env]" l then !seen && tablesOnce true ls
      else tablesOnce seen ls

/-- What a merge of the manual variables of a text into a rendering is to keep. -/
structure MergeKept (old new merged : Text) : Prop where
  tables : tablesOnce false (lines merged)
  manual : ∀ app key, HasApp new app → key ∉ managedEnvKeys →
    readBack merged app key = readBack old app key
  managed : (parseEnvEntries merged).filter (·.key ∈ managedEnvKeys) =
    (parseEnvEntries new).filter (·.key ∈ managedEnvKeys)
  rest : (lines new).Sublist (lines merged)
  again : mergeManualEnv merged new = merged

/-- No variable in a table is called a name and has the name of another app as its value, unless that
app's entry stands before the table, or there is none and its variables come first. -/
def NamesApart (old new : Text) : Prop :=
  ∀ u e v, manualEntries old = u ++ e :: v → ∀ x ∈ firsts (manualEntries old), HasTable new x.app →
    x.key = "name".toList → escapeToml x.value = e.app →
      x.app = e.app ∨ (HasApp new e.app ∧ x.app = weaknetApp) ∨ (¬HasApp new e.app ∧ x ∉ u)

/-- An entry that is rendered without a table is to get one variable at most. -/
def OneKey (old new : Text) : Prop :=
  ∀ e ∈ manualEntries old, ∀ e' ∈ manualEntries old, e.app = e'.app → HasApp new e.app →
    ¬HasTable new e.app → e.key = e'.key

/-- Each backslash in a value escapes another one or a quote. -/
def NoStray (old new : Text) : Prop :=
  ∀ e ∈ firsts (rawManual old), HasApp new e.app → Paired e.value

variable {env : Env} {old : Text} {b : Block} {bs : List Block} {logDir : Text} {es : List EnvEntry}
  {ext : Text → List EnvEntry} {seen : Bool} {ls rest : List Text}

lemma noStray_iff {new : Text} :
    NoStray old new ↔ ∀ e ∈ firsts (manualEntries old), HasApp new e.app → '\n' ∉ e.value := by
  rw [NoStray, manualEntries_raw, firsts_unescaped, List.forall_mem_map]
  refine forall₂_congr fun e he => imp_congr_right fun _ => ?_
  exact (break_unescape (rawManual_unbroken old e (firsts_sublist.subset he))).symm

lemma readBack_manual {text app key : Text} (hkey : key ∉ managedEnvKeys) : readBack text app key =
    ((manualEntries text).find? fun e => e.slot = (app, key)).map EnvEntry.value := by
  rw [readBack, manualEntries, List.find?_filter]
  apply congrArg
  apply List.find?_congr
  intro e he
  by_cases hslot : e.slot = (app, key)
  · have hek : e.key = key := congrArg Prod.snd hslot
    simp [hslot, hek, hkey]
  · simp [hslot]

lemma NamesApart.unaliased (h : env.Breakless) (hn : NamesApart old env.renderOxfile) :
    Unaliased env.blocks (manualEntries old) := by
  intro u e v hes x hx hkey hval bs₁ b bs₂ hbs hv happ
  have hb : b ∈ env.blocks := by simp [hbs]
  obtain hsame | ⟨hhas, hlast⟩ | ⟨hnot, hx⟩ :=
    hn u e v hes x hx (happ ▸ (h.hasTable_iff hb).2 hv) hkey hval
  · exact Or.inl hsame
  · have hmem := h.hasApp_iff.1 hhas
    rw [hbs, weaknet_last hbs (happ.trans hlast), List.map_append, List.mem_append,
      List.map_singleton, List.mem_singleton] at hmem
    obtain hmem | hmem := hmem
    · exact Or.inr (Or.inl hmem)
    · exact Or.inl (happ.symm.trans hmem.symm)
  · exact Or.inr (Or.inr ⟨fun hmem => hnot (h.hasApp_iff.2 hmem), hx⟩)

lemma mergeManualEnv_eq (h : env.Breakless) (hm : ∀ e ∈ manualEntries old, e.Manual)
    (hu : Unaliased env.blocks (manualEntries old)) : mergeManualEnv old env.renderOxfile =
      Lines.unlines '\n' (env.front ++
        Blocks env.logDir env.blocks (picked (firsts (manualEntries old)))) := by
  rw [mergeManualEnv]
  split_ifs with hnil
  · rw [hnil, Env.renderOxfile, oxfileLines_blocks]
    rfl
  · rw [h.lines_render, foldl_mergeEntry (fun l hl => (h.front_lines l hl).2.1) h.fits blocks_nodup hm hu]
    exact Lines.intercalate_unlines '\n' _ _

lemma manual_of_bare (hk : ∀ e ∈ manualEntries old, BareKey e.key) :
    ∀ e ∈ manualEntries old, e.Manual := by
  intro e he
  refine ⟨hk e he, ?_⟩
  simpa using (List.mem_filter.mp he).2

lemma tablesOnce_skip (h : ∀ l ∈ ls, isHeader "[[apps]]" l = false ∧ isHeader "[apps.env]" l = false) :
    tablesOnce seen (ls ++ rest) = tablesOnce seen rest := by
  induction ls with
  | nil => rfl
  | cons l ls ih =>
    have hl := h l (by simp)
    rw [List.cons_append, tablesOnce, if_neg (by simp [hl.1]), if_neg (by simp [hl.2]),
      ih fun x hx => h x (by simp [hx])]

lemma parse_flats (hf : ∀ b ∈ env.blocks, b.Fits) (hm : ∀ a, ∀ e ∈ ext a, e.Manual)
    (happ : ∀ a, ∀ e ∈ ext a, e.app = a) {text : Text}
    (ht : lines text = env.front ++ Flats env.logDir env.blocks ext) :
    parseEnvEntries text = env.blocks.flatMap fun b => b.managed ++ ext b.name := by
  rw [parseEnvEntries, ht, List.foldl_append, scan_front, scan_flats hf hm happ]
  rfl

lemma filter_managed (hf : ∀ b ∈ bs, b.Fits) (hm : ∀ a, ∀ e ∈ ext a, e.Manual) :
    (bs.flatMap fun b => b.managed ++ ext b.name).filter (fun e => e.key ∈ managedEnvKeys) =
      bs.flatMap Block.managed ∧
    (bs.flatMap fun b => b.managed ++ ext b.name).filter (fun e => e.key ∉ managedEnvKeys) =
      bs.flatMap fun b => ext b.name := by
  induction bs with
  | nil => exact ⟨rfl, rfl⟩
  | cons b bs ih =>
    obtain ⟨ih₁, ih₂⟩ := ih fun x hx => hf x (by simp [hx])
    have hmanaged : ∀ e ∈ b.managed, e.key ∈ managedEnvKeys := by
      intro e he
      obtain ⟨kv, hkv, rfl⟩ := List.mem_map.mp he
      exact ((hf b (by simp)).vars kv hkv).1
    have hmanual : ∀ e ∈ ext b.name, e.key ∉ managedEnvKeys := fun e he => (hm _ e he).manual
    have h₁ : b.managed.filter (fun e => e.key ∈ managedEnvKeys) = b.managed :=
      List.filter_eq_self.mpr fun e he => decide_eq_true (hmanaged e he)
    have h₂ : (ext b.name).filter (fun e => e.key ∈ managedEnvKeys) = [] :=
      List.filter_eq_nil_iff.mpr fun e he => by simpa using hmanual e he
    have h₃ : b.managed.filter (fun e => e.key ∉ managedEnvKeys) = [] :=
      List.filter_eq_nil_iff.mpr fun e he => by simpa using hmanaged e he
    have h₄ : (ext b.name).filter (fun e => e.key ∉ managedEnvKeys) = ext b.name :=
      List.filter_eq_self.mpr fun e he => decide_eq_true (hmanual e he)
    simp only [List.flatMap_cons, List.filter_append, h₁, h₂, h₃, h₄, ih₁, ih₂, List.append_nil,
      List.nil_append, and_self]

lemma tablesOnce_flats (hf : ∀ b ∈ bs, b.Fits) (hm : ∀ a, ∀ e ∈ ext a, e.Manual) :
    tablesOnce seen (Flats logDir bs ext) ↔ ∀ b ∈ bs, b.vars = [] → (ext b.name).length ≤ 1 := by
  induction bs generalizing seen with
  | nil => simp [Flats, tablesOnce]
  | cons b bs ih =>
    have hb := hf b (by simp)
    have hrest : ∀ seen, tablesOnce seen (Flats logDir bs ext) ↔
        ∀ b ∈ bs, b.vars = [] → (ext b.name).length ≤ 1 := fun _ => ih fun x hx => hf x (by simp [hx])
    have hbare : ∀ k v : Text, BareKey k → isHeader "[[apps]]" (pair k v) = false ∧
        isHeader "[apps.env]" (pair k v) = false :=
      fun k v hk => ⟨not_header_bare hk (by decide), not_header_bare hk (by decide)⟩
    have hhead : ∀ l ∈ b.head.tail, isHeader "[[apps]]" l = false ∧ isHeader "[apps.env]" l = false := by
      intro l hl
      simp only [Block.head, List.tail_cons, List.mem_cons, List.not_mem_nil, or_false] at hl
      obtain rfl | rfl | rfl := hl <;> exact hbare _ _ (by decide)
    have hlogs : ∀ l ∈ pushLogs b.name logDir ++ b.tail,
        isHeader "[[apps]]" l = false ∧ isHeader "[apps.env]" l = false := by
      intro l hl
      obtain hl | hl := List.mem_append.mp hl
      · obtain rfl | rfl | rfl := mem_logs.1 hl
        · decide
        · exact hbare _ _ (by decide)
        · exact hbare _ _ (by decide)
      · rw [mem_tail hb hl]
        decide
    have hline : ∀ e ∈ ext b.name, isHeader "[[apps]]" e.line = false ∧
        isHeader "[apps.env]" e.line = false := fun e he => hbare _ _ (hm _ e he).bare
    have henv : ∀ ls : List Text, (∀ l ∈ ls, isHeader "[[apps]]" l = false ∧
        isHeader "[apps.env]" l = false) →
        ∀ seen rest, tablesOnce seen ("[apps.env]".toList :: (ls ++ rest)) =
          (!seen && tablesOnce true rest) := by
      intro ls hls seen rest
      have h₁ : isHeader "[[apps]]" "[apps.env]".toList = false := by decide
      have h₂ : isHeader "[apps.env]" "[apps.env]".toList = true := by decide
      rw [tablesOnce, if_neg (by rw [h₁]; decide), if_pos h₂, tablesOnce_skip hls]
    have hstart : isHeader "[[apps]]" "[[apps]]".toList = true := by decide
    have hflats : Flats logDir (b :: bs) ext = "[[apps]]".toList :: (b.head.tail ++
        (b.flat (ext b.name) ++ (pushLogs b.name logDir ++ b.tail ++ Flats logDir bs ext))) := by
      rw [Flats, List.flatMap_cons, Block.around, Flats]
      simp [Block.head]
    rw [hflats, tablesOnce, if_pos hstart, tablesOnce_skip hhead, Block.flat]
    rw [List.forall_mem_cons]
    split_ifs with hv
    · have hone : ∀ e ∈ ext b.name, ∀ l ∈ [e.line], isHeader "[[apps]]" l = false ∧
          isHeader "[apps.env]" l = false := by
        intro e he l hl
        rw [List.mem_singleton.mp hl]
        exact hline e he
      rcases hext : ext b.name with _ | ⟨e, _ | ⟨e', es⟩⟩
      · rw [List.flatMap_nil, List.nil_append, tablesOnce_skip hlogs, hrest]
        simp
      · have h := henv _ (hone e (by simp [hext])) false
          (pushLogs b.name logDir ++ b.tail ++ Flats logDir bs ext)
        rw [List.singleton_append] at h
        rw [List.flatMap_cons, List.flatMap_nil, List.append_nil, List.cons_append, List.cons_append,
          List.nil_append, h, tablesOnce_skip hlogs, Bool.not_false, Bool.true_and, hrest]
        simp
      · have h := henv _ (hone e (by simp [hext]))
        have h' := henv _ (hone e' (by simp [hext]))
        simp only [List.singleton_append] at h h'
        simp only [List.flatMap_cons, List.cons_append, List.nil_append, h, h']
        simp [hv]
    · have hvars : ∀ l ∈ (b.vars.map fun kv => pair kv.1 kv.2) ++ (ext b.name).map EnvEntry.line,
          isHeader "[[apps]]" l = false ∧ isHeader "[apps.env]" l = false := by
        intro l hl
        obtain hl | hl := List.mem_append.mp hl
        · obtain ⟨kv, hkv, rfl⟩ := List.mem_map.mp hl
          exact hbare _ _ (managed_bare _ (hb.vars kv hkv).1)
        · obtain ⟨e, he, rfl⟩ := List.mem_map.mp hl
          exact hline e he
      rw [List.cons_append, henv _ hvars, tablesOnce_skip hlogs, Bool.not_false, Bool.true_and, hrest]
      simp [hv]

lemma flats_sublist : (Flats logDir bs fun _ => []).Sublist (Flats logDir bs ext) := by
  induction bs with
  | nil => exact List.Sublist.refl _
  | cons b bs ih =>
    rw [Flats] at ih
    rw [Flats, Flats, List.flatMap_cons, List.flatMap_cons]
    apply List.Sublist.append _ ih
    rw [Block.around, Block.around]
    apply List.Sublist.append _ (List.Sublist.refl _)
    apply List.Sublist.append (List.Sublist.refl _)
    rw [Block.flat, Block.flat]
    split_ifs
    · exact List.nil_sublist _
    · rw [List.map_nil, List.append_nil]
      exact (List.sublist_append_left _ _).cons_cons _

lemma picked_flatMap (hn : (bs.map Block.name).Nodup) (happ : ∀ a, ∀ e ∈ ext a, e.app = a)
    (hb : b ∈ bs) : picked (bs.flatMap fun b => ext b.name) b.name = ext b.name := by
  have hself : ∀ a, picked (ext a) a = ext a := fun a =>
    List.filter_eq_self.mpr fun e he => decide_eq_true (happ a e he)
  have hother : ∀ a c, a ≠ c → picked (ext c) a = [] := fun a c hne =>
    List.filter_eq_nil_iff.mpr fun e he => by
      rw [decide_eq_true_eq, happ c e he]
      exact hne.symm
  induction bs with
  | nil => cases hb
  | cons x bs ih =>
    rw [List.map_cons, List.nodup_cons] at hn
    have hsplit : picked ((x :: bs).flatMap fun b => ext b.name) b.name =
        picked (ext x.name) b.name ++ picked (bs.flatMap fun b => ext b.name) b.name := by
      rw [List.flatMap_cons, picked, List.filter_append]
      rfl
    rw [hsplit]
    obtain rfl | hb := List.mem_cons.mp hb
    · have hrest : picked (bs.flatMap fun b => ext b.name) b.name = [] := by
        rw [picked, List.filter_eq_nil_iff]
        intro e he
        obtain ⟨y, hy, he⟩ := List.mem_flatMap.mp he
        rw [decide_eq_true_eq, happ _ e he]
        exact fun h => hn.1 (h ▸ List.mem_map_of_mem hy)
      rw [hself, hrest, List.append_nil]
    · rw [hother, List.nil_append, ih hn.2 hb]
      exact fun h => hn.1 (h ▸ List.mem_map_of_mem hb)

lemma nodup_flatMap (hn : (bs.map Block.name).Nodup) (happ : ∀ a, ∀ e ∈ ext a, e.app = a)
    (hnodup : ∀ a, ((ext a).map EnvEntry.slot).Nodup) :
    ((bs.flatMap fun b => ext b.name).map EnvEntry.slot).Nodup := by
  induction bs with
  | nil => exact List.nodup_nil
  | cons b bs ih =>
    rw [List.map_cons, List.nodup_cons] at hn
    rw [List.flatMap_cons, List.map_append, List.nodup_append']
    refine ⟨hnodup _, ih hn.2, ?_⟩
    intro p hp hp'
    obtain ⟨e, he, rfl⟩ := List.mem_map.mp hp
    obtain ⟨e', he', hslot⟩ := List.mem_map.mp hp'
    obtain ⟨y, hy, he'⟩ := List.mem_flatMap.mp he'
    have hname : y.name = b.name := by
      rw [← happ _ e he, ← happ _ e' he']
      exact congrArg Prod.fst hslot
    exact hn.1 (hname ▸ List.mem_map_of_mem hy)

lemma picked_slots (a : Text) : ((picked (firsts es) a).map EnvEntry.slot).Nodup :=
  nodup_firsts.sublist (List.filter_sublist.map _)

lemma picked_app (a : Text) : ∀ e ∈ picked (firsts es) a, e.app = a := fun _ he => (mem_picked.1 he).2

lemma OneKey.length_le (h : env.Breakless) (hone : OneKey old env.renderOxfile) (hb : b ∈ env.blocks)
    (hv : b.vars = []) : (picked (firsts (manualEntries old)) b.name).length ≤ 1 := by
  have happ : HasApp env.renderOxfile b.name := h.hasApp_iff.2 (List.mem_map_of_mem hb)
  have htable : ¬HasTable env.renderOxfile b.name := fun ht => (h.hasTable_iff hb).1 ht hv
  have hn : ((picked (firsts (manualEntries old)) b.name).map EnvEntry.slot).Nodup := picked_slots _
  have hsame : ∀ e ∈ picked (firsts (manualEntries old)) b.name,
      ∀ e' ∈ picked (firsts (manualEntries old)) b.name, e.slot = e'.slot := by
    intro e he e' he'
    obtain ⟨he, hea⟩ := mem_picked.1 he
    obtain ⟨he', hea'⟩ := mem_picked.1 he'
    exact Prod.ext (hea.trans hea'.symm) (hone e (firsts_sublist.subset he) e' (firsts_sublist.subset he')
      (hea.trans hea'.symm) (hea ▸ happ) (hea ▸ htable))
  generalize picked (firsts (manualEntries old)) b.name = l at hn hsame
  rcases l with _ | ⟨e, _ | ⟨e', l⟩⟩
  · simp
  · simp
  · rw [List.map_cons, List.nodup_cons, List.map_cons, hsame e (by simp) e' (by simp)] at hn
    exact absurd List.mem_cons_self hn.1

lemma lines_merge (h : env.Breakless) (hm : ∀ e ∈ manualEntries old, e.Manual)
    (hu : Unaliased env.blocks (manualEntries old)) :
    lines (mergeManualEnv old env.renderOxfile) = env.front ++ env.blocks.flatMap fun b =>
      b.around env.logDir ((b.table (picked (firsts (manualEntries old)) b.name)).flatMap spread) := by
  rw [mergeManualEnv_eq h hm hu, lines_spread, List.flatMap_append,
    spread_lines fun l hl => (h.front_lines l hl).1, flatMap_spread_blocks h.fits h.log]

lemma NoStray.lines_merge (h : env.Breakless) (hm : ∀ e ∈ manualEntries old, e.Manual)
    (hu : Unaliased env.blocks (manualEntries old)) (hs : NoStray old env.renderOxfile) :
    lines (mergeManualEnv old env.renderOxfile) =
      env.front ++ Flats env.logDir env.blocks (picked (firsts (manualEntries old))) := by
  rw [Lifecycle.lines_merge h hm hu, Flats]
  congr 1
  apply List.flatMap_congr
  intro b hb
  rw [flatMap_spread_table (h.fits b hb)]
  · exact fun e he => hm e (firsts_sublist.subset (mem_picked.1 he).1)
  · intro e he
    obtain ⟨he, happ⟩ := mem_picked.1 he
    exact noStray_iff.1 hs e he (h.hasApp_iff.2 (happ ▸ List.mem_map_of_mem hb))

lemma lines_render_flats (h : env.Breakless) :
    lines env.renderOxfile = env.front ++ Flats env.logDir env.blocks fun _ => [] := by
  rw [h.lines_render, Blocks, Flats]
  simp only [flat_nil]

lemma merge_kept (h : env.Breakless) (hm : ∀ e ∈ manualEntries old, e.Manual)
    (hu : Unaliased env.blocks (manualEntries old)) (hone : OneKey old env.renderOxfile)
    (hs : NoStray old env.renderOxfile) :
    MergeKept old env.renderOxfile (mergeManualEnv old env.renderOxfile) := by
  have hman : ∀ a, ∀ e ∈ picked (firsts (manualEntries old)) a, e.Manual := fun a e he =>
    hm e (firsts_sublist.subset (mem_picked.1 he).1)
  have hlines := hs.lines_merge h hm hu
  have hparse := parse_flats h.fits hman picked_app hlines
  have hnew : parseEnvEntries env.renderOxfile = env.blocks.flatMap fun b => b.managed ++ [] :=
    parse_flats h.fits (by simp) (by simp) (lines_render_flats h)
  have hentries : manualEntries (mergeManualEnv old env.renderOxfile) =
      env.blocks.flatMap fun b => picked (firsts (manualEntries old)) b.name := by
    rw [manualEntries, hparse]
    exact (filter_managed h.fits hman).2
  have hnodup : ((manualEntries (mergeManualEnv old env.renderOxfile)).map EnvEntry.slot).Nodup := by
    rw [hentries]
    exact nodup_flatMap blocks_nodup picked_app picked_slots
  have hpicked : ∀ b ∈ env.blocks,
      picked (firsts (manualEntries (mergeManualEnv old env.renderOxfile))) b.name =
        picked (firsts (manualEntries old)) b.name := by
    intro b hb
    rw [firsts_of_nodup hnodup, hentries]
    exact picked_flatMap blocks_nodup picked_app hb
  have hsub : ∀ e ∈ manualEntries (mergeManualEnv old env.renderOxfile), e ∈ firsts (manualEntries old) := by
    intro e he
    rw [hentries] at he
    obtain ⟨b, -, he⟩ := List.mem_flatMap.mp he
    exact (mem_picked.1 he).1
  constructor
  · rw [hlines, tablesOnce_skip fun l hl => (h.front_lines l hl).2]
    exact (tablesOnce_flats h.fits hman).2 fun b hb hv => hone.length_le h hb hv
  · intro app key happ hkey
    have hfirsts : (manualEntries old).find? (fun e => e.slot = (app, key)) =
        (firsts (manualEntries old)).find? fun e => e.slot = (app, key) := (find_firsts _).symm
    rw [readBack_manual hkey, readBack_manual hkey, hfirsts]
    apply congrArg
    cases hfind : (firsts (manualEntries old)).find? fun e => e.slot = (app, key) with
    | none =>
      rw [List.find?_eq_none] at hfind ⊢
      exact fun e he => hfind e (hsub e he)
    | some e =>
      have hmem := List.mem_of_find?_eq_some hfind
      have hslot : e.slot = (app, key) := by simpa using List.find?_some hfind
      have happe : e.app = app := congrArg Prod.fst hslot
      obtain ⟨b, hb, hname⟩ := List.mem_map.mp (h.hasApp_iff.1 happ)
      have he : e ∈ firsts (manualEntries (mergeManualEnv old env.renderOxfile)) := by
        rw [firsts_of_nodup hnodup, hentries]
        exact List.mem_flatMap.mpr ⟨b, hb, mem_picked.2 ⟨hmem, happe.trans hname.symm⟩⟩
      rw [mem_firsts_iff, hslot] at he
      exact he
  · have hnone : ∀ a : Text, ∀ e ∈ (fun _ => [] : Text → List EnvEntry) a, e.Manual := by simp
    have hrender : (env.blocks.flatMap fun b => b.managed ++ []).filter
        (fun e => e.key ∈ managedEnvKeys) = env.blocks.flatMap Block.managed :=
      (filter_managed h.fits hnone).1
    rw [hparse, (filter_managed h.fits hman).1, hnew, hrender]
  · rw [hlines, lines_render_flats h]
    exact (List.Sublist.refl _).append flats_sublist
  · have hu' : Unaliased env.blocks (manualEntries (mergeManualEnv old env.renderOxfile)) := by
      intro u e v hes x hx hkey hval bs₁ b bs₂ hbs hv happ
      have he : e ∈ manualEntries (mergeManualEnv old env.renderOxfile) := by simp [hes]
      obtain ⟨u', v', hes'⟩ := List.append_of_mem (firsts_sublist.subset (hsub e he))
      obtain hsame | hbefore | ⟨hnot, -⟩ := hu u' e v' hes' x (hsub x (firsts_sublist.subset hx)) hkey
        hval bs₁ b bs₂ hbs hv happ
      · exact Or.inl hsame
      · exact Or.inr (Or.inl hbefore)
      · rw [hentries] at he
        obtain ⟨y, hy, he⟩ := List.mem_flatMap.mp he
        exact absurd (List.mem_map.mpr ⟨y, hy, ((mem_picked.1 he).2).symm⟩) hnot
    have hblocks : Blocks env.logDir env.blocks
        (picked (firsts (manualEntries (mergeManualEnv old env.renderOxfile)))) =
          Blocks env.logDir env.blocks (picked (firsts (manualEntries old))) := blocks_congr hpicked
    rw [mergeManualEnv_eq h (fun e he => hm e (firsts_sublist.subset (hsub e he))) hu', hblocks]
    exact (mergeManualEnv_eq h hm hu).symm

lemma MergeKept.longer (h : env.Breakless) (hm : ∀ e ∈ manualEntries old, e.Manual)
    (hu : Unaliased env.blocks (manualEntries old))
    (hk : MergeKept old env.renderOxfile (mergeManualEnv old env.renderOxfile)) {e : EnvEntry}
    (he : e ∈ firsts (manualEntries old)) (happ : HasApp env.renderOxfile e.app)
    (hbreak : '\n' ∈ e.value) : ∃ e' ∈ firsts (manualEntries old), HasApp env.renderOxfile e'.app ∧
      '\n' ∈ e'.value ∧ e.value.length < e'.value.length := by
  have hkey := (hm e (firsts_sublist.subset he)).manual
  have hread : readBack (mergeManualEnv old env.renderOxfile) e.app e.key = some e.value := by
    rw [hk.manual _ _ happ hkey, readBack_manual hkey]
    exact congrArg _ (mem_firsts_iff.1 he)
  obtain ⟨x, hx, hval⟩ := Option.map_eq_some_iff.mp hread
  have hslot : x.slot = (e.app, e.key) := by simpa using List.find?_some hx
  have hmem := List.mem_of_find?_eq_some hx
  rw [parseEnvEntries, lines_merge h hm hu, List.foldl_append, scan_front] at hmem
  obtain hmem | ⟨b, hb, l, hl, hp⟩ := scan_mids h.fits hmem
  · cases hmem
  · have hxe : x.key = e.key := congrArg Prod.snd hslot
    rw [hxe, hval] at hp
    obtain ⟨e', he', hl⟩ := table_read (h.fits b hb) hl hp hkey
    obtain ⟨he', hname⟩ := mem_picked.1 he'
    obtain ⟨hbreak', hlen⟩ := read_shorter (hm e' (firsts_sublist.subset he')) hl hp hbreak
    exact ⟨e', he', h.hasApp_iff.2 (hname ▸ List.mem_map_of_mem hb), hbreak', hlen⟩

lemma MergeKept.noStray (h : env.Breakless) (hm : ∀ e ∈ manualEntries old, e.Manual)
    (hu : Unaliased env.blocks (manualEntries old))
    (hk : MergeKept old env.renderOxfile (mergeManualEnv old env.renderOxfile)) :
    NoStray old env.renderOxfile := by
  rw [noStray_iff]
  intro e he happ hbreak
  have hgrow : ∀ n, ∃ e ∈ firsts (manualEntries old), HasApp env.renderOxfile e.app ∧
      '\n' ∈ e.value ∧ n ≤ e.value.length := by
    intro n
    induction n with
    | zero => exact ⟨e, he, happ, hbreak, Nat.zero_le _⟩
    | succ n ih =>
      obtain ⟨e, he, happ, hbreak, hlen⟩ := ih
      obtain ⟨e', he', happ', hbreak', hlonger⟩ := hk.longer h hm hu he happ hbreak
      exact ⟨e', he', happ', hbreak', Nat.succ_le_of_lt (hlen.trans_lt hlonger)⟩
  obtain ⟨e', he', -, -, hlen⟩ :=
    hgrow (((firsts (manualEntries old)).map fun e => e.value.length).sum + 1)
  have hle := List.le_sum_of_mem (List.mem_map_of_mem (f := fun e : EnvEntry => e.value.length) he')
  omega

lemma MergeKept.oneKey (h : env.Breakless) (hm : ∀ e ∈ manualEntries old, e.Manual)
    (hu : Unaliased env.blocks (manualEntries old))
    (hk : MergeKept old env.renderOxfile (mergeManualEnv old env.renderOxfile)) :
    OneKey old env.renderOxfile := by
  intro e he e' he' hsame happ htable
  obtain ⟨b, hb, hname⟩ := List.mem_map.mp (h.hasApp_iff.1 happ)
  have hv : b.vars = [] := by
    by_contra hv
    exact htable (hname ▸ (h.hasTable_iff hb).2 hv)
  have hman : ∀ a, ∀ e ∈ picked (firsts (manualEntries old)) a, e.Manual := fun a e he =>
    hm e (firsts_sublist.subset (mem_picked.1 he).1)
  have htables := hk.tables
  rw [(hk.noStray h hm hu).lines_merge h hm hu,
    tablesOnce_skip fun l hl => (h.front_lines l hl).2, tablesOnce_flats h.fits hman] at htables
  have hlen := htables b hb hv
  have hfirst : ∀ x ∈ manualEntries old, x.app = e.app →
      ∃ y ∈ picked (firsts (manualEntries old)) b.name, y.slot = x.slot := by
    intro x hx hxe
    obtain ⟨y, hy, hslot⟩ := List.mem_map.mp (slot_firsts.2 (List.mem_map_of_mem hx))
    exact ⟨y, mem_picked.2 ⟨hy, (congrArg Prod.fst hslot).trans (hxe.trans hname.symm)⟩, hslot⟩
  obtain ⟨y, hy, hslot⟩ := hfirst e he rfl
  obtain ⟨y', hy', hslot'⟩ := hfirst e' he' hsame.symm
  have hyy : y = y' := by
    generalize picked (firsts (manualEntries old)) b.name = l at hlen hy hy'
    rcases l with _ | ⟨z, _ | ⟨z', l⟩⟩
    · cases hy
    · rw [List.mem_singleton.mp hy, List.mem_singleton.mp hy']
    · rw [List.length_cons, List.length_cons] at hlen
      omega
  rw [hyy, hslot'] at hslot
  exact (congrArg Prod.snd hslot).symm

end Merge

/-- Of a rendering in whose values no line breaks, and for manual variables of bare keys none of which
passes for another entry's name: a merge keeps what it is to keep if and only if no value has a stray
backslash and no entry that is rendered without a table gets two variables. -/
theorem manualEnv_kept_iff (env : Env) (old : Text) (h : env.Breakless)
    (hk : ∀ e ∈ manualEntries old, BareKey e.key) (hn : NamesApart old env.renderOxfile) :
    MergeKept old env.renderOxfile (mergeManualEnv old env.renderOxfile) ↔
      OneKey old env.renderOxfile ∧ NoStray old env.renderOxfile := by
  have hm := manual_of_bare hk
  have hu := hn.unaliased h
  constructor
  · exact fun hkept => ⟨hkept.oneKey h hm hu, hkept.noStray h hm hu⟩
  · exact fun hc => merge_kept h hm hu hc.1 hc.2

def tabled : Env := { rebranded with vars := fun _ => some "40000".toList }

def handEdited : Text :=
  "[[apps]]\nname = \"msrtc-server\"\n[apps.env]\nTZ = \"UTC\"\nMOTD = \"say \\\"hi\\\"\"
[[apps]]\nname = \"msrtc-web\"\n[apps.env]\nTZ = \"UTC\"".toList

set_option maxRecDepth 2000 in
lemma handEdited_entries : manualEntries handEdited =
    [⟨"msrtc-server".toList, "TZ".toList, "UTC".toList⟩,
      ⟨"msrtc-server".toList, "MOTD".toList, "say \"hi\"".toList⟩,
      ⟨"msrtc-web".toList, "TZ".toList, "UTC".toList⟩] := by decide

lemma tabled_breakless : tabled.Breakless := ⟨by decide, by decide, by decide, by decide⟩

lemma handEdited_oneKey : OneKey handEdited tabled.renderOxfile := by
  have hb : ⟨serverProduct tabled.brand, tabled.serverCommand, tabled.sfuEnvPassthrough, [[]]⟩ ∈
      tabled.blocks := List.mem_cons_self
  have htable : HasTable tabled.renderOxfile "msrtc-server".toList :=
    (tabled_breakless.hasTable_iff hb).2 (by decide)
  have hkey : ∀ e ∈ manualEntries handEdited, e.app = "msrtc-server".toList ∨ e.key = "TZ".toList := by
    rw [handEdited_entries]
    decide
  intro e he e' he' happ _ hno
  have hserver : e.app ≠ "msrtc-server".toList := fun h => hno (h ▸ htable)
  have hserver' : e'.app ≠ "msrtc-server".toList := happ ▸ hserver
  rw [(hkey e he).resolve_left hserver, (hkey e' he').resolve_left hserver']

set_option maxRecDepth 2000 in
lemma handEdited_paired : ∀ e ∈ firsts (rawManual handEdited), Paired e.value := by decide

theorem handEdited_kept :
    MergeKept handEdited tabled.renderOxfile (mergeManualEnv handEdited tabled.renderOxfile) := by
  have hk : ∀ e ∈ manualEntries handEdited, BareKey e.key := by
    rw [handEdited_entries]
    decide
  have hname : ∀ e ∈ firsts (manualEntries handEdited), e.key ≠ "name".toList := by
    rw [handEdited_entries]
    decide
  apply (manualEnv_kept_iff tabled handEdited tabled_breakless hk ?_).2
  · exact ⟨handEdited_oneKey, fun e he _ => handEdited_paired e he⟩
  · intro u e v _ x hx _ hkey
    exact absurd hkey (hname x hx)

def twoKeys : Text :=
  "[[apps]]\nname = \"msrtc-web\"\n[apps.env]\nTZ = \"UTC\"\nLANG = \"C\"".toList

/-- Each of them gets a table of its own. -/
theorem twoKeys_two_tables : rebranded.Breakless ∧ (∀ e ∈ manualEntries twoKeys, BareKey e.key) ∧
    tablesOnce false (lines (mergeManualEnv twoKeys rebranded.renderOxfile)) = false := by
  have h : rebranded.Breakless := ⟨by decide, by decide, by decide, by decide⟩
  have hentries : manualEntries twoKeys = [⟨"msrtc-web".toList, "TZ".toList, "UTC".toList⟩,
      ⟨"msrtc-web".toList, "LANG".toList, "C".toList⟩] := by decide
  have hk : ∀ e ∈ manualEntries twoKeys, BareKey e.key := by
    rw [hentries]
    decide
  have hname : ∀ e ∈ firsts (manualEntries twoKeys), e.key ≠ "name".toList := by
    rw [hentries]
    decide
  have hstray : ∀ e ∈ firsts (rawManual twoKeys), Paired e.value := by decide
  have hapart : NamesApart twoKeys rebranded.renderOxfile := by
    intro u e v _ x hx _ hkey
    exact absurd hkey (hname x hx)
  have hm := manual_of_bare hk
  have hkept : NoStray twoKeys rebranded.renderOxfile := fun e he _ => hstray e he
  have hb : ⟨serverWebApp rebranded.brand, rebranded.webCommand, [], []⟩ ∈ rebranded.blocks := by
    have hbin : rebranded.weaknetBin = none := rfl
    simp [Env.blocks, hbin]
  have hlong : ¬(picked (firsts (manualEntries twoKeys)) (serverWebApp rebranded.brand)).length ≤ 1 := by
    rw [hentries]
    decide
  refine ⟨h, hk, Bool.eq_false_iff.mpr fun htables => ?_⟩
  rw [hkept.lines_merge h hm (hapart.unaliased h),
    tablesOnce_skip fun l hl => (h.front_lines l hl).2,
    tablesOnce_flats h.fits fun a e he => hm e (firsts_sublist.subset (mem_picked.1 he).1)] at htables
  exact hlong (htables _ hb rfl)

end MediaServo.Server.Lifecycle
