import Mathlib.Tactic
import MediaServo.ServerProofs.OxfileGuard

/-! When a second `init` finds nothing stale: the guard's verdict on what the first one has written,
and the Caddyfile, whose block for the panel is always there. -/

namespace MediaServo.Server.Lifecycle

open MediaServo.Foundations
open Lines (Text lines)

def commandStem (command : Text) : Option Text :=
  oxfileCmdStem (assigned (pair "command".toList command))

/-- There is no line break in what a rendering takes over as it is. -/
structure Env.Breakless (env : Env) : Prop where
  dir : '\n' ∉ env.dir
  exe : '\n' ∉ env.exe
  caddy : '\n' ∉ env.caddy
  vars : ∀ kv ∈ env.sfuEnvPassthrough, '\n' ∉ kv.2

section Lines

variable {es ew : Text} {g : Guard} {k v name command logDir : Text}

lemma break_pair : '\n' ∉ pair k v ↔ '\n' ∉ k ∧ '\n' ∉ v := by
  have h₁ : '\n' ∉ " = \"".toList := by decide
  have h₂ : '\n' ∉ "\"".toList := by decide
  simp only [pair, List.mem_append, not_or]
  tauto

lemma startsWith_head {pat : String} {c : Char} {t : Text} (h : startsWith pat (c :: t))
    (hne : pat ≠ "") : pat.toList.head? = some c := by
  rw [startsWith] at h
  cases hp : pat.toList with
  | nil => exact absurd (String.toList_eq_nil_iff.mp hp) hne
  | cons d r =>
    rw [hp, List.isPrefixOf] at h
    simp only [Bool.and_eq_true, beq_iff_eq] at h
    simp [h.1]

lemma feed_head {c : Char} {t : Text} (ht : t.head? = some c) (hc : isWhitespace c = false)
    (hn : c ∉ ['[', 'n', 'c']) (hb : '\n' ∉ t) : Guard.feed es ew g t = g := by
  obtain ⟨t, rfl⟩ := List.head?_eq_some_iff.mp ht
  have hhead : (trim (c :: t)).head? = some c := by
    rw [head_trim, Lines.dropWhile_of_head hc]
    rfl
  obtain ⟨r, hr⟩ := List.head?_eq_some_iff.mp hhead
  have hne : ∀ pat : String, pat ≠ "" → pat.toList.head? ≠ some c → startsWith pat (trim (c :: t)) = false := by
    intro pat hp hd
    rw [← Bool.not_eq_true, hr]
    exact fun h => hd (startsWith_head h hp)
  simp only [List.mem_cons, List.not_mem_nil, or_false, not_or] at hn
  rw [feed_single hb, line_other]
  · exact hne "[" (by decide) fun h => hn.1 (Option.some.inj h).symm
  · exact hne "name" (by decide) fun h => hn.2.1 (Option.some.inj h).symm
  · exact hne "command" (by decide) fun h => hn.2.2 (Option.some.inj h).symm

lemma feed_restart : Guard.feed es ew g (pair "restart_policy".toList "always".toList) = g :=
  feed_head (c := 'r') rfl (by decide) (by decide) (by decide)

lemma feed_cwd (hv : '\n' ∉ v) : Guard.feed es ew g (pair "cwd".toList v) = g := by
  have ht : trim (pair "cwd".toList v) = pair "cwd".toList v := trim_pair (by decide)
  rw [feed_single (break_pair.2 ⟨by decide, hv⟩), line_other] <;> rw [ht] <;> rfl

lemma feed_stdout (hv : '\n' ∉ v) : Guard.feed es ew g (pair "stdout".toList v) = g :=
  feed_head (c := 's') rfl (by decide) (by decide) (break_pair.2 ⟨by decide, hv⟩)

lemma feed_stderr (hv : '\n' ∉ v) : Guard.feed es ew g (pair "stderr".toList v) = g :=
  feed_head (c := 's') rfl (by decide) (by decide) (break_pair.2 ⟨by decide, hv⟩)

def PlainName (name : Text) : Prop := ∀ c ∈ name, c ≠ '=' ∧ c ≠ '"' ∧ c ≠ '\n'

lemma PlainName.unbroken (h : PlainName name) : '\n' ∉ name := fun hn => (h _ hn).2.2 rfl

lemma trim_quotes (h : ∀ c ∈ name, c ≠ '"') :
    Lines.trim (· == '"') ('"' :: (name ++ ['"'])) = name := by
  have hd : Lines.trim (· == '"') ('"' :: (name ++ ['"'])) = Lines.trim (· == '"') (name ++ ['"']) := by
    simp [Lines.trim]
  rw [hd, Lines.trim_append_blank (by simp), Lines.trim]
  have hdrop : name.dropWhile (· == '"') = name := by
    cases name with
    | nil => rfl
    | cons c t => exact Lines.dropWhile_of_head (by simpa using h c (by simp))
  rw [hdrop, List.rdropWhile_eq_self_iff]
  intro hne
  simpa using h _ (List.getLast_mem hne)

lemma assigned_pair (hk : '=' ∉ k) (h : PlainName name) : assigned (pair k name) = name := by
  have hp : pair k name = (k ++ [' ']) ++ '=' :: ' ' :: '"' :: (name ++ ['"']) := by
    have h₁ : " = \"".toList = [' '] ++ ['=', ' ', '"'] := by decide
    rw [pair_snoc, h₁]
    simp only [List.append_assoc, List.cons_append, List.nil_append]
  have htake : (' ' :: '"' :: (name ++ ['"'])).takeWhile (· ≠ '=') = ' ' :: '"' :: (name ++ ['"']) := by
    rw [List.takeWhile_eq_self_iff]
    intro c hc
    simp only [List.mem_cons, List.mem_append, List.not_mem_nil, or_false] at hc
    obtain rfl | rfl | hc | rfl := hc
    · decide
    · decide
    · simpa using (h c hc).1
    · decide
  have htrim : trim (' ' :: '"' :: (name ++ ['"'])) = '"' :: (name ++ ['"']) := by
    have hb : trim (' ' :: '"' :: (name ++ ['"'])) = trim ('"' :: (name ++ ['"'])) := by
      rw [trim, Lines.trim, List.dropWhile_cons_of_pos (by decide)]
      rfl
    rw [hb]
    apply Lines.trim_solid quote_solid
    simp [quote_solid]
  have hdrop : ((k ++ [' ']) ++ '=' :: ' ' :: '"' :: (name ++ ['"'])).dropWhile (· ≠ '=') =
      '=' :: ' ' :: '"' :: (name ++ ['"']) := by
    rw [List.dropWhile_append_of_pos, List.dropWhile_cons_of_neg (by simp)]
    intro c hc
    obtain hc | hc := List.mem_append.mp hc
    · have hne : c ≠ '=' := fun he => hk (he ▸ hc)
      simpa using hne
    · rw [List.mem_singleton.mp hc]
      decide
  rw [assigned, hp, hdrop, List.drop_one, List.tail_cons, htake, htrim,
    trim_quotes fun c hc => (h c hc).2.1]

lemma pair_assigns (k v : Text) : '=' ∈ pair k v := by
  simp [pair]

lemma nameLine (h : PlainName name) : NameLine (pair "name".toList name) := by
  have ht : trim (pair "name".toList name) = pair "name".toList name := trim_pair (by decide)
  constructor
  · exact break_pair.2 ⟨by decide, h.unbroken⟩
  · rw [ht]
    rfl
  · rw [ht]
    exact pair_assigns _ _

lemma feed_blank : Guard.feed es ew g [] = g := by
  rw [feed_single (by simp), line_other] <;> rfl

lemma feed_apps_header : Guard.feed es ew g "[[apps]]".toList = { g with curApp := none, inEnv := false } :=
  feed_apps (.single (by decide)) (by decide)

lemma feed_command (ha : g.curApp.isSome) (he : g.inEnv = false) (hc : '\n' ∉ command) :
    Guard.feed es ew g (pair "command".toList command) =
      { g with stale := g.stale || (commandStem command).any (misnamed es ew g.curApp) } := by
  have ht : trim (pair "command".toList command) = pair "command".toList command :=
    trim_pair (by decide)
  rw [feed_single (break_pair.2 ⟨by decide, hc⟩), line_command (by rw [ht]; rfl) (by rw [ht]; rfl)
    (by rw [ht]; rfl) (by rw [ht]; exact pair_assigns _ _) ha he, ht]
  rfl

lemma feed_app (hn : PlainName name) (hc : '\n' ∉ command) :
    (app name command).foldl (Guard.feed es ew) g =
      ⟨g.stale || (commandStem command).any (misnamed es ew (some name)), some name, false,
        g.sawWnetEntry || name = weaknetApp⟩ := by
  have ht : trim (pair "name".toList name) = pair "name".toList name := trim_pair (by decide)
  have hname : Guard.feed es ew { g with curApp := none, inEnv := false } (pair "name".toList name) =
      ⟨g.stale, some name, false, g.sawWnetEntry || name = weaknetApp⟩ := by
    rw [feed_single (nameLine hn).single, line_name (nameLine hn).bracket (nameLine hn).name
      (nameLine hn).assigns rfl, ht, assigned_pair (by decide) hn]
  rw [app]
  simp only [List.foldl_cons, List.foldl_nil]
  rw [feed_blank, feed_apps_header, hname, feed_command rfl rfl hc, feed_restart]

lemma feed_logs (hn : '\n' ∉ name) (hd : '\n' ∉ logDir) :
    (pushLogs name logDir).foldl (Guard.feed es ew) g = { g with inEnv := false } := by
  have hlog : Guard.feed es ew g "[apps.logs]".toList = { g with inEnv := false } :=
    Element.feed_header (.single (by decide)) "[apps.logs]" (by decide) (by decide)
      (by decide) (by decide)
  rw [pushLogs]
  simp only [List.foldl_cons, List.foldl_nil]
  rw [hlog, feed_stdout (by simp [hn, hd]), feed_stderr (by simp [hn, hd])]

lemma sfu_bracket (h : k ∈ sfuEnvKeys) (v : Text) : startsWith "[" (trim (pair k v)) = false := by
  simp only [sfuEnvKeys, List.mem_cons, List.not_mem_nil, or_false] at h
  obtain rfl | rfl := h
  · rw [show "MEDIASERVO_SFU_PORT".toList = 'M' :: "EDIASERVO_SFU_PORT".toList by decide,
      trim_pair (by decide)]
    rfl
  · rw [show "MEDIASERVO_SFU_ANNOUNCED_IP".toList = 'M' :: "EDIASERVO_SFU_ANNOUNCED_IP".toList by decide,
      trim_pair (by decide)]
    rfl

lemma feed_vars {kvs : List (Text × Text)} (hk : ∀ kv ∈ kvs, kv.1 ∈ sfuEnvKeys)
    (hv : ∀ kv ∈ kvs, '\n' ∉ kv.2) (ha : g.curApp.isSome) :
    ("[apps.env]".toList :: kvs.map fun kv => pair kv.1 kv.2).foldl (Guard.feed es ew) g =
      { g with inEnv := true } := by
  have henv : Guard.feed es ew g "[apps.env]".toList = { g with inEnv := true } :=
    Element.feed_header (.single (by decide)) "[apps.env]" (by decide) (by decide)
      (by decide) (by decide)
  rw [List.foldl_cons, henv]
  apply feed_table_lines (g := { g with inEnv := true }) _ _ ha rfl
  · intro x hx
    obtain ⟨kv, hkv, rfl⟩ := List.mem_map.mp hx
    have hkey : ∀ k ∈ sfuEnvKeys, '\n' ∉ k := by decide
    exact .single (break_pair.2 ⟨hkey _ (hk kv hkv), hv kv hkv⟩)
  · intro x hx
    obtain ⟨kv, hkv, rfl⟩ := List.mem_map.mp hx
    exact sfu_bracket (hk kv hkv) kv.2

end Lines

section Names

variable {brand : Option Text} {env : Env} {bin name : Text}

instance : DecidablePred PlainName := fun name =>
  inferInstanceAs (Decidable (∀ c ∈ name, c ≠ '=' ∧ c ≠ '"' ∧ c ≠ '\n'))

lemma plainName_append {a b : Text} (ha : PlainName a) (hb : PlainName b) : PlainName (a ++ b) := by
  intro c hc
  obtain hc | hc := List.mem_append.mp hc
  · exact ha c hc
  · exact hb c hc

lemma plain_prefix : PlainName (binPrefix brand) := by
  rw [binPrefix]
  cases hb : brand.filter validBrand with
  | none =>
    simp only
    decide
  | some p =>
    have hv : validBrand p = true := (Option.filter_eq_some_iff.mp hb).2
    simp only [validBrand, Bool.and_eq_true, List.all_eq_true] at hv
    have hp : PlainName p := by
      intro c hc
      have h := hv.2 c hc
      refine ⟨?_, ?_, ?_⟩ <;> rintro rfl <;> exact absurd h (by decide)
    simp only
    split_ifs
    · exact plainName_append hp (by decide)
    · decide

lemma plain_server : PlainName (serverProduct brand) := plainName_append plain_prefix (by decide)

lemma plain_web : PlainName (serverWebApp brand) := plainName_append plain_prefix (by decide)

lemma plain_weaknet : PlainName weaknetApp := by decide

lemma not_weaknet {b : Text} {c : Char} (hc : c ≠ 'e') : name ++ (b ++ [c]) ≠ weaknetApp := by
  intro h
  have hw : weaknetApp.getLast? = some 'e' := by decide
  rw [← h, ← List.append_assoc, List.getLast?_concat] at hw
  exact hc (by simpa using hw)

lemma server_not_weaknet : serverProduct brand ≠ weaknetApp :=
  not_weaknet (b := "serve".toList) (c := 'r') (by decide)

lemma web_not_weaknet : serverWebApp brand ≠ weaknetApp :=
  not_weaknet (b := "we".toList) (c := 'b') (by decide)

lemma weaknetBin_plain (h : env.weaknetBin = some bin) : PlainName bin := by
  have hm := List.mem_of_find?_eq_some h
  simp only [List.mem_cons, List.not_mem_nil, or_false] at hm
  obtain rfl | rfl := hm
  · exact plainName_append plain_prefix (by decide)
  · decide

lemma digits_unbroken (port : ℕ) : '\n' ∉ (toString port).toList := by
  rw [Nat.toString_eq_repr, Nat.toList_repr]
  intro h
  have hd : '\n'.isDigit = true := Nat.isDigit_of_mem_toDigits (by decide) (by decide) h
  exact absurd hd (by decide)

lemma listen_unbroken (port : ℕ) : '\n' ∉ weaknetListen port := by
  intro h
  obtain h | h := List.mem_append.mp h
  · revert h
    decide
  · exact digits_unbroken port h

lemma joinPath_unbroken {base rel : Text} (hb : '\n' ∉ base) (hr : '\n' ∉ rel) :
    '\n' ∉ joinPath base rel := by
  rw [joinPath]
  split_ifs <;> simp [hb, hr]

end Names

section Rendering

variable {env : Env} {es ew : Text} {g : Guard}

lemma Env.Breakless.server (h : env.Breakless) : '\n' ∉ env.serverCommand := by
  simp [Env.serverCommand, h.exe, h.dir]

lemma Env.Breakless.web (h : env.Breakless) : '\n' ∉ env.webCommand := by
  simp [Env.webCommand, h.caddy, h.dir]

lemma Env.Breakless.weaknet (h : env.Breakless) {bin : Text} (hb : env.weaknetBin = some bin) :
    '\n' ∉ env.weaknetCommand bin := by
  have hp : '\n' ∉ joinPath (joinPath env.dir "bin".toList) bin :=
    joinPath_unbroken (joinPath_unbroken h.dir (by decide)) (weaknetBin_plain hb).unbroken
  have hl := listen_unbroken env.weaknetPort
  simp only [Env.weaknetCommand, List.mem_append, not_or]
  exact ⟨⟨⟨⟨⟨hp, by decide⟩, hl⟩, by decide⟩, h.dir⟩, by decide⟩

lemma Env.Breakless.log (h : env.Breakless) : '\n' ∉ env.logDir := by
  simp [Env.logDir, h.dir]

def faulted (es ew name command : Text) : Bool :=
  (commandStem command).any (misnamed es ew (some name))

def Intact (l : Text) : Prop := '\n' ∉ l ∧ l.getLast? ≠ some '\r'

instance : DecidablePred Intact := fun l =>
  inferInstanceAs (Decidable ('\n' ∉ l ∧ l.getLast? ≠ some '\r'))

lemma header_lines : ∀ l ∈ oxfileHeader,
    Intact l ∧ (l.head? = some '#' ∨ l.head? = some 'v' ∨ l = []) := by
  decide

lemma feed_header_lines : oxfileHeader.foldl (Guard.feed es ew) g = g := by
  have hfold : ∀ ls : List Text, (∀ l ∈ ls, Guard.feed es ew g l = g) → ls.foldl (Guard.feed es ew) g = g := by
    intro ls hls
    induction ls with
    | nil => rfl
    | cons l ls ih =>
      rw [List.foldl_cons, hls l (by simp)]
      exact ih fun x hx => hls x (by simp [hx])
  apply hfold
  intro l h
  obtain ⟨⟨hb, _⟩, hh | hh | rfl⟩ := header_lines l h
  · exact feed_head hh (by decide) (by decide) hb
  · exact feed_head hh (by decide) (by decide) hb
  · exact feed_blank

lemma feed_defaults (h : env.Breakless) (hg : g.curApp = none) :
    env.oxfileDefaults.foldl (Guard.feed es ew) g =
      ⟨g.stale, some (serverProduct env.brand), false, g.sawWnetEntry⟩ := by
  have hdefaults : Guard.feed es ew g "[defaults]".toList = { g with inEnv := false } :=
    Element.feed_header (.single (by decide)) "[defaults]" (by decide) (by decide)
      (by decide) (by decide)
  have ht : trim (pair "namespace".toList (serverProduct env.brand)) =
      pair "namespace".toList (serverProduct env.brand) := trim_pair (by decide)
  have hname : Guard.feed es ew { g with inEnv := false }
      (pair "namespace".toList (serverProduct env.brand)) =
      ⟨g.stale, some (serverProduct env.brand), false, g.sawWnetEntry⟩ := by
    rw [feed_single (break_pair.2 ⟨by decide, plain_server.unbroken⟩), line_name (g := { g with inEnv := false })
      (by rw [ht]; rfl) (by rw [ht]; rfl) (by rw [ht]; exact pair_assigns _ _) hg, ht, assigned_pair (by decide) plain_server]
    simp [server_not_weaknet]
  rw [Env.oxfileDefaults]
  simp only [List.foldl_cons, List.foldl_nil]
  rw [hdefaults, hname, feed_restart, feed_cwd h.dir]

lemma sfu_key {kv : Text × Text} (h : kv ∈ env.sfuEnvPassthrough) : kv.1 ∈ sfuEnvKeys := by
  obtain ⟨k, hk, hkv⟩ := List.mem_filterMap.mp h
  obtain ⟨v, _, rfl⟩ := Option.map_eq_some_iff.mp hkv
  exact hk

lemma feed_serverEntry (h : env.Breakless) : env.serverEntry.foldl (Guard.feed es ew) g =
    ⟨g.stale || faulted es ew (serverProduct env.brand) env.serverCommand,
      some (serverProduct env.brand), false, g.sawWnetEntry⟩ := by
  have hvars : ∀ stale saw, ∃ b, env.sfuVars.foldl (Guard.feed es ew)
      ⟨stale, some (serverProduct env.brand), false, saw⟩ =
      ⟨stale, some (serverProduct env.brand), b, saw⟩ := by
    intro stale saw
    rw [Env.sfuVars]
    split_ifs
    · exact ⟨false, rfl⟩
    · refine ⟨true, feed_vars ?_ h.vars rfl⟩
      exact fun kv => sfu_key
  rw [Env.serverEntry, List.foldl_append, List.foldl_append, feed_app plain_server h.server]
  obtain ⟨b, hb⟩ := hvars (g.stale || faulted es ew (serverProduct env.brand) env.serverCommand)
    (g.sawWnetEntry || serverProduct env.brand = weaknetApp)
  rw [faulted] at hb ⊢
  rw [hb, feed_logs plain_server.unbroken h.log]
  simp [server_not_weaknet]

lemma feed_webEntry (h : env.Breakless) : env.webEntry.foldl (Guard.feed es ew) g =
    ⟨g.stale || faulted es ew (serverWebApp env.brand) env.webCommand,
      some (serverWebApp env.brand), false, g.sawWnetEntry⟩ := by
  rw [Env.webEntry, List.foldl_append, feed_app plain_web h.web, feed_logs plain_web.unbroken h.log]
  simp [faulted, web_not_weaknet]

lemma feed_weaknetEntry (h : env.Breakless) {bin : Text} (hb : env.weaknetBin = some bin) :
    (env.weaknetEntry bin).foldl (Guard.feed es ew) g =
      ⟨g.stale || faulted es ew weaknetApp (env.weaknetCommand bin), some weaknetApp, false, true⟩ := by
  have henv : ∀ g : Guard, Guard.feed es ew g "[apps.env]".toList = { g with inEnv := true } := fun g =>
    Element.feed_header (.single (by decide)) "[apps.env]" (by decide) (by decide)
      (by decide) (by decide)
  have hdir : '\n' ∉ env.dir ++ "/run/weaknet".toList := by simp [h.dir]
  have hkey : ∀ g : Guard,
      Guard.feed es ew g (pair weaknetStatedirKey (env.dir ++ "/run/weaknet".toList)) = g := fun g =>
    feed_head (c := 'W') rfl (by decide) (by decide) (break_pair.2 ⟨by decide, hdir⟩)
  rw [Env.weaknetEntry, List.foldl_append, List.foldl_append, feed_app plain_weaknet (h.weaknet hb),
    List.foldl_cons, List.foldl_cons, List.foldl_nil, henv, hkey,
    feed_logs plain_weaknet.unbroken h.log]
  simp [faulted]

lemma oxfileLines_verdict (h : env.Breakless) :
    (env.oxfileLines.foldl (Guard.feed es ew) ⟨false, none, false, false⟩).verdict =
      (faulted es ew (serverProduct env.brand) env.serverCommand ||
        faulted es ew (serverWebApp env.brand) env.webCommand ||
        env.weaknetBin.any fun bin => faulted es ew weaknetApp (env.weaknetCommand bin),
      env.weaknetBin.isSome) := by
  rw [Env.oxfileLines, List.foldl_append, List.foldl_append, List.foldl_append, List.foldl_append,
    feed_header_lines, feed_defaults h rfl, feed_serverEntry h, feed_webEntry h]
  cases hb : env.weaknetBin with
  | none => simp [Guard.verdict]
  | some bin =>
    rw [Option.map_some, Option.getD_some, feed_weaknetEntry h hb]
    simp [Guard.verdict]

lemma intact_pair {k v : Text} (hk : '\n' ∉ k) (hv : '\n' ∉ v) : Intact (pair k v) := by
  refine ⟨break_pair.2 ⟨hk, hv⟩, ?_⟩
  rw [pair_snoc, List.getLast?_concat]
  simp

lemma intact_app {name command : Text} (hn : PlainName name) (hc : '\n' ∉ command) :
    ∀ l ∈ app name command, Intact l := by
  intro l hl
  simp only [app, List.mem_cons, List.not_mem_nil, or_false] at hl
  obtain rfl | rfl | rfl | rfl | rfl := hl
  · decide
  · decide
  · exact intact_pair (by decide) hn.unbroken
  · exact intact_pair (by decide) hc
  · decide

lemma intact_logs {name logDir : Text} (hn : PlainName name) (hd : '\n' ∉ logDir) :
    ∀ l ∈ pushLogs name logDir, Intact l := by
  intro l hl
  simp only [pushLogs, List.mem_cons, List.not_mem_nil, or_false] at hl
  obtain rfl | rfl | rfl := hl
  · decide
  · exact intact_pair (by decide) (by simp [hn.unbroken, hd])
  · exact intact_pair (by decide) (by simp [hn.unbroken, hd])

lemma intact_vars (h : env.Breakless) : ∀ l ∈ env.sfuVars, Intact l := by
  have hkey : ∀ k ∈ sfuEnvKeys, '\n' ∉ k := by decide
  intro l hl
  rw [Env.sfuVars] at hl
  split_ifs at hl
  · cases hl
  · obtain rfl | hl := List.mem_cons.mp hl
    · decide
    · obtain ⟨kv, hkv, rfl⟩ := List.mem_map.mp hl
      exact intact_pair (hkey _ (sfu_key hkv)) (h.vars kv hkv)

lemma oxfileLines_intact (h : env.Breakless) : ∀ l ∈ env.oxfileLines, Intact l := by
  intro l hl
  simp only [Env.oxfileLines, Env.serverEntry, Env.webEntry, List.mem_append] at hl
  obtain (((hl | hl) | (hl | hl) | hl) | hl | hl) | hl := hl
  · exact (header_lines l hl).1
  · simp only [Env.oxfileDefaults, List.mem_cons, List.not_mem_nil, or_false] at hl
    obtain rfl | rfl | rfl | rfl := hl
    · decide
    · exact intact_pair (by decide) plain_server.unbroken
    · decide
    · exact intact_pair (by decide) h.dir
  · exact intact_app plain_server h.server l hl
  · exact intact_vars h l hl
  · exact intact_logs plain_server h.log l hl
  · exact intact_app plain_web h.web l hl
  · exact intact_logs plain_web h.log l hl
  · cases hb : env.weaknetBin with
    | none => simp [hb] at hl
    | some bin =>
      simp only [hb, Option.map_some, Option.getD_some, Env.weaknetEntry, List.mem_append,
        List.mem_cons, List.not_mem_nil, or_false] at hl
      obtain (hl | rfl | rfl) | hl := hl
      · exact intact_app plain_weaknet (h.weaknet hb) l hl
      · decide
      · exact intact_pair (by decide) (by simp [h.dir])
      · exact intact_logs plain_weaknet h.log l hl

lemma not_entry {c : Char} {l : Text} (hl : l.head? = some c) (hc : isWhitespace c = false)
    (hn : c ≠ '[') : isHeader "[[apps]]" l = false := by
  obtain ⟨t, rfl⟩ := List.head?_eq_some_iff.mp hl
  rw [not_isHeader]
  apply not_apps_of_bracket
  rw [← Bool.not_eq_true, startsWith_bracket, head_trim, Lines.dropWhile_of_head hc]
  simpa using hn

lemma named_app {name command : Text} {rest : List Text} (hn : PlainName name) (hr : Named rest) :
    Named (app name command ++ rest) := by
  refine ⟨?_, ?_, ?_, ?_, ?_, hr⟩
  · intro h
    exact absurd h (by decide)
  · exact fun _ => ⟨_, rfl, nameLine hn⟩
  · intro h
    rw [(nameLine hn).not_header (by decide)] at h
    cases h
  · intro h
    rw [not_entry (c := 'c') rfl (by decide) (by decide)] at h
    cases h
  · intro h
    rw [not_entry (c := 'r') rfl (by decide) (by decide)] at h
    cases h

lemma named_logs {name logDir : Text} {rest : List Text} (hr : Named rest) :
    Named (pushLogs name logDir ++ rest) := by
  apply named_append _ hr
  intro x hx
  simp only [pushLogs, List.mem_cons, List.not_mem_nil, or_false] at hx
  obtain rfl | rfl | rfl := hx
  · decide
  · exact not_entry (c := 's') rfl (by decide) (by decide)
  · exact not_entry (c := 's') rfl (by decide) (by decide)

lemma named_vars {rest : List Text} (hr : Named rest) : Named (env.sfuVars ++ rest) := by
  apply named_append _ hr
  intro x hx
  rw [Env.sfuVars] at hx
  split_ifs at hx
  · cases hx
  · obtain rfl | hx := List.mem_cons.mp hx
    · decide
    · obtain ⟨kv, hkv, rfl⟩ := List.mem_map.mp hx
      exact not_isHeader.2 (not_apps_of_bracket (sfu_bracket (sfu_key hkv) kv.2))

lemma named_weaknet : Named ((env.weaknetBin.map env.weaknetEntry).getD []) := by
  cases env.weaknetBin with
  | none => trivial
  | some bin =>
    rw [Option.map_some, Option.getD_some, Env.weaknetEntry, List.append_assoc]
    apply named_app plain_weaknet
    apply named_append
    · intro x hx
      simp only [List.mem_cons, List.not_mem_nil, or_false] at hx
      obtain rfl | rfl := hx
      · decide
      · exact not_entry (c := 'W') rfl (by decide) (by decide)
    · have hnil : Named [] := trivial
      simpa using named_logs hnil

lemma oxfileLines_sound (h : env.Breakless) : Sound env.oxfileLines := by
  refine ⟨fun l hl => .single (oxfileLines_intact h l hl).1, ?_⟩
  have hheader : ∀ l ∈ oxfileHeader, isHeader "[[apps]]" l = false := by
    intro l hl
    obtain ⟨_, hh | hh | rfl⟩ := header_lines l hl
    · exact not_entry hh (by decide) (by decide)
    · exact not_entry hh (by decide) (by decide)
    · decide
  simp only [Env.oxfileLines, Env.serverEntry, Env.webEntry, List.append_assoc]
  apply named_append hheader
  apply named_append
  · intro x hx
    simp only [Env.oxfileDefaults, List.mem_cons, List.not_mem_nil, or_false] at hx
    obtain rfl | rfl | rfl | rfl := hx
    · decide
    · exact not_entry (c := 'n') rfl (by decide) (by decide)
    · exact not_entry (c := 'r') rfl (by decide) (by decide)
    · exact not_entry (c := 'c') rfl (by decide) (by decide)
  · apply named_app plain_server
    apply named_vars
    apply named_logs
    apply named_app plain_web
    exact named_logs named_weaknet

lemma lines_renderOxfile (h : env.Breakless) : lines env.renderOxfile = env.oxfileLines :=
  lines_unlines (oxfileLines_intact h)

lemma guard_joined (ls : List Text) :
    (lines (['\n'].intercalate ls ++ ['\n'])).foldl (Guard.line es ew) g =
      ls.foldl (Guard.feed es ew) g := by
  cases ls with
  | nil => exact feed_blank
  | cons l ls => rw [Lines.intercalate_unlines, guard_unlines]

def QuietVars (old : Text) : Prop := ∀ e ∈ manualEntries old, Quiet e.line

lemma merged_verdict (h : env.Breakless) {old : Text} (hq : QuietVars old) :
    ((lines (mergeManualEnv old env.renderOxfile)).foldl (Guard.line es ew)
        ⟨false, none, false, false⟩).verdict =
      (env.oxfileLines.foldl (Guard.feed es ew) ⟨false, none, false, false⟩).verdict := by
  rw [mergeManualEnv]
  split_ifs
  · rw [Env.renderOxfile, guard_unlines]
  · rw [guard_joined, lines_renderOxfile h]
    have hs : Sound (env.oxfileLines, ([] : List (Text × Text))).1 := oxfileLines_sound h
    exact (mergeEntries_sound hq hs).2 _

end Rendering

section Caddyfile

def Anchored (t : Text) : Prop :=
  ∃ a b, t = a ++ ("handle".toList ++ '_' :: ("path /weaknet".toList ++ b))

lemma anchored_replace {pat t : Text} (hp : ∃ p, pat = '_' :: '_' :: p)
    (h₁ : ∀ c ∈ "handle".toList, c ∉ pat) (h₂ : ∀ c ∈ "path /weaknet".toList, c ∉ pat) (rep : Text)
    (h : Anchored t) : Anchored (Lines.replace pat rep t) := by
  obtain ⟨a, b, rfl⟩ := h
  obtain ⟨p, rfl⟩ := hp
  refine ⟨Lines.replace ('_' :: '_' :: p) rep a, Lines.replace ('_' :: '_' :: p) rep b, ?_⟩
  have hpath : "path /weaknet".toList = 'p' :: "ath /weaknet".toList := by decide
  have hstep : ∀ t : Text, Lines.replace ('_' :: '_' :: p) rep ('_' :: 'p' :: t) =
      '_' :: Lines.replace ('_' :: '_' :: p) rep ('p' :: t) := by
    intro t
    rw [Lines.replace, Lines.replaceFrom, if_neg (by simp [List.isPrefixOf]), Lines.replace]
  have hrest : Lines.replace ('_' :: '_' :: p) rep ("path /weaknet".toList ++ b) =
      "path /weaknet".toList ++ Lines.replace ('_' :: '_' :: p) rep b :=
    Lines.replace_fresh h₂ (by simp) b
  rw [hpath, List.cons_append] at hrest
  rw [Lines.replace_append h₁ (by decide) (by simp), hpath, List.cons_append, hstep, hrest,
    List.cons_append]

lemma anchored_template : Anchored (Lines.unlines '\n' (caddyfileTemplate.map String.toList)) := by
  have hsplit : caddyfileTemplate = caddyfileTemplate.take 16 ++ "\thandle_path /weaknet/* \x7b" ::
      caddyfileTemplate.drop 17 := rfl
  have hline : "\thandle_path /weaknet/* \x7b".toList =
      "\t".toList ++ ("handle".toList ++ '_' :: ("path /weaknet".toList ++ "/* \x7b".toList)) := by
    decide
  rw [hsplit, List.map_append, List.map_cons, Lines.unlines_append]
  refine ⟨Lines.unlines '\n' ((caddyfileTemplate.take 16).map String.toList) ++ "\t".toList,
    "/* \x7b".toList ++ '\n' :: Lines.unlines '\n' ((caddyfileTemplate.drop 17).map String.toList), ?_⟩
  rw [Lines.unlines, Lines.unlines, List.flatMap_cons, hline]
  simp only [Lines.unlines, List.append_assoc, List.cons_append, List.nil_append]

lemma anchored_caddyfile (webPort backendPort : ℕ) (webRoot backend : Text) :
    Anchored (renderCaddyfile webPort backendPort webRoot backend) := by
  rw [renderCaddyfile]
  apply anchored_replace ⟨"WEB_ROOT__".toList, by decide⟩ (by decide) (by decide)
  apply anchored_replace ⟨"WEAKNET_BACKEND__".toList, by decide⟩ (by decide) (by decide)
  apply anchored_replace ⟨"BACKEND__".toList, by decide⟩ (by decide) (by decide)
  apply anchored_replace ⟨"WEB_ADDR__".toList, by decide⟩ (by decide) (by decide)
  exact anchored_template

lemma caddyfile_fresh (webPort backendPort : ℕ) (webRoot backend : Text) (present : Bool) :
    caddyfileMigrationNeeded (renderCaddyfile webPort backendPort webRoot backend) present = false := by
  obtain ⟨a, b, h⟩ := anchored_caddyfile webPort backendPort webRoot backend
  have hin : "handle_path /weaknet".toList <:+: renderCaddyfile webPort backendPort webRoot backend := by
    have hs : "handle_path /weaknet".toList = "handle".toList ++ '_' :: "path /weaknet".toList := by decide
    rw [h, hs]
    exact ⟨a, b, by simp only [List.append_assoc, List.cons_append]⟩
  rw [caddyfileMigrationNeeded, decide_eq_true hin]
  simp

end Caddyfile

section Init

variable {env : Env} {s : Instance}

/-- The oxfile is there and stays where it is. -/
def Kept (env : Env) (s : Instance) : Prop := s.oxfile.isSome ∧ env.oxfileStale s = false

instance : Decidable (Kept env s) :=
  inferInstanceAs (Decidable (s.oxfile.isSome ∧ env.oxfileStale s = false))

/-- What a rendering takes over has no line break, and no variable that it merges a line that begins
with a bracket. -/
structure Unbroken (env : Env) (s : Instance) : Prop where
  breakless : env.Breakless
  vars : ∀ old, mergeSource (migrateStaleFiles env s) = some old → QuietVars old

/-- The guard finds fault with no command of a rendering. -/
structure Env.NamesAgree (env : Env) : Prop where
  server : faulted (serverProduct env.brand) (weaknetGuardShape env).2 (serverProduct env.brand)
    env.serverCommand = false
  web : faulted (serverProduct env.brand) (weaknetGuardShape env).2 (serverWebApp env.brand)
    env.webCommand = false
  weaknet : ∀ bin, env.weaknetBin = some bin →
    faulted (serverProduct env.brand) (weaknetGuardShape env).2 weaknetApp
      (env.weaknetCommand bin) = false

/-- After an `init` a second one rotates nothing and leaves both files as they are. -/
structure Converges (env : Env) (s : Instance) : Prop where
  oxfile : env.oxfileStale (initInstance env s) = false
  caddyfile : env.caddyfileStale (initInstance env s) = false
  sameOxfile : (initInstance env (initInstance env s)).oxfile = (initInstance env s).oxfile
  sameCaddyfile : (initInstance env (initInstance env s)).caddyfile = (initInstance env s).caddyfile

lemma migrate_oxfile : (migrateStaleFiles env s).oxfile =
    if env.oxfileStale s then none else s.oxfile := by
  rw [migrateStaleFiles]
  split_ifs <;> rfl

lemma migrate_caddyfile : (migrateStaleFiles env s).caddyfile =
    if env.caddyfileStale s then none else s.caddyfile := by
  rw [migrateStaleFiles]
  split_ifs <;> rfl

lemma init_oxfile : (initInstance env s).oxfile =
    if Kept env s then s.oxfile
    else some (.text (env.oxfileText (migrateStaleFiles env s))) := by
  have hs₁ : (migrateStaleFiles env s).oxfile = if env.oxfileStale s then none else s.oxfile :=
    migrate_oxfile
  have hcaddy : ∀ s : Instance, (writeCaddyfile env s).oxfile = s.oxfile ∧
      env.oxfileText (writeCaddyfile env s) = env.oxfileText s := fun s => ⟨rfl, rfl⟩
  have hkept : Kept env s ↔ (migrateStaleFiles env s).oxfile.isSome := by
    rw [hs₁, Kept]
    cases env.oxfileStale s <;> simp
  simp only [initInstance]
  by_cases hk : Kept env s
  · have hsome := hkept.mp hk
    rw [if_pos hk]
    rw [hk.2] at hs₁
    split_ifs <;> simp_all
  · have hnone : (migrateStaleFiles env s).oxfile.isSome = false := by
      simpa using fun h => hk (hkept.mpr h)
    rw [if_neg hk]
    split_ifs <;> simp_all [writeOxfile]

lemma init_caddyfile : (initInstance env s).caddyfile =
    if s.caddyfile.isSome ∧ env.caddyfileStale s = false then s.caddyfile
    else (writeCaddyfile env s).caddyfile := by
  have hs₁ : (migrateStaleFiles env s).caddyfile =
      if env.caddyfileStale s then none else s.caddyfile := migrate_caddyfile
  have hkept : s.caddyfile.isSome ∧ env.caddyfileStale s = false ↔
      (migrateStaleFiles env s).caddyfile.isSome := by
    rw [hs₁]
    cases env.caddyfileStale s <;> simp
  simp only [initInstance]
  by_cases hk : s.caddyfile.isSome ∧ env.caddyfileStale s = false
  · have hsome := hkept.mp hk
    rw [if_pos hk]
    rw [hk.2] at hs₁
    split_ifs <;> simp_all [writeOxfile]
  · have hnone : (migrateStaleFiles env s).caddyfile.isSome = false := by
      simpa using fun h => hk (hkept.mpr h)
    rw [if_neg hk]
    split_ifs <;> simp_all [writeOxfile, writeCaddyfile]

lemma init_caddyfile_fresh : (initInstance env s).caddyfile.isSome ∧
    env.caddyfileStale (initInstance env s) = false := by
  rw [Env.caddyfileStale, init_caddyfile]
  split_ifs with h
  · exact h
  · refine ⟨rfl, ?_⟩
    simp [writeCaddyfile, Doc.read, caddyfile_fresh]

lemma converges_iff : Converges env s ↔ env.oxfileStale (initInstance env s) = false := by
  constructor
  · exact Converges.oxfile
  · intro h
    have hc : (initInstance env s).caddyfile.isSome ∧
        env.caddyfileStale (initInstance env s) = false := init_caddyfile_fresh
    have hsome : (initInstance env s).oxfile.isSome := by
      rw [init_oxfile]
      split_ifs with hk
      · exact hk.1
      · rfl
    refine ⟨h, hc.2, ?_, ?_⟩
    · rw [init_oxfile, if_pos ⟨hsome, h⟩]
    · rw [init_caddyfile, if_pos hc]

lemma kept_converges (h : Kept env s) : Converges env s := by
  rw [converges_iff, Env.oxfileStale, init_oxfile, if_pos h]
  exact h.2

lemma written_verdict (es ew : Text) (h : Unbroken env s) :
    ((lines (env.oxfileText (migrateStaleFiles env s))).foldl (Guard.line es ew)
        ⟨false, none, false, false⟩).verdict =
      (env.oxfileLines.foldl (Guard.feed es ew) ⟨false, none, false, false⟩).verdict := by
  rw [Env.oxfileText]
  split
  · rename_i old hold
    split_ifs
    · rw [Env.renderOxfile, guard_unlines]
    · exact merged_verdict h.breakless (h.vars old hold)
  · rw [Env.renderOxfile, guard_unlines]

lemma written_stale (h : Unbroken env s) (hk : ¬Kept env s) :
    env.oxfileStale (initInstance env s) = false ↔ env.NamesAgree := by
  have hpresent : (weaknetGuardShape env).1 = env.weaknetBin.isSome := by
    rw [weaknetGuardShape]
    cases env.weaknetBin <;> rfl
  have hv := (written_verdict (serverProduct env.brand) (weaknetGuardShape env).2 h).trans
    (oxfileLines_verdict h.breakless)
  rw [Guard.verdict, Prod.mk.injEq] at hv
  rw [Env.oxfileStale, init_oxfile, if_neg hk, Doc.read, Option.any_some, oxfileMigrationNeeded, hv.1,
    hv.2, hpresent]
  simp only [Bool.and_not_self, Bool.or_false, Bool.or_eq_false_iff, Option.any_eq_false]
  constructor
  · rintro ⟨⟨hs, hw⟩, hb⟩
    exact ⟨hs, hw, fun bin hbin => by simpa using hb bin hbin⟩
  · intro hn
    exact ⟨⟨hn.server, hn.web⟩, fun bin hbin => by simpa using hn.weaknet bin hbin⟩

/-- A second `init` changes nothing when the first has kept the oxfile, or has put commands into it with
which the guard agrees, and without line breaks in what is rendered it agrees in no other case. -/
theorem init_converges (env : Env) (s : Instance) :
    (Kept env s ∨ Unbroken env s ∧ env.NamesAgree → Converges env s) ∧
      (Unbroken env s → Converges env s → Kept env s ∨ env.NamesAgree) := by
  constructor
  · rintro (h | ⟨hu, hn⟩)
    · exact kept_converges h
    · by_cases hk : Kept env s
      · exact kept_converges hk
      · exact converges_iff.2 ((written_stale hu hk).mpr hn)
  · intro hu hc
    by_cases hk : Kept env s
    · exact Or.inl hk
    · exact Or.inr ((written_stale hu hk).mp hc.oxfile)

def rebranded : Env where
  dir := "/opt/ms".toList
  exe := "/opt/ms/bin/mediaservo-server".toList
  caddy := "caddy".toList
  brand := some "msrtc".toList
  vars := fun _ => none
  webPort := 8080
  backendPort := 9800
  weaknetPort := 9810
  webRoot := none
  bin := fun _ => false

/-- The entry that `init` writes is always stale for the next one. -/
theorem rebranded_rotates : ¬Converges rebranded ⟨none, none, none, none⟩ := by
  have hu : Unbroken rebranded ⟨none, none, none, none⟩ := by
    refine ⟨⟨by decide, by decide, by decide, ?_⟩, ?_⟩
    · intro kv h
      cases h
    · intro old h
      cases h
  intro h
  have hn := (written_stale hu (by decide)).mp h.oxfile
  exact absurd hn.server (by decide)

end Init

end MediaServo.Server.Lifecycle
