import MediaServo.Foundations.Lines
import MediaServo.Server.Devices

/-! `init` on an instance that may already be there: the oxfile and the Caddyfile are written when they
are missing, and rotated away first when they are judged stale. -/

namespace MediaServo.Server.Lifecycle

open MediaServo.Foundations
open Lines (Text lines)

def trim (t : Text) : Text := Lines.trim isWhitespace t

def startsWith (pat : String) (t : Text) : Bool := pat.toList.isPrefixOf t

/-- `KEY = "VALUE"`. -/
def pair (key value : Text) : Text := key ++ " = \"".toList ++ value ++ "\"".toList

section Brand

def validBrand (s : Text) : Bool :=
  s ≠ [] && s.length ≤ 32 && s.all fun c => c.isLower || c.isDigit || c == '-'

def binPrefix (brand : Option Text) : Text :=
  match brand.filter validBrand with
  | some p => if p ≠ "mediaservo".toList then p ++ "-".toList else "mediaservo-".toList
  | none => "mediaservo-".toList

def serverProduct (brand : Option Text) : Text := binPrefix brand ++ "server".toList

def serverWebApp (brand : Option Text) : Text := binPrefix brand ++ "web".toList

end Brand

def weaknetApp : Text := "weaknet-serve".toList

def sfuEnvKeys : List Text := ["MEDIASERVO_SFU_PORT".toList, "MEDIASERVO_SFU_ANNOUNCED_IP".toList]

def weaknetStatedirKey : Text := "WEAKNET_STATEDIR".toList

def managedEnvKeys : List Text := sfuEnvKeys ++ [weaknetStatedirKey]

/-- What `init` runs in: the absolute path of the instance, that of the executable, the `caddy`
command, the brand, the variables that are passed on, the ports of the configuration, and what in
`bin` is an executable file. -/
structure Env where
  dir : Text
  exe : Text
  caddy : Text
  brand : Option Text
  vars : Text → Option Text
  webPort : ℕ
  backendPort : ℕ
  weaknetPort : ℕ
  webRoot : Option Text
  bin : Text → Bool

def joinPath (base rel : Text) : Text :=
  if base = [] ∨ base.getLast? = some '/' then base ++ rel else base ++ '/' :: rel

/-- `discover_weaknet_bin`, of which only the name is to be found. -/
def Env.weaknetBin (env : Env) : Option Text :=
  [binPrefix env.brand ++ "weaknet".toList, "mediaservo-weaknet".toList].find? env.bin

def weaknetListen (port : ℕ) : Text := "127.0.0.1:".toList ++ (toString port).toList

section Render

def pushLogs (name logDir : Text) : List Text :=
  ["[apps.logs]".toList, pair "stdout".toList (logDir ++ "/".toList ++ name ++ ".out.log".toList),
    pair "stderr".toList (logDir ++ "/".toList ++ name ++ ".err.log".toList)]

def app (name command : Text) : List Text :=
  [[], "[[apps]]".toList, pair "name".toList name, pair "command".toList command,
    pair "restart_policy".toList "always".toList]

def Env.sfuEnvPassthrough (env : Env) : List (Text × Text) :=
  sfuEnvKeys.filterMap fun k => (env.vars k).map fun v => (k, v)

def Env.logDir (env : Env) : Text := env.dir ++ "/run/logs".toList

def Env.serverCommand (env : Env) : Text :=
  env.exe ++ " run --config ".toList ++ env.dir ++ "/etc/server.yaml".toList

def Env.webCommand (env : Env) : Text :=
  env.caddy ++ " run --config ".toList ++ env.dir ++ "/etc/Caddyfile --adapter caddyfile".toList

def Env.weaknetCommand (env : Env) (bin : Text) : Text :=
  joinPath (joinPath env.dir "bin".toList) bin ++ " serve --listen ".toList ++
    weaknetListen env.weaknetPort ++ " --token-file ".toList ++ env.dir ++ "/run/weaknet.token".toList

def oxfileHeader : List Text :=
  ["# generated by mediaservo-server init -- static template ".toList ++
      "(2~3 entries, weaknet conditional render; topology change = ".toList ++
      "edit this file + restart)".toList,
    "# note: this file is NOT auto re-rendered after init ".toList ++
      "(manual env edits preserved); delete it and start ".toList ++
      "regenerates".toList,
    "version = 1".toList, []]

def Env.oxfileDefaults (env : Env) : List Text :=
  ["[defaults]".toList, pair "namespace".toList (serverProduct env.brand),
    pair "restart_policy".toList "always".toList, pair "cwd".toList env.dir]

def Env.sfuVars (env : Env) : List Text :=
  if env.sfuEnvPassthrough = [] then []
  else "[apps.env]".toList :: env.sfuEnvPassthrough.map fun kv => pair kv.1 kv.2

def Env.serverEntry (env : Env) : List Text :=
  app (serverProduct env.brand) env.serverCommand ++ env.sfuVars ++
    pushLogs (serverProduct env.brand) env.logDir

def Env.webEntry (env : Env) : List Text :=
  app (serverWebApp env.brand) env.webCommand ++ pushLogs (serverWebApp env.brand) env.logDir

def Env.weaknetEntry (env : Env) (bin : Text) : List Text :=
  app weaknetApp (env.weaknetCommand bin) ++
    ["[apps.env]".toList, pair weaknetStatedirKey (env.dir ++ "/run/weaknet".toList)] ++
    pushLogs weaknetApp env.logDir

/-- The lines of `render_oxfile`, with the weaknet entry only where there is its executable. -/
def Env.oxfileLines (env : Env) : List Text :=
  oxfileHeader ++ env.oxfileDefaults ++ env.serverEntry ++ env.webEntry ++
    (env.weaknetBin.map env.weaknetEntry).getD []

def Env.renderOxfile (env : Env) : Text := Lines.unlines '\n' env.oxfileLines

end Render

section Merge

structure EnvEntry where
  app : Text
  key : Text
  value : Text
  deriving DecidableEq

/-- `strip_prefix('"')` and `strip_suffix('"')`. -/
def unquote : Text → Option Text
  | '"' :: t => if t.getLast? = some '"' then some t.dropLast else none
  | _ => none

def escapeToml (s : Text) : Text :=
  s.flatMap fun c => if c = '\\' then "\\\\".toList else if c = '"' then "\\\"".toList else [c]

/-- A backslash before any other character comes out as a line break. -/
def unescapeToml : Text → Text
  | [] => []
  | '\\' :: [] => ['\n']
  | '\\' :: n :: t => if n = '\\' ∨ n = '"' then n :: unescapeToml t else '\n' :: n :: unescapeToml t
  | c :: t => c :: unescapeToml t

def parseQuotedKv (t : Text) : Option (Text × Text) :=
  if '=' ∈ t then
    (unquote (trim ((t.dropWhile (· ≠ '=')).drop 1))).map fun inner =>
      (trim (t.takeWhile (· ≠ '=')), unescapeToml inner)
  else none

structure EnvScan where
  app : Option Text
  inEnv : Bool
  out : List EnvEntry

def EnvScan.line (s : EnvScan) (line : Text) : EnvScan :=
  let t := trim line
  if t = "[[apps]]".toList then { s with app := none, inEnv := false }
  else if startsWith "[" t then { s with inEnv := t = "[apps.env]".toList }
  else if s.inEnv then
    match parseQuotedKv t, s.app with
    | some kv, some a => { s with out := s.out ++ [⟨a, kv.1, kv.2⟩] }
    | _, _ => s
  else if s.app.isNone then
    match parseQuotedKv t with
    | some kv => if kv.1 = "name".toList then { s with app := some kv.2 } else s
    | none => s
  else s

def parseEnvEntries (text : Text) : List EnvEntry :=
  ((lines text).foldl EnvScan.line ⟨none, false, []⟩).out

def manualEntries (text : Text) : List EnvEntry :=
  (parseEnvEntries text).filter fun e => e.key ∉ managedEnvKeys

def isHeader (header : String) (line : Text) : Bool := trim line = header.toList

/-- `app_block`: the lines before the block of an entry, the block, and those after it. -/
def appBlock (want : Text) : List Text → Option (List Text × List Text × List Text)
  | [] => none
  | l :: ls =>
      let body := ls.takeWhile fun x => !isHeader "[[apps]]" x
      if isHeader "[[apps]]" l && (l :: body).any (fun x => trim x = want) then
        some ([], l :: body, ls.dropWhile fun x => !isHeader "[[apps]]" x)
      else (appBlock want ls).map fun r => (l :: r.1, r.2)

/-- `env_table` of a block: the lines up to its header, those of the table, and the rest. -/
def envTable (block : List Text) : Option (List Text × List Text × List Text) :=
  match block.dropWhile fun x => !isHeader "[apps.env]" x with
  | [] => none
  | header :: rest =>
      some ((block.takeWhile fun x => !isHeader "[apps.env]" x) ++ [header],
        rest.takeWhile fun x => !startsWith "[" (trim x),
        rest.dropWhile fun x => !startsWith "[" (trim x))

def lineKey (line : Text) : Option Text :=
  if '=' ∈ line then some (trim (line.takeWhile (· ≠ '='))) else none

/-- A key's line is replaced where the table has one, or put at its end. -/
def putLine (key line : Text) : List Text → List Text
  | [] => [line]
  | l :: ls => if lineKey l = some key then line :: ls else l :: putLine key line ls

def EnvEntry.line (e : EnvEntry) : Text := pair e.key (escapeToml e.value)

def mergeBlock (e : EnvEntry) (block : List Text) : List Text :=
  match envTable block with
  | some (head, table, rest) => head ++ putLine e.key e.line table ++ rest
  | none =>
      (block.takeWhile fun x => !isHeader "[apps.logs]" x) ++
        ("[apps.env]\n".toList ++ e.line) :: block.dropWhile fun x => !isHeader "[apps.logs]" x

def mergeEntry (acc : List Text × List (Text × Text)) (e : EnvEntry) :
    List Text × List (Text × Text) :=
  if (e.app, e.key) ∈ acc.2 then acc
  else
    match appBlock (pair "name".toList e.app) acc.1 with
    | some (before, block, after) =>
        (before ++ mergeBlock e block ++ after, acc.2 ++ [(e.app, e.key)])
    | none => acc

def mergeManualEnv (oldText newText : Text) : Text :=
  if manualEntries oldText = [] then newText
  else
    ['\n'].intercalate ((manualEntries oldText).foldl mergeEntry (lines newText, [])).1 ++ ['\n']

end Merge

section Stale

def stripExe (name : Text) : Text :=
  if ".exe".toList.isSuffixOf name then name.take (name.length - 4) else name

/-- `Path::file_name`: the last part that is not empty or a dot, unless it goes up. -/
def fileName (path : Text) : Option Text :=
  match ((path.splitOn '/').filter fun x => x ≠ [] && x ≠ ['.']).getLast? with
  | some name => if name = "..".toList then none else some name
  | none => none

def firstWord (t : Text) : Option Text :=
  match (t.dropWhile isWhitespace).takeWhile fun c => !isWhitespace c with
  | [] => none
  | w => some w

def oxfileCmdStem (value : Text) : Option Text :=
  ((firstWord value).bind fileName).map stripExe

/-- The second of the parts between the `=` of a line, without blanks and quotes around it. -/
def assigned (t : Text) : Text :=
  Lines.trim (· == '"') (trim (((t.dropWhile (· ≠ '=')).drop 1).takeWhile (· ≠ '=')))

structure Guard where
  stale : Bool
  curApp : Option Text
  inEnv : Bool
  sawWnetEntry : Bool
  deriving DecidableEq

/-- What a command's stem is judged by: that of a server, and that of the weaknet entry. -/
def misnamed (expectedServer expectedWnet : Text) (app : Option Text) (stem : Text) : Bool :=
  "-server".toList.isSuffixOf stem && stem ≠ expectedServer ||
    app = some weaknetApp && stem ≠ expectedWnet

def Guard.line (expectedServer expectedWnet : Text) (g : Guard) (line : Text) : Guard :=
  let t := trim line
  if t = "[[apps]]".toList then { g with curApp := none, inEnv := false }
  else if startsWith "name" t && '=' ∈ t && g.curApp.isNone then
    { g with
      curApp := some (assigned t)
      sawWnetEntry := g.sawWnetEntry || assigned t = weaknetApp }
  else if startsWith "[" t then { g with inEnv := t = "[apps.env]".toList }
  else if g.inEnv || g.curApp.isNone || !startsWith "command" t || '=' ∉ t then g
  else
    match oxfileCmdStem (assigned t) with
    | some stem => { g with stale := g.stale || misnamed expectedServer expectedWnet g.curApp stem }
    | none => g

def oxfileMigrationNeeded (text expectedServer expectedWnet : Text) (wnetPresent : Bool) : Bool :=
  let g := (lines text).foldl (Guard.line expectedServer expectedWnet) ⟨false, none, false, false⟩
  g.stale || wnetPresent && !g.sawWnetEntry

def caddyfileMigrationNeeded (text : Text) (wnetPresent : Bool) : Bool :=
  wnetPresent && !decide ("handle_path /weaknet".toList <:+: text)

def weaknetGuardShape (env : Env) : Bool × Text :=
  match env.weaknetBin with
  | some name => (true, stripExe name)
  | none => (false, binPrefix env.brand ++ "weaknet".toList)

end Stale

section Caddyfile

def caddyfileTemplate : List String :=
  ["# MSRTC server instance web layer (generated by mediaservo-server init -- never " ++
      "overwritten if present, PIT-160)",
    "# Static __WEB_ROOT__ + API/WS/probe reverse proxy __BACKEND__ (D-2=B: this proxy " ++
      "serves the browser only; host direct-connect on 9800 unchanged)",
    "# flush_interval -1 = WS long connections are not cut (the T11 gate); SPA fallback " ++
      "+ cache headers (T4)",
    "__WEB_ADDR__ \x7b",
    "\t@api path /api/* /ws /health /ready /stats /metrics",
    "\thandle @api \x7b",
    "\t\treverse_proxy __BACKEND__ \x7b",
    "\t\t\tflush_interval -1",
    "\t\t\x7d",
    "\t\x7d",
    "\t# weaknet panel reverse proxy (D3.1 live-tested shape, Caddy 2.9.1 -- handle_path " ++
      "because `uri replace_prefix` does not exist).",
    "\t# Upstream = the __WEAKNET_BACKEND__ render literal (generated form must not eat " ++
      "env [w batch2 F3 2]: the caddy started by oxmgr does not inherit",
    "\t# CLI env, so \x7b$VAR\x7d placeholders would be taken as host-name literals). " ++
      "The header_up Host rewrite = the serve Host allowlist pass",
    "\t# (the sF1 BLOCKER fix; rebinding defense shifts to the token gate). A bare " ++
      "/weaknet goes through the @wnroot redir preserving the query [wW4].",
    "\t@wnroot path /weaknet",
    "\tredir @wnroot \"/weaknet/?\x7bquery\x7d\" 308",
    "\thandle_path /weaknet/* \x7b",
    "\t\theader Cache-Control \"no-store\"",
    "\t\treverse_proxy __WEAKNET_BACKEND__ \x7b",
    "\t\t\theader_up Host \x7bupstream_hostport\x7d",
    "\t\t\tflush_interval -1",
    "\t\t\x7d",
    "\t\x7d",
    "\thandle \x7b",
    "\t\troot * __WEB_ROOT__",
    "\t\ttry_files \x7bpath\x7d /index.html",
    "\t\tencode zstd gzip",
    "\t\tfile_server",
    "\t\x7d",
    "\theader \x7b",
    "\t\tX-Content-Type-Options \"nosniff\"",
    "\t\tX-Frame-Options \"DENY\"",
    "\t\tReferrer-Policy \"strict-origin-when-cross-origin\"",
    "\t\x7d",
    "\t@page path / /index.html",
    "\theader @page Cache-Control \"no-cache\"",
    "\t@assets path /assets/*",
    "\theader @assets Cache-Control \"public, max-age=31536000, immutable\"",
    "\x7d"]

def renderCaddyfile (webPort backendPort : ℕ) (webRoot weaknetBackend : Text) : Text :=
  let t := Lines.unlines '\n' (caddyfileTemplate.map String.toList)
  let t := Lines.replace "__WEB_ADDR__".toList (':' :: (toString webPort).toList) t
  let t := Lines.replace "__BACKEND__".toList
    ("127.0.0.1:".toList ++ (toString backendPort).toList) t
  let t := Lines.replace "__WEAKNET_BACKEND__".toList weaknetBackend t
  Lines.replace "__WEB_ROOT__".toList webRoot t

end Caddyfile

section Init

inductive Doc
  | text (t : Text)
  | other
  deriving DecidableEq

def Doc.read : Option Doc → Option Text
  | some (.text t) => some t
  | _ => none

structure Instance where
  oxfile : Option Doc
  oxfileBak : Option Doc
  caddyfile : Option Doc
  caddyfileBak : Option Doc
  deriving DecidableEq

def Env.oxfileStale (env : Env) (s : Instance) : Bool :=
  (Doc.read s.oxfile).any fun t => oxfileMigrationNeeded t (serverProduct env.brand)
    (weaknetGuardShape env).2 (weaknetGuardShape env).1

def Env.caddyfileStale (env : Env) (s : Instance) : Bool :=
  (Doc.read s.caddyfile).any fun t => caddyfileMigrationNeeded t (weaknetGuardShape env).1

def migrateStaleFiles (env : Env) (s : Instance) : Instance :=
  let s₁ : Instance :=
    if env.oxfileStale s then { s with oxfile := none, oxfileBak := s.oxfile } else s
  if env.caddyfileStale s then { s₁ with caddyfile := none, caddyfileBak := s.caddyfile } else s₁

def looksLikeOxfile (t : Text) : Bool := "[[apps]]".toList <:+: t

/-- What a rendering takes the manual variables from: the oxfile or the snapshot of the last one. -/
def mergeSource (s : Instance) : Option Text := (Doc.read s.oxfile).or (Doc.read s.oxfileBak)

def Env.oxfileText (env : Env) (s : Instance) : Text :=
  match mergeSource s with
  | some old =>
      if trim old ≠ [] && !looksLikeOxfile old then env.renderOxfile
      else mergeManualEnv old env.renderOxfile
  | none => env.renderOxfile

def writeOxfile (env : Env) (s : Instance) : Instance :=
  { s with oxfile := some (.text (env.oxfileText s)), oxfileBak := some (.text (env.oxfileText s)) }

def writeCaddyfile (env : Env) (s : Instance) : Instance :=
  { s with caddyfile := some (.text (renderCaddyfile env.webPort env.backendPort
      (env.webRoot.getD (joinPath env.dir "web".toList)) (weaknetListen env.weaknetPort))) }

/-- A run of `init` in which no file operation fails. -/
def initInstance (env : Env) (s : Instance) : Instance :=
  let s₁ := migrateStaleFiles env s
  let s₂ := if s₁.caddyfile.isSome then s₁ else writeCaddyfile env s₁
  if s₂.oxfile.isSome then s₂ else writeOxfile env s₂

end Init

end MediaServo.Server.Lifecycle
