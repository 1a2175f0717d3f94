import MediaServo.Server.Reap

/-! To which entry the plan of a sweep routes a process. -/

namespace MediaServo.Server

open MediaServo.Foundations

variable {workingDir : Option Path} {registries : List RegistryTable} {procs : List LiveProc}
variable {p : LiveProc} {t : RegistryTable} {e : ManagedEntry}

def Records (t : RegistryTable) (pid : ℕ) : Prop := ∃ e ∈ t.entries, e.pid = some pid

def Under (p : LiveProc) (e : ManagedEntry) : Prop := ∃ cwd, p.cwd = some cwd ∧ cwd <+: e.cwd

def Matches (t : RegistryTable) (p : LiveProc) : Prop :=
  Records t p.pid ∨ ∃ e ∈ t.entries, Under p e

def IsHome (workingDir : Option Path) (p : LiveProc) (t : RegistryTable) : Prop :=
  ∃ home, p.environOxmgrHome = some home ∧ absolute workingDir t.dir = absolute workingDir home

/-- What the plan has to be: a step for each process, along its route; the table of the daemon in
its environ before any other, the record of its pid before a working directory, and no entry that
another process of the sweep is recorded in. -/
structure Attributed (workingDir : Option Path) (procs : List LiveProc)
    (registries : List RegistryTable) : Prop where
  steps : List.Forall₂ (fun p step => step = stepOf p (route workingDir registries p)) procs
    (reapPlan workingDir procs registries)
  home : ∀ p ∈ procs, ∀ t ∈ registries, IsHome workingDir p t → Matches t p →
    ∃ t' ∈ registries, ∃ e ∈ t'.entries, IsHome workingDir p t' ∧
      route workingDir registries p = some (t', e)
  recorded : ∀ p ∈ procs, (∀ t ∈ registries, IsHome workingDir p t → ¬ Matches t p) →
    (∃ t ∈ registries, Records t p.pid) →
    ∃ t' ∈ registries, ∃ e ∈ t'.entries, e.pid = some p.pid ∧
      route workingDir registries p = some (t', e)
  apart : ∀ p ∈ procs, ∀ t e, route workingDir registries p = some (t, e) →
    ∀ q ∈ procs, q ≠ p → e.pid ≠ some q.pid

def FirstMatch (workingDir : Option Path) (registries : List RegistryTable) (p : LiveProc)
    (t : RegistryTable) : Prop :=
  ∃ l₁ l₂, registries = l₁ ++ t :: l₂ ∧ Matches t p ∧
    (∀ u ∈ l₁, Matches u p → IsHome workingDir p t ∧ ¬ IsHome workingDir p u) ∧
    ∀ u ∈ l₂, Matches u p → IsHome workingDir p u → IsHome workingDir p t

def FirstUnder (p : LiveProc) (t : RegistryTable) (e : ManagedEntry) : Prop :=
  ∃ l₁ l₂, t.entries = l₁ ++ e :: l₂ ∧ Under p e ∧ ∀ f ∈ l₁, ¬ Under p f

/-- When the fallback does no harm: the table that answers first records the process, unless no
table does; and where it does not, the entry under the working directory is of no other process. -/
def FallbackHarmless (workingDir : Option Path) (procs : List LiveProc)
    (registries : List RegistryTable) : Prop :=
  ∀ p ∈ procs, ∀ t, FirstMatch workingDir registries p t → ¬ Records t p.pid →
    (IsHome workingDir p t ∨ ∀ u ∈ registries, ¬ Records u p.pid) ∧
      ∀ e, FirstUnder p t e → ∀ q ∈ procs, q ≠ p → e.pid ≠ some q.pid

lemma find?_under {cwd : Path} (hcwd : p.cwd = some cwd) :
    (t.entries.find? fun e => cwd.isPrefixOf e.cwd) = some e ↔ FirstUnder p t e := by
  have hunder : ∀ f : ManagedEntry, Under p f ↔ cwd.isPrefixOf f.cwd = true := by
    intro f
    simp [Under, hcwd]
  rw [List.find?_eq_some_iff_append]
  constructor
  · rintro ⟨he, l₁, l₂, hl, hbefore⟩
    refine ⟨l₁, l₂, hl, (hunder e).mpr he, ?_⟩
    intro f hf
    rw [hunder]
    simpa only [Bool.not_eq_true', Bool.not_eq_true] using hbefore f hf
  · rintro ⟨l₁, l₂, hl, he, hbefore⟩
    refine ⟨(hunder e).mp he, l₁, l₂, hl, ?_⟩
    intro f hf
    simpa only [hunder, Bool.not_eq_true, Bool.not_eq_true'] using hbefore f hf

lemma lookup_recorded (h : Records t p.pid) :
    ∃ e ∈ t.entries, e.pid = some p.pid ∧ lookup t.entries p = some e := by
  obtain ⟨f, hf, hpid⟩ := h
  have hany : (t.entries.any fun e => e.pid = some p.pid) = true := by
    simpa using ⟨f, hf, hpid⟩
  obtain ⟨e, he⟩ := Option.isSome_iff_exists.mp
    (List.find?_isSome (p := fun e : ManagedEntry => decide (e.pid = some p.pid)).mpr
      ⟨f, hf, by simpa using hpid⟩)
  refine ⟨e, List.mem_of_find?_eq_some he, by simpa using List.find?_some he, ?_⟩
  rw [lookup, if_pos hany, he]

lemma lookup_unrecorded (h : ¬ Records t p.pid) :
    lookup t.entries p = some e ↔ FirstUnder p t e := by
  have hany : ¬ (t.entries.any fun e => e.pid = some p.pid) = true := by
    simpa [Records] using h
  rw [lookup, if_neg hany]
  cases hcwd : p.cwd with
  | none => simp [FirstUnder, Under, hcwd]
  | some cwd => exact find?_under hcwd

lemma lookup_mem (h : lookup t.entries p = some e) : e ∈ t.entries := by
  by_cases hr : Records t p.pid
  · obtain ⟨f, hf, -, hl⟩ := lookup_recorded hr
    rw [h] at hl
    exact Option.some.inj hl ▸ hf
  · obtain ⟨l₁, l₂, hl, -⟩ := (lookup_unrecorded hr).mp h
    simp [hl]

lemma lookup_ne_none_iff : lookup t.entries p ≠ none ↔ Matches t p := by
  by_cases hr : Records t p.pid
  · obtain ⟨e, -, -, hl⟩ := lookup_recorded hr
    simp [hl, Matches, hr]
  · rw [Option.ne_none_iff_exists']
    simp only [lookup_unrecorded hr, Matches, hr, false_or]
    constructor
    · rintro ⟨e, l₁, l₂, hl, he, -⟩
      exact ⟨e, by simp [hl], he⟩
    · intro ⟨e, he, hu⟩
      classical
      obtain ⟨f, hf⟩ := Option.isSome_iff_exists.mp
        (List.find?_isSome (p := fun f => decide (Under p f)).mpr ⟨e, he, by simpa using hu⟩)
      obtain ⟨hfu, l₁, l₂, hl, hbefore⟩ := List.find?_eq_some_iff_append.mp hf
      exact ⟨f, l₁, l₂, hl, by simpa using hfu, fun g hg => by simpa using hbefore g hg⟩

lemma homeRank_le (t : RegistryTable) : homeRank workingDir p t ∈ [0, 1] := by
  simp only [homeRank]
  split
  · split <;> simp
  · simp

lemma homeRank_lt {u : RegistryTable} :
    homeRank workingDir p t < homeRank workingDir p u ↔
      IsHome workingDir p t ∧ ¬ IsHome workingDir p u := by
  simp only [homeRank, IsHome, matchesHome]
  cases p.environOxmgrHome with
  | none => simp
  | some home =>
    by_cases ht : absolute workingDir t.dir = absolute workingDir home <;>
      by_cases hu : absolute workingDir u.dir = absolute workingDir home <;> simp [ht, hu]

lemma route_eq_some_iff :
    route workingDir registries p = some (t, e) ↔
      FirstMatch workingDir registries p t ∧ lookup t.entries p = some e := by
  have hmatch : ∀ u : RegistryTable,
      ((lookup u.entries p).map (u, ·)) ≠ none ↔ Matches u p := by
    intro u
    rw [← lookup_ne_none_iff]
    simp
  have hle : ∀ s u : RegistryTable, homeRank workingDir p s ≤ homeRank workingDir p u ↔
      (IsHome workingDir p u → IsHome workingDir p s) := by
    intro s u
    rw [← not_lt, homeRank_lt]
    tauto
  rw [route, consulted, findSome?_byRank (by simp)]
  simp only [homeRank_le, hmatch, homeRank_lt, hle, forall_const, true_and]
  constructor
  · rintro ⟨l₁, u, l₂, hl, hu, h₁, h₂⟩
    obtain ⟨f, hf, heq⟩ := Option.map_eq_some_iff.mp hu
    obtain ⟨rfl, rfl⟩ := Prod.mk.inj heq
    exact ⟨⟨l₁, l₂, hl, lookup_ne_none_iff.mp (by simp [hf]), h₁, h₂⟩, hf⟩
  · rintro ⟨⟨l₁, l₂, hl, -, h₁, h₂⟩, hf⟩
    exact ⟨l₁, t, l₂, hl, by simp [hf], h₁, h₂⟩

variable (workingDir) in
lemma exists_route (h : Matches t p) (ht : t ∈ registries) :
    ∃ u e, route workingDir registries p = some (u, e) := by
  cases hr : route workingDir registries p with
  | some r => exact ⟨r.1, r.2, rfl⟩
  | none =>
    rw [route, List.findSome?_eq_none_iff] at hr
    have hnone := hr t (mem_byRank.mpr ⟨ht, homeRank_le t⟩)
    exact absurd (Option.map_eq_none_iff.mp hnone) (lookup_ne_none_iff.mpr h)

lemma FirstMatch.mem (h : FirstMatch workingDir registries p t) : t ∈ registries := by
  obtain ⟨l₁, l₂, rfl, -⟩ := h
  simp

lemma FirstMatch.home {u : RegistryTable} (h : FirstMatch workingDir registries p t)
    (hu : u ∈ registries) (hm : Matches u p) (hh : IsHome workingDir p u) :
    IsHome workingDir p t := by
  obtain ⟨l₁, l₂, rfl, -, h₁, h₂⟩ := h
  obtain hu | hu := List.mem_append.mp hu
  · exact (h₁ u hu hm).1
  · obtain rfl | hu := List.mem_cons.mp hu
    · exact hh
    · exact h₂ u hu hm hh

lemma FirstMatch.route_eq (h : FirstMatch workingDir registries p t) :
    ∃ e, lookup t.entries p = some e ∧ route workingDir registries p = some (t, e) := by
  obtain ⟨l₁, l₂, -, hm, -⟩ := id h
  obtain ⟨e, he⟩ := Option.ne_none_iff_exists'.mp (lookup_ne_none_iff.mpr hm)
  exact ⟨e, he, route_eq_some_iff.mpr ⟨h, he⟩⟩

lemma reapPlan_steps : List.Forall₂ (fun p step => step = stepOf p (route workingDir registries p))
    procs (reapPlan workingDir procs registries) := by
  rw [reapPlan, List.forall₂_map_right_iff]
  exact List.forall₂_same.mpr fun _ _ => rfl

lemma fallbackHarmless_of_attributed (h : Attributed workingDir procs registries) :
    FallbackHarmless workingDir procs registries := by
  intro p hp t hfirst hrec
  obtain ⟨e, he, hroute⟩ := hfirst.route_eq
  refine ⟨?_, ?_⟩
  · by_cases hhome : ∃ u ∈ registries, IsHome workingDir p u ∧ Matches u p
    · obtain ⟨u, hu, hh, hm⟩ := hhome
      exact .inl (hfirst.home hu hm hh)
    · right
      intro u hu hru
      push Not at hhome
      obtain ⟨t', -, e', he', hpid, hr'⟩ := h.recorded p hp hhome ⟨u, hu, hru⟩
      obtain ⟨rfl, rfl⟩ := Prod.mk.inj (Option.some.inj (hroute.symm.trans hr'))
      exact hrec ⟨e, he', hpid⟩
  · intro f hf q hq hqp
    have hfe := he.symm.trans ((lookup_unrecorded hrec).mpr hf)
    rw [← Option.some.inj hfe]
    exact h.apart p hp t e hroute q hq hqp

lemma attributed_of_fallbackHarmless (hpids : (procs.map LiveProc.pid).Nodup)
    (h : FallbackHarmless workingDir procs registries) :
    Attributed workingDir procs registries where
  steps := reapPlan_steps
  home := by
    intro p _ t ht hh hm
    obtain ⟨u, e, hr⟩ := exists_route workingDir hm ht
    obtain ⟨hfirst, hl⟩ := route_eq_some_iff.mp hr
    exact ⟨u, hfirst.mem, e, lookup_mem hl, hfirst.home ht hm hh, hr⟩
  recorded := by
    intro p hp hno ⟨t, ht, hrec⟩
    obtain ⟨u, e, hr⟩ := exists_route workingDir (.inl hrec) ht
    obtain ⟨hfirst, hl⟩ := route_eq_some_iff.mp hr
    have hm : Matches u p := lookup_ne_none_iff.mp (by simp [hl])
    have hru : Records u p.pid := by
      by_contra hru
      obtain hh | hnone := (h p hp u hfirst hru).1
      · exact hno u hfirst.mem hh hm
      · exact hnone t ht hrec
    obtain ⟨f, hf, hpid, hlf⟩ := lookup_recorded hru
    rw [hl] at hlf
    obtain rfl := Option.some.inj hlf
    exact ⟨u, hfirst.mem, e, hf, hpid, hr⟩
  apart := by
    intro p hp t e hr q hq hqp
    obtain ⟨hfirst, hl⟩ := route_eq_some_iff.mp hr
    by_cases hrec : Records t p.pid
    · obtain ⟨f, hf, hpid, hlf⟩ := lookup_recorded hrec
      rw [hl] at hlf
      obtain rfl := Option.some.inj hlf
      rw [hpid]
      intro heq
      exact hqp (List.inj_on_of_nodup_map hpids hq hp (Option.some.inj heq).symm)
    · exact (h p hp t hfirst hrec).2 e ((lookup_unrecorded hrec).mp hl) q hq hqp

/-- The sweep attributes its processes rightly exactly when no fallback to a working directory
goes before a record of the process or meets an entry of another one. -/
theorem reapPlan_attributed_iff (workingDir : Option Path) (procs : List LiveProc)
    (registries : List RegistryTable) (hpids : (procs.map LiveProc.pid).Nodup) :
    Attributed workingDir procs registries ↔ FallbackHarmless workingDir procs registries :=
  ⟨fallbackHarmless_of_attributed, attributed_of_fallbackHarmless hpids⟩

def instanceRoot : Path := [.rootDir, .normal "inst"]

def serverProc : LiveProc := ⟨500, some instanceRoot, none⟩

def strayProc : LiveProc := ⟨501, some instanceRoot, none⟩

def serverTable : RegistryTable := ⟨[.rootDir, .normal "d"], [⟨"msrtc-server", some 500, instanceRoot⟩]⟩

def relayRoot : Path := [.rootDir, .normal "relay"]

def relayProc : LiveProc := ⟨502, some relayRoot, some [.rootDir, .normal "e"]⟩

def relayTable : RegistryTable := ⟨[.rootDir, .normal "e"], [⟨"relay", none, relayRoot⟩]⟩

theorem reapPlan_attributed_server :
    Attributed none [serverProc, relayProc] [serverTable, relayTable] := by
  apply (reapPlan_attributed_iff none [serverProc, relayProc] [serverTable, relayTable]
    (by decide)).mpr
  intro p hp t hfirst hrec
  obtain ⟨e, -, hroute⟩ := hfirst.route_eq
  obtain rfl | rfl : p = serverProc ∨ p = relayProc := by simpa using hp
  · have hserver : route none [serverTable, relayTable] serverProc =
        some (serverTable, ⟨"msrtc-server", some 500, instanceRoot⟩) := by decide
    obtain ⟨rfl, -⟩ := Prod.mk.inj (Option.some.inj (hroute.symm.trans hserver))
    exact absurd ⟨_, List.mem_cons_self, rfl⟩ hrec
  · have hrelay : route none [serverTable, relayTable] relayProc =
        some (relayTable, ⟨"relay", none, relayRoot⟩) := by decide
    obtain ⟨rfl, -⟩ := Prod.mk.inj (Option.some.inj (hroute.symm.trans hrelay))
    refine ⟨.inl ⟨_, rfl, rfl⟩, ?_⟩
    rintro f ⟨l₁, l₂, hl, -⟩ q - -
    have hmem : f ∈ relayTable.entries := by
      rw [hl]
      simp
    obtain rfl := List.mem_singleton.mp hmem
    nofun

/-- The process beside the server is routed to the server's own entry. -/
theorem reapPlan_stray_misrouted :
    ([serverProc, strayProc].map LiveProc.pid).Nodup ∧
      ¬ Attributed none [serverProc, strayProc] [serverTable] := by
  refine ⟨by decide, ?_⟩
  intro h
  have hroute : route none [serverTable] strayProc =
      some (serverTable, ⟨"msrtc-server", some 500, instanceRoot⟩) := by decide
  exact h.apart strayProc (by decide) _ _ hroute serverProc (by decide) (by decide) rfl

end MediaServo.Server
