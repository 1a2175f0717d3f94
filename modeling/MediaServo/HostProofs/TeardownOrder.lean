import MediaServo.Foundations.Ranks
import MediaServo.Host.ConfigCore
import MediaServo.HostProofs.Roster

/-! The order in which a run takes the apps of a roster down. The ranks are read off the names, so
an id may stand for another role than its app has. -/

namespace MediaServo.Host

open MediaServo.Foundations

structure AppId where
  text : String
  valid : validId text = true

inductive FixedBase
  | agent
  | recorder
  | controller
  | emergency
  | audio
  deriving DecidableEq

def FixedBase.text : FixedBase → String
  | .agent => "agent"
  | .recorder => "recorder"
  | .controller => "controller"
  | .emergency => "emergency"
  | .audio => "audio"

/-- An app that a roster may name. -/
inductive RosterApp
  | fixed (b : FixedBase)
  | capturer (id : AppId)
  | streamer (id : AppId)

namespace RosterApp

def base : RosterApp → String
  | .fixed b => b.text
  | .capturer id => "capturer-" ++ id.text
  | .streamer id => "streamer-" ++ id.text

def name (env : Env) (a : RosterApp) : String := env.appName a.base

def IsCapturer : RosterApp → Prop
  | .capturer _ => True
  | _ => False

def IsConsumer : RosterApp → Prop
  | .fixed b => b ≠ .agent
  | .capturer _ => False
  | .streamer _ => True

def endsAsAgent : RosterApp → Bool
  | .fixed _ => false
  | .capturer id | .streamer id => endsWith id.text "agent"

end RosterApp

def holdsConsumerWord (env : Env) (id : AppId) : Bool :=
  ["streamer", "audio", "controller", "emergency", "recorder"].any
    (containsText ((RosterApp.capturer id).name env))

section Names

variable {env : Env} {a b : RosterApp}

lemma RosterApp.base_inj (h : a.base = b.base) : a = b := by
  have hstart : ∀ f : FixedBase, f.text.toList.take 2 ≠ ['c', 'a'] ∧ f.text.toList.take 2 ≠ ['s', 't'] := by
    intro f
    cases f <;> decide
  have htake := congrArg (fun t => t.toList.take 2) h
  cases a with
  | fixed f =>
    cases b with
    | fixed g => cases f <;> cases g <;> first | rfl | exact absurd h (by decide)
    | capturer _ => exact absurd (htake.trans (by simp [base, String.toList_append])) (hstart f).1
    | streamer _ => exact absurd (htake.trans (by simp [base, String.toList_append])) (hstart f).2
  | capturer i =>
    cases b with
    | fixed g => exact absurd (htake.symm.trans (by simp [base, String.toList_append])) (hstart g).1
    | capturer j =>
      obtain ⟨s, _⟩ := i
      obtain ⟨t, _⟩ := j
      obtain rfl : s = t := (String.append_right_inj _).mp h
      rfl
    | streamer _ => simp [base, String.toList_append] at htake
  | streamer i =>
    cases b with
    | fixed g => exact absurd (htake.symm.trans (by simp [base, String.toList_append])) (hstart g).2
    | capturer _ => simp [base, String.toList_append] at htake
    | streamer j =>
      obtain ⟨s, _⟩ := i
      obtain ⟨t, _⟩ := j
      obtain rfl : s = t := (String.append_right_inj _).mp h
      rfl

lemma RosterApp.name_inj : a.name env = b.name env ↔ a = b := by
  constructor
  · intro h
    exact base_inj ((appName_inj env).mp h)
  · rintro rfl
    rfl

end Names

section Ranks

variable {env : Env}

lemma suffix_after_dash {p q w : List Char} (hw : '-' ∉ w) : w <:+ p ++ '-' :: q ↔ w <:+ q := by
  constructor
  · intro h
    obtain hs | hs := List.suffix_or_suffix_of_suffix h (List.suffix_append p ('-' :: q))
    · obtain rfl | hs := List.suffix_cons_iff.mp hs
      · exact absurd List.mem_cons_self hw
      · exact hs
    · exact absurd (hs.subset List.mem_cons_self) hw
  · intro h
    exact h.trans ((List.suffix_cons _ _).trans (List.suffix_append _ _))

lemma endsWith_instance (kind id : String) :
    endsWith (env.appName (kind ++ "-" ++ id)) "agent" = endsWith id "agent" := by
  have hw : '-' ∉ "agent".toList := by decide
  have htext : (env.appName (kind ++ "-" ++ id)).toList =
      (env.mediaBrand.appPrefix.toList ++ kind.toList) ++ '-' :: id.toList := by
    simp [Env.appName, String.toList_append]
  rw [Bool.eq_iff_iff, endsWith, endsWith, List.isSuffixOf_iff_suffix, List.isSuffixOf_iff_suffix,
    htext]
  exact suffix_after_dash hw

lemma endsWith_fixed (b : FixedBase) : endsWith (env.appName b.text) "agent" = decide (b = .agent) := by
  have hlong : "agent".toList.length ≤ b.text.toList.length := by cases b <;> decide
  have hown : "agent".toList <:+ b.text.toList ↔ b = .agent := by cases b <;> decide
  rw [Bool.eq_iff_iff, decide_eq_true_eq, endsWith, List.isSuffixOf_iff_suffix, Env.appName,
    String.toList_append, ← hown]
  constructor
  · intro h
    exact List.suffix_of_suffix_length_le h (List.suffix_append _ _) hlong
  · intro h
    exact h.trans (List.suffix_append _ _)

lemma containsText_appName (w base : String) (h : w.toList <:+: base.toList) :
    containsText (env.appName base) w = true := by
  rw [containsText, decide_eq_true_eq, Env.appName, String.toList_append]
  exact h.trans (List.suffix_append _ _).isInfix

lemma rank_fixed (b : FixedBase) :
    teardownRank (env.appName b.text) = if b = .agent then 3 else 0 := by
  have hown : b ≠ .agent → ["streamer", "audio", "controller", "emergency", "recorder"].any
      (containsText (env.appName b.text)) = true := by
    intro hb
    apply List.any_eq_true.mpr
    refine ⟨b.text, ?_, containsText_appName _ _ (List.infix_refl _)⟩
    cases b with
    | agent => exact absurd rfl hb
    | recorder | controller | emergency | audio => decide
  rw [teardownRank, endsWith_fixed]
  by_cases hb : b = .agent
  · simp [hb]
  · simp [hb, hown hb]

lemma rank_streamer (id : AppId) : teardownRank ((RosterApp.streamer id).name env) =
    if endsWith id.text "agent" then 3 else 0 := by
  have hown : ["streamer", "audio", "controller", "emergency", "recorder"].any
      (containsText ((RosterApp.streamer id).name env)) = true := by
    apply List.any_eq_true.mpr
    refine ⟨"streamer", by decide, containsText_appName _ _ ?_⟩
    have hword : "streamer".toList <:+: "streamer-".toList := by decide
    rw [RosterApp.base, String.toList_append]
    exact hword.trans (List.prefix_append _ _).isInfix
  have hends : endsWith ((RosterApp.streamer id).name env) "agent" = endsWith id.text "agent" :=
    endsWith_instance "streamer" id.text
  rw [teardownRank, hends, if_pos hown]

lemma rank_capturer (id : AppId) : teardownRank ((RosterApp.capturer id).name env) =
    if endsWith id.text "agent" then 3 else if holdsConsumerWord env id then 0 else 1 := by
  have hown : containsText ((RosterApp.capturer id).name env) "capturer" = true := by
    apply containsText_appName
    have hword : "capturer".toList <:+: "capturer-".toList := by decide
    rw [RosterApp.base, String.toList_append]
    exact hword.trans (List.prefix_append _ _).isInfix
  have hends : endsWith ((RosterApp.capturer id).name env) "agent" = endsWith id.text "agent" :=
    endsWith_instance "capturer" id.text
  rw [teardownRank, hends, hown]
  rfl

def RosterApp.rank (env : Env) : RosterApp → ℕ
  | .fixed b => if b = .agent then 3 else 0
  | .capturer id => if endsWith id.text "agent" then 3 else if holdsConsumerWord env id then 0 else 1
  | .streamer id => if endsWith id.text "agent" then 3 else 0

lemma teardownRank_name (a : RosterApp) : teardownRank (a.name env) = a.rank env := by
  cases a with
  | fixed b => exact rank_fixed b
  | capturer id => exact rank_capturer id
  | streamer id => exact rank_streamer id

lemma rank_le (a : RosterApp) : a.rank env ∈ [0, 1, 2, 3] := by
  cases a with
  | fixed b =>
    rw [RosterApp.rank]
    split <;> simp
  | capturer id =>
    rw [RosterApp.rank]
    split
    · simp
    · split <;> simp
  | streamer id =>
    rw [RosterApp.rank]
    split <;> simp

lemma orderTeardown_names (apps : List RosterApp) : orderTeardown (apps.map (RosterApp.name env)) =
    (byRank (RosterApp.rank env) [0, 1, 2, 3] apps).map (RosterApp.name env) := by
  have h : byRank teardownRank [0, 1, 2, 3] (apps.map (RosterApp.name env)) = _ :=
    byRank_map (RosterApp.name env) apps
  simp only [teardownRank_name] at h
  exact h

end Ranks

def RosterApp.Before (a b : RosterApp) : Prop :=
  ¬(a.IsCapturer ∧ b.IsConsumer) ∧ (a = .fixed .agent → b = .fixed .agent)

def InTeardownOrder (env : Env) (names : List String) : Prop :=
  names.Pairwise fun n m =>
    ∀ a b : RosterApp, a.name env = n → b.name env = m → a.Before b

/-- The names tell the roles apart as far as their order needs it. -/
structure Telling (env : Env) (apps : List RosterApp) : Prop where
  streamers : ∀ s c, .streamer s ∈ apps → .capturer c ∈ apps →
    endsWith s.text "agent" = true → endsWith c.text "agent" = true
  capturers : apps.Pairwise fun a b => ∀ c, a = .capturer c → b.IsConsumer →
    b.endsAsAgent = a.endsAsAgent → a.endsAsAgent = false ∧ holdsConsumerWord env c = false
  agents : apps.Pairwise fun a b => a = .fixed .agent → b.endsAsAgent = false

section Order

variable {env : Env} {apps : List RosterApp} {a b : RosterApp}

lemma before_of_lower : (∀ a ∈ apps, ∀ b ∈ apps, a.rank env < b.rank env → a.Before b) ↔
    ∀ s c, .streamer s ∈ apps → .capturer c ∈ apps →
      endsWith s.text "agent" = true → endsWith c.text "agent" = true := by
  constructor
  · intro h s c hs hc hagent
    by_contra hno
    refine (h _ hc _ hs ?_).1 ⟨trivial, trivial⟩
    simp only [RosterApp.rank, if_pos hagent, if_neg hno]
    split <;> omega
  · intro h a ha b hb hlt
    refine ⟨?_, ?_⟩
    · intro ⟨hcap, hcons⟩
      cases a with
      | fixed _ | streamer _ => exact hcap
      | capturer c =>
        cases b with
        | capturer _ => exact hcons
        | fixed f =>
          simp only [RosterApp.rank, if_neg hcons] at hlt
          omega
        | streamer s =>
          by_cases hs : endsWith s.text "agent" = true
          · simp only [RosterApp.rank, if_pos (h s c hb ha hs), if_pos hs] at hlt
            omega
          · simp only [RosterApp.rank, if_neg hs] at hlt
            omega
    · rintro rfl
      have hb3 : b.rank env ∈ [0, 1, 2, 3] := rank_le b
      have ha3 : (RosterApp.fixed .agent).rank env = 3 := rfl
      simp only [List.mem_cons, List.not_mem_nil, or_false] at hb3
      omega

lemma agent_before (b : RosterApp) : (3 = b.rank env → b = .fixed .agent) ↔ b.endsAsAgent = false := by
  cases b with
  | fixed f => cases f <;> simp [RosterApp.rank, RosterApp.endsAsAgent]
  | capturer c =>
    simp only [RosterApp.rank, RosterApp.endsAsAgent]
    cases endsWith c.text "agent" with
    | false => cases holdsConsumerWord env c <;> simp
    | true => simp
  | streamer s =>
    simp only [RosterApp.rank, RosterApp.endsAsAgent]
    cases endsWith s.text "agent" <;> simp

lemma capturer_before {c : AppId} (hb : b.IsConsumer) :
    (RosterApp.rank env (.capturer c) ≠ b.rank env) ↔
      (b.endsAsAgent = endsWith c.text "agent" →
        endsWith c.text "agent" = false ∧ holdsConsumerWord env c = false) := by
  have hrank : b.rank env = if b.endsAsAgent then 3 else 0 := by
    cases b with
    | fixed f => exact if_neg hb
    | capturer _ => exact hb.elim
    | streamer _ => rfl
  rw [hrank, RosterApp.rank]
  cases b.endsAsAgent <;> cases endsWith c.text "agent" <;> cases holdsConsumerWord env c <;> simp

lemma before_of_level : (a.rank env = b.rank env → a.Before b) ↔
    (∀ c, a = .capturer c → b.IsConsumer → b.endsAsAgent = a.endsAsAgent →
      a.endsAsAgent = false ∧ holdsConsumerWord env c = false) ∧
    (a = .fixed .agent → b.endsAsAgent = false) := by
  cases a with
  | fixed f =>
    cases f with
    | agent =>
      have h : (RosterApp.rank env (.fixed .agent) = b.rank env → b = .fixed .agent) ↔
          b.endsAsAgent = false := agent_before b
      simpa [RosterApp.Before, RosterApp.IsCapturer] using h
    | recorder | controller | emergency | audio => simp [RosterApp.Before, RosterApp.IsCapturer]
  | streamer s => simp [RosterApp.Before, RosterApp.IsCapturer]
  | capturer c =>
    simp only [RosterApp.Before, RosterApp.IsCapturer, RosterApp.capturer.injEq, forall_eq',
      reduceCtorEq, false_implies, and_true, true_and]
    constructor
    · intro h hb
      exact (capturer_before hb).mp fun he => h he hb
    · intro h he hb
      exact (capturer_before hb).mpr (h hb) he

theorem teardown_ordered_iff (env : Env) (apps : List RosterApp) :
    ((orderTeardown (apps.map (RosterApp.name env))).Perm (apps.map (RosterApp.name env)) ∧
      InTeardownOrder env (orderTeardown (apps.map (RosterApp.name env)))) ↔ Telling env apps := by
  have hranks : ∀ a ∈ apps, a.rank env ∈ [0, 1, 2, 3] := fun a _ => rank_le a
  have hperm : (orderTeardown (apps.map (RosterApp.name env))).Perm (apps.map (RosterApp.name env)) := by
    rw [orderTeardown_names]
    exact (byRank_perm (by decide) hranks).map _
  have horder : InTeardownOrder env (orderTeardown (apps.map (RosterApp.name env))) ↔
      (byRank (RosterApp.rank env) [0, 1, 2, 3] apps).Pairwise RosterApp.Before := by
    rw [orderTeardown_names, InTeardownOrder, List.pairwise_map]
    simp only [RosterApp.name_inj, forall_eq_apply_imp_iff, forall_eq]
  rw [and_iff_right hperm, horder, byRank_pairwise (by decide) hranks, before_of_lower]
  simp only [before_of_level, List.pairwise_and_iff]
  constructor
  · intro ⟨hs, hc, ha⟩
    exact ⟨hs, hc, ha⟩
  · intro ⟨hs, hc, ha⟩
    exact ⟨hs, hc, ha⟩

def frontCapturer : RosterApp := .capturer ⟨"front", by decide⟩

def rearAgentStreamer : RosterApp := .streamer ⟨"rear-agent", by decide⟩

/-- A stream whose id ends in "agent" goes after the capturers. -/
theorem rear_agent_after_capturer :
    ¬((orderTeardown ([frontCapturer, rearAgentStreamer].map (RosterApp.name ⟨none, none, none⟩))).Perm
        ([frontCapturer, rearAgentStreamer].map (RosterApp.name ⟨none, none, none⟩)) ∧
      InTeardownOrder ⟨none, none, none⟩
        (orderTeardown ([frontCapturer, rearAgentStreamer].map (RosterApp.name ⟨none, none, none⟩)))) := by
  intro ⟨_, h⟩
  have hsame : orderTeardown ([frontCapturer, rearAgentStreamer].map
      (RosterApp.name ⟨none, none, none⟩)) =
      [frontCapturer, rearAgentStreamer].map (RosterApp.name ⟨none, none, none⟩) := by decide
  rw [hsame, InTeardownOrder, List.pairwise_map] at h
  exact (List.rel_of_pairwise_cons h List.mem_cons_self frontCapturer rearAgentStreamer rfl rfl).1
    ⟨trivial, trivial⟩

end Order

end MediaServo.Host
