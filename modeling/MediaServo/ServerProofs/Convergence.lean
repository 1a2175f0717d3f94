import MediaServo.ServerProofs.Reports

/-! A joined client's view of the producers of its room. Nothing that the SFU holds is ever missing
from it; it has no ghost exactly when the messages of the two sources arrive in time. -/

namespace MediaServo.Server

open MediaServo.Foundations MediaServo.Common SignalingServer

namespace Feed

def Coming (f : Feed) (r : String) (m : SignalingMessage) : Prop :=
  m ∈ f.queue ∨ ∃ l ∈ f.tasks, (r, m) ∈ l

def Closing (f : Feed) (r id : String) : Prop := ∃ m, f.Coming r m ∧ closes m = some id

def Opening (f : Feed) (r id : String) : Prop :=
  ∃ m, (f.Coming r m ∨ m ∈ f.phase.left) ∧ opens m = some id

def next (f : Feed) : FeedAction → Option SignalingMessage
  | .replay => f.phase.left.head?
  | .forward => f.queue.head?
  | _ => none

/-- The ids that the media worker answers for new producers are not in use: no room holds them,
and neither the client nor a message on its way to it knows them. -/
def FreshIds (r : String) (f : Feed) : FeedAction → Prop
  | .request _ _ w => ∀ id, w.produce = .ok id ∨ w.produceData = .ok id →
      (∀ r, ¬f.server.sfuManager.HasId r id) ∧ id ∉ f.view ∧ ¬f.Closing r id
  | _ => True

/-- A producer is announced to the client only while the room holds it or its closing is still to
come, and no producer that the client knows is dropped without a message to the room. -/
def Timely (r : String) (f : Feed) (a : FeedAction) : Prop :=
  (∀ m id, f.next a = some m → opens m = some id →
      f.server.sfuManager.HasId r id ∨ f.Closing r id) ∧
    ∀ id ∈ f.view, ¬Silenced f.server r a id

def Converged (r : String) (f : Feed) : Prop := ∀ id, id ∈ f.view ↔ f.server.sfuManager.HasId r id

def Ghost (r : String) (f : Feed) (id : String) : Prop :=
  id ∈ f.view ∧ ¬f.server.sfuManager.HasId r id ∧ ¬f.Closing r id

end Feed

namespace SyncPhase

def Listed : SyncPhase → Prop
  | .producers _ | .dataProducers _ => True
  | _ => False

def DataListed : SyncPhase → Prop
  | .dataProducers _ => True
  | _ => False

@[simp] lemma listed_advance (phase : SyncPhase) : phase.advance.Listed ↔ phase.Listed := by
  cases phase <;> rfl

@[simp] lemma dataListed_advance (phase : SyncPhase) :
    phase.advance.DataListed ↔ phase.DataListed := by
  cases phase <;> rfl

@[simp] lemma left_advance (phase : SyncPhase) : phase.advance.left = phase.left.tail := by
  cases phase <;> rfl

end SyncPhase

/-- What holds whatever the order of the steps: an announced closing is true, and what the room
holds is known to the client, on its way to it, or in a snapshot still to be taken. -/
structure FeedInv (r : String) (f : Feed) : Prop where
  unique : f.server.sfuManager.UniqueIds
  away : f.phase = .away → f.received = [] ∧ f.queue = []
  left : ∀ m ∈ f.phase.left, closes m = none
  closing : ∀ {id}, f.Closing r id → ¬f.server.sfuManager.HasId r id
  media : ∀ {id}, f.server.sfuManager.HasMedia r id → f.phase.Listed → id ∈ f.view ∨ f.Opening r id
  data : ∀ {id}, f.server.sfuManager.HasData r id → f.phase.DataListed →
    id ∈ f.view ∨ f.Opening r id

namespace Feed

variable {f : Feed} {r : String} {t : SignalingServer}

lemma coming_act {m : SignalingMessage} :
    (f.act t).Coming r m ↔ f.Coming r m ∨ (r, m) ∈ issued f.server t := by
  simp only [Coming, act, List.mem_append, List.mem_singleton, or_and_right, exists_or,
    exists_eq_left, or_assoc]

lemma closing_act {id : String} :
    (f.act t).Closing r id ↔ f.Closing r id ∨ (r, id) ∈ closings (issued f.server t) := by
  simp only [Closing, coming_act, or_and_right, exists_or, mem_closings]

lemma Opening.act {id : String} (h : f.Opening r id) : (f.act t).Opening r id := by
  obtain ⟨m, hm, hid⟩ := h
  exact ⟨m, hm.imp_left (fun hm => coming_act.2 (Or.inl hm)), hid⟩

lemma opening_issued {id : String} (h : ∃ m, (r, m) ∈ issued f.server t ∧ opens m = some id) :
    (f.act t).Opening r id := by
  obtain ⟨m, hm, hid⟩ := h
  exact ⟨m, Or.inl (coming_act.2 (Or.inr hm)), hid⟩

lemma coming_of_broadcast {i : ℕ} {m : SignalingMessage} (h : (f.broadcast r i).Coming r m) :
    f.Coming r m := by
  rw [broadcast] at h
  split at h
  · rename_i r' msg rest hi
    have hmem := List.mem_of_getElem? hi
    obtain hq | ⟨l, hl, hm⟩ := h
    · dsimp only at hq
      split_ifs at hq with hc
      · obtain hq | hq := List.mem_append.mp hq
        · exact Or.inl hq
        · rw [List.mem_singleton.mp hq, ← hc.1]
          exact Or.inr ⟨_, hmem, List.mem_cons_self⟩
      · exact Or.inl hq
    · obtain hl | rfl := List.mem_or_eq_of_mem_set hl
      · exact Or.inr ⟨l, hl, hm⟩
      · exact Or.inr ⟨_, hmem, List.mem_cons_of_mem _ hm⟩
  · exact h

lemma coming_broadcast {i : ℕ} {m : SignalingMessage} (hp : f.phase ≠ .away)
    (h : f.Coming r m) : (f.broadcast r i).Coming r m := by
  rw [broadcast]
  split
  · rename_i r' msg rest hi
    obtain ⟨hlt, hget⟩ := List.getElem?_eq_some_iff.mp hi
    obtain hq | ⟨l, hl, hm⟩ := h
    · left
      dsimp only
      split_ifs
      · exact List.mem_append_left _ hq
      · exact hq
    · obtain ⟨j, hj, rfl⟩ := List.getElem_of_mem hl
      by_cases hij : j = i
      · subst hij
        rw [hget] at hm
        obtain he | hm := List.mem_cons.mp hm
        · cases he
          left
          dsimp only
          rw [if_pos ⟨rfl, hp⟩]
          exact List.mem_append_right _ (List.mem_singleton.mpr rfl)
        · exact Or.inr ⟨rest, List.mem_set hlt rest, hm⟩
      · refine Or.inr ⟨f.tasks[j], ?_, hm⟩
        refine List.mem_iff_getElem.mpr ⟨j, by simpa using hj, ?_⟩
        rw [List.getElem_set_ne (Ne.symm hij)]
  · exact h

def Syncs (r : String) (f : Feed) (phase : SyncPhase) : Prop :=
  (f.phase = .away ∧ phase = .subscribed) ∨
    (f.phase = .subscribed ∧ phase = .producers (producerReplay f.server.sfuManager r)) ∨
    (f.phase = .producers [] ∧ phase = .dataProducers (dataProducerReplay f.server.sfuManager r))

def New : FeedAction → String → Prop
  | .request _ _ w, id => w.produce = .ok id ∨ w.produceData = .ok id
  | _, _ => False

end Feed

open Feed

/-- What a step is to the client: a change of the SFU, messages moved towards the client, the next
phase of the join, or a message sent to the client. -/
inductive FeedStep (r : String) (f : Feed) (a : FeedAction) : Feed → Prop
  | changed {t : SignalingServer} (mute : f.next a = none) (unique : t.sfuManager.UniqueIds)
      (reports : Reports f.server t r (New a) (Silenced f.server r a)) : FeedStep r f a (f.act t)
  | moved {g : Feed} (mute : f.next a = none) (loud : ∀ id, ¬Silenced f.server r a id)
      (server : g.server = f.server) (phase : g.phase = f.phase)
      (received : g.received = f.received) (away : f.phase = .away → g.queue = f.queue)
      (coming : ∀ m, g.Coming r m → f.Coming r m)
      (kept : f.phase ≠ .away → ∀ m, f.Coming r m → g.Coming r m) : FeedStep r f a g
  | synced {phase : SyncPhase} (mute : f.next a = none) (loud : ∀ id, ¬Silenced f.server r a id)
      (syncs : f.Syncs r phase) : FeedStep r f a { f with phase := phase }
  | told {g : Feed} {m : SignalingMessage} (next : f.next a = some m)
      (loud : ∀ id, ¬Silenced f.server r a id) (server : g.server = f.server)
      (received : g.received = f.received ++ [m]) (awake : g.phase ≠ .away)
      (listed : g.phase.Listed ↔ f.phase.Listed)
      (dataListed : g.phase.DataListed ↔ f.phase.DataListed)
      (closes : ∀ id, closes m = some id → f.Closing r id)
      (coming : ∀ m', g.Coming r m' → f.Coming r m')
      (kept : ∀ m', f.Coming r m' → m' = m ∨ g.Coming r m')
      (left : ∀ m' ∈ g.phase.left, m' ∈ f.phase.left)
      (leftKept : ∀ m' ∈ f.phase.left, m' = m ∨ m' ∈ g.phase.left) : FeedStep r f a g

namespace FeedStep

variable {f : Feed} {r : String} {a : FeedAction}

lemma idle (mute : f.next a = none) (loud : ∀ id, ¬Silenced f.server r a id) : FeedStep r f a f :=
  .moved mute loud rfl rfl rfl (fun _ => rfl) (fun _ h => h) (fun _ _ h => h)

lemma broadcast (i : ℕ) : FeedStep r f (.broadcast i) (f.broadcast r i) := by
  refine .moved rfl (fun _ => not_false) ?_ ?_ ?_ ?_ (fun _ => coming_of_broadcast)
    (fun hp _ => coming_broadcast hp)
  · rw [Feed.broadcast]
    split <;> rfl
  · rw [Feed.broadcast]
    split <;> rfl
  · rw [Feed.broadcast]
    split <;> rfl
  · intro hp
    rw [Feed.broadcast]
    split
    · exact if_neg (fun h => h.2 hp)
    · rfl

lemma replay (h : FeedInv r f) : FeedStep r f .replay f.replay := by
  rw [Feed.replay]
  split
  · rename_i hl
    exact .idle (by rw [Feed.next, hl]; rfl) (fun _ => not_false)
  · rename_i m rest hl
    have hm : m ∈ f.phase.left := by
      rw [hl]
      exact List.mem_cons_self
    refine .told (m := m) (by rw [Feed.next, hl]; rfl) (fun _ => not_false) rfl rfl ?_
      (SyncPhase.listed_advance _) (SyncPhase.dataListed_advance _) ?_ (fun _ h => h)
      (fun _ h => Or.inr h) ?_ ?_
    · intro hp
      dsimp only at hp
      cases hphase : f.phase with
      | away =>
        rw [hphase] at hm
        cases hm
      | subscribed =>
        rw [hphase] at hm
        cases hm
      | producers l =>
        rw [hphase] at hp
        cases hp
      | dataProducers l =>
        rw [hphase] at hp
        cases hp
    · intro id hid
      rw [h.left m hm] at hid
      cases hid
    · intro m' hm'
      rw [SyncPhase.left_advance] at hm'
      exact List.mem_of_mem_tail hm'
    · intro m' hm'
      rw [hl] at hm'
      rw [SyncPhase.left_advance, hl]
      exact List.mem_cons.mp hm'

lemma forward (h : FeedInv r f) : FeedStep r f .forward f.forward := by
  rw [Feed.forward]
  split
  · rename_i hq
    exact .idle (by rw [Feed.next, hq]; rfl) (fun _ => not_false)
  · rename_i m rest hq
    have hm : m ∈ f.queue := by
      rw [hq]
      exact List.mem_cons_self
    refine .told (m := m) (by rw [Feed.next, hq]; rfl) (fun _ => not_false) rfl rfl ?_ Iff.rfl Iff.rfl
      (fun id hid => ⟨m, Or.inl hm, hid⟩) ?_ ?_ (fun _ h => h) (fun _ h => Or.inr h)
    · intro hp
      rw [(h.away hp).2] at hq
      cases hq
    · rintro m' (hm' | hm')
      · left
        rw [hq]
        exact List.mem_cons_of_mem _ hm'
      · exact Or.inr hm'
    · rintro m' (hm' | hm')
      · rw [hq] at hm'
        exact (List.mem_cons.mp hm').imp_right Or.inl
      · exact Or.inr (Or.inr hm')

end FeedStep

section Steps

variable {f : Feed} {r id : String} {a : FeedAction}

lemma new_fresh (hf : f.FreshIds r a) (h : New a id) :
    (∀ r, ¬f.server.sfuManager.HasId r id) ∧ id ∉ f.view ∧ ¬f.Closing r id := by
  cases a with
  | request c msg w => exact hf id h
  | _ => exact h.elim

theorem step_feedStep (h : FeedInv r f) (hf : f.FreshIds r a) : FeedStep r f a (f.step r a) := by
  have hu := h.unique
  cases a with
  | request c msg w =>
    refine .changed rfl ?_ (handleSfuMessage_reports hu c msg w)
    exact (f.server.handleSfuMessage_sfu c w msg).unique hu (fun id hid => (hf id hid).1)
  | cleanupGlobal p =>
    exact .changed rfl (hu.thins (f.server.cleanupGlobal_thins p)) (cleanupGlobal_reports hu p)
  | reclaim p owner device =>
    exact .changed rfl (hu.thins (f.server.reclaim_thins p owner device))
      (reclaim_reports hu p owner device)
  | removeRoom room =>
    exact .changed rfl (hu.thins (f.server.sfuManager.removeRoom_thins room)) (removeRoom_reports room)
  | tables t => exact .changed rfl hu (Reports.of_peers rfl (fun _ => rfl))
  | broadcast i => exact .broadcast i
  | subscribe =>
    simp only [step]
    split_ifs with hp
    · exact .synced rfl (fun _ => not_false) (Or.inl ⟨hp, rfl⟩)
    · exact .idle rfl (fun _ => not_false)
  | listProducers =>
    simp only [step]
    split_ifs with hp
    · exact .synced rfl (fun _ => not_false) (Or.inr (Or.inl ⟨hp, rfl⟩))
    · exact .idle rfl (fun _ => not_false)
  | listDataProducers =>
    simp only [step]
    split_ifs with hp
    · exact .synced rfl (fun _ => not_false) (Or.inr (Or.inr ⟨hp, rfl⟩))
    · exact .idle rfl (fun _ => not_false)
  | replay => exact .replay h
  | forward => exact .forward h

lemma closing_mono {g : Feed} (h : ∀ m, g.Coming r m → f.Coming r m) (hc : g.Closing r id) :
    f.Closing r id := by
  obtain ⟨m, hm, hid⟩ := hc
  exact ⟨m, h m hm, hid⟩

lemma view_told {g : Feed} {m : SignalingMessage} (h : g.received = f.received ++ [m]) :
    id ∈ g.view ↔ opens m = some id ∨ (id ∈ f.view ∧ closes m ≠ some id) := by
  rw [view, h, List.foldl_append]
  exact mem_heard

lemma known_told {g : Feed} {m : SignalingMessage} (h : FeedInv r f)
    (hreceived : g.received = f.received ++ [m])
    (hcloses : ∀ id, closes m = some id → f.Closing r id)
    (hkept : ∀ m', f.Coming r m' → m' = m ∨ g.Coming r m')
    (hleft : ∀ m' ∈ f.phase.left, m' = m ∨ m' ∈ g.phase.left)
    (hid : f.server.sfuManager.HasId r id) (hk : id ∈ f.view ∨ f.Opening r id) :
    id ∈ g.view ∨ g.Opening r id := by
  obtain hv | ⟨m', hm', ho⟩ := hk
  · left
    refine (view_told hreceived).mpr (Or.inr ⟨hv, fun hc => ?_⟩)
    exact h.closing (hcloses id hc) hid
  · have hwhere : m' = m ∨ g.Coming r m' ∨ m' ∈ g.phase.left := by
      obtain hm' | hm' := hm'
      · exact (hkept m' hm').imp_right Or.inl
      · exact (hleft m' hm').imp_right Or.inr
    obtain rfl | hw := hwhere
    · exact Or.inl ((view_told hreceived).mpr (Or.inl ho))
    · exact Or.inr ⟨m', hw, ho⟩

lemma inv_act {t : SignalingServer} (h : FeedInv r f) (hf : f.FreshIds r a)
    (hu : t.sfuManager.UniqueIds) (hr : Reports f.server t r (New a) (Silenced f.server r a)) :
    FeedInv r (f.act t) where
  unique := hu
  away := h.away
  left := h.left
  closing {id} hc hid := by
    obtain hc | hc := closing_act.1 hc
    · obtain hs | hn := hr.hasId hid
      · exact h.closing hc hs
      · exact (new_fresh hf hn).2.2 hc
    · exact (hr.closed hc).2 hid
  media {id} hid hl := by
    obtain hs | ⟨_, ho⟩ := hr.media hid
    · exact (h.media hs hl).imp_right Opening.act
    · exact Or.inr (opening_issued ho)
  data {id} hid hl := by
    obtain hs | ⟨_, ho⟩ := hr.data hid
    · exact (h.data hs hl).imp_right Opening.act
    · exact Or.inr (opening_issued ho)

lemma inv_synced {phase : SyncPhase} (h : FeedInv r f) (hs : f.Syncs r phase) :
    FeedInv r { f with phase := phase } := by
  have hclosing : ∀ {id}, ({ f with phase := phase } : Feed).Closing r id →
      ¬f.server.sfuManager.HasId r id := h.closing
  obtain ⟨hp, rfl⟩ | ⟨hp, rfl⟩ | ⟨hp, rfl⟩ := hs
  · exact ⟨h.unique, nofun, fun m hm => absurd hm List.not_mem_nil, hclosing,
      fun _ hl => False.elim hl, fun _ hl => False.elim hl⟩
  · refine ⟨h.unique, nofun, ?_, hclosing, ?_, fun _ hl => False.elim hl⟩
    · exact fun m hm => SfuManager.not_closes_replay (Or.inl hm)
    · intro id hid _
      obtain ⟨m, hm, ho⟩ := SfuManager.producerReplay_opens hid
      exact Or.inr ⟨m, Or.inr hm, ho⟩
  · refine ⟨h.unique, nofun, ?_, hclosing, ?_, ?_⟩
    · exact fun m hm => SfuManager.not_closes_replay (Or.inr hm)
    · intro id hid _
      -- the media replay has nothing left, so what was opening is on the channel
      obtain hv | ⟨m, hm, ho⟩ := h.media hid (by rw [hp]; trivial)
      · exact Or.inl hv
      · rw [hp] at hm
        exact Or.inr ⟨m, Or.inl (hm.resolve_right List.not_mem_nil), ho⟩
    · intro id hid _
      obtain ⟨m, hm, ho⟩ := SfuManager.dataProducerReplay_opens hid
      exact Or.inr ⟨m, Or.inr hm, ho⟩

theorem inv_step (h : FeedInv r f) (hf : f.FreshIds r a) : FeedInv r (f.step r a) := by
  have hs := step_feedStep h hf
  generalize f.step r a = g at hs ⊢
  cases hs with
  | changed mute unique reports => exact inv_act h hf unique reports
  | moved mute loud server phase received away coming kept =>
    have hview : g.view = f.view := by rw [view, view, received]
    have hknown : ∀ {id}, f.phase ≠ .away → id ∈ f.view ∨ f.Opening r id →
        id ∈ g.view ∨ g.Opening r id := by
      rintro id hp (hv | ⟨m, hm, ho⟩)
      · exact Or.inl (by rwa [hview])
      · refine Or.inr ⟨m, ?_, ho⟩
        rw [phase]
        exact hm.imp_left (kept hp m)
    have hawake : f.phase.Listed ∨ f.phase.DataListed → f.phase ≠ .away := by
      rintro hl hp
      rw [hp] at hl
      exact hl.elim id id
    constructor
    · rw [server]
      exact h.unique
    · intro hp
      rw [phase] at hp
      rw [received, away hp]
      exact h.away hp
    · rw [phase]
      exact h.left
    · intro id hc
      rw [server]
      exact h.closing (closing_mono coming hc)
    · intro id hid hl
      rw [server] at hid
      rw [phase] at hl
      exact hknown (hawake (Or.inl hl)) (h.media hid hl)
    · intro id hid hl
      rw [server] at hid
      rw [phase] at hl
      exact hknown (hawake (Or.inr hl)) (h.data hid hl)
  | synced mute loud syncs => exact inv_synced h syncs
  | told next loud server received awake listed dataListed closes coming kept left leftKept =>
    constructor
    · rw [server]
      exact h.unique
    · exact fun hp => absurd hp awake
    · exact fun m hm => h.left m (left m hm)
    · intro id hc
      rw [server]
      exact h.closing (closing_mono coming hc)
    · intro id hid hl
      rw [server] at hid
      exact known_told h received closes kept leftKept (SfuManager.hasId_iff.2 (Or.inl hid))
        (h.media hid (listed.mp hl))
    · intro id hid hl
      rw [server] at hid
      exact known_told h received closes kept leftKept (SfuManager.hasId_iff.2 (Or.inr hid))
        (h.data hid (dataListed.mp hl))

lemma ghost_step (h : FeedInv r f) (hf : f.FreshIds r a) (hg : f.Ghost r id) :
    (f.step r a).Ghost r id := by
  obtain ⟨hv, hid, hc⟩ := hg
  have hs := step_feedStep h hf
  generalize f.step r a = g at hs ⊢
  cases hs with
  | changed mute unique reports =>
    refine ⟨hv, fun ht => ?_, fun hc' => ?_⟩
    · obtain hs | hn := reports.hasId ht
      · exact hid hs
      · exact (new_fresh hf hn).2.1 hv
    · obtain hc' | hc' := closing_act.1 hc'
      · exact hc hc'
      · exact hid (reports.closed hc').1
  | moved mute loud server phase received away coming kept =>
    rw [Ghost, view, received, server]
    exact ⟨hv, hid, fun hc' => hc (closing_mono coming hc')⟩
  | synced mute loud syncs => exact ⟨hv, hid, hc⟩
  | told next loud server received awake listed dataListed closes coming kept left leftKept =>
    rw [Ghost, server]
    refine ⟨(view_told received).mpr (Or.inr ⟨hv, fun hm => hc (closes id hm)⟩), hid, ?_⟩
    exact fun hc' => hc (closing_mono coming hc')

lemma timely_mute (mute : f.next a = none) :
    f.Timely r a ↔ ∀ id ∈ f.view, ¬Silenced f.server r a id := by
  rw [Timely, mute]
  constructor
  · exact fun h => h.2
  · refine fun h => ⟨?_, h⟩
    rintro m id hm
    cases hm

lemma no_ghost_act_iff {t : SignalingServer} (h : FeedInv r f) (hno : ∀ id, ¬f.Ghost r id)
    (hr : Reports f.server t r (New a) (Silenced f.server r a)) :
    (∀ id, ¬(f.act t).Ghost r id) ↔ ∀ id ∈ f.view, ¬Silenced f.server r a id := by
  constructor
  · intro hg id hv hsil
    obtain ⟨hid, hgone, htold⟩ := hr.silent hsil
    refine hg id ⟨hv, hgone, fun hc => ?_⟩
    obtain hc | hc := closing_act.1 hc
    · exact h.closing hc hid
    · exact htold hc
  · rintro hloud id ⟨hv, hgone, hc⟩
    by_cases hid : f.server.sfuManager.HasId r id
    · obtain htold | hsil := hr.dropped hid hgone
      · exact hc (closing_act.2 (Or.inr htold))
      · exact hloud id hv hsil
    · exact hno id ⟨hv, hid, fun hc' => hc (closing_act.2 (Or.inl hc'))⟩

lemma no_ghost_told_iff {g : Feed} {m : SignalingMessage} (hno : ∀ id, ¬f.Ghost r id)
    (hserver : g.server = f.server) (hreceived : g.received = f.received ++ [m])
    (hcoming : ∀ m', g.Coming r m' → f.Coming r m')
    (hkept : ∀ m', f.Coming r m' → m' = m ∨ g.Coming r m') :
    (∀ id, ¬g.Ghost r id) ↔
      ∀ id, opens m = some id → f.server.sfuManager.HasId r id ∨ f.Closing r id := by
  constructor
  · intro hg id ho
    by_contra hnot
    obtain ⟨hid, hc⟩ := not_or.mp hnot
    refine hg id ⟨(view_told hreceived).mpr (Or.inl ho), by rwa [hserver], ?_⟩
    exact fun hc' => hc (closing_mono hcoming hc')
  · rintro htimely id ⟨hv, hid, hc⟩
    rw [hserver] at hid
    -- a closing that is no longer on its way is the message that the client gets now
    have hlost : ∀ {m'}, f.Coming r m' → closes m' = some id → m' = m := by
      intro m' hm' hcl
      exact (hkept m' hm').resolve_right (fun hm' => hc ⟨m', hm', hcl⟩)
    obtain ho | ⟨hv, hcl⟩ := (view_told hreceived).mp hv
    · obtain hid' | ⟨m', hm', hcl⟩ := htimely id ho
      · exact hid hid'
      · rw [hlost hm' hcl] at hcl
        cases m <;> simp only [opens, closes, reduceCtorEq] at ho hcl
    · refine hno id ⟨hv, hid, ?_⟩
      rintro ⟨m', hm', hcl'⟩
      rw [hlost hm' hcl'] at hcl'
      exact hcl hcl'

lemma no_ghost_step_iff (h : FeedInv r f) (hf : f.FreshIds r a) (hno : ∀ id, ¬f.Ghost r id) :
    (∀ id, ¬(f.step r a).Ghost r id) ↔ f.Timely r a := by
  have hs := step_feedStep h hf
  generalize f.step r a = g at hs ⊢
  cases hs with
  | changed mute unique reports =>
    rw [timely_mute mute]
    exact no_ghost_act_iff h hno reports
  | moved mute loud server phase received away coming kept =>
    rw [timely_mute mute]
    refine ⟨fun _ id _ => loud id, ?_⟩
    rintro - id ⟨hv, hid, hc⟩
    rw [view, received] at hv
    rw [server] at hid
    by_cases hp : f.phase = .away
    · rw [(h.away hp).1] at hv
      cases hv
    · refine hno id ⟨hv, hid, ?_⟩
      rintro ⟨m, hm, hcl⟩
      exact hc ⟨m, kept hp m hm, hcl⟩
  | synced mute loud syncs =>
    rw [timely_mute mute]
    exact ⟨fun _ id _ => loud id, fun _ => hno⟩
  | @told _ m next loud server received awake listed dataListed closes' coming kept left leftKept =>
    rw [no_ghost_told_iff hno server received coming kept]
    constructor
    · intro htimely
      refine ⟨fun m' id hm ho => ?_, fun id _ => loud id⟩
      rw [next] at hm
      cases hm
      exact htimely id ho
    · rintro ⟨htimely, _⟩ id ho
      exact htimely m id next ho

theorem no_ghost_run_iff {acts : List FeedAction} (h : FeedInv r f)
    (hf : Along (Feed.step r) (Feed.FreshIds r) f acts) (hno : ∀ id, ¬f.Ghost r id) :
    (∀ id, ¬(run (Feed.step r) f acts).Ghost r id) ↔ Along (Feed.step r) (Feed.Timely r) f acts := by
  induction acts generalizing f with
  | nil => exact ⟨fun _ => trivial, fun _ => hno⟩
  | cons a acts ih =>
    have hstep := no_ghost_step_iff h hf.1 hno
    by_cases hg : ∀ id, ¬(f.step r a).Ghost r id
    · rw [run_cons, ih (inv_step h hf.1) hf.2 hg]
      exact ⟨fun k => ⟨hstep.mp hg, k⟩, fun k => k.2⟩
    · constructor
      · intro hend
        obtain ⟨id, hid⟩ := not_forall_not.mp hg
        have hkept := run_invariant (I := fun g => FeedInv r g ∧ g.Ghost r id)
          ⟨inv_step h hf.1, hid⟩ (fun g b hi hb => ⟨inv_step hi.1 hb, ghost_step hi.1 hb hi.2⟩) hf.2
        exact absurd hkept.2 (hend id)
      · exact fun k => absurd (hstep.mpr k.1) hg

end Steps

section Settled

variable {f : Feed} {r id : String}

lemma Feed.Settled.not_coming (h : f.Settled) (m : SignalingMessage) : ¬f.Coming r m := by
  rintro (hm | ⟨l, hl, hm⟩)
  · rw [h.2.1] at hm
    cases hm
  · rw [h.2.2 l hl] at hm
    cases hm

lemma Feed.Settled.not_closing (h : f.Settled) : ¬f.Closing r id := by
  rintro ⟨m, hm, _⟩
  exact h.not_coming m hm

lemma Feed.Settled.not_opening (h : f.Settled) : ¬f.Opening r id := by
  rintro ⟨m, hm | hm, _⟩
  · exact h.not_coming m hm
  · rw [h.1] at hm
    cases hm

lemma Feed.Settled.known (h : f.Settled) (hi : FeedInv r f) (hid : f.server.sfuManager.HasId r id) :
    id ∈ f.view := by
  have hlisted : f.phase.Listed ∧ f.phase.DataListed := by
    rw [h.1]
    exact ⟨trivial, trivial⟩
  obtain hid | hid := SfuManager.hasId_iff.1 hid
  · exact (hi.media hid hlisted.1).resolve_right h.not_opening
  · exact (hi.data hid hlisted.2).resolve_right h.not_opening

lemma Feed.Settled.converged_iff (h : f.Settled) (hi : FeedInv r f) :
    f.Converged r ↔ ∀ id, ¬f.Ghost r id := by
  constructor
  · rintro hc id ⟨hv, hid, _⟩
    exact hid ((hc id).mp hv)
  · intro hno id
    refine ⟨fun hv => ?_, h.known hi⟩
    by_contra hid
    exact hno id ⟨hv, hid, h.not_closing⟩

end Settled

lemma inv_start {s : SignalingServer} {r : String} (hu : s.sfuManager.UniqueIds) :
    FeedInv r (Feed.start s) := by
  refine ⟨hu, fun _ => ⟨rfl, rfl⟩, fun m hm => absurd hm List.not_mem_nil, ?_,
    fun _ hl => False.elim hl, fun _ hl => False.elim hl⟩
  rintro id ⟨m, hm | ⟨l, hl, _⟩, _⟩
  · cases hm
  · cases hl

theorem producer_view_convergence (roomId : String) (s : SignalingServer)
    (hu : s.sfuManager.UniqueIds) (acts : List FeedAction)
    (hfresh : Along (Feed.step roomId) (Feed.FreshIds roomId) (Feed.start s) acts)
    (hsettled : (run (Feed.step roomId) (Feed.start s) acts).Settled) :
    let f := run (Feed.step roomId) (Feed.start s) acts
    (∀ id, f.server.sfuManager.HasId roomId id → id ∈ f.view) ∧
      (f.Converged roomId ↔ Along (Feed.step roomId) (Feed.Timely roomId) (Feed.start s) acts) := by
  intro f
  have hi : FeedInv roomId f := run_invariant (I := FeedInv roomId) (inv_start hu)
    (fun _ _ h hf => inv_step h hf) hfresh
  refine ⟨fun id hid => hsettled.known hi hid, ?_⟩
  rw [hsettled.converged_iff hi]
  apply no_ghost_run_iff (inv_start hu) hfresh
  rintro id ⟨hv, _⟩
  cases hv

def cameraThen (acts : List FeedAction) : List FeedAction :=
  let vehicle : Session := ⟨"p", "car", .host, .device "car", 2⟩
  [.request vehicle (.createWebRtcTransport "car" "p" .send) (willing "t"),
    .request vehicle (.produce "car" "p" .send .video ⟨"null"⟩ none (some "front")) (willing "x")] ++
    acts

lemma cameraThen_fresh {acts : List FeedAction}
    (h : ∀ a ∈ acts, ∀ c msg w, a ≠ .request c msg w) :
    Along (Feed.step "car") (Feed.FreshIds "car") (.start .init) (cameraThen acts) := by
  have hrest : ∀ f, Along (Feed.step "car") (Feed.FreshIds "car") f acts := by
    induction acts with
    | nil => exact fun _ => trivial
    | cons a acts ih =>
      intro f
      refine ⟨?_, ih (fun b hb => h b (List.mem_cons_of_mem _ hb)) _⟩
      cases a with
      | request c msg w => exact absurd rfl (h _ List.mem_cons_self c msg w)
      | _ => trivial
  have hclosing : ∀ {f : Feed} {id}, f.queue = [] → f.tasks.flatten = [] → ¬f.Closing "car" id := by
    rintro f id hq ht ⟨m, hm | ⟨l, hl, hm⟩, _⟩
    · rw [hq] at hm
      cases hm
    · have hf := List.mem_flatten_of_mem hl hm
      rw [ht] at hf
      cases hf
  refine ⟨?_, ?_, hrest _⟩
  · intro id hid
    have hid : id = "t" := by
      obtain h | h := hid
      · exact (Except.ok.inj h).symm
      · exact (Except.ok.inj h).symm
    subst hid
    exact ⟨not_hasId_of_unreported (by decide), by decide, hclosing rfl rfl⟩
  · intro id hid
    have hid : id = "x" := by
      obtain h | h := hid
      · exact (Except.ok.inj h).symm
      · exact (Except.ok.inj h).symm
    subst hid
    exact ⟨not_hasId_of_unreported (by decide), by decide,
      hclosing (by decide) (by decide)⟩

instance (f : Feed) : Decidable f.Settled :=
  inferInstanceAs (Decidable (f.phase = .dataProducers [] ∧ f.queue = [] ∧ ∀ l ∈ f.tasks, l = []))

theorem producer_view_convergence_twice :
    let acts := cameraThen [.subscribe, .listProducers, .replay, .broadcast 1, .forward,
      .listDataProducers]
    let f := run (Feed.step "car") (.start .init) acts
    f.Settled ∧ f.received.length = 2 ∧ f.Converged "car" ∧ f.view = {"x"} := by
  intro acts f
  have hfresh : Along (Feed.step "car") (Feed.FreshIds "car") (.start .init) acts := by
    apply cameraThen_fresh
    simp
  have hsettled : f.Settled := by decide
  refine ⟨hsettled, by decide, ?_, by decide⟩
  apply (producer_view_convergence "car" .init unique_init acts hfresh hsettled).2.mpr
  have hmute : ∀ {g : Feed} {a}, g.next a = none → (∀ id, ¬Silenced g.server "car" a id) →
      g.Timely "car" a := by
    intro g a hm hs
    rw [timely_mute hm]
    exact fun id _ => hs id
  have hheld : ∀ {g : Feed} {a}, (g.next a).bind opens = some "x" →
      "x" ∈ g.server.sfuManager.idsAt "car" "p" → (∀ id, ¬Silenced g.server "car" a id) →
      g.Timely "car" a := by
    intro g a hn hx hs
    refine ⟨fun m id hm ho => ?_, fun id _ => hs id⟩
    rw [hm, Option.bind_some, ho] at hn
    cases hn
    exact Or.inl ⟨"p", hx⟩
  have hnone : ∀ _ : String, ¬False := fun _ => not_false
  exact ⟨hmute rfl hnone, hmute rfl hnone, hmute rfl hnone, hmute rfl hnone,
    hheld (by decide) (by decide) hnone, hmute rfl hnone,
    hheld (by decide) (by decide) hnone, hmute rfl hnone, trivial⟩

theorem ghost_after_join :
    let acts := cameraThen [.broadcast 1, .subscribe, .listProducers, .cleanupGlobal "p", .broadcast 2,
      .forward, .replay, .listDataProducers]
    let f := run (Feed.step "car") (.start .init) acts
    Along (Feed.step "car") (Feed.FreshIds "car") (.start .init) acts ∧ f.Settled ∧
      f.view = {"x"} ∧ ¬f.server.sfuManager.HasId "car" "x" ∧ ¬f.Converged "car" := by
  intro acts f
  have hview : f.view = {"x"} := by decide
  have hgone : ¬f.server.sfuManager.HasId "car" "x" := not_hasId_of_unreported (by decide) _
  refine ⟨cameraThen_fresh (by simp), by decide, hview, hgone, fun h => ?_⟩
  apply hgone
  rw [← h, hview]
  exact Finset.mem_singleton_self "x"

end MediaServo.Server
