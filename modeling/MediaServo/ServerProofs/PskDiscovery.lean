import MediaServo.Server.Discovery
import MediaServo.ServerProofs.Discovery
import MediaServo.ServerProofs.OxfileGuard

namespace MediaServo.Server

open MediaServo.Foundations MediaServo.Common

section Compare

lemma ofNat_xor_eq_zero (m n : ℕ) : UInt8.ofNat (m ^^^ n) = 0 ↔ m % 256 = n % 256 := by
  rw [UInt8.ofNat_xor, UInt8.xor_eq_zero_iff, ← UInt8.toNat_inj, UInt8.toNat_ofNat',
    UInt8.toNat_ofNat']

lemma zipWith_xor_zero (a b : List UInt8) :
    (∀ x ∈ List.zipWith (· ^^^ ·) a b, x = 0) ↔ a <+: b ∨ b <+: a := by
  induction a generalizing b with
  | nil => simp
  | cons x a ih =>
      cases b with
      | nil => simp
      | cons y b =>
          simp only [List.zipWith_cons_cons, List.forall_mem_cons, UInt8.xor_eq_zero_iff, ih,
            List.cons_prefix_cons]
          constructor
          · rintro ⟨rfl, h | h⟩
            · exact .inl ⟨rfl, h⟩
            · exact .inr ⟨rfl, h⟩
          · rintro (⟨rfl, h⟩ | ⟨rfl, h⟩)
            · exact ⟨rfl, .inl h⟩
            · exact ⟨rfl, .inr h⟩

/-- One is the beginning of the other, and what the other has more is a multiple of 256 bytes. -/
def Truncated (a b : List UInt8) : Prop :=
  a.length ≠ b.length ∧ a.length % 256 = b.length % 256 ∧ (a <+: b ∨ b <+: a)

lemma pskDiff_eq_zero (a b : List UInt8) :
    pskDiff a b = 0 ↔ a.length % 256 = b.length % 256 ∧ (a <+: b ∨ b <+: a) := by
  rw [pskDiff, foldl_or_eq_zero, ofNat_xor_eq_zero, zipWith_xor_zero]

lemma pskDiff_accepts (a b : List UInt8) : pskDiff a b = 0 ↔ a = b ∨ Truncated a b := by
  rw [pskDiff_eq_zero]
  constructor
  · rintro ⟨hlen, hpre⟩
    by_cases heq : a.length = b.length
    · left
      rcases hpre with h | h
      · exact h.eq_of_length heq
      · exact (h.eq_of_length heq.symm).symm
    · exact .inr ⟨heq, hlen, hpre⟩
  · rintro (rfl | ⟨_, h⟩)
    · exact ⟨rfl, .inl (List.prefix_refl a)⟩
    · exact h

/-- The header carries the secret under the scheme, and the answer is the list of rooms. -/
def PskAccepts (s : SignalingServer) (configured presented : String) : Prop :=
  ∃ rooms, s.pskDiscover (some configured) (some ("Psk " ++ presented)) = .ok (some rooms)

lemma pskAccepts_iff (s : SignalingServer) (configured presented : String) :
    PskAccepts s configured presented ↔
      presented = configured ∨ Truncated (asBytes configured) (asBytes presented) := by
  have hdiff := pskDiff_accepts (asBytes configured) (asBytes presented)
  rw [asBytes_injective.eq_iff, eq_comm (a := configured)] at hdiff
  rw [← hdiff, PskAccepts, SignalingServer.pskDiscover, Option.bind_some, stripPrefix_append]
  by_cases h : pskDiff (asBytes configured) (asBytes presented) = 0
  · simp [h]
  · simp [h]

theorem psk_accepts_exactly_iff (s : SignalingServer) (configured presented : String) :
    (PskAccepts s configured presented ↔ presented = configured) ↔
      ¬Truncated (asBytes configured) (asBytes presented) := by
  rw [pskAccepts_iff]
  constructor
  · intro h ht
    obtain rfl := h.1 (.inr ht)
    exact ht.1 rfl
  · intro h
    exact or_iff_left h

def padded (n : ℕ) : String := "key" ++ String.ofList (List.replicate n 'x')

lemma padding_length (n : ℕ) : (asBytes (String.ofList (List.replicate n 'x'))).length = n := by
  have hx : 'x'.utf8Size = 1 := rfl
  simp [asBytes, List.utf8Encode, List.length_flatMap, hx]

lemma padded_truncated (n : ℕ) (h0 : n ≠ 0) (h : n % 256 = 0) :
    Truncated (asBytes "key") (asBytes (padded n)) := by
  have hlen : (asBytes (padded n)).length = (asBytes "key").length + n := by
    rw [padded, asBytes_append, List.length_append, padding_length]
  refine ⟨by omega, by omega, .inl ?_⟩
  rw [padded, asBytes_append]
  exact List.prefix_append _ _

theorem psk_accepts_longer :
    ¬ ∀ s configured presented, PskAccepts s configured presented ↔ presented = configured := by
  intro h
  have ht := padded_truncated 256 (by decide) rfl
  have heq := (h SignalingServer.init "key" (padded 256)).1 ((pskAccepts_iff _ _ _).2 (.inr ht))
  rw [heq] at ht
  exact ht.1 rfl

end Compare

section Names

lemma takeWhile_ne_append {α : Type} [DecidableEq α] (c : α) (l r : List α) (h : c ∉ l) :
    (l ++ c :: r).takeWhile (· ≠ c) = l := by
  induction l with
  | nil => simp
  | cons x l ih =>
      rw [List.mem_cons, not_or] at h
      rw [List.cons_append, List.takeWhile_cons_of_pos (by simpa using Ne.symm h.1), ih h.2]

lemma streamRoom_inj {base base' sid sid' : String} (h : '_' ∉ base.toList)
    (h' : '_' ∉ base'.toList) (heq : base ++ "_" ++ sid = base' ++ "_" ++ sid') :
    base = base' ∧ sid = sid' := by
  have hlist : base.toList ++ '_' :: sid.toList = base'.toList ++ '_' :: sid'.toList := by
    rw [← streamRoom_toList, ← streamRoom_toList, heq]
  have hbase : base = base' := by
    apply String.toList_injective
    rw [← takeWhile_ne_append _ _ sid.toList h, hlist, takeWhile_ne_append _ _ _ h']
  subst hbase
  refine ⟨rfl, String.toList_injective ?_⟩
  simpa using hlist

lemma isSource_iff (id : String) :
    isSource id = true ↔ ¬startsWith id "audio-" ∧ '_' ∉ id.toList := by
  simp [isSource]

end Names

namespace SignalingServer

variable (s : SignalingServer)

lemma roomIds_nodup : s.roomIds.Nodup := s.roomManager.keys_nodup

def sourceStreams (id : String) : List String :=
  if id ∈ s.roomIds ∧ isSource id then onlineStreamIds s.statusRegistry id else []

variable {s}

lemma mem_sourceStreams {base sid : String} (h : sid ∈ s.sourceStreams base) :
    base ∈ s.roomIds ∧ ¬startsWith base "audio-" ∧ '_' ∉ base.toList := by
  rw [sourceStreams] at h
  split at h
  next hsource => exact ⟨hsource.1, (isSource_iff _).1 hsource.2⟩
  next => cases h

lemma get_push (id k : String) (sids : List String) (acc : FiniteMap String (List String)) :
    (sids.foldl (fun acc sid => acc.set id ((acc.get id).getD [] ++ [sid])) acc).get k =
      if k = id ∧ sids ≠ [] then some ((acc.get id).getD [] ++ sids) else acc.get k := by
  induction sids generalizing acc with
  | nil => simp
  | cons sid sids ih =>
      rw [List.foldl_cons, ih, FiniteMap.get_set, FiniteMap.get_set]
      by_cases hk : k = id
      · subst hk
        cases sids <;> simp
      · simp [hk]

lemma get_addStreams (l : List String) (hl : l.Nodup) (k : String)
    (acc : FiniteMap String (List String)) :
    (l.foldl s.addStreams acc).get k =
      if (k ∈ l ∧ isSource k) ∧ onlineStreamIds s.statusRegistry k ≠ [] then
        some ((acc.get k).getD [] ++ onlineStreamIds s.statusRegistry k)
      else acc.get k := by
  induction l generalizing acc with
  | nil => simp
  | cons id l ih =>
      obtain ⟨hid, hl⟩ := List.nodup_cons.1 hl
      have hone : (s.addStreams acc id).get k =
          if (k = id ∧ isSource k) ∧ onlineStreamIds s.statusRegistry k ≠ [] then
            some ((acc.get k).getD [] ++ onlineStreamIds s.statusRegistry k)
          else acc.get k := by
        rw [addStreams]
        by_cases hk : k = id
        · subst hk
          by_cases hs : isSource k
          · simp [hs, get_push]
          · simp [hs]
        · by_cases hs : isSource id
          · simp [hs, hk, get_push]
          · simp [hs, hk]
      rw [List.foldl_cons, ih hl, hone]
      by_cases hk : k = id
      · subst hk
        simp [hid]
      · simp [hk]

lemma get_streamsOf (k : String) :
    s.streamsOf.get k = if s.sourceStreams k = [] then none else some (s.sourceStreams k) := by
  rw [streamsOf, get_addStreams _ s.roomIds_nodup, sourceStreams]
  by_cases hk : k ∈ s.roomIds ∧ isSource k
  · by_cases hs : onlineStreamIds s.statusRegistry k = []
    · simp [hs]
    · simp [hk, hs]
  · rw [if_neg (by tauto), if_neg hk]
    simp

lemma getD_streamsOf (k : String) : (s.streamsOf.get k).getD [] = s.sourceStreams k := by
  rw [get_streamsOf]
  split
  next h => rw [h, Option.getD_none]
  next => rw [Option.getD_some]

lemma streamsOf_none {k : String} (h : ¬isSource k) : s.streamsOf.get k = none := by
  rw [get_streamsOf, if_pos]
  rw [sourceStreams, if_neg (by tauto)]

section Walk

variable (s)

def parentAt (done : List String) (id : String) : Option String :=
  match rsplitOnce '_' id with
  | none => none
  | some (base, sid) => if base ∉ done ∧ sid ∈ s.sourceStreams base then some base else none

def unmet (done : List String) (id : String) : List String :=
  (s.sourceStreams id).filter fun sid => !(id ++ "_" ++ sid ∈ done && '_' ∉ sid.toList)

def entriesAt (done : List String) (id : String) : List RoomEntry :=
  if startsWith id "audio-" then [PskListing.entry id "audio" none none]
  else
    match s.parentAt done id with
    | some base => [PskListing.entry id "video" (some base) none]
    | none =>
        PskListing.entry id "control" none (s.streamsOf.get id) ::
          (s.unmet done id).map fun sid =>
            PskListing.entry (id ++ "_" ++ sid) "video" (some id) none

def before (l : List String) (id : String) : List String := l.takeWhile (· ≠ id)

structure Walked (done : List String) (l : PskListing) : Prop where
  rooms : l.rooms = done.flatMap fun id => s.entriesAt (before done id) id
  streamsOf : ∀ k, l.streamsOf.get k = if k ∈ done then none else s.streamsOf.get k
  emitted : ∀ id, id ∈ l.emitted ↔ id ∈ done ∧ (s.parentAt (before done id) id).isSome

variable {s}

lemma parentAt_eq_some {done : List String} {id base : String} :
    s.parentAt done id = some base ↔
      base ∉ done ∧ ∃ sid ∈ s.sourceStreams base, '_' ∉ sid.toList ∧ id = base ++ "_" ++ sid := by
  rw [parentAt]
  constructor
  · cases hsplit : rsplitOnce '_' id with
    | none => simp
    | some p =>
        obtain ⟨b, sid⟩ := p
        obtain ⟨hid, hsid⟩ := rsplitOnce_underscore hsplit
        simp only [Option.ite_none_right_eq_some, Option.some.injEq]
        rintro ⟨⟨hb, hmem⟩, rfl⟩
        exact ⟨hb, sid, hmem, hsid, hid⟩
  · rintro ⟨hb, sid, hmem, hsid, rfl⟩
    rw [rsplitOnce_streamRoom hsid]
    exact if_pos ⟨hb, hmem⟩

lemma parentAt_source {done : List String} {id base : String} (h : s.parentAt done id = some base) :
    ¬isSource id := by
  obtain ⟨_, sid, _, _, rfl⟩ := parentAt_eq_some.1 h
  rw [isSource_iff, streamRoom_toList]
  simp

lemma not_audio_streamRoom {base sid : String} (h : ¬startsWith base "audio-") :
    ¬startsWith (base ++ "_" ++ sid) "audio-" := by
  simp only [startsWith, List.isPrefixOf_iff_prefix, streamRoom_toList] at h ⊢
  intro hpre
  by_cases hlen : "audio-".toList.length ≤ base.toList.length
  · exact h (List.prefix_of_prefix_length_le hpre (List.prefix_append _ _) hlen)
  · have hcut : base.toList ++ ['_'] <+: base.toList ++ '_' :: sid.toList :=
      ⟨sid.toList, by simp⟩
    have hshort : (base.toList ++ ['_']).length ≤ "audio-".toList.length := by
      rw [List.length_append, List.length_singleton]
      omega
    have hmem := (List.prefix_of_prefix_length_le hcut hpre hshort).subset
      (List.mem_append_right _ (List.mem_singleton_self '_'))
    revert hmem
    decide

lemma before_concat {done : List String} {id x : String} (h : x ∈ done) :
    before (done ++ [id]) x = before done x := by
  rw [before, before, List.takeWhile_append]
  split
  next hall =>
    have hx := List.takeWhile_eq_self_iff.1 (List.takeWhile_prefix _ |>.eq_of_length hall) x h
    simp at hx
  next => rfl

lemma before_concat_self {done : List String} {id : String} (h : id ∉ done) :
    before (done ++ [id]) id = done := takeWhile_ne_append id done [] h

lemma mem_emitted {done : List String} {l : PskListing} (h : s.Walked done l) {base sid : String}
    (hbase : base ∉ done) (hsid : sid ∈ s.sourceStreams base) :
    base ++ "_" ++ sid ∈ l.emitted ↔ base ++ "_" ++ sid ∈ done ∧ '_' ∉ sid.toList := by
  rw [h.emitted, Option.isSome_iff_exists]
  refine and_congr_right fun _ => ?_
  constructor
  · rintro ⟨b, hb⟩
    obtain ⟨_, q, hq, hplain, heq⟩ := parentAt_eq_some.1 hb
    obtain ⟨rfl, rfl⟩ := streamRoom_inj (mem_sourceStreams hsid).2.2 (mem_sourceStreams hq).2.2 heq
    exact hplain
  · intro hplain
    refine ⟨base, parentAt_eq_some.2 ⟨fun hmem => hbase ?_, sid, hsid, hplain, rfl⟩⟩
    exact (List.takeWhile_prefix _).subset hmem

lemma unregistered_eq {done : List String} {l : PskListing} (h : s.Walked done l) {id : String}
    (hid : id ∉ done) :
    (((l.streamsOf.get id).getD []).filter fun sid => !l.emitted.contains (id ++ "_" ++ sid)) =
      s.unmet done id := by
  rw [h.streamsOf, if_neg hid, getD_streamsOf, unmet]
  apply List.filter_congr
  intro sid hsid
  rw [Bool.eq_iff_iff]
  have hmem := mem_emitted h hid hsid
  simp only [Bool.not_eq_true', ← Bool.not_eq_true, List.contains_iff_mem, Bool.and_eq_true,
    decide_eq_true_eq, hmem]

lemma parentAt_audio {done : List String} {id : String} (h : startsWith id "audio-") :
    s.parentAt done id = none := by
  rw [Option.eq_none_iff_forall_ne_some]
  intro base hb
  obtain ⟨_, sid, hsid, _, rfl⟩ := parentAt_eq_some.1 hb
  exact not_audio_streamRoom (mem_sourceStreams hsid).2.1 h

lemma visitRoom_eq {done : List String} {l : PskListing} (h : s.Walked done l) (id : String) :
    l.visitRoom id =
      if startsWith id "audio-" then
        { l with rooms := l.rooms ++ [PskListing.entry id "audio" none none] }
      else
        match s.parentAt done id with
        | some base =>
            { l with
              rooms := l.rooms ++ [PskListing.entry id "video" (some base) none]
              emitted := id :: l.emitted }
        | none => l.visitControl id := by
  rw [PskListing.visitRoom, parentAt]
  cases hsplit : rsplitOnce '_' id with
  | none => rfl
  | some p =>
      obtain ⟨base, sid⟩ := p
      have hlist : sid ∈ (l.streamsOf.get base).getD [] ↔ base ∉ done ∧ sid ∈ s.sourceStreams base := by
        rw [h.streamsOf]
        by_cases hbase : base ∈ done
        · simp [hbase]
        · simp [hbase, getD_streamsOf]
      by_cases hc : base ∉ done ∧ sid ∈ s.sourceStreams base
      · simp only [if_pos hc, if_pos (hlist.2 hc)]
      · simp only [if_neg hc, if_neg (mt hlist.1 hc)]

section Step

variable {done : List String} {id : String} (hid : id ∉ done)

include hid

lemma parents_concat (x : String) :
    x ∈ done ++ [id] ∧ (s.parentAt (before (done ++ [id]) x) x).isSome ↔
      x ∈ done ∧ (s.parentAt (before done x) x).isSome ∨ x = id ∧ (s.parentAt done id).isSome := by
  rw [List.mem_append, List.mem_singleton, or_and_right]
  refine or_congr (and_congr_right fun hx => ?_) (and_congr_right ?_)
  · rw [before_concat hx]
  · rintro rfl
    rw [before_concat_self hid]

variable {l : PskListing} (h : s.Walked done l)

include h

lemma Walked.entries {entries : List RoomEntry} (he : s.entriesAt done id = entries) :
    l.rooms ++ entries = (done ++ [id]).flatMap fun x => s.entriesAt (before (done ++ [id]) x) x := by
  rw [List.flatMap_append, List.flatMap_singleton, before_concat_self hid, he, h.rooms]
  congr 1
  apply List.flatMap_congr
  intro x hx
  rw [before_concat hx]

lemma Walked.kept (hs : ¬isSource id) (k : String) :
    l.streamsOf.get k = if k ∈ done ++ [id] then none else s.streamsOf.get k := by
  rw [h.streamsOf]
  by_cases hk : k = id
  · subst hk
    simp [hid, streamsOf_none hs]
  · simp [hk]

lemma Walked.visit : s.Walked (done ++ [id]) (l.visitRoom id) := by
  rw [visitRoom_eq h id]
  split
  next haudio =>
    refine ⟨h.entries hid (if_pos haudio), h.kept hid ?_, ?_⟩
    · rw [isSource_iff]
      exact fun hs => hs.1 haudio
    · intro x
      rw [parents_concat hid, h.emitted, parentAt_audio haudio]
      simp
  next haudio =>
    cases hparent : s.parentAt done id with
    | some base =>
        refine ⟨h.entries hid ?_, h.kept hid (parentAt_source hparent), ?_⟩
        · rw [entriesAt, if_neg haudio, hparent]
        · intro x
          rw [parents_concat hid, List.mem_cons, h.emitted, hparent]
          simp [or_comm]
    | none =>
        refine ⟨?_, ?_, ?_⟩
        · apply h.entries hid
          rw [entriesAt, if_neg haudio, hparent, unregistered_eq h hid, h.streamsOf, if_neg hid]
        · intro k
          rw [PskListing.visitControl, FiniteMap.get_remove, h.streamsOf]
          by_cases hk : k = id
          · simp [hk]
          · simp [hk]
        · intro x
          rw [parents_concat hid, PskListing.visitControl, h.emitted, hparent]
          simp

end Step

lemma walked_foldl (done : List String) (hd : done.Nodup) :
    s.Walked done (done.foldl PskListing.visitRoom ⟨[], s.streamsOf, []⟩) := by
  induction done using List.reverseRecOn with
  | nil => exact ⟨rfl, fun k => by simp, fun id => by simp⟩
  | append_singleton done id ih =>
      obtain ⟨hd, _, hid⟩ := List.nodup_append.1 hd
      rw [List.foldl_concat]
      exact (ih hd).visit fun hmem => hid id hmem id (List.mem_singleton_self id) rfl

lemma pskListing_eq :
    s.pskListing = s.roomIds.flatMap fun id => s.entriesAt (before s.roomIds id) id :=
  (walked_foldl s.roomIds s.roomIds_nodup).rooms

lemma mem_pskListing {e : RoomEntry} :
    e ∈ s.pskListing ↔ ∃ id ∈ s.roomIds, e ∈ s.entriesAt (before s.roomIds id) id := by
  rw [pskListing_eq, List.mem_flatMap]

lemma mem_entriesAt {done : List String} {id : String} {e : RoomEntry}
    (h : e ∈ s.entriesAt done id) :
    e.roomId = id ∨ ∃ sid ∈ s.unmet done id, e.roomId = id ++ "_" ++ sid ∧ e.kind = "video" := by
  rw [entriesAt] at h
  split at h
  · rw [List.mem_singleton] at h
    exact .inl (congrArg RoomEntry.roomId h)
  · split at h
    · rw [List.mem_singleton] at h
      exact .inl (congrArg RoomEntry.roomId h)
    · rcases List.mem_cons.1 h with rfl | h
      · exact .inl rfl
      · obtain ⟨sid, hsid, rfl⟩ := List.mem_map.1 h
        exact .inr ⟨sid, hsid, rfl, rfl⟩

lemma ids_entriesAt (done : List String) (id : String) :
    (s.entriesAt done id).map (·.roomId) =
        id :: (s.unmet done id).map (fun sid => id ++ "_" ++ sid) ∨
      (s.entriesAt done id).map (·.roomId) = [id] := by
  rw [entriesAt]
  split
  · exact .inr rfl
  · split
    · exact .inr rfl
    · left
      rw [List.map_cons, List.map_map]
      rfl

lemma mem_unmet {done : List String} {id sid : String} :
    sid ∈ s.unmet done id ↔
      sid ∈ s.sourceStreams id ∧ ¬(id ++ "_" ++ sid ∈ done ∧ '_' ∉ sid.toList) := by
  rw [unmet, List.mem_filter]
  simp [imp_iff_not_or]

lemma before_cons (x : String) (l : List String) (a : String) :
    before (x :: l) a = if x = a then [] else x :: before l a := by
  by_cases h : x = a
  · simp [before, h]
  · simp [before, h]

lemma mem_before_iff {l : List String} {a b : String} (ha : a ∈ l) (hb : b ∈ l) (hne : a ≠ b) :
    a ∈ before l b ↔ b ∉ before l a := by
  induction l with
  | nil => cases ha
  | cons x l ih =>
      rw [before_cons, before_cons]
      by_cases hxa : x = a
      · subst hxa
        simp [hne]
      · by_cases hxb : x = b
        · subst hxb
          simp [hxa]
        · rw [if_neg hxa, if_neg hxb, List.mem_cons, List.mem_cons, not_or]
          have hal := (List.mem_cons.1 ha).resolve_left (Ne.symm hxa)
          have hbl := (List.mem_cons.1 hb).resolve_left (Ne.symm hxb)
          simp [Ne.symm hxa, Ne.symm hxb, ih hal hbl]

lemma exists_entry (done : List String) (id : String) :
    ∃ e ∈ s.entriesAt done id, e.roomId = id := by
  rw [entriesAt]
  split
  · exact ⟨_, List.mem_singleton_self _, rfl⟩
  · split
    · exact ⟨_, List.mem_singleton_self _, rfl⟩
    · exact ⟨_, List.mem_cons_self, rfl⟩

lemma entriesAt_source {done : List String} {base sid : String} (h : sid ∈ s.sourceStreams base) :
    (s.entriesAt done base).map (·.roomId) =
      base :: (s.unmet done base).map (fun sid => base ++ "_" ++ sid) := by
  have hparent : s.parentAt done base = none := by
    rw [Option.eq_none_iff_forall_ne_some]
    intro b hb
    exact parentAt_source hb ((isSource_iff _).2 (mem_sourceStreams h).2)
  rw [entriesAt, if_neg (mem_sourceStreams h).2.1, hparent, List.map_cons, List.map_map]
  rfl

end Walk

/-- What the listing is for: every room once, and the room of a stream that is online listed with
its base, and not as a room of its own. -/
structure ExactListing (s : SignalingServer) (rooms : List RoomEntry) : Prop where
  once : (rooms.map (·.roomId)).Nodup
  present : ∀ id ∈ s.roomIds, ∃ e ∈ rooms, e.roomId = id
  video : ∀ base, ∀ sid ∈ s.sourceStreams base, base ++ "_" ++ sid ∈ s.roomIds →
    PskListing.entry (base ++ "_" ++ sid) "video" (some base) none ∈ rooms ∧
      ∀ e ∈ rooms, e.roomId = base ++ "_" ++ sid → e.kind ≠ "control"

/-- The rooms of streams come before their bases in the map, under ids without an underscore, and
the other streams are reported once. -/
def BasesLast (s : SignalingServer) : Prop :=
  ∀ base, ∀ sid ∈ s.sourceStreams base,
    if base ++ "_" ++ sid ∈ s.roomIds then
      '_' ∉ sid.toList ∧ base ++ "_" ++ sid ∈ before s.roomIds base
    else (s.sourceStreams base).count sid = 1

section Exact

variable {s : SignalingServer}

lemma streamRoom_ne {base sid : String} (h : sid ∈ s.sourceStreams base) : base ++ "_" ++ sid ≠ base := by
  intro heq
  apply (mem_sourceStreams h).2.2
  rw [← heq, streamRoom_toList]
  simp

lemma ExactListing.registered (h : ExactListing s s.pskListing) {base sid : String}
    (hsid : sid ∈ s.sourceStreams base) (hreg : base ++ "_" ++ sid ∈ s.roomIds) :
    '_' ∉ sid.toList ∧ base ++ "_" ++ sid ∈ before s.roomIds base := by
  obtain ⟨hbase, haudio, hplain⟩ := mem_sourceStreams hsid
  cases hparent : s.parentAt (before s.roomIds (base ++ "_" ++ sid)) (base ++ "_" ++ sid) with
  | none =>
      refine absurd rfl ((h.video base sid hsid hreg).2 (PskListing.entry (base ++ "_" ++ sid)
        "control" none (s.streamsOf.get (base ++ "_" ++ sid))) (mem_pskListing.2 ⟨_, hreg, ?_⟩) rfl)
      rw [entriesAt, if_neg (not_audio_streamRoom haudio), hparent]
      exact List.mem_cons_self
  | some b =>
      obtain ⟨hb, q, hq, hqp, heq⟩ := parentAt_eq_some.1 hparent
      obtain ⟨rfl, rfl⟩ := streamRoom_inj hplain (mem_sourceStreams hq).2.2 heq
      exact ⟨hqp, (mem_before_iff hreg hbase (streamRoom_ne hsid)).2 hb⟩

lemma ExactListing.unregistered (h : ExactListing s s.pskListing) {base sid : String}
    (hsid : sid ∈ s.sourceStreams base) (hreg : base ++ "_" ++ sid ∉ s.roomIds) :
    (s.sourceStreams base).count sid = 1 := by
  have honce := h.once
  rw [pskListing_eq, List.map_flatMap, List.nodup_flatMap] at honce
  have hblock := honce.1 base (mem_sourceStreams hsid).1
  rw [entriesAt_source hsid] at hblock
  have hunmet := ((List.nodup_cons.1 hblock).2).of_map
  have hmem : sid ∈ s.unmet (before s.roomIds base) base :=
    mem_unmet.2 ⟨hsid, fun hd => hreg ((List.takeWhile_prefix _).subset hd.1)⟩
  rw [← List.count_eq_one_of_mem hunmet hmem, unmet]
  refine (List.count_filter ?_).symm
  exact (List.mem_filter.1 hmem).2

lemma BasesLast.unmet (h : BasesLast s) {id sid : String}
    (hsid : sid ∈ s.unmet (before s.roomIds id) id) :
    id ++ "_" ++ sid ∉ s.roomIds ∧ (s.sourceStreams id).count sid = 1 := by
  obtain ⟨hmem, hno⟩ := mem_unmet.1 hsid
  have hc := h id sid hmem
  split at hc
  next => exact absurd hc.symm hno
  next hreg => exact ⟨hreg, hc⟩

lemma BasesLast.ids_nodup (h : BasesLast s) (id : String) (hid : id ∈ s.roomIds) :
    ((s.entriesAt (before s.roomIds id) id).map (·.roomId)).Nodup := by
  rcases ids_entriesAt (s := s) (before s.roomIds id) id with heq | heq
  · rw [heq, List.nodup_cons]
    constructor
    · rw [List.mem_map]
      rintro ⟨sid, hsid, hname⟩
      apply (h.unmet hsid).1
      rw [hname]
      exact hid
    · apply List.Nodup.map
      · intro a b hab
        simpa using hab
      · rw [List.nodup_iff_count_le_one]
        intro sid
        by_cases hsid : sid ∈ s.unmet (before s.roomIds id) id
        · rw [← (h.unmet hsid).2]
          exact (List.filter_sublist).count_le sid
        · rw [List.count_eq_zero_of_not_mem hsid]
          exact Nat.zero_le 1
  · rw [heq]
    exact List.nodup_singleton id

lemma BasesLast.exact (h : BasesLast s) : ExactListing s s.pskListing where
  once := by
    rw [pskListing_eq, List.map_flatMap, List.nodup_flatMap]
    refine ⟨h.ids_nodup, s.roomIds_nodup.imp_of_mem ?_⟩
    intro a b ha hb hne x hxa hxb
    obtain ⟨e, he, rfl⟩ := List.mem_map.1 hxa
    obtain ⟨f, hf, hfe⟩ := List.mem_map.1 hxb
    rcases mem_entriesAt he with hea | ⟨sid, hsid, hea, _⟩
    · rcases mem_entriesAt hf with hfb | ⟨sid, hsid, hfb, _⟩
      · exact hne (hea.symm.trans (hfe.symm.trans hfb))
      · exact (h.unmet hsid).1 (hfb ▸ hfe ▸ hea ▸ ha)
    · rcases mem_entriesAt hf with hfb | ⟨sid', hsid', hfb, _⟩
      · exact (h.unmet hsid).1 (hea ▸ hfe ▸ hfb ▸ hb)
      · have hs := mem_sourceStreams (mem_unmet.1 hsid).1
        have hs' := mem_sourceStreams (mem_unmet.1 hsid').1
        exact hne (streamRoom_inj hs.2.2 hs'.2.2 (hea.symm.trans (hfe.symm.trans hfb))).1
  present id hid := by
    obtain ⟨e, he, heid⟩ := exists_entry (s := s) (before s.roomIds id) id
    exact ⟨e, mem_pskListing.2 ⟨id, hid, he⟩, heid⟩
  video base sid hsid hreg := by
    obtain ⟨hbase, haudio, hplain⟩ := mem_sourceStreams hsid
    have hc := h base sid hsid
    rw [if_pos hreg] at hc
    have hbefore := (mem_before_iff hreg hbase (streamRoom_ne hsid)).1 hc.2
    have hparent : s.parentAt (before s.roomIds (base ++ "_" ++ sid)) (base ++ "_" ++ sid) =
        some base := parentAt_eq_some.2 ⟨hbefore, sid, hsid, hc.1, rfl⟩
    have hown : s.entriesAt (before s.roomIds (base ++ "_" ++ sid)) (base ++ "_" ++ sid) =
        [PskListing.entry (base ++ "_" ++ sid) "video" (some base) none] := by
      rw [entriesAt, if_neg (not_audio_streamRoom haudio), hparent]
    refine ⟨mem_pskListing.2 ⟨_, hreg, by rw [hown]; exact List.mem_singleton_self _⟩, ?_⟩
    intro e he heid
    obtain ⟨id, hid, he⟩ := mem_pskListing.1 he
    rcases mem_entriesAt he with hid' | ⟨q, _, _, hkind⟩
    · obtain rfl : base ++ "_" ++ sid = id := heid.symm.trans hid'
      rw [hown, List.mem_singleton] at he
      rw [he]
      change "video" ≠ "control"
      decide
    · rw [hkind]
      decide

lemma pskDiscover_rooms {configured authorization : Option String} {rooms : List RoomEntry}
    (h : s.pskDiscover configured authorization = .ok (some rooms)) : rooms = s.pskListing := by
  rw [pskDiscover] at h
  split at h
  next => cases h
  next =>
    split at h
    next => cases h
    next =>
      split at h
      next => cases h
      next =>
        cases h
        rfl

theorem psk_listing_exact_iff (s : SignalingServer) (configured authorization : Option String)
    (rooms : List RoomEntry) (h : s.pskDiscover configured authorization = .ok (some rooms)) :
    ExactListing s rooms ↔ BasesLast s := by
  rw [pskDiscover_rooms h]
  constructor
  · intro he base sid hsid
    split_ifs with hreg
    · exact he.registered hsid hreg
    · exact he.unregistered hsid hreg
  · exact BasesLast.exact

def carAndStream (streamFirst : Bool) : SignalingServer :=
  { SignalingServer.init with
    roomManager :=
      if streamFirst then
        ((∅ : RoomManager).set "car1" ⟨some "h1", none, []⟩).set "car1_gen1" ⟨none, none, []⟩
      else ((∅ : RoomManager).set "car1_gen1" ⟨none, none, []⟩).set "car1" ⟨some "h1", none, []⟩
    statusRegistry := (∅ : FiniteMap String SignalingMessage).set "car1" gen1Report }

theorem psk_listing_stream_first :
    ExactListing (carAndStream true)
      [PskListing.entry "car1_gen1" "video" (some "car1") none,
        PskListing.entry "car1" "control" none (some ["gen1"])] := by
  refine (psk_listing_exact_iff _ (some "key") (some "Psk key") _ (by decide)).2 ?_
  intro base sid hsid
  obtain ⟨hbase, _, hplain⟩ := mem_sourceStreams hsid
  have hids : (carAndStream true).roomIds = ["car1_gen1", "car1"] := by decide
  have hone : (carAndStream true).sourceStreams "car1" = ["gen1"] := by decide
  rw [hids, List.mem_cons, List.mem_singleton] at hbase
  rcases hbase with rfl | rfl
  · exact absurd (by decide) hplain
  · rw [hone, List.mem_singleton] at hsid
    subst hsid
    decide

theorem psk_listing_base_first :
    ¬ ∀ s configured authorization rooms,
      s.pskDiscover configured authorization = .ok (some rooms) → ExactListing s rooms := by
  intro h
  have hrooms : (carAndStream false).pskDiscover (some "key") (some "Psk key") =
      .ok (some (carAndStream false).pskListing) := by decide
  have honce := (h _ _ _ _ hrooms).once
  revert honce
  decide

end Exact

end SignalingServer

end MediaServo.Server
