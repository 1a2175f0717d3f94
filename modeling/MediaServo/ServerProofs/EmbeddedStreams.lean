import MediaServo.ServerProofs.Discovery

/-! When the streams that are listed with a vehicle's room are those of its last report. -/

namespace MediaServo.Server

open MediaServo.Foundations MediaServo.Common

lemma rsplitOnce_base {base sid : String} :
    (rsplitOnce '_' (base ++ "_" ++ sid)).map Prod.fst = some base ↔ '_' ∉ sid.toList := by
  constructor
  · intro h
    obtain ⟨⟨b, q⟩, hsplit, rfl⟩ := Option.map_eq_some_iff.1 h
    obtain ⟨heq, hq⟩ := rsplitOnce_underscore hsplit
    obtain rfl := (String.append_right_inj _).1 heq
    exact hq
  · intro h
    rw [rsplitOnce_streamRoom h, Option.map_some]

namespace SignalingServer

section Room

variable (s : SignalingServer) (role : CockpitRole) (vehicles : List String)

def shownWith (id base : String) : List String :=
  ((s.derivedOf base).filter fun d =>
    ((rsplitOnce '_' d.room).map (·.1 == id)).getD false &&
      roomVisible role vehicles (some d.owner)).map (·.sid)

def lent (id : String) : List String :=
  (s.roomIds.erase id).flatMap (s.shownWith role vehicles id)

variable {s role vehicles}

lemma visibleStreams_perm {id : String} (hid : id ∈ s.roomIds) :
    (s.visibleStreams role vehicles id).Perm
      (s.shownWith role vehicles id id ++ s.lent role vehicles id) := by
  have hflat : s.visibleStreams role vehicles id =
      s.roomIds.flatMap (s.shownWith role vehicles id) := by
    rw [visibleStreams, derived, List.filter_flatMap, List.map_flatMap]
    rfl
  rw [hflat, lent, ← List.flatMap_cons]
  exact (List.perm_cons_erase hid).flatMap_right _

lemma base_eq_iff (id : String) (room : String) :
    ((rsplitOnce '_' room).map (·.1 == id)).getD false = true ↔
      (rsplitOnce '_' room).map Prod.fst = some id := by
  cases rsplitOnce '_' room <;> simp

lemma shownWith_self {id owner : String} (haudio : ¬startsWith id "audio-")
    (howner : s.roomOwnerOf id = some owner) (hvisible : roomVisible role vehicles (some owner)) :
    s.shownWith role vehicles id id =
      (onlineStreamIds s.statusRegistry id).filter ('_' ∉ ·.toList) := by
  rw [shownWith, derivedOf, if_neg haudio, howner, List.filter_map, List.map_map]
  have hsplit : ∀ sid, ((rsplitOnce '_' (id ++ "_" ++ sid)).map (·.1 == id)).getD false =
      decide ('_' ∉ sid.toList) := by
    intro sid
    rw [Bool.eq_iff_iff, base_eq_iff, rsplitOnce_base, decide_eq_true_iff]
  simp only [Function.comp_def, hsplit, hvisible, Bool.and_true, List.map_id']

lemma lent_underscore {id sid : String} (h : sid ∈ s.lent role vehicles id) :
    '_' ∈ sid.toList := by
  obtain ⟨base, hbase, hsid⟩ := List.mem_flatMap.1 h
  have hne : base ≠ id := ((List.Nodup.mem_erase_iff s.roomManager.keys_nodup).1 hbase).1
  obtain ⟨d, hd, rfl⟩ := List.mem_map.1 hsid
  rw [List.mem_filter, Bool.and_eq_true, base_eq_iff] at hd
  obtain ⟨hd, hsplit, _⟩ := hd
  by_contra hplain
  rw [(mem_derivedOf.1 hd).2.2.2, rsplitOnce_streamRoom hplain] at hsplit
  exact hne (Option.some.inj hsplit)

/-- The report of a room, in the entry of the room. -/
def Embeds (streams reported : List String) : Prop :=
  streams.Nodup ∧ ∀ sid, sid ∈ streams ↔ sid ∈ reported

/-- The ids without an underscore are reported once, and those with one are what the rooms of other
vehicles lend, each once. -/
def Fits (s : SignalingServer) (role : CockpitRole) (vehicles : List String) (id : String) : Prop :=
  ((onlineStreamIds s.statusRegistry id).filter ('_' ∉ ·.toList)).Nodup ∧
    (s.lent role vehicles id).Nodup ∧
    ∀ sid, sid ∈ s.lent role vehicles id ↔
      sid ∈ onlineStreamIds s.statusRegistry id ∧ '_' ∈ sid.toList

lemma embeds_iff {id owner : String} (hid : id ∈ s.roomIds) (haudio : ¬startsWith id "audio-")
    (howner : s.roomOwnerOf id = some owner) (hvisible : roomVisible role vehicles (some owner)) :
    Embeds (s.visibleStreams role vehicles id) (onlineStreamIds s.statusRegistry id) ↔
      s.Fits role vehicles id := by
  have hperm : (s.visibleStreams role vehicles id).Perm
      (s.shownWith role vehicles id id ++ s.lent role vehicles id) := visibleStreams_perm hid
  rw [shownWith_self haudio howner hvisible] at hperm
  have hlent : ∀ sid ∈ s.lent role vehicles id, '_' ∈ sid.toList := fun _ h => lent_underscore h
  rw [Embeds, Fits, hperm.nodup_iff, List.nodup_append, and_assoc, and_assoc]
  refine and_congr_right fun _ => and_congr_right fun _ => ?_
  simp only [hperm.mem_iff, List.mem_append, List.mem_filter, decide_eq_true_iff]
  constructor
  · rintro ⟨_, h⟩ sid
    constructor
    · exact fun hsid => ⟨(h sid).1 (.inr hsid), hlent sid hsid⟩
    · rintro ⟨hsid, hplain⟩
      exact ((h sid).2 hsid).resolve_left fun hown => hown.2 hplain
  · intro h
    constructor
    · rintro a ⟨_, ha⟩ b hb rfl
      exact ha (hlent a hb)
    · intro sid
      constructor
      · rintro (hsid | hsid)
        · exact hsid.1
        · exact ((h sid).1 hsid).1
      · intro hsid
        by_cases hplain : '_' ∈ sid.toList
        · exact .inr ((h sid).2 ⟨hsid, hplain⟩)
        · exact .inl ⟨hsid, hplain⟩

lemma control_entry {id : String} {e : RoomEntry} (h : s.roomEntry role vehicles id = some e)
    (hkind : e.kind = "control") :
    e.roomId = id ∧ e.streams.getD [] = s.visibleStreams role vehicles id ∧
      ¬startsWith id "audio-" ∧ ∃ owner, s.roomOwnerOf id = some owner ∧
        roomVisible role vehicles (some owner) := by
  rw [roomEntry] at h
  split at h
  · split at h
    · cases h
      change "video" = "control" at hkind
      exact absurd hkind (by decide)
    · cases h
  · dsimp only at h
    split at h
    next hvisible =>
      cases h
      refine ⟨rfl, ?_, ?_, ?_⟩
      · dsimp only
        split
        next hempty => rw [Option.getD_none, List.isEmpty_iff.1 hempty]
        next => rw [Option.getD_some]
      · intro haudio
        rw [roomKind, if_pos haudio] at hkind
        change "audio" = "control" at hkind
        exact absurd hkind (by decide)
      · cases howner : s.roomOwnerOf id with
        | none =>
            rw [howner] at hvisible
            cases hvisible
        | some owner => exact ⟨owner, rfl, howner ▸ hvisible⟩
    next => cases h

end Room

end SignalingServer

lemma listRooms_entry {s : SignalingServer} {accounts : FiniteMap String AccountEntry}
    {claims : JwtClaims} {role : CockpitRole} {entries : List RoomEntry}
    (hrole : claims.role.bind CockpitRole.parse = some role)
    (h : listRooms s accounts claims = .ok entries) {e : RoomEntry} (he : e ∈ entries) :
    ∃ id ∈ s.roomIds, s.roomEntry role (allowlist accounts claims) id = some e := by
  rw [listRooms, hrole] at h
  rw [allowlist]
  cases haccount : accounts.get claims.sub with
  | some a =>
      simp only [haccount] at h
      split at h
      next => cases h
      next =>
        cases h
        exact List.mem_filterMap.1 he
  | none =>
      cases hkey : apikeyVehicles claims with
      | some v =>
          simp only [haccount, hkey] at h
          cases h
          exact List.mem_filterMap.1 he
      | none =>
          simp only [haccount, hkey] at h
          split at h
          next =>
            cases h
            exact List.mem_filterMap.1 he
          next =>
            cases h
            cases he

theorem embedded_streams_exact_iff (s : SignalingServer) (accounts : FiniteMap String AccountEntry)
    (claims : JwtClaims) (role : CockpitRole) (hrole : claims.role.bind CockpitRole.parse = some role)
    (entries : List RoomEntry) (hlist : listRooms s accounts claims = .ok entries)
    (e : RoomEntry) (he : e ∈ entries) (hkind : e.kind = "control") :
    SignalingServer.Embeds (e.streams.getD []) (onlineStreamIds s.statusRegistry e.roomId) ↔
      s.Fits role (allowlist accounts claims) e.roomId := by
  obtain ⟨id, hid, hentry⟩ := listRooms_entry hrole hlist he
  obtain ⟨rfl, hstreams, haudio, owner, howner, hvisible⟩ :=
    SignalingServer.control_entry hentry hkind
  rw [hstreams]
  exact SignalingServer.embeds_iff hid haudio howner hvisible

section OneStream

def reportOf (sid : String) : SignalingMessage :=
  .statusReport "car1" [] [⟨sid, 0, 0, 0, 0, true⟩] [] ⟨false, none, "", [], 0⟩ 0 0 none none none none

def oneStream (sid : String) : SignalingServer :=
  { SignalingServer.init with
    roomManager := (∅ : RoomManager).set "car1" ⟨some "h1", none, []⟩
    roomOwners := (∅ : FiniteMap String String).set "car1" "ms-car1"
    statusRegistry := (∅ : FiniteMap String SignalingMessage).set "car1" (reportOf sid) }

lemma oneStream_fits : (oneStream "gen1").Fits .viewer ["ms-car1"] "car1" := by
  have hlent : (oneStream "gen1").lent .viewer ["ms-car1"] "car1" = [] := by decide
  have honline : onlineStreamIds (oneStream "gen1").statusRegistry "car1" = ["gen1"] := by decide
  rw [SignalingServer.Fits, hlent, honline]
  simp

theorem embedded_streams_plain :
    SignalingServer.Embeds ["gen1"] (onlineStreamIds (oneStream "gen1").statusRegistry "car1") :=
  (embedded_streams_exact_iff (oneStream "gen1") (viewerAccount ["ms-car1"]) viewerClaims .viewer rfl
    [⟨"car1", "control", none, some ["gen1"]⟩] (by decide) _ (List.mem_singleton_self _) rfl).2
    oneStream_fits

theorem embedded_streams_underscore :
    ¬ ∀ s accounts claims entries, listRooms s accounts claims = .ok entries →
      ∀ e ∈ entries, e.kind = "control" →
        SignalingServer.Embeds (e.streams.getD []) (onlineStreamIds s.statusRegistry e.roomId) := by
  intro h
  have hlist : listRooms (oneStream "cam_1") (viewerAccount ["ms-car1"]) viewerClaims =
      .ok [⟨"car1", "control", none, none⟩] := by decide
  have hmem := (h _ _ _ _ hlist _ (List.mem_singleton_self _) rfl).2 "cam_1"
  revert hmem
  decide

end OneStream

end MediaServo.Server
