import MediaServo.Server.Discovery

/-! When the rooms that an account is shown are rooms that it may join. -/

namespace MediaServo.Server

open MediaServo.Foundations MediaServo.Common

lemma streamRoom_toList (base sid : String) :
    (base ++ "_" ++ sid).toList = base.toList ++ '_' :: sid.toList := by
  simp

lemma rsplitOnce_streamRoom {base sid : String} (h : '_' ∉ sid.toList) :
    rsplitOnce '_' (base ++ "_" ++ sid) = some (base, sid) := by
  rw [rsplitOnce, streamRoom_toList, Lines.rsplitOnce_append h]
  simp

lemma rsplitOnce_underscore {id base sid : String} (h : rsplitOnce '_' id = some (base, sid)) :
    id = base ++ "_" ++ sid ∧ '_' ∉ sid.toList := by
  rw [rsplitOnce, Option.map_eq_some_iff] at h
  obtain ⟨⟨a, b⟩, hab, heq⟩ := h
  obtain ⟨rfl, rfl⟩ := Prod.mk.inj heq
  obtain ⟨hid, hb⟩ := Lines.rsplitOnce_eq hab
  refine ⟨?_, by simpa using hb⟩
  apply String.toList_injective
  simpa using hid

namespace SignalingServer

variable (s : SignalingServer)

/-- The vehicle that a room is shown for: the vehicle of its base room when the room is that of a
connected stream, and its own otherwise. -/
def vehicleOf (id : String) : Option String :=
  match rsplitOnce '_' id with
  | some (base, sid) =>
      if base ∈ s.roomIds ∧ ¬startsWith id "audio-" ∧ ¬startsWith base "audio-" ∧
          (s.roomOwnerOf base).isSome ∧ sid ∈ onlineStreamIds s.statusRegistry base then
        s.roomOwnerOf base
      else s.roomOwnerOf id
  | none => s.roomOwnerOf id

variable {s}

lemma mem_derivedOf {base : String} {d : Derived} :
    d ∈ s.derivedOf base ↔ ¬startsWith base "audio-" ∧ s.roomOwnerOf base = some d.owner ∧
      d.sid ∈ onlineStreamIds s.statusRegistry base ∧ d.room = base ++ "_" ++ d.sid := by
  simp only [derivedOf]
  split
  next haudio => simp [haudio]
  next haudio =>
    split
    next howner => simp [howner]
    next owner howner =>
      rcases d with ⟨room, o, sid⟩
      simp only [List.mem_map, Derived.mk.injEq, howner, Option.some.injEq]
      refine ⟨?_, ?_⟩
      · rintro ⟨sid', hsid, rfl, rfl, rfl⟩
        exact ⟨haudio, rfl, hsid, rfl⟩
      · rintro ⟨-, rfl, hsid, rfl⟩
        exact ⟨sid, hsid, rfl, rfl, rfl⟩

lemma mem_derived {d : Derived} :
    d ∈ s.derived ↔ ∃ base ∈ s.roomIds, ¬startsWith base "audio-" ∧
      s.roomOwnerOf base = some d.owner ∧ d.sid ∈ onlineStreamIds s.statusRegistry base ∧
        d.room = base ++ "_" ++ d.sid := by
  simp only [derived, List.mem_flatMap, mem_derivedOf]

lemma derivedRoom_owner (id : String) :
    (match s.derivedRoom id with
      | some (_, d) => some d.owner
      | none => s.roomOwnerOf id) = s.vehicleOf id := by
  simp only [derivedRoom, vehicleOf]
  cases hsplit : rsplitOnce '_' id with
  | none => rfl
  | some p =>
    obtain ⟨base, sid⟩ := p
    have hid : id = base ++ "_" ++ sid := (rsplitOnce_underscore hsplit).1
    simp only
    by_cases haudio : startsWith id "audio-"
    · simp [haudio]
    cases hfind : s.derived.find? (fun d => d.room == id && d.sid == sid) with
    | some d =>
      have hd := List.find?_some hfind
      simp only [Bool.and_eq_true, beq_iff_eq] at hd
      obtain ⟨b, hb, hba, howner, hsid, hroom⟩ := mem_derived.1 (List.mem_of_find?_eq_some hfind)
      have hbase : b = base := by
        rw [hd.1, hd.2, hid] at hroom
        exact ((String.append_left_inj _).mp ((String.append_left_inj _).mp hroom)).symm
      subst hbase
      rw [hd.2] at hsid
      simp [haudio, hb, hba, howner, hsid]
    | none =>
      rw [List.find?_eq_none] at hfind
      have hnot : ¬(base ∈ s.roomIds ∧ ¬startsWith id "audio-" ∧ ¬startsWith base "audio-" ∧
          (s.roomOwnerOf base).isSome ∧ sid ∈ onlineStreamIds s.statusRegistry base) := by
        rintro ⟨hb, -, hba, howner, hsid⟩
        obtain ⟨o, ho⟩ := Option.isSome_iff_exists.mp howner
        exact hfind ⟨id, o, sid⟩ (mem_derived.2 ⟨base, hb, hba, ho, hsid, hid⟩) (by simp)
      rw [if_neg hnot, if_neg haudio, Option.map_none]

lemma mem_roomEntries {role : CockpitRole} {vehicles : List String} {e : RoomEntry} :
    (∃ id ∈ s.roomIds, s.roomEntry role vehicles id = some e) →
      e.roomId ∈ s.roomIds ∧ roomVisible role vehicles (s.vehicleOf e.roomId) := by
  rintro ⟨id, hid, he⟩
  rw [← derivedRoom_owner]
  simp only [roomEntry] at he
  split at he
  next base d hd =>
    split at he
    next hvisible =>
      cases he
      exact ⟨hid, by rw [hd]; exact hvisible⟩
    next => cases he
  next hd =>
    split at he
    next hvisible =>
      cases he
      exact ⟨hid, by rw [hd]; exact hvisible⟩
    next => cases he

lemma exists_roomEntry {role : CockpitRole} {vehicles : List String} {id : String}
    (h : roomVisible role vehicles (s.vehicleOf id)) :
    ∃ e, s.roomEntry role vehicles id = some e ∧ e.roomId = id := by
  rw [← derivedRoom_owner] at h
  simp only [roomEntry]
  split
  next base d hd =>
    rw [hd] at h
    exact ⟨_, if_pos h, rfl⟩
  next hd =>
    rw [hd] at h
    exact ⟨_, if_pos h, rfl⟩

end SignalingServer

/-- The allowlist that the list goes by: that of the account as it is now, or that of an API
key's token. -/
def allowlist (accounts : FiniteMap String AccountEntry) (claims : JwtClaims) : List String :=
  match accounts.get claims.sub with
  | some a => a.vehicles
  | none => (apikeyVehicles claims).getD []

lemma roomVisible_iff {role : CockpitRole} (h : ¬role.privileged) {vehicles : List String}
    {owner : Option String} :
    roomVisible role vehicles owner ↔ ∃ v ∈ vehicles, owner = some v := by
  cases owner with
  | none => simp [roomVisible]
  | some o => cases role <;> simp_all [roomVisible, CockpitRole.privileged, CockpitRole.canPull]

lemma mem_listRooms {s : SignalingServer} {accounts : FiniteMap String AccountEntry}
    {claims : JwtClaims} {role : CockpitRole} {entries : List RoomEntry}
    (hrole : claims.role.bind CockpitRole.parse = some role) (hp : ¬role.privileged)
    (h : listRooms s accounts claims = .ok entries) (id : String) :
    (∃ e ∈ entries, e.roomId = id) ↔
      id ∈ s.roomIds ∧ ∃ v ∈ allowlist accounts claims, s.vehicleOf id = some v := by
  have hentries : ∀ vehicles, entries = s.roomIds.filterMap (s.roomEntry role vehicles) →
      ((∃ e ∈ entries, e.roomId = id) ↔
        id ∈ s.roomIds ∧ ∃ v ∈ vehicles, s.vehicleOf id = some v) := by
    rintro vehicles rfl
    simp only [List.mem_filterMap, ← roomVisible_iff hp]
    refine ⟨?_, ?_⟩
    · rintro ⟨e, he, rfl⟩
      exact SignalingServer.mem_roomEntries he
    · rintro ⟨hid, hvisible⟩
      obtain ⟨e, he, heid⟩ := SignalingServer.exists_roomEntry hvisible
      exact ⟨e, ⟨id, hid, he⟩, heid⟩
  simp only [listRooms, hrole] at h
  simp only [allowlist]
  cases haccount : accounts.get claims.sub with
  | some a =>
    simp only [haccount] at h
    split at h
    next => cases h
    next =>
      cases h
      exact hentries _ rfl
  | none =>
    cases hkey : apikeyVehicles claims with
    | some v =>
      simp only [haccount, hkey] at h
      cases h
      exact hentries _ rfl
    | none =>
      simp only [haccount, hkey, if_neg hp] at h
      cases h
      simp

def CockpitRole.MayTake (role : CockpitRole) : PeerRole → Prop
  | .host => False
  | .remote => role.canControl
  | .consumer => True

/-- A RoomJoin on a connection that came with the token. -/
structure TokenJoin (cfg : AuthConfig) (token roomId : String) (q : JoinRequest) : Prop where
  account : ∃ uuid a, cfg.jwtPhase uuid (some token) = some (.ok (q.peerId, some a)) ∧
    q.identity = .account a ∧ a.role.MayTake q.role
  room : q.roomId = roomId

lemma gateDenied_account {s : SignalingServer} {q : JoinRequest} {a : AccountIdentity}
    (hq : q.identity = .account a) (hrole : a.role.MayTake q.role) (peerId : String) :
    s.gateDenied q peerId = none ↔
      ∀ o, s.roomOwnerOf q.roomId = some o → a.canAccessVehicle o := by
  have hhost : ¬(q.role = .host ∧ q.identity.hostJoinDenied.isSome) := by
    rintro ⟨hh, -⟩
    rw [hh] at hrole
    exact hrole
  have hremote : ¬(q.role = .remote ∧ ¬q.identity.canControl) := by
    rintro ⟨hr, hc⟩
    rw [hr] at hrole
    rw [hq] at hc
    exact hc hrole
  rw [SignalingServer.gateDenied, if_neg hhost, if_neg hremote, hq]
  cases s.roomOwnerOf q.roomId with
  | none => simp
  | some o =>
    simp only [SessionIdentity.joinVehicleRoom, Option.map_eq_none_iff, Option.some.injEq,
      forall_eq']
    split <;> simp_all

section Token

variable {cfg : AuthConfig} {verify : String → Except String JwtClaims} {token : String}
  {claims : JwtClaims} {role : CockpitRole}

lemma jwtPhase_account (hcfg : cfg.jwtAuth = some verify) (hverify : verify token = .ok claims)
    (hrole : claims.role.bind CockpitRole.parse = some role) (uuid : String) :
    cfg.jwtPhase uuid (some token) = some (.ok (AuthConfig.accountPeerId claims.sub uuid,
      some ⟨claims.sub, role, claims.vehicles.getD []⟩)) := by
  obtain ⟨r, hr, hparse⟩ := Option.bind_eq_some_iff.mp hrole
  simp [AuthConfig.jwtPhase, hcfg, hverify, hr, hparse]

lemma joinable_iff (hcfg : cfg.jwtAuth = some verify) (hverify : verify token = .ok claims)
    (hrole : claims.role.bind CockpitRole.parse = some role) (s : SignalingServer)
    (roomId : String) :
    (∀ q, TokenJoin cfg token roomId q → s.gateDenied q q.peerId = none) ↔
      ∀ o, s.roomOwnerOf roomId = some o → role.canPull o (claims.vehicles.getD []) := by
  refine ⟨?_, ?_⟩
  · intro h
    have hjoin := h ⟨AuthConfig.accountPeerId claims.sub "",
      .account ⟨claims.sub, role, claims.vehicles.getD []⟩, roomId, .consumer, none, none⟩
      ⟨⟨"", _, jwtPhase_account hcfg hverify hrole "", rfl, trivial⟩, rfl⟩
    exact (gateDenied_account rfl (by trivial) _).mp hjoin
  · rintro h q ⟨⟨uuid, a, hphase, hq, htake⟩, rfl⟩
    rw [jwtPhase_account hcfg hverify hrole uuid] at hphase
    simp only [Option.some.injEq, Except.ok.injEq, Prod.mk.injEq] at hphase
    obtain ⟨-, rfl⟩ := hphase
    exact (gateDenied_account hq htake _).mpr h

lemma canPull_iff (hp : ¬role.privileged) {o : String} {allowed : List String} :
    role.canPull o allowed ↔ o ∈ allowed := by
  cases role <;> simp_all [CockpitRole.privileged, CockpitRole.canPull]

theorem listed_rooms_joinable (hcfg : cfg.jwtAuth = some verify)
    (hverify : verify token = .ok claims)
    (hrole : claims.role.bind CockpitRole.parse = some role) (s : SignalingServer)
    (accounts : FiniteMap String AccountEntry) (entries : List RoomEntry)
    (hlist : listRooms s accounts claims = .ok entries) :
    (∀ e ∈ entries, ∀ q, TokenJoin cfg token e.roomId q → s.gateDenied q q.peerId = none) ↔
      (role.privileged ∨ ∀ id ∈ s.roomIds, ∀ v ∈ allowlist accounts claims,
        s.vehicleOf id = some v → ∀ o, s.roomOwnerOf id = some o →
          o ∈ claims.vehicles.getD []) := by
  simp only [joinable_iff hcfg hverify hrole]
  by_cases hp : role.privileged
  · refine ⟨fun _ => .inl hp, ?_⟩
    intro _ e _ o _
    cases role <;> simp_all [CockpitRole.privileged, CockpitRole.canPull]
  have hmem := mem_listRooms hrole hp hlist
  refine ⟨?_, ?_⟩
  · intro h
    refine .inr ?_
    intro id hid v hv hvehicle o ho
    obtain ⟨e, he, rfl⟩ := (hmem id).mpr ⟨hid, v, hv, hvehicle⟩
    exact (canPull_iff hp).mp (h e he o ho)
  · intro h e he o ho
    obtain hpriv | hall := h
    · exact absurd hpriv hp
    · obtain ⟨hid, v, hv, hvehicle⟩ := (hmem e.roomId).mp ⟨e, he, rfl⟩
      exact (canPull_iff hp).mpr (hall e.roomId hid v hv hvehicle o ho)

end Token

section Viewer

def viewerClaims : JwtClaims := ⟨"vera", 0, 3600, some "viewer", some ["ms-car1"]⟩

def viewerAuth : AuthConfig where
  psk := none
  jwtAuth := some fun t => if t = "token-of-vera" then .ok viewerClaims else .error "InvalidToken"
  hmacSha256 := fun _ _ => []

def viewerAccount (vehicles : List String) : FiniteMap String AccountEntry :=
  (∅ : FiniteMap String AccountEntry).set "vera" ⟨"sha256:0", .viewer, vehicles⟩

def viewerJoin (roomId : String) : JoinRequest :=
  ⟨AuthConfig.accountPeerId "vera" "", .account ⟨"vera", .viewer, ["ms-car1"]⟩, roomId, .consumer, none, none⟩

lemma viewerJoin_token (roomId : String) :
    TokenJoin viewerAuth "token-of-vera" roomId (viewerJoin roomId) :=
  ⟨⟨"", _, rfl, rfl, trivial⟩, rfl⟩

def gen1Report : SignalingMessage :=
  .statusReport "car1" [] [⟨"gen1", 0, 0, 0, 0, true⟩] [] ⟨false, none, "", [], 0⟩ 0 0 none none none none

def strayServer : SignalingServer :=
  { SignalingServer.init with
    roomManager := ((∅ : RoomManager).set "car1" ⟨some "h1", none, []⟩).set "car1_gen1" ⟨some "h2", none, []⟩
    roomOwners := ((∅ : FiniteMap String String).set "car1" "ms-car1").set "car1_gen1" "ms-car2"
    statusRegistry := (∅ : FiniteMap String SignalingMessage).set "car1" gen1Report }

def twoCars : SignalingServer :=
  { SignalingServer.init with
    roomManager := ((∅ : RoomManager).set "car1" ⟨some "h1", none, []⟩).set "car2" ⟨some "h2", none, []⟩
    roomOwners := ((∅ : FiniteMap String String).set "car1" "ms-car1").set "car2" "ms-car2" }

theorem listed_rooms_joinable_car1 :
    listRooms twoCars (viewerAccount ["ms-car1"]) viewerClaims =
        .ok [⟨"car1", "control", none, none⟩] ∧
      ∀ e ∈ [(⟨"car1", "control", none, none⟩ : RoomEntry)],
        ∀ q, TokenJoin viewerAuth "token-of-vera" e.roomId q →
          twoCars.gateDenied q q.peerId = none := by
  have hlist : listRooms twoCars (viewerAccount ["ms-car1"]) viewerClaims =
      .ok [⟨"car1", "control", none, none⟩] := by decide
  refine ⟨hlist, ?_⟩
  have hcond : ∀ id ∈ twoCars.roomIds, ∀ v ∈ allowlist (viewerAccount ["ms-car1"]) viewerClaims,
      twoCars.vehicleOf id = some v → ∀ o ∈ twoCars.roomOwnerOf id,
        o ∈ viewerClaims.vehicles.getD [] := by decide
  exact (listed_rooms_joinable rfl rfl rfl twoCars _ _ hlist).mpr (.inr hcond)

theorem listed_rooms_refused :
    (∃ e, listRooms strayServer (viewerAccount ["ms-car1"]) viewerClaims = .ok e ∧
      ∃ r ∈ e, ∃ q, TokenJoin viewerAuth "token-of-vera" r.roomId q ∧
        strayServer.gateDenied q q.peerId ≠ none) ∧
    ∃ e, listRooms twoCars (viewerAccount ["ms-car1", "ms-car2"]) viewerClaims = .ok e ∧
      ∃ r ∈ e, ∃ q, TokenJoin viewerAuth "token-of-vera" r.roomId q ∧
        twoCars.gateDenied q q.peerId ≠ none := by
  refine ⟨⟨[⟨"car1_gen1", "video", some "car1", none⟩, ⟨"car1", "control", none, some ["gen1"]⟩],
      by decide, ⟨"car1_gen1", "video", some "car1", none⟩, by simp,
      viewerJoin "car1_gen1", viewerJoin_token _, by decide⟩,
    [⟨"car2", "control", none, none⟩, ⟨"car1", "control", none, none⟩], by decide,
    ⟨"car2", "control", none, none⟩, by simp, viewerJoin "car2", viewerJoin_token _,
    by decide⟩

end Viewer

end MediaServo.Server
