import MediaServo.Server.DeviceList

namespace MediaServo.Server

open MediaServo.Foundations MediaServo.Common

section Devices

variable {status : FiniteMap String SignalingMessage}

lemma update_deviceId (e : DeviceSnapshot) (r : RoomRecord) :
    (e.update status r).deviceId = e.deviceId := by
  simp only [DeviceSnapshot.update]
  split_ifs <;> rfl

lemma update_onlineSince (e : DeviceSnapshot) (r : RoomRecord) :
    (e.update status r).onlineSince = min e.onlineSince r.createdAt := by
  simp only [DeviceSnapshot.update]
  split_ifs <;> grind

lemma update_streams (e : DeviceSnapshot) (r : RoomRecord) :
    (e.update status r).streams =
      if r.reportStreams status = [] then e.streams else r.reportStreams status := by
  simp only [DeviceSnapshot.update, List.isEmpty_iff]
  split_ifs <;> rfl

variable (status)

def visitAt (d : String) (entry : Option DeviceSnapshot) (r : RoomRecord) : Option DeviceSnapshot :=
  if r.device = d then some ((entry.getD ⟨d, r.createdAt, []⟩).update status r) else entry

/-- Rooms of one device do not report different streams. -/
def Agree (rooms : List RoomRecord) : Prop :=
  ∀ r ∈ rooms, ∀ r' ∈ rooms, r.device = r'.device → r.reportStreams status ≠ [] →
    r'.reportStreams status ≠ [] → r.reportStreams status = r'.reportStreams status

variable {status}

lemma get_foldl_visit (rooms : List RoomRecord) (devices : FiniteMap String DeviceSnapshot)
    (d : String) :
    (rooms.foldl (visitDevice status) devices).get d =
      rooms.foldl (visitAt status d) (devices.get d) := by
  induction rooms generalizing devices with
  | nil => rfl
  | cons r rooms ih =>
      rw [List.foldl_cons, List.foldl_cons, ih, visitDevice, FiniteMap.get_set, visitAt]
      by_cases h : r.device = d
      · subst h
        rw [if_pos rfl]
      · rw [if_neg (Ne.symm h), if_neg h]

lemma visitAt_deviceId {rooms : List RoomRecord} {d : String} {o : Option DeviceSnapshot}
    (ho : ∀ e, o = some e → e.deviceId = d) {e : DeviceSnapshot}
    (h : rooms.foldl (visitAt status d) o = some e) : e.deviceId = d := by
  induction rooms generalizing o with
  | nil => exact ho e h
  | cons r rooms ih =>
      refine ih ?_ h
      intro e he
      rw [visitAt] at he
      split_ifs at he
      · cases he
        rw [update_deviceId]
        cases o with
        | none => rfl
        | some e => exact ho e rfl
      · exact ho e he

lemma mem_listDevices {rooms : List RoomRecord} {e : DeviceSnapshot} :
    e ∈ listDevices status rooms ↔ rooms.foldl (visitAt status e.deviceId) none = some e := by
  have hget (d : String) : (rooms.foldl (visitDevice status) ∅).get d =
      rooms.foldl (visitAt status d) ((∅ : FiniteMap String DeviceSnapshot).get d) :=
    get_foldl_visit rooms ∅ d
  simp only [FiniteMap.get_empty] at hget
  simp only [listDevices, List.mem_map, Prod.exists, FiniteMap.mem_toList, hget]
  constructor
  · rintro ⟨d, e, he, rfl⟩
    have hd := visitAt_deviceId (by simp) he
    rw [hd]
    exact he
  · exact fun he => ⟨_, e, he, rfl⟩

lemma visitAt_comm {rooms : List RoomRecord} (h : Agree status rooms) {d : String}
    {a b : RoomRecord} (ha : a ∈ rooms) (hb : b ∈ rooms) (o : Option DeviceSnapshot) :
    visitAt status d (visitAt status d o a) b = visitAt status d (visitAt status d o b) a := by
  by_cases hda : a.device = d
  · by_cases hdb : b.device = d
    · have hagree := h a ha b hb (hda.trans hdb.symm)
      simp only [visitAt, if_pos hda, if_pos hdb, Option.getD_some, Option.some.injEq]
      apply DeviceSnapshot.ext
      · simp only [update_deviceId]
        cases o <;> rfl
      · simp only [update_onlineSince]
        cases o <;> simp only [Option.getD_none, Option.getD_some] <;> omega
      · simp only [update_streams]
        by_cases hra : a.reportStreams status = []
        · simp [hra]
          cases o <;> rfl
        · by_cases hrb : b.reportStreams status = []
          · simp [hra, hrb]
          · simp [hrb, hagree hra hrb]
    · simp only [visitAt, if_pos hda, if_neg hdb]
  · simp only [visitAt, if_neg hda]

lemma foldl_last {rooms : List RoomRecord} {r : RoomRecord} (hr : r.reportStreams status ≠ []) :
    ∃ e, (rooms ++ [r]).foldl (visitAt status r.device) none = some e ∧
      e.streams = r.reportStreams status := by
  rw [List.foldl_concat, visitAt, if_pos rfl]
  exact ⟨_, rfl, by rw [update_streams, if_neg hr]⟩

variable (status)

/-- The list is the same set of devices in whatever order the map gives the rooms. -/
def OrderFree (rooms : List RoomRecord) : Prop :=
  ∀ rooms' : List RoomRecord, rooms'.Perm rooms →
    ∀ e, e ∈ listDevices status rooms' ↔ e ∈ listDevices status rooms

variable {status}

lemma OrderFree.foldl_eq {rooms l l' : List RoomRecord} (h : OrderFree status rooms)
    (hl : l.Perm rooms) (hl' : l'.Perm rooms) {d : String} {e e' : DeviceSnapshot}
    (he : l.foldl (visitAt status d) none = some e)
    (he' : l'.foldl (visitAt status d) none = some e') : e = e' := by
  obtain rfl := visitAt_deviceId (by simp) he
  have hmem := (h l' hl' e).2 ((h l hl e).1 (mem_listDevices.2 he))
  rw [mem_listDevices, he'] at hmem
  exact (Option.some.inj hmem).symm

theorem device_list_order_free_iff (status : FiniteMap String SignalingMessage)
    (rooms : List RoomRecord) : OrderFree status rooms ↔ Agree status rooms := by
  constructor
  · intro h r hr r' hr' hdevice hne hne'
    obtain ⟨e, he, hstreams⟩ : ∃ e, (rooms.erase r ++ [r]).foldl (visitAt status r.device) none =
        some e ∧ e.streams = r.reportStreams status := foldl_last hne
    obtain ⟨e', he', hstreams'⟩ : ∃ e, (rooms.erase r' ++ [r']).foldl (visitAt status r'.device) none =
        some e ∧ e.streams = r'.reportStreams status := foldl_last hne'
    rw [← hdevice] at he'
    have hlast : ∀ x ∈ rooms, (rooms.erase x ++ [x]).Perm rooms := fun x hx =>
      List.perm_append_comm.trans (List.perm_cons_erase hx).symm
    obtain rfl := h.foldl_eq (hlast r hr) (hlast r' hr') he he'
    exact hstreams.symm.trans hstreams'
  · intro h rooms' hp e
    rw [mem_listDevices, mem_listDevices]
    have hfold : rooms'.foldl (visitAt status e.deviceId) none =
        rooms.foldl (visitAt status e.deviceId) none := by
      apply hp.foldl_eq'
      intro a ha b hb o
      exact visitAt_comm h (hp.mem_iff.1 ha) (hp.mem_iff.1 hb) o
    rw [hfold]

def vehicleReport (sid : String) : SignalingMessage :=
  .statusReport "" [] [⟨sid, 0, 0, 0, 0, true⟩] [] ⟨false, none, "", [], 0⟩ 0 0 none none none none

def splitAlike : List RoomRecord := [⟨"car_1", none, [], 0⟩, ⟨"car_2", none, [], 1⟩]

def splitAlikeReports : FiniteMap String SignalingMessage :=
  ((∅ : FiniteMap String SignalingMessage).set "car_1" (vehicleReport "front")).set "car_2"
    (vehicleReport "rear")

theorem device_list_last_report_wins : ¬ ∀ status rooms, OrderFree status rooms := by
  intro h
  have hswap : splitAlike.reverse.Perm splitAlike := List.reverse_perm _
  have hmem := h splitAlikeReports splitAlike _ hswap ⟨"car", 0, [⟨"front", [], true⟩]⟩
  revert hmem
  decide

end Devices

end MediaServo.Server
