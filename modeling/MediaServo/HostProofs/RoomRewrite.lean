import MediaServo.Host.Gateway

/-! A request on its way up through the gateway and its answer on the way down: which room each of
the two rewrites leaves in a message. -/

namespace MediaServo.Host

open MediaServo.Common

variable {m a : SignalingMessage} {room room' v c : String}

def passes (room target : String) : Bool :=
  startsWith room "audio-" || startsWith room (target ++ "_")

lemma msgRoomId_setRoom (h : msgRoomId m = some room) (target : String) :
    msgRoomId (setRoom target m) = some target := by
  cases m <;> first | rfl | cases h

lemma setRoom_setRoom (room room' : String) (m : SignalingMessage) :
    setRoom room (setRoom room' m) = setRoom room m := by
  cases m <;> rfl

lemma setRoom_self (h : msgRoomId m = some room) : setRoom room m = m := by
  cases m <;> first | rfl | (cases h; rfl)

lemma rewriteRoom_eq (h : msgRoomId m = some room) (target : String) :
    rewriteRoom m target = if passes room target then m else setRoom target m := by
  rw [rewriteRoom, h]
  simp only [passes, Bool.or_eq_true]

lemma msgRoomId_rewriteRoom (h : msgRoomId m = some room) (target : String) :
    msgRoomId (rewriteRoom m target) = some (if passes room target then room else target) := by
  rw [rewriteRoom_eq h]
  split
  · exact h
  · exact msgRoomId_setRoom h target

lemma setRoom_rewriteRoom (h : msgRoomId m = some room) (target : String) :
    setRoom room (rewriteRoom m target) = m := by
  rw [rewriteRoom_eq h]
  split
  · exact setRoom_self h
  · rw [setRoom_setRoom, setRoom_self h]

lemma rewriteRoom_idem (h : msgRoomId m = some room) (target : String) :
    rewriteRoom (rewriteRoom m target) target = rewriteRoom m target := by
  have hroom := msgRoomId_rewriteRoom h target
  by_cases hp : passes room target = true
  · rw [rewriteRoom_eq h, if_pos hp, rewriteRoom_eq h, if_pos hp]
  · rw [if_neg hp] at hroom
    have hself : setRoom target (rewriteRoom m target) = rewriteRoom m target := setRoom_self hroom
    rw [rewriteRoom_eq hroom, hself, ite_self]

/-- The room of a child comes back where the room of the vehicle is no audio room, and no sub-room of
the child's. -/
theorem room_round_trip_iff (v c : String) (m a : SignalingMessage) (hm : msgRoomId m = some c)
    (ha : msgRoomId a = msgRoomId (rewriteRoom m v)) :
    (setRoom c (rewriteRoom m v) = m ∧
      rewriteRoom (rewriteRoom m v) v = rewriteRoom m v ∧
      (startsWith c "audio-" = true ∨ startsWith c (v ++ "_") = true → rewriteRoom m v = m) ∧
      msgRoomId (rewriteRoom a c) = some c) ↔
    (startsWith c "audio-" = true ∨ startsWith c (v ++ "_") = true) ∨
      startsWith v "audio-" = false ∧ startsWith v (c ++ "_") = false := by
  have hpass : (startsWith c "audio-" = true ∨ startsWith c (v ++ "_") = true) ↔
      passes c v = true := by
    rw [passes, Bool.or_eq_true]
  have hback : (startsWith v "audio-" = false ∧ startsWith v (c ++ "_") = false) ↔
      passes v c = false := by
    rw [passes, Bool.or_eq_false_iff]
  rw [msgRoomId_rewriteRoom hm] at ha
  have hdown := msgRoomId_rewriteRoom ha c
  rw [hpass, hback, hdown, Option.some.injEq]
  rw [and_iff_right (setRoom_rewriteRoom hm v), and_iff_right (rewriteRoom_idem hm v)]
  cases hp : passes c v with
  | true => simp [hp, rewriteRoom_eq hm]
  | false =>
    cases hb : passes v c with
    | false => simp [hb]
    | true =>
      have hne : v ≠ c := by
        rintro rfl
        exact absurd (hb.symm.trans hp) (by decide)
      simp [hb, hne]

def dashboardCaps : SignalingMessage := .getRouterRtpCapabilities "front"

theorem front_round_trip :
    msgRoomId (rewriteRoom (.routerRtpCapabilities "car7" ⟨"caps"⟩) "front") = some "front" := by
  have h := room_round_trip_iff "car7" "front" dashboardCaps
    (.routerRtpCapabilities "car7" ⟨"caps"⟩) rfl (by decide)
  exact (h.mpr (Or.inr (by decide))).2.2.2

/-- A child of "car" behind the vehicle "car_7" is answered in the room of the vehicle. -/
theorem vehicle_in_sub_room :
    ¬(setRoom "car" (rewriteRoom (.getRouterRtpCapabilities "car") "car_7") =
        .getRouterRtpCapabilities "car" ∧
      rewriteRoom (rewriteRoom (.getRouterRtpCapabilities "car") "car_7") "car_7" =
        rewriteRoom (.getRouterRtpCapabilities "car") "car_7" ∧
      (startsWith "car" "audio-" = true ∨ startsWith "car" ("car_7" ++ "_") = true →
        rewriteRoom (.getRouterRtpCapabilities "car") "car_7" = .getRouterRtpCapabilities "car") ∧
      msgRoomId (rewriteRoom (.routerRtpCapabilities "car_7" ⟨"caps"⟩) "car") = some "car") := by
  intro ⟨_, _, _, h⟩
  exact absurd h (by decide)

end MediaServo.Host
