import MediaServo.Foundations.Calendar
import MediaServo.Weaknet.Timeline

/-! Time stamps against the calendar: the date of each is that of its day, no two instants have one
stamp, and stamps are in the order of their instants. -/

namespace MediaServo.Weaknet

open MediaServo.Foundations.Calendar
open MediaServo.Foundations.Digits

lemma yoe_eq {doe c q a s : ℕ} (hdoe : doe = 36524 * c + (1461 * q + (365 * a + s))) (hc : c < 4)
    (hq : 1461 * q + (365 * a + s) < 36524) (ha : a < 4) (hs : s < 365 ∨ s = 365 ∧ a = 3) :
    (doe - doe / 1460 + doe / 36524 - doe / 146096) / 365 = 100 * c + 4 * q + a := by
  have hcentury : doe / 36524 = c := by omega
  have hera : doe / 146096 = 0 := by omega
  obtain ⟨d, hfour, hd⟩ : ∃ d, doe / 1460 = 25 * c + q + d ∧
      (d = 0 ∧ 24 * c + q + (365 * a + s) < 1460 ∨ d = 1 ∧ 1460 ≤ 24 * c + q + (365 * a + s)) := by
    by_cases hlt : 24 * c + q + (365 * a + s) < 1460
    · exact ⟨0, by omega, .inl ⟨rfl, hlt⟩⟩
    · exact ⟨1, by omega, .inr ⟨rfl, by omega⟩⟩
  have hsum : doe - (25 * c + q + d) + c - 0 = 365 * (100 * c + 4 * q + a) + (s - d) := by omega
  rw [hcentury, hera, hfour, hsum]
  omega

lemma yoe_spec {doe : ℕ} (hdoe : doe < 146097) : ∃ c q a doy, c < 4 ∧ q < 25 ∧ a < 4 ∧
    (doe - doe / 1460 + doe / 36524 - doe / 146096) / 365 = 100 * c + 4 * q + a ∧
    doe = 365 * (100 * c + 4 * q + a) + (24 * c + q) + doy ∧
    (doy < 365 ∨ doy = 365 ∧ a = 3 ∧ (q = 24 → c = 3)) := by
  by_cases hlast : doe = 146096
  · subst hlast
    exact ⟨3, 24, 3, 365, by decide⟩
  · obtain ⟨c, q, a, s, hsum, hc, hq, ha, hs⟩ : ∃ c q a s,
        doe = 36524 * c + (1461 * q + (365 * a + s)) ∧ c < 4 ∧ 1461 * q + (365 * a + s) < 36524 ∧
          a < 4 ∧ (s < 365 ∨ s = 365 ∧ a = 3) := by
      by_cases hleap : doe % 36524 % 1461 = 1460
      · exact ⟨doe / 36524, doe % 36524 / 1461, 3, 365, by omega, by omega, by omega, by omega,
          by omega⟩
      · exact ⟨doe / 36524, doe % 36524 / 1461, doe % 36524 % 1461 / 365, doe % 36524 % 1461 % 365,
          by omega, by omega, by omega, by omega, by omega⟩
    exact ⟨c, q, a, s, hc, by omega, ha, yoe_eq hsum hc hq ha hs, by omega, by omega⟩

lemma daysBefore_eq (y : ℕ) {mp : ℕ} (hmp : mp < 10) :
    daysBefore y (mp + 3) = 59 + (if isLeap y then 1 else 0) + (153 * mp + 2) / 5 := by
  have hstep (m : ℕ) (hm : 1 ≤ m) := daysBefore_succ y hm
  have h1 : daysBefore y 1 = 0 := Finset.sum_empty
  have h3 : daysBefore y 3 = 59 + if isLeap y then 1 else 0 := by
    rw [hstep 2 (by decide), hstep 1 (by decide), h1]
    simp only [monthLength]
    split <;> rfl
  induction mp with
  | zero => exact h3
  | succ mp ih =>
    rw [Nat.add_right_comm, hstep (mp + 3) (by omega), ih (by omega)]
    have hlength : monthLength y (mp + 3) = (153 * (mp + 1) + 2) / 5 - (153 * mp + 2) / 5 := by
      have : mp < 9 := by omega
      interval_cases mp <;> rfl
    rw [hlength]
    omega

lemma leapsBefore_eq {era c q a : ℕ} (hc : c < 4) (hq : q < 25) (ha : a < 4) :
    leapsBefore (400 * era + 100 * c + 4 * q + a + 1) = 97 * era + 24 * c + q + 1 := by
  have hfour : (400 * era + 100 * c + 4 * q + a + 1 + 3) / 4 = 100 * era + 25 * c + q + 1 := by omega
  have hcentury : (400 * era + 100 * c + 4 * q + a + 1 + 99) / 100 = 4 * era + c + 1 := by omega
  have hera : (400 * era + 100 * c + 4 * q + a + 1 + 399) / 400 = era + 1 := by omega
  rw [leapsBefore, hfour, hcentury, hera]
  omega

lemma civil_run {n era c q a doy doe : ℕ} (hq : q < 25) (ha : a < 4)
    (hn : n + 719468 = 146097 * era + doe) (hdoe : doe < 146097)
    (hsum : doe = 365 * (100 * c + 4 * q + a) + (24 * c + q) + doy)
    (hyoe : (doe - doe / 1460 + doe / 36524 - doe / 146096) / 365 = 100 * c + 4 * q + a) :
    civilFromDays n = (let mp := (5 * doy + 2) / 153
      let m := if mp < 10 then mp + 3 else mp - 9
      let y : ℤ := (400 * era + 100 * c + 4 * q + a : ℕ)
      (if m ≤ 2 then y + 1 else y, m, doy - (153 * mp + 2) / 5 + 1)) := by
  have hera : ((if 0 ≤ (n : ℤ) + 719468 then (n : ℤ) + 719468 else (n : ℤ) + 719468 - 146096).tdiv
      146097) = era := by
    clear hyoe
    rw [if_pos (by omega), Int.tdiv_eq_ediv_of_nonneg (by omega)]
    omega
  have hday : ((n : ℤ) + 719468 - era * 146097).toNat = doe := by
    clear hyoe
    omega
  have hplace : (100 * c + 4 * q + a) / 4 = 25 * c + q ∧ (100 * c + 4 * q + a) / 100 = c ∧
      doe - (365 * (100 * c + 4 * q + a) + (25 * c + q) - c) = doy ∧
      ((100 * c + 4 * q + a : ℕ) : ℤ) + era * 400 = (400 * era + 100 * c + 4 * q + a : ℕ) := by
    clear hyoe
    omega
  simp only [civilFromDays, hera, hday, hyoe, hplace]

lemma civil_spec (n : ℕ) : ∃ a : Date, civilFromDays n = ((a.year : ℤ), a.month, a.day) ∧
    a.Valid 1970 ∧ a.number 1970 = n := by
  obtain ⟨era, doe, hn, hdoe⟩ : ∃ era doe, n + 719468 = 146097 * era + doe ∧ doe < 146097 :=
    ⟨(n + 719468) / 146097, (n + 719468) % 146097, by omega, by omega⟩
  obtain ⟨c, q, a, doy, hc, hq, ha, hyoe, hsum, hdoy⟩ := yoe_spec hdoe
  rw [civil_run hq ha hn hdoe hsum hyoe]
  clear hyoe
  have hleaps := @leapsBefore_eq era c q a hc hq ha
  obtain ⟨y, hy⟩ : ∃ y, 400 * era + 100 * c + 4 * q + a = y := ⟨_, rfl⟩
  obtain ⟨mp, hmp⟩ : ∃ mp, (5 * doy + 2) / 153 = mp := ⟨_, rfl⟩
  simp only [hy, hmp]
  rw [hy] at hleaps
  have hleap : doy = 365 → isLeap (y + 1) := by
    intro hlast
    simp only [isLeap, Bool.and_eq_true, Bool.or_eq_true, decide_eq_true_eq]
    omega
  have hstart : leapsBefore 1970 = 478 := rfl
  have hbase : 1970 ≤ y ∨ y = 1969 ∧ 306 ≤ doy := by
    by_cases hge : 1970 ≤ y
    · exact .inl hge
    · have := leapsBefore_mono (show y + 1 ≤ 1970 by omega)
      omega
  by_cases hspring : mp < 10
  · have hge : 1970 ≤ y := by omega
    have hown := leapsBefore_succ y
    have hlength : monthLength y (mp + 3) = (153 * (mp + 1) + 2) / 5 - (153 * mp + 2) / 5 := by
      interval_cases mp <;> rfl
    refine ⟨⟨y, mp + 3, doy - (153 * mp + 2) / 5 + 1⟩, ?_, ⟨hge, ?_, ?_⟩, ?_⟩
    · rw [if_pos hspring, if_neg (by omega)]
    · change 1 ≤ mp + 3 ∧ mp + 3 ≤ 12
      omega
    · change 1 ≤ doy - (153 * mp + 2) / 5 + 1 ∧ doy - (153 * mp + 2) / 5 + 1 ≤ monthLength y (mp + 3)
      rw [hlength]
      omega
    · have hnumber := @number_eq 1970 y (mp + 3) (doy - (153 * mp + 2) / 5 + 1) hge
      rw [daysBefore_eq _ hspring, hstart] at hnumber
      omega
  · have hge : 1970 ≤ y + 1 := by omega
    have hwinter : mp = 10 ∨ mp = 11 := by omega
    have hjan : daysBefore (y + 1) 1 = 0 := Finset.sum_empty
    have hfeb : daysBefore (y + 1) 2 = 31 := rfl
    refine ⟨⟨y + 1, mp - 9, doy - (153 * mp + 2) / 5 + 1⟩, ?_, ⟨?_, ?_, ?_⟩, ?_⟩
    · rw [if_neg hspring, if_pos (by omega), Nat.cast_succ]
    · exact hge
    · change 1 ≤ mp - 9 ∧ mp - 9 ≤ 12
      omega
    · change 1 ≤ doy - (153 * mp + 2) / 5 + 1 ∧
        doy - (153 * mp + 2) / 5 + 1 ≤ monthLength (y + 1) (mp - 9)
      rcases hwinter with rfl | rfl
      · change 1 ≤ doy - 306 + 1 ∧ doy - 306 + 1 ≤ 31
        omega
      · simp only [monthLength]
        split
        next => omega
        next hcommon =>
          have hne : doy ≠ 365 := fun h => hcommon (hleap h)
          omega
    · have hnumber := @number_eq 1970 (y + 1) (mp - 9) (doy - (153 * mp + 2) / 5 + 1) hge
      rw [hstart] at hnumber
      rcases hwinter with rfl | rfl
      · rw [hjan] at hnumber
        omega
      · rw [hfeb] at hnumber
        omega

def stamp (a : Date) (tod : ℕ) : String := .ofList (utcText a.year a.month a.day tod)

section Stamps

variable {a b : Date} {s t : ℕ}

lemma stamp_toList : (stamp a s).toList = zeroPad 4 a.year ++ '-' :: (zeroPad 2 a.month ++ '-' ::
    (zeroPad 2 a.day ++ 'T' :: (zeroPad 2 (s / 3600) ++ ':' :: (zeroPad 2 (s % 3600 / 60) ++ ':' ::
      (zeroPad 2 (s % 60) ++ ['Z']))))) := String.toList_ofList

lemma stamp_inj (h : stamp a s = stamp b t) : a = b ∧ s = t := by
  have hlist := congrArg String.toList h
  rw [stamp_toList, stamp_toList] at hlist
  obtain ⟨hyear, hlist⟩ := field_inj (by decide) hlist
  obtain ⟨hmonth, hlist⟩ := field_inj (by decide) hlist
  obtain ⟨hday, hlist⟩ := field_inj (by decide) hlist
  obtain ⟨hhour, hlist⟩ := field_inj (by decide) hlist
  obtain ⟨hminute, hlist⟩ := field_inj (by decide) hlist
  obtain ⟨hsecond, -⟩ := field_inj (by decide) hlist
  exact ⟨Date.ext hyear hmonth hday, by omega⟩

lemma monthLength_le (y m : ℕ) : monthLength y m ≤ 31 := by
  rw [monthLength.eq_def]
  split
  · split <;> omega
  all_goals omega

lemma stamp_lt {base : ℕ} (hb : b.Valid base) (hyear : b.year < 10000) (ht : t < 86400)
    (h : a.Before b ∨ a = b ∧ s < t) : stamp a s < stamp b t := by
  have hday := hb.day.2.trans (monthLength_le _ _)
  have hmonth := hb.month.2
  rw [String.lt_iff, stamp_toList, stamp_toList]
  have htime (hst : s < t) : zeroPad 2 (s / 3600) ++ ':' :: (zeroPad 2 (s % 3600 / 60) ++ ':' ::
      (zeroPad 2 (s % 60) ++ ['Z'])) < zeroPad 2 (t / 3600) ++ ':' :: (zeroPad 2 (t % 3600 / 60) ++ ':' ::
      (zeroPad 2 (t % 60) ++ ['Z'])) := by
    apply field_lt (by decide) (by omega)
    by_cases hhour : s / 3600 < t / 3600
    · exact .inl hhour
    · refine .inr ⟨by omega, field_lt (by decide) (by omega) ?_⟩
      by_cases hminute : s % 3600 / 60 < t % 3600 / 60
      · exact .inl hminute
      · exact .inr ⟨by omega, field_lt (by decide) (by omega) (.inl (by omega))⟩
  apply field_lt (by decide) hyear
  rcases h with (hlt | ⟨heq, hlt | ⟨heq', hlt⟩⟩) | ⟨rfl, hst⟩
  · exact .inl hlt
  · exact .inr ⟨heq, field_lt (by decide) (by omega) (.inl hlt)⟩
  · exact .inr ⟨heq, field_lt (by decide) (by omega) (.inr ⟨heq', field_lt (by decide) (by omega) (.inl hlt)⟩)⟩
  · exact .inr ⟨rfl, field_lt (by decide) (by omega) (.inr ⟨rfl, field_lt (by decide) (by omega)
      (.inr ⟨rfl, htime hst⟩)⟩)⟩

end Stamps

lemma formatUtcSecs_eq {epoch : ℕ} {a : Date}
    (h : civilFromDays (epoch / 86400 : ℕ) = ((a.year : ℤ), a.month, a.day)) :
    formatUtcSecs epoch = stamp a (epoch % 86400) := by
  rw [formatUtcSecs, h, stamp]

/-- Every instant is stamped with the date of its day and the time since midnight. No two have one
stamp, and up to the year 9999 stamps are in the order of their instants. -/
theorem format_utc_exact :
    (∀ epoch : ℕ, ∃! a : Date, (a.Valid 1970 ∧ a.number 1970 = epoch / 86400) ∧
      formatUtcSecs epoch = stamp a (epoch % 86400)) ∧
    Function.Injective formatUtcSecs ∧
    ∀ s t : ℕ, s < t → (civilFromDays (t / 86400 : ℕ)).1 < 10000 → formatUtcSecs s < formatUtcSecs t := by
  refine ⟨fun epoch => ?_, fun s t h => ?_, fun s t hst hyear => ?_⟩
  · obtain ⟨a, hcivil, hvalid, hnumber⟩ := civil_spec (epoch / 86400)
    refine ⟨a, ⟨⟨hvalid, hnumber⟩, formatUtcSecs_eq hcivil⟩, ?_⟩
    rintro b ⟨⟨hvalid', hnumber'⟩, -⟩
    exact eq_of_number hvalid' hvalid (hnumber'.trans hnumber.symm)
  · obtain ⟨a, ha, -, hna⟩ := civil_spec (s / 86400)
    obtain ⟨b, hb, -, hnb⟩ := civil_spec (t / 86400)
    rw [formatUtcSecs_eq ha, formatUtcSecs_eq hb] at h
    obtain ⟨rfl, htime⟩ := stamp_inj h
    omega
  · obtain ⟨a, ha, hvalid, hna⟩ := civil_spec (s / 86400)
    obtain ⟨b, hb, hvalid', hnb⟩ := civil_spec (t / 86400)
    rw [hb] at hyear
    change (b.year : ℤ) < 10000 at hyear
    rw [formatUtcSecs_eq ha, formatUtcSecs_eq hb]
    apply stamp_lt hvalid' (by omega) (by omega)
    by_cases hday : s / 86400 < t / 86400
    · exact .inl (before_of_number_lt hvalid hvalid' (by omega))
    · exact .inr ⟨eq_of_number hvalid hvalid' (by omega), by omega⟩

example : formatUtcSecs 1709208000 = "2024-02-29T12:00:00Z" := rfl

end MediaServo.Weaknet
