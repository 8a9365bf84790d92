import Signpost.Http.Date
import Signpost.Proofs.Octets

/-!
# Dates of fixed length

The days counted from 1970 are days of the calendar up to the year 9999
(`inCalendar_dayOf`), so every part of a date has its width, and the date of every
moment takes the octets that a head leaves for it (`length_wire`).
-/

namespace Signpost

namespace Octets

theorem length_ofText {text : String} (ascii : ∀ c ∈ text.toList, c.val ≤ 127) :
    (ofText text).length = text.toList.length := by
  have one : ∀ c ∈ text.toList, (String.utf8EncodeChar c).length = 1 := by
    intro c mem
    rw [String.length_utf8EncodeChar]
    exact Char.utf8Size_eq_one_iff.mpr (ascii c mem)
  rw [ofText, List.length_flatMap, List.map_congr_left one, List.map_const', List.sum_replicate_nat,
    Nat.mul_one]

end Octets

theorem Numeral.length_padded {width n : Nat} (short : (Nat.toDigits 10 n).length ≤ width) :
    (Octets.ofText (padded 10 width n)).length = width := by
  rw [Octets.length_ofText]
  · rw [padded, String.toList_ofList, List.length_append, List.length_replicate]
    omega
  · intro c mem
    rw [padded, String.toList_ofList, List.mem_append] at mem
    rcases mem with zero | digit
    · rw [List.eq_of_mem_replicate zero]
      decide
    · have digit := Nat.isDigit_of_mem_toDigits (by decide) (by decide) digit
      rw [Char.isDigit, Bool.and_eq_true, decide_eq_true_iff, decide_eq_true_iff] at digit
      exact UInt32.le_trans digit.2 (by decide)

namespace Moment

/-- A year of four digits, one of twelve months, and a day that some month has. -/
structure Day.InCalendar (d : Day) : Prop where
  year_lt : d.year < 10000
  month_pos : 1 ≤ d.month
  month_le : d.month ≤ 12
  day_le : d.day ≤ 31

/-- A year has 366 days at most, the leap day as the last of them. -/
theorem dayOfYear_le {n y : Nat} (inEra : n < 146097)
    (year : y = (n - n / 1460 + n / 36524 - n / 146096) / 365) :
    n - (365 * y + y / 4 - y / 100) ≤ 365 := by
  have leaps : n / 1460 ≤ y / 4 + 1 := by omega
  have centuries : y / 100 + n / 146096 ≤ n / 36524 := by
    -- a bound for each century of the era, as 365 days a year are fewer than it has
    have century : n / 36524 = 0 ∨ n / 36524 = 1 ∨ n / 36524 = 2 ∨ n / 36524 = 3 ∨
        n / 36524 = 4 := by omega
    rcases century with own | own | own | own | own <;> omega
  omega

theorem inCalendar_dayOf {days : Nat} (inside : 86400 * days < momentLimit) :
    (dayOf days).InCalendar := by
  rw [momentLimit] at inside
  have named : ∀ n y d m month : Nat, n = (days + 719468) % 146097 →
      y = (n - n / 1460 + n / 36524 - n / 146096) / 365 → d = n - (365 * y + y / 4 - y / 100) →
      m = (5 * d + 2) / 153 → month = (if m < 10 then m + 3 else m - 9) →
      Day.InCalendar ⟨400 * ((days + 719468) / 146097) + y + (if month ≤ 2 then 1 else 0), month,
        d - (153 * m + 2) / 5 + 1⟩ := by
    intro n y d m month dayOfEra year day fromMarch fromJanuary
    have inYear := dayOfYear_le (by omega) year
    rw [← day] at inYear
    split at fromJanuary
    · -- the days from March on are of the year that was counted
      have late : ¬month ≤ 2 := by omega
      rw [if_neg late]
      constructor <;> dsimp only <;> omega
    · -- and those of January and February of the next one
      have early : month ≤ 2 := by omega
      rw [if_pos early]
      constructor <;> dsimp only <;> omega
  exact named _ _ _ _ _ rfl rfl rfl rfl rfl

theorem length_getD {texts : List String} {width i : Nat}
    (each : ∀ text ∈ texts, (Octets.ofText text).length = width) (there : i < texts.length) :
    (Octets.ofText (texts[i]?.getD "")).length = width := by
  rw [List.getElem?_eq_getElem there]
  exact each _ (List.getElem_mem there)

/-- The date of every moment has the length that a head leaves for it. -/
theorem length_wire (m : Moment) : m.wire.length = dateLength := by
  have inside := m.seconds_lt
  obtain ⟨year_lt, month_pos, month_le, day_le⟩ :=
    @inCalendar_dayOf (m.seconds / 86400) (by omega)
  have weekday : (Octets.ofText (weekdays[(m.seconds / 86400 + 4) % 7]?.getD "")).length = 3 :=
    length_getD (by decide) (Nat.mod_lt (y := 7) _ (by decide))
  have month : (Octets.ofText (months[(dayOf (m.seconds / 86400)).month - 1]?.getD "")).length =
      3 := by
    refine length_getD (by decide) ?_
    have twelve : months.length = 12 := rfl
    omega
  have two : ∀ {n}, n < 100 → (Octets.ofText (Numeral.padded 10 2 n)).length = 2 :=
    fun fits => Numeral.length_padded
      ((Nat.length_toDigits_le_iff (by decide) (by decide : 0 < 2)).mpr fits)
  have four : ∀ {n}, n < 10000 → (Octets.ofText (Numeral.padded 10 4 n)).length = 4 :=
    fun fits => Numeral.length_padded
      ((Nat.length_toDigits_le_iff (by decide) (by decide : 0 < 4)).mpr fits)
  rw [wire, text]
  simp only [Octets.ofText_append, List.length_append]
  rw [weekday, month, two (by omega), four year_lt, two (by omega), two (by omega), two (by omega)]
  rfl

end Moment

end Signpost
