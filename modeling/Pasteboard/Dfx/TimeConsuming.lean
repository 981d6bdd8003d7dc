/-
  Pasteboard.Dfx.TimeConsuming
  ────────────────────────────
  **HOW A SIZE AND A TIME ARE CLASSIFIED** (`calculate_time_consuming.cpp`).

    • `CalculateData` compares the REMAINDER of the size by 1024, not the
      quotient, with the bounds in megabytes; and a multiple of 1024 with the
      bounds in kilobytes as they are, in bytes.
    • `CalculateTime` takes the remainder of the time by 500 for the number of
      half seconds.

  So a label names a range the size is in, and a level is the number of half
  seconds, only where the remainder falls as the quotient would
  (`classification_iff`).
-/
import Mathlib.Tactic.IntervalCases
import Pasteboard.Dfx.Levels

namespace Pasteboard

open Lib

/-! ## §1. The classification. -/

namespace CalculateTimeConsuming

open DataRange TimeConsumingStatistic

def calculateData (calPasteboardData : Nat) : Int :=
  if calPasteboardData % 1024 = 0 then
    -- a multiple of 1024 bytes, compared with numbers of kilobytes
    if calPasteboardData ≥ 0 ∧ calPasteboardData < 100 then
      DR_ZERO_TO_HUNDRED_KB.toInt
    else if calPasteboardData ≥ 100 ∧ calPasteboardData < 500 then
      DR_HUNDRED_TO_FIVE_HUNDREDS_KB.toInt
    else DR_FIVE_HUNDREDS_TO_THOUSAND_KB.toInt
  else
    let dataSize := calPasteboardData % 1024
    -- a remainder below 1024, compared with numbers of megabytes
    if dataSize ≥ 1 ∧ dataSize < 5 then DR_ONE_TO_FIVE_MB.toInt
    else if dataSize ≥ 5 ∧ dataSize < 10 then DR_FIVE_TO_TEN_MB.toInt
    else if dataSize ≥ 10 ∧ dataSize < 50 then DR_TEN_TO_FIFTY_MB.toInt
    else DR_OVER_FIFTY_MB.toInt

def calculateTime (time : Nat) : Int :=
  match time % 500 with
  | 0 => TCS_TIME_CONSUMING_LEVEL_ONE.toInt
  | 1 => TCS_TIME_CONSUMING_LEVEL_TWO.toInt
  | 2 => TCS_TIME_CONSUMING_LEVEL_THREE.toInt
  | 3 => TCS_TIME_CONSUMING_LEVEL_FOUR.toInt
  | 4 => TCS_TIME_CONSUMING_LEVEL_FIVE.toInt
  | 5 => TCS_TIME_CONSUMING_LEVEL_SIX.toInt
  | 6 => TCS_TIME_CONSUMING_LEVEL_SEVEN.toInt
  | 7 => TCS_TIME_CONSUMING_LEVEL_EIGHT.toInt
  | 8 => TCS_TIME_CONSUMING_LEVEL_NINE.toInt
  | 9 => TCS_TIME_CONSUMING_LEVEL_TEN.toInt
  | _ => TCS_TIME_CONSUMING_LEVEL_ELEVEN.toInt

/-- **The level of a time** is its remainder by 500, at most 10. -/
theorem calculateTime_eq (time : Nat) :
    calculateTime time = (min (time % 500) 10 : Nat) := by
  unfold calculateTime
  generalize time % 500 = r
  by_cases hr : r < 10
  · interval_cases r <;> rfl
  · obtain ⟨n, rfl⟩ : ∃ n, r = n + 10 := ⟨r - 10, by omega⟩
    rw [Nat.min_eq_right (by omega)]
    rfl

end CalculateTimeConsuming

/-! ## §2. What the classes stand for. -/

namespace DataRange

/-- The range's name. -/
def label : DataRange → String
  | DR_ZERO_TO_HUNDRED_KB => "ZERO_TO_HUNDRED_KB"
  | DR_HUNDRED_TO_FIVE_HUNDREDS_KB => "HUNDRED_TO_FIVE_HUNDREDS_KB"
  | DR_FIVE_HUNDREDS_TO_THOUSAND_KB => "FIVE_HUNDREDS_TO_THOUSAND_KB"
  | DR_ONE_TO_FIVE_MB => "ONE_TO_FIVE_MB"
  | DR_FIVE_TO_TEN_MB => "FIVE_TO_TEN_MB"
  | DR_TEN_TO_FIFTY_MB => "TEN_TO_FIFTY_MB"
  | DR_OVER_FIFTY_MB => "OVER_FIFTY_MB"

/-- The bytes a range starts with. -/
def lower : DataRange → Nat
  | DR_ZERO_TO_HUNDRED_KB => 0
  | DR_HUNDRED_TO_FIVE_HUNDREDS_KB => 100 * 1024
  | DR_FIVE_HUNDREDS_TO_THOUSAND_KB => 500 * 1024
  | DR_ONE_TO_FIVE_MB => 1024 * 1024
  | DR_FIVE_TO_TEN_MB => 5 * 1024 * 1024
  | DR_TEN_TO_FIFTY_MB => 10 * 1024 * 1024
  | DR_OVER_FIFTY_MB => 50 * 1024 * 1024

/-- The bytes the next range starts with, where there is one. -/
def upper : DataRange → Option Nat
  | DR_ZERO_TO_HUNDRED_KB => some (100 * 1024)
  | DR_HUNDRED_TO_FIVE_HUNDREDS_KB => some (500 * 1024)
  | DR_FIVE_HUNDREDS_TO_THOUSAND_KB => some (1024 * 1024)
  | DR_ONE_TO_FIVE_MB => some (5 * 1024 * 1024)
  | DR_FIVE_TO_TEN_MB => some (10 * 1024 * 1024)
  | DR_TEN_TO_FIFTY_MB => some (50 * 1024 * 1024)
  | DR_OVER_FIFTY_MB => none

/-- Bounds included below and excluded above, as the code compares. -/
def Contains (r : DataRange) (size : Nat) : Prop :=
  r.lower ≤ size ∧ ∀ bound, r.upper = some bound → size < bound

/-- The adapter gives the number of a range the range's name. -/
theorem getDataLevel_toInt (r : DataRange) :
    HiViewAdapter.getDataLevel r.toInt = r.label := by
  cases r <;> rfl

theorem label_injective {r r' : DataRange} (h : r.label = r'.label) :
    r = r' := by
  revert h
  cases r <;> cases r' <;> decide

theorem toInt_range (r : DataRange) : 0 ≤ r.toInt ∧ r.toInt < 7 := by
  cases r <;> decide

/-- A range with a smaller number ends where the other starts, or before. -/
theorem upper_le_lower {r r' : DataRange} (h : r'.toInt < r.toInt) :
    ∃ bound, r'.upper = some bound ∧ bound ≤ r.lower := by
  cases r <;> cases r' <;>
    first
      | exact absurd h (by decide)
      | exact ⟨_, rfl, by decide⟩

/-- **Sizes in order are in ranges in order.** -/
theorem toInt_le_of_contains {r r' : DataRange} {s s' : Nat} (hle : s ≤ s')
    (h : r.Contains s) (h' : r'.Contains s') : r.toInt ≤ r'.toInt := by
  by_contra hlt
  obtain ⟨bound, hbound, hlow⟩ := upper_le_lower (Int.not_le.mp hlt)
  have hs' : s' < bound := h'.2 bound hbound
  have hs : r.lower ≤ s := h.1
  omega

end DataRange

open CalculateTimeConsuming HiViewAdapter

/-- The label given for a size names a range that the size is in. -/
def SizeRight (s : Nat) : Prop :=
  ∃ level r, dataMap[calculateData s]? = some level
    ∧ getDataLevel level = DataRange.label r ∧ r.Contains s

/-- The level given for a time is the number of half seconds, at most 10. -/
def TimeRight (t : Nat) : Prop :=
  timeMap[calculateTime t]? = some ((min (t / 500) 10 : Nat) : Int)

/-! ## §3. Where the classification is right. -/

/-- The range `CalculateData` chooses. -/
def rangeOf (s : Nat) : DataRange :=
  if s % 1024 = 0 then
    if s < 100 then .DR_ZERO_TO_HUNDRED_KB
    else .DR_FIVE_HUNDREDS_TO_THOUSAND_KB
  else if s % 1024 < 5 then .DR_ONE_TO_FIVE_MB
  else if s % 1024 < 10 then .DR_FIVE_TO_TEN_MB
  else if s % 1024 < 50 then .DR_TEN_TO_FIFTY_MB
  else .DR_OVER_FIFTY_MB

theorem calculateData_eq (s : Nat) : calculateData s = (rangeOf s).toInt := by
  unfold calculateData rangeOf
  by_cases h0 : s % 1024 = 0
  · rw [if_pos h0, if_pos h0]
    by_cases h1 : s < 100
    · rw [if_pos ⟨Nat.zero_le s, h1⟩, if_pos h1]
    · -- no multiple of 1024 lies between 100 and 500
      rw [if_neg (by omega), if_neg (by omega), if_neg h1]
  · rw [if_neg h0, if_neg h0]
    dsimp only
    by_cases h1 : s % 1024 < 5
    · rw [if_pos (by omega), if_pos h1]
    rw [if_neg (by omega), if_neg h1]
    by_cases h2 : s % 1024 < 10
    · rw [if_pos (by omega), if_pos h2]
    rw [if_neg (by omega), if_neg h2]
    by_cases h3 : s % 1024 < 50
    · rw [if_pos (by omega), if_pos h3]
    · rw [if_neg (by omega), if_neg h3]

theorem dataMap_calculateData (s : Nat) :
    dataMap[calculateData s]? = some (rangeOf s).toInt := by
  rw [calculateData_eq, dataMap_getElem?, if_pos (rangeOf s).toInt_range]

/-- A size is classified right when the chosen range contains it. -/
theorem sizeRight_iff_contains (s : Nat) :
    SizeRight s ↔ (rangeOf s).Contains s := by
  constructor
  · intro hyp
    obtain ⟨level, r, hlevel, hlabel, hr⟩ := hyp
    rw [dataMap_calculateData] at hlevel
    injection hlevel with hlevel
    rw [← hlevel, DataRange.getDataLevel_toInt] at hlabel
    rw [DataRange.label_injective hlabel]
    exact hr
  · intro hr
    exact ⟨_, rangeOf s, dataMap_calculateData s,
      DataRange.getDataLevel_toInt _, hr⟩

/-- Size 0; a multiple of 1024 between 500 KB and 1 MB; or a remainder by 1024
that falls between the same bounds as the number of megabytes. -/
def SizeInClass (s : Nat) : Prop :=
  s = 0
    ∨ (s % 1024 = 0 ∧ 500 * 1024 ≤ s ∧ s < 1024 * 1024)
    ∨ (1 ≤ s % 1024 ∧ s % 1024 < 5
        ∧ 1024 * 1024 ≤ s ∧ s < 5 * 1024 * 1024)
    ∨ (5 ≤ s % 1024 ∧ s % 1024 < 10
        ∧ 5 * 1024 * 1024 ≤ s ∧ s < 10 * 1024 * 1024)
    ∨ (10 ≤ s % 1024 ∧ s % 1024 < 50
        ∧ 10 * 1024 * 1024 ≤ s ∧ s < 50 * 1024 * 1024)
    ∨ (50 ≤ s % 1024 ∧ 50 * 1024 * 1024 ≤ s)

/-- A multiple of 501 below 5010; or at least 5 seconds, with a remainder by
500 of at least 10. -/
def TimeInClass (t : Nat) : Prop :=
  (t < 5010 ∧ t % 501 = 0) ∨ (5000 ≤ t ∧ 10 ≤ t % 500)

theorem sizeRight_iff (s : Nat) : SizeRight s ↔ SizeInClass s := by
  rw [sizeRight_iff_contains]
  unfold rangeOf SizeInClass DataRange.Contains
  -- one case per range that is ever chosen
  split
  · split
    · simp [DataRange.lower, DataRange.upper]
      omega
    · simp [DataRange.lower, DataRange.upper]
      omega
  · split
    · simp [DataRange.lower, DataRange.upper]
      omega
    · split
      · simp [DataRange.lower, DataRange.upper]
        omega
      · split
        · simp [DataRange.lower, DataRange.upper]
          omega
        · simp [DataRange.lower, DataRange.upper]
          omega

theorem timeMap_calculateTime (t : Nat) :
    timeMap[calculateTime t]? = some ((min (t % 500) 10 : Nat) : Int) := by
  rw [calculateTime_eq, timeMap_getElem?, if_pos]
  omega

theorem timeRight_iff (t : Nat) : TimeRight t ↔ TimeInClass t := by
  unfold TimeRight TimeInClass
  rw [timeMap_calculateTime, Option.some.injEq]
  have hdiv : 500 * (t / 500) + t % 500 = t := Nat.div_add_mod t 500
  have hmod : t % 500 < 500 := Nat.mod_lt t (by decide)
  generalize t / 500 = q at *
  generalize t % 500 = r at *
  by_cases hq : q < 10
  · -- below 5 seconds the remainder has to be the quotient
    interval_cases q <;> omega
  · omega

/-- The level given for a larger size is not lower. -/
def SizesInOrder (s s' : Nat) : Prop :=
  ∃ level level', dataMap[calculateData s]? = some level
    ∧ dataMap[calculateData s']? = some level' ∧ level ≤ level'

/-- The level given for a longer time is not lower. -/
def TimesInOrder (t t' : Nat) : Prop :=
  ∃ level level', timeMap[calculateTime t]? = some level
    ∧ timeMap[calculateTime t']? = some level' ∧ level ≤ level'

/-- **REMAINDERS FOR QUOTIENTS.**  The label of a size names a range it is in,
and the level of a time is its number of half seconds, exactly for the sizes
and times below; among these the levels are in order. -/
theorem classification_iff (s s' t t' : Nat) :
    (SizeRight s ↔ SizeInClass s) ∧ (TimeRight t ↔ TimeInClass t)
      ∧ (s ≤ s' → SizeInClass s → SizeInClass s' → SizesInOrder s s')
      ∧ (t ≤ t' → TimeInClass t → TimeInClass t' → TimesInOrder t t') := by
  refine ⟨sizeRight_iff s, timeRight_iff t, ?_, ?_⟩
  · intro hle hs hs'
    rw [← sizeRight_iff, sizeRight_iff_contains] at hs hs'
    exact ⟨_, _, dataMap_calculateData s, dataMap_calculateData s',
      DataRange.toInt_le_of_contains hle hs hs'⟩
  · intro hle ht ht'
    rw [← timeRight_iff] at ht ht'
    refine ⟨_, _, ht, ht', ?_⟩
    -- quotients are in order
    omega

/-- **One byte is labelled 1 to 5 MB**, 5 ms have the level of 2.5 s; and a
kilobyte and half a second have lower levels than these. -/
theorem classification_oneByte :
    ¬ (∀ s, SizeRight s) ∧ ¬ (∀ t, TimeRight t)
      ∧ ¬ (∀ s s', s ≤ s' → SizesInOrder s s')
      ∧ ¬ ∀ t t', t ≤ t' → TimesInOrder t t' := by
  refine ⟨?_, ?_, ?_, ?_⟩
  · intro h
    have hone := (sizeRight_iff 1).mp (h 1)
    revert hone
    unfold SizeInClass
    decide
  · intro h
    have hfive := (timeRight_iff 5).mp (h 5)
    revert hfive
    unfold TimeInClass
    decide
  · intro h
    obtain ⟨level, level', hlevel, hlevel', hle⟩ := h 1 1024 (by decide)
    rw [dataMap_calculateData] at hlevel hlevel'
    injection hlevel with hlevel
    injection hlevel' with hlevel'
    subst hlevel hlevel'
    revert hle
    decide
  · intro h
    obtain ⟨level, level', hlevel, hlevel', hle⟩ := h 5 500 (by decide)
    rw [timeMap_calculateTime] at hlevel hlevel'
    injection hlevel with hlevel
    injection hlevel' with hlevel'
    subst hlevel hlevel'
    revert hle
    decide

end Pasteboard
