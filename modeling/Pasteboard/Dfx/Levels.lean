/-
  Pasteboard.Dfx.Levels
  ─────────────────────
  **LEVELS AND THEIR LABELS** (`dfx_types.h`, `hiview_adapter.h/.cpp`): what
  the statistics of the pasteboard are kept by.

  A size falls in a data range, a time in a time consuming statistic; the two
  maps of the adapter translate these to data levels and time levels, and
  `GetDataLevel` gives a data level its label.  Both maps translate a number
  to itself (`dataMap_getElem?`, `timeMap_getElem?`).  The numbers arrive as
  plain `int`s, so an enumerator has a `toInt` and the maps are over `Int`.

  What the adapter reports are system events; their domain, a constant of the
  event library, is left out.
-/
import Pasteboard.Lib.OrderedMap

namespace Pasteboard

open Lib

/-! ## §1. The enumerations. -/

inductive DataRange where
  | DR_ZERO_TO_HUNDRED_KB
  | DR_HUNDRED_TO_FIVE_HUNDREDS_KB
  | DR_FIVE_HUNDREDS_TO_THOUSAND_KB
  | DR_ONE_TO_FIVE_MB
  | DR_FIVE_TO_TEN_MB
  | DR_TEN_TO_FIFTY_MB
  | DR_OVER_FIFTY_MB
  deriving DecidableEq, Repr

inductive DataConsumingLevel where
  | DATA_LEVEL_ONE
  | DATA_LEVEL_TWO
  | DATA_LEVEL_THREE
  | DATA_LEVEL_FOUR
  | DATA_LEVEL_FIVE
  | DATA_LEVEL_SIX
  | DATA_LEVEL_SEVEN
  deriving DecidableEq, Repr

inductive TimeConsumingStatistic where
  | TCS_TIME_CONSUMING_LEVEL_ONE
  | TCS_TIME_CONSUMING_LEVEL_TWO
  | TCS_TIME_CONSUMING_LEVEL_THREE
  | TCS_TIME_CONSUMING_LEVEL_FOUR
  | TCS_TIME_CONSUMING_LEVEL_FIVE
  | TCS_TIME_CONSUMING_LEVEL_SIX
  | TCS_TIME_CONSUMING_LEVEL_SEVEN
  | TCS_TIME_CONSUMING_LEVEL_EIGHT
  | TCS_TIME_CONSUMING_LEVEL_NINE
  | TCS_TIME_CONSUMING_LEVEL_TEN
  | TCS_TIME_CONSUMING_LEVEL_ELEVEN
  deriving DecidableEq, Repr

inductive TimeConsumingLevel where
  | TIME_LEVEL_ONE
  | TIME_LEVEL_TWO
  | TIME_LEVEL_THREE
  | TIME_LEVEL_FOUR
  | TIME_LEVEL_FIVE
  | TIME_LEVEL_SIX
  | TIME_LEVEL_SEVEN
  | TIME_LEVEL_EIGHT
  | TIME_LEVEL_NINE
  | TIME_LEVEL_TEN
  | TIME_LEVEL_ELEVEN
  deriving DecidableEq, Repr

/-- `static_cast<int>`: the enumerators count from 0. -/
def DataRange.toInt (r : DataRange) : Int := r.ctorIdx

def DataConsumingLevel.toInt (l : DataConsumingLevel) : Int := l.ctorIdx

def TimeConsumingStatistic.toInt (t : TimeConsumingStatistic) : Int :=
  t.ctorIdx

def TimeConsumingLevel.toInt (l : TimeConsumingLevel) : Int := l.ctorIdx

/-! ## §2. The translations. -/

namespace HiViewAdapter

open DataRange DataConsumingLevel TimeConsumingStatistic TimeConsumingLevel

def initDataMap : Std.TreeMap Int Int :=
  OrderedMap.ofTable
    [(DR_ZERO_TO_HUNDRED_KB.toInt, DATA_LEVEL_ONE.toInt),
      (DR_HUNDRED_TO_FIVE_HUNDREDS_KB.toInt, DATA_LEVEL_TWO.toInt),
      (DR_FIVE_HUNDREDS_TO_THOUSAND_KB.toInt, DATA_LEVEL_THREE.toInt),
      (DR_ONE_TO_FIVE_MB.toInt, DATA_LEVEL_FOUR.toInt),
      (DR_FIVE_TO_TEN_MB.toInt, DATA_LEVEL_FIVE.toInt),
      (DR_TEN_TO_FIFTY_MB.toInt, DATA_LEVEL_SIX.toInt),
      (DR_OVER_FIFTY_MB.toInt, DATA_LEVEL_SEVEN.toInt)]

def initTimeMap : Std.TreeMap Int Int :=
  OrderedMap.ofTable
    [(TCS_TIME_CONSUMING_LEVEL_ONE.toInt, TIME_LEVEL_ONE.toInt),
      (TCS_TIME_CONSUMING_LEVEL_TWO.toInt, TIME_LEVEL_TWO.toInt),
      (TCS_TIME_CONSUMING_LEVEL_THREE.toInt, TIME_LEVEL_THREE.toInt),
      (TCS_TIME_CONSUMING_LEVEL_FOUR.toInt, TIME_LEVEL_FOUR.toInt),
      (TCS_TIME_CONSUMING_LEVEL_FIVE.toInt, TIME_LEVEL_FIVE.toInt),
      (TCS_TIME_CONSUMING_LEVEL_SIX.toInt, TIME_LEVEL_SIX.toInt),
      (TCS_TIME_CONSUMING_LEVEL_SEVEN.toInt, TIME_LEVEL_SEVEN.toInt),
      (TCS_TIME_CONSUMING_LEVEL_EIGHT.toInt, TIME_LEVEL_EIGHT.toInt),
      (TCS_TIME_CONSUMING_LEVEL_NINE.toInt, TIME_LEVEL_NINE.toInt),
      (TCS_TIME_CONSUMING_LEVEL_TEN.toInt, TIME_LEVEL_TEN.toInt),
      (TCS_TIME_CONSUMING_LEVEL_ELEVEN.toInt, TIME_LEVEL_ELEVEN.toInt)]

/-- Static members, set once. -/
def dataMap : Std.TreeMap Int Int := initDataMap
def timeMap : Std.TreeMap Int Int := initTimeMap

/-- Looking up in a table of the numbers below `n`. -/
theorem lookup_range (f : Nat → Int) (n : Nat) (k : Int) :
    ((List.range n).map fun i : Nat => ((i : Int), f i)).lookup k
      = if 0 ≤ k ∧ k < n then some (f k.toNat) else none := by
  induction n with
  | zero =>
      rw [if_neg (by omega)]
      rfl
  | succ n ih =>
      rw [List.range_succ, List.map_append, List.lookup_append, ih]
      by_cases hlt : 0 ≤ k ∧ k < n
      · rw [if_pos hlt, if_pos (by omega), Option.some_or]
      · rw [if_neg hlt, Option.none_or]
        show (match k == (n : Int) with | true => some (f n) | false => none) = _
        by_cases hk : k = n
        · subst hk
          rw [beq_self_eq_true, if_pos (by omega), Int.toNat_natCast]
        · rw [beq_false_of_ne hk, if_neg (by omega)]

/-- A table that gives every number itself. -/
theorem lookup_self (n : Nat) (k : Int) :
    ((List.range n).map fun i : Nat => ((i : Int), (i : Int))).lookup k
      = if 0 ≤ k ∧ k < n then some k else none := by
  rw [lookup_range fun i => (i : Int)]
  by_cases hk : 0 ≤ k ∧ k < n
  · rw [if_pos hk, if_pos hk, Int.toNat_of_nonneg hk.1]
  · rw [if_neg hk, if_neg hk]

/-- **`dataMap_` translates 0 to 6, each to itself.** -/
theorem dataMap_getElem? (k : Int) :
    dataMap[k]? = if 0 ≤ k ∧ k < 7 then some k else none := by
  show (OrderedMap.ofTable _)[k]? = _
  rw [OrderedMap.getElem?_ofTable]
  exact lookup_self 7 k

/-- **`timeMap_` translates 0 to 10, each to itself.** -/
theorem timeMap_getElem? (k : Int) :
    timeMap[k]? = if 0 ≤ k ∧ k < 11 then some k else none := by
  show (OrderedMap.ofTable _)[k]? = _
  rw [OrderedMap.getElem?_ofTable]
  exact lookup_self 11 k

/-! ## §3. The labels. -/

def ZERO_TO_HUNDRED_KB : String := "ZERO_TO_HUNDRED_KB"
def HUNDRED_TO_FIVE_HUNDREDS_KB : String := "HUNDRED_TO_FIVE_HUNDREDS_KB"
def FIVE_HUNDREDS_TO_THOUSAND_KB : String := "FIVE_HUNDREDS_TO_THOUSAND_KB"
def ONE_TO_FIVE_MB : String := "ONE_TO_FIVE_MB"
def FIVE_TO_TEN_MB : String := "FIVE_TO_TEN_MB"
def TEN_TO_FIFTY_MB : String := "TEN_TO_FIFTY_MB"
def OVER_FIFTY_MB : String := "OVER_FIFTY_MB"
def WRONG_LEVEL : String := "WRONG_LEVEL"

def getDataLevel (dataLevel : Int) : String :=
  if dataLevel = DATA_LEVEL_ONE.toInt then ZERO_TO_HUNDRED_KB
  else if dataLevel = DATA_LEVEL_TWO.toInt then HUNDRED_TO_FIVE_HUNDREDS_KB
  else if dataLevel = DATA_LEVEL_THREE.toInt then FIVE_HUNDREDS_TO_THOUSAND_KB
  else if dataLevel = DATA_LEVEL_FOUR.toInt then ONE_TO_FIVE_MB
  else if dataLevel = DATA_LEVEL_FIVE.toInt then FIVE_TO_TEN_MB
  else if dataLevel = DATA_LEVEL_SIX.toInt then TEN_TO_FIFTY_MB
  else if dataLevel = DATA_LEVEL_SEVEN.toInt then OVER_FIFTY_MB
  else WRONG_LEVEL

theorem dataLevel_range (l : DataConsumingLevel) :
    0 ≤ l.toInt ∧ l.toInt < 7 := by
  cases l <;> decide

/-- **A number has a label of its own exactly when it is a data level.** -/
theorem getDataLevel_ne_wrong_iff (k : Int) :
    getDataLevel k ≠ WRONG_LEVEL ↔ 0 ≤ k ∧ k < 7 := by
  constructor
  · intro h
    by_contra hk
    apply h
    have hne : ∀ l : DataConsumingLevel, k ≠ l.toInt := by
      intro l hl
      subst hl
      exact hk (dataLevel_range l)
    simp only [getDataLevel, hne, if_false]
  · intro hk
    have hcases : k = 0 ∨ k = 1 ∨ k = 2 ∨ k = 3 ∨ k = 4 ∨ k = 5 ∨ k = 6 := by
      omega
    rcases hcases with h | h | h | h | h | h | h <;> subst h <;> decide

/-- **The time levels are the numbers from 0 to 10.** -/
theorem timeLevel_iff (k : Int) :
    (∃ l : TimeConsumingLevel, k = l.toInt) ↔ 0 ≤ k ∧ k < 11 := by
  constructor
  · intro hyp
    obtain ⟨l, hl⟩ := hyp
    subst hl
    cases l <;> decide
  · intro hk
    obtain ⟨n, hn⟩ : ∃ n : Nat, k = n := ⟨k.toNat, by omega⟩
    subst hn
    have hlt : n < 11 := by omega
    match n, hlt with
    | 0, _ => exact ⟨TIME_LEVEL_ONE, rfl⟩
    | 1, _ => exact ⟨TIME_LEVEL_TWO, rfl⟩
    | 2, _ => exact ⟨TIME_LEVEL_THREE, rfl⟩
    | 3, _ => exact ⟨TIME_LEVEL_FOUR, rfl⟩
    | 4, _ => exact ⟨TIME_LEVEL_FIVE, rfl⟩
    | 5, _ => exact ⟨TIME_LEVEL_SIX, rfl⟩
    | 6, _ => exact ⟨TIME_LEVEL_SEVEN, rfl⟩
    | 7, _ => exact ⟨TIME_LEVEL_EIGHT, rfl⟩
    | 8, _ => exact ⟨TIME_LEVEL_NINE, rfl⟩
    | 9, _ => exact ⟨TIME_LEVEL_TEN, rfl⟩
    | 10, _ => exact ⟨TIME_LEVEL_ELEVEN, rfl⟩

end HiViewAdapter

/-! ## §4. System events. -/

inductive EventType where
  | FAULT
  | STATISTIC
  | BEHAVIOR
  deriving DecidableEq, Repr

/-- One `HiSysEvent::Write`: the event, its type, and its keys with their
values. -/
structure SysEvent where
  eventID : String
  eventType : EventType
  params : List (String × String)
  deriving DecidableEq, Repr

namespace HiViewAdapter

def INITIALIZATION_FAULT : Int := 950001100
def TIME_CONSUMING_STATISTIC : Int := 950001105
def PASTEBOARD_BEHAVIOUR : Int := 950001106

def EVENT_COVERT_TABLE : Std.TreeMap Int String :=
  OrderedMap.ofTable
    [(INITIALIZATION_FAULT, "INITIALIZATION_FAULT"),
      (TIME_CONSUMING_STATISTIC, "TIME_CONSUMING_STATISTIC"),
      (PASTEBOARD_BEHAVIOUR, "PASTEBOARD_BEHAVIOUR")]

def coverEventID (dfxCode : Int) : String :=
  EVENT_COVERT_TABLE[dfxCode]?.getD ""

def PASTEBOARD_STATE : String := "PASTEBOARD_STATE"
def COPY_STATE : String := "COPY_STATE"
def PASTE_STATE : String := "PASTE_STATE"

end HiViewAdapter

end Pasteboard
