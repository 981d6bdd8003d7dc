/-
  Pasteboard.Dfx.Statistics
  ─────────────────────────
  **THE TIME STATISTICS** (`hiview_adapter.cpp`): two tables of counters, one
  row for each data level and one counter for each time level.

    • A table is made by the first report after a flush, all counters 0, and a
      flush clears it: it is empty or complete in every state
      (`statistics_in_bounds`).
    • A report of a copy is counted in the table of the pastes, and the other
      way round; a flush then names each table as it is called
      (`statistics_right_iff`).
-/
import Pasteboard.Service.State
import Pasteboard.Dfx.Levels
import Pasteboard.Lib.Runs
import Pasteboard.Lib.Tally

namespace Pasteboard

open Lib

/-! ## §1. The tables. -/

structure TimeConsumingStat where
  pasteboardState : Int
  dataSize : Int
  timeConsuming : Int
  deriving DecidableEq, Repr

/-- Counters by time level, and a vector of these by data level. -/
abbrev StatRow : Type := Std.TreeMap Int Int
abbrev StatTable : Type := List StatRow

/-- The static tables of the adapter. -/
structure Statistics where
  copyTimeConsumingStat : StatTable := []
  pasteTimeConsumingStat : StatTable := []

namespace HiViewAdapter

open TimeConsumingLevel

def INIT_COPY_TIME_SONSUMING : Int := 7
def INIT_PASTE_TIME_SONSUMING : Int := 8
def DATA_LEVEL_NUMBERS : Nat := 7

def initTimeConsuming : StatRow :=
  OrderedMap.ofTable
    [(TIME_LEVEL_ONE.toInt, 0), (TIME_LEVEL_TWO.toInt, 0),
      (TIME_LEVEL_THREE.toInt, 0), (TIME_LEVEL_FOUR.toInt, 0),
      (TIME_LEVEL_FIVE.toInt, 0), (TIME_LEVEL_SIX.toInt, 0),
      (TIME_LEVEL_SEVEN.toInt, 0), (TIME_LEVEL_EIGHT.toInt, 0),
      (TIME_LEVEL_NINE.toInt, 0), (TIME_LEVEL_TEN.toInt, 0),
      (TIME_LEVEL_ELEVEN.toInt, 0)]

def initializeTimeConsuming (initFlag : Int) (s : Statistics) : Statistics :=
  let rows := List.replicate DATA_LEVEL_NUMBERS initTimeConsuming
  if initFlag = INIT_COPY_TIME_SONSUMING then
    { s with copyTimeConsumingStat := s.copyTimeConsumingStat ++ rows }
  else if initFlag = INIT_PASTE_TIME_SONSUMING then
    { s with pasteTimeConsumingStat := s.pasteTimeConsumingStat ++ rows }
  else s

/-- The body of the two `…TimeConsumingCount`: `none` is an index outside of
the vector. -/
def timeConsumingCount (dataLevel timeLevel : Int) (table : StatTable) :
    Option StatTable :=
  if (table.length : Int) ≤ dataLevel then some table
  else if dataLevel < 0 then none
  else
    (table[dataLevel.toNat]?).map fun row =>
      match row[timeLevel]? with
      | some n =>
          table.set dataLevel.toNat (row.insert timeLevel (increment n))
      | none => table

def copyTimeConsumingCount (dataLevel timeLevel : Int) (s : Statistics) :
    Option Statistics :=
  (timeConsumingCount dataLevel timeLevel s.copyTimeConsumingStat).map
    fun table => { s with copyTimeConsumingStat := table }

def pasteTimeConsumingCount (dataLevel timeLevel : Int) (s : Statistics) :
    Option Statistics :=
  (timeConsumingCount dataLevel timeLevel s.pasteTimeConsumingStat).map
    fun table => { s with pasteTimeConsumingStat := table }

def copyTimeConsuming (stat : TimeConsumingStat) (level : Int)
    (s : Statistics) : Option Statistics :=
  match timeMap[stat.timeConsuming]? with
  | some timeLevel => copyTimeConsumingCount level timeLevel s
  | none => some s

def pasteTimeConsuming (stat : TimeConsumingStat) (level : Int)
    (s : Statistics) : Option Statistics :=
  match timeMap[stat.timeConsuming]? with
  | some timeLevel => pasteTimeConsumingCount level timeLevel s
  | none => some s

/-- The tables as a report finds them: made where they were empty. -/
def prepared (s : Statistics) : Statistics :=
  let s :=
    if s.copyTimeConsumingStat.isEmpty then
      initializeTimeConsuming INIT_COPY_TIME_SONSUMING s
    else s
  if s.pasteTimeConsumingStat.isEmpty then
    initializeTimeConsuming INIT_PASTE_TIME_SONSUMING s
  else s

def reportTimeConsumingStatistic (stat : TimeConsumingStat) (s : Statistics) :
    Option Statistics :=
  let s := prepared s
  if stat.pasteboardState = SPS_PASTE_STATE then
    match dataMap[stat.dataSize]? with
    -- the report of a paste, and the table of the copies
    | some level => copyTimeConsuming stat level s
    | none => some s
  else if stat.pasteboardState = SPS_COPY_STATE then
    match dataMap[stat.dataSize]? with
    | some level => pasteTimeConsuming stat level s
    | none => some s
  else some s

/-! ## §2. The flush. -/

def DATA_LEVEL : String := "DATA_LEVEL"
def CONSUMING_DATA : String := "CONSUMING_DATA"

/-- The counters of a row as text: `none` is an `at` that throws. -/
def consumingData (row : StatRow) : Option String :=
  ((List.range 11).foldlM
    (fun buffMsg (j : Nat) =>
      (row[(j : Int)]?).map fun n => buffMsg ++ toString n ++ ",")
    ": [").map fun buffMsg => buffMsg ++ "]"

/-- The event of the row `i`. -/
def statisticEvent (pasteboardState : String) (i : Nat) (buffMsg : String) :
    SysEvent :=
  ⟨coverEventID TIME_CONSUMING_STATISTIC, .STATISTIC,
    [(PASTEBOARD_STATE, pasteboardState), (DATA_LEVEL, getDataLevel i),
      (CONSUMING_DATA, buffMsg)]⟩

/-- The loop over the rows, from the row `i` on. -/
def reportRows (pasteboardState : String) :
    Nat → StatTable → Option (List SysEvent)
  | _, [] => some []
  | i, row :: rows =>
      (consumingData row).bind fun buffMsg =>
        (reportRows pasteboardState (i + 1) rows).map fun events =>
          statisticEvent pasteboardState i buffMsg :: events

def reportStatisticEvent (timeConsumingStat : StatTable)
    (pasteboardState : String) : Option (List SysEvent) :=
  if timeConsumingStat.isEmpty then some []
  else reportRows pasteboardState 0 timeConsumingStat

def invokeTimeConsuming (s : Statistics) :
    Option (Statistics × List SysEvent) :=
  (reportStatisticEvent s.copyTimeConsumingStat COPY_STATE).bind fun copy =>
    let s := { s with copyTimeConsumingStat := [] }
    (reportStatisticEvent s.pasteTimeConsumingStat PASTE_STATE).map
      fun paste => ({ s with pasteTimeConsumingStat := [] }, copy ++ paste)

end HiViewAdapter

/-- What comes in: a report, or the flush of the timer thread. -/
inductive StatInput where
  | reportTimeConsumingStatistic (stat : TimeConsumingStat)
  | invokeTimeConsuming

/-- The statistics as a machine; both steps hold the mutex from end to end. -/
def statisticsMachine : Machine Statistics StatInput SysEvent where
  step s
    | .reportTimeConsumingStatistic stat =>
        (HiViewAdapter.reportTimeConsumingStatistic stat s).map (·, [])
    | .invokeTimeConsuming => HiViewAdapter.invokeTimeConsuming s

/-! ## §3. Complete tables. -/

open HiViewAdapter

namespace StatTable

/-- Seven rows, each with exactly the time levels as its keys. -/
structure Complete (table : StatTable) : Prop where
  length_eq : table.length = 7
  keys : ∀ row ∈ table, ∀ k : Int,
    k ∈ row ↔ ∃ l : TimeConsumingLevel, k = l.toInt

/-- The counter of a data level and a time level, 0 where there is none. -/
def count (table : StatTable) (d : Nat) (t : Int) : Int :=
  ((table[d]?).bind fun row => row[t]?).getD 0

/-- The rows a table starts with. -/
def initial : StatTable := List.replicate DATA_LEVEL_NUMBERS initTimeConsuming

theorem initTimeConsuming_getElem? (k : Int) :
    initTimeConsuming[k]? = if 0 ≤ k ∧ k < 11 then some 0 else none := by
  show (OrderedMap.ofTable _)[k]? = _
  rw [OrderedMap.getElem?_ofTable]
  exact lookup_range (fun _ => 0) 11 k

theorem complete_initial : initial.Complete where
  length_eq := rfl
  keys row hrow k := by
    rw [List.eq_of_mem_replicate hrow, Std.TreeMap.mem_iff_isSome_getElem?,
      initTimeConsuming_getElem?, timeLevel_iff]
    split <;> simp [*]

theorem count_initial (d : Nat) (t : Int) : initial.count d t = 0 := by
  unfold initial count
  rw [List.getElem?_replicate]
  split
  · rw [Option.bind_some, initTimeConsuming_getElem?]
    split <;> rfl
  · rfl

variable {table : StatTable}

theorem Complete.row (h : table.Complete) {d : Nat} (hd : d < 7) :
    ∃ row, table[d]? = some row ∧ row ∈ table := by
  have hlt : d < table.length := by
    rw [h.length_eq]
    exact hd
  exact ⟨table[d], List.getElem?_eq_getElem hlt, List.getElem_mem hlt⟩

/-- Every row of a complete table has a counter for every time level. -/
theorem Complete.counter (h : table.Complete) {row : StatRow}
    (hrow : row ∈ table) {t : Int} (ht : 0 ≤ t ∧ t < 11) :
    ∃ n, row[t]? = some n := by
  have hmem : t ∈ row := (h.keys row hrow t).mpr ((timeLevel_iff t).mpr ht)
  rw [Std.TreeMap.mem_iff_isSome_getElem?] at hmem
  exact Option.isSome_iff_exists.mp hmem

/-- A counter of a complete table may change its value. -/
theorem Complete.set (h : table.Complete) {row : StatRow}
    (hrow : row ∈ table) {t : Int} (ht : 0 ≤ t ∧ t < 11) (d : Nat) (n : Int) :
    StatTable.Complete (table.set d (row.insert t n)) where
  length_eq := by
    rw [List.length_set]
    exact h.length_eq
  keys := by
    intro row' hrow' k
    rcases List.mem_or_eq_of_mem_set hrow' with hold | hnew
    · exact h.keys row' hold k
    · subst hnew
      rw [Std.TreeMap.mem_insert, Std.LawfulEqCmp.compare_eq_iff_eq,
        h.keys row hrow k, or_iff_right_iff_imp]
      intro hk
      subst hk
      exact (timeLevel_iff t).mpr ht

/-- **One more in one counter of a complete table.** -/
theorem Complete.timeConsumingCount (h : table.Complete) {d : Nat} {t : Int}
    (hd : d < 7) (ht : 0 ≤ t ∧ t < 11) :
    ∃ table', HiViewAdapter.timeConsumingCount d t table = some table'
      ∧ StatTable.Complete table'
      ∧ ∀ d' t', StatTable.count table' d' t'
        = if d = d' ∧ t = t' then increment (table.count d' t')
          else table.count d' t' := by
  obtain ⟨row, hrow, hmem⟩ := h.row hd
  obtain ⟨n, hn⟩ := h.counter hmem ht
  have hlt : d < table.length := by
    rw [h.length_eq]
    exact hd
  refine ⟨table.set d (row.insert t (increment n)), ?_, ?_, ?_⟩
  · unfold HiViewAdapter.timeConsumingCount
    rw [if_neg (by omega), if_neg (by omega), Int.toNat_natCast, hrow,
      Option.map_some, hn]
  · exact h.set hmem ht d _
  · intro d' t'
    unfold count
    rw [List.getElem?_set]
    by_cases hd' : d = d'
    · subst hd'
      rw [if_pos rfl, if_pos hlt, hrow, Option.bind_some, Option.bind_some,
        OrderedMap.getElem?_insert_eq]
      by_cases ht' : t = t'
      · subst ht'
        rw [if_pos rfl, if_pos ⟨rfl, rfl⟩, hn]
        rfl
      · rw [if_neg ht', if_neg fun hand => ht' hand.2]
    · rw [if_neg hd', if_neg fun hand => hd' hand.1]

/-- What a report with the data level `d` and the time `t` makes of its
table. -/
def counted (d : Nat) (t : Int) (table : StatTable) : Option StatTable :=
  (timeMap[t]?).elim (some table) fun timeLevel =>
    timeConsumingCount d timeLevel table

/-- **A report is counted under its own two levels**, if it has any. -/
theorem Complete.counted (h : table.Complete) {d : Nat} (hd : d < 7)
    (t : Int) :
    ∃ table', StatTable.counted d t table = some table'
      ∧ StatTable.Complete table'
      ∧ ∀ d' t', 0 ≤ t' ∧ t' < 11 → StatTable.count table' d' t'
        = if d = d' ∧ t = t' then increment (table.count d' t')
          else table.count d' t' := by
  unfold StatTable.counted
  by_cases ht : 0 ≤ t ∧ t < 11
  · rw [timeMap_getElem?, if_pos ht]
    obtain ⟨table', htable, hcomplete, hcount⟩ := h.timeConsumingCount hd ht
    exact ⟨table', htable, hcomplete, fun d' t' _ => hcount d' t'⟩
  · -- no time level: nothing is counted
    rw [timeMap_getElem?, if_neg ht]
    refine ⟨table, rfl, h, ?_⟩
    intro d' t' ht'
    rw [if_neg]
    intro hand
    rw [hand.2] at ht
    exact ht ht'

end StatTable

/-! ## §4. One report. -/

/-- The report is of this state, data range and time level. -/
def TimeConsumingStat.Is (stat : TimeConsumingStat) (state : Int) (d : Nat)
    (t : Int) : Prop :=
  stat.pasteboardState = state ∧ stat.dataSize = d ∧ stat.timeConsuming = t

instance (stat : TimeConsumingStat) (state : Int) (d : Nat) (t : Int) :
    Decidable (stat.Is state d t) :=
  inferInstanceAs (Decidable (_ ∧ _ ∧ _))

/-- Of a report with a known state and range, two levels are left. -/
theorem TimeConsumingStat.is_iff {stat : TimeConsumingStat} {state : Int}
    {n : Nat} (hstate : stat.pasteboardState = state)
    (hn : stat.dataSize = n) (d : Nat) (t : Int) :
    stat.Is state d t ↔ n = d ∧ stat.timeConsuming = t := by
  unfold TimeConsumingStat.Is
  rw [hn, Int.natCast_inj]
  simp only [hstate, true_and]

namespace Statistics

/-- Each table is empty or complete. -/
structure Shaped (s : Statistics) : Prop where
  copy : s.copyTimeConsumingStat = [] ∨ s.copyTimeConsumingStat.Complete
  paste : s.pasteTimeConsumingStat = [] ∨ s.pasteTimeConsumingStat.Complete

/-- Both are complete. -/
structure Ready (s : Statistics) : Prop where
  copy : s.copyTimeConsumingStat.Complete
  paste : s.pasteTimeConsumingStat.Complete

theorem Ready.shaped {s : Statistics} (h : s.Ready) : s.Shaped :=
  ⟨Or.inr h.copy, Or.inr h.paste⟩

theorem shaped_empty : ({} : Statistics).Shaped := ⟨Or.inl rfl, Or.inl rfl⟩

/-- A complete table is not made anew. -/
theorem isEmpty_of_complete {table : StatTable} (h : table.Complete) :
    ¬ table.isEmpty = true := by
  rw [List.isEmpty_iff]
  intro hnil
  have hlen := h.length_eq
  rw [hnil] at hlen
  cases hlen

/-- A table as a report finds it. -/
def made (table : StatTable) : StatTable :=
  if table.isEmpty then StatTable.initial else table

theorem prepared_eq (s : Statistics) :
    prepared s = ⟨made s.copyTimeConsumingStat, made s.pasteTimeConsumingStat⟩ := by
  obtain ⟨copy, paste⟩ := s
  cases copy <;> cases paste <;> rfl

/-- It is complete, with the counters as they were. -/
theorem complete_made {table : StatTable}
    (h : table = [] ∨ table.Complete) :
    (made table).Complete ∧ ∀ d t, (made table).count d t = table.count d t := by
  unfold made
  rcases h with h | h
  · subst h
    exact ⟨StatTable.complete_initial, StatTable.count_initial⟩
  · rw [if_neg (isEmpty_of_complete h)]
    exact ⟨h, fun _ _ => rfl⟩

/-- **A report finds both tables complete**, with the counters as they were. -/
theorem Shaped.prepared {s : Statistics} (h : s.Shaped) :
    (prepared s).Ready
      ∧ (∀ d t, (prepared s).copyTimeConsumingStat.count d t
          = s.copyTimeConsumingStat.count d t)
      ∧ ∀ d t, (prepared s).pasteTimeConsumingStat.count d t
          = s.pasteTimeConsumingStat.count d t := by
  rw [prepared_eq]
  obtain ⟨hcopy, hcopycount⟩ := complete_made h.copy
  obtain ⟨hpaste, hpastecount⟩ := complete_made h.paste
  exact ⟨⟨hcopy, hpaste⟩, hcopycount, hpastecount⟩

theorem copyTimeConsuming_eq (stat : TimeConsumingStat) (d : Nat)
    (s : Statistics) :
    copyTimeConsuming stat d s
      = (StatTable.counted d stat.timeConsuming s.copyTimeConsumingStat).map
          fun table => { s with copyTimeConsumingStat := table } := by
  unfold copyTimeConsuming StatTable.counted
  cases timeMap[stat.timeConsuming]? <;> rfl

theorem pasteTimeConsuming_eq (stat : TimeConsumingStat) (d : Nat)
    (s : Statistics) :
    pasteTimeConsuming stat d s
      = (StatTable.counted d stat.timeConsuming s.pasteTimeConsumingStat).map
          fun table => { s with pasteTimeConsumingStat := table } := by
  unfold pasteTimeConsuming StatTable.counted
  cases timeMap[stat.timeConsuming]? <;> rfl

/-- `s'` has counted one report of `stat` among those of the states `c` and
`p`, in the table of the copies and in that of the pastes. -/
structure Counts (stat : TimeConsumingStat) (c p : Int) (s s' : Statistics) :
    Prop where
  copy : ∀ d t, d < 7 → 0 ≤ t ∧ t < 11 →
    s'.copyTimeConsumingStat.count d t
      = if stat.Is c d t then increment (s.copyTimeConsumingStat.count d t)
        else s.copyTimeConsumingStat.count d t
  paste : ∀ d t, d < 7 → 0 ≤ t ∧ t < 11 →
    s'.pasteTimeConsumingStat.count d t
      = if stat.Is p d t then increment (s.pasteTimeConsumingStat.count d t)
        else s.pasteTimeConsumingStat.count d t

/-- A report that is in no range, or in none of the states, is not counted. -/
theorem Counts.of_same {stat : TimeConsumingStat} {c p : Int} {s : Statistics}
    (h : ∀ d t, d < 7 → ¬ stat.Is c d t ∧ ¬ stat.Is p d t) :
    Counts stat c p s s where
  copy d t hd _ := (if_neg (h d t hd).1).symm
  paste d t hd _ := (if_neg (h d t hd).2).symm

/-- **WHERE A REPORT IS COUNTED**: one of a paste in the table of the copies,
one of a copy in the table of the pastes. -/
theorem Shaped.report {s : Statistics} (h : s.Shaped)
    (stat : TimeConsumingStat) :
    ∃ s', reportTimeConsumingStatistic stat s = some s' ∧ s'.Ready
      ∧ Counts stat SPS_PASTE_STATE SPS_COPY_STATE s s' := by
  obtain ⟨hready, hcopy, hpaste⟩ := h.prepared
  -- it is enough to compare with the prepared tables
  suffices hyp : ∃ s', reportTimeConsumingStatistic stat s = some s'
      ∧ s'.Ready
      ∧ Counts stat SPS_PASTE_STATE SPS_COPY_STATE (HiViewAdapter.prepared s)
          s' by
    obtain ⟨s', hs', hready', hcounts⟩ := hyp
    refine ⟨s', hs', hready', ⟨?_, ?_⟩⟩
    · intro d t hd ht
      rw [hcounts.copy d t hd ht, hcopy]
    · intro d t hd ht
      rw [hcounts.paste d t hd ht, hpaste]
  unfold reportTimeConsumingStatistic
  generalize HiViewAdapter.prepared s = s₀ at hready
  dsimp only
  by_cases hrange : 0 ≤ stat.dataSize ∧ stat.dataSize < 7
  · obtain ⟨n, hn⟩ : ∃ n : Nat, stat.dataSize = n :=
      ⟨stat.dataSize.toNat, by omega⟩
    have hlt : n < 7 := by omega
    rw [dataMap_getElem?, if_pos hrange, hn]
    by_cases hp : stat.pasteboardState = SPS_PASTE_STATE
    · rw [if_pos hp]
      show ∃ s', copyTimeConsuming stat n s₀ = some s' ∧ _
      obtain ⟨table, htable, hcomplete, hcount⟩ :=
        hready.copy.counted hlt stat.timeConsuming
      rw [copyTimeConsuming_eq, htable]
      refine ⟨_, rfl, ⟨hcomplete, hready.paste⟩, ⟨?_, ?_⟩⟩
      · intro d t _ ht
        show StatTable.count table d t = _
        rw [hcount d t ht]
        exact if_congr (TimeConsumingStat.is_iff hp hn d t).symm rfl rfl
      · intro d t _ _
        refine (if_neg fun his => ?_).symm
        rw [his.1] at hp
        cases hp
    · rw [if_neg hp]
      by_cases hc : stat.pasteboardState = SPS_COPY_STATE
      · rw [if_pos hc]
        show ∃ s', pasteTimeConsuming stat n s₀ = some s' ∧ _
        obtain ⟨table, htable, hcomplete, hcount⟩ :=
          hready.paste.counted hlt stat.timeConsuming
        rw [pasteTimeConsuming_eq, htable]
        refine ⟨_, rfl, ⟨hready.copy, hcomplete⟩, ⟨?_, ?_⟩⟩
        · intro d t _ _
          exact (if_neg fun his => hp his.1).symm
        · intro d t _ ht
          show StatTable.count table d t = _
          rw [hcount d t ht]
          exact if_congr (TimeConsumingStat.is_iff hc hn d t).symm rfl rfl
      · rw [if_neg hc]
        exact ⟨s₀, rfl, hready, Counts.of_same fun _ _ _ =>
          ⟨fun his => hp his.1, fun his => hc his.1⟩⟩
  · -- no data level: neither branch counts
    rw [dataMap_getElem?, if_neg hrange]
    refine ⟨s₀, ?_, hready, Counts.of_same ?_⟩
    · split
      · rfl
      · split <;> rfl
    · intro d t hd
      have hno : ∀ state, ¬ stat.Is state d t := by
        intro state his
        apply hrange
        rw [his.2.1]
        omega
      exact ⟨hno _, hno _⟩

end Statistics

/-! ## §5. One flush. -/

/-- The text of a row with these counters. -/
def rowText (counter : Int → Int) : String :=
  ": [" ++ String.join ((List.range 11).map fun t : Nat =>
    toString (counter t) ++ ",") ++ "]"

/-- The events that show a table under the label `pasteboardState`. -/
def tableEvents (pasteboardState : String) (table : StatTable) :
    List SysEvent :=
  if table = [] then []
  else (List.range 7).map fun d =>
    statisticEvent pasteboardState d (rowText (table.count d))

/-- Every `at` of the loop over the time levels succeeds. -/
theorem foldlM_counters {row : StatRow} {counter : Int → Int} :
    ∀ (js : List Nat) (buffMsg : String),
      (∀ j ∈ js, row[(j : Int)]? = some (counter j)) →
      js.foldlM
          (fun buffMsg (j : Nat) =>
            (row[(j : Int)]?).map fun n => buffMsg ++ toString n ++ ",")
          buffMsg
        = some (buffMsg ++ String.join (js.map fun j : Nat =>
            toString (counter j) ++ ",")) := by
  intro js
  induction js with
  | nil =>
      intro buffMsg _
      simp
  | cons j js ih =>
      intro buffMsg h
      have hrest := ih (buffMsg ++ toString (counter j) ++ ",")
        fun j' hj' => h j' (List.mem_cons_of_mem j hj')
      rw [List.foldlM_cons, h j List.mem_cons_self, List.map_cons,
        String.join_cons]
      show List.foldlM _ _ js = _
      rw [hrest]
      simp only [String.append_assoc]

theorem consumingData_eq {row : StatRow} {counter : Int → Int}
    (h : ∀ t, 0 ≤ t ∧ t < 11 → row[t]? = some (counter t)) :
    consumingData row = some (rowText counter) := by
  unfold consumingData
  rw [foldlM_counters (List.range 11)]
  · rfl
  · intro j hj
    rw [List.mem_range] at hj
    exact h j (by omega)

/-- The rows, from the row `i` of a table on. -/
theorem reportRows_eq {table : StatTable} (h : table.Complete)
    (state : String) :
    ∀ (rows : List StatRow) (i : Nat), table.drop i = rows →
      reportRows state i rows
        = some ((List.range' i rows.length).map fun d =>
            statisticEvent state d (rowText (table.count d))) := by
  intro rows
  induction rows with
  | nil =>
      intro i _
      rfl
  | cons row rows ih =>
      intro i hi
      -- the row `i` of the table is in front
      have hrow : table[i]? = some row := by
        rw [← List.head?_drop, hi]
        rfl
      have hrest : table.drop (i + 1) = rows := by
        rw [← List.tail_drop, hi]
        rfl
      have hdata : consumingData row = some (rowText (table.count i)) := by
        refine consumingData_eq fun t ht => ?_
        obtain ⟨n, hn⟩ := h.counter (List.mem_of_getElem? hrow) ht
        unfold StatTable.count
        rw [hrow, Option.bind_some, hn]
        rfl
      rw [reportRows, hdata, Option.bind_some, ih (i + 1) hrest,
        List.length_cons, List.range'_succ]
      rfl

/-- **A flush reports a table that is empty or complete.** -/
theorem reportStatisticEvent_eq {table : StatTable}
    (h : table = [] ∨ table.Complete) (state : String) :
    reportStatisticEvent table state = some (tableEvents state table) := by
  rcases h with h | h
  · subst h
    rfl
  · have hne : ¬ table = [] := by
      rw [← List.isEmpty_iff]
      exact Statistics.isEmpty_of_complete h
    unfold reportStatisticEvent tableEvents
    rw [if_neg (Statistics.isEmpty_of_complete h), if_neg hne,
      reportRows_eq h state table 0 rfl, h.length_eq, List.range_eq_range']

/-- **A flush shows each table under the state it is named after**, and clears
both. -/
theorem Statistics.Shaped.invoke {s : Statistics} (h : s.Shaped) :
    invokeTimeConsuming s
      = some ({}, tableEvents COPY_STATE s.copyTimeConsumingStat
          ++ tableEvents PASTE_STATE s.pasteTimeConsumingStat) := by
  unfold invokeTimeConsuming
  rw [reportStatisticEvent_eq h.copy, Option.bind_some]
  dsimp only
  rw [reportStatisticEvent_eq h.paste]
  rfl

/-- The labels of a table's events. -/
theorem label_of_mem_tableEvents {state : String} {table : StatTable}
    {e : SysEvent} (h : e ∈ tableEvents state table) :
    ∃ i : Int, 0 ≤ i ∧ i < 7
      ∧ e.params.lookup DATA_LEVEL = some (getDataLevel i) := by
  unfold tableEvents at h
  split at h
  · cases h
  · obtain ⟨d, hd, he⟩ := List.mem_map.mp h
    rw [List.mem_range] at hd
    subst he
    exact ⟨d, by omega, by omega, rfl⟩

/-! ## §6. Runs. -/

/-- A report as a step. -/
theorem Statistics.Shaped.step_report {s : Statistics} (h : s.Shaped)
    (stat : TimeConsumingStat) :
    ∃ s', statisticsMachine.step s (.reportTimeConsumingStatistic stat)
        = some (s', []) ∧ s'.Ready
      ∧ Counts stat SPS_PASTE_STATE SPS_COPY_STATE s s' := by
  obtain ⟨s', hs', hready, hcounts⟩ := h.report stat
  refine ⟨s', ?_, hready, hcounts⟩
  show (reportTimeConsumingStatistic stat s).map _ = _
  rw [hs']
  rfl

/-- Every step is possible, and keeps the tables empty or complete. -/
theorem statistics_step {s : Statistics} (h : s.Shaped) (i : StatInput) :
    ∃ s' os, statisticsMachine.step s i = some (s', os) ∧ s'.Shaped
      ∧ ∀ e ∈ os, ∃ i : Int, 0 ≤ i ∧ i < 7
        ∧ e.params.lookup DATA_LEVEL = some (getDataLevel i) := by
  cases i with
  | reportTimeConsumingStatistic stat =>
      obtain ⟨s', hstep, hready, _⟩ := h.step_report stat
      refine ⟨s', [], hstep, hready.shaped, ?_⟩
      intro e he
      cases he
  | invokeTimeConsuming =>
      refine ⟨{}, _, h.invoke, Statistics.shaped_empty, ?_⟩
      intro e he
      rcases List.mem_append.mp he with he | he
      · exact label_of_mem_tableEvents he
      · exact label_of_mem_tableEvents he

/-- **THE TABLES ARE NEVER INDEXED OUT OF RANGE.**  Any run of reports, with
any fields, and flushes is possible to its end: no row is accessed outside of
its table and no `at` throws.  Each table is then empty, or has seven rows with
exactly the time levels for keys; and every label reported is that of a data
level. -/
theorem statistics_in_bounds (is : List StatInput) :
    ∃ s os, statisticsMachine.run {} is = some (s, os)
      ∧ (s.copyTimeConsumingStat = [] ∨ s.copyTimeConsumingStat.Complete)
      ∧ (s.pasteTimeConsumingStat = [] ∨ s.pasteTimeConsumingStat.Complete)
      ∧ ∀ e ∈ os, ∃ i : Int, 0 ≤ i ∧ i < 7
        ∧ e.params.lookup DATA_LEVEL = some (getDataLevel i)
        ∧ getDataLevel i ≠ WRONG_LEVEL := by
  obtain ⟨s, os, hrun, hs, hlabels⟩ :=
    statisticsMachine.run_total (fun s i h => statistics_step h i) is
      Statistics.shaped_empty
  refine ⟨s, os, hrun, hs.copy, hs.paste, ?_⟩
  intro e he
  obtain ⟨i, hlow, hup, hlabel⟩ := hlabels e he
  exact ⟨i, hlow, hup, hlabel, (getDataLevel_ne_wrong_iff i).mpr ⟨hlow, hup⟩⟩

/-! ## §7. What is counted, and where. -/

/-- The report of an input, a flush has none. -/
def StatInput.stat : StatInput → Option TimeConsumingStat
  | .reportTimeConsumingStatistic stat => some stat
  | .invokeTimeConsuming => none

/-- How many reports since the last flush are of this state, data range and
time level. -/
def reports (is : List StatInput) (state : Int) (d : Nat) (t : Int) : Nat :=
  (sinceLast StatInput.stat is).countP fun stat => decide (stat.Is state d t)

theorem reports_report (is : List StatInput) (stat : TimeConsumingStat)
    (state : Int) (d : Nat) (t : Int) :
    reports (is ++ [.reportTimeConsumingStatistic stat]) state d t
      = reports is state d t + if stat.Is state d t then 1 else 0 := by
  unfold reports
  rw [sinceLast_concat]
  show (sinceLast StatInput.stat is ++ [stat]).countP _ = _
  rw [List.countP_append, List.countP_singleton]
  simp only [decide_eq_true_eq]

theorem reports_flush (is : List StatInput) (state : Int) (d : Nat) (t : Int) :
    reports (is ++ [.invokeTimeConsuming]) state d t = 0 := by
  unfold reports
  rw [sinceLast_concat]
  rfl

/-- Each counter of the copies is the number of reports of copies, each of the
pastes that of reports of pastes. -/
structure CountsRight (is : List StatInput) (s : Statistics) : Prop where
  copy : ∀ d t, d < 7 → 0 ≤ t ∧ t < 11 →
    s.copyTimeConsumingStat.count d t = reports is SPS_COPY_STATE d t
  paste : ∀ d t, d < 7 → 0 ≤ t ∧ t < 11 →
    s.pasteTimeConsumingStat.count d t = reports is SPS_PASTE_STATE d t

/-- The tables are in shape, and each counts the reports of the OTHER state, as
an `int` does. -/
structure CountsOther (is : List StatInput) (s : Statistics) : Prop where
  shaped : s.Shaped
  copy : ∀ d t, d < 7 → 0 ≤ t ∧ t < 11 →
    s.copyTimeConsumingStat.count d t = int32 (reports is SPS_PASTE_STATE d t)
  paste : ∀ d t, d < 7 → 0 ≤ t ∧ t < 11 →
    s.pasteTimeConsumingStat.count d t = int32 (reports is SPS_COPY_STATE d t)

theorem countsOther_nil : CountsOther [] {} where
  shaped := Statistics.shaped_empty
  copy d t _ _ := by
    rw [show reports [] SPS_PASTE_STATE d t = 0 from rfl, int32_zero]
    rfl
  paste d t _ _ := by
    rw [show reports [] SPS_COPY_STATE d t = 0 from rfl, int32_zero]
    rfl

/-- One more report, and the counter of it. -/
theorem int32_reports_report (is : List StatInput) (stat : TimeConsumingStat)
    (state : Int) (d : Nat) (t : Int) :
    (if stat.Is state d t then increment (int32 (reports is state d t))
        else int32 (reports is state d t))
      = int32 (reports (is ++ [.reportTimeConsumingStatistic stat]) state d
          t) := by
  rw [reports_report]
  by_cases his : stat.Is state d t
  · rw [if_pos his, if_pos his, increment_int32]
  · rw [if_neg his, if_neg his, Nat.add_zero]

/-- **One step.** -/
theorem CountsOther.step {is : List StatInput} {s s' : Statistics}
    {i : StatInput} {os : List SysEvent} (h : CountsOther is s)
    (hstep : statisticsMachine.step s i = some (s', os)) :
    CountsOther (is ++ [i]) s' := by
  cases i with
  | reportTimeConsumingStatistic stat =>
      obtain ⟨s₁, hreport, hready, hcounts⟩ := h.shaped.step_report stat
      obtain ⟨hs', _⟩ := statisticsMachine.step_det hreport hstep
      subst hs'
      refine ⟨hready.shaped, ?_, ?_⟩
      · intro d t hd ht
        rw [hcounts.copy d t hd ht, h.copy d t hd ht, int32_reports_report]
      · intro d t hd ht
        rw [hcounts.paste d t hd ht, h.paste d t hd ht, int32_reports_report]
  | invokeTimeConsuming =>
      have hflush : statisticsMachine.step s .invokeTimeConsuming
          = some ({}, _) := h.shaped.invoke
      obtain ⟨hs', _⟩ := statisticsMachine.step_det hflush hstep
      subst hs'
      refine ⟨Statistics.shaped_empty, ?_, ?_⟩
      · intro d t _ _
        rw [reports_flush, int32_zero]
        rfl
      · intro d t _ _
        rw [reports_flush, int32_zero]
        rfl

/-- **THE TABLES ARE SWAPPED**: after any run, each counts the reports of the
other state since the last flush. -/
theorem countsOther_run {is : List StatInput} {s : Statistics}
    {os : List SysEvent}
    (hrun : statisticsMachine.run {} is = some (s, os)) : CountsOther is s :=
  statisticsMachine.history_of_allSteps CountsOther (G := fun _ _ => True)
    countsOther_nil (fun _ _ _ _ _ h _ hstep => h.step hstep) is hrun
    fun _ _ _ _ _ _ _ => trivial

/-- The report is of a state, a data range and a time level there are. -/
def TimeConsumingStat.Known (stat : TimeConsumingStat) : Prop :=
  (stat.pasteboardState = SPS_COPY_STATE
      ∨ stat.pasteboardState = SPS_PASTE_STATE)
    ∧ (0 ≤ stat.dataSize ∧ stat.dataSize < 7)
    ∧ 0 ≤ stat.timeConsuming ∧ stat.timeConsuming < 11

/-- What the statistics should be over a run: right in every state of it;
unchanged by an unknown report; shown and cleared by a flush. -/
structure StatisticsRight (is : List StatInput) : Prop where
  counts : ∀ pre post s os, is = pre ++ post →
    statisticsMachine.run {} pre = some (s, os) → CountsRight pre s
  unknown : ∀ pre stat post s os s' os',
    is = pre ++ .reportTimeConsumingStatistic stat :: post → ¬ stat.Known →
    statisticsMachine.run {} pre = some (s, os) →
    statisticsMachine.step s (.reportTimeConsumingStatistic stat)
      = some (s', os') →
    os' = [] ∧ ∀ d t, d < 7 → 0 ≤ t ∧ t < 11 →
      s'.copyTimeConsumingStat.count d t = s.copyTimeConsumingStat.count d t
      ∧ s'.pasteTimeConsumingStat.count d t
        = s.pasteTimeConsumingStat.count d t
  flush : ∀ pre post s os, is = pre ++ .invokeTimeConsuming :: post →
    statisticsMachine.run {} pre = some (s, os) →
    statisticsMachine.step s .invokeTimeConsuming
      = some ({}, tableEvents COPY_STATE s.copyTimeConsumingStat
          ++ tableEvents PASTE_STATE s.pasteTimeConsumingStat)

theorem TimeConsumingStat.Is.known {stat : TimeConsumingStat} {state : Int}
    {d : Nat} {t : Int} (his : stat.Is state d t)
    (hstate : state = SPS_COPY_STATE ∨ state = SPS_PASTE_STATE) (hd : d < 7)
    (ht : 0 ≤ t ∧ t < 11) : stat.Known := by
  obtain ⟨hs, hn, htime⟩ := his
  subst hs htime
  refine ⟨hstate, ?_, ht⟩
  rw [hn]
  omega

theorem not_is_of_unknown {stat : TimeConsumingStat} (h : ¬ stat.Known)
    {d : Nat} {t : Int} (hd : d < 7) (ht : 0 ≤ t ∧ t < 11) :
    ¬ stat.Is SPS_COPY_STATE d t ∧ ¬ stat.Is SPS_PASTE_STATE d t := by
  constructor
  · intro his
    exact h (his.known (Or.inl rfl) hd ht)
  · intro his
    exact h (his.known (Or.inr rfl) hd ht)

theorem reports_eq_zero {is : List StatInput}
    (h : ∀ stat, .reportTimeConsumingStatistic stat ∈ is → ¬ stat.Known)
    {d : Nat} {t : Int} (hd : d < 7) (ht : 0 ≤ t ∧ t < 11) :
    reports is SPS_COPY_STATE d t = 0 ∧ reports is SPS_PASTE_STATE d t = 0 := by
  induction is using List.reverseRecOn with
  | nil => exact ⟨rfl, rfl⟩
  | append_singleton is i ih =>
      have hrest := ih fun stat hmem => h stat (List.mem_append_left _ hmem)
      cases i with
      | invokeTimeConsuming => exact ⟨reports_flush .., reports_flush ..⟩
      | reportTimeConsumingStatistic stat =>
          have hno := h stat (by simp)
          obtain ⟨hcopy, hpaste⟩ := not_is_of_unknown hno hd ht
          rw [reports_report, reports_report, if_neg hcopy, if_neg hpaste]
          exact hrest

/-- A report of the one state moves its counter, and not the number of reports
of the other: the two cannot agree before it and after it. -/
theorem is_other_of_agree {pre : List StatInput} {stat : TimeConsumingStat}
    {state state' : Int} {d : Nat} {t : Int}
    (hold : int32 (reports pre state d t) = reports pre state' d t)
    (hnew : int32 (reports (pre ++ [.reportTimeConsumingStatistic stat])
        state d t)
      = reports (pre ++ [.reportTimeConsumingStatistic stat]) state' d t)
    (his : stat.Is state d t) : stat.Is state' d t := by
  by_contra hno
  rw [← int32_reports_report, if_pos his, reports_report, if_neg hno, hold]
    at hnew
  exact increment_ne _ hnew

/-- After a known report the tables cannot be right before it and after it. -/
theorem not_known_of_right {pre : List StatInput} {stat : TimeConsumingStat}
    {s s' : Statistics} {os : List SysEvent} (h : CountsOther pre s)
    (hstep : statisticsMachine.step s (.reportTimeConsumingStatistic stat)
      = some (s', os))
    (hright : CountsRight pre s)
    (hright' : CountsRight (pre ++ [.reportTimeConsumingStatistic stat]) s') :
    ¬ stat.Known := by
  intro hknown
  obtain ⟨hstate, hd, ht⟩ := hknown
  obtain ⟨n, hn⟩ : ∃ n : Nat, stat.dataSize = n :=
    ⟨stat.dataSize.toNat, by omega⟩
  have hlt : n < 7 := by omega
  have h' := h.step hstep
  rcases hstate with hstate | hstate
  · -- a copy moves the counter of the pastes
    have hold := (h.paste n _ hlt ht).symm.trans (hright.paste n _ hlt ht)
    have hnew := (h'.paste n _ hlt ht).symm.trans (hright'.paste n _ hlt ht)
    have hpaste := is_other_of_agree hold hnew ⟨hstate, hn, rfl⟩
    cases hstate.symm.trans hpaste.1
  · -- a paste moves the counter of the copies
    have hold := (h.copy n _ hlt ht).symm.trans (hright.copy n _ hlt ht)
    have hnew := (h'.copy n _ hlt ht).symm.trans (hright'.copy n _ hlt ht)
    have hcopy := is_other_of_agree hold hnew ⟨hstate, hn, rfl⟩
    cases hstate.symm.trans hcopy.1

/-- Where the counters are right: as many reports of copies as of pastes. -/
theorem CountsOther.countsRight_iff {is : List StatInput} {s : Statistics}
    (h : CountsOther is s) :
    CountsRight is s ↔ ∀ d t, d < 7 → 0 ≤ t ∧ t < 11 →
      reports is SPS_COPY_STATE d t = reports is SPS_PASTE_STATE d t
        ∧ reports is SPS_PASTE_STATE d t < 2147483648 := by
  constructor
  · intro hright d t hd ht
    have hcopy := (h.copy d t hd ht).symm.trans (hright.copy d t hd ht)
    have hpaste := (h.paste d t hd ht).symm.trans (hright.paste d t hd ht)
    exact (int32_swap_iff _ _).mp ⟨hpaste, hcopy⟩
  · intro hbal
    constructor
    · intro d t hd ht
      rw [h.copy d t hd ht]
      exact ((int32_swap_iff _ _).mpr (hbal d t hd ht)).2
    · intro d t hd ht
      rw [h.paste d t hd ht]
      exact ((int32_swap_iff _ _).mpr (hbal d t hd ht)).1

theorem not_known_of_statisticsRight {is : List StatInput}
    (h : StatisticsRight is) {stat : TimeConsumingStat}
    (hmem : .reportTimeConsumingStatistic stat ∈ is) : ¬ stat.Known := by
  obtain ⟨pre, post, heq⟩ := List.append_of_mem hmem
  obtain ⟨s, os, hrun, hs, _⟩ :=
    statisticsMachine.run_total (fun s i h => statistics_step h i) pre
      Statistics.shaped_empty
  obtain ⟨s', os', hstep, _⟩ :=
    statistics_step hs (.reportTimeConsumingStatistic stat)
  have hrun' := statisticsMachine.run_concat hrun hstep
  refine not_known_of_right (countsOther_run hrun) hstep ?_ ?_
  · exact h.counts pre _ s os heq hrun
  · refine h.counts _ post s' _ ?_ hrun'
    rw [heq, List.append_assoc]
    rfl

theorem statisticsRight_of_not_known {is : List StatInput}
    (h : ∀ stat, .reportTimeConsumingStatistic stat ∈ is → ¬ stat.Known) :
    StatisticsRight is where
  counts pre post s os heq hrun := by
    rw [(countsOther_run hrun).countsRight_iff]
    intro d t hd ht
    have hpre : ∀ stat, .reportTimeConsumingStatistic stat ∈ pre →
        ¬ stat.Known := by
      intro stat hmem
      exact h stat (by rw [heq]; exact List.mem_append_left _ hmem)
    obtain ⟨hcopy, hpaste⟩ := reports_eq_zero hpre hd ht
    rw [hcopy, hpaste]
    exact ⟨rfl, by decide⟩
  unknown pre stat post s os s' os' heq hno hrun hstep := by
    obtain ⟨s₁, hreport, _, hcounts⟩ :=
      (countsOther_run hrun).shaped.step_report stat
    obtain ⟨hs', hos'⟩ := statisticsMachine.step_det hreport hstep
    subst hs' hos'
    refine ⟨rfl, ?_⟩
    intro d t hd ht
    obtain ⟨hcopy, hpaste⟩ := not_is_of_unknown hno hd ht
    exact ⟨by rw [hcounts.copy d t hd ht, if_neg hpaste],
      by rw [hcounts.paste d t hd ht, if_neg hcopy]⟩
  flush pre post s os _ hrun := (countsOther_run hrun).shaped.invoke

/-- **RIGHT ONLY WHERE NOTHING IS COUNTED.**  The statistics are right in every
state of a run, whatever its flushes, if and only if no report of the run is
of a known state, data range and time level.  For a report of a copy is
counted among the pastes, and one of a paste among the copies: at the end of a
run the counters are right exactly when there were as many of the one as of
the other since the last flush. -/
theorem statistics_right_iff (is : List StatInput) :
    (StatisticsRight is
      ↔ ∀ stat, .reportTimeConsumingStatistic stat ∈ is → ¬ stat.Known)
    ∧ ∀ s os, statisticsMachine.run {} is = some (s, os) →
      (CountsRight is s ↔ ∀ d t, d < 7 → 0 ≤ t ∧ t < 11 →
        reports is SPS_COPY_STATE d t = reports is SPS_PASTE_STATE d t
          ∧ reports is SPS_PASTE_STATE d t < 2147483648) := by
  refine ⟨⟨?_, statisticsRight_of_not_known⟩, ?_⟩
  · intro h stat hmem
    exact not_known_of_statisticsRight h hmem
  · intro s os hrun
    exact (countsOther_run hrun).countsRight_iff

/-- **One copy of less than 100 KB in less than half a second** is counted
among the pastes. -/
theorem statistics_oneCopy : ¬ ∀ is : List StatInput, StatisticsRight is := by
  intro h
  have hno := not_known_of_statisticsRight
    (h [.reportTimeConsumingStatistic ⟨SPS_COPY_STATE, 0, 0⟩])
    List.mem_cons_self
  apply hno
  unfold TimeConsumingStat.Known
  decide

end Pasteboard
