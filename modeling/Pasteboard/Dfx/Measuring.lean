/-
  Pasteboard.Dfx.Measuring
  ────────────────────────
  **EVERY MEASURED REQUEST IS COUNTED ONCE**: the statistics of the composed
  system of `Pasteboard.Dfx.Reporting`.

    • `measures_given`: what the statistics are given since their last flush
      is what the pending requests have measured, in order.
    • `Made.cell`: the cell of a text and of two readings of the clock, said
      without the code; `stat_eq` is what the stopwatch has to do with it.
    • `requests_counted_once`: a counter is the number of the pending requests
      of its cell, those of the copies in the table of the pastes and the other
      way round; and the counters of a table add up to all the copies, and to
      the pastes made while there was a clip of any user.
-/
import Pasteboard.Dfx.Reporting
import Pasteboard.Service.Sizes

namespace Pasteboard

open Lib HiViewAdapter

variable {Uri Want : Type} [ToString Uri]

/-! ## §1. What is pending. -/

/-- A request, and the service it is made to. -/
structure Made (Uri Want : Type) where
  service : PasteboardService Uri Want
  request : TimedRequest Uri Want

/-- The number of the range of a size: one for nothing, one for the other
multiples of 1024, and four for the remainders; no size has range 1. -/
def sizeCell (size : Nat) : Nat :=
  if size = 0 then 0
  else if size % 1024 = 0 then 2
  else if size % 1024 < 5 then 3
  else if size % 1024 < 10 then 4
  else if size % 1024 < 50 then 5
  else 6

/-- A reading of the clock in milliseconds. -/
def TimeVal.millis (tv : TimeVal) : Int := 1000 * tv.tv_sec + tv.tv_usec.tdiv 1000

/-- The level of a time: its milliseconds but for multiples of 500, at most 10.
A clock that has been put back shows a time of up to 2 to the 64. -/
def timeCell (start stop : TimeVal) : Nat :=
  min (((stop.millis - start.millis) % 18446744073709551616).toNat % 500) 10

namespace Made

/-- What its stopwatch reports. -/
def stat (e : Made Uri Want) : Option TimeConsumingStat :=
  (e.request.op.measured e.service).map fun m => e.request.stat m.1 m.2

/-- The size that is measured: the length of the text of the last record, of
the data of a copy, of the last clip of all users for a paste. -/
def size (e : Made Uri Want) : Option Nat :=
  match e.request.op with
  | .setPasteData _ pasteData => some pasteData.lastTextLength
  | .getPasteData _ _ => e.service.lastClip.map PasteData.lastTextLength
  | _ => none

/-- The cell it falls into, if it is measured. -/
def cell (e : Made Uri Want) : Option (Nat × Nat) :=
  e.size.map fun n => (sizeCell n, timeCell e.request.start e.request.stop)

/-- A copy; and a paste while there is a clip, of whichever user. -/
def isCopy (e : Made Uri Want) : Bool :=
  match e.request.op with
  | .setPasteData _ _ => true
  | _ => false

def isPaste (e : Made Uri Want) : Bool :=
  match e.request.op with
  | .getPasteData _ _ => !e.service.clips.isEmpty
  | _ => false

end Made

/-- The requests, and `none` for a flush of the statistics. -/
def statisticLog (x : PasteboardService Uri Want × TimerThread) :
    TimedRequest Uri Want ⊕ TimerInput → List (Option (Made Uri Want))
  | .inl r => [some ⟨x.1, r⟩]
  | .inr i =>
      ((flushes x.2 i).filterMap TimerEvent.statisticTime).map fun _ => none

/-- The requests since the last flush of the statistics. -/
def pendingMeasured (t₀ : Nat) (zone : Int)
    (is : List (TimedRequest Uri Want ⊕ TimerInput)) : List (Made Uri Want) :=
  sinceLast id
    (sourceMachine.logged statisticLog ({}, .start t₀ zone) is)

section Measured

variable {P : Platform} {S : StdSort} {t₀ : Nat} {zone : Int}
  {is : List (TimedRequest Uri Want ⊕ TimerInput)}
  {x : PasteboardService Uri Want × TimerThread}
  {os : List ((TimedRequest Uri Want × Event) ⊕ TimerEvent)}

/-- The request was carried out in that state. -/
def Carried (e : Made Uri Want) : Prop :=
  (e.request.op.exec e.request.platform e.service).isSome = true

/-- **What the statistics are given** is what the pending requests have
measured; and these have been carried out. -/
theorem measures_given
    (hrun : sourceMachine.run ({}, .start t₀ zone) is = some (x, os)) :
    sinceLast StatInput.stat (rights (given os))
        = (pendingMeasured t₀ zone is).filterMap Made.stat
      ∧ ∀ e ∈ pendingMeasured t₀ zone is, Carried e := by
  refine (sourceMachine.run_history (fun is x os =>
    sourceMachine.run ({}, .start t₀ zone) is = some (x, os)
      ∧ Tracks StatInput.stat Made.stat
          (sourceMachine.logged statisticLog ({}, .start t₀ zone) is)
          (rights (given os))
      ∧ ∀ e ∈ pendingMeasured t₀ zone is, Carried e)
    ⟨rfl, Tracks.nil, List.forall_mem_nil _⟩ ?_ is hrun).2
  intro is x os i x' os' hyp hstep
  obtain ⟨hpre, ih, hcarried⟩ := hyp
  refine ⟨Machine.run_concat _ hpre hstep, ?_⟩
  unfold pendingMeasured at *
  rw [Machine.logged_concat hpre hstep, given_append, rights_append]
  rcases source_step hstep with ⟨r, events, rfl, hexec, _, hgiven⟩ |
    ⟨j, rfl, _, _, hos, hcase⟩
  · rw [hgiven, (reportsOf_exec hexec).statistic]
    constructor
    · have hentry := ih.entry (fun _ => rfl)
        (m := .reportTimeConsumingStatistic) (Made.mk x.1 r)
      unfold Made.stat at hentry ⊢
      rw [Option.toList_map, List.map_map] at hentry
      exact hentry
    · show ∀ e ∈ sinceLast id (_ ++ [some (Made.mk x.1 r)]), _
      rw [sinceLast_concat]
      intro e he
      rcases List.mem_append.mp he with he | he
      · exact hcarried e he
      · rw [List.mem_singleton.mp he]
        exact Option.isSome_iff_exists.mpr ⟨_, hexec⟩
  · rw [hos]
    show Tracks _ _ (_ ++ ((flushes x.2 j).filterMap
      TimerEvent.statisticTime).map fun _ => none) _ ∧ ∀ e ∈ sinceLast id (_ ++
        ((flushes x.2 j).filterMap TimerEvent.statisticTime).map
          fun _ => none), _
    rcases hcase with hf | hf | hf
    · rw [hf]
      show Tracks _ _ (_ ++ []) (_ ++ []) ∧ ∀ e ∈ sinceLast id (_ ++ []), _
      rw [List.append_nil, List.append_nil]
      exact ⟨ih, hcarried⟩
    · -- a flush of the behaviour is none of the statistics
      rw [hf]
      show Tracks _ _ (_ ++ []) (_ ++ []) ∧ ∀ e ∈ sinceLast id (_ ++ []), _
      rw [List.append_nil, List.append_nil]
      exact ⟨ih, hcarried⟩
    · rw [hf]
      show Tracks _ _ (_ ++ [none]) (_ ++ [_])
        ∧ ∀ e ∈ sinceLast id (_ ++ [none]), _
      rw [sinceLast_concat]
      exact ⟨Tracks.clear rfl, List.forall_mem_nil _⟩

/-! ## §2. Every measure has its cell. -/

theorem rangeOf_eq_sizeCell (size : Nat) :
    (rangeOf size).toInt = sizeCell size := by
  unfold rangeOf sizeCell
  by_cases h0 : size = 0
  · subst h0
    rfl
  · rw [if_neg h0]
    -- a multiple of 1024 below 100 is 0
    have hmul : size % 1024 = 0 → ¬ size < 100 := by omega
    split
    · next h1 =>
        rw [if_neg (hmul h1)]
        rfl
    · split
      · rfl
      · split
        · rfl
        · split <;> rfl

omit [ToString Uri] in
/-- **The stopwatch**: its report names the cell of the size and of the two
readings, which it takes modulo 2 to the 64 one by one. -/
theorem stat_eq (r : TimedRequest Uri Want) (size : Nat) (state : Int) :
    r.stat size state
      = ⟨state, sizeCell size, timeCell r.start r.stop⟩ := by
  unfold TimedRequest.stat CalculateTimeConsuming.construct
    CalculateTimeConsuming.destruct
  dsimp only
  rw [calculateData_eq, rangeOf_eq_sizeCell,
    CalculateTimeConsuming.calculateTime_eq]
  unfold timeCell TimeVal.millis CalculateTimeConsuming.getCurrentTimeMicros
  rw [Int.mul_comm 1000 r.stop.tv_sec, Int.mul_comm 1000 r.start.tv_sec]
  generalize r.stop.tv_sec * 1000 + r.stop.tv_usec.tdiv 1000 = stop
  generalize r.start.tv_sec * 1000 + r.start.tv_usec.tdiv 1000 = start
  have hdiff : ((stop % 18446744073709551616).toNat
      + (18446744073709551616 - (start % 18446744073709551616).toNat))
        % 18446744073709551616
      = ((stop - start) % 18446744073709551616).toNat := by omega
  rw [hdiff]

theorem sizeCell_lt (size : Nat) : sizeCell size < 7 := by
  unfold sizeCell
  split_ifs <;> omega

theorem timeCell_lt (start stop : TimeVal) : timeCell start stop < 11 := by
  unfold timeCell
  omega

/-- What a copy measures. -/
theorem measured_set {s : PasteboardService Uri Want} {c : Caller}
    {d : PasteData Uri Want}
    (h : ((ServiceOp.setPasteData c d).exec P s).isSome = true) :
    (ServiceOp.setPasteData c d).measured s
      = some (d.lastTextLength, SPS_COPY_STATE) := by
  have hexec : ((s.setPasteData P c d).map (·.step)).isSome = true := h
  unfold PasteboardService.setPasteData at hexec
  rw [Option.isSome_map, Option.isSome_map,
    PasteboardService.setPasteDataDot_isSome] at hexec
  obtain ⟨n, hn⟩ := Option.isSome_iff_exists.mp hexec
  show (PasteboardService.getDataSize d).map _ = _
  rw [hn, PasteboardService.lastTextLength_of_getDataSize hn]
  rfl

omit [ToString Uri] in
theorem lastClip_eq_none_iff (s : PasteboardService Uri Want) :
    s.lastClip = none ↔ s.clips.isEmpty = true := by
  unfold PasteboardService.lastClip
  rw [Option.map_eq_none_iff, List.getLast?_eq_none_iff,
    ← Std.TreeMap.isEmpty_toList, List.isEmpty_iff]

/-- What a paste measures: nothing where there is no clip at all. -/
theorem measured_get {s : PasteboardService Uri Want} {c : Caller}
    {d : PasteData Uri Want}
    (h : ((ServiceOp.getPasteData c d).exec P s).isSome = true) :
    (s.clips.isEmpty = true → (ServiceOp.getPasteData c d).measured s = none)
      ∧ (s.clips.isEmpty = false → ∃ clip, s.lastClip = some clip
        ∧ (ServiceOp.getPasteData c d).measured s
          = some (clip.lastTextLength, SPS_PASTE_STATE)) := by
  show (_ → (s.lastClip.bind _).map _ = none)
    ∧ (_ → ∃ clip, _ ∧ (s.lastClip.bind _).map _ = _)
  constructor
  · intro hempty
    rw [(lastClip_eq_none_iff s).mpr hempty]
    rfl
  · intro hfull
    have hexec : ((s.getPasteData P c d).map (·.step)).isSome = true := h
    unfold PasteboardService.getPasteData PasteboardService.getPasteDataDot
      at hexec
    rw [Option.isSome_map, Option.isSome_map] at hexec
    dsimp only at hexec
    rw [show (s.setPasteboardHistory P c.uid "Get" (getTime c.clock)).lastClip
      = s.lastClip from rfl] at hexec
    cases hclip : s.lastClip with
    | none =>
        -- there is a clip, so there is a last one
        rw [(lastClip_eq_none_iff s).mp hclip] at hfull
        cases hfull
    | some data =>
        rw [hclip] at hexec
        -- the request has been carried out, so it has a size
        have hsize : (PasteboardService.getDataSize data).isSome = true := by
          rwa [Option.isSome_map] at hexec
        obtain ⟨n, hn⟩ := Option.isSome_iff_exists.mp hsize
        refine ⟨data, rfl, ?_⟩
        rw [Option.bind_some, hn,
          PasteboardService.lastTextLength_of_getDataSize hn]
        rfl

/-- **A request that was carried out is measured as what it is**, or not at
all. -/
theorem Carried.stat_cases {e : Made Uri Want} (h : Carried e) :
    (∃ d t, d < 7 ∧ t < 11 ∧ e.isCopy = true ∧ e.isPaste = false
        ∧ e.cell = some (d, t)
        ∧ e.stat = some ⟨SPS_COPY_STATE, (d : Int), (t : Int)⟩)
      ∨ (∃ d t, d < 7 ∧ t < 11 ∧ e.isCopy = false ∧ e.isPaste = true
        ∧ e.cell = some (d, t)
        ∧ e.stat = some ⟨SPS_PASTE_STATE, (d : Int), (t : Int)⟩)
      ∨ (e.isCopy = false ∧ e.isPaste = false ∧ e.stat = none) := by
  obtain ⟨s, P, op, start, stop⟩ := e
  unfold Made.stat
  simp only [stat_eq]
  cases op with
  | setPasteData c d =>
      refine Or.inl ⟨_, _, sizeCell_lt d.lastTextLength,
        timeCell_lt start stop, rfl, rfl, rfl, ?_⟩
      show ((ServiceOp.setPasteData c d).measured s).map _ = _
      rw [measured_set (P := P) h]
      rfl
  | getPasteData c d =>
      obtain ⟨hnone, hsome⟩ := measured_get (P := P) h
      cases hempty : s.clips.isEmpty with
      | true =>
          refine Or.inr (Or.inr ⟨rfl, ?_, ?_⟩)
          · show (!s.clips.isEmpty) = false
            rw [hempty]
            rfl
          · show ((ServiceOp.getPasteData c d).measured s).map _ = none
            rw [hnone hempty]
            rfl
      | false =>
          obtain ⟨clip, hclip, hmeasured⟩ := hsome hempty
          refine Or.inr (Or.inl ⟨_, _, sizeCell_lt clip.lastTextLength,
            timeCell_lt start stop, rfl, ?_, ?_, ?_⟩)
          · show (!s.clips.isEmpty) = true
            rw [hempty]
            rfl
          · show (s.lastClip.map _).map _ = _
            rw [hclip]
            rfl
          · show ((ServiceOp.getPasteData c d).measured s).map _ = _
            rw [hmeasured]
            rfl
  | _ => exact Or.inr (Or.inr ⟨rfl, rfl, rfl⟩)

/-! ## §3. The counters. -/

/-- How many reports have this state, range and level. -/
def countOf (rs : List (Made Uri Want)) (state : Int) (d : Nat) (t : Int) :
    Nat :=
  (rs.filterMap Made.stat).countP fun stat => decide (stat.Is state d t)

/-- How many of the requests of a kind fall into a cell. -/
def cellCount (kind : Made Uri Want → Bool) (rs : List (Made Uri Want))
    (d t : Nat) : Nat :=
  rs.countP fun e => kind e && e.cell == some (d, t)

/-- **The reports of a cell are the requests in it.** -/
theorem countOf_eq {rs : List (Made Uri Want)} (h : ∀ e ∈ rs, Carried e)
    (d t : Nat) :
    countOf rs SPS_COPY_STATE d t = cellCount Made.isCopy rs d t
      ∧ countOf rs SPS_PASTE_STATE d t = cellCount Made.isPaste rs d t := by
  unfold countOf cellCount
  rw [List.countP_filterMap, List.countP_filterMap]
  have hne : ¬ SPS_COPY_STATE = SPS_PASTE_STATE := by decide
  constructor
  · refine List.countP_congr fun e he => ?_
    rcases (h e he).stat_cases with ⟨d', t', _, _, hc, _, hcell, hstat⟩ |
      ⟨d', t', _, _, hc, _, hcell, hstat⟩ | ⟨hc, _, hstat⟩
    · simp [hc, hcell, hstat, TimeConsumingStat.Is]
    · simp [hc, hstat, TimeConsumingStat.Is, Ne.symm hne]
    · simp [hc, hstat]
  · refine List.countP_congr fun e he => ?_
    rcases (h e he).stat_cases with ⟨d', t', _, _, _, hp, hcell, hstat⟩ |
      ⟨d', t', _, _, _, hp, hcell, hstat⟩ | ⟨_, hp, hstat⟩
    · simp [hp, hstat, TimeConsumingStat.Is, hne]
    · simp [hp, hcell, hstat, TimeConsumingStat.Is]
    · simp [hp, hstat]

/-- All counters of a table together. -/
def StatTable.total (table : StatTable) : Int :=
  ∑ d ∈ Finset.range 7, ∑ t ∈ Finset.range 11, table.count d (t : Int)

/-- Every request of the kind has its cell in the table. -/
def InTable (kind : Made Uri Want → Bool) (rs : List (Made Uri Want)) : Prop :=
  ∀ e ∈ rs, kind e = true → ∃ d t, d < 7 ∧ t < 11 ∧ e.cell = some (d, t)

theorem inTable_of_carried {rs : List (Made Uri Want)}
    (h : ∀ e ∈ rs, Carried e) :
    InTable Made.isCopy rs ∧ InTable Made.isPaste rs := by
  constructor
  · intro e he hkind
    rcases (h e he).stat_cases with ⟨d, t, hd, ht, _, _, hcell, _⟩ |
      ⟨d, t, hd, ht, _, _, hcell, _⟩ | ⟨hc, _⟩
    · exact ⟨d, t, hd, ht, hcell⟩
    · exact ⟨d, t, hd, ht, hcell⟩
    · rw [hkind] at hc
      cases hc
  · intro e he hkind
    rcases (h e he).stat_cases with ⟨d, t, hd, ht, _, _, hcell, _⟩ |
      ⟨d, t, hd, ht, _, _, hcell, _⟩ | ⟨_, hp, _⟩
    · exact ⟨d, t, hd, ht, hcell⟩
    · exact ⟨d, t, hd, ht, hcell⟩
    · rw [hkind] at hp
      cases hp

/-- **The cells of a kind add up** to the requests of that kind. -/
theorem sum_cellCount {kind : Made Uri Want → Bool} {rs : List (Made Uri Want)}
    (h : InTable kind rs) :
    ∑ d ∈ Finset.range 7, ∑ t ∈ Finset.range 11, cellCount kind rs d t
      = rs.countP kind := by
  have hcell : ∀ d t, cellCount kind rs d t
      = (rs.filter kind).countP fun e => decide
          ((e.cell.getD (0, 0)).1 = d ∧ (e.cell.getD (0, 0)).2 = t) := by
    intro d t
    unfold cellCount
    rw [List.countP_filter]
    refine List.countP_congr fun e he => ?_
    cases hkind : kind e with
    | false => simp
    | true =>
        obtain ⟨d', t', _, _, hcell⟩ := h e he hkind
        simp [hcell]
  simp only [hcell]
  rw [sum_countP_cells, List.countP_eq_length_filter]
  intro e he
  obtain ⟨he, hkind⟩ := List.mem_filter.mp he
  obtain ⟨d, t, hd, ht, hcell⟩ := h e he hkind
  rw [hcell]
  exact ⟨hd, ht⟩

/-- The total of a table that counts the requests of a kind. -/
theorem total_eq {kind : Made Uri Want → Bool} {rs : List (Made Uri Want)}
    (h : InTable kind rs) {table : StatTable}
    (htable : ∀ d t : Nat, d < 7 → t < 11 →
      table.count d t = int32 (cellCount kind rs d t))
    (hlen : rs.length < 2147483648) :
    table.total = (rs.countP kind : Nat) := by
  rw [← sum_cellCount h]
  unfold StatTable.total
  push_cast
  refine Finset.sum_congr rfl fun d hd => Finset.sum_congr rfl fun t ht => ?_
  rw [Finset.mem_range] at hd ht
  rw [htable d t hd ht]
  -- no counter has run over
  exact (int32_eq_iff _).mpr (Nat.lt_of_le_of_lt List.countP_le_length hlen)

/-- **The turn that flushes the statistics** shows each table as it is named,
and clears both. -/
theorem reporting_flushStatistics
    {y : (PasteboardService Uri Want × TimerThread) × (Behaviour × Statistics)}
    (hshaped : y.2.2.Shaped) (hpc : y.1.2.pc = .flushing)
    (hready : y.1.2.ready ≤ y.1.2.now) :
    (reportingMachine S).step y (.inr (.turn true))
      = some (((y.1.1, { y.1.2 with ready := y.1.2.now, pc := .look }),
            (y.2.1, {})),
          .inl (.inr (.invokeTimeConsuming y.1.2.now))
            :: (tableEvents COPY_STATE y.2.2.copyTimeConsumingStat
              ++ tableEvents PASTE_STATE y.2.2.pasteTimeConsumingStat).map
                fun e => .inr (.inr e)) := by
  obtain ⟨⟨s, t⟩, b, st⟩ := y
  have hturn : timerMachine.step t (.turn true)
      = some ({ t with ready := t.now, pc := .look },
          [.invokeTimeConsuming t.now]) := by
    refine turn_of_ready hready ?_
    unfold TimerThread.turn
    rw [show t.pc = .flushing from hpc]
  have hsource : sourceMachine.step (s, t) (.inr (.turn true))
      = some ((s, { t with ready := t.now, pc := .look }),
          [.inr (.invokeTimeConsuming t.now)]) := by
    show (timerMachine.step t (.turn true)).map _ = _
    rw [hturn]
    rfl
  show (sourceMachine.step (s, t) (.inr (.turn true))).bind _ = _
  rw [hsource, Option.bind_some]
  show (((((invokeTimeConsuming st).map _).bind _).map _)) = _
  rw [hshaped.invoke]
  show some (_, [_] ++ ((tableEvents COPY_STATE st.copyTimeConsumingStat
    ++ tableEvents PASTE_STATE st.pasteTimeConsumingStat).map Sum.inr
      ++ []).map Sum.inr) = _
  rw [List.append_nil, List.map_map]
  rfl

/-- **EVERY MEASURED REQUEST IS COUNTED ONCE.**  In every run of requests and
of the timer thread, each counter of the pastes is the number of copies since
the last flush that fall into its cell by the size of their data and by the two
readings of their stopwatch, as an `int` shows it, and each of the copies that
of the pastes.  With less than 2 to the 31 requests since then, all counters of
the pastes add up to the copies, and all counters of the copies to the pastes
made while there was a clip of any user.  And the turn that flushes shows the
tables, each under the state it is named after. -/
theorem requests_counted_once (S : StdSort) (t₀ : Nat) (zone : Int)
    (is : List (TimedRequest Uri Want ⊕ TimerInput))
    (y : (PasteboardService Uri Want × TimerThread) × (Behaviour × Statistics))
    (os : List (((TimedRequest Uri Want × Event) ⊕ TimerEvent)
      ⊕ (SysEvent ⊕ SysEvent)))
    (hrun : (reportingMachine S).run (reportingStart t₀ zone) is
      = some (y, os)) :
    (∀ d t : Nat, d < 7 → t < 11 →
        y.2.2.pasteTimeConsumingStat.count d t
            = int32 (cellCount Made.isCopy (pendingMeasured t₀ zone is) d t)
          ∧ y.2.2.copyTimeConsumingStat.count d t
            = int32 (cellCount Made.isPaste (pendingMeasured t₀ zone is) d t))
      ∧ ((pendingMeasured t₀ zone is).length < 2147483648 →
        y.2.2.pasteTimeConsumingStat.total
            = (pendingMeasured t₀ zone is).countP Made.isCopy
          ∧ y.2.2.copyTimeConsumingStat.total
            = (pendingMeasured t₀ zone is).countP Made.isPaste)
      ∧ (y.1.2.pc = .flushing → y.1.2.ready ≤ y.1.2.now →
        ∃ y', (reportingMachine S).step y (.inr (.turn true))
            = some (y', .inl (.inr (.invokeTimeConsuming y.1.2.now))
              :: (tableEvents COPY_STATE y.2.2.copyTimeConsumingStat
                ++ tableEvents PASTE_STATE y.2.2.pasteTimeConsumingStat).map
                  fun e => .inr (.inr e))) := by
  obtain ⟨hsource, hsink⟩ := Machine.run_feed hrun
  obtain ⟨hgiven, hcarried⟩ := measures_given hsource
  have hcounts := countsOther_run (Machine.run_par hsink).2
  -- what the statistics are given is what the requests measure
  have hreports : ∀ state d t, reports (rights (given (lefts os))) state d t
      = countOf (pendingMeasured t₀ zone is) state d t := by
    intro state d t
    unfold reports countOf
    rw [hgiven]
  have hpaste : ∀ d t : Nat, d < 7 → t < 11 →
      y.2.2.pasteTimeConsumingStat.count d t
        = int32 (cellCount Made.isCopy (pendingMeasured t₀ zone is) d t) := by
    intro d t hd ht
    rw [← (countOf_eq hcarried d t).1, ← hreports]
    exact hcounts.paste d t hd (by omega)
  have hcopy : ∀ d t : Nat, d < 7 → t < 11 →
      y.2.2.copyTimeConsumingStat.count d t
        = int32 (cellCount Made.isPaste (pendingMeasured t₀ zone is) d t) := by
    intro d t hd ht
    rw [← (countOf_eq hcarried d t).2, ← hreports]
    exact hcounts.copy d t hd (by omega)
  refine ⟨fun d t hd ht => ⟨hpaste d t hd ht, hcopy d t hd ht⟩, ?_, ?_⟩
  · intro hlen
    obtain ⟨hc, hp⟩ := inTable_of_carried hcarried
    exact ⟨total_eq hc hpaste hlen, total_eq hp hcopy hlen⟩
  · intro hpc hready
    exact ⟨_, reporting_flushStatistics hcounts.shaped hpc hready⟩

end Measured

/-- The copy of one byte took two milliseconds, that of seven bytes half a
second and five; the paste, of the clip of one byte, saw the next millisecond
begin. -/
theorem requests_counted_day :
    ∃ y os, (reportingMachine StdSort.merge).run (reportingStart 0 0)
        dayOfRequests = some (y, os)
      ∧ y.2.2.pasteTimeConsumingStat.count 3 2 = 1
      ∧ y.2.2.pasteTimeConsumingStat.count 4 5 = 1
      ∧ y.2.2.copyTimeConsumingStat.count 3 1 = 1
      ∧ y.2.2.pasteTimeConsumingStat.total = 2
      ∧ y.2.2.copyTimeConsumingStat.total = 1 := by
  obtain ⟨⟨y, os⟩, hrun⟩ := Option.isSome_iff_exists.mp
    (show ((reportingMachine StdSort.merge).run (reportingStart 0 0)
      dayOfRequests).isSome = true by decide +kernel)
  obtain ⟨hcells, htotals, _⟩ :=
    requests_counted_once StdSort.merge 0 0 dayOfRequests y os hrun
  obtain ⟨hcopies, hpastes⟩ := htotals (by decide +kernel)
  refine ⟨y, os, hrun, ?_, ?_, ?_, ?_, ?_⟩
  · exact ((hcells 3 2 (by decide) (by decide)).1).trans (by decide +kernel)
  · exact ((hcells 4 5 (by decide) (by decide)).1).trans (by decide +kernel)
  · exact ((hcells 3 1 (by decide) (by decide)).2).trans (by decide +kernel)
  · exact hcopies.trans (by decide +kernel)
  · exact hpastes.trans (by decide +kernel)

end Pasteboard
