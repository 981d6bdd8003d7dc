/-
  Pasteboard.Service.AccessHistory
  ────────────────────────────────
  **THE ACCESS HISTORY** (`dataHistory_`) and its dump (`DumpHistory`).

    • Each `SetPasteData` and each `GetPasteData` leaves one entry, whoever
      calls and whatever it returns; nothing else leaves any.
    • `access_history` — after any run the history has the entries of the last
      ten calls, in their order, and the dump lists them, the newest first.
      What an entry must say is stated without the code that writes it.
    • The bundle manager may answer differently from one call to the next: a
      run gives each call the platform it is made on.
-/
import Mathlib.Data.List.Forall2
import Pasteboard.Service.Dump

namespace Pasteboard

open Lib

variable {Uri Want : Type}

/-! ## §1. The dump of the history. -/

namespace PasteboardService

def HISTORY_TITLE : String := "Access history last ten times: " ++ "\n"
def NO_HISTORY : String := "Access history fail! dataHistory_ no data." ++ "\n"

def dumpHistory (s : PasteboardService Uri Want) : String :=
  if s.dataHistory ≠ [] then
    s.dataHistory.reverse.foldl
      (fun result entry => result ++ "          " ++ entry ++ "\n")
      HISTORY_TITLE
  else NO_HISTORY

/-- The line of an entry. -/
def historyLine (entry : String) : String := "          " ++ entry ++ "\n"

/-- Appending line by line. -/
theorem foldl_historyLine (entries : List String) :
    ∀ result : String,
      entries.foldl
          (fun result entry => result ++ "          " ++ entry ++ "\n") result
        = result ++ String.join (entries.map historyLine) := by
  induction entries with
  | nil =>
      intro result
      simp
  | cons entry entries ih =>
      intro result
      rw [List.foldl_cons, ih, List.map_cons, String.join_cons]
      simp only [historyLine, String.append_assoc]

end PasteboardService

/-! ## §2. What an entry must say. -/

/-- A time of `usec` microseconds in whole milliseconds. -/
def WholeMillis (usec msec : Int) : Prop :=
  (0 ≤ usec → 1000 * msec ≤ usec ∧ usec < 1000 * (msec + 1))
    ∧ (usec ≤ 0 → 1000 * (msec - 1) < usec ∧ usec ≤ 1000 * msec)

theorem wholeMillis_iff {usec msec : Int} :
    WholeMillis usec msec ↔ msec = usec.tdiv 1000 := by
  unfold WholeMillis
  rw [Int.tdiv_eq_ediv, show Int.sign 1000 = 1 from rfl]
  split <;> omega

/-- The text for a moment: the date and the time of day, to the millisecond,
or the text for a clock that cannot be read. -/
inductive Clock.Stamps : Clock → String → Prop where
  | unread {clock : Clock} (hfail : clock.localtime = none) :
      Stamps clock "FAIL_TO_GET_TIME_STAMP"
  | read {clock : Clock} {tm : LocalTime} {msec : Int}
      (htime : clock.localtime = some tm)
      (hmsec : WholeMillis clock.tv_usec msec) :
      Stamps clock (String.join [toString (1900 + tm.tm_year), "-",
        toString (1 + tm.tm_mon), "-", toString tm.tm_mday, " ",
        toString tm.tm_hour, ":", toString tm.tm_min, ":",
        toString tm.tm_sec, ".", toString msec])

/-- `GetTime` writes that text. -/
theorem Clock.stamps_iff {clock : Clock} {stamp : String} :
    clock.Stamps stamp ↔ stamp = getTime clock := by
  constructor
  · rintro (hfail | ⟨htime, hmsec⟩)
    · simp only [getTime, hfail, FAIL_TO_GET_TIME_STAMP]
    · rw [wholeMillis_iff] at hmsec
      simp only [getTime, htime, hmsec, String.join_cons, String.join_nil,
        String.append_assoc, String.append_empty, Int.add_comm]
  · rintro rfl
    cases htime : clock.localtime with
    | none =>
        simp only [getTime, htime]
        exact .unread htime
    | some tm =>
        have hread := Stamps.read htime (wholeMillis_iff.mpr rfl)
        simpa only [getTime, htime, String.join_cons, String.join_nil,
          String.append_assoc, String.append_empty, Int.add_comm] using hread

/-- A call of `SetPasteData` or `GetPasteData`: who makes it and when, on which
platform, and which of the two it is. -/
structure Access where
  platform : Platform
  caller : Caller
  state : String

/-- The entry says when the call was made, by which bundle, and which it is. -/
def Access.Leaves (a : Access) (entry : String) : Prop :=
  ∃ stamp name, a.caller.clock.Stamps stamp
    ∧ a.platform.Names a.caller.uid name
    ∧ entry = stamp ++ "  " ++ name ++ "    " ++ a.state

/-- The entry `SetPasteboardHistory` makes is the one and only. -/
theorem Access.leaves_iff {a : Access} {entry : String} :
    a.Leaves entry ↔ entry = historyEntry a.platform a.caller a.state := by
  constructor
  · rintro ⟨stamp, name, hstamp, hname, rfl⟩
    rw [Clock.stamps_iff.mp hstamp, Platform.names_iff.mp hname, historyEntry]
  · rintro rfl
    exact ⟨_, _, Clock.stamps_iff.mpr rfl, Platform.names_iff.mpr rfl, rfl⟩

/-! ## §3. The entries of a run. -/

/-- The calls that leave an entry, and on which platform. -/
def ServiceOp.access (P : Platform) : ServiceOp Uri Want → Option Access
  | .setPasteData c _ => some ⟨P, c, "Set"⟩
  | .getPasteData c _ => some ⟨P, c, "Get"⟩
  | _ => none

/-- These calls of a run, the first one first. -/
def accesses (is : List (Platform × ServiceOp Uri Want)) : List Access :=
  is.filterMap fun i => i.2.access i.1

/-- The service, each operation on the platform of its moment. -/
def changingMachine [ToString Uri] :
    Machine (PasteboardService Uri Want) (Platform × ServiceOp Uri Want)
      Event where
  step s i := i.2.exec i.1 s

/-- An entry goes behind the history, the oldest of ten goes. -/
def noteAccess (history : List String) (a : Access) : List String :=
  pushBack DATA_HISTORY_SIZE history
    (historyEntry a.platform a.caller a.state)

theorem notes_history (P : Platform) (n : Notes) (op : ServiceOp Uri Want) :
    (op.notes P n).history = (op.access P).elim n.history
      (noteAccess n.history) := by
  cases op <;> rfl

variable [ToString Uri]

/-- **The history is built by the calls**, one insertion each. -/
theorem dataHistory_eq_foldl {is : List (Platform × ServiceOp Uri Want)}
    {s : PasteboardService Uri Want} {os : List Event}
    (hrun : changingMachine.run {} is = some (s, os)) :
    s.dataHistory = (accesses is).foldl noteAccess [] := by
  have hview := changingMachine.run_abs PasteboardService.dataHistory
    (fun history (i : Platform × ServiceOp Uri Want) =>
      (i.2.access i.1).elim history (noteAccess history))
    ?_ is hrun
  · rw [hview]
    unfold accesses
    rw [List.foldl_filterMap]
    congr 1
    funext history i
    cases i.2.access i.1 <;> rfl
  · intro s i s' os hstep
    have hnotes := congrArg Notes.history (exec_notes hstep)
    rw [notes_history] at hnotes
    exact hnotes

/-- So it holds the entries of the last ten calls. -/
theorem dataHistory_eq_map {is : List (Platform × ServiceOp Uri Want)}
    {s : PasteboardService Uri Want} {os : List Event}
    (hrun : changingMachine.run {} is = some (s, os)) :
    s.dataHistory = ((accesses is).rtake 10).map fun a =>
      historyEntry a.platform a.caller a.state := by
  rw [dataHistory_eq_foldl hrun]
  unfold noteAccess
  rw [← List.foldl_map (f := fun a : Access =>
      historyEntry a.platform a.caller a.state) (g := pushBack DATA_HISTORY_SIZE),
    foldl_pushBack (by decide)]
  unfold List.rtake
  rw [List.map_drop, List.length_map]
  rfl

/-- **THE LAST TEN ACCESSES.**  After any run of operations from a service
that has just started, the history holds one entry for each of the last ten
calls of `SetPasteData` and `GetPasteData`, or for all where they are fewer, in
the order of the calls; each entry has the time of its call, the bundle name of
the caller's uid or the default name, and the name of the call.  `DumpHistory`
lists them, the newest first, or says that there is none. -/
theorem access_history (is : List (Platform × ServiceOp Uri Want))
    (s : PasteboardService Uri Want) (os : List Event)
    (hrun : changingMachine.run {} is = some (s, os)) :
    List.Forall₂ Access.Leaves ((accesses is).rtake 10) s.dataHistory
      ∧ s.dataHistory.length = min 10 (accesses is).length
      ∧ s.dumpHistory
        = if accesses is = [] then "Access history fail! dataHistory_ no data.\n"
          else "Access history last ten times: \n"
            ++ String.join (s.dataHistory.reverse.map fun entry =>
                "          " ++ entry ++ "\n") := by
  have hlast := dataHistory_eq_map hrun
  have hlen : s.dataHistory.length = min 10 (accesses is).length := by
    rw [hlast, List.length_map, length_rtake]
  refine ⟨?_, hlen, ?_⟩
  · rw [hlast, List.forall₂_map_right_iff]
    exact List.forall₂_same.mpr fun a _ => Access.leaves_iff.mpr rfl
  · unfold PasteboardService.dumpHistory
    by_cases hnone : accesses is = []
    · -- no call was made, so no entry is kept
      have hempty : s.dataHistory = [] := by
        rw [hlast, hnone, List.rtake_nil, List.map_nil]
      rw [if_pos hnone, if_neg (not_not.mpr hempty)]
      rfl
    · have hsome : s.dataHistory ≠ [] := by
        have hpos := List.length_pos_of_ne_nil hnone
        apply List.ne_nil_of_length_pos
        omega
      rw [if_neg hnone, if_pos hsome, PasteboardService.foldl_historyLine]
      rfl

/-- A quarter past two on the first of June, `sec` seconds and `usec`
microseconds. -/
def afternoon (sec usec : Int) : Clock := ⟨some ⟨126, 5, 1, 14, 15, sec⟩, usec⟩

/-- A bundle manager that knows the app of the user 101 only. -/
def halfNamedPlatform : Platform :=
  { samplePlatform with
    getBundleNameForUid := fun uid =>
      if uid = callerOf101.uid then some "app.of.user101" else none }

/-- A copy by an app of the user 100 and a paste by one of the user 101. -/
def copyAndPaste (sec : Int) : List (Platform × ServiceOp String String) :=
  [(halfNamedPlatform, .setPasteData
      { callerOf100 with clock := afternoon sec 1999 }
      (PasteboardClient.createPlainTextData "a")),
    (halfNamedPlatform, .getPasteData
      { callerOf101 with clock := afternoon sec 250000 } {})]

/-- Twelve calls, with a clear between the first six and the others. -/
def sixCopiesAndPastes : List (Platform × ServiceOp String String) :=
  [0, 1, 2].flatMap copyAndPaste
    ++ (halfNamedPlatform, .clear callerOf101) :: [3, 4, 5].flatMap copyAndPaste

theorem access_history_twelve :
    ∃ s os, changingMachine.run {} sixCopiesAndPastes = some (s, os)
      ∧ (accesses sixCopiesAndPastes).length = 12
      ∧ s.dataHistory.length = 10
      ∧ List.Forall₂ Access.Leaves
        ((accesses sixCopiesAndPastes).rtake 10) s.dataHistory := by
  have h := access_history sixCopiesAndPastes _ _ rfl
  exact ⟨_, _, rfl, rfl, h.2.1, h.1⟩

/-- The first copy has the default name, and 1999 microseconds are one
millisecond; the first paste names the app. -/
example : (accesses (copyAndPaste 7)).map (fun a =>
      historyEntry a.platform a.caller a.state)
    = ["2026-6-1 14:15:7.1  com.pasteboard.default    Set",
      "2026-6-1 14:15:7.250  app.of.user101    Get"] := by
  decide

end Pasteboard
