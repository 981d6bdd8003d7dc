/-
  Pasteboard.Service.State
  ────────────────────────
  **THE PASTEBOARD SERVICE** (`pasteboard_service.h/.cpp`): the stored clips
  and the registered observers, both keyed by user id.

    • Each operation is one atomic step on the service; where it takes and
      releases its mutexes is the matter of `Pasteboard.Service.Handlers`.
    • An operation returns an `Option`: `none` is the dereference of a null
      record pointer, after which there is no service any more.
    • What an operation does outside the service (calls of observers, reports)
      it returns as a list of events, in order.
    • A `std::map` is a `TreeMap`, a `std::set` a `TreeSet`: both are iterated
      in key order.  An observer is identified by its remote object, as
      `classcomp` does.

  The state of the system ability (`state_`, `serviceHandler_`) and its unused
  storage are left out: no operation here reads them.
-/
import Mathlib.Data.List.Basic
import Pasteboard.Ipc.Parcel
import Pasteboard.Data.PasteData

namespace Pasteboard

/-! ## §1. What surrounds the service. -/

def ERROR_USERID : Int := -1
def GET_WRONG_SIZE : Nat := 0
def FAIL_TO_GET_TIME_STAMP : String := "FAIL_TO_GET_TIME_STAMP"
def DATA_HISTORY_SIZE : Nat := 10
def DEFAULT_BUNDLE_NAME : String := "com.pasteboard.default"

/-- The answers of the account manager and of the bundle manager, `none` where
they fail. -/
structure Platform where
  getOsAccountLocalIdFromUid : Int → Option Int
  getBundleNameForUid : Int → Option String

namespace Platform

/-- `GetUserId`: the id stays at its error value when the account manager
fails, and an account manager may also answer the error value. -/
def getUserId (P : Platform) (uid : Int) : Int :=
  (P.getOsAccountLocalIdFromUid uid).getD ERROR_USERID

/-- `GetBundleNameByUid`, and the name its callers fall back to. -/
def bundleName (P : Platform) (uid : Int) : String :=
  (P.getBundleNameForUid uid).getD DEFAULT_BUNDLE_NAME

/-- The name of a uid: what the bundle manager answers, or the default name
where it fails. -/
def Names (P : Platform) (uid : Int) (name : String) : Prop :=
  P.getBundleNameForUid uid = some name
    ∨ P.getBundleNameForUid uid = none ∧ name = "com.pasteboard.default"

theorem names_iff {P : Platform} {uid : Int} {name : String} :
    P.Names uid name ↔ name = P.bundleName uid := by
  unfold Names bundleName
  cases P.getBundleNameForUid uid with
  | none => simp [DEFAULT_BUNDLE_NAME]
  | some known => simp [eq_comm]

end Platform

/-- The fields of `struct tm` the service prints. -/
structure LocalTime where
  tm_year : Int
  tm_mon : Int
  tm_mday : Int
  tm_hour : Int
  tm_min : Int
  tm_sec : Int
  deriving DecidableEq, Repr

/-- The system clock: `none` where `time` fails. -/
structure Clock where
  localtime : Option LocalTime
  tv_usec : Int
  deriving DecidableEq, Repr

def getTime (clock : Clock) : String :=
  match clock.localtime with
  | none => FAIL_TO_GET_TIME_STAMP
  | some nowTime =>
      toString (nowTime.tm_year + 1900) ++ "-"
        ++ toString (nowTime.tm_mon + 1) ++ "-"
        ++ toString nowTime.tm_mday ++ " "
        ++ toString nowTime.tm_hour ++ ":"
        ++ toString nowTime.tm_min ++ ":"
        ++ toString nowTime.tm_sec ++ "."
        ++ toString (clock.tv_usec.tdiv 1000)

/-- Who calls, and when. -/
structure Caller where
  uid : Int
  clock : Clock
  deriving DecidableEq, Repr

def BPS_COPY_STATE : Int := 0
def BPS_PASTE_STATE : Int := 1
def SPS_COPY_STATE : Int := 0
def SPS_PASTE_STATE : Int := 1

/-- What an operation does outside the service. -/
inductive Event where
  /-- A call of an observer found in the registry of `userId`. -/
  | onPasteboardChanged (userId : Int) (observer : RemoteObject)
  /-- A report to the behaviour reporter. -/
  | pasteboardBehaviour (pasteboardState : Int) (appId : String)
  /-- A `CalculateTimeConsuming` is constructed. -/
  | timeConsuming (calPasteboardData : Nat) (calPasteboardState : Int)
  deriving DecidableEq, Repr

/-! ## §2. The service and its operations. -/

/-- The observers registered for one user. -/
abbrev Registry : Type := Std.TreeSet RemoteObject

structure PasteboardService (Uri Want : Type) where
  observerMap : Std.TreeMap Int Registry := {}
  clips : Std.TreeMap Int (PasteData Uri Want) := {}
  uIdForLastCopy : Int := 0
  timeForLastCopy : String := ""
  dataHistory : List String := []

/-- What an operation returns, the service after it, and its events. -/
structure Outcome (Uri Want α : Type) where
  value : α
  service : PasteboardService Uri Want
  events : List Event

namespace PasteboardService

variable {Uri Want : Type}

/-- `NotifyObservers` goes through the registries of ALL users. -/
def notifyObservers (s : PasteboardService Uri Want) : List Event :=
  s.observerMap.toList.flatMap fun observers =>
    observers.2.toList.map fun observer =>
      .onPasteboardChanged observers.1 observer

/-- The length of the text of the LAST record. -/
def getDataSize [ToString Uri] (data : PasteData Uri Want) : Option Nat :=
  if data.getRecordCount ≠ 0 then
    (data.getRecordAt (data.getRecordCount - 1)).map fun record =>
      record.convertToText.length
  else some GET_WRONG_SIZE

def setPasteboardHistory (P : Platform) (uid : Int) (state timeStamp : String)
    (s : PasteboardService Uri Want) : PasteboardService Uri Want :=
  let bundleNameState :=
    timeStamp ++ "  " ++ P.bundleName uid ++ "    " ++ state
  let dataHistory :=
    if s.dataHistory.length = DATA_HISTORY_SIZE then s.dataHistory.tail
    else s.dataHistory
  { s with dataHistory := dataHistory ++ [bundleNameState] }

def setPasteDataDot [ToString Uri] (P : Platform) (c : Caller)
    (pasteData : PasteData Uri Want) (s : PasteboardService Uri Want) :
    Option (PasteboardService Uri Want × List Event) :=
  let time := getTime c.clock
  -- before anybody has asked whether the caller has a user id
  let s := { s with uIdForLastCopy := c.uid, timeForLastCopy := time }
  let s := s.setPasteboardHistory P c.uid "Set" time
  (getDataSize pasteData).map fun dataSize =>
    (s, [.pasteboardBehaviour BPS_COPY_STATE (P.bundleName c.uid),
      .timeConsuming dataSize SPS_COPY_STATE])

/-- `clips_.rbegin()->second`: the clip of the greatest user id. -/
def lastClip (s : PasteboardService Uri Want) : Option (PasteData Uri Want) :=
  s.clips.toList.getLast?.map (·.2)

/-- Where there is any clip, the size of the last one is reported. -/
def getPasteDataDot [ToString Uri] (P : Platform) (c : Caller)
    (s : PasteboardService Uri Want) :
    Option (PasteboardService Uri Want × List Event) :=
  let s := s.setPasteboardHistory P c.uid "Get" (getTime c.clock)
  let report := Event.pasteboardBehaviour BPS_PASTE_STATE (P.bundleName c.uid)
  match s.lastClip with
  | none => some (s, [report])
  | some data =>
      (getDataSize data).map fun dataSize =>
        (s, [report, .timeConsuming dataSize SPS_PASTE_STATE])

/-- `Clear` under `clipMutex_`, where a clip is found. -/
def eraseClip (userId : Int) (s : PasteboardService Uri Want) :
    PasteboardService Uri Want :=
  { s with clips := s.clips.erase userId }

def clear (P : Platform) (c : Caller) (s : PasteboardService Uri Want) :
    Outcome Uri Want Unit :=
  let userId := P.getUserId c.uid
  if userId = ERROR_USERID then ⟨(), s, []⟩
  else if s.clips.contains userId then
    let s := s.eraseClip userId
    ⟨(), s, s.notifyObservers⟩
  else ⟨(), s, []⟩

/-- The boolean result, and the out-parameter `data` after the call. -/
def getPasteData [ToString Uri] (P : Platform) (c : Caller)
    (data : PasteData Uri Want) (s : PasteboardService Uri Want) :
    Option (Outcome Uri Want (Bool × PasteData Uri Want)) :=
  let userId := P.getUserId c.uid
  (s.getPasteDataDot P c).map fun x =>
    -- the history and the report of an unresolved caller are made all the same
    if userId = ERROR_USERID then ⟨(false, data), x.1, x.2⟩
    else
      match x.1.clips[userId]? with
      | some it => ⟨(true, it), x.1, x.2⟩
      | none => ⟨(false, data), x.1, x.2⟩

def hasPasteData (P : Platform) (c : Caller) (s : PasteboardService Uri Want) :
    Outcome Uri Want Bool :=
  let userId := P.getUserId c.uid
  if userId = ERROR_USERID then ⟨false, s, []⟩
  else ⟨s.clips.contains userId, s, []⟩

/-- `SetPasteData` under `clipMutex_`: erase the clip there is, insert. -/
def storeClip (userId : Int) (pasteData : PasteData Uri Want)
    (s : PasteboardService Uri Want) : PasteboardService Uri Want :=
  let clips :=
    if s.clips.contains userId then s.clips.erase userId else s.clips
  { s with clips := clips.insertIfNew userId pasteData }

def setPasteData [ToString Uri] (P : Platform) (c : Caller)
    (pasteData : PasteData Uri Want) (s : PasteboardService Uri Want) :
    Option (Outcome Uri Want Unit) :=
  let userId := P.getUserId c.uid
  (s.setPasteDataDot P c pasteData).map fun x =>
    if userId = ERROR_USERID then ⟨(), x.1, x.2⟩
    else
      let s := x.1.storeClip userId pasteData
      ⟨(), s, x.2 ++ s.notifyObservers⟩

def addPasteboardChangedObserver (P : Platform) (c : Caller)
    (observer : Option RemoteObject) (s : PasteboardService Uri Want) :
    Outcome Uri Want Unit :=
  match observer with
  | none => ⟨(), s, []⟩
  | some observer =>
      let userId := P.getUserId c.uid
      if userId = ERROR_USERID then ⟨(), s, []⟩
      else
        let observers := s.observerMap[userId]?.getD {}
        ⟨(), { s with observerMap :=
          s.observerMap.insert userId (observers.insert observer) }, []⟩

def removePasteboardChangedObserver (P : Platform) (c : Caller)
    (observer : Option RemoteObject) (s : PasteboardService Uri Want) :
    Outcome Uri Want Unit :=
  match observer with
  | none => ⟨(), s, []⟩
  | some observer =>
      let userId := P.getUserId c.uid
      if userId = ERROR_USERID then ⟨(), s, []⟩
      else
        match s.observerMap[userId]? with
        | none => ⟨(), s, []⟩
        | some observers =>
            -- an empty registry stays in the map
            ⟨(), { s with observerMap :=
              s.observerMap.insert userId (observers.erase observer) }, []⟩

def removeAllChangedObserver (P : Platform) (c : Caller)
    (s : PasteboardService Uri Want) : Outcome Uri Want Unit :=
  let userId := P.getUserId c.uid
  if userId = ERROR_USERID then ⟨(), s, []⟩
  else
    match s.observerMap[userId]? with
    | none => ⟨(), s, []⟩
    | some _ => ⟨(), { s with observerMap := s.observerMap.erase userId }, []⟩

end PasteboardService

/-! ## §3. A platform to run the service on. -/

/-- Two hundred thousand uids to a user, and no bundle names. -/
def samplePlatform : Platform where
  getOsAccountLocalIdFromUid uid := some (uid / 200000)
  getBundleNameForUid _ := none

/-- A caller of the user 100, and one of the user 101. -/
def callerOf100 : Caller := ⟨20000001, ⟨none, 0⟩⟩
def callerOf101 : Caller := ⟨20200001, ⟨none, 0⟩⟩

end Pasteboard
