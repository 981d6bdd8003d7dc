/-
  Pasteboard.Napi.Completion
  ──────────────────────────
  **CALLBACK AND PROMISE** (`HasPasteData` and `GetPasteData` of
  `napi_pasteboard.cpp`, `SetCallback` of `pasteboard_common.cpp`).

  Both forms of a call do the same work and end in the same status and result.
  The promise is settled with the result; the callback is called through
  `SetCallback`, which fills two arguments and passes ONE.  So a callback is
  told whether the call failed (`callback_status`), and never its result
  (`callback_gets_no_result`).
-/
import Pasteboard.Data.History
import Pasteboard.Napi.Env
import Pasteboard.Service.Stub

namespace Pasteboard

variable {Uri Want : Type}

/-! ## §1. What is delivered to JavaScript. -/

/-- The values the two operations make. -/
inductive JsValue (Uri Want : Type) where
  | boolean (value : Bool)
  /-- An object with the property `code`. -/
  | errorObject (code : Int)
  /-- An instance that holds a paste data. -/
  | pasteData (value : PasteData Uri Want)

/-- How a call ends: its promise is settled, or its callback is called with
these arguments. -/
inductive Delivery (Uri Want : Type) where
  | resolved (value : JsValue Uri Want)
  | rejected (value : JsValue Uri Want)
  | called (args : List (JsValue Uri Want))

def getCallbackErrorValue (errorCode : Int) : JsValue Uri Want :=
  .errorObject errorCode

/-- The arguments the callback gets. -/
def setCallback (errorCode : Int) (result : JsValue Uri Want) :
    List (JsValue Uri Want) :=
  napiCallFunction 1 [getCallbackErrorValue errorCode, result]

/-- `AsyncContext`: `deferred` is not null for a promise, `callbackRef` is not
null for a callback. -/
structure AsyncContext where
  deferred : Bool := false
  callbackRef : Bool := false
  status : Int := 0

namespace AsyncContext

/-- A call with an argument has a callback, and no promise. -/
def ofArgc (argc : Nat) : AsyncContext :=
  let asyncContext : AsyncContext := { callbackRef := decide (argc ≥ 1) }
  if ¬ asyncContext.callbackRef then { asyncContext with deferred := true }
  else asyncContext

/-- The end of the completion functions. -/
def complete (asyncContext : AsyncContext) (result : JsValue Uri Want) :
    Delivery Uri Want :=
  if asyncContext.deferred then
    if asyncContext.status = 0 then .resolved result else .rejected result
  else .called (setCallback asyncContext.status result)

end AsyncContext

/-! ## §2. The operations. -/

namespace PasteboardClient

variable {E : Ipc Uri Want} [ToString Uri]

/-- `service` is `none` where the client has found no service.  One that dies
of the request fails it. -/
def hasPasteDataOf (H : Host E) (c : Caller)
    (service : Option (PasteboardService Uri Want)) : Bool :=
  (service.bind fun s => PasteboardServiceProxy.hasPasteData H c s).elim false
    (·.value)

/-- The boolean result, and the out-parameter after the call. -/
def getPasteDataOf (H : Host E) (c : Caller) (pasteData : PasteData Uri Want)
    (service : Option (PasteboardService Uri Want)) :
    Bool × PasteData Uri Want :=
  (service.bind fun s => PasteboardServiceProxy.getPasteData H c pasteData s).elim
    (false, pasteData) (·.value)

end PasteboardClient

namespace SystemPasteboardNapi

variable {E : Ipc Uri Want} [ToString Uri]

def hasPasteData (H : Host E) (c : Caller)
    (service : Option (PasteboardService Uri Want)) (argc : Nat) :
    Delivery Uri Want :=
  let asyncContext := AsyncContext.ofArgc argc
  let asyncContext := { asyncContext with
    status := if PasteboardClient.hasPasteDataOf H c service then 0 else -1 }
  let result := .boolean (decide (asyncContext.status = 0))
  asyncContext.complete result

/-- `unwrapped` tells whether the native object of the new instance was found.
The result of `GetPasteData` is not looked at: without a clip the instance
holds an empty paste data. -/
def getPasteData (H : Host E) (c : Caller) (unwrapped : Bool)
    (service : Option (PasteboardService Uri Want)) (argc : Nat) :
    Delivery Uri Want :=
  let asyncContext := AsyncContext.ofArgc argc
  if unwrapped then
    let pasteData := (PasteboardClient.getPasteDataOf H c {} service).2
    { asyncContext with status := 0 }.complete (.pasteData pasteData)
  else
    { asyncContext with status := -1 }.complete (.pasteData {})

end SystemPasteboardNapi

/-! ## §3. The two forms of a call. -/

/-- The callback gets an error status and the value with which the promise is
settled; the status is a failure exactly when the promise is rejected. -/
def SameResult (callback promise : Delivery Uri Want) : Prop :=
  ∃ code value args, callback = .called args
    ∧ args[0]? = some (.errorObject code) ∧ args[1]? = some value
    ∧ (promise = .resolved value ∧ code = 0
      ∨ promise = .rejected value ∧ code ≠ 0)

/-- What is delivered to a callback and to a promise: a status that tells of a
failure exactly when the promise is rejected, and nothing else. -/
def StatusAgrees (callback promise : Delivery Uri Want) : Prop :=
  ∃ code value, callback = .called [.errorObject code]
    ∧ (promise = .resolved value ∧ code = 0
      ∨ promise = .rejected value ∧ code ≠ 0)

/-- **The two forms of a call that ends in a status and a result.** -/
theorem statusAgrees_complete (status : Int) (result : JsValue Uri Want) :
    StatusAgrees
      ({ AsyncContext.ofArgc 1 with status := status }.complete result)
      ({ AsyncContext.ofArgc 0 with status := status }.complete result) := by
  refine ⟨status, result, rfl, ?_⟩
  by_cases h : status = 0
  · exact Or.inl ⟨if_pos h, h⟩
  · exact Or.inr ⟨if_neg h, h⟩

/-- Where only the status is passed, the value is missing. -/
theorem StatusAgrees.not_sameResult {callback promise : Delivery Uri Want}
    (h : StatusAgrees callback promise) : ¬ SameResult callback promise := by
  intro hyp
  obtain ⟨_, _, hcallback, _⟩ := h
  obtain ⟨_, _, args, hcalled, _, hvalue, _⟩ := hyp
  rw [hcallback] at hcalled
  injection hcalled with hargs
  rw [← hargs] at hvalue
  cases hvalue

section Operations

variable {E : Ipc Uri Want} [ToString Uri]

variable (H : Host E) (c : Caller) (unwrapped : Bool)
    (service : Option (PasteboardService Uri Want))

/-- Both operations tell their callback whether they failed. -/
theorem callback_status :
    StatusAgrees (SystemPasteboardNapi.getPasteData H c unwrapped service 1)
        (SystemPasteboardNapi.getPasteData H c unwrapped service 0)
      ∧ StatusAgrees (SystemPasteboardNapi.hasPasteData H c service 1)
        (SystemPasteboardNapi.hasPasteData H c service 0) := by
  constructor
  · cases unwrapped with
    | true => exact statusAgrees_complete 0 _
    | false => exact statusAgrees_complete (-1) _
  · exact statusAgrees_complete _ _

/-- **CALLBACK AND PROMISE NEVER AGREE.**  In every state of the pasteboard, or
without one, neither operation passes its callback the value with which the
promise of the same call is settled: a callback gets no value. -/
theorem callback_gets_no_result :
    ¬ SameResult (SystemPasteboardNapi.getPasteData H c unwrapped service 1)
        (SystemPasteboardNapi.getPasteData H c unwrapped service 0)
      ∧ ¬ SameResult (SystemPasteboardNapi.hasPasteData H c service 1)
        (SystemPasteboardNapi.hasPasteData H c service 0) := by
  obtain ⟨hget, hhas⟩ := callback_status H c unwrapped service
  exact ⟨hget.not_sameResult, hhas.not_sameResult⟩

end Operations

/-- A pasteboard with a text of the user 100. -/
def oneClip : PasteboardService String String :=
  PasteboardService.storeClip 100 (PasteboardClient.createPlainTextData "a") {}

/-- **A pasteboard with a text**: the promise of `hasPasteData` is resolved with
`true`, and the callback gets an object with the code 0 alone. -/
theorem callback_gets_no_result_oneClip :
    ¬ ∀ (H : Host (listIpc String String)) (c : Caller)
        (service : Option (PasteboardService String String)),
      SameResult (SystemPasteboardNapi.hasPasteData H c service 1)
        (SystemPasteboardNapi.hasPasteData H c service 0) := by
  intro h
  have hstatus := callback_status sampleHost callerOf100 true (some oneClip)
  exact hstatus.2.not_sameResult (h sampleHost callerOf100 (some oneClip))

end Pasteboard
