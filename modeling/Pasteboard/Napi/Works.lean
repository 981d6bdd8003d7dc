/-
  Pasteboard.Napi.Works
  ─────────────────────
  **THE ASYNCHRONOUS CALLS OF JAVASCRIPT PROGRAMS** (`napi_pasteboard.cpp`,
  `PasteDataRecordNapi::ConvertToText`), and the programs as one system.

  A call allocates a context, takes a reference to its callback or makes a
  promise, and creates a work.  The work is executed on a worker thread, then
  completed on the thread of JavaScript:

    start     — the context, and the work where it can be created
    execute   — the request of `clear`, `hasPasteData`, `setPasteData`;
                the text of `convertToText`; nothing for `getPasteData`
    complete  — the request of `getPasteData`; the promise is settled or the
                callback called, the reference and the context are freed

  Works are executed in any order, and completed in any order.  Where a work
  cannot be created its context is freed at once, and its reference is not.

    • A program holds on to an instance while a call on it is pending:
      collection is left out.
    • Allocation, references, promises and the queueing of a work succeed.
    • A request finds the service or does not (`found`); one that finds it is
      served in one step.
-/
import Pasteboard.Lib.Linearize
import Pasteboard.Napi.Completion
import Pasteboard.Napi.Objects
import Pasteboard.Service.Clipboard

namespace Pasteboard

open Lib

variable {Uri Want Fn App : Type}

/-! ## §1. Contexts and their works. -/

def CALLBACK_RESULT_NUM : Nat := 2

/-- The methods that are asynchronous, with the instance they are about. -/
inductive AsyncMethod where
  | clear
  | hasPasteData
  | getPasteData
  | setPasteData (obj : Nat)
  | convertToText (record : Nat)
  deriving DecidableEq, Repr

/-- `AsyncContext`, or `AsyncText`, with its work.  Without a callback there is
a promise. -/
structure AsyncWork where
  method : AsyncMethod
  callbackRef : Option NapiRef := none
  executed : Bool := false
  status : Int := 0
  text : String := ""
  deriving DecidableEq, Repr

/-- How a call ends. -/
inductive Settlement (Want Fn : Type) where
  | resolved (value : JsResult Want)
  | rejected (value : JsResult Want)
  | called (callback : Fn) (args : List (JsResult Want))
  deriving DecidableEq, Repr

/-- What a completion function has made when it comes to deliver. -/
structure Ending (Want : Type) where
  status : Int
  resolution : JsResult Want
  rejection : JsResult Want
  args : List (JsResult Want)

/-- With `SetCallback`, which passes one argument of the two. -/
def Ending.ofResult (status : Int) (result : JsResult Want) : Ending Want where
  status := status
  resolution := result
  rejection := result
  args := napiCallFunction 1 [.errorObject status, result]

/-- `AsyncCompleteCallbackConvertToText`. -/
def Ending.ofText (status : Int) (text : String) : Ending Want :=
  let results : JsResult Want × JsResult Want :=
    if status = 0 then (.undefined, .ofString text)
    else (.error "ConvertToText Failed", .undefined)
  { status := status
    resolution := results.2
    rejection := results.1
    args := napiCallFunction CALLBACK_RESULT_NUM [results.1, results.2] }

/-- The callback is `none` for a promise. -/
def Ending.settle (ending : Ending Want) : Option Fn → Settlement Want Fn
  | none =>
      if ending.status = 0 then .resolved ending.resolution
      else .rejected ending.rejection
  | some callback => .called callback ending.args

/-! ## §2. One program. -/

structure JsApp (Uri Want Fn : Type) where
  objects : JsObjects Uri Want := {}
  refs : References Fn := {}
  works : Std.TreeMap Nat AsyncWork := {}
  /-- How many calls have been started. -/
  calls : Nat := 0

namespace JsApp

/-- What a method returns that cannot unwrap the instance it is about. -/
def missing (app : JsApp Uri Want Fn) : AsyncMethod → Option (JsResult Want)
  | .setPasteData obj =>
      if obj < app.objects.pasteDatas.length then none else some .null
  | .convertToText record =>
      if record < app.objects.records.length then none else some .undefined
  | _ => none

/-- `napi_create_reference` of the callback, if there is one: `none` where the
reference is live. -/
def createReference (refs : References Fn) :
    Option (Fn × NapiRef) → Option (References Fn)
  | none => some refs
  | some (callback, ref) => refs.create ref callback

/-- A call is made; `created` tells whether its work could be. -/
def start (method : AsyncMethod) (callback : Option (Fn × NapiRef))
    (created : Bool) (app : JsApp Uri Want Fn) :
    Option (JsApp Uri Want Fn × JsResult Want) :=
  match app.missing method with
  | some result => some (app, result)
  | none =>
      (createReference app.refs callback).map fun refs =>
        let work : AsyncWork :=
          { method := method, callbackRef := callback.map (·.2) }
        ({ app with
            refs := refs
            -- without a work the context is deleted, its reference stays
            works := if created then app.works.insert app.calls work
              else app.works
            calls := app.calls + 1 },
          if callback.isSome then .undefined else .promise app.calls)

end JsApp

/-- The client makes a request where it has found the service. -/
def PasteboardClient.request {α : Type} (found : Bool) (missing : α)
    (call : PasteboardService Uri Want → Option (Outcome Uri Want α))
    (service : PasteboardService Uri Want) : Option (Outcome Uri Want α) :=
  if found then call service else some ⟨missing, service, []⟩

section Bindings

variable {E : Ipc Uri Want} [ToString Uri] (H : Host E)

/-- The function of a work that runs on a worker thread. -/
def AsyncWork.execute (c : Caller) (found : Bool) (objects : JsObjects Uri Want)
    (service : PasteboardService Uri Want) (work : AsyncWork) :
    Option (AsyncWork × PasteboardService Uri Want) :=
  match work.method with
  | .clear =>
      (PasteboardClient.request found () (PasteboardServiceProxy.clear H c)
        service).map fun o => ({ work with status := 0 }, o.service)
  | .hasPasteData =>
      (PasteboardClient.request found false
        (PasteboardServiceProxy.hasPasteData H c) service).map fun o =>
          ({ work with status := if o.value then 0 else -1 }, o.service)
  | .getPasteData => some (work, service)
  | .setPasteData obj =>
      objects.pasteDatas[obj]?.bind fun d =>
        (PasteboardClient.request found ()
          (PasteboardServiceProxy.setPasteData H c d) service).map fun o =>
            ({ work with status := 0 }, o.service)
  | .convertToText record =>
      objects.records[record]?.map fun value =>
        match value with
        | none => ({ work with status := -1 }, service)
        | some r =>
            ({ work with status := 0, text := r.convertToText }, service)

/-- The function of a work that runs on the thread of JavaScript, up to the
delivery. -/
def AsyncWork.complete (c : Caller) (found : Bool)
    (objects : JsObjects Uri Want) (service : PasteboardService Uri Want)
    (work : AsyncWork) :
    Option (Ending Want × JsObjects Uri Want × PasteboardService Uri Want) :=
  match work.method with
  | .clear => some (.ofResult work.status .undefined, objects, service)
  | .setPasteData _ => some (.ofResult work.status .undefined, objects, service)
  | .hasPasteData =>
      some (.ofResult work.status (.boolean (decide (work.status = 0))),
        objects, service)
  | .convertToText _ => some (.ofText work.status work.text, objects, service)
  | .getPasteData =>
      (PasteboardClient.request found (false, {})
        (PasteboardServiceProxy.getPasteData H c {}) service).map fun o =>
          -- whether there was anything is not looked at
          let x := objects.newPasteData o.value.2
          (.ofResult 0 x.2, x.1, o.service)

end Bindings

/-! ## §3. The system. -/

/-- The programs, and what surrounds them. -/
structure JsHost (E : Ipc Uri Want) (App : Type) extends Host E where
  napi : Napi
  uri : String → Uri
  uid : App → Int

structure JsSystem (Uri Want Fn App : Type) where
  service : PasteboardService Uri Want := {}
  apps : App → JsApp Uri Want Fn := fun _ => {}

/-- What happens: a program makes a call, a work is executed or completed, or a
request of any other process arrives. -/
inductive JsInput (E : Ipc Uri Want) (Fn App : Type) where
  | op (a : App) (op : JsOp Want)
  | start (a : App) (method : AsyncMethod) (callback : Option (Fn × NapiRef))
      (created : Bool)
  | execute (a : App) (call : Nat) (clock : Clock) (found : Bool)
  | complete (a : App) (call : Nat) (clock : Clock) (found : Bool)
  | request (r : Request E)

inductive JsOutput (Want Fn App : Type) where
  | returned (a : App) (result : JsResult Want)
  | settled (a : App) (call : Nat) (settlement : Settlement Want Fn)
  deriving DecidableEq

namespace JsSystem

variable {E : Ipc Uri Want} [ToString Uri] [DecidableEq App]

def setApp (a : App) (app : JsApp Uri Want Fn)
    (s : JsSystem Uri Want Fn App) : JsSystem Uri Want Fn App :=
  { s with apps := Function.update s.apps a app }

variable (J : JsHost E App)

def caller (a : App) (clock : Clock) : Caller := ⟨J.uid a, clock⟩

/-- A work that has been executed is not executed again. -/
def execute (a : App) (call : Nat) (clock : Clock) (found : Bool)
    (s : JsSystem Uri Want Fn App) :
    Option (JsSystem Uri Want Fn App × List (JsOutput Want Fn App)) :=
  let app := s.apps a
  app.works[call]?.bind fun work =>
    if work.executed then none
    else
      (work.execute J.toHost (caller J a clock) found app.objects
        s.service).map fun x =>
          let works := app.works.insert call { x.1 with executed := true }
          ({ s.setApp a { app with works := works } with service := x.2 }, [])

/-- The reference and the work are deleted; `none` is also the use of a
reference that is not live. -/
def complete (a : App) (call : Nat) (clock : Clock) (found : Bool)
    (s : JsSystem Uri Want Fn App) :
    Option (JsSystem Uri Want Fn App × List (JsOutput Want Fn App)) :=
  let app := s.apps a
  app.works[call]?.bind fun work =>
    if ¬ work.executed then none
    else
      (work.complete J.toHost (caller J a clock) found app.objects
        s.service).bind fun x =>
          let works := app.works.erase call
          match work.callbackRef with
          | none =>
              let app := { app with objects := x.2.1, works := works }
              some ({ s.setApp a app with service := x.2.2 },
                [.settled a call (x.1.settle none)])
          | some ref =>
              app.refs[ref]?.map fun callback =>
                let app := { app with
                  objects := x.2.1
                  refs := app.refs.erase ref
                  works := works }
                ({ s.setApp a app with service := x.2.2 },
                  [.settled a call (x.1.settle (some callback))])

def step (s : JsSystem Uri Want Fn App) :
    JsInput E Fn App →
      Option (JsSystem Uri Want Fn App × List (JsOutput Want Fn App))
  | .op a op =>
      ((s.apps a).objects.exec J.napi J.uri op).map fun x =>
        (s.setApp a { s.apps a with objects := x.1 }, [.returned a x.2])
  | .start a method callback created =>
      ((s.apps a).start method callback created).map fun x =>
        (s.setApp a x.1, [.returned a x.2])
  | .execute a call clock found => s.execute J a call clock found
  | .complete a call clock found => s.complete J a call clock found
  | .request r =>
      (PasteboardServiceStub.onRemoteRequest J.toHost r s.service).map
        fun answer => ({ s with service := answer.service }, [])

end JsSystem

def jsMachine {E : Ipc Uri Want} [ToString Uri] [DecidableEq App]
    (J : JsHost E App) :
    Machine (JsSystem Uri Want Fn App) (JsInput E Fn App)
      (JsOutput Want Fn App) where
  step := JsSystem.step J

/-! ## §4. The delivery of `AsyncContext`. -/

/-- The instance that is delivered is the instance `obj`. -/
def JsValue.toResult (obj : Nat) : JsValue Uri Want → JsResult Want
  | .boolean value => .boolean value
  | .errorObject code => .errorObject code
  | .pasteData _ => .pasteData obj

def Delivery.settlement (obj : Nat) (callback : Option Fn) :
    Delivery Uri Want → Option (Settlement Want Fn)
  | .resolved value => some (.resolved (value.toResult obj))
  | .rejected value => some (.rejected (value.toResult obj))
  | .called args => callback.map (.called · (args.map (·.toResult obj)))

/-- **A call is settled with what its context delivers.** -/
theorem Ending.settle_ofResult (obj : Nat) (callback : Option Fn) (status : Int)
    (result : JsValue Uri Want) :
    (({ AsyncContext.ofArgc (if callback.isSome then 1 else 0) with
        status := status } : AsyncContext).complete result).settlement obj
          callback
      = some ((Ending.ofResult status (result.toResult obj)).settle
          callback) := by
  cases callback with
  | some fn => rfl
  | none =>
      unfold AsyncContext.complete settle
      by_cases h : status = 0
      · simp [AsyncContext.ofArgc, Ending.ofResult, h, Delivery.settlement]
      · simp [AsyncContext.ofArgc, Ending.ofResult, h, Delivery.settlement]

/-! ## §5. Two programs. -/

/-- Two programs of the user 100. -/
def sampleJs : JsHost (listIpc String String) Bool where
  toHost := sampleHost
  napi := .filling
  uri := id
  uid a := if a then 20000002 else 20000001

/-- One copies a text and adds another too late, the other asks for what there
is. -/
def copyThenPaste : List (JsInput (listIpc String String) String Bool) :=
  [.op false (.createData (.createPlainTextData "a")),
    .start false (.setPasteData 0) none true,
    .execute false 0 ⟨none, 0⟩ true,
    .op false (.update 0 (.addTextRecord "b")),
    .complete false 0 ⟨none, 0⟩ true,
    .start true .getPasteData (some ("f", 7)) true,
    .execute true 0 ⟨none, 0⟩ true]

end Pasteboard
