/-
  Pasteboard.Napi.Observing
  ─────────────────────────
  **THE WAY OF A CHANGE TO THE PROGRAMS** (`pasteboard_observer_proxy.cpp`,
  `pasteboard_observer_stub.cpp`, and `napi_pasteboard.cpp` once more).

  A program turns a function on with a new instance, which the client registers
  at the service.  The service calls it back over the transport:

    NotifyObservers → PasteboardObserverProxy::OnPasteboardChanged
      → PasteboardObserverStub::OnRemoteRequest → OnPasteboardChanged
      → a work in the queue of the program → the function

  `Pasteboard.Napi.Observers` is one program beside the service, that hears of
  every change.  Here there are any number of programs, of any users, and the
  requests of other processes.

    • Only the service gets hold of the remote object of a program's instance:
      no other process can send it.
    • The call of an observer is over before the request that caused it; it
      only queues a work.  Allocation and queueing succeed.
-/
import Pasteboard.Client.Observers
import Pasteboard.Napi.Observers
import Pasteboard.Napi.Works

namespace Pasteboard

open Lib

variable {Uri Want Fn App : Type} {E : Ipc Uri Want}

/-! ## §1. The call of an observer. -/

/-- `GetDescriptor` of an observer. -/
def OBSERVER_DESCRIPTOR : String :=
  "ohos.miscservices.pasteboard.IPasteboardChangedObserver"

def ON_PASTE_BOARD_CHANGE : UInt32 := 0

/-- The stub of an observer that does `onPasteboardChanged`. -/
def PasteboardObserverStub.onRemoteRequest {σ : Type}
    (ipcObjectStub : UInt32 → E.Parcel → ErrCode × E.Parcel)
    (onPasteboardChanged : σ → σ) (code : UInt32) (data : E.Parcel) (s : σ) :
    ErrCode × σ :=
  let remote := E.readInterfaceToken data
  if OBSERVER_DESCRIPTOR ≠ remote.1 then ((ipcObjectStub code remote.2).1, s)
  -- the one entry of `memberFuncMap_`
  else if code = ON_PASTE_BOARD_CHANGE then (.ERR_OK, onPasteboardChanged s)
  else ((ipcObjectStub code remote.2).1, s)

/-- Where the token cannot be written nothing is sent; the status of what is
sent is only logged. -/
def PasteboardObserverProxy.onPasteboardChanged {σ : Type} (E : Ipc Uri Want)
    (sendRequest : UInt32 → E.Parcel → σ → ErrCode × σ) (s : σ) : σ :=
  match E.writeInterfaceToken OBSERVER_DESCRIPTOR E.wire.empty with
  | none => s
  | some data => (sendRequest ON_PASTE_BOARD_CHANGE data s).2

/-- **The call arrives**, and makes nothing else. -/
theorem PasteboardObserverProxy.onPasteboardChanged_eq {σ : Type}
    (T : E.Faithful) (L : E.Lossless)
    (ipcObjectStub : UInt32 → E.Parcel → ErrCode × E.Parcel) (call : σ → σ)
    (s : σ) :
    onPasteboardChanged E
        (PasteboardObserverStub.onRemoteRequest ipcObjectStub call) s
      = call s := by
  obtain ⟨data, hdata⟩ := L .interfaceToken OBSERVER_DESCRIPTOR E.wire.empty
  have hunread := T.fifo.emits_write .interfaceToken OBSERVER_DESCRIPTOR
    E.wire.empty data hdata
  rw [T.fifo.unread_empty, List.nil_append] at hunread
  have htoken : (E.readInterfaceToken data).1 = OBSERVER_DESCRIPTOR :=
    (T.fifo.read_head hunread).1
  unfold onPasteboardChanged
  rw [show E.writeInterfaceToken OBSERVER_DESCRIPTOR E.wire.empty = some data
    from hdata]
  unfold PasteboardObserverStub.onRemoteRequest
  dsimp only
  rw [if_neg fun hne => hne htoken.symm, if_pos rfl]

/-! ## §2. The programs. -/

/-- What one program has: its references, `observers_`, and the queue of its
event loop. -/
structure ObservingApp (Fn : Type) where
  refs : References Fn := {}
  observers : Std.TreeMap NapiRef RemoteObject := {}
  queue : List PasteboardDataWorker := []

/-- The instances of all programs by their remote objects.  `moment` counts
what has happened so far. -/
structure ObservingSystem (Uri Want Fn App : Type) where
  service : PasteboardService Uri Want := {}
  instances : Std.TreeMap RemoteObject (App × PasteboardObserverInstance) := {}
  apps : App → ObservingApp Fn := fun _ => {}
  moment : Nat := 0

/-- What happens.  The reference is the one N-API makes; the remote object is
that of the new instance. -/
inductive ObservingInput (E : Ipc Uri Want) (Fn App : Type) where
  | on (a : App) (type : String) (callback : Fn) (ref : NapiRef)
      (observer : RemoteObject) (clock : Clock) (found : Bool)
  | off (a : App) (type : String) (callback : Option (Fn × NapiRef))
      (clock : Clock) (found : Bool)
  /-- The event loop of the program makes the queued call at `index`. -/
  | work (a : App) (index : Nat)
  /-- A request of any process, those of the programs' other calls among
  them. -/
  | request (r : Request E)

/-- What JavaScript sees; `change` is the moment of the change. -/
inductive ObservingOutput (Fn App : Type) where
  | error (a : App) (message : String)
  | called (a : App) (ref : NapiRef) (callback : Fn) (change : Nat)
  deriving DecidableEq, Repr

namespace ObservingApp

def queueWork (w : PasteboardDataWorker) (app : ObservingApp Fn) :
    ObservingApp Fn :=
  { app with queue := app.queue ++ [w] }

def deletePasteboardObserverIns (ref : NapiRef) (app : ObservingApp Fn) :
    ObservingApp Fn :=
  if ref ∈ app.observers then
    { app with
      refs := app.refs.erase ref, observers := app.observers.erase ref }
  else app

/-- `UvQueueWorkOnPasteboardChanged`, for the queued call at `index`: `none`
is also the use of a reference that is not live any more. -/
def work (a : App) (index : Nat) (app : ObservingApp Fn) :
    Option (ObservingApp Fn × List (ObservingOutput Fn App)) :=
  app.queue[index]?.bind fun w =>
    let app := { app with queue := app.queue.eraseIdx index }
    let app := if w.isOff then app.deletePasteboardObserverIns w.ref else app
    app.refs[w.ref]?.map fun callback =>
      (app, [.called a w.ref callback w.change])

end ObservingApp

/-- The remote object an operation carries. -/
def ServiceOp.observer : ServiceOp Uri Want → Option RemoteObject
  | .addPasteboardChangedObserver _ o => o
  | .removePasteboardChangedObserver _ o => o
  | _ => none

namespace ObservingSystem

variable [DecidableEq App]

def setApp (a : App) (app : ObservingApp Fn)
    (s : ObservingSystem Uri Want Fn App) : ObservingSystem Uri Want Fn App :=
  { s with apps := Function.update s.apps a app }

/-- `PasteboardObserverInstance::OnPasteboardChanged` of the instance with this
remote object; one of another process is that process's business. -/
def onPasteboardChanged (observer : RemoteObject)
    (s : ObservingSystem Uri Want Fn App) : ObservingSystem Uri Want Fn App :=
  match s.instances[observer]? with
  | none => s
  | some (a, x) =>
      s.setApp a
        ((s.apps a).queueWork (SystemPasteboardNapi.worker s.moment x))

variable (J : JsHost E App)

/-- The call the service makes of an observer. -/
def call (s : ObservingSystem Uri Want Fn App) (observer : RemoteObject) :
    ObservingSystem Uri Want Fn App :=
  PasteboardObserverProxy.onPasteboardChanged E
    (PasteboardObserverStub.onRemoteRequest J.ipcObjectStub
      (onPasteboardChanged observer)) s

/-- The service has made a step, with its calls of observers. -/
def notify (x : PasteboardService Uri Want × List Event)
    (s : ObservingSystem Uri Want Fn App) : ObservingSystem Uri Want Fn App :=
  (x.2.filterMap SystemPasteboardNapi.change.observerOf).foldl (call J)
    { s with service := x.1 }

/-- The client makes an observer function where it has found the service. -/
def request [ToString Uri] (c : Caller) (found : Bool)
    (op : ClientOp Uri Want) (s : PasteboardService Uri Want) :
    Option (PasteboardService Uri Want × List Event) :=
  if found then op.overProxy J.toHost c s else some (s, [])

/-- The remote object is in use. -/
def known (observer : RemoteObject) (s : ObservingSystem Uri Want Fn App) :
    Bool :=
  s.instances.contains observer
    || s.service.observerMap.toList.any fun r => r.2.contains observer

variable [ToString Uri]

/-- `SystemPasteboardNapi::On`.  A new instance is a new remote object. -/
def on (a : App) (type : String) (callback : Fn) (ref : NapiRef)
    (observer : RemoteObject) (clock : Clock) (found : Bool)
    (s : ObservingSystem Uri Want Fn App) :
    Option (ObservingSystem Uri Want Fn App × List (ObservingOutput Fn App)) :=
  if ¬ SystemPasteboardNapi.checkType J.napi type then
    some (s, [.error a "error type"])
  else if s.known observer then none
  else
    let app := s.apps a
    (app.refs.create ref callback).bind fun refs =>
      (request J (JsSystem.caller J a clock) found
        (.addPasteboardChangedObserver (some observer)) s.service).map fun x =>
          let app := { app with
            refs := refs, observers := app.observers.insert ref observer }
          let s := { s.setApp a app with
            instances := s.instances.insert observer (a, { ref := ref }) }
          (s.notify J x, [])

/-- `SystemPasteboardNapi::Off`.  Without a callback there is no reference
either. -/
def off (a : App) (type : String) (callback : Option (Fn × NapiRef))
    (clock : Clock) (found : Bool) (s : ObservingSystem Uri Want Fn App) :
    Option (ObservingSystem Uri Want Fn App × List (ObservingOutput Fn App)) :=
  if ¬ SystemPasteboardNapi.checkType J.napi type then
    some (s, [.error a "error type"])
  else
    match callback with
    | none => some (s, [])
    | some (callback, ref) =>
        let app := s.apps a
        (app.refs.create ref callback).bind fun refs =>
          let s := s.setApp a { app with refs := refs }
          -- under the new reference, not under the one that `on` has made
          match app.observers[ref]? with
          -- "Callback is invalid", which is only logged
          | none => some (s, [])
          | some observer =>
              let s := { s with instances :=
                s.instances.modify observer fun x =>
                  (x.1, { x.2 with isOff := true }) }
              (request J (JsSystem.caller J a clock) found
                (.removePasteboardChangedObserver (some observer))
                s.service).map fun x => (s.notify J x, [])

def work (a : App) (index : Nat) (s : ObservingSystem Uri Want Fn App) :
    Option (ObservingSystem Uri Want Fn App × List (ObservingOutput Fn App)) :=
  ((s.apps a).work a index).map fun x => (s.setApp a x.1, x.2)

/-- The request carries the remote object of a program's instance. -/
def forged (r : Request E) (s : ObservingSystem Uri Want Fn App) : Bool :=
  ((r.op J.toHost).bind ServiceOp.observer).any s.instances.contains

def answer (r : Request E) (s : ObservingSystem Uri Want Fn App) :
    Option (ObservingSystem Uri Want Fn App × List (ObservingOutput Fn App)) :=
  if s.forged J r then none
  else
    (PasteboardServiceStub.onRemoteRequest J.toHost r s.service).map
      fun answer => (s.notify J answer.step, [])

def exec (s : ObservingSystem Uri Want Fn App) : ObservingInput E Fn App →
    Option (ObservingSystem Uri Want Fn App × List (ObservingOutput Fn App))
  | .on a type callback ref observer clock found =>
      s.on J a type callback ref observer clock found
  | .off a type callback clock found => s.off J a type callback clock found
  | .work a index => s.work a index
  | .request r => s.answer J r

end ObservingSystem

def observingMachine [ToString Uri] [DecidableEq App] (J : JsHost E App) :
    Machine (ObservingSystem Uri Want Fn App) (ObservingInput E Fn App)
      (ObservingOutput Fn App) where
  step s i :=
    (s.exec J i).map fun x => ({ x.1 with moment := s.moment + 1 }, x.2)

end Pasteboard
