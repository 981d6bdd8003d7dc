/-
  Pasteboard.Service.Stub
  ───────────────────────
  **REQUESTS TO THE SERVICE** (`pasteboard_service_stub.cpp`,
  `pasteboard_service_proxy.cpp`): the stub decodes a request and makes one
  call of the service; the proxy is its client side.

    • A request names its caller, a code and a parcel with ANY content.
    • The base class `IPCObjectStub`, which takes the requests the stub does
      not know, and `iface_cast` come from outside: they are parameters, and
      the base class does not reach the service's state.
    • `exec_request` is what everything else rests on: a request steps the
      service as the operation it decodes to, or not at all.
    • The reply to a failed request is an empty parcel here: no proxy reads it.
    • `SendRequest` hands the request to the stub and returns its status.
-/
import Pasteboard.Service.Ops
import Pasteboard.Ipc.Marshalling

namespace Pasteboard

open Lib

variable {Uri Want : Type}

/-! ## §1. Codes, requests and replies. -/

/-- The statuses; `ERR_NONE` is the same value as `ERR_OK`. -/
inductive ErrCode where
  | ERR_OK
  | ERR_INVALID_VALUE
  | other (code : Int)
  deriving DecidableEq, Repr

def GET_PASTE_DATA : UInt32 := 0
def HAS_PASTE_DATA : UInt32 := 1
def SET_PASTE_DATA : UInt32 := 2
def CLEAR_ALL : UInt32 := 3
def ADD_OBSERVER : UInt32 := 4
def DELETE_OBSERVER : UInt32 := 5
def DELETE_ALL_OBSERVER : UInt32 := 6

/-- `GetDescriptor` of the service. -/
def DESCRIPTOR : String := "ohos.miscservices.pasteboard.IPasteboardService"

/-- A platform, the cast of a remote object to an observer (the remote object
of the result, if there is one), and the base class of the stub. -/
structure Host (E : Ipc Uri Want) extends Platform where
  ifaceCast : RemoteObject → Option RemoteObject
  ipcObjectStub : UInt32 → E.Parcel → ErrCode × E.Parcel

/-- A request as it arrives. -/
structure Request (E : Ipc Uri Want) where
  code : UInt32
  data : E.Parcel
  caller : Caller

/-- The status of a request and its reply. -/
abbrev Answer (E : Ipc Uri Want) : Type :=
  Outcome Uri Want (ErrCode × E.Parcel)

/-! ## §2. The stub. -/

namespace PasteboardServiceStub

variable {E : Ipc Uri Want} [ToString Uri] (H : Host E)

/-- The answer of an operation that returns nothing. -/
def ok (o : Outcome Uri Want Unit) : Answer E :=
  ⟨(.ERR_OK, E.wire.empty), o.service, o.events⟩

/-- The answer where no operation is called. -/
def fail (s : PasteboardService Uri Want) : Answer E :=
  ⟨(.ERR_INVALID_VALUE, E.wire.empty), s, []⟩

def onClear (c : Caller) (s : PasteboardService Uri Want) : Option (Answer E) :=
  some (ok (s.clear H.toPlatform c))

def onGetPasteData (c : Caller) (s : PasteboardService Uri Want) :
    Option (Answer E) :=
  (s.getPasteData H.toPlatform c {}).map fun o =>
    if o.value.1 then
      match E.writeParcelable (PasteData.marshalling E) (some o.value.2)
          E.wire.empty with
      | none => ⟨(.ERR_INVALID_VALUE, E.wire.empty), o.service, o.events⟩
      | some reply => ⟨(.ERR_OK, reply), o.service, o.events⟩
    else ⟨(.ERR_INVALID_VALUE, E.wire.empty), o.service, o.events⟩

/-- The result of `WriteBool` is not checked. -/
def onHasPasteData (c : Caller) (s : PasteboardService Uri Want) :
    Option (Answer E) :=
  let o := s.hasPasteData H.toPlatform c
  let reply := (E.writeBool o.value E.wire.empty).getD E.wire.empty
  some ⟨(.ERR_OK, reply), o.service, o.events⟩

def onSetPasteData (c : Caller) (data : E.Parcel)
    (s : PasteboardService Uri Want) : Option (Answer E) :=
  match (E.readParcelable (PasteData.unmarshalling E) data).1 with
  | none => some (fail s)
  -- what stands behind the paste data is not looked at
  | some pasteData => (s.setPasteData H.toPlatform c pasteData).map ok

/-- The two handlers of one observer: read the object, cast it, call. -/
def onObserver
    (call : Option RemoteObject → Outcome Uri Want Unit) (data : E.Parcel)
    (s : PasteboardService Uri Want) : Option (Answer E) :=
  match (E.readRemoteObject data).1 with
  | none => some (fail s)
  | some obj =>
      match H.ifaceCast obj with
      | none => some (fail s)
      | some callback => some (ok (call (some callback)))

def onAddPasteboardChangedObserver (c : Caller) (data : E.Parcel)
    (s : PasteboardService Uri Want) : Option (Answer E) :=
  onObserver H
    (fun o => s.addPasteboardChangedObserver H.toPlatform c o) data s

def onRemovePasteboardChangedObserver (c : Caller) (data : E.Parcel)
    (s : PasteboardService Uri Want) : Option (Answer E) :=
  onObserver H
    (fun o => s.removePasteboardChangedObserver H.toPlatform c o) data s

def onRemoveAllChangedObserver (c : Caller) (s : PasteboardService Uri Want) :
    Option (Answer E) :=
  some (ok (s.removeAllChangedObserver H.toPlatform c))

/-- The handler a code has in `memberFuncMap_`. -/
def memberFunc (code : UInt32) :
    Option (Caller → E.Parcel → PasteboardService Uri Want →
      Option (Answer E)) :=
  if code = GET_PASTE_DATA then some fun c _ s => onGetPasteData H c s
  else if code = HAS_PASTE_DATA then some fun c _ s => onHasPasteData H c s
  else if code = SET_PASTE_DATA then some fun c d s => onSetPasteData H c d s
  else if code = CLEAR_ALL then some fun c _ s => onClear H c s
  else if code = ADD_OBSERVER then
    some fun c d s => onAddPasteboardChangedObserver H c d s
  else if code = DELETE_OBSERVER then
    some fun c d s => onRemovePasteboardChangedObserver H c d s
  else if code = DELETE_ALL_OBSERVER then
    some fun c _ s => onRemoveAllChangedObserver H c s
  else none

def onRemoteRequest (r : Request E) (s : PasteboardService Uri Want) :
    Option (Answer E) :=
  let remote := E.readInterfaceToken r.data
  if DESCRIPTOR ≠ remote.1 then
    -- a wrong token is the base class's business, and so is an unknown code
    some ⟨H.ipcObjectStub r.code remote.2, s, []⟩
  else
    match memberFunc H r.code with
    | some func => func r.caller remote.2 s
    | none => some ⟨H.ipcObjectStub r.code remote.2, s, []⟩

end PasteboardServiceStub

/-- The service behind its stub, as a machine over requests. -/
def stubMachine {E : Ipc Uri Want} [ToString Uri] (H : Host E) :
    Machine (PasteboardService Uri Want) (Request E) Event where
  step s r := (PasteboardServiceStub.onRemoteRequest H r s).map (·.step)

/-! ## §3. The proxy. -/

namespace PasteboardServiceProxy

variable {E : Ipc Uri Want} [ToString Uri] (H : Host E)

/-- A request of the proxy: the interface token, and what `write` appends. -/
def request (code : UInt32) (write : E.Writer) (c : Caller) :
    Option (Request E) :=
  ((E.writeInterfaceToken DESCRIPTOR >=> write) E.wire.empty).map fun data =>
    ⟨code, data, c⟩

/-- The proxy's functions without a result: where the request cannot be
written nothing is sent, and the status of one that is sent is only logged. -/
def send (code : UInt32) (write : E.Writer) (c : Caller)
    (s : PasteboardService Uri Want) : Option (Outcome Uri Want Unit) :=
  match request code write c with
  | none => some ⟨(), s, []⟩
  | some r =>
      (PasteboardServiceStub.onRemoteRequest H r s).map fun answer =>
        ⟨(), answer.service, answer.events⟩

def clear (c : Caller) (s : PasteboardService Uri Want) :
    Option (Outcome Uri Want Unit) :=
  send H CLEAR_ALL some c s

/-- An observer is given by its remote object; a null one is not sent. -/
def addPasteboardChangedObserver (c : Caller) (observer : Option RemoteObject)
    (s : PasteboardService Uri Want) : Option (Outcome Uri Want Unit) :=
  match observer with
  | none => some ⟨(), s, []⟩
  | some o => send H ADD_OBSERVER (E.writeRemoteObject o) c s

def removePasteboardChangedObserver (c : Caller)
    (observer : Option RemoteObject) (s : PasteboardService Uri Want) :
    Option (Outcome Uri Want Unit) :=
  match observer with
  | none => some ⟨(), s, []⟩
  | some o => send H DELETE_OBSERVER (E.writeRemoteObject o) c s

def removeAllChangedObserver (c : Caller) (s : PasteboardService Uri Want) :
    Option (Outcome Uri Want Unit) :=
  send H DELETE_ALL_OBSERVER some c s

def hasPasteData (c : Caller) (s : PasteboardService Uri Want) :
    Option (Outcome Uri Want Bool) :=
  match request HAS_PASTE_DATA some c with
  | none => some ⟨false, s, []⟩
  | some r =>
      (PasteboardServiceStub.onRemoteRequest H r s).map fun answer =>
        if answer.value.1 ≠ .ERR_OK then ⟨false, answer.service, answer.events⟩
        else ⟨(E.readBool answer.value.2).1, answer.service, answer.events⟩

def setPasteData (c : Caller) (pasteData : PasteData Uri Want)
    (s : PasteboardService Uri Want) : Option (Outcome Uri Want Unit) :=
  send H SET_PASTE_DATA
    (E.writeParcelable (PasteData.marshalling E) (some pasteData)) c s

/-- The boolean result, and the out-parameter after the call. -/
def getPasteData (c : Caller) (pasteData : PasteData Uri Want)
    (s : PasteboardService Uri Want) :
    Option (Outcome Uri Want (Bool × PasteData Uri Want)) :=
  match request GET_PASTE_DATA some c with
  | none => some ⟨(false, pasteData), s, []⟩
  | some r =>
      (PasteboardServiceStub.onRemoteRequest H r s).map fun answer =>
        if answer.value.1 ≠ .ERR_OK then
          ⟨(false, pasteData), answer.service, answer.events⟩
        else
          match (E.readParcelable (PasteData.unmarshalling E)
              answer.value.2).1 with
          | none => ⟨(false, pasteData), answer.service, answer.events⟩
          | some pasteInfo =>
              ⟨(true, pasteInfo), answer.service, answer.events⟩

end PasteboardServiceProxy

/-! ## §4. A request is an operation, or none. -/

namespace Request

variable {E : Ipc Uri Want} (H : Host E)

/-- The observer a request carries. -/
def observer (data : E.Parcel) : Option RemoteObject :=
  (E.readRemoteObject data).1.bind H.ifaceCast

/-- The operation a code asks for, with its arguments from the parcel. -/
def decode (code : UInt32) (data : E.Parcel) (c : Caller) :
    Option (ServiceOp Uri Want) :=
  if code = GET_PASTE_DATA then some (.getPasteData c {})
  else if code = HAS_PASTE_DATA then some (.hasPasteData c)
  else if code = SET_PASTE_DATA then
    (E.readParcelable (PasteData.unmarshalling E) data).1.map
      (.setPasteData c)
  else if code = CLEAR_ALL then some (.clear c)
  else if code = ADD_OBSERVER then
    (observer H data).map fun o => .addPasteboardChangedObserver c (some o)
  else if code = DELETE_OBSERVER then
    (observer H data).map fun o => .removePasteboardChangedObserver c (some o)
  else if code = DELETE_ALL_OBSERVER then some (.removeAllChangedObserver c)
  else none

/-- The operation a request makes, if its token is the service's. -/
def op (r : Request E) : Option (ServiceOp Uri Want) :=
  let remote := E.readInterfaceToken r.data
  if DESCRIPTOR ≠ remote.1 then none else decode H r.code remote.2 r.caller

/-- **What an operation tells of the request that made it.** -/
structure OpSpec (r : Request E) (op : ServiceOp Uri Want) : Prop where
  caller : op.caller = r.caller
  setPasteData : ∀ c d, op = .setPasteData c d → r.code = SET_PASTE_DATA
    ∧ (E.readParcelable (PasteData.unmarshalling E)
        (E.readInterfaceToken r.data).2).1 = some d
  clear : ∀ c, op = .clear c → r.code = CLEAR_ALL

/-- An operation that is neither a `SetPasteData` nor a `Clear`. -/
theorem OpSpec.of_not_assigns {r : Request E} {op : ServiceOp Uri Want}
    (hc : op.caller = r.caller) (hno : ¬ op.Assigns) : r.OpSpec op where
  caller := hc
  setPasteData c d hop := by
    subst hop
    exact absurd trivial hno
  clear c hop := by
    subst hop
    exact absurd trivial hno

theorem op_spec {r : Request E} {op : ServiceOp Uri Want}
    (h : r.op H = some op) : r.OpSpec op := by
  unfold Request.op at h
  dsimp only at h
  split at h
  · cases h
  -- the codes in the order of `memberFuncMap_`
  unfold decode at h
  split at h
  · injection h with h
    subst h
    exact OpSpec.of_not_assigns rfl fun hno => hno
  split at h
  · injection h with h
    subst h
    exact OpSpec.of_not_assigns rfl fun hno => hno
  split at h
  · next hcode =>
      obtain ⟨d, hd, hop⟩ := Option.map_eq_some_iff.mp h
      subst hop
      refine ⟨rfl, ?_, ?_⟩
      · intro c d' hop
        injection hop with _ hdd
        subst hdd
        exact ⟨hcode, hd⟩
      · intro c hop
        cases hop
  split at h
  · next hcode =>
      injection h with h
      subst h
      refine ⟨rfl, ?_, fun _ _ => hcode⟩
      intro c d hop
      cases hop
  split at h
  · obtain ⟨o, _, hop⟩ := Option.map_eq_some_iff.mp h
    subst hop
    exact OpSpec.of_not_assigns rfl fun hno => hno
  split at h
  · obtain ⟨o, _, hop⟩ := Option.map_eq_some_iff.mp h
    subst hop
    exact OpSpec.of_not_assigns rfl fun hno => hno
  split at h
  · injection h with h
    subst h
    exact OpSpec.of_not_assigns rfl fun hno => hno
  · cases h

variable [ToString Uri]

/-- The step of an operation, if there is one. -/
def execOp (P : Platform) (s : PasteboardService Uri Want) :
    Option (ServiceOp Uri Want) →
      Option (PasteboardService Uri Want × List Event)
  | none => some (s, [])
  | some op => op.exec P s

theorem step_onGetPasteData (c : Caller) (s : PasteboardService Uri Want) :
    (PasteboardServiceStub.onGetPasteData H c s).map (·.step)
      = (ServiceOp.getPasteData c {}).exec H.toPlatform s := by
  show ((s.getPasteData H.toPlatform c {}).map _).map _
    = (s.getPasteData H.toPlatform c {}).map _
  rw [Option.map_map]
  congr 1
  funext o
  show Outcome.step (if o.value.1 = true then _ else _) = o.step
  split
  · split <;> rfl
  · rfl

theorem step_onSetPasteData (c : Caller) (data : E.Parcel)
    (s : PasteboardService Uri Want) :
    (PasteboardServiceStub.onSetPasteData H c data s).map (·.step)
      = execOp H.toPlatform s
          ((E.readParcelable (PasteData.unmarshalling E) data).1.map
            (.setPasteData c)) := by
  unfold PasteboardServiceStub.onSetPasteData
  cases (E.readParcelable (PasteData.unmarshalling E) data).1 with
  | none => rfl
  | some d =>
      show ((s.setPasteData H.toPlatform c d).map _).map _
        = (s.setPasteData H.toPlatform c d).map _
      rw [Option.map_map]
      rfl

/-- Both handlers of one observer, whatever they call. -/
theorem step_onObserver
    (call : Option RemoteObject → Outcome Uri Want Unit)
    (mk : Option RemoteObject → ServiceOp Uri Want) (data : E.Parcel)
    (s : PasteboardService Uri Want)
    (h : ∀ o, (mk o).exec H.toPlatform s = some (call o).step) :
    (PasteboardServiceStub.onObserver H call data s).map (·.step)
      = execOp H.toPlatform s ((observer H data).map fun o => mk (some o)) := by
  unfold PasteboardServiceStub.onObserver observer
  cases (E.readRemoteObject data).1 with
  | none => rfl
  | some obj =>
      show Option.map _ (match H.ifaceCast obj with
          | none => some (PasteboardServiceStub.fail s)
          | some callback =>
              some (PasteboardServiceStub.ok (call (some callback))))
        = execOp H.toPlatform s ((H.ifaceCast obj).map fun o => mk (some o))
      cases H.ifaceCast obj with
      | none => rfl
      | some o => exact (h (some o)).symm

/-- **A request steps the service as its operation does**, or leaves it as it
is where it makes none. -/
theorem exec_request (r : Request E) (s : PasteboardService Uri Want) :
    (stubMachine H).step s r = execOp H.toPlatform s (r.op H) := by
  show (PasteboardServiceStub.onRemoteRequest H r s).map (·.step) = _
  unfold PasteboardServiceStub.onRemoteRequest op
  dsimp only
  by_cases htoken : DESCRIPTOR ≠ (E.readInterfaceToken r.data).1
  · rw [if_pos htoken, if_pos htoken]
    rfl
  · rw [if_neg htoken, if_neg htoken]
    unfold PasteboardServiceStub.memberFunc decode
    -- the codes in the order of the table
    by_cases h₀ : r.code = GET_PASTE_DATA
    · rw [if_pos h₀, if_pos h₀]
      exact step_onGetPasteData H r.caller s
    rw [if_neg h₀, if_neg h₀]
    by_cases h₁ : r.code = HAS_PASTE_DATA
    · rw [if_pos h₁, if_pos h₁]
      rfl
    rw [if_neg h₁, if_neg h₁]
    by_cases h₂ : r.code = SET_PASTE_DATA
    · rw [if_pos h₂, if_pos h₂]
      exact step_onSetPasteData H r.caller _ s
    rw [if_neg h₂, if_neg h₂]
    by_cases h₃ : r.code = CLEAR_ALL
    · rw [if_pos h₃, if_pos h₃]
      rfl
    rw [if_neg h₃, if_neg h₃]
    by_cases h₄ : r.code = ADD_OBSERVER
    · rw [if_pos h₄, if_pos h₄]
      exact step_onObserver H _ (.addPasteboardChangedObserver r.caller) _ s
        fun _ => rfl
    rw [if_neg h₄, if_neg h₄]
    by_cases h₅ : r.code = DELETE_OBSERVER
    · rw [if_pos h₅, if_pos h₅]
      exact step_onObserver H _ (.removePasteboardChangedObserver r.caller) _ s
        fun _ => rfl
    rw [if_neg h₅, if_neg h₅]
    by_cases h₆ : r.code = DELETE_ALL_OBSERVER
    · rw [if_pos h₆, if_pos h₆]
      rfl
    rw [if_neg h₆, if_neg h₆]
    rfl

/-- **A run of requests is the run of the operations they make.** -/
theorem run_requests (rs : List (Request E)) (s : PasteboardService Uri Want) :
    (stubMachine H).run s rs
      = (serviceMachine H.toPlatform).run s (rs.filterMap (·.op H)) := by
  refine (serviceMachine H.toPlatform).run_translate ?_ rs s
  intro s r
  rw [exec_request]
  cases r.op H <;> rfl

/-- A request stores only the data of the `SetPasteData` it makes. -/
theorem clips_cases {r : Request E} {s s' : PasteboardService Uri Want}
    {os : List Event} (hstep : (stubMachine H).step s r = some (s', os))
    {v : Int} {d : PasteData Uri Want} (hd : s'.clips[v]? = some d) :
    s.clips[v]? = some d ∨ ∃ c, r.op H = some (.setPasteData c d) := by
  rw [exec_request] at hstep
  cases hop : r.op H with
  | none =>
      -- a request that makes no operation
      rw [hop] at hstep
      injection hstep with hstep
      injection hstep with hs _
      subst hs
      exact Or.inl hd
  | some op =>
      rw [hop] at hstep
      rcases (ServiceOp.exec_spec hstep).clips_cases hd with
        hold | ⟨_, _, c, hset⟩
      · exact Or.inl hold
      · subst hset
        exact Or.inr ⟨c, rfl⟩

end Request

/-! ## §5. A host over list parcels. -/

/-- Every remote object casts to an observer, and the base class refuses. -/
def sampleHost : Host (listIpc String String) where
  toPlatform := samplePlatform
  ifaceCast o := some o
  ipcObjectStub _ data := (.other (-1), data)

end Pasteboard
