/-
  Pasteboard.Client.Observers
  ───────────────────────────
  **OBSERVERS OF SEVERAL APPLICATIONS.**

  An application calls the client, the client its proxy, the proxy sends a
  request, the stub decodes it, and the service resolves the caller to a USER:
  which application of the user it was is known to nobody behind the proxy.

    • `run_applications` — over a lossless FIFO transport, applications that
      call the observer functions make the service operations of the same
      names.
    • `observers_kept` — what other users remove never touches an observer;
      what another application of the same user removes does, where it removes
      all, or the same remote object.
-/
import Pasteboard.Client.Connection
import Pasteboard.Service.Notifications
import Pasteboard.Service.EndToEnd

namespace Pasteboard

open Lib

variable {Uri Want : Type} {E : Ipc Uri Want}

/-! ## §1. Applications over the proxy. -/

/-- The request the proxy sends for a client operation, if it sends one. -/
def ClientOp.sends (E : Ipc Uri Want) (c : Caller) :
    ClientOp Uri Want → Option (Request E)
  | .clear => PasteboardServiceProxy.request CLEAR_ALL some c
  | .getPasteData _ => PasteboardServiceProxy.request GET_PASTE_DATA some c
  | .hasPasteData => PasteboardServiceProxy.request HAS_PASTE_DATA some c
  | .setPasteData d =>
      PasteboardServiceProxy.request SET_PASTE_DATA
        (E.writeParcelable (PasteData.marshalling E) (some d)) c
  | .addPasteboardChangedObserver callback =>
      callback.bind fun o =>
        PasteboardServiceProxy.request ADD_OBSERVER (E.writeRemoteObject o) c
  | .removePasteboardChangedObserver none =>
      PasteboardServiceProxy.request DELETE_ALL_OBSERVER some c
  | .removePasteboardChangedObserver (some o) =>
      PasteboardServiceProxy.request DELETE_OBSERVER (E.writeRemoteObject o) c

section Proxy

variable [ToString Uri] (H : Host E)

/-- An operation of a client that has a proxy of the service: the proxy's
function of the same name. -/
def ClientOp.overProxy (c : Caller) (s : PasteboardService Uri Want) :
    ClientOp Uri Want → Option (PasteboardService Uri Want × List Event)
  | .clear => (PasteboardServiceProxy.clear H c s).map (·.step)
  | .getPasteData d => (PasteboardServiceProxy.getPasteData H c d s).map (·.step)
  | .hasPasteData => (PasteboardServiceProxy.hasPasteData H c s).map (·.step)
  | .setPasteData d => (PasteboardServiceProxy.setPasteData H c d s).map (·.step)
  | .addPasteboardChangedObserver callback =>
      (PasteboardServiceProxy.addPasteboardChangedObserver H c callback s).map
        (·.step)
  -- a null callback stands for all
  | .removePasteboardChangedObserver none =>
      (PasteboardServiceProxy.removeAllChangedObserver H c s).map (·.step)
  | .removePasteboardChangedObserver (some o) =>
      (PasteboardServiceProxy.removePasteboardChangedObserver H c (some o) s).map
        (·.step)

/-- The service as any number of applications use it, each by its uid. -/
def applicationMachine :
    Machine (PasteboardService Uri Want) (Caller × ClientOp Uri Want) Event where
  step s x := x.2.overProxy H x.1 s

/-- A function of the proxy steps the service as the request it sends does,
whatever it makes of the answer. -/
theorem reply_step {α : Type} (f : Answer E → Outcome Uri Want α)
    (hf : ∀ answer, (f answer).step = answer.step) (r : Request E)
    (s : PasteboardService Uri Want) :
    ((PasteboardServiceStub.onRemoteRequest H r s).map f).map (·.step)
      = (stubMachine H).step s r := by
  show _ = (PasteboardServiceStub.onRemoteRequest H r s).map (·.step)
  rw [Option.map_map]
  congr 1
  funext answer
  exact hf answer

theorem send_step (code : UInt32) (write : E.Writer) (c : Caller)
    (s : PasteboardService Uri Want) :
    (PasteboardServiceProxy.send H code write c s).map (·.step)
      = (stubMachine H).stepOption s
          (PasteboardServiceProxy.request code write c) := by
  unfold PasteboardServiceProxy.send
  cases PasteboardServiceProxy.request code write c with
  | none => rfl
  | some r =>
      refine reply_step H _ ?_ r s
      intro answer
      rfl

theorem hasPasteData_step (c : Caller) (s : PasteboardService Uri Want) :
    (PasteboardServiceProxy.hasPasteData H c s).map (·.step)
      = (stubMachine H).stepOption s
          (PasteboardServiceProxy.request HAS_PASTE_DATA some c) := by
  unfold PasteboardServiceProxy.hasPasteData
  cases PasteboardServiceProxy.request (E := E) HAS_PASTE_DATA some c with
  | none => rfl
  | some r =>
      refine reply_step H _ ?_ r s
      intro answer
      split <;> rfl

theorem getPasteData_step (c : Caller) (d : PasteData Uri Want)
    (s : PasteboardService Uri Want) :
    (PasteboardServiceProxy.getPasteData H c d s).map (·.step)
      = (stubMachine H).stepOption s
          (PasteboardServiceProxy.request GET_PASTE_DATA some c) := by
  unfold PasteboardServiceProxy.getPasteData
  cases PasteboardServiceProxy.request (E := E) GET_PASTE_DATA some c with
  | none => rfl
  | some r =>
      refine reply_step H _ ?_ r s
      intro answer
      split
      · rfl
      · split <;> rfl

/-- **A client operation steps the service as the request it sends**, or not
at all. -/
theorem overProxy_eq (s : PasteboardService Uri Want)
    (x : Caller × ClientOp Uri Want) :
    (applicationMachine H).step s x
      = (stubMachine H).stepOption s (x.2.sends E x.1) := by
  obtain ⟨c, op⟩ := x
  show op.overProxy H c s = (stubMachine H).stepOption s (op.sends E c)
  cases op with
  | clear => exact send_step H _ _ c s
  | setPasteData d => exact send_step H _ _ c s
  | addPasteboardChangedObserver callback =>
      cases callback with
      | none => rfl
      | some o => exact send_step H _ _ c s
  | removePasteboardChangedObserver callback =>
      cases callback with
      | none => exact send_step H _ _ c s
      | some o => exact send_step H _ _ c s
  | hasPasteData => exact hasPasteData_step H c s
  | getPasteData d => exact getPasteData_step H c d s

end Proxy

/-! ## §2. The observer functions over a good transport. -/

/-- The two functions of the client that observers are for. -/
def ClientOp.OnObservers : ClientOp Uri Want → Prop
  | .addPasteboardChangedObserver _ => True
  | .removePasteboardChangedObserver _ => True
  | _ => False

/-- The call asks for the removal of `o`, alone or with all others. -/
def ClientOp.Removes (o : RemoteObject) : ClientOp Uri Want → Prop
  | .removePasteboardChangedObserver none => True
  | .removePasteboardChangedObserver (some o') => o' = o
  | _ => False

variable (T : E.Faithful) (L : E.Lossless) {H : Host E}
  (hcast : ∀ o, H.ifaceCast o = some o)

include T L in
/-- A request of the proxy arrives as it was written. -/
theorem exists_request_op (code : UInt32) {write : E.Writer}
    (hw : Wire.Succeeds write) {xs : List (Ipc.ParcelItem Uri Want)}
    (hx : T.fifo.Emits write xs) (c : Caller) :
    ∃ r : Request E, PasteboardServiceProxy.request code write c = some r
      ∧ ∃ data, T.fifo.unread data = xs
        ∧ r.op H = Request.decode H code data c := by
  obtain ⟨b, hb, hreq⟩ := PasteboardServiceProxy.exists_request L code hw c
  obtain ⟨htoken, hbody⟩ :=
    PasteboardServiceProxy.readInterfaceToken_request T hx hb
  refine ⟨_, hreq, (E.readInterfaceToken b).2, hbody, ?_⟩
  exact if_neg fun hne => hne htoken.symm

include hcast in
/-- The observer in a parcel that one was written to. -/
theorem observer_of_unread {data : E.Parcel} {o : RemoteObject}
    (h : T.fifo.unread data = [⟨.remoteObject, some o⟩]) :
    Request.observer H data = some o := by
  have hread : (E.readRemoteObject data).1 = some o := (T.fifo.read_head h).1
  unfold Request.observer
  rw [hread]
  exact hcast o

include T L hcast in
/-- **An observer function makes the operation it asks for.** -/
theorem sends_op (c : Caller) {op : ClientOp Uri Want} (h : op.OnObservers) :
    (op.sends E c).bind (·.op H) = op.request c := by
  -- the remote object of the request is read back as it was written
  have hone : ∀ (code : UInt32) (o : RemoteObject),
      ∃ r : Request E, PasteboardServiceProxy.request code
          (E.writeRemoteObject o) c = some r
        ∧ ∃ data, Request.observer H data = some o
          ∧ r.op H = Request.decode H code data c := by
    intro code o
    obtain ⟨r, hreq, data, hdata, hop⟩ := exists_request_op T L (H := H) code
      (L .remoteObject (some o)) (T.fifo.emits_write .remoteObject (some o)) c
    exact ⟨r, hreq, data, observer_of_unread T hcast hdata, hop⟩
  cases op with
  | addPasteboardChangedObserver callback =>
      cases callback with
      | none => rfl
      | some o =>
          obtain ⟨r, hreq, data, hobs, hop⟩ := hone ADD_OBSERVER o
          show (PasteboardServiceProxy.request ADD_OBSERVER
            (E.writeRemoteObject o) c).bind _ = _
          rw [hreq]
          show r.op H = _
          rw [hop]
          show (Request.observer H data).map _ = _
          rw [hobs]
          rfl
  | removePasteboardChangedObserver callback =>
      cases callback with
      | none =>
          -- without a callback the proxy asks for all observers to be removed
          obtain ⟨r, hreq, data, _, hop⟩ := exists_request_op T L (H := H)
            DELETE_ALL_OBSERVER Wire.succeeds_skip T.fifo.emits_skip c
          show (PasteboardServiceProxy.request DELETE_ALL_OBSERVER some c).bind _
            = _
          rw [hreq]
          exact hop
      | some o =>
          obtain ⟨r, hreq, data, hobs, hop⟩ := hone DELETE_OBSERVER o
          show (PasteboardServiceProxy.request DELETE_OBSERVER
            (E.writeRemoteObject o) c).bind _ = _
          rw [hreq]
          show r.op H = _
          rw [hop]
          show (Request.observer H data).map _ = _
          rw [hobs]
          rfl
  | _ => exact absurd h fun hno => hno

/-- The service operations that a run of applications makes. -/
def operations (calls : List (Caller × ClientOp Uri Want)) :
    List (ServiceOp Uri Want) :=
  calls.filterMap fun x => x.2.request x.1

include T L hcast in
/-- **A run of applications on observers** is the run of the operations they
ask for. -/
theorem run_applications [ToString Uri]
    {calls : List (Caller × ClientOp Uri Want)}
    (hcalls : ∀ x ∈ calls, x.2.OnObservers) (s : PasteboardService Uri Want) :
    (applicationMachine H).run s calls
      = (serviceMachine H.toPlatform).run s (operations calls) := by
  rw [(stubMachine H).run_translate (overProxy_eq H) calls s,
    Request.run_requests, List.filterMap_filterMap]
  congr 1
  refine List.filterMap_congr fun x hx => ?_
  exact sends_op T L hcast x.1 (hcalls x hx)

/-! ## §3. What stays registered. -/

/-- What an operation says of the call that asked for it. -/
theorem request_removes {op : ClientOp Uri Want} {c : Caller}
    {sop : ServiceOp Uri Want} (h : op.request c = some sop) :
    sop.caller = c ∧ ∀ o, sop.Removes o → op.Removes o := by
  -- an operation that removes nothing
  have hquiet : ∀ sop' : ServiceOp Uri Want, some sop' = some sop →
      sop'.caller = c → (∀ o, ¬ sop'.Removes o) →
        sop.caller = c ∧ ∀ o, sop.Removes o → op.Removes o := by
    intro sop' heq hc hno
    injection heq with heq
    subst heq
    exact ⟨hc, fun o hrem => absurd hrem (hno o)⟩
  cases op with
  | clear => exact hquiet _ h rfl fun _ hno => hno
  | getPasteData d => exact hquiet _ h rfl fun _ hno => hno
  | hasPasteData => exact hquiet _ h rfl fun _ hno => hno
  | setPasteData d => exact hquiet _ h rfl fun _ hno => hno
  | addPasteboardChangedObserver callback =>
      cases callback with
      | none => cases h
      | some o => exact hquiet _ h rfl fun _ hno => hno
  | removePasteboardChangedObserver callback =>
      cases callback with
      | none =>
          injection h with h
          subst h
          exact ⟨rfl, fun _ _ => trivial⟩
      | some o =>
          injection h with h
          subst h
          exact ⟨rfl, fun _ hrem => hrem⟩

/-- What an application has added is registered, unless some application of
the same user has removed it, or all, since. -/
theorem registeredBy_of_calls {P : Platform}
    {calls pre post : List (Caller × ClientOp Uri Want)} {A : Caller}
    {o : RemoteObject}
    (heq : calls = pre ++ (A, .addPasteboardChangedObserver (some o)) :: post)
    (hA : P.getUserId A.uid ≠ ERROR_USERID)
    (hpost : ∀ x ∈ post, P.getUserId x.1.uid = P.getUserId A.uid →
      ¬ x.2.Removes o) :
    RegisteredBy P (P.getUserId A.uid) o (operations calls) := by
  refine ⟨hA, operations pre, A, operations post, ?_, rfl, ?_⟩
  · rw [heq]
    unfold operations
    rw [List.filterMap_append]
    rfl
  · intro sop hsop huser hrem
    obtain ⟨x, hx, hreq⟩ := List.mem_filterMap.mp hsop
    obtain ⟨hcaller, hremoves⟩ := request_removes hreq
    refine hpost x hx ?_ (hremoves o hrem)
    rw [← hcaller]
    exact huser

/-- **OBSERVERS OF SEVERAL APPLICATIONS.**  On a lossless FIFO transport, in
every run of the two observer functions by applications of any users, what an
application has added stays registered, whatever other users remove, as long
as neither it nor another application of its user removes the same remote
object, or all. -/
theorem observers_kept [ToString Uri] (E : Ipc Uri Want) (T : E.Faithful)
    (L : E.Lossless) (H : Host E) (hcast : ∀ o, H.ifaceCast o = some o)
    (calls : List (Caller × ClientOp Uri Want))
    (hcalls : ∀ x ∈ calls, x.2.OnObservers) :
    ∃ s os, (applicationMachine H).run {} calls = some (s, os)
      ∧ ∀ pre A o post,
        calls = pre ++ (A, .addPasteboardChangedObserver (some o)) :: post →
        H.getUserId A.uid ≠ ERROR_USERID →
        (∀ x ∈ post, H.getUserId x.1.uid = H.getUserId A.uid →
          ¬ x.2.Removes o) →
        o ∈ s.registered (H.getUserId A.uid) := by
  -- the operations of the observer functions are always possible
  have hsize : ∀ op ∈ operations calls, op.HasSize := by
    intro op hop
    obtain ⟨x, hx, hreq⟩ := List.mem_filterMap.mp hop
    have hon := hcalls x hx
    obtain ⟨c, cop⟩ := x
    cases cop with
    | addPasteboardChangedObserver callback =>
        cases callback with
        | none => cases hreq
        | some o =>
            injection hreq with hreq
            subst hreq
            trivial
    | removePasteboardChangedObserver callback =>
        cases callback with
        | none =>
            injection hreq with hreq
            subst hreq
            trivial
        | some o =>
            injection hreq with hreq
            subst hreq
            trivial
    | _ => exact absurd hon fun hno => hno
  obtain ⟨s, os, hrun⟩ := (store_possible H.toPlatform (operations calls)).mpr
    hsize
  refine ⟨s, os, ?_, ?_⟩
  · rw [run_applications T L hcast hcalls]
    exact hrun
  · intro pre A o post heq hA hpost
    rw [mem_registered_iff hrun]
    exact registeredBy_of_calls heq hA hpost

/-! ## §4. Two applications of one user. -/

/-- Another application of the user 100. -/
def otherAppOf100 : Caller := ⟨20000002, ⟨none, 0⟩⟩

/-- What an application has added stays registered unless it removes the
object itself, or all, whatever other applications remove. -/
def KeptFromOthers (H : Host E) [ToString Uri]
    (calls : List (Caller × ClientOp Uri Want)) : Prop :=
  ∀ s os, (applicationMachine H).run {} calls = some (s, os) →
    ∀ pre A o post,
      calls = pre ++ (A, .addPasteboardChangedObserver (some o)) :: post →
      H.getUserId A.uid ≠ ERROR_USERID →
      (∀ x ∈ post, x.1.uid = A.uid → ¬ x.2.Removes o) →
      o ∈ s.registered (H.getUserId A.uid)

/-- Two observers of one application; the other application of its user
removes one of them, and the other user all. -/
def removingRun : List (Caller × ClientOp String String) :=
  [(callerOf100, .addPasteboardChangedObserver (some 7)),
    (callerOf100, .addPasteboardChangedObserver (some 8)),
    (otherAppOf100, .removePasteboardChangedObserver (some 8)),
    (callerOf101, .removePasteboardChangedObserver none)]

theorem observers_kept_sample :
    ∃ s os, (applicationMachine sampleHost).run {} removingRun = some (s, os)
      ∧ 7 ∈ s.registered 100 := by
  have hkept := observers_kept (listIpc String String)
    (listIpc_faithful String String) (listIpc_lossless String String)
    sampleHost (fun _ => rfl) removingRun ?_
  · obtain ⟨s, os, hrun, hreg⟩ := hkept
    refine ⟨s, os, hrun, ?_⟩
    refine hreg [] callerOf100 7 _ rfl (by decide) ?_
    intro x hx huser hrem
    simp only [List.mem_cons, List.not_mem_nil, or_false] at hx
    rcases hx with h | h | h <;> subst h
    · exact hrem
    · exact absurd (show (8 : Nat) = 7 from hrem) (by decide)
    · exact absurd huser (by decide)
  · intro x hx
    simp only [removingRun, List.mem_cons, List.not_mem_nil, or_false] at hx
    rcases hx with h | h | h | h <;> subst h <;> trivial

/-- **Another application of the user can remove an observer**: by removing
all, and, without that, by removing the same remote object. -/
theorem observers_not_kept :
    (¬ ∀ calls : List (Caller × ClientOp String String),
        (∀ x ∈ calls, x.2.OnObservers) → KeptFromOthers sampleHost calls)
      ∧ ¬ ∀ calls : List (Caller × ClientOp String String),
        (∀ x ∈ calls, x.2.OnObservers
            ∧ x.2 ≠ .removePasteboardChangedObserver none) →
          KeptFromOthers sampleHost calls := by
  -- the two runs end with a removal by the other application
  have hrun : ∀ callback : Option RemoteObject,
      KeptFromOthers sampleHost
          [(callerOf100, .addPasteboardChangedObserver (some 7)),
            (otherAppOf100, .removePasteboardChangedObserver callback)] →
        ∀ s os, (applicationMachine sampleHost).run {}
          [(callerOf100, .addPasteboardChangedObserver (some 7)),
            (otherAppOf100, .removePasteboardChangedObserver callback)]
              = some (s, os) →
          7 ∈ s.registered 100 := by
    intro callback hkept s os hrun
    refine hkept s os hrun [] callerOf100 7 _ rfl (by decide) ?_
    intro x hx huser _
    rw [List.mem_singleton.mp hx] at huser
    have hother : otherAppOf100.uid ≠ callerOf100.uid := by decide
    exact absurd huser hother
  constructor
  · intro h
    have hin := hrun none (h _ ?_) _ _ rfl
    · revert hin
      decide
    · intro x hx
      simp only [List.mem_cons, List.not_mem_nil, or_false] at hx
      rcases hx with h | h <;> subst h <;> trivial
  · intro h
    have hin := hrun (some 7) (h _ ?_) _ _ rfl
    · revert hin
      decide
    · intro x hx
      simp only [List.mem_cons, List.not_mem_nil, or_false] at hx
      rcases hx with h | h <;> subst h <;> exact ⟨trivial, nofun⟩

end Pasteboard
