/-
  Pasteboard.Napi.Observers
  ─────────────────────────
  **ON AND OFF** (`SystemPasteboardNapi::On`, `Off` and the observer instances
  of `napi_pasteboard.cpp`).

    On(f)   — a new reference to `f`, a new instance with it, registered at
              the service and entered under the reference
    Off(f)  — a new reference to `f`, and the instance entered under it
    change  — each registered instance queues a call of its function
    work    — the event loop makes one of the queued calls

  No instance is ever entered under the reference `Off` makes, so `Off` does
  nothing: every change calls whatever has once been turned on
  (`off_undoes_on_iff`).  The client is connected to the service all along,
  and allocation and queueing succeed.
-/
import Mathlib.Data.List.Perm.Basic
import Pasteboard.Napi.Env
import Pasteboard.Service.Notifications

namespace Pasteboard

open Lib

variable {Uri Want Fn : Type}

/-! ## §1. The bindings. -/

def STR_DATA_SIZE : Nat := 10
def STRING_UPDATE : String := "update"

structure PasteboardObserverInstance where
  ref : NapiRef
  isOff : Bool := false
  deriving DecidableEq, Repr

/-- A queued call; `change` is the moment of the change it is queued for, which
the source does not keep. -/
structure PasteboardDataWorker where
  ref : NapiRef
  isOff : Bool
  change : Nat
  deriving DecidableEq, Repr

/-- The application: its references to JavaScript functions, its instances by
their remote objects, `observers_`, the service it calls, and the queue of its
event loop.  `moment` counts what has happened so far. -/
structure SystemPasteboardNapi (Uri Want Fn : Type) where
  refs : References Fn := {}
  instances : List PasteboardObserverInstance := []
  observers : Std.TreeMap NapiRef RemoteObject := {}
  service : PasteboardService Uri Want := {}
  queue : List PasteboardDataWorker := []
  moment : Nat := 0

/-- What JavaScript sees. -/
inductive NapiEvent (Fn : Type) where
  /-- The function is called, for the change at that moment. -/
  | call (callback : Fn) (change : Nat)
  /-- `NAPI_ASSERT` throws. -/
  | error (message : String)

namespace SystemPasteboardNapi

/-- Only the length of the type is compared. -/
def checkType (N : Napi) (type : String) : Bool :=
  (N.getValueStringUtf8 STR_DATA_SIZE type).length == STRING_UPDATE.length

/-- `ref` is the reference that N-API makes, `none` where it could not. -/
def on (P : Platform) (c : Caller) (N : Napi) (type : String) (callback : Fn)
    (ref : NapiRef) (s : SystemPasteboardNapi Uri Want Fn) :
    Option (SystemPasteboardNapi Uri Want Fn × List (NapiEvent Fn)) :=
  if ¬ checkType N type then some (s, [.error "error type"])
  else
    (s.refs.create ref callback).map fun refs =>
      -- a new instance is a new remote object
      let observer : RemoteObject := s.instances.length
      let o := s.service.addPasteboardChangedObserver P c (some observer)
      ({ s with
          refs := refs
          instances := s.instances ++ [{ ref := ref }]
          observers := s.observers.insert ref observer
          service := o.service }, [])

def getPasteboardObserverIns (ref : NapiRef)
    (s : SystemPasteboardNapi Uri Want Fn) : Option RemoteObject :=
  s.observers[ref]?

def setOff (observer : RemoteObject) (s : SystemPasteboardNapi Uri Want Fn) :
    SystemPasteboardNapi Uri Want Fn :=
  { s with instances :=
      s.instances.modify observer fun x => { x with isOff := true } }

/-- Without a callback there is no reference either. -/
def off (P : Platform) (c : Caller) (N : Napi) (type : String)
    (callback : Option (Fn × NapiRef)) (s : SystemPasteboardNapi Uri Want Fn) :
    Option (SystemPasteboardNapi Uri Want Fn × List (NapiEvent Fn)) :=
  if ¬ checkType N type then some (s, [.error "error type"])
  else
    match callback with
    | none => some (s, [])
    | some (callback, ref) =>
        (s.refs.create ref callback).map fun refs =>
          let s := { s with refs := refs }
          -- the new reference, not the one that `on` has made
          match s.getPasteboardObserverIns ref with
          -- "Callback is invalid", which is only logged
          | none => (s, [])
          | some observer =>
              let s := s.setOff observer
              let o := s.service.removePasteboardChangedObserver P c
                (some observer)
              ({ s with service := o.service }, [])

/-- The call that an instance queues at a moment. -/
def worker (moment : Nat) (observer : PasteboardObserverInstance) :
    PasteboardDataWorker :=
  ⟨observer.ref, observer.isOff, moment⟩

/-- `PasteboardObserverInstance::OnPasteboardChanged`. -/
def onPasteboardChanged (s : SystemPasteboardNapi Uri Want Fn)
    (observer : RemoteObject) : SystemPasteboardNapi Uri Want Fn :=
  match s.instances[observer]? with
  | none => s
  | some x => { s with queue := s.queue ++ [worker s.moment x] }

/-- A change: the service notifies its observers. -/
def change (s : SystemPasteboardNapi Uri Want Fn) :
    SystemPasteboardNapi Uri Want Fn :=
  (s.service.notifyObservers.filterMap observerOf).foldl onPasteboardChanged s
where
  observerOf : Event → Option RemoteObject
    | .onPasteboardChanged _ observer => some observer
    | _ => none

def deletePasteboardObserverIns (ref : NapiRef)
    (s : SystemPasteboardNapi Uri Want Fn) : SystemPasteboardNapi Uri Want Fn :=
  if ref ∈ s.observers then
    { s with refs := s.refs.erase ref, observers := s.observers.erase ref }
  else s

/-- `none` is the use of a reference that is not live any more. -/
def uvQueueWorkOnPasteboardChanged (w : PasteboardDataWorker)
    (s : SystemPasteboardNapi Uri Want Fn) :
    Option (SystemPasteboardNapi Uri Want Fn × List (NapiEvent Fn)) :=
  let s := if w.isOff then s.deletePasteboardObserverIns w.ref else s
  s.refs[w.ref]?.map fun callback => (s, [.call callback w.change])

/-- The event loop makes the queued call at `index`: the order is its own. -/
def work (index : Nat) (s : SystemPasteboardNapi Uri Want Fn) :
    Option (SystemPasteboardNapi Uri Want Fn × List (NapiEvent Fn)) :=
  s.queue[index]?.bind fun w =>
    let s := { s with queue := s.queue.eraseIdx index }
    s.uvQueueWorkOnPasteboardChanged w

end SystemPasteboardNapi

/-- What happens in the application. -/
inductive ObserverInput (Fn : Type) where
  | on (callback : Fn) (ref : NapiRef)
  | off (callback : Fn) (ref : NapiRef)
  | change
  | work (index : Nat)

/-- One of them, made for the type `"update"`. -/
def ObserverInput.exec (P : Platform) (c : Caller) (N : Napi)
    (s : SystemPasteboardNapi Uri Want Fn) : ObserverInput Fn →
    Option (SystemPasteboardNapi Uri Want Fn × List (NapiEvent Fn))
  | .on callback ref => s.on P c N STRING_UPDATE callback ref
  | .off callback ref => s.off P c N STRING_UPDATE (some (callback, ref))
  | .change => some (s.change, [])
  | .work index => s.work index

def observerMachine (P : Platform) (c : Caller) (N : Napi) :
    Machine (SystemPasteboardNapi Uri Want Fn) (ObserverInput Fn)
      (NapiEvent Fn) where
  step s i :=
    (i.exec P c N s).map fun x => ({ x.1 with moment := s.moment + 1 }, x.2)

/-! ## §2. What `off` should do. -/

/-- `f` has been turned on, and not off since. -/
def IsOn (is : List (ObserverInput Fn)) (f : Fn) : Prop :=
  ∃ pre ref post, is = pre ++ .on f ref :: post ∧ ∀ ref', .off f ref' ∉ post

/-- `f` has been turned on at some time. -/
def TurnedOn (is : List (ObserverInput Fn)) (f : Fn) : Prop :=
  ∃ ref, .on f ref ∈ is

/-- `f` has been called for the change at the moment `k`, or a call of it that
was queued for that change is still to be made. -/
def CalledFor (s : SystemPasteboardNapi Uri Want Fn)
    (os : List (NapiEvent Fn)) (f : Fn) (k : Nat) : Prop :=
  .call f k ∈ os
    ∨ ∃ w ∈ s.queue, ∃ s',
        s.uvQueueWorkOnPasteboardChanged w = some (s', [.call f k])

/-- A change calls the functions that are on when it happens, and no other. -/
structure OffUndoesOn (is : List (ObserverInput Fn))
    (s : SystemPasteboardNapi Uri Want Fn) (os : List (NapiEvent Fn)) :
    Prop where
  quiet : ∀ f k, CalledFor s os f k → IsOn (is.take k) f
  called : ∀ f k, is[k]? = some .change → IsOn (is.take k) f →
    CalledFor s os f k

/-- At every change, each function that has been turned on is still on; or,
where the application has no user id to register for, none is. -/
def NeverOff (P : Platform) (c : Caller) (is : List (ObserverInput Fn)) :
    Prop :=
  ∀ f k, is[k]? = some .change → TurnedOn (is.take k) f →
    (IsOn (is.take k) f ↔ P.getUserId c.uid ≠ ERROR_USERID)

/-! ## §3. The pieces of a step. -/

/-- A call of `f` for the moment `k` is made or queued. -/
def CallOf (refs : References Fn) (queue : List PasteboardDataWorker)
    (os : List (NapiEvent Fn)) (f : Fn) (k : Nat) : Prop :=
  .call f k ∈ os ∨ ∃ w ∈ queue, w.change = k ∧ refs[w.ref]? = some f

/-- At the moment `k` there was a change, and `f` had been turned on before. -/
def CallDue (is : List (ObserverInput Fn)) (f : Fn) (k : Nat) : Prop :=
  is[k]? = some .change ∧ TurnedOn (is.take k) f

theorem turnedOn_concat {is : List (ObserverInput Fn)} {i : ObserverInput Fn}
    {f : Fn} :
    TurnedOn (is ++ [i]) f ↔ TurnedOn is f ∨ ∃ ref, i = .on f ref := by
  unfold TurnedOn
  simp only [List.mem_append, List.mem_singleton, exists_or]
  have hsymm : (∃ ref, ObserverInput.on f ref = i)
      ↔ ∃ ref, i = ObserverInput.on f ref :=
    exists_congr fun ref => eq_comm
  rw [hsymm]

theorem callDue_concat {is : List (ObserverInput Fn)} {i : ObserverInput Fn}
    {f : Fn} {k : Nat} :
    CallDue (is ++ [i]) f k
      ↔ CallDue is f k ∨ (i = .change ∧ k = is.length ∧ TurnedOn is f) := by
  unfold CallDue
  -- before the new input, at it, or behind the list
  rcases Nat.lt_trichotomy k is.length with hlt | heq | hgt
  · rw [List.getElem?_append_left hlt, List.take_append_of_le_length hlt.le]
    have hne : k ≠ is.length := by omega
    simp only [hne, false_and, and_false, or_false]
  · subst heq
    rw [List.getElem?_concat_length, List.take_left, List.getElem?_eq_none
      (Nat.le_refl _)]
    simp
  · rw [List.getElem?_eq_none (by simp; omega),
      List.getElem?_eq_none (Nat.le_of_lt hgt)]
    have hne : k ≠ is.length := by omega
    simp [hne]

theorem IsOn.turnedOn {is : List (ObserverInput Fn)} {f : Fn}
    (h : IsOn is f) : TurnedOn is f := by
  obtain ⟨pre, ref, post, heq, _⟩ := h
  refine ⟨ref, ?_⟩
  rw [heq]
  simp

/-- A new reference changes no call that is queued. -/
theorem callOf_insert {refs : References Fn}
    {queue : List PasteboardDataWorker} {os : List (NapiEvent Fn)}
    {ref : NapiRef} {callback f : Fn} {k : Nat} (hnew : ref ∉ refs)
    (hlive : ∀ w ∈ queue, w.ref ∈ refs) :
    CallOf (refs.insert ref callback) queue os f k ↔ CallOf refs queue os f k := by
  unfold CallOf
  refine or_congr Iff.rfl (exists_congr fun w => and_congr_right fun hw => ?_)
  rw [References.getElem?_insert_of_live hnew (hlive w hw)]

theorem callOf_append {refs : References Fn}
    {queue queue' : List PasteboardDataWorker} {os : List (NapiEvent Fn)}
    {f : Fn} {k : Nat} :
    CallOf refs (queue ++ queue') os f k
      ↔ CallOf refs queue os f k
        ∨ ∃ w ∈ queue', w.change = k ∧ refs[w.ref]? = some f := by
  unfold CallOf
  simp only [List.mem_append, or_and_right, exists_or, or_assoc]

/-- Making a queued call keeps it. -/
theorem callOf_eraseIdx {refs : References Fn}
    {queue : List PasteboardDataWorker} {os : List (NapiEvent Fn)}
    {index : Nat} {w : PasteboardDataWorker} {callback f : Fn} {k : Nat}
    (hw : queue[index]? = some w) (hcallback : refs[w.ref]? = some callback) :
    CallOf refs (queue.eraseIdx index)
        (os ++ [.call callback w.change]) f k
      ↔ CallOf refs queue os f k := by
  obtain ⟨hlt, hget⟩ := List.getElem?_eq_some_iff.mp hw
  have hperm := List.getElem_cons_eraseIdx_perm hlt
  rw [hget] at hperm
  have hmem : ∀ w', w' ∈ queue ↔ w' = w ∨ w' ∈ queue.eraseIdx index := by
    intro w'
    rw [← hperm.mem_iff, List.mem_cons]
  unfold CallOf
  simp only [hmem, List.mem_append, List.mem_singleton, or_and_right, exists_or,
    exists_eq_left, hcallback, NapiEvent.call.injEq, Option.some.injEq]
  constructor
  · intro hyp
    rcases hyp with (hcall | ⟨hf, hk⟩) | hrest
    · exact Or.inl hcall
    · exact Or.inr (Or.inl ⟨hk.symm, hf.symm⟩)
    · exact Or.inr (Or.inr hrest)
  · intro hyp
    rcases hyp with hcall | ⟨hk, hf⟩ | hrest
    · exact Or.inl (Or.inl hcall)
    · exact Or.inl (Or.inr ⟨hf.symm, hk.symm⟩)
    · exact Or.inr hrest

namespace PasteboardService

/-- **Who is registered after an add.** -/
theorem mem_registered_add {P : Platform} {c : Caller}
    {s : PasteboardService Uri Want} {observer o : RemoteObject} {u : Int} :
    o ∈ (s.addPasteboardChangedObserver P c (some observer)).service.registered
        u
      ↔ o ∈ s.registered u
        ∨ (P.getUserId c.uid = u ∧ u ≠ ERROR_USERID) ∧ o = observer := by
  rw [mem_registered, mem_registered,
    (addPasteboardChangedObserver_spec P c observer s).registry u]
  by_cases hu : P.getUserId c.uid = u
  · subst hu
    by_cases hne : P.getUserId c.uid = ERROR_USERID
    · simp [hne]
    · cases s.observerMap[P.getUserId c.uid]? with
      | none =>
          simp [hne, Std.TreeSet.mem_insert]
          exact eq_comm
      | some r =>
          simp [hne, Std.TreeSet.mem_insert]
          exact or_comm.trans (or_congr_right eq_comm)
  · simp [hu]

/-- The observers notified are those registered. -/
theorem mem_notified {s : PasteboardService Uri Want} {o : RemoteObject} :
    o ∈ s.notifyObservers.filterMap SystemPasteboardNapi.change.observerOf
      ↔ ∃ u, o ∈ s.registered u := by
  -- a user's calls are those of its registrations
  have hcalled : ∀ u, Event.onPasteboardChanged u o ∈ s.notifyObservers
      ↔ o ∈ s.registered u := by
    intro u
    have hown : Event.callsUser u (.onPasteboardChanged u o) = true :=
      beq_self_eq_true u
    have hfilter := filter_callsUser_notifyObservers s u
    constructor
    · intro h
      have hmem := List.mem_filter.mpr ⟨h, hown⟩
      rw [hfilter] at hmem
      obtain ⟨o', ho', heq⟩ := List.mem_map.mp hmem
      injection heq with _ heq
      rw [← heq]
      exact ho'
    · intro h
      have hmem := List.mem_map_of_mem (f := Event.onPasteboardChanged u) h
      rw [← hfilter] at hmem
      exact (List.mem_filter.mp hmem).1
  rw [List.mem_filterMap]
  constructor
  · intro hyp
    obtain ⟨e, he, ho⟩ := hyp
    cases e with
    | onPasteboardChanged u o' =>
        cases ho
        exact ⟨u, (hcalled u).mp he⟩
    | pasteboardBehaviour _ _ => cases ho
    | timeConsuming _ _ => cases ho
  · intro hyp
    obtain ⟨u, hu⟩ := hyp
    exact ⟨_, (hcalled u).mpr hu, rfl⟩

end PasteboardService

namespace SystemPasteboardNapi

/-- The type `"update"` passes. -/
theorem checkType_update (N : Napi) : checkType N STRING_UPDATE = true := by
  unfold checkType
  rw [N.whole STR_DATA_SIZE STRING_UPDATE (by decide)]
  rfl

theorem foldl_onPasteboardChanged (called : List RemoteObject) :
    ∀ s : SystemPasteboardNapi Uri Want Fn,
      called.foldl onPasteboardChanged s
        = { s with queue := s.queue ++ called.filterMap fun o =>
              s.instances[o]?.map (worker s.moment) } := by
  induction called with
  | nil =>
      intro s
      simp
  | cons o called ih =>
      intro s
      rw [List.foldl_cons, ih]
      unfold onPasteboardChanged
      cases hx : s.instances[o]? with
      | none => simp [hx]
      | some x => simp [hx]

/-- **A change queues a call for each instance that is registered.** -/
theorem change_eq (s : SystemPasteboardNapi Uri Want Fn) :
    ∃ calls, s.change = { s with queue := s.queue ++ calls }
      ∧ ∀ w, w ∈ calls ↔ ∃ u, ∃ o ∈ s.service.registered u,
          ∃ x, s.instances[o]? = some x ∧ worker s.moment x = w := by
  refine ⟨_, foldl_onPasteboardChanged _ s, ?_⟩
  intro w
  rw [List.mem_filterMap]
  constructor
  · intro hyp
    obtain ⟨o, ho, hw⟩ := hyp
    obtain ⟨u, hu⟩ := PasteboardService.mem_notified.mp ho
    obtain ⟨x, hx, hw⟩ := Option.map_eq_some_iff.mp hw
    exact ⟨u, o, hu, x, hx, hw⟩
  · intro hyp
    obtain ⟨u, o, hu, x, hx, hw⟩ := hyp
    refine ⟨o, PasteboardService.mem_notified.mpr ⟨u, hu⟩, ?_⟩
    rw [hx, Option.map_some, hw]

end SystemPasteboardNapi

/-! ## §4. The invariant, step by step. -/

/-- What holds in every run: no instance is ever turned off, no reference is
ever deleted, every function that has been turned on has an instance that is
registered, and every change has called all there were. -/
structure ObserverInv (P : Platform) (c : Caller) (is : List (ObserverInput Fn))
    (s : SystemPasteboardNapi Uri Want Fn) (os : List (NapiEvent Fn)) :
    Prop where
  moment : s.moment = is.length
  live : ∀ x ∈ s.instances, x.isOff = false ∧ x.ref ∈ s.refs
  keys : ∀ ref ∈ s.observers, ref ∈ s.refs
  turnedOn : ∀ f, (∃ x ∈ s.instances, s.refs[x.ref]? = some f) ↔ TurnedOn is f
  registered : ∀ u o, o ∈ s.service.registered u
    ↔ (P.getUserId c.uid = u ∧ u ≠ ERROR_USERID) ∧ o < s.instances.length
  waiting : ∀ w ∈ s.queue, w.isOff = false ∧ w.ref ∈ s.refs
  called : ∀ f k, CallOf s.refs s.queue os f k
    ↔ P.getUserId c.uid ≠ ERROR_USERID ∧ CallDue is f k

theorem observerInv_start (P : Platform) (c : Caller) :
    ObserverInv P c [] ({} : SystemPasteboardNapi Uri Want Fn) [] where
  moment := rfl
  live x hx := by cases hx
  keys ref href := by simp at href
  turnedOn f := by simp [TurnedOn]
  registered u o := by simp [PasteboardService.mem_registered]
  waiting w hw := by cases hw
  called f k := by simp [CallOf, CallDue]

namespace ObserverInv

variable {P : Platform} {c : Caller} {N : Napi}
    {is : List (ObserverInput Fn)} {s s' : SystemPasteboardNapi Uri Want Fn}
    {os os' : List (NapiEvent Fn)} {callback : Fn} {ref : NapiRef}

theorem moment_concat (h : ObserverInv P c is s os) (i : ObserverInput Fn) :
    s.moment + 1 = (is ++ [i]).length := by
  rw [h.moment, List.length_append]
  rfl

theorem live_insert (h : ObserverInv P c is s os)
    {x : PasteboardObserverInstance} (hx : x ∈ s.instances) :
    x.isOff = false ∧ x.ref ∈ s.refs.insert ref callback := by
  obtain ⟨hoff, hlive⟩ := h.live x hx
  exact ⟨hoff, Std.TreeMap.mem_insert.mpr (Or.inr hlive)⟩

theorem waiting_insert (h : ObserverInv P c is s os)
    {w : PasteboardDataWorker} (hw : w ∈ s.queue) :
    w.isOff = false ∧ w.ref ∈ s.refs.insert ref callback := by
  obtain ⟨hoff, hlive⟩ := h.waiting w hw
  exact ⟨hoff, Std.TreeMap.mem_insert.mpr (Or.inr hlive)⟩

/-- The instances refer to the same functions when a reference is made. -/
theorem turnedOn_insert (h : ObserverInv P c is s os) (hnew : ref ∉ s.refs)
    (callback f : Fn) :
    (∃ x ∈ s.instances, (s.refs.insert ref callback)[x.ref]? = some f)
      ↔ TurnedOn is f := by
  rw [← h.turnedOn f]
  refine exists_congr fun x => and_congr_right fun hx => ?_
  rw [References.getElem?_insert_of_live hnew (h.live x hx).2]

/-- No call becomes due or is made when a reference is made. -/
theorem called_insert (h : ObserverInv P c is s os) (hnew : ref ∉ s.refs)
    {i : ObserverInput Fn} (hi : i ≠ .change) (f : Fn) (k : Nat) :
    CallOf (s.refs.insert ref callback) s.queue os f k
      ↔ P.getUserId c.uid ≠ ERROR_USERID ∧ CallDue (is ++ [i]) f k := by
  rw [callOf_insert hnew fun w hw => (h.waiting w hw).2, h.called f k,
    callDue_concat]
  simp only [hi, false_and, or_false]

/-- **`off` does nothing** but make a reference. -/
theorem off_eq (h : ObserverInv P c is s os)
    (hstep : s.off P c N STRING_UPDATE (some (callback, ref))
      = some (s', os')) :
    ref ∉ s.refs ∧ s' = { s with refs := s.refs.insert ref callback }
      ∧ os' = [] := by
  unfold SystemPasteboardNapi.off at hstep
  rw [SystemPasteboardNapi.checkType_update, if_neg (by decide)] at hstep
  obtain ⟨refs, hcreate, hstep⟩ := Option.map_eq_some_iff.mp hstep
  obtain ⟨hnew, hrefs⟩ := References.create_eq_some_iff.mp hcreate
  -- no instance is entered under a reference that was not live
  have hnone : s.observers[ref]? = none :=
    Std.TreeMap.getElem?_eq_none fun hmem => hnew (h.keys ref hmem)
  unfold SystemPasteboardNapi.getPasteboardObserverIns at hstep
  simp only [hnone] at hstep
  injection hstep with hs' hos'
  rw [hrefs]
  exact ⟨hnew, hs'.symm, hos'.symm⟩

theorem on_eq
    (hstep : s.on P c N STRING_UPDATE callback ref = some (s', os')) :
    ref ∉ s.refs
      ∧ s' = { s with
          refs := s.refs.insert ref callback
          instances := s.instances ++ [{ ref := ref }]
          observers := s.observers.insert ref s.instances.length
          service := (s.service.addPasteboardChangedObserver P c
            (some s.instances.length)).service }
      ∧ os' = [] := by
  unfold SystemPasteboardNapi.on at hstep
  rw [SystemPasteboardNapi.checkType_update, if_neg (by decide)] at hstep
  obtain ⟨refs, hcreate, hstep⟩ := Option.map_eq_some_iff.mp hstep
  obtain ⟨hnew, hrefs⟩ := References.create_eq_some_iff.mp hcreate
  injection hstep with hs' hos'
  rw [hrefs]
  exact ⟨hnew, hs'.symm, hos'.symm⟩

/-- **A call of `off` keeps the invariant.** -/
theorem off (h : ObserverInv P c is s os) (hnew : ref ∉ s.refs) :
    ObserverInv P c (is ++ [.off callback ref])
      { s with
        refs := s.refs.insert ref callback
        moment := s.moment + 1 } os where
  moment := h.moment_concat _
  live x hx := h.live_insert hx
  keys ref' href' :=
    Std.TreeMap.mem_insert.mpr (Or.inr (h.keys ref' href'))
  turnedOn f := by
    rw [h.turnedOn_insert hnew callback f, turnedOn_concat]
    simp
  registered := h.registered
  waiting w hw := h.waiting_insert hw
  called f k := h.called_insert hnew (by simp) f k

/-- **A call of `on` keeps the invariant**: the new instance is registered and
refers to the function. -/
theorem on (h : ObserverInv P c is s os) (hnew : ref ∉ s.refs) :
    ObserverInv P c (is ++ [.on callback ref])
      { s with
        refs := s.refs.insert ref callback
        instances := s.instances ++ [{ ref := ref }]
        observers := s.observers.insert ref s.instances.length
        service := (s.service.addPasteboardChangedObserver P c
          (some s.instances.length)).service
        moment := s.moment + 1 } os where
  moment := h.moment_concat _
  live x hx := by
    rcases List.mem_append.mp hx with hx | hx
    · exact h.live_insert hx
    · rw [List.mem_singleton.mp hx]
      exact ⟨rfl, Std.TreeMap.mem_insert_self⟩
  keys ref' href' := by
    rcases Std.TreeMap.mem_insert.mp href' with heq | hmem
    · exact Std.TreeMap.mem_insert.mpr (Or.inl heq)
    · exact Std.TreeMap.mem_insert.mpr (Or.inr (h.keys ref' hmem))
  turnedOn f := by
    have hself : (s.refs.insert ref callback)[ref]? = some callback :=
      Std.TreeMap.getElem?_insert_self
    rw [turnedOn_concat, ← h.turnedOn_insert hnew callback f]
    simp only [List.mem_append, List.mem_singleton, or_and_right, exists_or,
      exists_eq_left, hself]
    simp [eq_comm]
  registered u o := by
    rw [PasteboardService.mem_registered_add, h.registered u o, ← and_or_left,
      List.length_append, List.length_singleton]
    exact and_congr_right fun _ => Nat.lt_succ_iff_lt_or_eq.symm
  waiting w hw := h.waiting_insert hw
  called f k := h.called_insert hnew (by simp) f k

/-- What an input that makes no reference has to keep: it may only change the
queue, and call or queue what its change makes due. -/
theorem queued (h : ObserverInv P c is s os) {i : ObserverInput Fn}
    {queue : List PasteboardDataWorker}
    (hon : ∀ callback ref, i ≠ .on callback ref)
    (hwaiting : ∀ w ∈ queue, w.isOff = false ∧ w.ref ∈ s.refs)
    (hcalled : ∀ f k, CallOf s.refs queue os' f k
      ↔ CallOf s.refs s.queue os f k
        ∨ P.getUserId c.uid ≠ ERROR_USERID
          ∧ i = .change ∧ k = is.length ∧ TurnedOn is f) :
    ObserverInv P c (is ++ [i])
      { s with queue := queue, moment := s.moment + 1 } os' where
  moment := h.moment_concat i
  live := h.live
  keys := h.keys
  turnedOn f := by
    rw [turnedOn_concat]
    simp only [hon, exists_false, or_false]
    exact h.turnedOn f
  registered := h.registered
  waiting := hwaiting
  called f k := by
    rw [hcalled f k, h.called f k, callDue_concat, and_or_left]

/-- **A change keeps the invariant**: all instances that are registered queue
their calls. -/
theorem change (h : ObserverInv P c is s os) :
    ObserverInv P c (is ++ [.change])
      { s.change with moment := s.moment + 1 } os := by
  obtain ⟨calls, heq, hcalls⟩ := s.change_eq
  -- registered are all instances, or none without a user id
  have hqueued : ∀ w, w ∈ calls ↔ P.getUserId c.uid ≠ ERROR_USERID
      ∧ ∃ x ∈ s.instances, SystemPasteboardNapi.worker s.moment x = w := by
    intro w
    rw [hcalls w]
    constructor
    · intro hyp
      obtain ⟨u, o, ho, x, hx, hw⟩ := hyp
      obtain ⟨⟨hu, hne⟩, _⟩ := (h.registered u o).mp ho
      subst hu
      exact ⟨hne, x, List.mem_of_getElem? hx, hw⟩
    · intro hyp
      obtain ⟨hne, x, hx, hw⟩ := hyp
      obtain ⟨o, ho⟩ := List.mem_iff_getElem?.mp hx
      have hlt : o < s.instances.length :=
        (List.getElem?_eq_some_iff.mp ho).1
      exact ⟨_, o, (h.registered _ o).mpr ⟨⟨rfl, hne⟩, hlt⟩, x, ho, hw⟩
  rw [heq]
  refine h.queued (by simp) ?_ ?_
  · intro w hw
    rcases List.mem_append.mp hw with hw | hw
    · exact h.waiting w hw
    · obtain ⟨_, x, hx, hw⟩ := (hqueued w).mp hw
      rw [← hw]
      exact h.live x hx
  · intro f k
    rw [callOf_append]
    refine or_congr Iff.rfl ?_
    simp only [hqueued, true_and, ← h.moment, ← h.turnedOn f]
    constructor
    · intro hyp
      obtain ⟨w, ⟨hne, x, hx, hw⟩, hk, hf⟩ := hyp
      rw [← hw] at hk hf
      exact ⟨hne, hk.symm, x, hx, hf⟩
    · intro hyp
      obtain ⟨hne, hk, x, hx, hf⟩ := hyp
      exact ⟨_, ⟨hne, x, hx, rfl⟩, hk.symm, hf⟩

/-- **A queued call can be made**, and is the call of a live function. -/
theorem uvQueueWork_eq (h : ObserverInv P c is s os)
    (s₀ : SystemPasteboardNapi Uri Want Fn) (hrefs : s₀.refs = s.refs)
    {w : PasteboardDataWorker} (hw : w ∈ s.queue) :
    ∃ callback, s.refs[w.ref]? = some callback
      ∧ s₀.uvQueueWorkOnPasteboardChanged w
        = some (s₀, [.call callback w.change]) := by
  obtain ⟨hoff, hlive⟩ := h.waiting w hw
  obtain ⟨callback, hcallback⟩ := Option.isSome_iff_exists.mp
    (Std.TreeMap.mem_iff_isSome_getElem?.mp hlive)
  refine ⟨callback, hcallback, ?_⟩
  unfold SystemPasteboardNapi.uvQueueWorkOnPasteboardChanged
  rw [hoff]
  show s₀.refs[w.ref]?.map _ = _
  rw [hrefs, hcallback]
  rfl

/-- **Making a queued call keeps the invariant.** -/
theorem work (h : ObserverInv P c is s os) {index : Nat}
    (hstep : s.work index = some (s', os')) :
    ObserverInv P c (is ++ [.work index])
      { s' with moment := s.moment + 1 } (os ++ os') := by
  obtain ⟨w, hw, hstep⟩ := Option.bind_eq_some_iff.mp hstep
  obtain ⟨callback, hcallback, hcall⟩ := h.uvQueueWork_eq
    { s with queue := s.queue.eraseIdx index } rfl
    (List.mem_of_getElem? hw)
  rw [hcall] at hstep
  injection hstep with hstep
  injection hstep with hs' hos'
  subst hs' hos'
  refine h.queued (by simp) ?_ ?_
  · intro w' hw'
    exact h.waiting w' (List.mem_of_mem_eraseIdx hw')
  · intro f k
    -- the call leaves the queue and is among the outputs
    rw [callOf_eraseIdx hw hcallback]
    simp

end ObserverInv

/-! ## §5. What `off` does over a run. -/

variable {P : Platform} {c : Caller} {N : Napi} {is : List (ObserverInput Fn)}
    {s : SystemPasteboardNapi Uri Want Fn} {os : List (NapiEvent Fn)}

/-- **The invariant holds in every run.** -/
theorem observerInv_run
    (hrun : (observerMachine P c N).run {} is = some (s, os)) :
    ObserverInv P c is s os := by
  refine (observerMachine P c N).run_history (ObserverInv P c)
    (observerInv_start P c) ?_ is hrun
  intro is s os i s' os' h hstep
  obtain ⟨x, hexec, hstep⟩ := Option.map_eq_some_iff.mp hstep
  injection hstep with hs' hos'
  subst hs' hos'
  -- one lemma for each input
  cases i with
  | on callback ref =>
      obtain ⟨hnew, hs', hos'⟩ := ObserverInv.on_eq hexec
      rw [hs', hos', List.append_nil]
      exact h.on hnew
  | off callback ref =>
      obtain ⟨hnew, hs', hos'⟩ := h.off_eq hexec
      rw [hs', hos', List.append_nil]
      exact h.off hnew
  | change =>
      cases hexec
      rw [List.append_nil]
      exact h.change
  | work index => exact h.work hexec

/-- Every call that is queued can be made, whatever is made before it. -/
theorem work_possible
    (hrun : (observerMachine P c N).run {} is = some (s, os)) {index : Nat}
    {w : PasteboardDataWorker} (hw : s.queue[index]? = some w) :
    ∃ f s', s.refs[w.ref]? = some f
      ∧ (observerMachine P c N).step s (.work index)
        = some (s', [.call f w.change]) := by
  obtain ⟨f, hf, hcall⟩ := (observerInv_run hrun).uvQueueWork_eq
    { s with queue := s.queue.eraseIdx index } rfl
    (List.mem_of_getElem? hw)
  refine ⟨f, { s with queue := s.queue.eraseIdx index, moment := s.moment + 1 },
    hf, ?_⟩
  show ((s.queue[index]?.bind _).map _) = _
  rw [hw]
  show (SystemPasteboardNapi.uvQueueWorkOnPasteboardChanged w _).map _ = _
  rw [hcall]
  rfl

/-- **What a change calls**: whatever has been turned on before. -/
theorem calledFor_iff
    (hrun : (observerMachine P c N).run {} is = some (s, os)) (f : Fn)
    (k : Nat) :
    CalledFor s os f k
      ↔ P.getUserId c.uid ≠ ERROR_USERID ∧ CallDue is f k := by
  have hinv := observerInv_run hrun
  rw [← hinv.called f k]
  refine or_congr Iff.rfl (exists_congr fun w => and_congr_right fun hw => ?_)
  obtain ⟨callback, hcallback, hcall⟩ := hinv.uvQueueWork_eq s rfl hw
  rw [hcall, hcallback]
  constructor
  · intro hyp
    obtain ⟨s', heq⟩ := hyp
    injection heq with heq
    injection heq with _ hevents
    injection hevents with hevent _
    injection hevent with hf hk
    exact ⟨hk, congrArg some hf⟩
  · intro hyp
    obtain ⟨hk, hf⟩ := hyp
    rw [hk, Option.some.inj hf]
    exact ⟨s, rfl⟩

/-- **WHEN OFF UNDOES ON.**  In a run of `on`, `off`, changes and queued calls,
a change calls the functions that are on when it happens, and no other, if and
only if at every change each function that has been turned on is still on; or,
where the application has no user id, none is. -/
theorem off_undoes_on_iff
    (hrun : (observerMachine P c N).run {} is = some (s, os)) :
    OffUndoesOn is s os ↔ NeverOff P c is := by
  constructor
  · intro h f k hchange hturned
    constructor
    · intro hon
      exact ((calledFor_iff hrun f k).mp (h.called f k hchange hon)).1
    · intro hknown
      exact h.quiet f k
        ((calledFor_iff hrun f k).mpr ⟨hknown, hchange, hturned⟩)
  · intro h
    constructor
    · intro f k hcalled
      obtain ⟨hknown, hchange, hturned⟩ := (calledFor_iff hrun f k).mp hcalled
      exact (h f k hchange hturned).mpr hknown
    · intro f k hchange hon
      have hturned := hon.turnedOn
      exact (calledFor_iff hrun f k).mpr
        ⟨(h f k hchange hturned).mp hon, hchange, hturned⟩

/-- A function is turned on, off and on again, a change happens, and the calls
it queued are made. -/
def onOffOnAndChange : List (ObserverInput String) :=
  [.on "f" 1, .off "f" 2, .on "f" 3, .change, .work 0, .work 0]

theorem neverOff_onOffOnAndChange :
    NeverOff samplePlatform callerOf100 onOffOnAndChange := by
  intro f k hchange hturned
  refine iff_of_true ?_ (by decide)
  match k, hchange with
  | 3, _ =>
      -- only `"f"` has been turned on, and last by the third input
      obtain ⟨ref, hmem⟩ := hturned
      have hf : f = "f" := by
        simp only [onOffOnAndChange, List.take_succ_cons, List.take_zero,
          List.mem_cons, List.not_mem_nil, ObserverInput.on.injEq, reduceCtorEq,
          or_false, false_or] at hmem
        rcases hmem with hmem | hmem
        · exact hmem.1
        · exact hmem.1
      subst hf
      exact ⟨[.on "f" 1, .off "f" 2], 3, [], rfl, fun _ => List.not_mem_nil⟩
  | 0, hchange => cases hchange
  | 1, hchange => cases hchange
  | 2, hchange => cases hchange
  | 4, hchange => cases hchange
  | 5, hchange => cases hchange
  | _ + 6, hchange => cases hchange

theorem off_undoes_on_onOffOnAndChange :
    ∃ (s : SystemPasteboardNapi String String String)
      (os : List (NapiEvent String)),
      (observerMachine samplePlatform callerOf100 Napi.filling).run {}
          onOffOnAndChange = some (s, os)
        ∧ OffUndoesOn onOffOnAndChange s os := by
  refine ⟨_, _, rfl, ?_⟩
  exact (off_undoes_on_iff (P := samplePlatform) (c := callerOf100)
    (N := Napi.filling) rfl).mpr neverOff_onOffOnAndChange

/-- **A function that is turned on and off again** is called by the change that
follows. -/
theorem off_undoes_on_off :
    ¬ ∀ (P : Platform) (c : Caller) (N : Napi)
        (is : List (ObserverInput String))
        (s : SystemPasteboardNapi String String String)
        (os : List (NapiEvent String)),
      (observerMachine P c N).run {} is = some (s, os) →
      OffUndoesOn is s os := by
  intro h
  have hquiet := (h samplePlatform callerOf100 Napi.filling
    [.on "f" 1, .off "f" 2, .change, .work 0] _ _ rfl).quiet
  obtain ⟨pre, ref, post, heq, hpost⟩ : IsOn [.on "f" 1, .off "f" 2] "f" :=
    hquiet "f" 2 (Or.inl List.mem_cons_self)
  match pre, heq with
  | [], heq =>
      injection heq with _ heq
      rw [← heq] at hpost
      exact hpost 2 List.mem_cons_self
  | [_], heq =>
      injection heq with _ heq
      injection heq with hon _
      cases hon
  | _ :: _ :: pre, heq =>
      injection heq with _ heq
      injection heq with _ heq
      cases pre <;> cases heq

end Pasteboard
