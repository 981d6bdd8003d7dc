/-
  Pasteboard.Service.Handlers
  ───────────────────────────
  **REQUEST HANDLERS AND THEIR MUTEXES.**

  Every request is handled by a thread of its own.  A handler's turns are cut
  where `pasteboard_service.cpp` takes or releases `clipMutex_` or
  `observerMutex_`, and around each call of an observer: `OnPasteboardChanged`
  is a synchronous request (`MessageOption` is the default), so the handler
  waits for the reply, and the observer replies after its own handler returns.
  Until then the observer may issue requests of its own, which it waits for.

  What a handler does before it asks for one of these mutexes is one turn:
  `SetPasteDataDot` and `GetPasteDataDot` with the mutexes of the reporters,
  under which no other mutex is taken, and with their accesses to
  `dataHistory_` and `clips_`, which no mutex protects (cut further, these are
  data races).

    • `setPasteData` and `clear` call the observers WHILE they hold
      `clipMutex_`, and `notifyObservers` calls them while it holds
      `observerMutex_`.
    • `keeps_owned`: a handler in a critical section is the holder of its
      mutex, in every state of every run.
-/
import Pasteboard.Service.Ops
import Pasteboard.Lib.Locks

namespace Pasteboard

open Lib

variable {Uri Want : Type}

/-! ## §1. The phases of an operation. -/

inductive Mutex where
  | clipMutex
  | observerMutex
  deriving DecidableEq, Repr

namespace ServiceOp

/-- The operations that call `NotifyObservers`. -/
def callsObservers : ServiceOp Uri Want → Bool
  | .setPasteData _ _ => true
  | .clear _ => true
  | _ => false

/-- A mutex that is taken for callers with a user id only. -/
def ifUser (P : Platform) (c : Caller) (m : Mutex) : Option Mutex :=
  if P.getUserId c.uid = ERROR_USERID then none else some m

/-- The first mutex the operation takes, if it takes one.
`AddPasteboardChangedObserver` takes its mutex before it asks for the user id,
the others ask first. -/
def firstMutex (P : Platform) : ServiceOp Uri Want → Option Mutex
  | .setPasteData c _ => ifUser P c .clipMutex
  | .getPasteData c _ => ifUser P c .clipMutex
  | .hasPasteData c => ifUser P c .clipMutex
  | .clear c => ifUser P c .clipMutex
  | .addPasteboardChangedObserver _ none => none
  | .addPasteboardChangedObserver _ (some _) => some .observerMutex
  | .removePasteboardChangedObserver _ none => none
  | .removePasteboardChangedObserver c (some _) => ifUser P c .observerMutex
  | .removeAllChangedObserver c => ifUser P c .observerMutex

theorem ifUser_eq_some {P : Platform} {c : Caller} {m m' : Mutex}
    (h : ifUser P c m = some m') : m = m' := by
  unfold ifUser at h
  split at h
  · cases h
  · injection h

theorem ne_of_ifUser {P : Platform} {c : Caller} {m m' : Mutex}
    (h : ifUser P c m = some m') : P.getUserId c.uid ≠ ERROR_USERID := by
  intro hu
  unfold ifUser at h
  rw [if_pos hu] at h
  cases h

theorem ifUser_eq_none {P : Platform} {c : Caller} {m : Mutex}
    (h : ifUser P c m = none) : P.getUserId c.uid = ERROR_USERID := by
  unfold ifUser at h
  split at h
  · next hu => exact hu
  · cases h

/-- What happens before the first mutex is asked for. -/
def prologue [ToString Uri] (P : Platform) (s : PasteboardService Uri Want) :
    ServiceOp Uri Want → Option (PasteboardService Uri Want × List Event)
  | .setPasteData c pasteData => s.setPasteDataDot P c pasteData
  | .getPasteData c _ => s.getPasteDataDot P c
  | _ => some (s, [])

/-- What happens under `clipMutex_`, and whether the observers are called. -/
def underClip (P : Platform) (s : PasteboardService Uri Want) :
    ServiceOp Uri Want → PasteboardService Uri Want × Bool
  | .setPasteData c pasteData =>
      (s.storeClip (P.getUserId c.uid) pasteData, true)
  | .clear c =>
      if s.clips.contains (P.getUserId c.uid) then
        (s.eraseClip (P.getUserId c.uid), true)
      else (s, false)
  | _ => (s, false)

/-- What the operations on the registries do under `observerMutex_`. -/
def underObserver (P : Platform) (s : PasteboardService Uri Want) :
    ServiceOp Uri Want → PasteboardService Uri Want
  | .addPasteboardChangedObserver c o =>
      (s.addPasteboardChangedObserver P c o).service
  | .removePasteboardChangedObserver c o =>
      (s.removePasteboardChangedObserver P c o).service
  | .removeAllChangedObserver c => (s.removeAllChangedObserver P c).service
  | _ => s

end ServiceOp

/-! ## §2. Handlers. -/

/-- Where a handler is. -/
inductive Pc where
  | start
  /-- Waits for `clipMutex_`. -/
  | wantClip
  | inClip
  /-- Waits for `observerMutex_`. -/
  | wantObserver
  | inObserver
  /-- In the loop of `NotifyObservers`, with the calls still to make. -/
  | notifying (calls : List Event)
  /-- Waits for the reply of the observer it called. -/
  | waitReply (calls : List Event)
  /-- Out of `NotifyObservers`, still under `clipMutex_`. -/
  | leaving
  | done
  deriving DecidableEq, Repr

/-- A handler; `parent` is the handler whose call of an observer made the
observer issue this request. -/
structure Handler (Uri Want : Type) where
  op : ServiceOp Uri Want
  parent : Option Nat
  pc : Pc

/-- What one turn of a handler does. -/
structure Turn (Uri Want : Type) where
  service : PasteboardService Uri Want
  pc : Pc
  acquire : Option Mutex := none
  release : Option Mutex := none
  outputs : List Event := []

/-- Where an operation goes to take its first mutex. -/
def Pc.ofFirst : Option Mutex → Pc
  | none => .done
  | some .clipMutex => .wantClip
  | some .observerMutex => .wantObserver

namespace Handler

variable [ToString Uri]

def turn (P : Platform) (s : PasteboardService Uri Want)
    (hd : Handler Uri Want) : Option (Turn Uri Want) :=
  match hd.pc with
  | .start =>
      -- the reads of `clips_` in `GetPasteDataDot` are made without a mutex
      (hd.op.prologue P s).map fun x =>
        { service := x.1, pc := Pc.ofFirst (hd.op.firstMutex P),
          outputs := x.2 }
  | .wantClip =>
      some { service := s, pc := .inClip, acquire := some .clipMutex }
  | .inClip =>
      let x := hd.op.underClip P s
      if x.2 then some { service := x.1, pc := .wantObserver }
      else some { service := x.1, pc := .done, release := some .clipMutex }
  | .wantObserver =>
      -- `NotifyObservers`, or an operation on the registries
      if hd.op.callsObservers then
        some { service := s, pc := .notifying s.notifyObservers,
               acquire := some .observerMutex }
      else
        some { service := s, pc := .inObserver,
               acquire := some .observerMutex }
  | .inObserver =>
      -- `AddPasteboardChangedObserver` asks for the user id only here
      some { service := hd.op.underObserver P s, pc := .done,
             release := some .observerMutex }
  | .notifying [] =>
      some { service := s, pc := .leaving, release := some .observerMutex }
  | .notifying (e :: calls) =>
      -- the call goes out under both mutexes
      some { service := s, pc := .waitReply calls, outputs := [e] }
  | .waitReply _ => none
  | .leaving => some { service := s, pc := .done, release := some .clipMutex }
  | .done => none

omit [ToString Uri] in
/-- The critical sections a handler is in. -/
def holds (hd : Handler Uri Want) : Mutex → Prop
  | .clipMutex =>
      match hd.pc with
      | .inClip | .notifying _ | .waitReply _ | .leaving => True
      | .wantObserver => hd.op.callsObservers = true
      | _ => False
  | .observerMutex =>
      match hd.pc with
      | .inObserver | .notifying _ | .waitReply _ => True
      | _ => False

end Handler

/-! ## §3. The system. -/

/-- The service, its mutexes and the handlers of all requests so far. -/
structure System (Uri Want : Type) where
  service : PasteboardService Uri Want := {}
  table : Locks.Table Mutex (Handler Uri Want) := {}

/-- What can happen next. -/
inductive Label (Uri Want : Type) where
  /-- A client issues a request. -/
  | request (op : ServiceOp Uri Want)
  /-- The observer handler `h` has called issues a request. -/
  | callbackRequest (h : Nat) (op : ServiceOp Uri Want)
  /-- Handler `h` takes its turn. -/
  | advance (h : Nat)
  /-- The observer handler `h` has called replies. -/
  | reply (h : Nat)

namespace System

variable [ToString Uri] (P : Platform)

def advance (h : Nat) (sys : System Uri Want) :
    Option (System Uri Want × List Event) :=
  match sys.table.threads[h]? with
  | none => none
  | some hd =>
      (hd.turn P sys.service).bind fun t =>
        (sys.table.turn h { hd with pc := t.pc } t.acquire t.release).map
          fun table => (⟨t.service, table⟩, t.outputs)

omit [ToString Uri] in
/-- The requests issued by the observer that `h` has called are all done. -/
def childrenDone (h : Nat) (sys : System Uri Want) : Bool :=
  sys.table.threads.all fun k => k.parent != some h || k.pc == .done

omit [ToString Uri] in
def reply (h : Nat) (sys : System Uri Want) :
    Option (System Uri Want × List Event) :=
  match sys.table.threads[h]? with
  | none => none
  | some hd =>
      match hd.pc with
      | .waitReply calls =>
          -- the observer waits for its own requests before it replies
          if sys.childrenDone h then
            (sys.table.turn h { hd with pc := .notifying calls } none none).map
              fun table => (⟨sys.service, table⟩, [])
          else none
      | _ => none

omit [ToString Uri] in
def callbackRequest (h : Nat) (op : ServiceOp Uri Want)
    (sys : System Uri Want) : Option (System Uri Want × List Event) :=
  match sys.table.threads[h]? with
  | none => none
  | some hd =>
      match hd.pc with
      | .waitReply _ =>
          some ({ sys with table := sys.table.spawn ⟨op, some h, .start⟩ }, [])
      | _ => none

def next (sys : System Uri Want) :
    Label Uri Want → Option (System Uri Want × List Event)
  | .request op =>
      some ({ sys with table := sys.table.spawn ⟨op, none, .start⟩ }, [])
  | .callbackRequest h op => sys.callbackRequest h op
  | .advance h => sys.advance P h
  | .reply h => sys.reply h

end System

def handlerMachine [ToString Uri] (P : Platform) :
    Machine (System Uri Want) (Label Uri Want) Event where
  step := System.next P

/-- What one step of the system can be. -/
inductive Fires [ToString Uri] (P : Platform) (sys : System Uri Want) :
    Label Uri Want → System Uri Want → List Event → Prop where
  | request (op : ServiceOp Uri Want) :
      Fires P sys (.request op)
        { sys with table := sys.table.spawn ⟨op, none, .start⟩ } []
  | callbackRequest {h : Nat} {hd : Handler Uri Want} {calls : List Event}
      (op : ServiceOp Uri Want) :
      sys.table.threads[h]? = some hd → hd.pc = .waitReply calls →
      Fires P sys (.callbackRequest h op)
        { sys with table := sys.table.spawn ⟨op, some h, .start⟩ } []
  | advance {h : Nat} {hd : Handler Uri Want} {t : Turn Uri Want}
      {table : Locks.Table Mutex (Handler Uri Want)} :
      sys.table.threads[h]? = some hd → hd.turn P sys.service = some t →
      sys.table.turn h { hd with pc := t.pc } t.acquire t.release
        = some table →
      Fires P sys (.advance h) ⟨t.service, table⟩ t.outputs
  | reply {h : Nat} {hd : Handler Uri Want} {calls : List Event}
      {table : Locks.Table Mutex (Handler Uri Want)} :
      sys.table.threads[h]? = some hd → hd.pc = .waitReply calls →
      sys.childrenDone h = true →
      sys.table.turn h { hd with pc := .notifying calls } none none
        = some table →
      Fires P sys (.reply h) ⟨sys.service, table⟩ []

theorem callbackRequest_eq_some {sys sys' : System Uri Want} {h : Nat}
    {op : ServiceOp Uri Want} {os : List Event} :
    sys.callbackRequest h op = some (sys', os) ↔
      ∃ hd calls, sys.table.threads[h]? = some hd ∧ hd.pc = .waitReply calls
        ∧ sys' = { sys with table := sys.table.spawn ⟨op, some h, .start⟩ }
        ∧ os = [] := by
  unfold System.callbackRequest
  constructor
  · intro heq
    split at heq
    · cases heq
    · next hd hh =>
        split at heq
        · next calls hpc =>
            injection heq with heq
            injection heq with hs hos
            exact ⟨hd, calls, hh, hpc, hs.symm, hos.symm⟩
        · cases heq
  · intro hyp
    obtain ⟨hd, calls, hh, hpc, rfl, rfl⟩ := hyp
    rw [hh]
    dsimp only
    rw [hpc]

theorem reply_eq_some {sys sys' : System Uri Want} {h : Nat}
    {os : List Event} :
    sys.reply h = some (sys', os) ↔
      ∃ hd calls table, sys.table.threads[h]? = some hd
        ∧ hd.pc = .waitReply calls ∧ sys.childrenDone h = true
        ∧ sys.table.turn h { hd with pc := .notifying calls } none none
          = some table
        ∧ sys' = ⟨sys.service, table⟩ ∧ os = [] := by
  unfold System.reply
  constructor
  · intro heq
    split at heq
    · cases heq
    · next hd hh =>
        split at heq
        · next calls hpc =>
            split at heq
            · next hdone =>
                obtain ⟨table, ht, heq⟩ := Option.map_eq_some_iff.mp heq
                injection heq with hs hos
                exact ⟨hd, calls, table, hh, hpc, hdone, ht, hs.symm, hos.symm⟩
            · cases heq
        · cases heq
  · intro hyp
    obtain ⟨hd, calls, table, hh, hpc, hdone, ht, rfl, rfl⟩ := hyp
    rw [hh]
    dsimp only
    rw [hpc]
    dsimp only
    rw [if_pos hdone, ht]
    rfl

theorem advance_eq_some [ToString Uri] {P : Platform}
    {sys sys' : System Uri Want} {h : Nat} {os : List Event} :
    sys.advance P h = some (sys', os) ↔
      ∃ hd t table, sys.table.threads[h]? = some hd
        ∧ hd.turn P sys.service = some t
        ∧ sys.table.turn h { hd with pc := t.pc } t.acquire t.release
          = some table
        ∧ sys' = ⟨t.service, table⟩ ∧ os = t.outputs := by
  unfold System.advance
  constructor
  · intro heq
    split at heq
    · cases heq
    · next hd hh =>
        obtain ⟨t, hturn, heq⟩ := Option.bind_eq_some_iff.mp heq
        obtain ⟨table, ht, heq⟩ := Option.map_eq_some_iff.mp heq
        injection heq with hs hos
        exact ⟨hd, t, table, hh, hturn, ht, hs.symm, hos.symm⟩
  · intro hyp
    obtain ⟨hd, t, table, hh, hturn, ht, rfl, rfl⟩ := hyp
    rw [hh]
    dsimp only
    rw [hturn, Option.bind_some, ht]
    rfl

/-- **A step taken apart.** -/
theorem fires_iff [ToString Uri] {P : Platform} {sys sys' : System Uri Want}
    {l : Label Uri Want} {os : List Event} :
    (handlerMachine P).step sys l = some (sys', os)
      ↔ Fires P sys l sys' os := by
  show sys.next P l = _ ↔ _
  constructor
  · intro h
    cases l with
    | request op =>
        injection h with h
        injection h with hs hos
        subst hs hos
        exact .request op
    | callbackRequest i op =>
        obtain ⟨hd, calls, hi, hpc, rfl, rfl⟩ := callbackRequest_eq_some.mp h
        exact .callbackRequest op hi hpc
    | advance i =>
        obtain ⟨hd, t, table, hi, hturn, ht, rfl, rfl⟩ := advance_eq_some.mp h
        exact .advance hi hturn ht
    | reply i =>
        obtain ⟨hd, calls, table, hi, hpc, hdone, ht, rfl, rfl⟩ :=
          reply_eq_some.mp h
        exact .reply hi hpc hdone ht
  · intro h
    cases h with
    | request op => rfl
    | callbackRequest op hi hpc =>
        exact callbackRequest_eq_some.mpr ⟨_, _, hi, hpc, rfl, rfl⟩
    | advance hi hturn ht =>
        exact advance_eq_some.mpr ⟨_, _, _, hi, hturn, ht, rfl, rfl⟩
    | reply hi hpc hdone ht =>
        exact reply_eq_some.mpr ⟨_, _, _, hi, hpc, hdone, ht, rfl, rfl⟩

/-! ## §4. Who holds the mutexes. -/

section Ownership

variable {P : Platform}

theorem firstMutex_observer {op : ServiceOp Uri Want}
    (h : op.firstMutex P = some .observerMutex) :
    op.callsObservers = false := by
  cases op with
  | setPasteData c d => cases ServiceOp.ifUser_eq_some h
  | clear c => cases ServiceOp.ifUser_eq_some h
  | _ => rfl

/-- A handler that has not entered a critical section. -/
theorem not_holds_ofFirst (op : ServiceOp Uri Want) (parent : Option Nat)
    (m : Mutex) :
    ¬ (⟨op, parent, Pc.ofFirst (op.firstMutex P)⟩ : Handler Uri Want).holds
      m := by
  intro hm
  cases hfirst : op.firstMutex P with
  | none =>
      rw [hfirst] at hm
      cases m <;> exact hm
  | some m' =>
      rw [hfirst] at hm
      cases m' with
      | clipMutex => cases m <;> exact hm
      | observerMutex =>
          cases m with
          | clipMutex =>
              -- an operation on the registries never takes `clipMutex_`
              have hcalls : op.callsObservers = true := hm
              rw [firstMutex_observer hfirst] at hcalls
              cases hcalls
          | observerMutex => exact hm

/-- A reply changes no mutex. -/
theorem honest_reply {hd : Handler Uri Want} {calls : List Event}
    (h : hd.pc = .waitReply calls) :
    Locks.Honest Handler.holds hd { hd with pc := .notifying calls } none
      none := by
  obtain ⟨op, parent, pc⟩ := hd
  have hpc : pc = .waitReply calls := h
  subst hpc
  apply Locks.Honest.quiet
  intro m _
  cases m <;> trivial

/-- Releasing the last mutex. -/
theorem honest_done {hd : Handler Uri Want} {m : Mutex} (hm : hd.holds m) :
    Locks.Honest Handler.holds hd { hd with pc := .done } none (some m) := by
  refine Locks.Honest.drop hm ?_
  intro m' hm'
  cases m' <;> exact hm'.elim

variable [ToString Uri]

/-- **What a handler takes and releases is what its critical sections say.** -/
theorem honest_turn {s : PasteboardService Uri Want} {hd : Handler Uri Want}
    {t : Turn Uri Want} (h : hd.turn P s = some t) :
    Locks.Honest Handler.holds hd { hd with pc := t.pc } t.acquire
      t.release := by
  obtain ⟨op, parent, pc⟩ := hd
  unfold Handler.turn at h
  cases pc with
  | start =>
      obtain ⟨x, _, ht⟩ := Option.map_eq_some_iff.mp h
      subst ht
      apply Locks.Honest.quiet
      intro m hm
      exact absurd hm (not_holds_ofFirst op parent m)
  | wantClip =>
      injection h with h
      subst h
      apply Locks.Honest.take
      intro m hm
      cases m with
      | clipMutex => exact Or.inr rfl
      | observerMutex => exact hm.elim
  | inClip =>
      dsimp only at h
      split at h
      · -- the clip is stored or erased: on to the observers
        injection h with h
        subst h
        apply Locks.Honest.quiet
        intro m hm
        cases m with
        | clipMutex => trivial
        | observerMutex => exact hm
      · injection h with h
        subst h
        exact honest_done trivial
  | wantObserver =>
      dsimp only at h
      split at h
      · -- `NotifyObservers`, under `clipMutex_`
        next hcalls =>
          injection h with h
          subst h
          apply Locks.Honest.take
          intro m _
          cases m with
          | clipMutex => exact Or.inl hcalls
          | observerMutex => exact Or.inr rfl
      · injection h with h
        subst h
        apply Locks.Honest.take
        intro m hm
        cases m with
        | clipMutex => exact hm.elim
        | observerMutex => exact Or.inr rfl
  | inObserver =>
      injection h with h
      subst h
      exact honest_done trivial
  | notifying calls =>
      cases calls with
      | nil =>
          injection h with h
          subst h
          refine Locks.Honest.drop trivial ?_
          intro m hm
          cases m with
          | clipMutex => exact ⟨trivial, nofun⟩
          | observerMutex => exact hm.elim
      | cons e calls =>
          injection h with h
          subst h
          apply Locks.Honest.quiet
          intro m _
          cases m <;> trivial
  | waitReply calls => cases h
  | leaving =>
      injection h with h
      subst h
      exact honest_done trivial
  | done => cases h

/-- **A handler in a critical section holds its mutex.** -/
theorem keeps_owned :
    (handlerMachine P).Keeps fun sys : System Uri Want =>
      Locks.Owned Handler.holds sys.table := by
  intro sys l sys' os hown hstep
  cases fires_iff.mp hstep with
  | request op =>
      apply hown.spawn
      intro m hm
      cases m <;> exact hm
  | callbackRequest op _ _ =>
      apply hown.spawn
      intro m hm
      cases m <;> exact hm
  | advance hi hturn htable => exact hown.turn hi htable (honest_turn hturn)
  | reply hi hpc _ htable => exact hown.turn hi htable (honest_reply hpc)

theorem run_owned {ls : List (Label Uri Want)} {sys : System Uri Want}
    {os : List Event} (h : (handlerMachine P).run {} ls = some (sys, os)) :
    Locks.Owned Handler.holds sys.table :=
  Machine.run_keeps _ keeps_owned ls Locks.owned_empty h

end Ownership

end Pasteboard
