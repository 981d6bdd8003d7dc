/-
  Pasteboard.Service.Deadlock
  ───────────────────────────
  **OBSERVERS THAT CALL BACK.**

  A handler waits for the reply of an observer while it holds `clipMutex_` and
  `observerMutex_`.  If the observer issues a request of its own that takes
  either, and waits for it, neither ever goes on.

    • `no_deadlock_iff`: a run is free of such a state exactly when no
      observer issues a request that takes a mutex.
    • `deadlock_forever`: once there, a system stays there in every run.
    • `firstMutex_eq_none_iff`: next to nothing takes no mutex.  The request
      of a caller without a user id is one, unless it adds an observer.
-/
import Pasteboard.Service.Handlers

namespace Pasteboard

open Lib

variable {Uri Want : Type}

/-! ## §1. Waiting for each other. -/

/-- The mutex a handler asks for next. -/
def Handler.nextMutex (P : Platform) (hd : Handler Uri Want) : Option Mutex :=
  match hd.pc with
  | .start => hd.op.firstMutex P
  | .wantClip => some .clipMutex
  | .wantObserver => some .observerMutex
  | _ => none

/-- Handler `h` waits for the reply of an observer, and holds the mutex `m`
that handler `k`, of a request of this observer, needs. -/
structure Deadlocked (P : Platform) (h k : Nat) (m : Mutex)
    (sys : System Uri Want) : Prop where
  waits : ∃ hd calls, sys.table.threads[h]? = some hd ∧ hd.pc = .waitReply calls
  needs : ∃ kd, sys.table.threads[k]? = some kd ∧ kd.parent = some h
    ∧ kd.nextMutex P = some m
  held : sys.table.holder m = some h

/-- A handler that waits for a reply asks for no mutex, and neither does one
that is done. -/
theorem Handler.not_waiting_of_nextMutex {P : Platform} {hd : Handler Uri Want}
    {m : Mutex} (h : hd.nextMutex P = some m) :
    (∀ calls, hd.pc ≠ .waitReply calls) ∧ hd.pc ≠ .done := by
  unfold Handler.nextMutex at h
  constructor
  · intro calls hpc
    rw [hpc] at h
    cases h
  · intro hpc
    rw [hpc] at h
    cases h

/-- Where both handlers are as they were, and the mutex too. -/
theorem Deadlocked.transfer {P : Platform} {h k : Nat} {m : Mutex}
    {sys sys' : System Uri Want} (hdead : Deadlocked P h k m sys)
    (hh : ∀ hd, sys.table.threads[h]? = some hd →
      sys'.table.threads[h]? = some hd)
    (hk : ∀ kd, sys.table.threads[k]? = some kd →
      sys'.table.threads[k]? = some kd)
    (hheld : sys'.table.holder m = some h) : Deadlocked P h k m sys' := by
  obtain ⟨hd, calls, hhd, hpc⟩ := hdead.waits
  obtain ⟨kd, hkd, hparent, hnext⟩ := hdead.needs
  exact ⟨⟨hd, calls, hh hd hhd, hpc⟩, ⟨kd, hk kd hkd, hparent, hnext⟩, hheld⟩

/-- No observer issues a request that takes a mutex. -/
def Label.Lockfree (P : Platform) : Label Uri Want → Prop
  | .callbackRequest _ op => op.firstMutex P = none
  | _ => True

instance (P : Platform) :
    DecidablePred (Label.Lockfree P : Label Uri Want → Prop) := fun l =>
  match l with
  | .request _ => .isTrue trivial
  | .callbackRequest _ op => inferInstanceAs (Decidable (op.firstMutex P = none))
  | .advance _ => .isTrue trivial
  | .reply _ => .isTrue trivial

/-- **The requests that take no mutex.** -/
theorem firstMutex_eq_none_iff {P : Platform} {op : ServiceOp Uri Want} :
    op.firstMutex P = none ↔
      match op with
      | .addPasteboardChangedObserver _ o => o = none
      | .removePasteboardChangedObserver c o =>
          o = none ∨ P.getUserId c.uid = ERROR_USERID
      | op => op.userId P = ERROR_USERID := by
  have hif : ∀ (c : Caller) (m : Mutex),
      ServiceOp.ifUser P c m = none ↔ P.getUserId c.uid = ERROR_USERID := by
    intro c m
    refine ⟨ServiceOp.ifUser_eq_none, ?_⟩
    intro hu
    unfold ServiceOp.ifUser
    rw [if_pos hu]
  cases op with
  | setPasteData c d => exact hif c .clipMutex
  | getPasteData c d => exact hif c .clipMutex
  | hasPasteData c => exact hif c .clipMutex
  | clear c => exact hif c .clipMutex
  | addPasteboardChangedObserver c o =>
      cases o with
      | none => exact iff_of_true rfl rfl
      | some o => exact iff_of_false nofun nofun
  | removePasteboardChangedObserver c o =>
      cases o with
      | none => exact iff_of_true rfl (Or.inl rfl)
      | some o =>
          show ServiceOp.ifUser P c .observerMutex = none ↔ _
          rw [hif]
          exact ⟨Or.inr, fun h => h.resolve_left nofun⟩
  | removeAllChangedObserver c => exact hif c .observerMutex

/-! ## §2. Observers that take no mutex. -/

/-- The handlers of the requests of observers take no mutex. -/
def ChildrenLockfree (P : Platform) (sys : System Uri Want) : Prop :=
  ∀ (k : Nat) kd, sys.table.threads[k]? = some kd → kd.parent ≠ none →
    kd.op.firstMutex P = none ∧ (kd.pc = .start ∨ kd.pc = .done)

theorem childrenLockfree_empty (P : Platform) :
    ChildrenLockfree P ({} : System Uri Want) := by
  intro k kd hk
  have hk' : ([] : List (Handler Uri Want))[k]? = some kd := hk
  cases hk'

theorem ChildrenLockfree.no_deadlock {P : Platform} {sys : System Uri Want}
    (h : ChildrenLockfree P sys) (i k : Nat) (m : Mutex) :
    ¬ Deadlocked P i k m sys := by
  intro hdead
  obtain ⟨kd, hk, hparent, hnext⟩ := hdead.needs
  obtain ⟨hfirst, hpc⟩ := h k kd hk (by rw [hparent]; nofun)
  unfold Handler.nextMutex at hnext
  rcases hpc with hpc | hpc
  · rw [hpc] at hnext
    dsimp only at hnext
    rw [hfirst] at hnext
    cases hnext
  · rw [hpc] at hnext
    cases hnext

section Runs

variable [ToString Uri] {P : Platform}

/-- **A step of a lockfree label keeps the observers' handlers so.** -/
theorem ChildrenLockfree.step {sys sys' : System Uri Want}
    {l : Label Uri Want} {os : List Event} (hinv : ChildrenLockfree P sys)
    (hl : l.Lockfree P) (hstep : (handlerMachine P).step sys l = some (sys', os)) :
    ChildrenLockfree P sys' := by
  intro k kd hk hparent
  cases fires_iff.mp hstep with
  | request op =>
      rcases Locks.getElem?_spawn hk with hk | hk
      · exact hinv k kd hk hparent
      · subst hk
        exact absurd rfl hparent
  | callbackRequest op _ _ =>
      rcases Locks.getElem?_spawn hk with hk | hk
      · exact hinv k kd hk hparent
      · -- the new request is lockfree, and has not started
        subst hk
        exact ⟨hl, Or.inl rfl⟩
  | @advance i hd t table hi hturn htable =>
      rcases Locks.getElem?_turn htable hk with ⟨_, hk⟩ | ⟨_, hk⟩
      · -- its only turn is the first, and the last
        subst hk
        obtain ⟨hfirst, hpc⟩ := hinv i hd hi hparent
        refine ⟨hfirst, Or.inr ?_⟩
        unfold Handler.turn at hturn
        rcases hpc with hpc | hpc
        · rw [hpc] at hturn
          obtain ⟨x, _, ht⟩ := Option.map_eq_some_iff.mp hturn
          show t.pc = .done
          rw [← ht, hfirst]
          rfl
        · rw [hpc] at hturn
          cases hturn
      · exact hinv k kd hk hparent
  | @reply i hd calls table hi hpc _ htable =>
      rcases Locks.getElem?_turn htable hk with ⟨_, hk⟩ | ⟨_, hk⟩
      · -- an observer's handler calls no observers
        subst hk
        obtain ⟨_, hpc'⟩ := hinv i hd hi hparent
        rw [hpc] at hpc'
        rcases hpc' with hpc' | hpc' <;> cases hpc'
      · exact hinv k kd hk hparent

/-- **The request that makes a deadlock.** -/
theorem deadlocked_of_callback {sys sys' : System Uri Want} {h : Nat}
    {op : ServiceOp Uri Want} {os : List Event} {m : Mutex}
    (hown : Locks.Owned Handler.holds sys.table)
    (hfirst : op.firstMutex P = some m)
    (hstep : (handlerMachine P).step sys (.callbackRequest h op)
      = some (sys', os)) :
    Deadlocked P h sys.table.threads.length m sys' := by
  cases fires_iff.mp hstep with
  | @callbackRequest _ hd calls _ hi hpc =>
      refine ⟨⟨hd, calls, ?_, hpc⟩, ⟨⟨op, some h, .start⟩, ?_, rfl, hfirst⟩, ?_⟩
      · exact Locks.getElem?_spawn_of _ hi
      · exact List.getElem?_concat_length
      · -- a handler that waits for a reply holds both mutexes
        apply hown h hd hi
        unfold Handler.holds
        rw [hpc]
        cases m <;> trivial

/-- **No handler waits for an observer that waits for it**, in any state of a
run, exactly when no observer issues a request that takes a mutex. -/
theorem no_deadlock_iff (P : Platform) (ls : List (Label Uri Want))
    (sys : System Uri Want) (os : List Event)
    (hrun : (handlerMachine P).run {} ls = some (sys, os)) :
    (handlerMachine P).Always (fun sys => ∀ h k m, ¬ Deadlocked P h k m sys)
        {} ls
      ↔ ∀ l ∈ ls, l.Lockfree P := by
  rw [← (handlerMachine P).allSteps_iff_forall ls hrun]
  refine Machine.always_iff_allSteps _
    (fun sys =>
      Locks.Owned Handler.holds sys.table ∧ ChildrenLockfree P sys) ?_ ?_ ?_ ls
    ⟨Locks.owned_empty, childrenLockfree_empty P⟩ hrun
  · intro sys l sys' os hyp hl hstep
    obtain ⟨hown, hinv⟩ := hyp
    exact ⟨keeps_owned sys l sys' os hown hstep, hinv.step hl hstep⟩
  · intro sys hyp
    obtain ⟨_, hinv⟩ := hyp
    exact hinv.no_deadlock
  · intro sys l sys' os hyp hstep hgood
    obtain ⟨hown, _⟩ := hyp
    cases l with
    | callbackRequest h op =>
        cases hfirst : op.firstMutex P with
        | none => exact hfirst
        | some m =>
            have hdead := deadlocked_of_callback hown hfirst hstep
            exact (hgood h sys.table.threads.length m hdead).elim
    | _ => trivial

/-! ## §3. No way out. -/

/-- A handler on its way to a mutex takes it in its next turn, or is still on
its way after it. -/
theorem turn_of_nextMutex {s : PasteboardService Uri Want}
    {kd : Handler Uri Want} {t : Turn Uri Want} {m : Mutex}
    (hnext : kd.nextMutex P = some m) (hturn : kd.turn P s = some t) :
    t.acquire = some m
      ∨ ({ kd with pc := t.pc } : Handler Uri Want).nextMutex P = some m := by
  obtain ⟨op, parent, pc⟩ := kd
  cases pc with
  | start =>
      obtain ⟨x, _, ht⟩ := Option.map_eq_some_iff.mp hturn
      have hfirst : op.firstMutex P = some m := hnext
      subst ht
      right
      show Handler.nextMutex P ⟨op, parent, Pc.ofFirst (op.firstMutex P)⟩ = _
      rw [hfirst]
      cases m <;> rfl
  | wantClip =>
      injection hturn with hturn
      subst hturn
      exact Or.inl hnext
  | wantObserver =>
      have hturn' : (if op.callsObservers then _ else _) = some t := hturn
      left
      split at hturn' <;>
        · injection hturn' with hturn'
          subst hturn'
          exact hnext
  | _ => cases hnext

/-- The handler that waits for the reply takes no turn. -/
theorem Deadlocked.no_turn {h k : Nat} {m : Mutex} {sys : System Uri Want}
    (hdead : Deadlocked P h k m sys) {hd : Handler Uri Want}
    (hh : sys.table.threads[h]? = some hd) : hd.turn P sys.service = none := by
  obtain ⟨hd', calls, hh', hpc⟩ := hdead.waits
  rw [hh] at hh'
  injection hh' with hh'
  subst hh'
  unfold Handler.turn
  rw [hpc]

omit [ToString Uri] in
/-- It gets no reply: the request `k` of its observer is not done. -/
theorem Deadlocked.no_reply {h k : Nat} {m : Mutex} {sys : System Uri Want}
    (hdead : Deadlocked P h k m sys) : sys.childrenDone h = false := by
  obtain ⟨kd, hk, hparent, hnext⟩ := hdead.needs
  have hpc := (Handler.not_waiting_of_nextMutex hnext).2
  apply List.all_eq_false.mpr
  refine ⟨kd, List.mem_of_getElem? hk, ?_⟩
  rw [hparent, bne_self_eq_false, Bool.false_or, beq_iff_eq]
  exact hpc

/-- **Two handlers that wait for each other wait for ever.** -/
theorem keeps_deadlocked (h k : Nat) (m : Mutex) :
    (handlerMachine P).Keeps fun sys : System Uri Want =>
      Locks.Owned Handler.holds sys.table ∧ Deadlocked P h k m sys := by
  intro sys l sys' os hyp hstep
  obtain ⟨hown, hdead⟩ := hyp
  refine ⟨keeps_owned sys l sys' os hown hstep, ?_⟩
  have hheld := hdead.held
  cases fires_iff.mp hstep with
  | request op =>
      exact hdead.transfer (fun _ => Locks.getElem?_spawn_of _)
        (fun _ => Locks.getElem?_spawn_of _) hheld
  | callbackRequest op _ _ =>
      exact hdead.transfer (fun _ => Locks.getElem?_spawn_of _)
        (fun _ => Locks.getElem?_spawn_of _) hheld
  | @advance i id t table hi hturn htable =>
      have hih : i ≠ h := by
        intro heq
        subst heq
        rw [hdead.no_turn hi] at hturn
        cases hturn
      have hheld' := hown.holder_turn hi htable (honest_turn hturn) hheld hih
      have hh' := Locks.getElem?_turn_of_ne htable hih
      by_cases hik : i = k
      · -- `k` comes no further than to where it waits for `m`
        subst hik
        obtain ⟨hd, calls, hh, hpc⟩ := hdead.waits
        obtain ⟨kd, hk, hparent, hnext⟩ := hdead.needs
        rw [hk] at hi
        injection hi with hi
        subst hi
        rcases turn_of_nextMutex hnext hturn with hacq | hnext'
        · rw [hacq] at htable
          rw [Locks.free_of_turn htable] at hheld
          cases hheld
        · exact ⟨⟨hd, calls, hh'.trans hh, hpc⟩,
            ⟨{ kd with pc := t.pc }, Locks.getElem?_turn_self htable hk,
              hparent, hnext'⟩, hheld'⟩
      · have hk' := Locks.getElem?_turn_of_ne htable hik
        exact hdead.transfer (fun _ => hh'.trans) (fun _ => hk'.trans) hheld'
  | @reply i id calls table hi hpc hdone htable =>
      have hih : i ≠ h := by
        intro heq
        subst heq
        rw [hdead.no_reply] at hdone
        cases hdone
      have hik : i ≠ k := by
        intro heq
        subst heq
        obtain ⟨kd, hk, _, hnext⟩ := hdead.needs
        rw [hk] at hi
        injection hi with hi
        subst hi
        exact (Handler.not_waiting_of_nextMutex hnext).1 calls hpc
      have hheld' := hown.holder_turn hi htable (honest_reply hpc) hheld hih
      have hh' := Locks.getElem?_turn_of_ne htable hih
      have hk' := Locks.getElem?_turn_of_ne htable hik
      exact hdead.transfer (fun _ => hh'.trans) (fun _ => hk'.trans) hheld'

theorem deadlock_forever {h k : Nat} {m : Mutex}
    {ls ls' : List (Label Uri Want)} {sys sys' : System Uri Want}
    {os os' : List Event} (hrun : (handlerMachine P).run {} ls = some (sys, os))
    (hdead : Deadlocked P h k m sys)
    (hrun' : (handlerMachine P).run sys ls' = some (sys', os')) :
    Deadlocked P h k m sys' := by
  have hown := run_owned hrun
  exact (Machine.run_keeps _ (keeps_deadlocked h k m) ls' ⟨hown, hdead⟩
    hrun').2

end Runs

/-! ## §4. An observer that calls back. -/

/-- User 100 adds an observer and copies something, and the observer is
called. -/
def observerCalledRun : List (Label String String) :=
  [.request (.addPasteboardChangedObserver callerOf100 (some 7)),
    .advance 0, .advance 0, .advance 0,
    .request (.setPasteData callerOf100 {}),
    .advance 1, .advance 1, .advance 1, .advance 1, .advance 1]

/-- An observer without a user id asks for the paste data in vain, and
replies. -/
theorem no_deadlock_sample :
    (handlerMachine samplePlatform).Always
      (fun sys => ∀ h k m, ¬ Deadlocked samplePlatform h k m sys) {}
      (observerCalledRun ++
        [.callbackRequest 1 (.getPasteData ⟨-1, ⟨none, 0⟩⟩ {}), .advance 2,
          .reply 1, .advance 1, .advance 1]) := by
  apply (no_deadlock_iff samplePlatform _ _ _ rfl).mpr
  decide

/-- **An observer of the caller's own user that asks for the paste data**
before it replies: it waits for `clipMutex_`, which is held until it replies. -/
theorem observer_deadlocks :
    ¬ ∀ (P : Platform) (ls : List (Label String String))
        (sys : System String String) (os : List Event),
      (handlerMachine P).run {} ls = some (sys, os) →
        ∀ h k m, ¬ Deadlocked P h k m sys := by
  intro hfree
  refine hfree samplePlatform (observerCalledRun ++
    [.callbackRequest 1 (.getPasteData callerOf100 {})]) _ _ rfl
    1 2 .clipMutex ?_
  exact ⟨⟨_, _, rfl, rfl⟩, ⟨_, rfl, rfl, rfl⟩, rfl⟩

end Pasteboard
