/-
  Pasteboard.Service.Solo
  ───────────────────────
  **HANDLERS THAT RUN ALONE** do what the atomic operations do.

    • `exec_of_firstMutex_none`, `…_clip`, `…_observer`: an operation of
      `Pasteboard.Service.State` is its prologue, its critical section and the
      calls of the observers, in this order.
    • `solo_run`: where nothing is going on, a request can be handled to its
      end, and leaves the service and makes the calls its operation does.
    • `run_of_serviceMachine`: so every run of the atomic service is a run of
      handlers, one after the other.
-/
import Pasteboard.Service.Handlers

namespace Pasteboard

open Lib

variable {Uri Want : Type}

/-! ## §1. The phases make up the operation. -/

variable [ToString Uri] {P : Platform} {s s' : PasteboardService Uri Want}
  {op : ServiceOp Uri Want}

/-- An operation that takes no mutex ends with its prologue. -/
theorem exec_of_firstMutex_none (h : op.firstMutex P = none) :
    op.exec P s = op.prologue P s := by
  cases op with
  | setPasteData c d =>
      -- no user id: `SetPasteData` returns behind `SetPasteDataDot`
      have hu : P.getUserId c.uid = ERROR_USERID := ServiceOp.ifUser_eq_none h
      show (s.setPasteData P c d).map _ = s.setPasteDataDot P c d
      unfold PasteboardService.setPasteData
      dsimp only
      simp only [hu, if_true, Option.map_map]
      exact congrFun Option.map_id _
  | getPasteData c d =>
      have hu : P.getUserId c.uid = ERROR_USERID := ServiceOp.ifUser_eq_none h
      show (s.getPasteData P c d).map _ = s.getPasteDataDot P c
      unfold PasteboardService.getPasteData
      dsimp only
      simp only [hu, if_true, Option.map_map]
      exact congrFun Option.map_id _
  | hasPasteData c =>
      show some (s.hasPasteData P c).step = some (s, [])
      -- `HasPasteData` only reads, with the mutex or without
      rw [PasteboardService.hasPasteData_service]
  | clear c =>
      have hu : P.getUserId c.uid = ERROR_USERID := ServiceOp.ifUser_eq_none h
      show some (s.clear P c).step = some (s, [])
      unfold PasteboardService.clear
      dsimp only
      rw [if_pos hu]
      rfl
  | addPasteboardChangedObserver c o =>
      cases o with
      | none => rfl
      | some o => cases h
  | removePasteboardChangedObserver c o =>
      cases o with
      | none => rfl
      | some o =>
          have hu : P.getUserId c.uid = ERROR_USERID :=
            ServiceOp.ifUser_eq_none h
          show some (s.removePasteboardChangedObserver P c (some o)).step = _
          unfold PasteboardService.removePasteboardChangedObserver
          dsimp only
          rw [if_pos hu]
          rfl
  | removeAllChangedObserver c =>
      have hu : P.getUserId c.uid = ERROR_USERID := ServiceOp.ifUser_eq_none h
      show some (s.removeAllChangedObserver P c).step = _
      unfold PasteboardService.removeAllChangedObserver
      dsimp only
      rw [if_pos hu]
      rfl

/-- **An operation on the clips**: its prologue, its critical section, and the
calls of the observers where the critical section makes them. -/
theorem exec_of_firstMutex_clip (h : op.firstMutex P = some .clipMutex) :
    op.exec P s = (op.prologue P s).map fun x =>
      ((op.underClip P x.1).1,
        x.2 ++ if (op.underClip P x.1).2 then
            (op.underClip P x.1).1.notifyObservers
          else []) := by
  cases op with
  | setPasteData c d =>
      have hu : P.getUserId c.uid ≠ ERROR_USERID := ServiceOp.ne_of_ifUser h
      show (s.setPasteData P c d).map _ = (s.setPasteDataDot P c d).map _
      unfold PasteboardService.setPasteData
      dsimp only
      rw [Option.map_map]
      congr 1
      funext x
      show Outcome.step (if _ then _ else _) = _
      rw [if_neg hu]
      rfl
  | getPasteData c d =>
      have hu : P.getUserId c.uid ≠ ERROR_USERID := ServiceOp.ne_of_ifUser h
      show (s.getPasteData P c d).map _ = (s.getPasteDataDot P c).map _
      unfold PasteboardService.getPasteData
      dsimp only
      rw [Option.map_map]
      congr 1
      funext x
      show Outcome.step (if _ then _ else _) = (x.1, x.2 ++ [])
      -- `GetPasteData` calls nobody
      rw [if_neg hu, List.append_nil]
      split <;> rfl
  | hasPasteData c =>
      show some (s.hasPasteData P c).step = some (s, [])
      rw [PasteboardService.hasPasteData_service]
  | clear c =>
      have hu : P.getUserId c.uid ≠ ERROR_USERID := ServiceOp.ne_of_ifUser h
      show some (s.clear P c).step = some ((ServiceOp.underClip P s _).1, _)
      unfold PasteboardService.clear ServiceOp.underClip
      dsimp only
      rw [if_neg hu]
      split <;> rfl
  | addPasteboardChangedObserver c o => cases o <;> cases h
  | removePasteboardChangedObserver c o =>
      cases o with
      | none => cases h
      | some o => cases ServiceOp.ifUser_eq_some h
  | removeAllChangedObserver c => cases ServiceOp.ifUser_eq_some h

/-- **An operation on the registries** is its critical section. -/
theorem exec_of_firstMutex_observer
    (h : op.firstMutex P = some .observerMutex) :
    op.prologue P s = some (s, [])
      ∧ op.exec P s = some (op.underObserver P s, []) := by
  cases op with
  | setPasteData c d => cases ServiceOp.ifUser_eq_some h
  | getPasteData c d => cases ServiceOp.ifUser_eq_some h
  | hasPasteData c => cases ServiceOp.ifUser_eq_some h
  | clear c => cases ServiceOp.ifUser_eq_some h
  | addPasteboardChangedObserver c o =>
      cases o with
      | none => cases h
      | some o =>
          have hspec := s.addPasteboardChangedObserver_spec P c o
          refine ⟨rfl, ?_⟩
          show some (_, Outcome.events _) = _
          rw [hspec.events]
          rfl
  | removePasteboardChangedObserver c o =>
      cases o with
      | none => cases h
      | some o =>
          have hspec := s.removePasteboardChangedObserver_spec P c o
          refine ⟨rfl, ?_⟩
          show some (_, Outcome.events _) = _
          rw [hspec.events]
          rfl
  | removeAllChangedObserver c =>
      have hspec := s.removeAllChangedObserver_spec P c
      refine ⟨rfl, ?_⟩
      show some (_, Outcome.events _) = _
      rw [hspec.events]
      rfl

omit [ToString Uri] in
theorem callsObservers_of_underClip (h : (op.underClip P s).2 = true) :
    op.callsObservers = true := by
  cases op with
  | setPasteData c d => rfl
  | clear c => rfl
  | _ => cases h

/-! ## §2. The turns of one handler. -/

/-- The system `sys` with one more handler, which holds `clipMutex_` if `c`
and `observerMutex_` if `o`; nobody else holds any. -/
def System.solo (sys : System Uri Want) (s : PasteboardService Uri Want)
    (hd : Handler Uri Want) (c o : Bool) : System Uri Want :=
  let n := sys.table.threads.length
  { service := s
    table :=
      { holder := fun
          | .clipMutex => if c then some n else none
          | .observerMutex => if o then some n else none
        threads := sys.table.threads ++ [hd] } }

/-- Nothing is going on. -/
structure System.Idle (sys : System Uri Want) : Prop where
  free : ∀ m, sys.table.holder m = none
  done : ∀ hd ∈ sys.table.threads, hd.pc = .done

variable {sys : System Uri Want} {hd : Handler Uri Want} {c o : Bool}

omit [ToString Uri] in
theorem solo_thread :
    (sys.solo s hd c o).table.threads[sys.table.threads.length]? = some hd :=
  List.getElem?_concat_length

omit [ToString Uri] in
/-- A turn of the last handler that takes only what it does not hold. -/
theorem solo_turn {hd' : Handler Uri Want} {acquire release : Option Mutex}
    (hc : acquire = some .clipMutex → c = false)
    (ho : acquire = some .observerMutex → o = false) :
    (sys.solo s hd c o).table.turn sys.table.threads.length hd' acquire release
      = some (sys.solo s hd'
          (acquire = some .clipMutex || (c && release ≠ some .clipMutex))
          (acquire = some .observerMutex
            || (o && release ≠ some .observerMutex))).table := by
  have hfree : (sys.solo s hd c o).table.blocked acquire = false := by
    cases acquire with
    | none => rfl
    | some m =>
        cases m with
        | clipMutex =>
            have hc' := hc rfl
            subst hc'
            rfl
        | observerMutex =>
            have ho' := ho rfl
            subst ho'
            rfl
  rw [Locks.turn_of_free hfree]
  have hthreads : (sys.solo s hd c o).table.threads.set
      sys.table.threads.length hd' = sys.table.threads ++ [hd'] := by
    show (sys.table.threads ++ [hd]).set _ _ = _
    -- the last handler is the one whose turn it is
    rw [List.set_append_right _ _ (Nat.le_refl _), Nat.sub_self]
    rfl
  rw [hthreads]
  unfold System.solo
  congr 2
  -- the holders, mutex by mutex
  funext m
  cases m <;> rcases acquire with _ | (_ | _) <;>
    rcases release with _ | (_ | _) <;> cases c <;> cases o <;> rfl

/-- **One turn of the last handler.** -/
theorem solo_advance (sys : System Uri Want) (hd : Handler Uri Want)
    (c o : Bool) (t : Turn Uri Want) (hturn : hd.turn P s = some t)
    (hc : t.acquire = some .clipMutex → c = false)
    (ho : t.acquire = some .observerMutex → o = false) :
    (handlerMachine P).Reaches (sys.solo s hd c o)
      (sys.solo t.service { hd with pc := t.pc }
        (t.acquire = some .clipMutex || (c && t.release ≠ some .clipMutex))
        (t.acquire = some .observerMutex
          || (o && t.release ≠ some .observerMutex))) t.outputs :=
  .of_step (fires_iff.mpr (.advance solo_thread hturn (solo_turn hc ho)))

/-- **The loop of `NotifyObservers`**: every observer is called, in order, and
both mutexes are released. -/
theorem solo_notify (hidle : sys.Idle) :
    ∀ calls : List Event, (handlerMachine P).Reaches
      (sys.solo s ⟨op, none, .notifying calls⟩ true true)
      (sys.solo s ⟨op, none, .done⟩ false false) calls
  | [] => by
      have hout := solo_advance (P := P) sys ⟨op, none, .notifying []⟩
        true true ⟨s, .leaving, none, some .observerMutex, []⟩ rfl nofun nofun
      have hleave := solo_advance (P := P) sys ⟨op, none, .leaving⟩
        true false ⟨s, .done, none, some .clipMutex, []⟩ rfl nofun nofun
      exact hout.trans hleave
  | e :: calls => by
      have hcall := solo_advance (P := P) sys
        ⟨op, none, .notifying (e :: calls)⟩ true true
        ⟨s, .waitReply calls, none, none, [e]⟩ rfl nofun nofun
      have hreply : (handlerMachine P).Reaches
          (sys.solo s ⟨op, none, .waitReply calls⟩ true true)
          (sys.solo s ⟨op, none, .notifying calls⟩ true true) [] := by
        refine .of_step (fires_iff.mpr
          (.reply solo_thread rfl ?_ (solo_turn nofun nofun)))
        -- nobody was called back: the handlers before it are done
        show (sys.table.threads ++ [_]).all _ = true
        rw [List.all_append, Bool.and_eq_true]
        refine ⟨List.all_eq_true.mpr ?_, rfl⟩
        intro k hk
        rw [hidle.done k hk]
        exact Bool.or_true _
      exact hcall.trans (hreply.trans (solo_notify hidle calls))

/-- The first turn. -/
theorem solo_start (sys : System Uri Want)
    {x : PasteboardService Uri Want × List Event} (hpro : op.prologue P s = some x) :
    (handlerMachine P).Reaches (sys.solo s ⟨op, none, .start⟩ false false)
      (sys.solo x.1 ⟨op, none, Pc.ofFirst (op.firstMutex P)⟩ false false)
      x.2 := by
  refine solo_advance sys _ false false
    ⟨x.1, Pc.ofFirst (op.firstMutex P), none, none, x.2⟩ ?_ nofun nofun
  show (op.prologue P s).map _ = _
  rw [hpro]
  rfl

/-- **An operation on the clips, from where it waits for `clipMutex_`.** -/
theorem solo_clip (hidle : sys.Idle) :
    (handlerMachine P).Reaches (sys.solo s ⟨op, none, .wantClip⟩ false false)
      (sys.solo (op.underClip P s).1 ⟨op, none, .done⟩ false false)
      (if (op.underClip P s).2 then (op.underClip P s).1.notifyObservers
        else []) := by
  have htake := solo_advance (P := P) sys ⟨op, none, .wantClip⟩ false false
    ⟨s, .inClip, some .clipMutex, none, []⟩ rfl (fun _ => rfl) nofun
  show Machine.Reaches _ _ _ ([] ++ _)
  refine htake.trans ?_
  have hin : (⟨op, none, .inClip⟩ : Handler Uri Want).turn P s
      = if (op.underClip P s).2 then
          some { service := (op.underClip P s).1, pc := .wantObserver }
        else some { service := (op.underClip P s).1, pc := .done,
                    release := some .clipMutex } := rfl
  -- either it is over, or the observers are called next
  cases hnotify : (op.underClip P s).2 with
  | false =>
      rw [hnotify] at hin
      exact solo_advance sys _ true false _ hin nofun nofun
  | true =>
      rw [hnotify] at hin
      have hwant := solo_advance sys _ true false _ hin nofun nofun
      -- alone, it gets `observerMutex_` at once
      have hcalls := callsObservers_of_underClip hnotify
      generalize (op.underClip P s).1 = s₁ at hwant ⊢
      have hturn : (⟨op, none, .wantObserver⟩ : Handler Uri Want).turn P s₁
          = some { service := s₁, pc := .notifying s₁.notifyObservers,
                   acquire := some .observerMutex } := by
        show (if op.callsObservers then _ else _) = _
        rw [hcalls]
        rfl
      have htake' := solo_advance sys _ true false _ hturn nofun
        (fun _ => rfl)
      exact hwant.trans (htake'.trans (solo_notify hidle s₁.notifyObservers))

/-- **An operation on the registries, from where it waits for
`observerMutex_`.** -/
theorem solo_observer (hcalls : op.callsObservers = false) :
    (handlerMachine P).Reaches
      (sys.solo s ⟨op, none, .wantObserver⟩ false false)
      (sys.solo (op.underObserver P s) ⟨op, none, .done⟩ false false) [] := by
  have hturn : (⟨op, none, .wantObserver⟩ : Handler Uri Want).turn P s
      = some { service := s, pc := .inObserver,
               acquire := some .observerMutex } := by
    show (if op.callsObservers then _ else _) = _
    rw [hcalls]
    rfl
  have htake := solo_advance sys _ false false _ hturn nofun (fun _ => rfl)
  have hdone := solo_advance (P := P) sys ⟨op, none, .inObserver⟩ false true
    ⟨op.underObserver P s, .done, none, some .observerMutex, []⟩ rfl nofun nofun
  exact htake.trans hdone

/-! ## §3. From the request to the end. -/

omit [ToString Uri] in
/-- A new request, where nothing is going on. -/
theorem solo_of_idle (hidle : sys.Idle) (op : ServiceOp Uri Want) :
    { sys with table := sys.table.spawn ⟨op, none, .start⟩ }
      = sys.solo sys.service ⟨op, none, .start⟩ false false := by
  unfold System.solo Locks.Table.spawn
  congr 2
  funext m
  rw [hidle.free m]
  cases m <;> rfl

omit [ToString Uri] in
theorem idle_of_solo (hidle : sys.Idle) (s : PasteboardService Uri Want)
    (op : ServiceOp Uri Want) :
    (sys.solo s ⟨op, none, .done⟩ false false).Idle where
  free m := by cases m <;> rfl
  done hd hhd := by
    rcases List.mem_append.mp hhd with hhd | hhd
    · exact hidle.done hd hhd
    · rw [List.mem_singleton] at hhd
      rw [hhd]

/-- **Alone, a handler does what its operation does.** -/
theorem solo_run (hidle : sys.Idle) {os : List Event}
    (hexec : op.exec P sys.service = some (s', os)) :
    (handlerMachine P).Reaches sys
      (sys.solo s' ⟨op, none, .done⟩ false false) os := by
  have hreq : (handlerMachine P).Reaches sys
      (sys.solo sys.service ⟨op, none, .start⟩ false false) [] := by
    rw [← solo_of_idle hidle]
    exact .of_step (fires_iff.mpr (.request op))
  show Machine.Reaches _ _ _ ([] ++ os)
  refine hreq.trans ?_
  -- the first turn is the prologue; what follows depends on the first mutex
  cases hfirst : op.firstMutex P with
  | none =>
      rw [exec_of_firstMutex_none hfirst] at hexec
      have hstart := solo_start sys hexec
      rw [hfirst] at hstart
      exact hstart
  | some m =>
      cases m with
      | clipMutex =>
          rw [exec_of_firstMutex_clip hfirst] at hexec
          obtain ⟨⟨s₁, os₁⟩, hpro, hexec⟩ := Option.map_eq_some_iff.mp hexec
          injection hexec with hs hos
          subst hs hos
          have hstart := solo_start sys hpro
          rw [hfirst] at hstart
          exact hstart.trans (solo_clip hidle)
      | observerMutex =>
          obtain ⟨hpro, hexec'⟩ :=
            exec_of_firstMutex_observer (s := sys.service) hfirst
          rw [hexec'] at hexec
          injection hexec with hexec
          injection hexec with hs hos
          subst hs hos
          have hstart := solo_start sys hpro
          rw [hfirst] at hstart
          exact hstart.trans (solo_observer (firstMutex_observer hfirst))

/-- **Every run of the service is a run of handlers**, one after the other. -/
theorem run_of_serviceMachine :
    ∀ (ops : List (ServiceOp Uri Want)) {sys : System Uri Want}
      {s' : PasteboardService Uri Want} {os : List Event}, sys.Idle →
      (serviceMachine P).run sys.service ops = some (s', os) →
      ∃ sys', (handlerMachine P).Reaches sys sys' os
        ∧ sys'.service = s' ∧ sys'.Idle
  | [], sys, s', os, hidle, hrun => by
      obtain ⟨hs, hos⟩ := (Machine.run_nil_iff _).mp hrun
      subst hs hos
      exact ⟨sys, ⟨[], rfl⟩, rfl, hidle⟩
  | op :: ops, sys, s', os, hidle, hrun => by
      obtain ⟨s₁, os₁, os₂, hexec, hrest, rfl⟩ :=
        (Machine.run_cons _).mp hrun
      obtain ⟨sys', hreach, hs', hidle'⟩ :=
        run_of_serviceMachine ops (idle_of_solo hidle s₁ op) hrest
      exact ⟨sys', (solo_run hidle hexec).trans hreach, hs', hidle'⟩

end Pasteboard
