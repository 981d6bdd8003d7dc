/-
  Pasteboard.Napi.EventLoop
  ─────────────────────────
  **THE EVENT LOOPS CATCH UP** (`event_loops_catch_up`).

  What is queued is called once the event loop of the program gets to it.  The
  event loops make nothing due, ask nothing of the service, and can always go
  on; so a program whose queue has run empty has been called exactly once for
  each change that was due, in whatever order the loops made the calls.

    • `length_work`: each call takes one work from its queue.
    • `due_append_works`: nothing gets due meanwhile.
-/
import Pasteboard.Napi.Delivery

namespace Pasteboard

open Lib

variable {Uri Want Fn App : Type} {E : Ipc Uri Want}

/-! ## §1. A call that is made. -/

/-- A step of an event loop. -/
def ObservingInput.IsWork : ObservingInput E Fn App → Prop
  | .work _ _ => True
  | _ => False

/-- One of the event loop of the program `a`. -/
def ObservingInput.worksFor [DecidableEq App] (a : App) :
    ObservingInput E Fn App → Bool
  | .work b _ => b == a
  | _ => false

theorem ObservingInput.op_of_isWork (J : JsHost E App)
    {i : ObservingInput E Fn App} (h : i.IsWork) : i.op J = none := by
  cases i with
  | work a index => rfl
  | _ => exact absurd h fun hno => hno

/-- **A call takes one work from the queue.** -/
theorem ObservingApp.length_work {app : ObservingApp Fn} {a : App} {index : Nat}
    {x : ObservingApp Fn × List (ObservingOutput Fn App)}
    (h : app.work a index = some x) :
    x.1.queue.length + 1 = app.queue.length := by
  obtain ⟨w, hw, h⟩ := Option.bind_eq_some_iff.mp h
  obtain ⟨callback, _, heq⟩ := Option.map_eq_some_iff.mp h
  have hqueue : x.1.queue = app.queue.eraseIdx index := by
    rw [← heq]
    dsimp only
    split
    · -- deleting the instance leaves the queue as it is
      unfold deletePasteboardObserverIns
      split <;> rfl
    · rfl
  have hlt := (List.getElem?_eq_some_iff.mp hw).1
  rw [hqueue, List.length_eraseIdx_of_lt hlt]
  omega

section Machine

variable [ToString Uri] [DecidableEq App] {J : JsHost E App}
  {s s' : ObservingSystem Uri Want Fn App}
  {is js : List (ObservingInput E Fn App)}
  {os os' : List (ObservingOutput Fn App)}

/-- One step of the event loop of `a`. -/
theorem ObservingSystem.length_step {a : App} {index : Nat}
    (h : (observingMachine J).step s (.work a index) = some (s', os')) :
    s'.service = s.service ∧ ∀ b, (s'.apps b).queue.length
      + (if a = b then 1 else 0) = (s.apps b).queue.length := by
  obtain ⟨y, hy, heq⟩ := Option.map_eq_some_iff.mp h
  obtain ⟨x, hx, hxy⟩ := Option.map_eq_some_iff.mp hy
  injection heq with hs' _
  subst hs' hxy
  refine ⟨rfl, ?_⟩
  intro b
  show (Function.update s.apps a x.1 b).queue.length + _ = _
  rw [Function.update_apply]
  by_cases hb : b = a
  · subst hb
    rw [if_pos rfl, if_pos rfl]
    exact ObservingApp.length_work hx
  · rw [if_neg hb, if_neg (Ne.symm hb), Nat.add_zero]

/-- **The event loops alone**: each of their steps takes one work. -/
theorem ObservingSystem.length_run (hworks : ∀ j ∈ js, j.IsWork)
    (hrun : (observingMachine J).run s js = some (s', os')) :
    s'.service = s.service ∧ ∀ b, (s'.apps b).queue.length
      + js.countP (·.worksFor b) = (s.apps b).queue.length := by
  induction js generalizing s os' with
  | nil =>
      obtain ⟨hs', _⟩ := (observingMachine J).run_nil_iff.mp hrun
      subst hs'
      exact ⟨rfl, fun _ => rfl⟩
  | cons j js ih =>
      obtain ⟨s₁, os₁, os₂, hstep, hrest, _⟩ := (Machine.run_cons _).mp hrun
      obtain ⟨hservice, hlength⟩ :=
        ih (fun j' hj' => hworks j' (List.mem_cons_of_mem j hj')) hrest
      cases j with
      | work a index =>
          obtain ⟨hservice₁, hlength₁⟩ := length_step hstep
          refine ⟨hservice.trans hservice₁, ?_⟩
          intro b
          rw [← hlength₁ b, ← hlength b, List.countP_cons, Nat.add_assoc]
          congr 2
          show (if (a == b) = true then 1 else 0) = _
          simp only [beq_iff_eq]
      | _ => exact absurd (hworks _ List.mem_cons_self) fun hno => hno

/-! ## §2. What is due meanwhile. -/

omit [ToString Uri] [DecidableEq App] in
/-- **The event loops make nothing due.** -/
theorem due_append_works (hworks : ∀ j ∈ js, j.IsWork) {n k : Nat} {u : Int}
    {found : Bool} : Due J (is ++ js) n u found k ↔ Due J is n u found k := by
  induction js using List.reverseRecOn with
  | nil => rw [List.append_nil]
  | append_singleton js j ih =>
      have hrest := ih fun j' hj' => hworks j' (List.mem_append_left _ hj')
      have hj := hworks j (List.mem_append_right _ (List.mem_singleton.mpr rfl))
      rw [← List.append_assoc, due_concat, hrest,
        ObservingInput.op_of_isWork J hj]
      simp

omit [ToString Uri] [DecidableEq App] in
theorem OnAt.append {n : Nat} {a : App} {callback : Fn} {ref : NapiRef}
    {o : RemoteObject} {found : Bool} (h : OnAt J is n a callback ref o found)
    (js : List (ObservingInput E Fn App)) :
    OnAt J (is ++ js) n a callback ref o found := by
  obtain ⟨type, clock, hi, htype⟩ := h
  refine ⟨type, clock, ?_, htype⟩
  rw [List.getElem?_append_left (List.getElem?_eq_some_iff.mp hi).1]
  exact hi

/-- What the steps of the event loops come to. -/
structure CatchesUp (J : JsHost E App) (is js : List (ObservingInput E Fn App))
    (s s' : ObservingSystem Uri Want Fn App)
    (os os' : List (ObservingOutput Fn App)) : Prop where
  /-- Each step takes one call from the queue of its program. -/
  shrinks : ∀ a, (s'.apps a).queue.length + js.countP (·.worksFor a)
    = (s.apps a).queue.length
  service : s'.service = s.service
  /-- A program with an empty queue has been called for whatever was due. -/
  once : ∀ a, (s'.apps a).queue = [] → ∀ n callback ref o found,
    OnAt J is n a callback ref o found → ∀ k,
      Due J is n (J.getUserId (J.uid a)) found k →
        (os ++ os').countP (·.callsAt a ref k) = 1
  /-- And for nothing else. -/
  quiet : ∀ a, (s'.apps a).queue = [] → ∀ n callback ref o found,
    OnAt J is n a callback ref o found → ∀ k,
      ¬ Due J is n (J.getUserId (J.uid a)) found k →
        (os ++ os').countP (·.callsAt a ref k) = 0

omit [ToString Uri] in
/-- Where nothing is queued, the calls are those that were made. -/
theorem ObservingSystem.calls_of_idle {a : App}
    (hidle : (s.apps a).queue = []) (ref : NapiRef) (k : Nat) :
    s.calls os a ref k = os.countP (·.callsAt a ref k) := by
  unfold ObservingSystem.calls
  rw [hidle, List.count_nil, Nat.add_zero]

/-- **The event loop of a program can empty its queue.** -/
theorem ObservingInv.exists_idle (h : ObservingInv J is s os) (a : App) :
    ∃ (js : List (ObservingInput E Fn App)) (s' : _) (os' : _),
      (∀ j ∈ js, j.worksFor a = true)
        ∧ (observingMachine J).run s js = some (s', os')
        ∧ (s'.apps a).queue = [] := by
  generalize hn : (s.apps a).queue.length = n
  induction n generalizing is s os with
  | zero => exact ⟨[], s, [], nofun, rfl, List.length_eq_zero_iff.mp hn⟩
  | succ n ih =>
      have hlt : 0 < (s.apps a).queue.length := by omega
      -- the first work that waits can be called
      obtain ⟨callback, _, heq⟩ := h.work_eq (List.getElem?_eq_getElem hlt)
      have hstep : (observingMachine J).step s (.work a 0)
          = (s.work a 0).map fun x =>
            ({ x.1 with moment := s.moment + 1 }, x.2) := rfl
      rw [heq] at hstep
      have hafter := h.work heq
      obtain ⟨_, hlength⟩ := ObservingSystem.length_step hstep
      have hself := hlength a
      rw [if_pos rfl] at hself
      obtain ⟨js, s', os', hjs, hrun, hidle⟩ := ih hafter (by omega)
      have hwhole := (Machine.run_cons _).mpr ⟨_, _, _, hstep, hrun, rfl⟩
      refine ⟨_, s', _, ?_, hwhole, hidle⟩
      intro j hj
      rcases List.mem_cons.mp hj with heq | hmem
      · rw [heq]
        exact beq_self_eq_true a
      · exact hjs j hmem

end Machine

/-- **THE EVENT LOOPS CATCH UP.**  Over a lossless FIFO transport, after any run
of any number of programs and requests of other processes, let the event loops
alone go on, in any order: each of their steps makes one queued call, and a
program whose queue is empty then has been called exactly once for each change
that was due when the loops were left alone, and for no other.  Each loop can
empty its queue. -/
theorem event_loops_catch_up [ToString Uri] [DecidableEq App] (T : E.Faithful)
    (L : E.Lossless) (J : JsHost E App) (hcast : ∀ o, J.ifaceCast o = some o)
    (is : List (ObservingInput E Fn App))
    (s : ObservingSystem Uri Want Fn App) (os : List (ObservingOutput Fn App))
    (hrun : (observingMachine J).run {} is = some (s, os)) :
    (∀ (js : List (ObservingInput E Fn App)) s' os', (∀ j ∈ js, j.IsWork) →
        (observingMachine J).run s js = some (s', os') →
          CatchesUp J is js s s' os os')
      ∧ ∀ a, ∃ (js : List (ObservingInput E Fn App)) (s' : _) (os' : _),
        (∀ j ∈ js, j.worksFor a = true)
          ∧ (observingMachine J).run s js = some (s', os')
          ∧ (s'.apps a).queue = [] := by
  refine ⟨?_, (observingInv_run T L hcast hrun).exists_idle⟩
  intro js s' os' hworks hloops
  have hwhole : (observingMachine J).run {} (is ++ js)
      = some (s', os ++ os') :=
    (Machine.run_append _).mpr ⟨s, os, os', hrun, hloops, rfl⟩
  have hinv := observingInv_run T L hcast hwhole
  obtain ⟨hservice, hlength⟩ := ObservingSystem.length_run hworks hloops
  constructor
  · exact hlength
  · exact hservice
  · intro a hidle n callback ref o found hon k hdue
    rw [← ObservingSystem.calls_of_idle hidle]
    exact (hinv.watched n a callback ref o found (hon.append js)).once k
      ((due_append_works hworks).mpr hdue)
  · intro a hidle n callback ref o found hon k hdue
    rw [← ObservingSystem.calls_of_idle hidle]
    exact (hinv.watched n a callback ref o found (hon.append js)).quiet k
      fun hyes => hdue ((due_append_works hworks).mp hyes)

/-- The two programs of `twoListeners`, before their event loops and after. -/
theorem event_loops_catch_up_two :
    ∃ s os s' os',
      (observingMachine sampleJs).run {} (twoListeners.take 3) = some (s, os)
        ∧ (observingMachine sampleJs).run s (twoListeners.drop 3)
          = some (s', os')
        ∧ CatchesUp sampleJs (twoListeners.take 3) (twoListeners.drop 3) s s' os
          os' := by
  obtain ⟨⟨s', os''⟩, hwhole⟩ := Option.isSome_iff_exists.mp
    (show ((observingMachine sampleJs).run {} (twoListeners.take 3
      ++ twoListeners.drop 3)).isSome = true by decide +kernel)
  obtain ⟨s, os, os', hrun, hloops, _⟩ := (Machine.run_append _).mp hwhole
  have hworks : ∀ j ∈ twoListeners.drop 3, j.IsWork := by
    simp [twoListeners, ObservingInput.IsWork]
  exact ⟨s, os, s', os', hrun, hloops,
    (event_loops_catch_up (listIpc_faithful String String)
      (listIpc_lossless String String) sampleJs (fun _ => rfl)
      (twoListeners.take 3) s os hrun).1 _ s' os' hworks hloops⟩

end Pasteboard
