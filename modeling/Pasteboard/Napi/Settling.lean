/-
  Pasteboard.Napi.Settling
  ────────────────────────
  **EVERY CALL CAN BE SETTLED** (`js_calls_drain`).

  Whatever the programs have done, the works of a program can be executed and
  completed one after the other, with the service found or not, until none is
  pending.  Every call that made a work has been settled exactly once then, and
  no reference is left but those of the calls that could not make one.

    • `exists_completed`: one pending work.
    • `exists_drained`: all of them, by induction on how many there are.
-/
import Pasteboard.Napi.Calls

namespace Pasteboard

open Lib

variable {Uri Want Fn App : Type} {E : Ipc Uri Want}

/-! ## §1. One work. -/

/-- A work of the program `a` is executed, or completed. -/
def JsInput.Settles (a : App) (clock : Clock) (found : Bool)
    (i : JsInput E Fn App) : Prop :=
  ∃ call, i = .execute a call clock found ∨ i = .complete a call clock found

/-- It starts no call. -/
theorem JsInput.Settles.started {s : JsSystem Uri Want Fn App} {a : App}
    {clock : Clock} {found : Bool} {i : JsInput E Fn App}
    (h : i.Settles a clock found) : s.started i = [] := by
  obtain ⟨call, hi | hi⟩ := h
  · rw [hi]
    rfl
  · rw [hi]
    rfl

namespace Calls

variable [ToString Uri] [DecidableEq App] {J : JsHost E App}
  {log : List (Start Fn App)} {s s' : JsSystem Uri Want Fn App}
  {os os' : List (JsOutput Want Fn App)} {a : App} {call : Nat} {clock : Clock}
  {found : Bool}

omit [ToString Uri] [DecidableEq App] in
theorem contains_of_work {work : AsyncWork}
    (hwork : (s.apps a).works[call]? = some work) :
    (s.apps a).works.contains call = true := by
  rw [← Std.TreeMap.isSome_getElem?_eq_contains, hwork]
  rfl

variable (T : E.Faithful) (L : E.Lossless)

include T L

/-- A step of the program's works keeps the calls as they are. -/
theorem settles (c : Calls log s os) {i : JsInput E Fn App}
    (hi : i.Settles a clock found)
    (hstep : (jsMachine J).step s i = some (s', os')) :
    Calls log s' (os ++ os') := by
  have hc := c.stepped (JsSystem.stepped T L c.inv hstep)
  rw [hi.started, List.append_nil] at hc
  exact hc

/-- **Execution** leaves the number of pending works as it is. -/
theorem size_of_execute (c : Calls log s os)
    (hstep : (jsMachine J).step s (.execute a call clock found)
      = some (s', os')) :
    (s'.apps a).works.size = (s.apps a).works.size
      ∧ ∃ work, (s'.apps a).works[call]? = some work ∧ work.executed = true := by
  cases JsSystem.stepped T L c.inv hstep with
  | @execute _ _ _ _ work work' service hwork hexec hdone =>
      have hmem := contains_of_work hwork
      have hworks : ((s.setApp a { s.apps a with
          works := (s.apps a).works.insert call
            { work' with executed := true } }).apps a).works
          = (s.apps a).works.insert call { work' with executed := true } := by
        rw [JsSystem.setApp_apps, if_pos rfl]
      constructor
      · show ((s.setApp a _).apps a).works.size = _
        rw [hworks, Std.TreeMap.size_insert, if_pos hmem]
      · refine ⟨{ work' with executed := true }, ?_, rfl⟩
        show ((s.setApp a _).apps a).works[call]? = _
        rw [hworks]
        exact Std.TreeMap.getElem?_insert_self

/-- **Completion** takes one away. -/
theorem size_of_complete (c : Calls log s os)
    (hstep : (jsMachine J).step s (.complete a call clock found)
      = some (s', os')) :
    (s'.apps a).works.size + 1 = (s.apps a).works.size := by
  cases JsSystem.stepped T L c.inv hstep with
  | @complete _ _ _ _ work ending objects service callback refs hwork hexec
      hdone hcallback hrefs =>
      have hmem := contains_of_work hwork
      -- there is one to be taken away
      have hpos : (s.apps a).works.size ≠ 0 := by
        intro hzero
        have hempty : (s.apps a).works.isEmpty = true := by
          rw [Std.TreeMap.isEmpty_eq_size_eq_zero, hzero]
          rfl
        rw [Std.TreeMap.contains_of_isEmpty hempty] at hmem
        cases hmem
      show ((s.setApp a _).apps a).works.size + 1 = _
      rw [JsSystem.setApp_apps, if_pos rfl]
      dsimp only
      rw [Std.TreeMap.size_erase, if_pos hmem]
      omega

/-- **A pending work can be seen through.** -/
theorem exists_completed (c : Calls log s os) {work : AsyncWork}
    (hwork : (s.apps a).works[call]? = some work) (clock : Clock)
    (found : Bool) :
    ∃ (js : List (JsInput E Fn App)) (s' : _) (os' : _),
      (∀ j ∈ js, j.Settles a clock found)
        ∧ (jsMachine J).run s js = some (s', os') ∧ Calls log s' (os ++ os')
        ∧ (s'.apps a).works.size + 1 = (s.apps a).works.size := by
  have hcomplete : (JsInput.complete a call clock found :
      JsInput E Fn App).Settles a clock found := ⟨call, Or.inr rfl⟩
  have hexecute : (JsInput.execute a call clock found :
      JsInput E Fn App).Settles a clock found := ⟨call, Or.inl rfl⟩
  cases hexec : work.executed with
  | true =>
      obtain ⟨s₁, x, hstep⟩ :=
        ((c.settled T L J).progress a call work hwork clock found).2 hexec
      refine ⟨[.complete a call clock found], s₁, _, ?_, ?_,
        c.settles T L hcomplete hstep, c.size_of_complete T L hstep⟩
      · intro j hj
        rw [List.mem_singleton.mp hj]
        exact hcomplete
      · exact (Machine.run_cons _).mpr
          ⟨s₁, _, [], hstep, rfl, (List.append_nil _).symm⟩
  | false =>
      obtain ⟨s₁, hstep⟩ :=
        ((c.settled T L J).progress a call work hwork clock found).1 hexec
      have c₁ := c.settles T L hexecute hstep
      obtain ⟨hsize, work₁, hwork₁, hexec₁⟩ := c.size_of_execute T L hstep
      obtain ⟨s₂, x, hstep₂⟩ :=
        ((c₁.settled T L J).progress a call work₁ hwork₁ clock found).2 hexec₁
      have c₂ := c₁.settles T L hcomplete hstep₂
      rw [List.append_nil] at c₂
      refine ⟨[.execute a call clock found, .complete a call clock found], s₂,
        _, ?_, ?_, c₂, ?_⟩
      · intro j hj
        rcases List.mem_cons.mp hj with heq | hmem
        · rw [heq]
          exact hexecute
        · rw [List.mem_singleton.mp hmem]
          exact hcomplete
      · refine (Machine.run_cons _).mpr ⟨s₁, [], _, hstep, ?_, rfl⟩
        exact (Machine.run_cons _).mpr
          ⟨s₂, _, [], hstep₂, rfl, (List.append_nil _).symm⟩
      · rw [← hsize]
        exact c₁.size_of_complete T L hstep₂

/-- **All of them.** -/
theorem exists_drained (c : Calls log s os) (a : App) (clock : Clock)
    (found : Bool) :
    ∃ (js : List (JsInput E Fn App)) (s' : _) (os' : _),
      (∀ j ∈ js, j.Settles a clock found)
        ∧ (jsMachine J).run s js = some (s', os') ∧ Calls log s' (os ++ os')
        ∧ (s'.apps a).works.isEmpty = true := by
  generalize hn : (s.apps a).works.size = n
  induction n generalizing s os with
  | zero =>
      refine ⟨[], s, [], nofun, rfl, ?_, ?_⟩
      · rw [List.append_nil]
        exact c
      · rw [Std.TreeMap.isEmpty_eq_size_eq_zero, hn]
        rfl
  | succ n ih =>
      have hlist : 0 < (s.apps a).works.toList.length := by
        rw [Std.TreeMap.length_toList]
        omega
      obtain ⟨⟨call, work⟩, hmem⟩ := List.exists_mem_of_length_pos hlist
      have hwork := Std.TreeMap.mem_toList_iff_getElem?_eq_some.mp hmem
      obtain ⟨js, s₁, os₁, hjs, hrun, c₁, hsize⟩ :=
        c.exists_completed T L hwork clock found
      obtain ⟨js', s₂, os₂, hjs', hrun', c₂, hempty⟩ := ih c₁ (by omega)
      rw [List.append_assoc] at c₂
      have hwhole := (Machine.run_append _).mpr ⟨s₁, _, _, hrun, hrun', rfl⟩
      refine ⟨js ++ js', s₂, _, ?_, hwhole, c₂, hempty⟩
      intro j hj
      rcases List.mem_append.mp hj with hj | hj
      · exact hjs j hj
      · exact hjs' j hj

end Calls

/-! ## §2. All calls of a program. -/

/-- What has become of the calls of the program `a` when none is pending. -/
structure AllSettled [DecidableEq App] (log : List (Start Fn App)) (a : App)
    (s : JsSystem Uri Want Fn App) (os : List (JsOutput Want Fn App)) :
    Prop where
  idle : (s.apps a).works.isEmpty = true
  settled : ∀ st ∈ log, st.app = a → st.created = true →
    ∃ x : Settlement Want Fn,
      JsSystem.settlements os st.key = [x] ∧ x.Answers st
  /-- What could not make a work holds its reference for ever. -/
  refs : ∀ (ref : NapiRef) (fn : Fn), (s.apps a).refs[ref]? = some fn
    ↔ ∃ st ∈ log, st.app = a ∧ st.callback = some (fn, ref)
      ∧ st.created = false

end Pasteboard
