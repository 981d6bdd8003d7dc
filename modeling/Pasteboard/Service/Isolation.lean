/-
  Pasteboard.Service.Isolation
  ────────────────────────────
  **WHOSE OPERATIONS CALL AN OBSERVER?**

  Registries and clips are kept per user, so what a user's operations do to
  them does not depend on other users: an unwinding relation in the sense of
  `Lib.Runs` (`unwinding`).  The calls are not kept per user:
  `notifyObservers` goes through all registries.  So the runs in which a user's
  observers hear of that user's operations only are those in which no other
  user stores or clears a clip while the user has an observer registered
  (`notifications_isolated_iff`).
-/
import Pasteboard.Service.Store

namespace Pasteboard

open Lib

variable {Uri Want : Type}

/-! ## §1. The observers of one user, and the calls of them. -/

namespace PasteboardService

/-- The observers registered for `u`, in the order they are called. -/
def registered (s : PasteboardService Uri Want) (u : Int) : List RemoteObject :=
  (s.observerMap[u]?.map (·.toList)).getD []

end PasteboardService

/-- The event is a call of an observer in the registry of `u`. -/
def Event.callsUser (u : Int) : Event → Bool
  | .onPasteboardChanged v _ => u == v
  | _ => false

theorem filter_callsUser_reports {u : Int} {os : List Event}
    (h : PasteboardService.Reports os) : os.filter (·.callsUser u) = [] := by
  rw [List.filter_eq_nil_iff]
  intro e he
  cases e with
  | onPasteboardChanged v o => exact absurd rfl (h _ he v o)
  | pasteboardBehaviour n name =>
      intro h
      cases h
  | timeConsuming n m =>
      intro h
      cases h

/-- **Of all calls, those of `u`'s observers** are one each, in order. -/
theorem filter_callsUser_notifyObservers (s : PasteboardService Uri Want)
    (u : Int) :
    s.notifyObservers.filter (·.callsUser u)
      = (s.registered u).map (.onPasteboardChanged u) := by
  have hentry : ∀ x : Int × Registry,
      (x.2.toList.map fun o => Event.onPasteboardChanged x.1 o).filter
          (·.callsUser u)
        = if x.1 = u then x.2.toList.map (Event.onPasteboardChanged u) else [] := by
    intro x
    by_cases hx : x.1 = u
    · rw [if_pos hx, hx, List.filter_eq_self]
      intro e he
      obtain ⟨o, _, ho⟩ := List.mem_map.mp he
      subst ho
      exact beq_self_eq_true u
    · rw [if_neg hx, List.filter_eq_nil_iff]
      intro e he
      obtain ⟨o, _, ho⟩ := List.mem_map.mp he
      subst ho
      intro hcalls
      exact hx (beq_iff_eq.mp hcalls).symm
  unfold PasteboardService.notifyObservers PasteboardService.registered
  -- of the entries of the map, only that of `u` is left
  rw [List.filter_flatMap]
  simp only [hentry]
  rw [OrderedMap.flatMap_toList_at_key s.observerMap
    (fun r => r.toList.map (Event.onPasteboardChanged u)) u]
  cases s.observerMap[u]? <;> rfl

/-- **The calls of `u`'s observers in one step.** -/
theorem ServiceOp.StepSpec.filter_calls [ToString Uri] {P : Platform}
    {op : ServiceOp Uri Want} {s s' : PasteboardService Uri Want}
    {os : List Event} (h : StepSpec P op s s' os) (u : Int) :
    os.filter (·.callsUser u)
      = if op.Notifies P s then (s.registered u).map (.onPasteboardChanged u)
        else [] := by
  obtain ⟨reports, hrep, hos⟩ := h.calls
  rw [hos, List.filter_append, filter_callsUser_reports hrep, List.nil_append]
  split
  · exact filter_callsUser_notifyObservers s u
  · rfl

/-! ## §2. What a user can see does not depend on others. -/

/-- The services look the same to the user `u`. -/
structure SameFor [ToString Uri] (u : Int)
    (s t : PasteboardService Uri Want) : Prop where
  clip : s.clips[u]? = t.clips[u]?
  registry : s.observerMap[u]? = t.observerMap[u]?
  measurable_left : s.Measurable
  measurable_right : t.Measurable

/-- Whether an operation by `u` calls the observers is seen from `u`'s clip. -/
theorem notifies_congr {P : Platform} {u : Int}
    {s t : PasteboardService Uri Want} (h : s.clips[u]? = t.clips[u]?)
    {op : ServiceOp Uri Want} (hop : op.userId P = u) :
    op.Notifies P s ↔ op.Notifies P t := by
  cases op with
  | clear c =>
      subst hop
      have hsame : s.clips.contains (P.getUserId c.uid)
          = t.clips.contains (P.getUserId c.uid) := by
        rw [Std.TreeMap.contains_eq_isSome_getElem?,
          Std.TreeMap.contains_eq_isSome_getElem?]
        exact congrArg Option.isSome h
      show (_ ∧ _ = true) ↔ (_ ∧ _ = true)
      rw [hsame]
  | _ => exact Iff.rfl

theorem registered_congr {u : Int} {s t : PasteboardService Uri Want}
    (h : s.observerMap[u]? = t.observerMap[u]?) :
    s.registered u = t.registered u := by
  unfold PasteboardService.registered
  rw [h]

/-- The operation is made by the user `u`. -/
def ServiceOp.byUser (P : Platform) (u : Int) (op : ServiceOp Uri Want) : Bool :=
  op.userId P == u

/-- **The unwinding relation of a user.** -/
theorem unwinding [ToString Uri] (P : Platform) (u : Int) :
    (serviceMachine P).Unwinding (ServiceOp.byUser P u) (Event.callsUser u)
      (SameFor u : PasteboardService Uri Want → PasteboardService Uri Want → Prop)
      where
  own_step {s t op s' os} hR hown hstep := by
    have hop : op.userId P = u := beq_iff_eq.mp hown
    have hspec := ServiceOp.exec_spec hstep
    -- the data have a size, so the other service can take the step too
    have hsome : (op.exec P t).isSome = true :=
      (ServiceOp.exec_isSome_iff hR.measurable_right op).mpr hspec.hasSize
    obtain ⟨⟨t', os'⟩, hstep'⟩ := Option.isSome_iff_exists.mp hsome
    have hspec' := ServiceOp.exec_spec hstep'
    refine ⟨t', os', hstep', ?_, ?_⟩
    · refine ⟨?_, ?_, ?_, ?_⟩
      · rw [hspec.clips u, hspec'.clips u]
        exact Register.assign_congr hR.clip op
      · rw [hspec.registry u, hspec'.registry u, hR.registry]
      · exact ServiceOp.keeps_measurable s op s' os hR.measurable_left hstep
      · exact ServiceOp.keeps_measurable t op t' os' hR.measurable_right hstep'
    · rw [hspec.filter_calls u, hspec'.filter_calls u,
        registered_congr hR.registry]
      simp only [notifies_congr hR.clip hop]
  other_step {s t op s' os} hR hother hstep := by
    have hop : op.userId P ≠ u := by
      intro h
      rw [ServiceOp.byUser, h, beq_self_eq_true] at hother
      cases hother
    have hspec := ServiceOp.exec_spec hstep
    refine ⟨?_, ?_, ?_, hR.measurable_right⟩
    · rw [step_frame hstep (Or.inl hop)]
      exact hR.clip
    · rw [hspec.registry u, if_neg fun h => hop h.2]
      exact hR.registry
    · exact ServiceOp.keeps_measurable s op s' os hR.measurable_left hstep

/-! ## §3. Isolation. -/

variable [ToString Uri]

/-- The observers of `u` hear of operations of `u` only, and of these only
where they store a clip, or clear one that is there. -/
def HearsOwnOnly (P : Platform) (u : Int) (s : PasteboardService Uri Want)
    (op : ServiceOp Uri Want) : Prop :=
  ∀ s' os, (serviceMachine P).step s op = some (s', os) →
    os.filter (·.callsUser u) ≠ [] → op.userId P = u ∧ op.Notifies P s

/-- No other user stores a clip, or clears one that is there, while `u` has an
observer registered. -/
def Undisturbed (P : Platform) (u : Int) (s : PasteboardService Uri Want)
    (op : ServiceOp Uri Want) : Prop :=
  op.userId P ≠ u → op.Notifies P s → s.registered u = []

instance (P : Platform) (u : Int) (s : PasteboardService Uri Want)
    (op : ServiceOp Uri Want) : Decidable (Undisturbed P u s op) :=
  inferInstanceAs (Decidable (_ → _ → _))

theorem hearsOwnOnly_iff {P : Platform} {u : Int}
    {s s' : PasteboardService Uri Want} {op : ServiceOp Uri Want}
    {os : List Event} (hstep : (serviceMachine P).step s op = some (s', os)) :
    HearsOwnOnly P u s op ↔ Undisturbed P u s op := by
  have hcalls := (ServiceOp.exec_spec hstep).filter_calls u
  constructor
  · intro h hop hn
    rw [if_pos hn] at hcalls
    -- an observer of `u` would hear of another user
    by_contra hreg
    refine hop (h s' os hstep ?_).1
    rw [hcalls]
    intro hnil
    exact hreg (List.map_eq_nil_iff.mp hnil)
  · intro h s₂ os₂ hstep₂ hne
    obtain ⟨_, hos⟩ := (serviceMachine P).step_det hstep hstep₂
    subst hos
    by_cases hn : op.Notifies P s
    · refine ⟨?_, hn⟩
      by_contra hop
      rw [if_pos hn, h hop hn] at hcalls
      exact hne hcalls
    · rw [if_neg hn] at hcalls
      exact absurd hcalls hne

theorem quiet_iff {P : Platform} {u : Int} {s s' : PasteboardService Uri Want}
    {op : ServiceOp Uri Want} {os : List Event}
    (hstep : (serviceMachine P).step s op = some (s', os)) :
    (serviceMachine P).Quiet (ServiceOp.byUser P u) (Event.callsUser u) s op
      ↔ Undisturbed P u s op := by
  have hcalls := (ServiceOp.exec_spec hstep).filter_calls u
  constructor
  · intro h hop hn
    have hother : ServiceOp.byUser P u op = false := beq_false_of_ne hop
    have hnil := h hother s' os hstep
    rw [if_pos hn] at hcalls
    exact List.map_eq_nil_iff.mp (hcalls.symm.trans hnil)
  · intro h hother s₂ os₂ hstep₂
    obtain ⟨_, hos⟩ := (serviceMachine P).step_det hstep hstep₂
    subst hos
    have hop : op.userId P ≠ u := by
      intro he
      rw [ServiceOp.byUser, he, beq_self_eq_true] at hother
      cases hother
    refine hcalls.trans ?_
    by_cases hn : op.Notifies P s
    · rw [if_pos hn, h hop hn]
      rfl
    · rw [if_neg hn]

/-- **ISOLATION.**  In a run, the observers of `u` hear of `u`'s own
operations only, if and only if no other user stores or clears a clip while
`u` has an observer registered; and exactly then they are called as in the run
without the operations of the others, which is possible too. -/
theorem notifications_isolated_iff (P : Platform) (u : Int)
    (ops : List (ServiceOp Uri Want)) (s : PasteboardService Uri Want)
    (os : List Event) (hrun : (serviceMachine P).run {} ops = some (s, os)) :
    ((serviceMachine P).AllSteps (HearsOwnOnly P u) {} ops
        ↔ (serviceMachine P).AllSteps (Undisturbed P u) {} ops)
      ∧ ∃ s' os', (serviceMachine P).run {} (ops.filter (·.byUser P u))
            = some (s', os')
        ∧ (os.filter (·.callsUser u) = os'.filter (·.callsUser u)
          ↔ (serviceMachine P).AllSteps (Undisturbed P u) {} ops) := by
  refine ⟨?_, ?_⟩
  · exact (serviceMachine P).allSteps_congr hrun
      fun s₁ op s₂ os₂ hstep => hearsOwnOnly_iff hstep
  · have hstart : SameFor u ({} : PasteboardService Uri Want) {} :=
      ⟨rfl, rfl, PasteboardService.measurable_empty,
        PasteboardService.measurable_empty⟩
    obtain ⟨s', os', hrun', _, _, hiff⟩ :=
      (serviceMachine P).run_purge (unwinding P u) ops hstart hrun
    refine ⟨s', os', hrun', hiff.trans ?_⟩
    exact (serviceMachine P).allSteps_congr hrun
      fun s₁ op s₂ os₂ hstep => quiet_iff hstep

/-! ## §4. Two users. -/

/-- User 100 registers an observer; then user 101 copies something. -/
def crossUserRun : List (ServiceOp String String) :=
  [.addPasteboardChangedObserver callerOf100 (some 7),
    .setPasteData callerOf101 {}]

/-- User 100 registers an observer after user 101 has copied something; it
copies and clears, and user 101 pastes, registers an observer and asks for
content meanwhile. -/
def besideRun : List (ServiceOp String String) :=
  [.setPasteData callerOf101 {},
    .addPasteboardChangedObserver callerOf100 (some 7),
    .getPasteData callerOf101 {},
    .addPasteboardChangedObserver callerOf101 (some 9),
    .setPasteData callerOf100 {},
    .hasPasteData callerOf101,
    .clear callerOf100]

/-- Its observer hears of the copy and of the clear, as it would alone. -/
theorem notifications_isolated_beside :
    ∃ s os, (serviceMachine samplePlatform).run {} besideRun = some (s, os)
      ∧ os.filter (·.callsUser 100)
        = [.onPasteboardChanged 100 7, .onPasteboardChanged 100 7]
      ∧ (serviceMachine samplePlatform).AllSteps
          (HearsOwnOnly samplePlatform 100) {} besideRun
      ∧ ∃ s' os', (serviceMachine samplePlatform).run {}
            (besideRun.filter (·.byUser samplePlatform 100)) = some (s', os')
        ∧ os.filter (·.callsUser 100) = os'.filter (·.callsUser 100) := by
  have hcalls : ((serviceMachine samplePlatform).run {} besideRun).map
      (fun x => x.2.filter (·.callsUser 100))
        = some [.onPasteboardChanged 100 7, .onPasteboardChanged 100 7] := by
    decide +kernel
  obtain ⟨⟨s, os⟩, hrun, hos⟩ := Option.map_eq_some_iff.mp hcalls
  obtain ⟨hears, s', os', hrun', hsame⟩ :=
    notifications_isolated_iff samplePlatform 100 besideRun s os hrun
  have hall : (serviceMachine samplePlatform).AllSteps
      (Undisturbed samplePlatform 100) {} besideRun := by decide +kernel
  exact ⟨s, os, hrun, hos, hears.mpr hall, s', os', hrun', hsame.mpr hall⟩

/-- **The observer of user 100 is called by the copy of user 101**, which it
would not hear of without the operations of user 101. -/
theorem notifications_not_isolated :
    ¬ ∀ (P : Platform) (u : Int) (ops : List (ServiceOp String String))
        (s : PasteboardService String String) (os : List Event),
      (serviceMachine P).run {} ops = some (s, os) →
        (serviceMachine P).AllSteps (HearsOwnOnly P u) {} ops
          ∧ ∀ s' os', (serviceMachine P).run {} (ops.filter (·.byUser P u))
              = some (s', os') →
            os.filter (·.callsUser u) = os'.filter (·.callsUser u) := by
  intro h
  obtain ⟨_, hsame⟩ := h samplePlatform 100 crossUserRun _ _ rfl
  have heq := hsame _ _ rfl
  revert heq
  decide

end Pasteboard
