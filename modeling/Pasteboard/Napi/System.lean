/-
  Pasteboard.Napi.System
  ──────────────────────
  **WHAT A STEP OF THE PROGRAMS DOES.**

  A program works on its own instances, references and works; the service is
  reached by the works only, and by other processes.

    • `Stepped` says once what a step of the system does, the requests over a
      lossless FIFO transport.
    • `Inv` is what every run keeps, and what lets every pending work be
      executed and completed.
-/
import Pasteboard.Napi.Works

namespace Pasteboard

open Lib

variable {Uri Want Fn App : Type}

/-! ## §1. A request of the client. -/

theorem Performed.refl {s : PasteboardService Uri Want} (hs : s.AllDecoded) :
    Performed none s s :=
  ⟨hs, (Register.assign_none rfl).symm⟩

/-- Whether the service is found or not. -/
theorem exists_request_client {α : Type} (found : Bool) (missing : α)
    {call : PasteboardService Uri Want → Option (Outcome Uri Want α)}
    {copy : Option (Copy Uri Want)} {s : PasteboardService Uri Want}
    (hs : s.AllDecoded)
    (h : ∃ o, call s = some o ∧ Performed copy s o.service) :
    ∃ o, PasteboardClient.request found missing call s = some o
      ∧ Performed (if found then copy else none) s o.service
      ∧ (found = true → call s = some o)
      ∧ (found = false → o.value = missing) := by
  cases found with
  | true =>
      obtain ⟨o, ho, hdone⟩ := h
      exact ⟨o, ho, hdone, fun _ => ho, nofun⟩
  | false => exact ⟨⟨missing, s, []⟩, rfl, .refl hs, nofun, fun _ => rfl⟩

/-! ## §2. A work on a worker thread, and on the thread of JavaScript. -/

/-- The methods that have a status of failure. -/
def AsyncMethod.CanFail : AsyncMethod → Prop
  | .hasPasteData => True
  | .convertToText _ => True
  | _ => False

/-- How many arguments a callback gets. -/
def AsyncMethod.argumentCount : AsyncMethod → Nat
  | .convertToText _ => CALLBACK_RESULT_NUM
  | _ => 1

namespace AsyncWork

/-- The instance the method is about is there. -/
def Holds (objects : JsObjects Uri Want) (work : AsyncWork) : Prop :=
  match work.method with
  | .setPasteData obj => obj < objects.pasteDatas.length
  | .convertToText record => record < objects.records.length
  | _ => True

/-- The work after its execution: `held` tells whether the program's clipboard
holds anything, `text` is the text of a record. -/
def outcome (found held : Bool) (text : Nat → Option String)
    (work : AsyncWork) : AsyncWork :=
  match work.method with
  | .clear => { work with status := 0 }
  | .hasPasteData =>
      { work with status := if found && held then 0 else -1 }
  | .getPasteData => work
  | .setPasteData _ => { work with status := 0 }
  | .convertToText record =>
      match text record with
      | none => { work with status := -1 }
      | some text => { work with status := 0, text := text }

/-- What the completion of a work delivers; `obj` is the number of a new
instance. -/
def ending (obj : Nat) (work : AsyncWork) : Ending Want :=
  match work.method with
  | .clear => .ofResult work.status .undefined
  | .hasPasteData =>
      .ofResult work.status (.boolean (decide (work.status = 0)))
  | .getPasteData => .ofResult 0 (.pasteData obj)
  | .setPasteData _ => .ofResult work.status .undefined
  | .convertToText _ => .ofText work.status work.text

/-- What the execution of a work puts into a clipboard. -/
def copy (P : Platform) (c : Caller) (found : Bool)
    (objects : JsObjects Uri Want) (work : AsyncWork) :
    Option (Copy Uri Want) :=
  if found then
    match work.method with
    | .clear => PasteboardServiceProxy.copyOf P c none
    | .setPasteData obj =>
        objects.pasteDatas[obj]?.bind fun d =>
          PasteboardServiceProxy.copyOf P c (some d.copied)
    | _ => none
  else none

section Outcome

variable (found held : Bool) (text : Nat → Option String) (work : AsyncWork)

theorem outcome_method : (work.outcome found held text).method = work.method := by
  unfold outcome
  split
  any_goals rfl
  split <;> rfl

theorem outcome_callbackRef :
    (work.outcome found held text).callbackRef = work.callbackRef := by
  unfold outcome
  split
  any_goals rfl
  split <;> rfl

/-- A method that cannot fail keeps the status, or sets it to 0. -/
theorem outcome_status : work.method.CanFail
    ∨ (work.outcome found held text).status = 0
    ∨ (work.outcome found held text).status = work.status := by
  obtain ⟨method, callbackRef, executed, status, t⟩ := work
  cases method with
  | clear => exact Or.inr (Or.inl rfl)
  | hasPasteData => exact Or.inl trivial
  | getPasteData => exact Or.inr (Or.inr rfl)
  | setPasteData obj => exact Or.inr (Or.inl rfl)
  | convertToText record => exact Or.inl trivial

theorem outcome_hasPasteData (h : work.method = .hasPasteData) :
    (work.outcome found held text).status = 0 ↔ found = true ∧ held = true := by
  unfold outcome
  rw [h]
  show (if (found && held) = true then (0 : Int) else -1) = 0 ↔ _
  rw [← Bool.and_eq_true]
  split
  · next h => exact iff_of_true rfl h
  · next h => exact iff_of_false (by decide) h

end Outcome

/-- The status delivered is the work's, or 0. -/
theorem ending_status (obj : Nat) (work : AsyncWork) :
    (work.ending obj : Ending Want).status = 0
      ∨ (work.ending obj : Ending Want).status = work.status := by
  obtain ⟨method, callbackRef, executed, status, text⟩ := work
  cases method with
  | getPasteData => exact Or.inl rfl
  | _ => exact Or.inr rfl

theorem length_ending_args (obj : Nat) (work : AsyncWork) :
    (work.ending obj : Ending Want).args.length = work.method.argumentCount := by
  obtain ⟨method, callbackRef, executed, status, text⟩ := work
  cases method <;> rfl

end AsyncWork

/-- The text of a record, `none` for a null pointer. -/
def JsObjects.text [ToString Uri] (objects : JsObjects Uri Want)
    (record : Nat) : Option String :=
  objects.records[record]?.join.map (·.convertToText)

namespace AsyncWork

variable {E : Ipc Uri Want} [ToString Uri] (H : Host E)

/-- **What the execution of a work does.** -/
structure Executed (c : Caller) (found : Bool) (objects : JsObjects Uri Want)
    (service service' : PasteboardService Uri Want) (work work' : AsyncWork) :
    Prop where
  outcome : work' = work.outcome found
    (service.clipboard H.toPlatform c).isSome objects.text
  performed :
    Performed (work.copy H.toPlatform c found objects) service service'

theorem exists_execute (T : E.Faithful) (L : E.Lossless) (c : Caller)
    (found : Bool) {objects : JsObjects Uri Want} (hobjects : objects.Sound)
    {service : PasteboardService Uri Want} (hs : service.AllDecoded)
    {work : AsyncWork} (hwork : work.Holds objects) :
    ∃ work' service',
      work.execute H c found objects service = some (work', service')
        ∧ Executed H c found objects service service' work work' := by
  -- the methods that make no request
  have hquiet : Performed (if found then none else none) service service := by
    rw [ite_self]
    exact .refl hs
  obtain ⟨method, callbackRef, executed, status, text⟩ := work
  cases method with
  | clear =>
      obtain ⟨o, ho, hdone, _⟩ := exists_request_client found () hs
        (PasteboardServiceProxy.performed_clear H T L c hs)
      refine ⟨⟨.clear, callbackRef, executed, 0, text⟩, o.service, ?_, rfl,
        hdone⟩
      show (PasteboardClient.request found () _ service).map _ = _
      rw [ho]
      rfl
  | hasPasteData =>
      obtain ⟨found', hfound, hdone', hvalue⟩ :=
        PasteboardServiceProxy.performed_hasPasteData H T L c hs
      obtain ⟨o, ho, hdone, hcall, hmissing⟩ :=
        exists_request_client found false hs ⟨found', hfound, hdone'⟩
      refine ⟨⟨.hasPasteData, callbackRef, executed,
        if o.value then 0 else -1, text⟩, o.service, ?_, ?_, hdone⟩
      · show (PasteboardClient.request found false _ service).map _ = _
        rw [ho]
        rfl
      · have hgot : o.value
            = (found && (service.clipboard H.toPlatform c).isSome) := by
          cases found with
          | true =>
              have heq := hcall rfl
              rw [hfound] at heq
              injection heq with heq
              rw [← heq, hvalue]
              rfl
          | false => exact hmissing rfl
        rw [hgot]
        rfl
  | getPasteData =>
      exact ⟨⟨.getPasteData, callbackRef, executed, status, text⟩, service,
        rfl, rfl, hquiet⟩
  | setPasteData obj =>
      have hlt : obj < objects.pasteDatas.length := hwork
      have hd := List.getElem?_eq_getElem hlt
      have hloaded := (hobjects.pasteDatas _ (List.getElem_mem hlt)).loaded
      obtain ⟨o, ho, hdone, _⟩ := exists_request_client found () hs
        (PasteboardServiceProxy.performed_setPasteData H T L c hs hloaded)
      refine ⟨⟨.setPasteData obj, callbackRef, executed, 0, text⟩, o.service,
        ?_, rfl, ?_⟩
      · show objects.pasteDatas[obj]?.bind _ = _
        rw [hd]
        show (PasteboardClient.request found () _ service).map _ = _
        rw [ho]
        rfl
      · show Performed (if found then objects.pasteDatas[obj]?.bind _ else none)
          service o.service
        rw [hd]
        exact hdone
  | convertToText record =>
      have hlt : record < objects.records.length := hwork
      have hr := List.getElem?_eq_getElem hlt
      refine ⟨_, service, ?_, rfl, hquiet⟩
      show objects.records[record]?.map _ = _
      unfold AsyncWork.outcome JsObjects.text
      dsimp only
      rw [hr]
      cases objects.records[record] <;> rfl

/-- **What the completion of a work does**, up to the delivery. -/
structure Completed (c : Caller) (found : Bool)
    (objects objects' : JsObjects Uri Want)
    (service service' : PasteboardService Uri Want) (work : AsyncWork)
    (ending : Ending Want) : Prop where
  ending : ending = work.ending objects.pasteDatas.length
  performed : Performed none service service'
  /-- A new instance holds what the clipboard holds. -/
  getPasteData : work.method = .getPasteData → ∃ d,
    objects' = (objects.newPasteData d).1
      ∧ d.Pasted
        (if found then (service.clipboard H.toPlatform c).getD [] else [])
  other : work.method ≠ .getPasteData → objects' = objects

theorem exists_complete (T : E.Faithful) (L : E.Lossless) (c : Caller)
    (found : Bool) (objects : JsObjects Uri Want)
    {service : PasteboardService Uri Want} (hs : service.AllDecoded)
    (work : AsyncWork) :
    ∃ ending objects' service',
      work.complete H c found objects service
          = some (ending, objects', service')
        ∧ Completed H c found objects objects' service service' work
            ending := by
  obtain ⟨method, callbackRef, executed, status, text⟩ := work
  cases method with
  | getPasteData =>
      obtain ⟨pasted, hpasted, hdone', hpastes⟩ :=
        PasteboardServiceProxy.performed_getPasteData H T L c hs {}
      obtain ⟨o, ho, hdone, hcall, hmissing⟩ :=
        exists_request_client found (false, ({} : PasteData Uri Want)) hs
          ⟨pasted, hpasted, hdone'⟩
      rw [ite_self] at hdone
      -- what the client has filled in
      have hgot : o.value.2.Pasted
          (if found then (service.clipboard H.toPlatform c).getD []
            else []) := by
        cases found with
        | false =>
            rw [hmissing rfl]
            exact PasteData.pasted_empty
        | true =>
            have heq := hcall rfl
            rw [hpasted] at heq
            injection heq with heq
            rw [← heq]
            cases hheld : service.clipboard H.toPlatform c with
            | none =>
                rw [hpastes.none hheld]
                exact PasteData.pasted_empty
            | some pls => exact (hpastes.some pls hheld).2
      refine ⟨.ofResult 0 (.pasteData objects.pasteDatas.length),
        (objects.newPasteData o.value.2).1, o.service, ?_, rfl, hdone,
        fun _ => ⟨_, rfl, hgot⟩, fun hne => absurd rfl hne⟩
      show (PasteboardClient.request found
        (false, ({} : PasteData Uri Want)) _ service).map _ = _
      rw [ho]
      rfl
  | _ =>
      exact ⟨_, objects, service, rfl, rfl, .refl hs, nofun, fun _ => rfl⟩

omit [ToString Uri] in
/-- A completion makes an instance at most. -/
theorem Completed.change {c : Caller} {found : Bool}
    {objects objects' : JsObjects Uri Want}
    {service service' : PasteboardService Uri Want} {work : AsyncWork}
    {ending : Ending Want}
    (h : Completed H c found objects objects' service service' work ending)
    (N : Napi) (uri : String → Uri) :
    objects.Change N uri (fun _ => False) objects' := by
  by_cases hmethod : work.method = .getPasteData
  · obtain ⟨d, hobjects, hd⟩ := h.getPasteData hmethod
    obtain ⟨hwf, hof⟩ := hd.wellFormed_ofPayloads
    rw [hobjects]
    exact .newPasteData hwf hof
  · rw [h.other hmethod]
    exact .refl

omit [ToString Uri] in
theorem Holds.mono {objects objects' : JsObjects Uri Want} {work : AsyncWork}
    (h : work.Holds objects)
    (hle : objects.pasteDatas.length ≤ objects'.pasteDatas.length
      ∧ objects.records.length ≤ objects'.records.length) :
    work.Holds objects' := by
  obtain ⟨method, callbackRef, executed, status, text⟩ := work
  cases method with
  | setPasteData obj => exact Nat.lt_of_lt_of_le h hle.1
  | convertToText record => exact Nat.lt_of_lt_of_le h hle.2
  | _ => trivial

omit [ToString Uri] in
theorem Holds.congr {objects : JsObjects Uri Want} {work work' : AsyncWork}
    (h : work.Holds objects) (hmethod : work'.method = work.method) :
    work'.Holds objects := by
  unfold Holds
  rw [hmethod]
  exact h

end AsyncWork

/-! ## §3. What holds of every program. -/

namespace JsApp

/-- The reference of a completed work is deleted. -/
def deleteReference (refs : References Fn) (ref : Option NapiRef) :
    References Fn :=
  ref.elim refs refs.erase

/-- The objects are sound, and a pending work finds its instance. -/
structure Inv (app : JsApp Uri Want Fn) : Prop where
  objects : app.objects.Sound
  holds : ∀ (call : Nat) (work : AsyncWork), app.works[call]? = some work →
    work.Holds app.objects

variable {app : JsApp Uri Want Fn}

theorem getElem?_works_empty (call : Nat) :
    ({} : JsApp Uri Want Fn).works[call]? = none :=
  Std.TreeMap.getElem?_emptyc

theorem inv_empty : ({} : JsApp Uri Want Fn).Inv where
  objects := JsObjects.sound_empty
  holds call work hwork := by
    rw [getElem?_works_empty] at hwork
    cases hwork

/-- New objects, and updates of those there are. -/
theorem Inv.change (h : app.Inv) {N : Napi} {uri : String → Uri}
    {damaged : Nat → Prop} {objects : JsObjects Uri Want}
    (hchange : app.objects.Change N uri damaged objects) :
    { app with objects := objects }.Inv where
  objects := h.objects.change hchange
  holds call work hwork := (h.holds call work hwork).mono hchange.length_le

/-- Another work, or another state of one. -/
theorem Inv.insert (h : app.Inv) (call : Nat) {work : AsyncWork}
    (hwork : work.Holds app.objects) :
    { app with works := app.works.insert call work }.Inv where
  objects := h.objects
  holds call' work' hwork' := by
    change (app.works.insert call work)[call']? = some work' at hwork'
    rw [OrderedMap.getElem?_insert_eq] at hwork'
    split at hwork'
    · injection hwork' with hwork'
      rw [← hwork']
      exact hwork
    · exact h.holds call' work' hwork'

theorem Inv.erase (h : app.Inv) (call : Nat) (refs : References Fn) :
    { app with refs := refs, works := app.works.erase call }.Inv where
  objects := h.objects
  holds call' work' hwork' := by
    change (app.works.erase call)[call']? = some work' at hwork'
    rw [OrderedMap.getElem?_erase_eq] at hwork'
    split at hwork'
    · cases hwork'
    · exact h.holds call' work' hwork'

/-- **What a call starts**, if its instance can be unwrapped. -/
theorem start_cases {method : AsyncMethod} {callback : Option (Fn × NapiRef)}
    {created : Bool} {app' : JsApp Uri Want Fn} {result : JsResult Want}
    (h : app.start method callback created = some (app', result)) :
    ((app.missing method).isSome = true ∧ app' = app)
      ∨ ∃ refs, app.missing method = none
        ∧ createReference app.refs callback = some refs
        ∧ app' = { app with
            refs := refs
            works := if created then app.works.insert app.calls
                { method := method, callbackRef := callback.map (·.2) }
              else app.works
            calls := app.calls + 1 } := by
  unfold start at h
  cases hm : app.missing method with
  | some result' =>
      rw [hm] at h
      injection h with h
      injection h with h _
      exact Or.inl ⟨rfl, h.symm⟩
  | none =>
      rw [hm] at h
      obtain ⟨refs, hrefs, h⟩ := Option.map_eq_some_iff.mp h
      injection h with h _
      exact Or.inr ⟨refs, rfl, hrefs, h.symm⟩

/-- A call leaves the instances as they are. -/
theorem start_objects {method : AsyncMethod} {callback : Option (Fn × NapiRef)}
    {created : Bool} {app' : JsApp Uri Want Fn} {result : JsResult Want}
    (h : app.start method callback created = some (app', result)) :
    app'.objects = app.objects := by
  rcases start_cases h with ⟨_, heq⟩ | ⟨refs, _, _, heq⟩
  · rw [heq]
  · rw [heq]

/-- A new work finds its instance. -/
theorem holds_of_missing {method : AsyncMethod}
    (h : app.missing method = none) (ref : Option NapiRef) :
    AsyncWork.Holds app.objects { method := method, callbackRef := ref } := by
  cases method with
  | setPasteData obj =>
      by_cases hlt : obj < app.objects.pasteDatas.length
      · exact hlt
      · rw [missing, if_neg hlt] at h
        cases h
  | convertToText record =>
      by_cases hlt : record < app.objects.records.length
      · exact hlt
      · rw [missing, if_neg hlt] at h
        cases h
  | _ => trivial

theorem Inv.start (h : app.Inv) {method : AsyncMethod}
    {callback : Option (Fn × NapiRef)} {created : Bool}
    {app' : JsApp Uri Want Fn} {result : JsResult Want}
    (hstart : app.start method callback created = some (app', result)) :
    app'.Inv := by
  rcases start_cases hstart with ⟨_, heq⟩ | ⟨refs, hm, hrefs, heq⟩
  · rw [heq]
    exact h
  · rw [heq]
    cases created with
    | false => exact ⟨h.objects, h.holds⟩
    | true =>
        have hinsert := h.insert app.calls
          (holds_of_missing hm (callback.map (·.2)))
        exact ⟨hinsert.objects, hinsert.holds⟩

end JsApp

/-! ## §4. What a step of the system does. -/

namespace JsSystem

/-- The service lives on, and every program is as it should be. -/
structure Inv (s : JsSystem Uri Want Fn App) : Prop where
  service : s.service.AllDecoded
  apps : ∀ a, (s.apps a).Inv

theorem inv_empty : ({} : JsSystem Uri Want Fn App).Inv where
  service := PasteboardService.allDecoded_empty
  apps _ := JsApp.inv_empty

variable [DecidableEq App]

@[simp] theorem setApp_service (a : App) (app : JsApp Uri Want Fn)
    (s : JsSystem Uri Want Fn App) : (s.setApp a app).service = s.service := rfl

theorem setApp_apps (a : App) (app : JsApp Uri Want Fn)
    (s : JsSystem Uri Want Fn App) (a' : App) :
    (s.setApp a app).apps a' = if a' = a then app else s.apps a' := by
  show Function.update s.apps a app a' = _
  rw [Function.update_apply]

/-- What a program keeps, all programs keep. -/
theorem setApp_congr {α : Type} (f : JsApp Uri Want Fn → α)
    {s : JsSystem Uri Want Fn App} {a : App} {app : JsApp Uri Want Fn}
    (h : f app = f (s.apps a)) (a' : App) :
    f ((s.setApp a app).apps a') = f (s.apps a') := by
  rw [setApp_apps]
  split
  · next heq => rw [heq, h]
  · rfl

theorem Inv.setApp {s : JsSystem Uri Want Fn App} (h : s.Inv) {a : App}
    {app : JsApp Uri Want Fn} (happ : app.Inv)
    {service : PasteboardService Uri Want} (hservice : service.AllDecoded) :
    { s.setApp a app with service := service }.Inv where
  service := hservice
  apps a' := by
    show ((s.setApp a app).apps a').Inv
    rw [setApp_apps]
    split
    · exact happ
    · exact h.apps a'

variable {E : Ipc Uri Want} [ToString Uri] (J : JsHost E App)

/-- **One step**, over a lossless FIFO transport. -/
inductive Stepped (s : JsSystem Uri Want Fn App) :
    JsInput E Fn App → JsSystem Uri Want Fn App →
      List (JsOutput Want Fn App) → Prop where
  | op {a : App} {op : JsOp Want} {objects : JsObjects Uri Want}
      {result : JsResult Want}
      (hchange : (s.apps a).objects.Change J.napi J.uri
        (fun obj => (s.apps a).objects.Damages J.napi J.uri obj op) objects) :
      Stepped s (.op a op) (s.setApp a { s.apps a with objects := objects })
        [.returned a result]
  | start {a : App} {method : AsyncMethod} {callback : Option (Fn × NapiRef)}
      {created : Bool} {app : JsApp Uri Want Fn} {result : JsResult Want}
      (hstart : (s.apps a).start method callback created = some (app, result)) :
      Stepped s (.start a method callback created) (s.setApp a app)
        [.returned a result]
  | execute {a : App} {call : Nat} {clock : Clock} {found : Bool}
      {work work' : AsyncWork} {service : PasteboardService Uri Want}
      (hwork : (s.apps a).works[call]? = some work)
      (hexec : work.executed = false)
      (hdone : AsyncWork.Executed J.toHost (caller J a clock) found
        (s.apps a).objects s.service service work work') :
      Stepped s (.execute a call clock found)
        { s.setApp a { s.apps a with
            works := (s.apps a).works.insert call
              { work' with executed := true } } with service := service } []
  | complete {a : App} {call : Nat} {clock : Clock} {found : Bool}
      {work : AsyncWork} {ending : Ending Want} {objects : JsObjects Uri Want}
      {service : PasteboardService Uri Want} {callback : Option Fn}
      {refs : References Fn}
      (hwork : (s.apps a).works[call]? = some work)
      (hexec : work.executed = true)
      (hdone : AsyncWork.Completed J.toHost (caller J a clock) found
        (s.apps a).objects objects s.service service work ending)
      (hcallback : work.callbackRef.map (fun ref => (s.apps a).refs[ref]?)
        = callback.map some)
      (hrefs : refs
        = JsApp.deleteReference (s.apps a).refs work.callbackRef) :
      Stepped s (.complete a call clock found)
        { s.setApp a { s.apps a with
            objects := objects
            refs := refs
            works := (s.apps a).works.erase call } with service := service }
        [.settled a call (ending.settle callback)]
  | request {r : Request E} {service : PasteboardService Uri Want}
      (hdone : Performed (r.copy J.toHost) s.service service) :
      Stepped s (.request r) { s with service := service } []

variable {J} {s s' : JsSystem Uri Want Fn App} {i : JsInput E Fn App}
  {os : List (JsOutput Want Fn App)}

/-- **Every step is one of these.** -/
theorem stepped (T : E.Faithful) (L : E.Lossless) (hs : s.Inv)
    (h : (jsMachine J).step s i = some (s', os)) : Stepped J s i s' os := by
  change JsSystem.step J s i = _ at h
  cases i with
  | op a op =>
      obtain ⟨⟨objects, result⟩, hx, h⟩ := Option.map_eq_some_iff.mp h
      injection h with hs' hos
      subst hs' hos
      exact .op (JsObjects.exec_change (hs.apps a).objects hx)
  | start a method callback created =>
      obtain ⟨⟨app, result⟩, hx, h⟩ := Option.map_eq_some_iff.mp h
      injection h with hs' hos
      subst hs' hos
      exact .start hx
  | execute a call clock found =>
      obtain ⟨work, hwork, h⟩ := Option.bind_eq_some_iff.mp h
      split at h
      · cases h
      · next hexec =>
          obtain ⟨work', service, hx, hdone⟩ := AsyncWork.exists_execute
            J.toHost T L (caller J a clock) found (hs.apps a).objects
            hs.service ((hs.apps a).holds call work hwork)
          rw [hx] at h
          injection h with h
          injection h with hs' hos
          subst hs' hos
          exact .execute hwork (by simpa using hexec) hdone
  | complete a call clock found =>
      obtain ⟨work, hwork, h⟩ := Option.bind_eq_some_iff.mp h
      split at h
      · cases h
      · next hexec =>
          obtain ⟨ending, objects, service, hx, hdone⟩ :=
            AsyncWork.exists_complete J.toHost T L (caller J a clock) found
              (s.apps a).objects hs.service work
          have hex : work.executed = true := by simpa using hexec
          rw [hx] at h
          -- with a promise, or with a callback
          cases hr : work.callbackRef with
          | none =>
              simp only [Option.bind_some, hr] at h
              injection h with h
              injection h with hs' hos
              subst hs' hos
              exact .complete hwork hex hdone (by rw [hr]; rfl)
                (by rw [hr]; rfl)
          | some ref =>
              simp only [Option.bind_some, hr] at h
              obtain ⟨callback, hcallback, h⟩ := Option.map_eq_some_iff.mp h
              injection h with hs' hos
              subst hs' hos
              refine .complete hwork hex hdone ?_ (by rw [hr]; rfl)
              rw [hr, Option.map_some, hcallback]
              rfl
  | request r =>
      obtain ⟨answer, hanswer, h⟩ := Option.map_eq_some_iff.mp h
      injection h with hs' hos
      subst hs' hos
      obtain ⟨answer', hanswer', hdone⟩ :=
        exists_answer J.toHost hs.service r
      rw [hanswer] at hanswer'
      injection hanswer' with heq
      rw [← heq] at hdone
      exact .request hdone

theorem Inv.stepped (hs : s.Inv) (h : Stepped J s i s' os) : s'.Inv := by
  cases h with
  | op hchange => exact hs.setApp ((hs.apps _).change hchange) hs.service
  | start hstart => exact hs.setApp ((hs.apps _).start hstart) hs.service
  | execute hwork hexec hdone =>
      refine hs.setApp ((hs.apps _).insert _ ?_) hdone.performed.allDecoded
      refine ((hs.apps _).holds _ _ hwork).congr ?_
      rw [hdone.outcome]
      exact AsyncWork.outcome_method _ _ _ _
  | complete hwork hexec hdone hcallback hrefs =>
      exact hs.setApp (((hs.apps _).change
        (hdone.change J.toHost J.napi J.uri)).erase _ _)
          hdone.performed.allDecoded
  | request hdone => exact ⟨hdone.allDecoded, hs.apps⟩

/-- **Every state of the system is as it should be.** -/
theorem inv_run (T : E.Faithful) (L : E.Lossless) {is : List (JsInput E Fn App)}
    (hrun : (jsMachine J).run {} is = some (s, os)) : s.Inv :=
  (jsMachine J).run_keeps
    (fun _ _ _ _ hs hstep => hs.stepped (stepped T L hs hstep)) is inv_empty
    hrun

/-- **A work can be executed** as soon as it is pending. -/
theorem execute_isSome (T : E.Faithful) (L : E.Lossless) (hs : s.Inv) {a : App}
    {call : Nat} {work : AsyncWork} (hwork : (s.apps a).works[call]? = some work)
    (hexec : work.executed = false) (clock : Clock) (found : Bool) :
    ∃ s', (jsMachine J).step s (.execute a call clock found) = some (s', []) := by
  obtain ⟨work', service, hx, _⟩ := AsyncWork.exists_execute J.toHost T L
    (caller J a clock) found (hs.apps a).objects hs.service
    ((hs.apps a).holds call work hwork)
  show ∃ s', JsSystem.execute J a call clock found s = some (s', [])
  unfold JsSystem.execute
  dsimp only
  rw [hwork, Option.bind_some, hexec, if_neg (by simp), hx]
  exact ⟨_, rfl⟩

/-- **It can be completed** as soon as it has been executed, if its reference
is live. -/
theorem complete_isSome (T : E.Faithful) (L : E.Lossless) (hs : s.Inv) {a : App}
    {call : Nat} {work : AsyncWork} (hwork : (s.apps a).works[call]? = some work)
    (hexec : work.executed = true)
    (hlive : ∀ ref, work.callbackRef = some ref → ref ∈ (s.apps a).refs)
    (clock : Clock) (found : Bool) :
    ∃ s' st, (jsMachine J).step s (.complete a call clock found)
      = some (s', [.settled a call st]) := by
  obtain ⟨ending, objects, service, hx, _⟩ := AsyncWork.exists_complete
    J.toHost T L (caller J a clock) found (s.apps a).objects hs.service work
  show ∃ s' st, JsSystem.complete J a call clock found s
    = some (s', [.settled a call st])
  unfold JsSystem.complete
  dsimp only
  rw [hwork, Option.bind_some, if_neg (by simp [hexec]), hx, Option.bind_some]
  cases hr : work.callbackRef with
  | none => exact ⟨_, _, rfl⟩
  | some ref =>
      obtain ⟨callback, hcallback⟩ := Option.isSome_iff_exists.mp
        (Std.TreeMap.isSome_getElem?_iff_mem.mpr (hlive ref hr))
      dsimp only
      rw [hcallback]
      exact ⟨_, _, rfl⟩

end JsSystem

end Pasteboard
