/-
  Pasteboard.Napi.Refinement
  ──────────────────────────
  **THE PASTEBOARD AS JAVASCRIPT PROGRAMS SEE IT.**

  To the programs the bindings, the client, the transport, the stub and the
  service are one clipboard per user, which holds a list of payloads, and their
  own objects, which are lists of slots:

    setPasteData — executed: the clipboard holds the payloads of the slots
    clear        — executed: the clipboard is empty
    hasPasteData — executed: the status
    getPasteData — completed: a new object with the clipboard's payloads

  Every run of the programs is a run of this machine, with the same results,
  the same settlements and the same faults (`js_refines_slots`).
-/
import Pasteboard.Napi.CopyPaste
import Pasteboard.Napi.Slots

namespace Pasteboard

open Lib

variable {Uri Want Fn App : Type}

/-! ## §1. The machine on slots. -/

/-- One program. -/
structure SlotApp (Uri Want Fn : Type) where
  objects : SlotObjects Uri Want := {}
  refs : References Fn := {}
  works : Std.TreeMap Nat AsyncWork := {}
  calls : Nat := 0

namespace SlotApp

def missing (app : SlotApp Uri Want Fn) : AsyncMethod → Option (JsResult Want)
  | .setPasteData obj =>
      if obj < app.objects.pasteDatas.length then none else some .null
  | .convertToText record =>
      if record < app.objects.records.length then none else some .undefined
  | _ => none

def start (method : AsyncMethod) (callback : Option (Fn × NapiRef))
    (created : Bool) (app : SlotApp Uri Want Fn) :
    Option (SlotApp Uri Want Fn × JsResult Want) :=
  match app.missing method with
  | some result => some (app, result)
  | none =>
      (JsApp.createReference app.refs callback).map fun refs =>
        let work : AsyncWork :=
          { method := method, callbackRef := callback.map (·.2) }
        ({ app with
            refs := refs
            works := if created then app.works.insert app.calls work
              else app.works
            calls := app.calls + 1 },
          if callback.isSome then .undefined else .promise app.calls)

end SlotApp

/-- What a work puts into the clipboard of its program. -/
def AsyncWork.slotCopy (found : Bool) (objects : SlotObjects Uri Want)
    (work : AsyncWork) : Option (Option (List (Payload Uri Want))) :=
  if found then
    match work.method with
    | .clear => some none
    | .setPasteData obj =>
        objects.pasteDatas[obj]?.map fun slots => some (Slots.copied slots)
    | _ => none
  else none

/-- The objects after a completion: a paste makes an object of what is
`held`. -/
def AsyncWork.slotObjects (found : Bool)
    (held : Option (List (Payload Uri Want))) (objects : SlotObjects Uri Want)
    (work : AsyncWork) : SlotObjects Uri Want :=
  if work.method = .getPasteData then
    (objects.newPasteData
      ((if found then held.getD [] else []).map some)).1
  else objects

/-- What a program does: the program after it, what it puts into its clipboard,
and what comes out. -/
structure SlotAction (Uri Want Fn App : Type) where
  app : SlotApp Uri Want Fn
  copy : Option (Option (List (Payload Uri Want))) := none
  outputs : List (JsOutput Want Fn App) := []

namespace SlotApp

variable [ToString Uri] (found : Bool) (held : Option (List (Payload Uri Want)))
  (app : SlotApp Uri Want Fn)

def execute (call : Nat) : Option (SlotAction Uri Want Fn App) :=
  app.works[call]?.bind fun work =>
    if work.executed then none
    else
      let work' := work.outcome found held.isSome app.objects.text
      let works := app.works.insert call { work' with executed := true }
      some { app := { app with works := works }
             copy := work.slotCopy found app.objects }

def complete (a : App) (call : Nat) : Option (SlotAction Uri Want Fn App) :=
  app.works[call]?.bind fun work =>
    if ¬ work.executed then none
    else
      let ending := work.ending app.objects.pasteDatas.length
      let app' := { app with
        objects := work.slotObjects found held app.objects
        works := app.works.erase call }
      match work.callbackRef with
      | none =>
          some { app := app', outputs := [.settled a call (ending.settle none)] }
      | some ref =>
          app.refs[ref]?.map fun callback =>
            { app := { app' with refs := app.refs.erase ref }
              outputs := [.settled a call (ending.settle (some callback))] }

end SlotApp

/-- The programs, and a clipboard per user. -/
structure SlotSystem (Uri Want Fn App : Type) where
  clipboards : Int → Option (List (Payload Uri Want)) := fun _ => none
  apps : App → SlotApp Uri Want Fn := fun _ => {}

namespace SlotSystem

variable {E : Ipc Uri Want} [ToString Uri] [DecidableEq App]
  (J : JsHost E App)

/-- The user a program runs for. -/
def user (a : App) : Int := J.getUserId (J.uid a)

/-- A program sees its user's clipboard, and changes it and itself. -/
def act (a : App)
    (action : Option (List (Payload Uri Want)) → SlotApp Uri Want Fn →
      Option (SlotAction Uri Want Fn App))
    (s : SlotSystem Uri Want Fn App) :
    Option (SlotSystem Uri Want Fn App × List (JsOutput Want Fn App)) :=
  (action (s.clipboards (user J a)) (s.apps a)).map fun x =>
    ({ clipboards :=
        if user J a = ERROR_USERID then s.clipboards
        else Register.assign id s.clipboards (x.copy.map (user J a, ·))
       apps := Function.update s.apps a x.app }, x.outputs)

/-- The clock is not looked at. -/
def step (s : SlotSystem Uri Want Fn App) :
    JsInput E Fn App →
      Option (SlotSystem Uri Want Fn App × List (JsOutput Want Fn App))
  | .op a op =>
      s.act J a fun _ app => (app.objects.exec J.napi J.uri op).map fun x =>
        { app := { app with objects := x.1 }, outputs := [.returned a x.2] }
  | .start a method callback created =>
      s.act J a fun _ app => (app.start method callback created).map fun x =>
        { app := x.1, outputs := [.returned a x.2] }
  | .execute a call _ found =>
      s.act J a fun held app => app.execute found held call
  | .complete a call _ found =>
      s.act J a fun held app => app.complete found held a call
  | .request r =>
      some ({ s with
        clipboards := Register.assign id s.clipboards (r.copy J.toHost) }, [])

end SlotSystem

def slotMachine {E : Ipc Uri Want} [ToString Uri] [DecidableEq App]
    (J : JsHost E App) :
    Machine (SlotSystem Uri Want Fn App) (JsInput E Fn App)
      (JsOutput Want Fn App) where
  step := SlotSystem.step J

/-! ## §2. The programs seen through it. -/

/-- The clipboards of the users; there is none without a user id. -/
def PasteboardService.clipboards (s : PasteboardService Uri Want) (u : Int) :
    Option (List (Payload Uri Want)) :=
  if u = ERROR_USERID then none else s.pasted u

def JsApp.slots (app : JsApp Uri Want Fn) : SlotApp Uri Want Fn where
  objects := app.objects.slots
  refs := app.refs
  works := app.works
  calls := app.calls

def JsSystem.slots (s : JsSystem Uri Want Fn App) :
    SlotSystem Uri Want Fn App where
  clipboards := s.service.clipboards
  apps a := (s.apps a).slots

/-- What is put into a user's clipboard is put there. -/
theorem Performed.clipboards {copy : Option (Copy Uri Want)}
    {s s' : PasteboardService Uri Want} (h : Performed copy s s')
    (huser : ∀ e, copy = some e → e.1 ≠ ERROR_USERID) :
    s'.clipboards = Register.assign id s.clipboards copy := by
  funext u
  unfold PasteboardService.clipboards
  rw [h.pasted]
  cases copy with
  | none => rfl
  | some e =>
      have hne := huser e rfl
      have hassign : ∀ m : Int → Option (List (Payload Uri Want)),
          Register.assign id m (some e) u = if e.1 = u then e.2 else m u :=
        fun m => Register.assign_apply rfl u
      rw [hassign, hassign]
      by_cases hu : e.1 = u
      · rw [if_pos hu, if_pos hu, if_neg (by rw [← hu]; exact hne)]
      · rw [if_neg hu, if_neg hu]

theorem AsyncWork.copy_slots (P : Platform) (c : Caller) (found : Bool)
    (objects : JsObjects Uri Want) (work : AsyncWork) :
    work.copy P c found objects
      = if P.getUserId c.uid = ERROR_USERID then none
        else (work.slotCopy found objects.slots).map (P.getUserId c.uid, ·) := by
  have hget : ∀ obj, objects.slots.pasteDatas[obj]?
      = objects.pasteDatas[obj]?.map PasteData.slots :=
    fun obj => List.getElem?_map
  unfold AsyncWork.copy AsyncWork.slotCopy PasteboardServiceProxy.copyOf
  obtain ⟨method, callbackRef, executed, status, text⟩ := work
  cases found with
  | false => simp
  | true =>
      by_cases hu : P.getUserId c.uid = ERROR_USERID
      · cases method <;> simp [hu]
      · cases method with
        | setPasteData obj =>
            simp only [hu, hget, if_true, if_false]
            cases objects.pasteDatas[obj]? with
            | none => rfl
            | some d =>
                show some (_, some d.copied) = some (_, some _)
                rw [d.copied_eq_slots]
        | _ => simp [hu]

/-- A paste makes the object that it makes of the slots. -/
theorem AsyncWork.Completed.slotObjects {E : Ipc Uri Want} [ToString Uri]
    {H : Host E} {c : Caller} {found : Bool} {objects objects' : JsObjects Uri Want}
    {service service' : PasteboardService Uri Want} {work : AsyncWork}
    {ending : Ending Want}
    (h : Completed H c found objects objects' service service' work ending) :
    objects'.slots
      = work.slotObjects found (service.clipboard H.toPlatform c)
          objects.slots := by
  unfold AsyncWork.slotObjects
  split
  · next hmethod =>
      obtain ⟨d, hobjects, hd⟩ := h.getPasteData hmethod
      have hslots : d.slots = d.payloads.map some := by
        unfold PasteData.slots
        rw [hd.decoded.records_eq_payloads, List.map_map]
        exact List.map_congr_left fun pl _ => slotOf_toRecord pl
      have hnew := congrArg Prod.fst (JsObjects.slots_newPasteData
        (s := objects) d)
      rw [hobjects]
      refine hnew.trans ?_
      rw [hslots, hd.payloads]
  · next hmethod => rw [h.other hmethod]

/-! ## §3. One step. -/

namespace JsSystem

variable {E : Ipc Uri Want} [ToString Uri] [DecidableEq App]

omit [ToString Uri] in
/-- A program that is updated is seen updated. -/
theorem slots_setApp (s : JsSystem Uri Want Fn App) (a : App)
    (app : JsApp Uri Want Fn) (service : PasteboardService Uri Want) :
    ({ s.setApp a app with service := service } : JsSystem Uri Want Fn App).slots
      = ⟨service.clipboards, Function.update s.slots.apps a app.slots⟩ := by
  unfold JsSystem.slots
  congr 1
  funext a'
  show ((s.setApp a app).apps a').slots
    = Function.update (fun a => (s.apps a).slots) a app.slots a'
  rw [setApp_apps, Function.update_apply]
  split <;> rfl

variable {J : JsHost E App} {s : JsSystem Uri Want Fn App}

omit [ToString Uri] [DecidableEq App] in
/-- A call starts alike. -/
theorem slots_start (app : JsApp Uri Want Fn) (method : AsyncMethod)
    (callback : Option (Fn × NapiRef)) (created : Bool) :
    (app.start method callback created).map (fun x => (x.1.slots, x.2))
      = app.slots.start method callback created := by
  have hmissing : app.slots.missing method = app.missing method := by
    unfold SlotApp.missing JsApp.missing JsApp.slots JsObjects.slots
    cases method <;> simp
  unfold JsApp.start SlotApp.start
  rw [hmissing]
  cases app.missing method with
  | some result => rfl
  | none =>
      show ((JsApp.createReference app.refs callback).map _).map _
        = (JsApp.createReference app.refs callback).map _
      rw [Option.map_map]
      rfl

omit [DecidableEq App] in
theorem text_eq_slots (hs : s.Inv) (a : App) :
    (s.apps a).objects.slots.text = (s.apps a).objects.text := by
  funext record
  exact JsObjects.text_slots (hs.apps a).objects record

omit [ToString Uri] in
/-- What an action leaves, where it puts nothing into the clipboard. -/
theorem slots_quiet (a : App) (app : JsApp Uri Want Fn)
    {service : PasteboardService Uri Want}
    (hclips : service.clipboards = s.service.clipboards) :
    ({ s.setApp a app with service := service } : JsSystem Uri Want Fn App).slots
      = ⟨if SlotSystem.user J a = ERROR_USERID then s.slots.clipboards
          else Register.assign id s.slots.clipboards none,
        Function.update s.slots.apps a app.slots⟩ := by
  rw [slots_setApp, hclips, Register.assign_none rfl, ite_self]
  rfl

/-- Executions agree. -/
theorem slots_execute (T : E.Faithful) (L : E.Lossless) (hs : s.Inv) (a : App)
    (call : Nat) (clock : Clock) (found : Bool) :
    (JsSystem.execute J a call clock found s).map (fun x => (x.1.slots, x.2))
      = s.slots.act J a fun held app => app.execute found held call := by
  unfold JsSystem.execute SlotSystem.act SlotApp.execute
  dsimp only
  show _ = Option.map _ (((s.apps a).works[call]?).bind _)
  cases hwork : (s.apps a).works[call]? with
  | none => rfl
  | some work =>
      rw [Option.bind_some, Option.bind_some]
      by_cases hexec : work.executed = true
      · rw [if_pos hexec, if_pos hexec]
        rfl
      · rw [if_neg hexec, if_neg hexec]
        obtain ⟨work', service, hx, hdone⟩ := AsyncWork.exists_execute J.toHost
          T L (caller J a clock) found (hs.apps a).objects hs.service
          ((hs.apps a).holds call work hwork)
        have hclips := hdone.performed.clipboards
          fun e he => AsyncWork.copy_user he
        rw [AsyncWork.copy_slots] at hclips
        have houtcome := hdone.outcome
        rw [hx, Option.map_some, Option.map_some, slots_setApp, hclips,
          houtcome, ← text_eq_slots hs]
        show some ((⟨_, _⟩ : SlotSystem Uri Want Fn App), _) = some (⟨_, _⟩, _)
        congr 3
        show Register.assign id _ (if SlotSystem.user J a = _ then _ else _) = _
        split <;> rfl

/-- Completions agree. -/
theorem slots_complete (T : E.Faithful) (L : E.Lossless) (hs : s.Inv) (a : App)
    (call : Nat) (clock : Clock) (found : Bool) :
    (JsSystem.complete J a call clock found s).map (fun x => (x.1.slots, x.2))
      = s.slots.act J a fun held app => app.complete found held a call := by
  unfold JsSystem.complete SlotSystem.act SlotApp.complete
  dsimp only
  show _ = Option.map _ (((s.apps a).works[call]?).bind _)
  cases hwork : (s.apps a).works[call]? with
  | none => rfl
  | some work =>
      rw [Option.bind_some, Option.bind_some]
      by_cases hexec : work.executed = true
      · rw [if_neg (not_not_intro hexec), if_neg (not_not_intro hexec)]
        obtain ⟨ending, objects, service, hx, hdone⟩ :=
          AsyncWork.exists_complete J.toHost T L (caller J a clock) found
            (s.apps a).objects hs.service work
        -- the service is as it was, and the new objects are those of the slots
        have hclips : service.clipboards = s.service.clipboards :=
          hdone.performed.clipboards nofun
        have hobjects := hdone.slotObjects
        have hending : ending
            = work.ending (s.slots.apps a).objects.pasteDatas.length := by
          rw [hdone.ending]
          unfold JsSystem.slots JsApp.slots JsObjects.slots
          rw [List.length_map]
        rw [hx, Option.bind_some, ← hending]
        cases hr : work.callbackRef with
        | none =>
            dsimp only
            rw [Option.map_some, slots_quiet (J := J) a _ hclips]
            unfold JsApp.slots
            rw [hobjects]
            rfl
        | some ref =>
            dsimp only
            rw [Option.map_map]
            show _ = Option.map _ (((s.apps a).refs[ref]?).map _)
            rw [Option.map_map]
            congr 1
            funext callback
            show (JsSystem.slots _, _) = _
            rw [slots_quiet (J := J) a _ hclips]
            unfold JsApp.slots
            rw [hobjects]
            rfl
      · rw [if_pos hexec, if_pos hexec]
        rfl

/-- **ONE STEP** of the programs is the step of the slots. -/
theorem slots_step (T : E.Faithful) (L : E.Lossless) (hs : s.Inv)
    (i : JsInput E Fn App) :
    ((jsMachine J).step s i).map (fun x => (x.1.slots, x.2))
      = (slotMachine J).step s.slots i := by
  show (JsSystem.step J s i).map _ = SlotSystem.step J s.slots i
  cases i with
  | op a op =>
      have hexec := JsObjects.slots_exec J.napi J.uri (hs.apps a).objects op
      show ((JsObjects.exec _ _ _ op).map _).map _
        = ((((s.apps a).objects.slots.exec J.napi J.uri op).map _).map _)
      -- a synchronous call leaves the service alone
      rw [← hexec, Option.map_map, Option.map_map, Option.map_map]
      congr 1
      funext x
      exact congrArg (·, _) (slots_quiet a _ rfl)
  | start a method callback created =>
      have hstart := slots_start (s.apps a) method callback created
      show ((JsApp.start _ _ _ _).map _).map _
        = (((s.apps a).slots.start method callback created).map _).map _
      rw [← hstart, Option.map_map, Option.map_map, Option.map_map]
      congr 1
      funext x
      exact congrArg (·, _) (slots_quiet a _ rfl)
  | execute a call clock found => exact slots_execute T L hs a call clock found
  | complete a call clock found =>
      exact slots_complete T L hs a call clock found
  | request r =>
      obtain ⟨answer, hanswer, hdone⟩ := exists_answer J.toHost hs.service r
      show ((PasteboardServiceStub.onRemoteRequest J.toHost r s.service).map
        _).map _ = some _
      -- nothing is put under the id that no user has
      have hclips := hdone.clipboards fun e he => by
        obtain ⟨op, _, hcopy⟩ := Option.bind_eq_some_iff.mp he
        exact ServiceOp.copy_user hcopy
      rw [hanswer, Option.map_some, Option.map_some]
      unfold JsSystem.slots
      dsimp only
      rw [hclips]

omit [ToString Uri] [DecidableEq App] in
theorem slots_empty :
    ({} : JsSystem Uri Want Fn App).slots = {} := by
  have hclips : ({} : PasteboardService Uri Want).clipboards
      = fun _ => none := by
    funext u
    unfold PasteboardService.clipboards PasteboardService.pasted
    rw [show ({} : PasteboardService Uri Want).clips[u]? = none from
      Std.TreeMap.getElem?_emptyc]
    split <;> rfl
  unfold JsSystem.slots
  rw [hclips]
  rfl

/-- Whole runs. -/
theorem slots_run (T : E.Faithful) (L : E.Lossless) (J : JsHost E App)
    (is : List (JsInput E Fn App)) :
    ((jsMachine J).run ({} : JsSystem Uri Want Fn App) is).map
        (fun x => (x.1.slots, x.2))
      = (slotMachine J).run {} is := by
  have hrun := (jsMachine J).run_refines JsSystem.slots JsSystem.Inv
    (fun _ _ _ _ hs hstep => hs.stepped (JsSystem.stepped T L hs hstep))
    (fun s i hs => JsSystem.slots_step T L hs i) is JsSystem.inv_empty
  rw [hrun, JsSystem.slots_empty]

end JsSystem

/-- The paste is settled, and its program looks at the record it got. -/
def pasteThenRead : List (JsInput (listIpc String String) String Bool) :=
  copyThenPaste
    ++ [.complete true 0 ⟨none, 0⟩ true, .op true (.getRecordAt 0 0)]

end Pasteboard
