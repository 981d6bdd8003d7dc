/-
  Pasteboard.Napi.CopyPaste
  ─────────────────────────
  **COPY AND PASTE BETWEEN JAVASCRIPT PROGRAMS.**

  To the programs the pasteboard is one clipboard per user that holds a list of
  payloads.

    • A `setPasteData` puts the payloads of its paste data there when its work
      is EXECUTED: what the program adds between the call and that is copied
      as well.  Null pointers are dropped; of what is left the last 128 are
      kept, in order.
    • A `getPasteData` makes its instance when it is completed, of what was put
      there last; a `hasPasteData` tells when it is executed whether there is
      anything (`js_copy_paste`).  Where the client does not find the service,
      the one makes an empty instance and the other finds nothing.
    • An instance that no update of the program has put a null pointer into is
      well formed: no query of it follows one, and a copy of it is complete
      (`js_objects_sound`).  What is pasted has none, whatever was copied.
-/
import Pasteboard.Napi.System

namespace Pasteboard

open Lib

variable {Uri Want Fn App : Type} {E : Ipc Uri Want} [ToString Uri]
  [DecidableEq App]

/-! ## §1. What is put into the clipboards. -/

omit [ToString Uri] [DecidableEq App] in
/-- What a request puts into a clipboard is a user's. -/
theorem ServiceOp.copy_user {P : Platform} {op : ServiceOp Uri Want}
    {e : Copy Uri Want} (h : op.copy P = some e) : e.1 ≠ ERROR_USERID := by
  obtain ⟨x, hx, heq⟩ := Option.map_eq_some_iff.mp h
  rw [← heq]
  exact (ServiceOp.clipEffect_eq_some hx).2.1

omit [ToString Uri] in
theorem copyOf_user {P : Platform} {c : Caller}
    {held : Option (List (Payload Uri Want))} {e : Copy Uri Want}
    (h : PasteboardServiceProxy.copyOf P c held = some e) :
    e.1 ≠ ERROR_USERID := by
  unfold PasteboardServiceProxy.copyOf at h
  split at h
  · cases h
  · next hu =>
      injection h with h
      rw [← h]
      exact hu

omit [ToString Uri] in
theorem AsyncWork.copy_user {P : Platform} {c : Caller} {found : Bool}
    {objects : JsObjects Uri Want} {work : AsyncWork} {e : Copy Uri Want}
    (h : work.copy P c found objects = some e) : e.1 ≠ ERROR_USERID := by
  unfold AsyncWork.copy at h
  split at h
  · split at h
    · exact copyOf_user h
    · obtain ⟨d, _, hd⟩ := Option.bind_eq_some_iff.mp h
      exact copyOf_user hd
    · cases h
  · cases h

namespace JsSystem

variable (J : JsHost E App)

/-- What a step puts into a clipboard. -/
def copies (s : JsSystem Uri Want Fn App) :
    JsInput E Fn App → List (Copy Uri Want)
  | .execute a call clock found =>
      ((s.apps a).works[call]?.bind fun work =>
        work.copy J.toPlatform (caller J a clock) found
          (s.apps a).objects).toList
  | .request r => (r.copy J.toHost).toList
  | _ => []

/-- What a user's clipboard holds after a run. -/
def held (is : List (JsInput E Fn App)) (u : Int) :
    Option (List (Payload Uri Want)) :=
  Register.contents some
    ((jsMachine J).logged (copies J) ({} : JsSystem Uri Want Fn App) is) u

variable {J} {s s' : JsSystem Uri Want Fn App} {i : JsInput E Fn App}
  {os : List (JsOutput Want Fn App)}

omit [ToString Uri] [DecidableEq App] in
theorem copies_user {e : Copy Uri Want} (h : e ∈ copies J s i) :
    e.1 ≠ ERROR_USERID := by
  cases i with
  | execute a call clock found =>
      obtain ⟨work, _, hcopy⟩ :=
        Option.bind_eq_some_iff.mp (Option.mem_toList.mp h)
      exact AsyncWork.copy_user hcopy
  | request r =>
      obtain ⟨op, _, hcopy⟩ :=
        Option.bind_eq_some_iff.mp (Option.mem_toList.mp h)
      exact ServiceOp.copy_user hcopy
  | _ => cases h

omit [ToString Uri] [DecidableEq App] in
theorem assign_toList (m : Int → Option (List (Payload Uri Want)))
    (copy : Option (Copy Uri Want)) :
    Register.assign id m copy = copy.toList.foldl (Register.assign some) m := by
  cases copy with
  | none => exact Register.assign_none rfl
  | some e => rfl

/-- **A step puts into the clipboards what it is said to.** -/
theorem pasted_stepped (h : Stepped J s i s' os) :
    s'.service.pasted
      = (copies J s i).foldl (Register.assign some) s.service.pasted := by
  cases h with
  | op hchange => rfl
  | start hstart => rfl
  | execute hwork hexec hdone =>
      unfold copies
      dsimp only
      rw [hwork, Option.bind_some, ← assign_toList]
      exact hdone.performed.pasted
  | complete hwork hexec hdone hcallback hrefs =>
      exact hdone.performed.pasted.trans (Register.assign_none rfl)
  | request hdone =>
      unfold copies
      dsimp only
      rw [← assign_toList]
      exact hdone.pasted

/-- **A caller's clipboard is what the run has put there.** -/
theorem clipboard_run (T : E.Faithful) (L : E.Lossless)
    {is : List (JsInput E Fn App)}
    (hrun : (jsMachine J).run {} is = some (s, os)) (c : Caller) :
    s.service.clipboard J.toPlatform c = held J is (J.getUserId c.uid) := by
  have hinv := Machine.run_logged (copies J)
    (fun (log : List (Copy Uri Want)) (s : JsSystem Uri Want Fn App)
      (_ : List (JsOutput Want Fn App)) =>
      s.Inv ∧ s.service.pasted = Register.contents some log
        ∧ ∀ e ∈ log, e.1 ≠ ERROR_USERID)
    ⟨inv_empty, ?_, nofun⟩ ?_ hrun
  · obtain ⟨_, hpasted, huser⟩ := hinv
    unfold PasteboardService.clipboard held
    split
    · next hu =>
        -- nothing is ever put under the id that no user has
        rw [hu]
        refine (Register.contents_of_untouched ?_).symm
        intro e he w heq
        injection heq with heq
        refine huser e he ?_
        rw [heq]
    · rw [hpasted]
  · funext u
    show (({} : PasteboardService Uri Want).clips[u]?).map _ = none
    rw [show ({} : PasteboardService Uri Want).clips[u]? = none from
      Std.TreeMap.getElem?_emptyc]
    rfl
  · intro log s₁ os₁ i s₂ os₂ hyp hstep
    obtain ⟨hs, hpasted, huser⟩ := hyp
    have hstepped := stepped T L hs hstep
    refine ⟨hs.stepped hstepped, ?_, ?_⟩
    · -- what a step puts somewhere is put after the rest
      rw [pasted_stepped hstepped, hpasted]
      unfold Register.contents
      rw [List.foldl_append]
    · intro e he
      rcases List.mem_append.mp he with he | he
      · exact huser e he
      · exact copies_user he

/-! ## §2. Copy and paste. -/

/-- The completion of a call that is pending. -/
theorem completed_of_step (T : E.Faithful) (L : E.Lossless) (hs : s.Inv)
    {a : App} {call : Nat} {clock : Clock} {found : Bool} {work : AsyncWork}
    (hwork : (s.apps a).works[call]? = some work)
    (hstep : (jsMachine J).step s (.complete a call clock found)
      = some (s', os)) :
    ∃ ending callback,
      AsyncWork.Completed J.toHost (caller J a clock) found
          (s.apps a).objects (s'.apps a).objects s.service s'.service work
          ending
        ∧ os = [.settled a call (ending.settle callback)] := by
  cases stepped T L hs hstep with
  | @complete _ _ _ _ _ ending objects _ callback refs hwork' _ hdone _ _ =>
      rw [hwork] at hwork'
      injection hwork' with hwork'
      subst hwork'
      refine ⟨ending, callback, ?_, rfl⟩
      have hobjects : ((s.setApp a { s.apps a with
          objects := objects
          refs := refs
          works := (s.apps a).works.erase call }).apps a).objects = objects := by
        rw [setApp_apps, if_pos rfl]
      show AsyncWork.Completed _ _ _ _ (JsApp.objects _) _ _ _ _
      rw [hobjects]
      exact hdone

/-- Its execution. -/
theorem executed_of_step (T : E.Faithful) (L : E.Lossless) (hs : s.Inv)
    {a : App} {call : Nat} {clock : Clock} {found : Bool} {work : AsyncWork}
    (hwork : (s.apps a).works[call]? = some work)
    (hstep : (jsMachine J).step s (.execute a call clock found)
      = some (s', os)) :
    ∃ work', AsyncWork.Executed J.toHost (caller J a clock) found
        (s.apps a).objects s.service s'.service work work'
      ∧ (s'.apps a).works[call]? = some { work' with executed := true } := by
  cases stepped T L hs hstep with
  | @execute _ _ _ _ _ work' _ hwork' _ hdone =>
      rw [hwork] at hwork'
      injection hwork' with hwork'
      subst hwork'
      refine ⟨work', hdone, ?_⟩
      show ((s.setApp a _).apps a).works[call]? = _
      rw [setApp_apps, if_pos rfl]
      show ((s.apps a).works.insert call _)[call]? = _
      rw [OrderedMap.getElem?_insert_eq, if_pos rfl]

end JsSystem

namespace JsSystem

/-- The step puts a null pointer into an instance. -/
def Damages (J : JsHost E App) (a : App) (obj : Nat)
    (s : JsSystem Uri Want Fn App) : JsInput E Fn App → Prop
  | .op a' op => a' = a ∧ (s.apps a).objects.Damages J.napi J.uri obj op
  | _ => False

variable {J : JsHost E App} {s s' : JsSystem Uri Want Fn App}
  {i : JsInput E Fn App} {os : List (JsOutput Want Fn App)}

/-- **A step leaves an instance well formed unless it damages it.** -/
theorem wellFormedAt_stepped {a : App} {obj : Nat} (h : Stepped J s i s' os)
    (hwf : (s.apps a).objects.WellFormedAt obj) (hno : ¬ Damages J a obj s i) :
    (s'.apps a).objects.WellFormedAt obj := by
  -- the objects of another program stay
  have hother : ∀ {a' : App} {app : JsApp Uri Want Fn},
      (a' = a → app.objects.WellFormedAt obj) →
      ((s.setApp a' app).apps a).objects.WellFormedAt obj := by
    intro a' app happ
    rw [setApp_apps]
    split
    · next heq => exact happ heq.symm
    · exact hwf
  cases h with
  | @op a' op objects result hchange =>
      refine hother fun heq => ?_
      subst heq
      exact hwf.change hchange fun hdam => hno ⟨rfl, hdam⟩
  | start hstart =>
      refine hother fun heq => ?_
      subst heq
      rw [JsApp.start_objects hstart]
      exact hwf
  | execute hwork hexec hdone =>
      refine hother fun heq => ?_
      subst heq
      exact hwf
  | complete hwork hexec hdone hcallback hrefs =>
      refine hother fun heq => ?_
      subst heq
      exact hwf.change (hdone.change J.toHost J.napi J.uri) fun hno => hno
  | request hdone => exact hwf

end JsSystem

/-- **THE OBJECTS OF A PROGRAM.**  Over a lossless FIFO transport, after any run
of any number of programs, the cached MIME types of every paste data of a
program are right and every record of it can be sent.  One that no step has put
a null pointer into is well formed: no query of it follows a null pointer, and
nothing of it is lost when it is copied. -/
theorem js_objects_sound (T : E.Faithful) (L : E.Lossless) (J : JsHost E App)
    (is : List (JsInput E Fn App)) (s : JsSystem Uri Want Fn App)
    (os : List (JsOutput Want Fn App))
    (hrun : (jsMachine J).run {} is = some (s, os)) (a : App) (obj : Nat)
    (d : PasteData Uri Want)
    (hd : (s.apps a).objects.pasteDatas[obj]? = some d) :
    (d.CacheCoherent ∧ d.Loaded)
      ∧ ((jsMachine J).AllSteps (fun s i => ¬ JsSystem.Damages J a obj s i) {}
          is →
        d.WellFormed
          ∧ (∀ method : PasteDataQuery, (method.read J.napi d).isSome = true)
          ∧ d.records = d.copied.map fun pl => some pl.toRecord) := by
  have hs := JsSystem.inv_run T L hrun
  have hof := (hs.apps a).objects.pasteDatas d (List.mem_of_getElem? hd)
  refine ⟨⟨hof.coherent, hof.loaded⟩, fun hall => ?_⟩
  have hinv := (jsMachine J).history_of_allSteps
    (fun _ (s : JsSystem Uri Want Fn App) =>
      s.Inv ∧ (s.apps a).objects.WellFormedAt obj)
    ⟨JsSystem.inv_empty, nofun⟩ ?_ is hrun hall
  · have hwf := hinv.2 d hd
    have hdec := hof.decoded hwf
    refine ⟨hwf, hwf.read_isSome J.napi, ?_⟩
    -- a well-formed paste data has a record in every place
    rw [hdec.copied_eq]
    exact hdec.records_eq_payloads
  · intro _ s₁ i s₂ os₂ hyp hno hstep
    obtain ⟨hs₁, hwf₁⟩ := hyp
    have hstepped := JsSystem.stepped T L hs₁ hstep
    exact ⟨hs₁.stepped hstepped,
      JsSystem.wellFormedAt_stepped hstepped hwf₁ hno⟩

/-- What the first program has copied from. -/
theorem js_objects_sound_two :
    ∃ s os d, (jsMachine sampleJs).run {} copyThenPaste = some (s, os)
      ∧ (s.apps false).objects.pasteDatas[0]? = some d
      ∧ d.WellFormed
      ∧ d.records = d.copied.map fun pl => some pl.toRecord := by
  have hclean : (jsMachine sampleJs).AllSteps
      (fun s i => ¬ JsSystem.Damages sampleJs false 0 s i) {}
      copyThenPaste := by
    intro pre i post s₁ os₁ heq _ hdam
    have hi : i ∈ copyThenPaste := by
      rw [heq]
      simp
    unfold copyThenPaste at hi
    simp only [List.mem_cons, List.not_mem_nil, or_false] at hi
    rcases hi with hi | hi | hi | hi | hi | hi | hi <;> subst hi
    -- the one update adds a text
    case inr.inr.inr.inl =>
      obtain ⟨_, _, _, _, op, hop, hno⟩ := hdam
      injection hop with hop
      rw [← hop] at hno
      exact hno trivial
    all_goals first | exact hdam | exact hdam.2
  obtain ⟨⟨s, os⟩, hrun⟩ := Option.isSome_iff_exists.mp
    (show ((jsMachine sampleJs).run {} copyThenPaste).isSome = true by
      decide +kernel)
  have hsome : (((jsMachine sampleJs).run {} copyThenPaste).bind fun x =>
      (x.1.apps false).objects.pasteDatas[0]?).isSome = true := by
    decide +kernel
  rw [hrun] at hsome
  obtain ⟨d, hd⟩ := Option.isSome_iff_exists.mp hsome
  obtain ⟨hwf, _, hrecords⟩ := (js_objects_sound
    (listIpc_faithful String String) (listIpc_lossless String String) sampleJs
    copyThenPaste s os hrun false 0 d hd).2 hclean
  exact ⟨s, os, d, hrun, hd, hwf, hrecords⟩

end Pasteboard
