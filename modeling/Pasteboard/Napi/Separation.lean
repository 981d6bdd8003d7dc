/-
  Pasteboard.Napi.Separation
  ──────────────────────────
  **PROGRAMS OF DIFFERENT USERS.**

  A program sees its user's clipboard and itself.  So what the programs of a
  user are told is what they would be told without the programs and requests of
  all other users (`js_separated`): what others copy, clear, paste, leak or
  damage does not show.

  Over the machine on slots this is an unwinding (`Lib.Runs`); the refinement
  carries it to the code.
-/
import Pasteboard.Napi.Refinement

namespace Pasteboard

open Lib

variable {Uri Want Fn App : Type} {E : Ipc Uri Want}

/-! ## §1. Whose step it is. -/

/-- A step of a program of the user `u`, or a request of that user. -/
def JsInput.byUser (J : JsHost E App) (u : Int) : JsInput E Fn App → Bool
  | .op a _ => SlotSystem.user J a == u
  | .start a _ _ _ => SlotSystem.user J a == u
  | .execute a _ _ _ => SlotSystem.user J a == u
  | .complete a _ _ _ => SlotSystem.user J a == u
  | .request r => J.getUserId r.caller.uid == u

/-- A program of the user `u` is told. -/
def JsOutput.toUser (J : JsHost E App) (u : Int) : JsOutput Want Fn App → Bool
  | .returned a _ => SlotSystem.user J a == u
  | .settled a _ _ => SlotSystem.user J a == u

/-- A request puts something into its caller's clipboard, if anywhere. -/
theorem Request.copy_caller [ToString Uri] {H : Host E} {r : Request E}
    {e : Copy Uri Want} (h : r.copy H = some e) :
    e.1 = H.getUserId r.caller.uid := by
  obtain ⟨op, hop, hcopy⟩ := Option.bind_eq_some_iff.mp h
  obtain ⟨x, hx, heq⟩ := Option.map_eq_some_iff.mp hcopy
  rw [← heq, ← (Request.op_spec H hop).caller]
  exact (ServiceOp.clipEffect_eq_some hx).1.symm

namespace SlotSystem

variable (J : JsHost E App) (u : Int)

/-- The two states look the same to the programs of `u`. -/
structure Alike (s t : SlotSystem Uri Want Fn App) : Prop where
  clipboard : s.clipboards u = t.clipboards u
  apps : ∀ a, user J a = u → s.apps a = t.apps a

variable [DecidableEq App] {J u} {s t s' : SlotSystem Uri Want Fn App}
  {os : List (JsOutput Want Fn App)} {a : App}
  {action : Option (List (Payload Uri Want)) → SlotApp Uri Want Fn →
    Option (SlotAction Uri Want Fn App)}

/-- A program of `u` does the same in states that look the same to it. -/
theorem Alike.act (h : Alike J u s t) (ha : user J a = u)
    (hact : s.act J a action = some (s', os)) :
    ∃ t', t.act J a action = some (t', os) ∧ Alike J u s' t' := by
  unfold SlotSystem.act at hact ⊢
  rw [h.apps a ha, ha, h.clipboard] at hact
  obtain ⟨x, hx, heq⟩ := Option.map_eq_some_iff.mp hact
  injection heq with hs' hos
  rw [ha, hx]
  refine ⟨_, congrArg (fun os => some (_, os)) hos, ?_, ?_⟩
  · rw [← hs']
    dsimp only
    split
    · exact h.clipboard
    · exact Register.assign_congr h.clipboard _
  · intro a' ha'
    rw [← hs']
    show Function.update s.apps a x.app a' = Function.update t.apps a x.app a'
    rw [Function.update_apply, Function.update_apply, h.apps a' ha']

/-- Another program changes nothing of it. -/
theorem Alike.act_other (h : Alike J u s t) (ha : user J a ≠ u)
    (hact : s.act J a action = some (s', os)) : Alike J u s' t := by
  obtain ⟨x, _, heq⟩ := Option.map_eq_some_iff.mp hact
  injection heq with hs' _
  constructor
  · rw [← hs', ← h.clipboard]
    dsimp only
    split
    · rfl
    · refine Register.assign_of_ne ?_
      intro v hv
      obtain ⟨_, _, heq⟩ := Option.map_eq_some_iff.mp hv
      injection heq with heq _
      exact ha heq
  · intro a' ha'
    rw [← hs', ← h.apps a' ha']
    show Function.update s.apps a x.app a' = s.apps a'
    rw [Function.update_apply, if_neg]
    intro heq
    rw [heq] at ha'
    exact ha ha'

/-- **What a program puts out is for that program.** -/
theorem act_outputs {P : JsOutput Want Fn App → Prop}
    (hact : s.act J a action = some (s', os))
    (h : ∀ held app x, action held app = some x → ∀ o ∈ x.outputs, P o) :
    ∀ o ∈ os, P o := by
  obtain ⟨x, hx, heq⟩ := Option.map_eq_some_iff.mp hact
  injection heq with _ hos
  rw [← hos]
  exact h _ _ x hx

end SlotSystem

/-! ## §2. The steps of others. -/

section Steps

variable [ToString Uri] [DecidableEq App] {J : JsHost E App} {u : Int}
  {s t s' : SlotSystem Uri Want Fn App} {os : List (JsOutput Want Fn App)}
  {i : JsInput E Fn App}

omit [ToString Uri] [DecidableEq App] in
/-- A completion tells its program. -/
theorem SlotApp.complete_outputs {app : SlotApp Uri Want Fn} {found : Bool}
    {held : Option (List (Payload Uri Want))} {a : App} {call : Nat}
    {x : SlotAction Uri Want Fn App}
    (h : app.complete found held a call = some x) :
    ∃ st, x.outputs = [.settled a call st] := by
  obtain ⟨work, _, h⟩ := Option.bind_eq_some_iff.mp h
  split at h
  · cases h
  · cases hr : work.callbackRef with
    | none =>
        simp only [hr] at h
        injection h with h
        rw [← h]
        exact ⟨_, rfl⟩
    | some ref =>
        simp only [hr] at h
        obtain ⟨callback, _, h⟩ := Option.map_eq_some_iff.mp h
        rw [← h]
        exact ⟨_, rfl⟩

omit [DecidableEq App] in
theorem SlotApp.execute_outputs {app : SlotApp Uri Want Fn} {found : Bool}
    {held : Option (List (Payload Uri Want))} {call : Nat}
    {x : SlotAction Uri Want Fn App}
    (h : app.execute found held call = some x) : x.outputs = [] := by
  obtain ⟨work, _, h⟩ := Option.bind_eq_some_iff.mp h
  split at h
  · cases h
  · injection h with h
    rw [← h]

/-- The input is an action of the program `a`. -/
structure JsInput.ActionOf (J : JsHost E App) (i : JsInput E Fn App) (a : App)
    (action : Option (List (Payload Uri Want)) → SlotApp Uri Want Fn →
      Option (SlotAction Uri Want Fn App)) : Prop where
  step : ∀ s, SlotSystem.step J s i = s.act J a action
  byUser : ∀ u, i.byUser J u = (SlotSystem.user J a == u)
  /-- Nobody else is told. -/
  toUser : ∀ u held app x, action held app = some x →
    ∀ o ∈ x.outputs, o.toUser J u = (SlotSystem.user J a == u)

/-- **An input is a program's action, or a request.** -/
theorem JsInput.action_cases (J : JsHost E App) (i : JsInput E Fn App) :
    (∃ a action, i.ActionOf J a action) ∨ ∃ r, i = .request r := by
  cases i with
  | request r => exact Or.inr ⟨r, rfl⟩
  | op a op =>
      refine Or.inl ⟨a, fun _ app => (app.objects.exec J.napi J.uri op).map fun x =>
          { app := { app with objects := x.1 }, outputs := [.returned a x.2] },
        fun _ => rfl, fun _ => rfl, ?_⟩
      intro u held app x hx o ho
      obtain ⟨y, _, hy⟩ := Option.map_eq_some_iff.mp hx
      rw [← hy] at ho
      rw [List.mem_singleton.mp ho]
      rfl
  | start a method callback created =>
      refine Or.inl ⟨a, fun _ app => (app.start method callback created).map fun x =>
          { app := x.1, outputs := [.returned a x.2] },
        fun _ => rfl, fun _ => rfl, ?_⟩
      intro u held app x hx o ho
      obtain ⟨y, _, hy⟩ := Option.map_eq_some_iff.mp hx
      rw [← hy] at ho
      rw [List.mem_singleton.mp ho]
      rfl
  | execute a call clock found =>
      refine Or.inl ⟨a, fun held app => app.execute found held call,
        fun _ => rfl, fun _ => rfl, ?_⟩
      intro u held app x hx o ho
      rw [SlotApp.execute_outputs hx] at ho
      cases ho
  | complete a call clock found =>
      refine Or.inl ⟨a, fun held app => app.complete found held a call,
        fun _ => rfl, fun _ => rfl, ?_⟩
      intro u held app x hx o ho
      obtain ⟨st, hst⟩ := SlotApp.complete_outputs hx
      rw [hst] at ho
      rw [List.mem_singleton.mp ho]
      rfl

/-- **The programs of a user are told in steps of that user.** -/
theorem toUser_step (h : (slotMachine J).step s i = some (s', os)) :
    ∀ o ∈ os, o.toUser J u = i.byUser J u := by
  change SlotSystem.step J s i = _ at h
  rcases i.action_cases J with ⟨a, action, hi⟩ | ⟨r, hi⟩
  · rw [hi.step] at h
    rw [hi.byUser]
    exact SlotSystem.act_outputs h (hi.toUser u)
  · subst hi
    injection h with h
    injection h with _ hos
    rw [← hos]
    nofun

/-- **The unwinding relation.** -/
theorem unwinding_slots (J : JsHost E App) (u : Int) :
    (slotMachine J : Machine (SlotSystem Uri Want Fn App) _ _).Unwinding
      (JsInput.byUser J u) (JsOutput.toUser J u) (SlotSystem.Alike J u) where
  own_step := by
    intro s t i s' os h hown hstep
    change SlotSystem.step J s i = _ at hstep
    show ∃ t' os', SlotSystem.step J t i = some (t', os') ∧ _
    rcases i.action_cases J with ⟨a, action, hi⟩ | ⟨r, hi⟩
    · rw [hi.step] at hstep
      rw [hi.byUser] at hown
      obtain ⟨t', ht, halike⟩ := h.act (beq_iff_eq.mp hown) hstep
      exact ⟨t', os, (hi.step t).trans ht, halike, rfl⟩
    · subst hi
      injection hstep with hstep
      injection hstep with hs' hos
      refine ⟨_, [], rfl, ⟨?_, ?_⟩, by rw [← hos]⟩
      · rw [← hs']
        exact Register.assign_congr h.clipboard _
      · rw [← hs']
        exact h.apps
  other_step := by
    intro s t i s' os h hother hstep
    change SlotSystem.step J s i = _ at hstep
    rcases i.action_cases J with ⟨a, action, hi⟩ | ⟨r, hi⟩
    · rw [hi.step] at hstep
      rw [hi.byUser] at hother
      -- another program cannot reach these
      exact h.act_other (ne_of_beq_false hother) hstep
    · subst hi
      injection hstep with hstep
      injection hstep with hs' _
      refine ⟨?_, ?_⟩
      · rw [← hs', ← h.clipboard]
        refine Register.assign_of_ne ?_
        intro v hv
        -- what the request puts somewhere it puts under its caller's user
        exact ne_of_beq_false hother (Request.copy_caller hv).symm
      · rw [← hs']
        exact h.apps

end Steps

/-- The sample programs, of two users. -/
def sampleUsers : JsHost (listIpc String String) Bool :=
  { sampleJs with uid := fun a => if a then 20200001 else 20000001 }

/-- Both users copy, the user 100 clears, and the program of the user 101
pastes and looks at the record it got. -/
def usersApart : List (JsInput (listIpc String String) String Bool) :=
  [.op true (.createData (.createPlainTextData "b")),
    .op false (.createData (.createPlainTextData "a")),
    .start true (.setPasteData 0) none true,
    .start false (.setPasteData 0) none true,
    .execute true 0 ⟨none, 0⟩ true,
    .execute false 0 ⟨none, 0⟩ true,
    .complete false 0 ⟨none, 0⟩ true,
    .start false .clear none true,
    .execute false 1 ⟨none, 0⟩ true,
    .complete true 0 ⟨none, 0⟩ true,
    .start true .getPasteData (some ("f", 7)) true,
    .execute true 1 ⟨none, 0⟩ true,
    .complete true 1 ⟨none, 0⟩ true,
    .op true (.getRecordAt 1 0)]

end Pasteboard
