/-
  Pasteboard.Service.Store
  ────────────────────────
  **THE STORE IS ONE REGISTER PER USER.**

  The purpose of `clips_`: what a user gets is what that user set last, unless
  the user has cleared it since; nobody else has a say in it.  `LastSet` says
  the first half about a run, without any state.  The service refines it over
  every run (`store_correct`), through the keyed register of `Lib.Register`
  which its steps follow (`ServiceOp.StepSpec`).

  A run is possible exactly when every `SetPasteData` in it has data with a
  size: the report takes the length of the last record through its pointer.
-/
import Pasteboard.Service.Ops

namespace Pasteboard

open Lib

variable {Uri Want : Type}

/-! ## §1. What a user should observe. -/

/-- The last `SetPasteData` of the user `u` stored `d`, and no `Clear` by `u`
came after it.  Callers without a user id are no user. -/
def LastSet (P : Platform) (u : Int) (ops : List (ServiceOp Uri Want))
    (d : PasteData Uri Want) : Prop :=
  u ≠ ERROR_USERID
    ∧ ∃ pre c post, ops = pre ++ .setPasteData c d :: post
      ∧ P.getUserId c.uid = u
      ∧ ∀ op ∈ post, op.userId P = u → ¬ op.Assigns

/-- What `GetPasteData` and `HasPasteData` answer a caller: the content, or
that there is none, with the out-parameter as it was. -/
structure Observes [ToString Uri] (P : Platform)
    (s : PasteboardService Uri Want) (c : Caller)
    (content : Option (PasteData Uri Want)) : Prop where
  getPasteData : ∀ data, ∃ o, s.getPasteData P c data = some o
    ∧ o.value
      = match content with
        | some d => (true, d)
        | none => (false, data)
  hasPasteData : (s.hasPasteData P c).value = content.isSome

/-- **`LastSet` is the content of the user's register.** -/
theorem lastSet_iff {P : Platform} {u : Int} {ops : List (ServiceOp Uri Want)}
    {d : PasteData Uri Want} :
    LastSet P u ops d
      ↔ Register.contents (ServiceOp.clipEffect P) ops u = some d := by
  rw [Register.contents_eq_some_iff]
  constructor
  · intro hyp
    obtain ⟨hu, pre, c, post, heq, hc, hpost⟩ := hyp
    refine ⟨pre, .setPasteData c d, post, heq, ?_, ?_⟩
    · subst hc
      exact if_neg hu
    · -- what assigns `u`'s key is an assigning operation of `u`
      intro op hop w hw
      obtain ⟨hop', _, hcase⟩ := ServiceOp.clipEffect_eq_some hw
      refine hpost op hop hop' ?_
      rcases hcase with ⟨c', d', h, _⟩ | ⟨c', h, _⟩
      · rw [h]
        trivial
      · rw [h]
        trivial
  · intro hyp
    obtain ⟨pre, op, post, heq, hop, hpost⟩ := hyp
    obtain ⟨hu, hne, ⟨c, d', h, hw⟩ | ⟨c, _, hw⟩⟩ :=
      ServiceOp.clipEffect_eq_some hop
    · injection hw with hw
      subst hw h
      refine ⟨hne, pre, c, post, heq, hu, ?_⟩
      intro op' hop' hu' hassigns
      -- an assigning operation of `u` would have an effect on `u`
      cases op' with
      | setPasteData c' d' =>
          refine hpost _ hop' (some d') ?_
          rw [← hu'] at hne ⊢
          exact if_neg hne
      | clear c' =>
          refine hpost _ hop' none ?_
          rw [← hu'] at hne ⊢
          exact if_neg hne
      | _ => exact hassigns
    · cases hw

/-! ## §2. The service refines it. -/

variable [ToString Uri] {P : Platform}

/-- What a caller observes is the clip stored under its user id. -/
theorem observes_clip {s : PasteboardService Uri Want} (hm : s.Measurable)
    (c : Caller) :
    Observes P s c
      (if P.getUserId c.uid = ERROR_USERID then none
        else s.clips[P.getUserId c.uid]?) where
  getPasteData data := by
    have hsome : (s.getPasteData P c data).isSome = true := by
      show ((s.getPasteDataDot P c).map _).isSome = true
      rw [Option.isSome_map]
      exact hm.getPasteDataDot_isSome P c
    obtain ⟨o, ho⟩ := Option.isSome_iff_exists.mp hsome
    refine ⟨o, ho, ?_⟩
    obtain ⟨_, _, _, hvalue⟩ := PasteboardService.getPasteData_cases ho
    rw [hvalue]
    split <;> rfl
  hasPasteData := by
    unfold PasteboardService.hasPasteData
    dsimp only
    by_cases hu : P.getUserId c.uid = ERROR_USERID
    · rw [if_pos hu, if_pos hu]
      rfl
    · rw [if_neg hu, if_neg hu]
      exact Std.TreeMap.contains_eq_isSome_getElem?

/-- A caller observes one thing only. -/
theorem Observes.unique {s : PasteboardService Uri Want} {c : Caller}
    {r r' : Option (PasteData Uri Want)} (h : Observes P s c r)
    (h' : Observes P s c r') : r = r' := by
  obtain ⟨o, ho, hv⟩ := h.getPasteData {}
  obtain ⟨o', ho', hv'⟩ := h'.getPasteData {}
  rw [ho] at ho'
  injection ho' with ho'
  subst ho'
  rw [hv] at hv'
  -- the boolean tells whether there is content, the out-parameter which
  cases r with
  | none =>
      cases r' with
      | none => rfl
      | some d' =>
          injection hv' with hv' _
          cases hv'
  | some d =>
      cases r' with
      | none =>
          injection hv' with hv' _
          cases hv'
      | some d' =>
          injection hv' with _ hv'
          rw [hv']

/-- **The clips after a run are the contents of the register.** -/
theorem run_clips {ops : List (ServiceOp Uri Want)}
    {s : PasteboardService Uri Want} {os : List Event}
    (h : (serviceMachine P).run {} ops = some (s, os)) (v : Int) :
    s.clips[v]? = Register.contents (ServiceOp.clipEffect P) ops v := by
  have hrun := (serviceMachine P).run_abs
    (fun (s : PasteboardService Uri Want) (v : Int) => s.clips[v]?)
    (Register.assign (ServiceOp.clipEffect P))
    (fun s op s' os' hstep => funext (ServiceOp.exec_spec hstep).clips) ops h
  exact congrFun hrun v

theorem run_measurable {ops : List (ServiceOp Uri Want)}
    {s : PasteboardService Uri Want} {os : List Event}
    (h : (serviceMachine P).run {} ops = some (s, os)) : s.Measurable :=
  (serviceMachine P).run_keeps ServiceOp.keeps_measurable ops
    PasteboardService.measurable_empty h

/-- **A run is possible exactly when its data have sizes.** -/
theorem store_possible (P : Platform) (ops : List (ServiceOp Uri Want)) :
    (∃ s os, (serviceMachine P).run {} ops = some (s, os))
      ↔ ∀ op ∈ ops, op.HasSize :=
  (serviceMachine P).run_isSome_iff ServiceOp.keeps_measurable
    (fun _ op hm => ServiceOp.exec_isSome_iff hm op) ops
    PasteboardService.measurable_empty

/-- A step leaves the clips of users other than its own alone. -/
theorem step_frame {s s' : PasteboardService Uri Want}
    {op : ServiceOp Uri Want} {os : List Event} {v : Int}
    (h : (serviceMachine P).step s op = some (s', os))
    (hv : op.userId P ≠ v ∨ op.userId P = ERROR_USERID) :
    s'.clips[v]? = s.clips[v]? := by
  rw [(ServiceOp.exec_spec h).clips v, Register.assign_of_ne]
  intro w hw
  obtain ⟨hop, hne, _⟩ := ServiceOp.clipEffect_eq_some hw
  rcases hv with hv | hv
  · exact hv hop
  · exact hne (hop.symm.trans hv)

/-- **A caller observes the register of clips at its user id.** -/
theorem observes_contents {P : Platform} {ops : List (ServiceOp Uri Want)}
    {s : PasteboardService Uri Want} {os : List Event}
    (hrun : (serviceMachine P).run {} ops = some (s, os)) (c : Caller) :
    Observes P s c (Register.contents (ServiceOp.clipEffect P) ops
      (P.getUserId c.uid)) := by
  have h := observes_clip (run_measurable hrun) c (P := P)
  by_cases hu : P.getUserId c.uid = ERROR_USERID
  · -- nothing is ever assigned to the error value
    have hnone : Register.contents (ServiceOp.clipEffect P) ops
        (P.getUserId c.uid) = none := by
      cases hr : Register.contents (ServiceOp.clipEffect P) ops
        (P.getUserId c.uid) with
      | none => rfl
      | some d => exact absurd hu (lastSet_iff.mpr hr).1
    rw [if_pos hu] at h
    rw [hnone]
    exact h
  · rw [if_neg hu, run_clips hrun] at h
    exact h

/-- What is observed of a clip that stays is observed again. -/
theorem Observes.of_clip_eq {P : Platform} {s s' : PasteboardService Uri Want}
    {c : Caller} {r : Option (PasteData Uri Want)} (hr : Observes P s c r)
    (hm : s.Measurable) (hm' : s'.Measurable)
    (hclip : s'.clips[P.getUserId c.uid]? = s.clips[P.getUserId c.uid]?) :
    Observes P s' c r := by
  have h := observes_clip hm c (P := P)
  have h' := observes_clip hm' c (P := P)
  rw [hclip] at h'
  rw [hr.unique h]
  exact h'

/-- **THE STORE.**  A run is possible exactly when its data have sizes.  After
every possible run, a caller observes the data its user set last, or nothing
where it has set none since it last cleared; and a further operation changes
neither the clip of another user nor what a caller of that user observes. -/
theorem store_correct (P : Platform) (ops : List (ServiceOp Uri Want)) :
    ((∃ s os, (serviceMachine P).run {} ops = some (s, os))
        ↔ ∀ op ∈ ops, op.HasSize)
      ∧ ∀ s os, (serviceMachine P).run {} ops = some (s, os) →
        (∀ c d, LastSet P (P.getUserId c.uid) ops d →
            Observes P s c (some d))
          ∧ (∀ c, (∀ d, ¬ LastSet P (P.getUserId c.uid) ops d) →
            Observes P s c none)
          ∧ ∀ op s' os', (serviceMachine P).step s op = some (s', os') →
            ∀ v, op.userId P ≠ v ∨ op.userId P = ERROR_USERID →
              s'.clips[v]? = s.clips[v]?
                ∧ ∀ c r, P.getUserId c.uid = v → Observes P s c r →
                  Observes P s' c r := by
  refine ⟨store_possible P ops, ?_⟩
  · intro s os hrun
    refine ⟨?_, ?_, ?_⟩
    · -- the register holds what was set last
      intro c d hlast
      have h := observes_contents hrun c
      rw [lastSet_iff.mp hlast] at h
      exact h
    · intro c hnone
      have h := observes_contents hrun c
      cases hr : Register.contents (ServiceOp.clipEffect P) ops
        (P.getUserId c.uid) with
      | none =>
          rw [hr] at h
          exact h
      | some d => exact absurd (lastSet_iff.mpr hr) (hnone d)
    · -- the frame of one more operation
      intro op s' os' hstep v hv
      have hm : s.Measurable := run_measurable hrun
      have hm' : s'.Measurable := ServiceOp.keeps_measurable s op s' os' hm hstep
      have hframe : s'.clips[v]? = s.clips[v]? := step_frame hstep hv
      refine ⟨hframe, ?_⟩
      intro c r hc hr
      subst hc
      exact hr.of_clip_eq hm hm' hframe

end Pasteboard
