/-
  Pasteboard.Service.Content
  ──────────────────────────
  **IS THERE CONTENT?**

  `HasPasteData` asks whether the user has a clip, not whether the clip has a
  record.  So what it answers is whether there is content if and only if no
  clip without records is ever stored (`contentAgrees_iff`).  Such clips exist:
  a text of 500 KiB or more is refused when it is added, and the data it was
  to be added to are stored all the same.
-/
import Pasteboard.Service.Store
import Pasteboard.Data.History

namespace Pasteboard

open Lib

variable {Uri Want : Type}

/-! ## §1. Content. -/

/-- Every caller is told that there is content where, and only where,
`GetPasteData` delivers a record to it. -/
def ContentAgrees [ToString Uri] (P : Platform)
    (s : PasteboardService Uri Want) : Prop :=
  ∀ c data, ∃ o, s.getPasteData P c data = some o
    ∧ ((s.hasPasteData P c).value = true
      ↔ o.value.1 = true ∧ 0 < o.value.2.getRecordCount)

/-- A `SetPasteData` by a resolved user has a record to store. -/
def ServiceOp.SetsContent (P : Platform) : ServiceOp Uri Want → Prop
  | .setPasteData c pasteData =>
      P.getUserId c.uid ≠ ERROR_USERID → 0 < pasteData.getRecordCount
  | _ => True

namespace PasteboardService

/-- Every stored clip has a record. -/
def AllContent (s : PasteboardService Uri Want) : Prop :=
  ∀ (u : Int) d, s.clips[u]? = some d → 0 < d.getRecordCount

theorem allContent_empty : ({} : PasteboardService Uri Want).AllContent := by
  intro u d h
  exact absurd h not_clip_empty

variable [ToString Uri] {P : Platform} {s s' : PasteboardService Uri Want}

/-- Where all clips have a record, the answers agree. -/
theorem AllContent.contentAgrees (h : s.AllContent) (hm : s.Measurable) :
    ContentAgrees P s := by
  intro c data
  have hobs := observes_clip hm c (P := P)
  obtain ⟨o, ho, hvalue⟩ := hobs.getPasteData data
  refine ⟨o, ho, ?_⟩
  rw [hobs.hasPasteData, hvalue]
  by_cases hu : P.getUserId c.uid = ERROR_USERID
  · simp [hu]
  · simp only [hu, if_false]
    cases hd : s.clips[P.getUserId c.uid]? with
    | none => simp
    | some d => simp [h _ d hd]

end PasteboardService

variable [ToString Uri]

/-- A caller whose user has a clip is told that there is content. -/
theorem ContentAgrees.count_pos {P : Platform}
    {s : PasteboardService Uri Want} (h : ContentAgrees P s) {c : Caller}
    {d : PasteData Uri Want} (hu : P.getUserId c.uid ≠ ERROR_USERID)
    (hd : s.clips[P.getUserId c.uid]? = some d) : 0 < d.getRecordCount := by
  obtain ⟨o, ho, hiff⟩ := h c {}
  obtain ⟨_, _, _, hvalue⟩ := PasteboardService.getPasteData_cases ho
  have hhas : (s.hasPasteData P c).value = true := by
    unfold PasteboardService.hasPasteData
    dsimp only
    rw [if_neg hu]
    show s.clips.contains _ = true
    rw [Std.TreeMap.contains_eq_isSome_getElem?, hd]
    rfl
  rw [if_neg hu, hd] at hvalue
  have hcount := (hiff.mp hhas).2
  rw [hvalue] at hcount
  exact hcount

/-! ## §2. Runs. -/

/-- A step that sets content, if it sets anything, keeps it. -/
theorem ServiceOp.StepSpec.allContent {P : Platform}
    {op : ServiceOp Uri Want} {s s' : PasteboardService Uri Want}
    {os : List Event} (h : StepSpec P op s s' os) (hs : s.AllContent)
    (hop : op.SetsContent P) : s'.AllContent := by
  intro v d hd
  rcases h.clips_cases hd with hold | ⟨hne, huser, c, hset⟩
  · exact hs v d hold
  · subst hset huser
    exact hop hne

/-- **HAS, AND GETS.**  In every state of a run, every caller is told that
there is content exactly where `GetPasteData` delivers a record to it, if and
only if every `SetPasteData` of the run by a resolved user has a record. -/
theorem contentAgrees_iff (P : Platform) (ops : List (ServiceOp Uri Want))
    (s : PasteboardService Uri Want) (os : List Event)
    (hrun : (serviceMachine P).run {} ops = some (s, os)) :
    (serviceMachine P).Always (ContentAgrees P) {} ops
      ↔ ∀ op ∈ ops, op.SetsContent P := by
  rw [← (serviceMachine P).allSteps_iff_forall ops hrun]
  refine (serviceMachine P).always_iff_allSteps
    (fun s => s.AllContent ∧ s.Measurable) ?_ ?_ ?_ ops
    ⟨PasteboardService.allContent_empty, PasteboardService.measurable_empty⟩
    hrun
  · intro s op s' os hs hop hstep
    exact ⟨(ServiceOp.exec_spec hstep).allContent hs.1 hop,
      ServiceOp.keeps_measurable s op s' os hs.2 hstep⟩
  · intro s hs
    exact hs.1.contentAgrees hs.2
  · intro s op s' os _ hstep hagrees
    cases op with
    | setPasteData c d =>
        intro hu
        -- the caller has the data for a clip now
        have hspec : ServiceOp.StepSpec P (.setPasteData c d) s s' os :=
          ServiceOp.exec_spec hstep
        have hclip := hspec.clips (P.getUserId c.uid)
        have heff : ServiceOp.clipEffect P (.setPasteData c d)
            = some (P.getUserId c.uid, some d) := if_neg hu
        rw [Register.assign_of_eq heff] at hclip
        exact hagrees.count_pos hu hclip
    | _ => trivial

/-- A copy with a record, and a `Clear`. -/
theorem contentAgrees_oneText :
    (serviceMachine samplePlatform).Always (ContentAgrees samplePlatform) {}
      ([.setPasteData callerOf100 (PasteboardClient.createPlainTextData "a"),
        .clear callerOf100] : List (ServiceOp String String)) := by
  refine (contentAgrees_iff samplePlatform _ _ _ rfl).mpr ?_
  intro op hop
  simp only [List.mem_cons, List.not_mem_nil, or_false] at hop
  rcases hop with h | h <;> subst h
  · intro _
    decide
  · trivial

/-- **A text of 500 KiB is copied without a record**, and there is said to be
content. -/
theorem contentAgrees_longText :
    ¬ ∀ (P : Platform) (ops : List (ServiceOp String String))
        (s : PasteboardService String String) (os : List Event),
      (serviceMachine P).run {} ops = some (s, os) → ContentAgrees P s := by
  intro h
  have hlong : (PasteboardClient.createPlainTextData
      (PasteboardClient.textOfLength MAX_TEXT_LEN) : PasteData String String)
        = {} := (PasteboardClient.createData_of_long (by simp)).1
  have hagrees := h samplePlatform
    [.setPasteData callerOf100 (PasteboardClient.createPlainTextData
      (PasteboardClient.textOfLength MAX_TEXT_LEN))] _ _ (by rw [hlong]; rfl)
  -- user 100 has a clip without records
  have hcount := hagrees.count_pos (c := callerOf100) (d := {}) (by decide)
    (by decide)
  revert hcount
  decide

end Pasteboard
