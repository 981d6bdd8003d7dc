/-
  Pasteboard.Data.Views
  ─────────────────────
  **WHAT THE READERS SHOW OF A PASTE DATA**, and when that is what their names
  say.

    • `RemoveRecordAt` inserts where it should erase: it does what it says out
      of range only (`removesAt_iff`).
    • Two of the three MIME views are computed from the records and agree with
      each other (`WellFormed.recordViews`); the third, `GetProperty`, answers
      an empty list whatever there is.  So the three agree on paste data
      without records only, and no mutator ever takes a record away
      (`mimeViewsAgree_iff`).
-/
import Pasteboard.Data.History

namespace Pasteboard

open Lib

variable {Uri Want : Type}

namespace PasteData

/-! ## §1. `RemoveRecordAt`. -/

/-- `RemoveRecordAt i` removes the record at `i` and nothing else. -/
structure RemovesAt (d : PasteData Uri Want) (i : Nat) : Prop where
  value : i < d.getRecordCount → (d.removeRecordAt i).1 = true
  count : i < d.getRecordCount →
    (d.removeRecordAt i).2.getRecordCount = d.getRecordCount - 1
  before : i < d.getRecordCount → ∀ j, j < i →
    (d.removeRecordAt i).2.getRecordAt j = d.getRecordAt j
  after : i < d.getRecordCount → ∀ j, i ≤ j → j < d.getRecordCount - 1 →
    (d.removeRecordAt i).2.getRecordAt j = d.getRecordAt (j + 1)
  mimeTypes : i < d.getRecordCount → ∀ mimeTypes,
    d.getMimeTypes = some mimeTypes →
      (d.removeRecordAt i).2.getMimeTypes = some (mimeTypes.eraseIdx i)
  outOfRange : d.getRecordCount ≤ i → d.removeRecordAt i = (false, d)

/-- In range, the records are one MORE afterwards. -/
theorem removeRecordAt_count {d : PasteData Uri Want} {i : Nat}
    (h : i < d.getRecordCount) :
    (d.removeRecordAt i).2.getRecordCount = d.getRecordCount + 1 := by
  show (d.removeRecordAt i).2.records.length = d.records.length + 1
  rw [removeRecordAt_records h]
  exact List.length_insertIdx_of_le_length (Nat.le_of_lt h) none

/-- **`RemoveRecordAt` removes the record at its index exactly where there is
none.** -/
theorem removesAt_iff (d : PasteData Uri Want) (i : Nat) :
    d.RemovesAt i ↔ d.getRecordCount ≤ i := by
  constructor
  · intro h
    by_contra hlt
    -- in range the count tells
    have hi : i < d.getRecordCount := by omega
    have hcount := h.count hi
    rw [removeRecordAt_count hi] at hcount
    omega
  · intro hle
    have hno : ¬ i < d.getRecordCount := by omega
    exact
      { value := fun hlt => absurd hlt hno
        count := fun hlt => absurd hlt hno
        before := fun hlt => absurd hlt hno
        after := fun hlt => absurd hlt hno
        mimeTypes := fun hlt => absurd hlt hno
        outOfRange := fun _ => removeRecordAt_of_le hle }

/-- **Removing the only record leaves two entries**, the record and a null
pointer in front of it. -/
theorem removesAt_onlyText :
    ¬ ∀ (d : PasteData String String) (i : Nat), d.RemovesAt i := by
  intro h
  have hcount := (h (({} : PasteData String String).addTextRecord "a") 0).count
    (by decide)
  revert hcount
  decide

/-! ## §2. The MIME views. -/

/-- Some record has the MIME type `m`. -/
def Carries (d : PasteData Uri Want) (m : String) : Prop :=
  ∃ r, some r ∈ d.allRecords ∧ r.mimeType = m

/-- The views computed from the records answer, and show their MIME types. -/
structure RecordViews (d : PasteData Uri Want) : Prop where
  hasMimeType : ∀ m, ∃ b, d.hasMimeType m = some b ∧ (b = true ↔ d.Carries m)
  getMimeTypes : ∃ ms, d.getMimeTypes = some ms ∧ ∀ m, m ∈ ms ↔ d.Carries m

/-- All three views show the MIME types of the records, the property without
repetition. -/
structure MimeViewsAgree (d : PasteData Uri Want) : Prop
    extends RecordViews d where
  getProperty : ∀ m, m ∈ d.getProperty.mimeTypes ↔ d.Carries m
  nodup : d.getProperty.mimeTypes.Nodup

theorem carries_of_some {d : PasteData Uri Want}
    {rs : List (PasteDataRecord Uri Want)} (h : d.records = rs.map some)
    (m : String) : d.Carries m ↔ ∃ r ∈ rs, r.mimeType = m := by
  unfold Carries allRecords
  rw [h]
  simp

/-- **The views computed from the records agree**, where no pointer is
null. -/
theorem recordViews_of_nonNull {d : PasteData Uri Want}
    (h : none ∉ d.allRecords) : d.RecordViews := by
  obtain ⟨rs, hrs⟩ : ∃ rs : List (PasteDataRecord Uri Want),
      d.records = rs.map some := ⟨_, eq_map_some d.records h⟩
  constructor
  · intro m
    have hhas : d.hasMimeType m = some (rs.any (·.mimeType == m)) := by
      show hasMimeType.go m d.records = _
      rw [hrs]
      exact hasMimeType_of_some m rs
    refine ⟨_, hhas, ?_⟩
    rw [carries_of_some hrs]
    simp
  · refine ⟨_, getMimeTypes_of_some d _ hrs, ?_⟩
    intro m
    rw [carries_of_some hrs]
    simp

/-- **All three agree on paste data without records only.** -/
theorem mimeViewsAgree_iff_nil (d : PasteData Uri Want) :
    d.MimeViewsAgree ↔ d.records = [] := by
  constructor
  · intro h
    cases hrec : d.records with
    | nil => rfl
    | cons o os =>
        exfalso
        cases o with
        | none =>
            -- `HasMimeType` follows a null pointer in front
            obtain ⟨b, hb, _⟩ := h.hasMimeType ""
            have hnone : d.hasMimeType "" = none := by
              show hasMimeType.go "" d.records = none
              rw [hrec]
              rfl
            rw [hnone] at hb
            cases hb
        | some r =>
            -- the property does not show the first record
            have hr : d.Carries r.mimeType := by
              refine ⟨r, ?_, rfl⟩
              unfold allRecords
              simp [hrec]
            have hmem := (h.getProperty r.mimeType).mpr hr
            cases hmem
  · intro h
    have hviews : d.RecordViews := by
      apply recordViews_of_nonNull
      unfold allRecords
      simp [h]
    refine ⟨hviews, ?_, List.nodup_nil⟩
    intro m
    have hno : ¬ d.Carries m := by
      unfold Carries allRecords
      simp [h]
    exact iff_of_false nofun hno

/-! ## §3. No mutator takes a record away. -/

/-- A call leaves no records exactly where there were none and it brings
none. -/
theorem apply_records_eq_nil_iff (d : PasteData Uri Want)
    (op : Mutator Uri Want) :
    (op.apply d).records = [] ↔ d.records = [] ∧ op.added = none := by
  by_cases hadds : op.Adds
  · rw [Mutator.apply_of_adds hadds]
    cases op.added with
    | none => simp
    | some r =>
        -- the new record is in front
        refine iff_of_false ?_ (by simp)
        show pushFront MAX_RECORD_NUM d.records (some r) ≠ []
        unfold pushFront MAX_RECORD_NUM
        split
        · next hlen =>
            intro hnil
            have h := congrArg List.length hnil
            simp only [List.length_dropLast, List.length_cons,
              List.length_nil] at h hlen
            omega
        · simp
  · cases op with
    | removeRecordAt i =>
        show (d.removeRecordAt i).2.records = [] ↔ _ ∧ none = none
        by_cases hi : i < d.records.length
        · have hcount : (d.removeRecordAt i).2.records.length
              = d.records.length + 1 := removeRecordAt_count hi
          rw [← List.length_eq_zero_iff, ← List.length_eq_zero_iff]
          simp only [and_true]
          omega
        · rw [removeRecordAt_of_le (by omega)]
          simp
    | replaceRecordAt i record =>
        show (d.replaceRecordAt i record).2.records = [] ↔ _ ∧ none = none
        by_cases hi : i < d.records.length
        · rw [replaceRecordAt_records record hi]
          simp
        · rw [replaceRecordAt_of_le record (by omega)]
          simp
    | _ => exact absurd trivial hadds

theorem foldl_apply_records_eq_nil_iff :
    ∀ (ops : List (Mutator Uri Want)) (d : PasteData Uri Want),
      (ops.foldl Mutator.apply d).records = []
        ↔ d.records = [] ∧ ∀ op ∈ ops, op.added = none := by
  intro ops
  induction ops with
  | nil =>
      intro d
      simp
  | cons op ops ih =>
      intro d
      rw [List.foldl_cons, ih, apply_records_eq_nil_iff]
      simp [and_assoc]

/-- **THE MIME VIEWS.**  Whatever paste data a run of mutators starts from, the
three views of the MIME types agree after it exactly where it started without
records and no call brought one. -/
theorem mimeViewsAgree_iff (d : PasteData Uri Want)
    (ops : List (Mutator Uri Want)) :
    (ops.foldl Mutator.apply d).MimeViewsAgree
      ↔ d.records = [] ∧ ∀ op ∈ ops, op.added = none := by
  rw [mimeViewsAgree_iff_nil, foldl_apply_records_eq_nil_iff]

/-- **The MIME type of a text just added is not in the property.** -/
theorem mimeViewsAgree_oneText :
    ¬ ∀ ops : List (Mutator String String),
      (ops.foldl Mutator.apply {}).MimeViewsAgree := by
  intro h
  have hmem := ((h [.addTextRecord "a"]).getProperty "text/plain").mpr
    ⟨⟨"text/plain", none, none, some "a", none⟩, by decide, rfl⟩
  cases hmem

end PasteData

end Pasteboard
