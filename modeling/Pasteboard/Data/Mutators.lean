/-
  Pasteboard.Data.Mutators
  ────────────────────────
  **THE PUBLIC MUTATORS, AND WHAT THE READERS NEED.**

  The readers follow every record pointer without a check, so they need every
  stored pointer to be non-null.  The adders keep this.  Two mutators break
  it: `removeRecordAt` inserts a null pointer (and makes the list longer),
  `replaceRecordAt` stores the pointer it is given.  A mutator keeps the paste
  data well formed exactly when it is not such a call (`apply_iff`).
-/
import Pasteboard.Data.PasteData

namespace Pasteboard

open Lib

variable {Uri Want : Type}

/-! ## §1. The mutators as one type. -/

/-- A call of a public mutator. -/
inductive Mutator (Uri Want : Type) where
  | addHtmlRecord (html : String)
  | addWantRecord (want : Option Want)
  | addTextRecord (text : String)
  | addUriRecord (uri : Uri)
  | addRecord (record : Option (PasteDataRecord Uri Want))
  | addRecordRef (record : PasteDataRecord Uri Want)
  | removeRecordAt (number : Nat)
  | replaceRecordAt (number : Nat) (record : Option (PasteDataRecord Uri Want))

/-- The paste data after the call. -/
def Mutator.apply (d : PasteData Uri Want) :
    Mutator Uri Want → PasteData Uri Want
  | .addHtmlRecord html => d.addHtmlRecord html
  | .addWantRecord want => d.addWantRecord want
  | .addTextRecord text => d.addTextRecord text
  | .addUriRecord uri => d.addUriRecord uri
  | .addRecord record => d.addRecord record
  | .addRecordRef record => d.addRecordRef record
  | .removeRecordAt number => (d.removeRecordAt number).2
  | .replaceRecordAt number record => (d.replaceRecordAt number record).2

/-- The call does not hit a record of `d` with `RemoveRecordAt`, nor with
`ReplaceRecordAt` and a null pointer. -/
def Mutator.Spares (d : PasteData Uri Want) : Mutator Uri Want → Prop
  | .removeRecordAt number => d.getRecordCount ≤ number
  | .replaceRecordAt number record =>
      record = none → d.getRecordCount ≤ number
  | _ => True

namespace PasteData

/-! ## §2. Well-formed paste data. -/

/-- At most 128 records, no stored pointer null. -/
structure WellFormed (d : PasteData Uri Want) : Prop where
  count_le : d.getRecordCount ≤ MAX_RECORD_NUM
  nonNull : none ∉ d.allRecords

/-- None of the readers follows a null pointer. -/
structure ReadersSafe (d : PasteData Uri Want) : Prop where
  getMimeTypes : d.getMimeTypes.isSome = true
  hasMimeType : ∀ mimeType, (d.hasMimeType mimeType).isSome = true
  getPrimaryHtml : d.getPrimaryHtml.isSome = true
  getPrimaryText : d.getPrimaryText.isSome = true
  getPrimaryUri : d.getPrimaryUri.isSome = true
  getPrimaryWant : d.getPrimaryWant.isSome = true
  getPrimaryMimeType : d.getPrimaryMimeType.isSome = true

/-- A list without null pointers is a list of records. -/
theorem eq_map_some : ∀ os : List (Option (PasteDataRecord Uri Want)),
    none ∉ os → os = (os.filterMap id).map some
  | [], _ => rfl
  | o :: os, h => by
      rw [List.mem_cons, not_or] at h
      have ih := eq_map_some os h.2
      cases o with
      | none => exact absurd rfl h.1
      | some r =>
          show some r :: os = some r :: (os.filterMap id).map some
          rw [← ih]

/-- **Readers of well-formed paste data follow no null pointer.** -/
theorem WellFormed.readersSafe {d : PasteData Uri Want} (h : d.WellFormed) :
    d.ReadersSafe := by
  obtain ⟨rs, hrs⟩ : ∃ rs : List (PasteDataRecord Uri Want),
      d.records = rs.map some := ⟨_, eq_map_some d.records h.nonNull⟩
  have hprimary : ∀ {α : Type} (m : String)
      (get : PasteDataRecord Uri Want → Option α),
      (getPrimary m get d.records).isSome = true := by
    intro α m get
    rw [hrs, getPrimary_of_some]
    rfl
  exact
    { getMimeTypes := by rw [getMimeTypes_of_some d rs hrs]; rfl
      hasMimeType := by
        intro m
        show (hasMimeType.go m d.records).isSome = true
        rw [hrs, hasMimeType_of_some]
        rfl
      getPrimaryHtml := hprimary _ _
      getPrimaryText := hprimary _ _
      getPrimaryUri := hprimary _ _
      getPrimaryWant := hprimary _ _
      getPrimaryMimeType := by
        unfold getPrimaryMimeType
        rw [hrs]
        cases rs <;> rfl }

theorem wellFormed_empty : ({} : PasteData Uri Want).WellFormed where
  count_le := Nat.zero_le _
  nonNull h := by cases h

/-! ## §3. One mutator. -/

/-- `AddRecord` drops a null pointer and keeps to the cap. -/
theorem WellFormed.addRecord {d : PasteData Uri Want} (h : d.WellFormed)
    (o : Option (PasteDataRecord Uri Want)) : (d.addRecord o).WellFormed := by
  cases o with
  | none => exact h
  | some r =>
      refine ⟨length_pushFront_le h.count_le _, ?_⟩
      intro hnone
      rcases mem_pushFront hnone with hr | hold
      · cases hr
      · exact h.nonNull hold

/-- `RemoveRecordAt` in range stores the emplaced null pointer. -/
theorem WellFormed.removeRecordAt_iff {d : PasteData Uri Want}
    (h : d.WellFormed) (number : Nat) :
    (d.removeRecordAt number).2.WellFormed ↔ d.records.length ≤ number := by
  by_cases hlt : number < d.records.length
  · refine iff_of_false ?_ (by omega)
    intro hwf
    apply hwf.nonNull
    show none ∈ (d.removeRecordAt number).2.records
    rw [removeRecordAt_records hlt, List.mem_insertIdx (by omega)]
    exact Or.inl rfl
  · rw [removeRecordAt_of_le (by omega)]
    exact iff_of_true h (by omega)

/-- `ReplaceRecordAt` by a record changes neither the count nor the other
records. -/
theorem WellFormed.replaceRecordAt_some {d : PasteData Uri Want}
    (h : d.WellFormed) {number : Nat} (hlt : number < d.records.length)
    (r : PasteDataRecord Uri Want) :
    (d.replaceRecordAt number (some r)).2.WellFormed where
  count_le := by
    show (d.replaceRecordAt number (some r)).2.records.length ≤ _
    rw [replaceRecordAt_records (some r) hlt, List.length_set]
    exact h.count_le
  nonNull := by
    show none ∉ (d.replaceRecordAt number (some r)).2.records
    rw [replaceRecordAt_records (some r) hlt]
    intro hnone
    rcases List.mem_or_eq_of_mem_set hnone with hold | hr
    · exact h.nonNull hold
    · cases hr

/-- `ReplaceRecordAt` in range stores the pointer it is given. -/
theorem WellFormed.replaceRecordAt_iff {d : PasteData Uri Want}
    (h : d.WellFormed) (number : Nat)
    (record : Option (PasteDataRecord Uri Want)) :
    (d.replaceRecordAt number record).2.WellFormed
      ↔ (record = none → d.records.length ≤ number) := by
  by_cases hlt : number < d.records.length
  · cases record with
    | none =>
        refine iff_of_false ?_ ?_
        · intro hwf
          apply hwf.nonNull
          show none ∈ (d.replaceRecordAt number none).2.records
          rw [replaceRecordAt_records none hlt]
          exact List.mem_set hlt none
        · intro hle
          have hle' := hle rfl
          omega
    | some r => exact iff_of_true (h.replaceRecordAt_some hlt r) nofun
  · rw [replaceRecordAt_of_le record (by omega)]
    exact iff_of_true h (fun _ => by omega)

/-- **One mutator keeps well-formedness exactly when it spares the
records.** -/
theorem WellFormed.apply_iff {d : PasteData Uri Want} (h : d.WellFormed)
    (op : Mutator Uri Want) : (op.apply d).WellFormed ↔ op.Spares d := by
  cases op with
  | addHtmlRecord html =>
      have hadd := h.addRecord (PasteDataRecord.newHtmlRecord html)
      exact iff_of_true hadd trivial
  | addWantRecord want =>
      have hadd := h.addRecord (PasteDataRecord.newWantRecord want)
      exact iff_of_true hadd trivial
  | addTextRecord text =>
      have hadd := h.addRecord (PasteDataRecord.newPlaintTextRecord text)
      exact iff_of_true hadd trivial
  | addUriRecord uri =>
      have hadd := h.addRecord (PasteDataRecord.newUriRecord uri)
      exact iff_of_true hadd trivial
  | addRecord record => exact iff_of_true (h.addRecord _) trivial
  | addRecordRef record =>
      have hadd := h.addRecord (some record)
      exact iff_of_true ⟨hadd.count_le, hadd.nonNull⟩ trivial
  | removeRecordAt number => exact h.removeRecordAt_iff number
  | replaceRecordAt number record => exact h.replaceRecordAt_iff number record

end PasteData

end Pasteboard
