/-
  Pasteboard.Ipc.MimeCache
  ────────────────────────
  **THE CACHED MIME TYPES** of a paste data (`props_.mimeTypes`), which
  `RefreshMimeProp` rebuilds from the records.

    • A call that touches the records rebuilds the cache, whatever it was
      (`cacheCoherent_apply`); one that does not changes nothing at all
      (`apply_of_not_refreshes`).
    • The default constructor and `Unmarshalling` start with the cache right.
      The constructor from a record vector never fills it, so there the cache
      is right from the first call on that touches the records
      (`mimeCache_iff`).
-/
import Pasteboard.Data.History
import Pasteboard.Ipc.Decoded

namespace Pasteboard

open Lib

variable {Uri Want : Type}

/-! ## §1. The cache and the calls that rebuild it. -/

/-- The cache holds the MIME types of the records that are not null, in
order. -/
def PasteData.CacheCoherent (d : PasteData Uri Want) : Prop :=
  d.props.mimeTypes = d.records.filterMap fun r => r.map (·.mimeType)

namespace PasteData

theorem cacheCoherent_refreshMimeProp (d : PasteData Uri Want) :
    d.refreshMimeProp.CacheCoherent := rfl

theorem cacheCoherent_addRecordRef (d : PasteData Uri Want)
    (r : PasteDataRecord Uri Want) : (d.addRecordRef r).CacheCoherent := rfl

end PasteData

namespace Mutator

/-- On `n` records, the call is not refused and its index is in range. -/
def Refreshes (n : Nat) : Mutator Uri Want → Prop
  | .removeRecordAt number => number < n
  | .replaceRecordAt number _ => number < n
  | op => ¬ op.Refused

/-- For an adder the number of records does not matter. -/
theorem refreshes_of_adds {op : Mutator Uri Want} (h : op.Adds) (n : Nat) :
    op.Refreshes n ↔ ¬ op.Refused := by
  cases op with
  | removeRecordAt number => exact h.elim
  | replaceRecordAt number record => exact h.elim
  | _ => exact Iff.rfl

/-- **A call that touches the records rebuilds the cache.** -/
theorem cacheCoherent_apply {d : PasteData Uri Want} {op : Mutator Uri Want}
    (h : op.Refreshes d.records.length) : (op.apply d).CacheCoherent := by
  by_cases hadd : op.Adds
  · -- an accepted record goes through `AddRecord`
    have hsome : op.added ≠ none := by
      rw [ne_eq, added_eq_none_iff hadd]
      exact (refreshes_of_adds hadd _).mp h
    obtain ⟨r, hr⟩ := Option.ne_none_iff_exists'.mp hsome
    rw [apply_of_adds hadd, hr]
    exact d.cacheCoherent_addRecordRef r
  · cases op with
    | removeRecordAt number =>
        show (d.removeRecordAt number).2.CacheCoherent
        have hlt : d.records.length > number := h
        rw [PasteData.removeRecordAt, if_pos hlt]
        exact PasteData.cacheCoherent_refreshMimeProp _
    | replaceRecordAt number record =>
        show (d.replaceRecordAt number record).2.CacheCoherent
        have hlt : d.records.length > number := h
        rw [PasteData.replaceRecordAt, if_pos hlt]
        exact PasteData.cacheCoherent_refreshMimeProp _
    | _ => exact absurd trivial hadd

/-- **Any other call changes nothing.** -/
theorem apply_of_not_refreshes {d : PasteData Uri Want}
    {op : Mutator Uri Want} (h : ¬ op.Refreshes d.records.length) :
    op.apply d = d := by
  by_cases hadd : op.Adds
  · rw [refreshes_of_adds hadd, not_not] at h
    exact apply_of_refused hadd h d
  · cases op with
    | removeRecordAt number =>
        show (d.removeRecordAt number).2 = d
        rw [PasteData.removeRecordAt_of_le (Nat.le_of_not_lt h)]
    | replaceRecordAt number record =>
        show (d.replaceRecordAt number record).2 = d
        rw [PasteData.replaceRecordAt_of_le record (Nat.le_of_not_lt h)]
    | _ => exact absurd trivial hadd

end Mutator

/-! ## §2. Runs. -/

namespace PasteData

/-- No call spoils a cache that is right. -/
theorem CacheCoherent.apply {d : PasteData Uri Want} (h : d.CacheCoherent)
    (op : Mutator Uri Want) : (op.apply d).CacheCoherent := by
  by_cases hop : op.Refreshes d.records.length
  · exact Mutator.cacheCoherent_apply hop
  · rw [Mutator.apply_of_not_refreshes hop]
    exact h

theorem CacheCoherent.foldl_apply (ops : List (Mutator Uri Want)) :
    ∀ {d : PasteData Uri Want}, d.CacheCoherent →
      (ops.foldl Mutator.apply d).CacheCoherent := by
  induction ops with
  | nil =>
      intro d h
      exact h
  | cons op ops ih =>
      intro d h
      rw [List.foldl_cons]
      exact ih (h.apply op)

/-- **After a run the cache is right** if it was before, or if some call would
touch the records the run starts with. -/
theorem cacheCoherent_foldl_iff (ops : List (Mutator Uri Want)) :
    ∀ d : PasteData Uri Want,
      (ops.foldl Mutator.apply d).CacheCoherent
        ↔ d.CacheCoherent ∨ ∃ op ∈ ops, op.Refreshes d.records.length := by
  induction ops with
  | nil =>
      intro d
      simp
  | cons op ops ih =>
      intro d
      rw [List.foldl_cons]
      by_cases hop : op.Refreshes d.records.length
      · have hd : (op.apply d).CacheCoherent := Mutator.cacheCoherent_apply hop
        exact iff_of_true (hd.foldl_apply ops)
          (Or.inr ⟨op, List.mem_cons_self, hop⟩)
      · -- the call left the paste data as it was
        rw [Mutator.apply_of_not_refreshes hop, ih d]
        simp [hop]

/-- The cache of the record-vector constructor is empty. -/
theorem cacheCoherent_ofRecords_iff (now : Int)
    (records : List (Option (PasteDataRecord Uri Want))) :
    (ofRecords now records).CacheCoherent ↔ ∀ r ∈ records, r = none := by
  show [] = records.filterMap _ ↔ _
  rw [eq_comm, List.filterMap_eq_nil_iff]
  simp

theorem cacheCoherent_unmarshalling {E : Ipc Uri Want} {b : E.Parcel}
    {d : PasteData Uri Want} (h : (unmarshalling E b).1 = some d) :
    d.CacheCoherent := by
  rw [unmarshalling_eq] at h
  injection h with h
  subst h
  -- the decoder's loop is a run of `AddRecord`s on a default constructed data
  generalize (declaredOutcomes E b).filterMap id = rs
  have hrun := CacheCoherent.foldl_apply (rs.map Mutator.addRecordRef)
    (d := ({} : PasteData Uri Want)) rfl
  rw [List.foldl_map] at hrun
  exact hrun

end PasteData

/-! ## §3. The three ways to build a paste data. -/

/-- The constructor called, and what it is called with. -/
inductive Origin (E : Ipc Uri Want) where
  | default
  | ofRecords (now : Int) (records : List (Option (PasteDataRecord Uri Want)))
  | unmarshalling (b : E.Parcel)

namespace Origin

variable {E : Ipc Uri Want}

def pasteData : Origin E → Option (PasteData Uri Want)
  | .default => some {}
  | .ofRecords now records => some (PasteData.ofRecords now records)
  | .unmarshalling b => (PasteData.unmarshalling E b).1

/-- Built from a vector that holds a record, the paste data has seen a call
that touches the vector's entries. -/
def Refreshed (ops : List (Mutator Uri Want)) : Origin E → Prop
  | .ofRecords _ records =>
      (∀ r ∈ records, r = none) ∨ ∃ op ∈ ops, op.Refreshes records.length
  | _ => True

end Origin

namespace PasteData

/-- **THE CACHE IS RIGHT UNLESS A RECORD VECTOR WAS NEVER TOUCHED.**  However
a paste data was built and whatever calls came after, the cached MIME types
are those of its records if and only if it did not come from a vector with a
record in it, or some call was an accepted add or had its index in the
vector. -/
theorem mimeCache_iff (E : Ipc Uri Want) (o : Origin E) :
    ∃ d, o.pasteData = some d ∧ ∀ ops : List (Mutator Uri Want),
      (ops.foldl Mutator.apply d).CacheCoherent ↔ o.Refreshed ops := by
  cases o with
  | default =>
      refine ⟨{}, rfl, fun ops => iff_of_true ?_ trivial⟩
      exact CacheCoherent.foldl_apply ops rfl
  | ofRecords now records =>
      refine ⟨ofRecords now records, rfl, fun ops => ?_⟩
      rw [cacheCoherent_foldl_iff, cacheCoherent_ofRecords_iff]
      exact Iff.rfl
  | unmarshalling b =>
      obtain ⟨d, hd⟩ := Option.isSome_iff_exists.mp (unmarshalling_isSome E b)
      refine ⟨d, hd, fun ops => iff_of_true ?_ trivial⟩
      exact CacheCoherent.foldl_apply ops (cacheCoherent_unmarshalling hd)

/-- **A vector of one text, and no call**: the cache is empty. -/
theorem mimeCache_oneText :
    ¬ ∀ (o : Origin (listIpc String String)) (d : PasteData String String)
        (ops : List (Mutator String String)),
      o.pasteData = some d → (ops.foldl Mutator.apply d).CacheCoherent := by
  intro h
  have hnow := h (.ofRecords 0 [PasteDataRecord.newPlaintTextRecord "a"]) _ []
    rfl
  revert hnow
  unfold CacheCoherent
  decide

end PasteData

end Pasteboard
