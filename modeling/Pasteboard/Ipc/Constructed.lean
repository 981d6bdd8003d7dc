/-
  Pasteboard.Ipc.Constructed
  ──────────────────────────
  **RUNS OF MUTATORS** on paste data as it comes into being: by the default
  constructor, or decoded from any parcel.

  Both are well formed, so a run stays well formed, and its readers safe, for
  exactly as long as no mutator hits a record with one of the two calls that
  store a null pointer (`safe_run_iff`).
-/
import Pasteboard.Data.Mutators
import Pasteboard.Ipc.Decoded
import Pasteboard.Lib.Runs

namespace Pasteboard

open Lib

namespace PasteData

variable {Uri Want : Type}

/-! ## §1. How paste data comes into being. -/

theorem Decoded.wellFormed {d : PasteData Uri Want} (h : d.Decoded) :
    d.WellFormed where
  count_le := h.count_le
  nonNull hnone := by
    obtain ⟨pl, hpl⟩ := h.records_eq none hnone
    cases hpl

/-- Default constructed, or decoded from some parcel. -/
def Constructed (E : Ipc Uri Want) (d : PasteData Uri Want) : Prop :=
  d = {} ∨ ∃ b, (unmarshalling E b).1 = some d

theorem Constructed.wellFormed {E : Ipc Uri Want} {d : PasteData Uri Want}
    (h : Constructed E d) : d.WellFormed := by
  rcases h with h | ⟨b, hb⟩
  · subst h
    exact wellFormed_empty
  · exact (yields_unmarshalling b d hb).wellFormed

/-! ## §2. Runs of mutators. -/

/-- Every state of the run is well formed, and its readers are safe. -/
def SafeRun (d : PasteData Uri Want) (ops : List (Mutator Uri Want)) : Prop :=
  ∀ pre post, ops = pre ++ post →
    (pre.foldl Mutator.apply d).WellFormed
      ∧ (pre.foldl Mutator.apply d).ReadersSafe

/-- **THE REPRESENTATION INVARIANT.**  Started from a constructed paste data,
a run of mutators keeps at most 128 records, no null pointer and safe readers
in every state it reaches, if and only if every call spares the records of the
state it is made in. -/
theorem safe_run_iff (E : Ipc Uri Want) (d : PasteData Uri Want)
    (hd : Constructed E d) (ops : List (Mutator Uri Want)) :
    SafeRun d ops
      ↔ ∀ pre op post, ops = pre ++ op :: post →
          op.Spares (pre.foldl Mutator.apply d) := by
  have hrun := foldl_keeps_iff Mutator.apply WellFormed Mutator.Spares
    (fun _ op hs => hs.apply_iff op) hd.wellFormed ops
  rw [← hrun]
  constructor
  · intro h pre post heq
    exact (h pre post heq).1
  · intro h pre post heq
    exact ⟨h pre post heq, (h pre post heq).readersSafe⟩

/-- Adding two texts to a default constructed paste data is a safe run. -/
theorem safe_run_addTexts :
    SafeRun ({} : PasteData String String)
      [.addTextRecord "a", .addTextRecord "b"] := by
  refine (safe_run_iff (listIpc String String) {} (Or.inl rfl) _).mpr ?_
  intro pre op post heq
  have hop : op ∈ ([.addTextRecord "a", .addTextRecord "b"] :
      List (Mutator String String)) := by
    rw [heq]
    exact List.mem_append_right _ List.mem_cons_self
  rcases List.mem_cons.mp hop with h | h
  · rw [h]
    trivial
  · rw [List.mem_singleton.mp h]
    trivial

/-- **Removing the only record stores a null pointer**, which `GetMimeTypes`
then follows. -/
theorem removeRecordAt_unsafe :
    ¬ ∀ (d : PasteData String String) (ops : List (Mutator String String)),
      Constructed (listIpc String String) d →
      (ops.foldl Mutator.apply d).WellFormed
        ∧ (ops.foldl Mutator.apply d).getMimeTypes.isSome = true := by
  intro h
  have hrun := h {} [.addTextRecord "a", .removeRecordAt 0] (Or.inl rfl)
  have hnone : (([.addTextRecord "a", .removeRecordAt 0] :
      List (Mutator String String)).foldl Mutator.apply {}).getMimeTypes
        = none := by
    decide
  rw [hnone] at hrun
  cases hrun.2

end PasteData

end Pasteboard
