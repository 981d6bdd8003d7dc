/-
  Pasteboard.Data.History
  ───────────────────────
  **A RUN OF ADDS IS A BOUNDED HISTORY.**

  Every adder comes down to `AddRecord` of one record or of a null pointer,
  which it drops.  So a paste data that only adders have touched is the list
  of the last 128 records they were given, the newest first (`adds_history`),
  and each `GetPrimary…` finds the newest of its MIME type among these.
-/
import Pasteboard.Data.Mutators

namespace Pasteboard

open Lib

variable {Uri Want : Type}

/-! ## §1. The record a call adds. -/

namespace Mutator

/-- The adders: all mutators but the two that take an index. -/
def Adds : Mutator Uri Want → Prop
  | .removeRecordAt _ => False
  | .replaceRecordAt _ _ => False
  | _ => True

/-- The record a call adds, null where there is none. -/
def added : Mutator Uri Want → Option (PasteDataRecord Uri Want)
  | .addHtmlRecord html => PasteDataRecord.newHtmlRecord html
  | .addWantRecord want => PasteDataRecord.newWantRecord want
  | .addTextRecord text => PasteDataRecord.newPlaintTextRecord text
  | .addUriRecord uri => PasteDataRecord.newUriRecord uri
  | .addRecord record => record
  | .addRecordRef record => some record
  | .removeRecordAt _ => none
  | .replaceRecordAt _ _ => none

/-- What is refused: a null record, and a text or HTML of 500 KiB or more. -/
def Refused : Mutator Uri Want → Prop
  | .addHtmlRecord html => 500 * 1024 ≤ html.length
  | .addTextRecord text => 500 * 1024 ≤ text.length
  | .addRecord record => record = none
  | _ => False

/-- What an accepted record holds: the call's argument under its MIME type, and
nothing else; or the record the call was given. -/
def Holds : Mutator Uri Want → PasteDataRecord Uri Want → Prop
  | .addHtmlRecord html, r =>
      r = { mimeType := "text/html", htmlText := some html }
  | .addWantRecord want, r => r = { mimeType := "text/want", want := want }
  | .addTextRecord text, r =>
      r = { mimeType := "text/plain", plainText := some text }
  | .addUriRecord uri, r => r = { mimeType := "text/uri", uri := some uri }
  | .addRecord record, r => record = some r
  | .addRecordRef record, r => r = record
  | .removeRecordAt _, _ => False
  | .replaceRecordAt _ _, _ => False

theorem holds_of_added {op : Mutator Uri Want} {r : PasteDataRecord Uri Want}
    (h : op.added = some r) : op.Holds r := by
  -- both factories with a limit
  have hlimit : ∀ {text : String} {r' : PasteDataRecord Uri Want},
      (if text.length ≥ MAX_TEXT_LEN then none else some r') = some r →
        r = r' := by
    intro text r' hr
    split at hr
    · cases hr
    · injection hr with hr
      exact hr.symm
  cases op with
  | addHtmlRecord html => exact hlimit h
  | addTextRecord text => exact hlimit h
  | addWantRecord want =>
      injection h with h
      exact h.symm
  | addUriRecord uri =>
      injection h with h
      exact h.symm
  | addRecord record => exact h
  | addRecordRef record =>
      injection h with h
      exact h.symm
  | removeRecordAt number => cases h
  | replaceRecordAt number record => cases h

/-- **An add brings a record unless it is refused.** -/
theorem added_eq_none_iff {op : Mutator Uri Want} (h : op.Adds) :
    op.added = none ↔ op.Refused := by
  -- both factories with a limit
  have hlimit : ∀ (text : String) (r : PasteDataRecord Uri Want),
      (if text.length ≥ MAX_TEXT_LEN then none else some r) = none
        ↔ 500 * 1024 ≤ text.length := by
    intro text r
    by_cases hlen : text.length ≥ MAX_TEXT_LEN
    · rw [if_pos hlen]
      exact iff_of_true rfl hlen
    · rw [if_neg hlen]
      exact iff_of_false nofun hlen
  cases op with
  | addHtmlRecord html => exact hlimit html _
  | addTextRecord text => exact hlimit text _
  | addRecord record => exact Iff.rfl
  | addWantRecord want => exact iff_of_false nofun fun hno => hno
  | addUriRecord uri => exact iff_of_false nofun fun hno => hno
  | addRecordRef record => exact iff_of_false nofun fun hno => hno
  | removeRecordAt number => exact absurd h fun hno => hno
  | replaceRecordAt number record => exact absurd h fun hno => hno

/-- **Every adder is `AddRecord`** of the record it brings, if any. -/
theorem apply_of_adds {op : Mutator Uri Want} (h : op.Adds)
    (d : PasteData Uri Want) : op.apply d = op.added.elim d d.addRecordRef := by
  -- refreshing the MIME types twice is refreshing them once
  have hadd : ∀ o : Option (PasteDataRecord Uri Want),
      d.addRecord o = o.elim d d.addRecordRef := by
    intro o
    cases o <;> rfl
  cases op with
  | addHtmlRecord html => exact hadd (PasteDataRecord.newHtmlRecord html)
  | addWantRecord want => exact hadd (PasteDataRecord.newWantRecord want)
  | addTextRecord text => exact hadd (PasteDataRecord.newPlaintTextRecord text)
  | addUriRecord uri => exact hadd (PasteDataRecord.newUriRecord uri)
  | addRecord record => exact hadd record
  | addRecordRef record => rfl
  | removeRecordAt number => exact absurd h fun hno => hno
  | replaceRecordAt number record => exact absurd h fun hno => hno

theorem apply_of_refused {op : Mutator Uri Want} (h : op.Adds)
    (hno : op.Refused) (d : PasteData Uri Want) : op.apply d = d := by
  rw [apply_of_adds h, (added_eq_none_iff h).mpr hno]
  rfl

/-- The records a run of adds brings, the oldest first. -/
def accepted (ops : List (Mutator Uri Want)) :
    List (PasteDataRecord Uri Want) :=
  ops.filterMap added

end Mutator

/-! ## §2. The history. -/

namespace PasteData

/-- A run of adders is a run of `AddRecord`s of the records they bring. -/
theorem foldl_apply_of_adds :
    ∀ (ops : List (Mutator Uri Want)) (d : PasteData Uri Want),
      (∀ op ∈ ops, op.Adds) →
      ops.foldl Mutator.apply d
        = (Mutator.accepted ops).foldl addRecordRef d := by
  intro ops
  induction ops with
  | nil =>
      intro d _
      rfl
  | cons op ops ih =>
      intro d h
      have hrest := ih (op.apply d) fun o ho => h o (List.mem_cons_of_mem _ ho)
      rw [List.foldl_cons, hrest, Mutator.apply_of_adds (h op List.mem_cons_self)]
      unfold Mutator.accepted
      rw [List.filterMap_cons]
      cases op.added <;> rfl

/-- What `d` shows of the records `rs`, of which the last is the newest: the
newest 128 of them, and of each MIME type the payload of the newest of it. -/
structure Recalls (d : PasteData Uri Want) (rs : List (PasteDataRecord Uri Want)) :
    Prop where
  allRecords : d.allRecords = (rs.reverse.take 128).map some
  getPrimaryText : d.getPrimaryText
    = some (((rs.reverse.take 128).find?
        (·.mimeType == MIMETYPE_TEXT_PLAIN)).bind (·.plainText))
  getPrimaryHtml : d.getPrimaryHtml
    = some (((rs.reverse.take 128).find?
        (·.mimeType == MIMETYPE_TEXT_HTML)).bind (·.htmlText))
  getPrimaryUri : d.getPrimaryUri
    = some (((rs.reverse.take 128).find?
        (·.mimeType == MIMETYPE_TEXT_URI)).bind (·.uri))
  getPrimaryWant : d.getPrimaryWant
    = some (((rs.reverse.take 128).find?
        (·.mimeType == MIMETYPE_TEXT_WANT)).bind (·.want))

theorem Recalls.of_records {d : PasteData Uri Want}
    {rs : List (PasteDataRecord Uri Want)}
    (h : d.records = (rs.reverse.take 128).map some) : d.Recalls rs := by
  have hprimary : ∀ {α : Type} (m : String)
      (get : PasteDataRecord Uri Want → Option α),
      getPrimary m get d.records
        = some (((rs.reverse.take 128).find? (·.mimeType == m)).bind get) := by
    intro α m get
    rw [h, getPrimary_of_some]
  exact ⟨h, hprimary _ _, hprimary _ _, hprimary _ _, hprimary _ _⟩

/-- **A BOUNDED HISTORY, NEWEST FIRST.**  After any run of adds on a default
constructed paste data, the records are the first 128 of those accepted, in
reverse order of addition, and the `GetPrimary…` functions return the payloads
of the newest of these.  An accepted record holds the argument of its call.
Refused is a null record, which is what the factories make of a long text; a
refused call changes nothing. -/
theorem adds_history (ops : List (Mutator Uri Want))
    (hops : ∀ op ∈ ops, op.Adds) :
    (ops.foldl Mutator.apply {}).Recalls (Mutator.accepted ops)
      ∧ (∀ op ∈ ops, op.added = none ↔ op.Refused)
      ∧ (∀ op ∈ ops, ∀ r, op.added = some r → op.Holds r)
      ∧ ∀ pre op post, ops = pre ++ op :: post → op.Refused →
          op.apply (pre.foldl Mutator.apply {}) = pre.foldl Mutator.apply {} := by
  refine ⟨?_, ?_, fun _ _ _ => Mutator.holds_of_added, ?_⟩
  · apply Recalls.of_records
    rw [foldl_apply_of_adds ops {} hops,
      foldl_addRecordRef_records _ _ (Nat.zero_le _), ← List.map_reverse]
    show (_ ++ []).take _ = _
    rw [List.append_nil, List.map_take]
    rfl
  · intro op hop
    exact Mutator.added_eq_none_iff (hops op hop)
  · intro pre op post heq hno
    refine Mutator.apply_of_refused (hops op ?_) hno _
    simp [heq]

end PasteData

/-! ## §3. Data of one record. -/

namespace PasteboardClient

def createHtmlData (htmlText : String) : PasteData Uri Want :=
  ({} : PasteData Uri Want).addHtmlRecord htmlText

def createPlainTextData (text : String) : PasteData Uri Want :=
  ({} : PasteData Uri Want).addTextRecord text

def createUriData (uri : Uri) : PasteData Uri Want :=
  ({} : PasteData Uri Want).addUriRecord uri

def createWantData (want : Option Want) : PasteData Uri Want :=
  ({} : PasteData Uri Want).addWantRecord want

/-- **Data of a long text have no records.** -/
theorem createData_of_long {text : String} (h : MAX_TEXT_LEN ≤ text.length) :
    (createPlainTextData text : PasteData Uri Want) = {}
      ∧ (createHtmlData text : PasteData Uri Want) = {} := by
  constructor
  · show ({} : PasteData Uri Want).addRecord
      (PasteDataRecord.newPlaintTextRecord text) = {}
    rw [PasteDataRecord.newPlaintTextRecord, if_pos h]
    rfl
  · show ({} : PasteData Uri Want).addRecord
      (PasteDataRecord.newHtmlRecord text) = {}
    rw [PasteDataRecord.newHtmlRecord, if_pos h]
    rfl

/-- A text of `n` characters. -/
def textOfLength (n : Nat) : String := String.ofList (List.replicate n 'a')

@[simp] theorem length_textOfLength (n : Nat) :
    (textOfLength n).length = n := by
  simp [textOfLength]

end PasteboardClient

/-! ## §4. Mixed adds. -/

namespace PasteData

/-- Two texts, an HTML between them, and a null pointer. -/
def mixedAdds : List (Mutator String String) :=
  [.addTextRecord "a", .addHtmlRecord "b", .addTextRecord "c",
    .addRecord none]

theorem adds_history_mixed :
    (mixedAdds.foldl Mutator.apply {}).Recalls
      (Mutator.accepted mixedAdds) := by
  refine (adds_history mixedAdds ?_).1
  intro op hop
  simp only [mixedAdds, List.mem_cons, List.not_mem_nil, or_false] at hop
  rcases hop with h | h | h | h <;> rw [h] <;> trivial

end PasteData

end Pasteboard
