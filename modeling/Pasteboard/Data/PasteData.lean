/-
  Pasteboard.Data.PasteData
  ─────────────────────────
  **PASTE DATA** (`paste_data.h/.cpp`): a list of record pointers, newest
  first, with the cached MIME types of its properties.

  Readers that follow a record pointer return an `Option` around their
  value: `none` is the dereference of a null pointer.

  `PasteDataProperty::additions` is left out: no function of the class reads
  or writes it.  The default constructor leaves `timestamp` and `localOnly`
  unset; nothing reads them, and the model starts them at `0` and `false`.
-/
import Pasteboard.Data.Record
import Pasteboard.Lib.Capped
import Mathlib.Data.List.InsertIdx

namespace Pasteboard

open Lib

/-- Most records a paste data keeps when records are added. -/
def MAX_RECORD_NUM : Nat := 128

structure PasteDataProperty where
  mimeTypes : List String := []
  tag : String := ""
  timestamp : Int := 0
  localOnly : Bool := false
  deriving DecidableEq, Repr

structure PasteData (Uri Want : Type) where
  props : PasteDataProperty := {}
  records : List (Option (PasteDataRecord Uri Want)) := []
  deriving DecidableEq, Repr

namespace PasteData

variable {Uri Want : Type}

/-! ## §1. Constructors and mutators. -/

/-- The constructor from a record vector; `now` is the clock it reads. -/
def ofRecords (now : Int) (records : List (Option (PasteDataRecord Uri Want))) :
    PasteData Uri Want :=
  { props := { timestamp := now, localOnly := false }, records := records }

/-- Rebuild the cached MIME types from the records that are not null. -/
def refreshMimeProp (d : PasteData Uri Want) : PasteData Uri Want :=
  { d with props := { d.props with
      mimeTypes := d.records.filterMap fun r => r.map (·.mimeType) } }

/-- `AddRecord(std::shared_ptr<PasteDataRecord>)`. -/
def addRecord (d : PasteData Uri Want) :
    Option (PasteDataRecord Uri Want) → PasteData Uri Want
  | none => d
  | some record =>
      -- a full vector loses its last, oldest record first
      refreshMimeProp
        { d with records := pushFront MAX_RECORD_NUM d.records (some record) }

/-- `AddRecord(PasteDataRecord&)`: adds a copy, and refreshes once more. -/
def addRecordRef (d : PasteData Uri Want) (record : PasteDataRecord Uri Want) :
    PasteData Uri Want :=
  refreshMimeProp (d.addRecord (some record))

def addHtmlRecord (d : PasteData Uri Want) (html : String) : PasteData Uri Want :=
  d.addRecord (PasteDataRecord.newHtmlRecord html)

def addWantRecord (d : PasteData Uri Want) (want : Option Want) :
    PasteData Uri Want :=
  d.addRecord (PasteDataRecord.newWantRecord want)

def addTextRecord (d : PasteData Uri Want) (text : String) : PasteData Uri Want :=
  d.addRecord (PasteDataRecord.newPlaintTextRecord text)

def addUriRecord (d : PasteData Uri Want) (uri : Uri) : PasteData Uri Want :=
  d.addRecord (PasteDataRecord.newUriRecord uri)

/-- `RemoveRecordAt`.  The vector operation is `emplace`, which constructs a
null pointer IN FRONT OF the position; nothing is erased. -/
def removeRecordAt (d : PasteData Uri Want) (number : Nat) :
    Bool × PasteData Uri Want :=
  if d.records.length > number then
    (true, refreshMimeProp { d with records := d.records.insertIdx number none })
  else (false, d)

/-- `ReplaceRecordAt` stores the pointer it is given, null or not. -/
def replaceRecordAt (d : PasteData Uri Want) (number : Nat)
    (record : Option (PasteDataRecord Uri Want)) : Bool × PasteData Uri Want :=
  if d.records.length > number then
    -- `RefreshMimeProp` skips a null pointer; the readers below do not
    (true, refreshMimeProp { d with records := d.records.set number record })
  else (false, d)

/-! ## §2. Readers. -/

/-- `GetProperty` returns a value-initialised property, not `props_`. -/
def getProperty (_d : PasteData Uri Want) : PasteDataProperty := {}

def getTag (d : PasteData Uri Want) : String := d.props.tag

def allRecords (d : PasteData Uri Want) :
    List (Option (PasteDataRecord Uri Want)) := d.records

def getRecordCount (d : PasteData Uri Want) : Nat := d.records.length

def getRecordAt (d : PasteData Uri Want) (index : Nat) :
    Option (PasteDataRecord Uri Want) :=
  if d.records.length > index then (d.records[index]?).join else none

def getMimeTypes (d : PasteData Uri Want) : Option (List String) :=
  d.records.mapM fun item => item.map (·.mimeType)

/-- The loop of the four `GetPrimary…` functions: the payload of the first
record of the MIME type, through every pointer up to it. -/
def getPrimary {α : Type} (mimeType : String)
    (get : PasteDataRecord Uri Want → Option α) :
    List (Option (PasteDataRecord Uri Want)) → Option (Option α)
  | [] => some none
  -- a null pointer is followed
  | none :: _ => none
  | some item :: items =>
      if item.mimeType = mimeType then some (get item)
      else getPrimary mimeType get items

def getPrimaryHtml (d : PasteData Uri Want) : Option (Option String) :=
  getPrimary MIMETYPE_TEXT_HTML (·.htmlText) d.records

def getPrimaryWant (d : PasteData Uri Want) : Option (Option Want) :=
  getPrimary MIMETYPE_TEXT_WANT (·.want) d.records

def getPrimaryText (d : PasteData Uri Want) : Option (Option String) :=
  getPrimary MIMETYPE_TEXT_PLAIN (·.plainText) d.records

def getPrimaryUri (d : PasteData Uri Want) : Option (Option Uri) :=
  getPrimary MIMETYPE_TEXT_URI (·.uri) d.records

def getPrimaryMimeType (d : PasteData Uri Want) : Option (Option String) :=
  match d.records with
  | [] => some none
  | item :: _ => item.map fun r => some r.mimeType

def hasMimeType (d : PasteData Uri Want) (mimeType : String) : Option Bool :=
  go d.records
where
  go : List (Option (PasteDataRecord Uri Want)) → Option Bool
    | [] => some false
    -- a null pointer in front of the match is followed
    | none :: _ => none
    | some item :: items =>
        if item.mimeType = mimeType then some true else go items

/-- MIME type and payload of every entry, null pointers in place. -/
def contents (d : PasteData Uri Want) :
    List (Option (String × Option (Payload Uri Want))) :=
  d.records.map fun r => r.map (·.content)

/-! ## §3. What the mutators do to the records. -/

@[simp] theorem refreshMimeProp_records (d : PasteData Uri Want) :
    d.refreshMimeProp.records = d.records := rfl

@[simp] theorem addRecord_none (d : PasteData Uri Want) :
    d.addRecord none = d := rfl

@[simp] theorem addRecord_some_records (d : PasteData Uri Want)
    (r : PasteDataRecord Uri Want) :
    (d.addRecord (some r)).records
      = pushFront MAX_RECORD_NUM d.records (some r) := rfl

@[simp] theorem addRecordRef_records (d : PasteData Uri Want)
    (r : PasteDataRecord Uri Want) :
    (d.addRecordRef r).records
      = pushFront MAX_RECORD_NUM d.records (some r) := rfl

theorem removeRecordAt_records {d : PasteData Uri Want} {i : Nat}
    (h : i < d.records.length) :
    (d.removeRecordAt i).2.records = d.records.insertIdx i none := by
  unfold removeRecordAt
  rw [if_pos h]
  rfl

theorem removeRecordAt_of_le {d : PasteData Uri Want} {i : Nat}
    (h : d.records.length ≤ i) : d.removeRecordAt i = (false, d) := by
  unfold removeRecordAt
  rw [if_neg (by omega)]

theorem replaceRecordAt_records {d : PasteData Uri Want} {i : Nat}
    (r : Option (PasteDataRecord Uri Want)) (h : i < d.records.length) :
    (d.replaceRecordAt i r).2.records = d.records.set i r := by
  unfold replaceRecordAt
  rw [if_pos h]
  rfl

theorem replaceRecordAt_of_le {d : PasteData Uri Want} {i : Nat}
    (r : Option (PasteDataRecord Uri Want)) (h : d.records.length ≤ i) :
    d.replaceRecordAt i r = (false, d) := by
  unfold replaceRecordAt
  rw [if_neg (by omega)]

/-- **A run of adds keeps the newest 128 records, newest first.** -/
theorem foldl_addRecordRef_records :
    ∀ (rs : List (PasteDataRecord Uri Want)) (d : PasteData Uri Want),
      d.records.length ≤ MAX_RECORD_NUM →
      (rs.foldl addRecordRef d).records
        = ((rs.map some).reverse ++ d.records).take MAX_RECORD_NUM := by
  intro rs d h
  rw [← foldl_pushFront MAX_RECORD_NUM (rs.map some) d.records h]
  -- the second refresh of `addRecordRef` does not touch the records
  clear h
  induction rs generalizing d with
  | nil => rfl
  | cons r rs ih =>
      rw [List.foldl_cons, ih, List.map_cons, List.foldl_cons,
        addRecordRef_records]

/-! ## §4. The MIME types of a list of records. -/

theorem getMimeTypes_of_some (d : PasteData Uri Want)
    (rs : List (PasteDataRecord Uri Want)) (h : d.records = rs.map some) :
    d.getMimeTypes = some (rs.map (·.mimeType)) := by
  unfold getMimeTypes
  rw [h]
  clear h
  induction rs with
  | nil => rfl
  | cons r rs ih =>
      rw [List.map_cons, List.mapM_cons, ih]
      rfl

/-- **`GetPrimary…` on records** finds the first of the MIME type. -/
theorem getPrimary_of_some {α : Type} (mimeType : String)
    (get : PasteDataRecord Uri Want → Option α) :
    ∀ rs : List (PasteDataRecord Uri Want),
      getPrimary mimeType get (rs.map some)
        = some ((rs.find? (·.mimeType == mimeType)).bind get)
  | [] => rfl
  | r :: rs => by
      show (if r.mimeType = mimeType then some (get r)
        else getPrimary mimeType get (rs.map some)) = _
      by_cases h : r.mimeType = mimeType
      · rw [if_pos h, List.find?_cons_of_pos (by simp [h])]
        rfl
      · rw [if_neg h, List.find?_cons_of_neg (by simp [h]),
          getPrimary_of_some mimeType get rs]

/-- **`HasMimeType` on records** looks for one of the MIME type. -/
theorem hasMimeType_of_some (mimeType : String) :
    ∀ rs : List (PasteDataRecord Uri Want),
      hasMimeType.go mimeType (rs.map some)
        = some (rs.any (·.mimeType == mimeType))
  | [] => rfl
  | r :: rs => by
      show (if r.mimeType = mimeType then some true
        else hasMimeType.go mimeType (rs.map some)) = _
      by_cases h : r.mimeType = mimeType
      · rw [if_pos h, List.any_cons, beq_iff_eq.mpr h, Bool.true_or]
      · rw [if_neg h, List.any_cons, beq_false_of_ne h, Bool.false_or,
          hasMimeType_of_some mimeType rs]

end PasteData

end Pasteboard
