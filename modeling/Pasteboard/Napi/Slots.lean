/-
  Pasteboard.Napi.Slots
  ─────────────────────
  **WHAT A PROGRAM SEES OF ITS OBJECTS.**

  To its program a paste data is a list of SLOTS, newest first: payloads, and
  the null pointers that `removeRecordAt` and `replaceRecordAt` leave.

    add      — a payload in front; of 128 the last is lost
    remove   — a null pointer at the index, nothing is removed
    replace  — the slot at the index
    primary  — the first payload of a MIME type, if no null pointer comes first

  A record is one slot.  Every synchronous call does on the native objects what
  it does on the slots, and returns the same (`slots_exec`).
-/
import Mathlib.Data.List.DropRight
import Mathlib.Data.List.ReduceOption
import Pasteboard.Napi.Objects

namespace Pasteboard

open Lib

variable {Uri Want : Type}

/-! ## §1. Slots. -/

/-- A payload, or a null pointer. -/
abbrev Slot (Uri Want : Type) : Type := Option (Payload Uri Want)

namespace Payload

/-- As a text. -/
def text [ToString Uri] : Payload Uri Want → String
  | .plain text => text
  | .html text => text
  | .uri u => toString u
  | .want _ => ""

/-- As a value of JavaScript. -/
def result [ToString Uri] : Payload Uri Want → JsResult Want
  | .plain text => .ofString text
  | .html text => .ofString text
  | .uri u => .ofString (toString u)
  | .want w => .want w

/-- As the properties of an instance: the MIME type and the text are the names
of properties, whose texts say what they are. -/
def properties [ToString Uri] (pl : Payload Uri Want) : RecordProperties Want :=
  (pl.mimeType, .string "mimeType") ::
    match pl with
    | .plain text => [(cString text, .string "plainText")]
    | .html text => [(cString text, .string "htmlText")]
    | .uri u => [(cString (toString u), .string "uri")]
    | .want w => [("want", .want w)]

end Payload

namespace Slots

/-- A text that is too long makes a null pointer. -/
def limited (mk : String → Payload Uri Want) (text : String) : Slot Uri Want :=
  if text.length ≥ MAX_TEXT_LEN then none else some (mk text)

/-- A null pointer is not added. -/
def add (slots : List (Slot Uri Want)) : Slot Uri Want → List (Slot Uri Want)
  | none => slots
  | some pl => pushFront MAX_RECORD_NUM slots (some pl)

def remove (slots : List (Slot Uri Want)) (number : Nat) :
    Bool × List (Slot Uri Want) :=
  if number < slots.length then (true, slots.insertIdx number none)
  else (false, slots)

def replace (slots : List (Slot Uri Want)) (number : Nat)
    (slot : Slot Uri Want) : Bool × List (Slot Uri Want) :=
  if number < slots.length then (true, slots.set number slot)
  else (false, slots)

/-- The first payload of a MIME type, `none` where a null pointer comes
first. -/
def primary (mimeType : String) (slots : List (Slot Uri Want)) :
    Option (Slot Uri Want) :=
  match slots.find? fun o => o.all (·.mimeType == mimeType) with
  | none => some none
  | some none => none
  | some (some pl) => some (some pl)

/-- What a copy of the slots holds. -/
def copied (slots : List (Slot Uri Want)) : List (Payload Uri Want) :=
  (slots.take (slots.length % UInt32.size)).reduceOption.rtake MAX_RECORD_NUM

@[simp] theorem primary_nil (mimeType : String) :
    primary mimeType ([] : List (Slot Uri Want)) = some none := rfl

@[simp] theorem primary_none (mimeType : String)
    (slots : List (Slot Uri Want)) :
    primary mimeType (none :: slots) = none := rfl

@[simp] theorem primary_some (mimeType : String) (pl : Payload Uri Want)
    (slots : List (Slot Uri Want)) :
    primary mimeType (some pl :: slots)
      = if pl.mimeType = mimeType then some (some pl)
        else primary mimeType slots := by
  unfold primary
  by_cases h : pl.mimeType = mimeType
  · rw [List.find?_cons_of_pos (by simp [h]), if_pos h]
  · rw [List.find?_cons_of_neg (by simp [h]), if_neg h]

/-- What is found has the MIME type. -/
theorem mimeType_of_primary {mimeType : String} {slots : List (Slot Uri Want)}
    {pl : Payload Uri Want} (h : primary mimeType slots = some (some pl)) :
    pl.mimeType = mimeType := by
  induction slots with
  | nil => cases h
  | cons o slots ih =>
      cases o with
      | none => cases h
      | some pl' =>
          rw [primary_some] at h
          split at h
          · next hm =>
              injection h with h
              injection h with h
              rw [← h]
              exact hm
          · exact ih h

end Slots

/-! ## §2. The calls on slots. -/

/-- The objects of a program. -/
structure SlotObjects (Uri Want : Type) where
  pasteDatas : List (List (Slot Uri Want)) := []
  records : List (Slot Uri Want) := []

section Calls

variable (N : Napi) (uri : String → Uri)

def PasteDataFactory.slots :
    PasteDataFactory Want → Option (List (Slot Uri Want))
  | .new => some []
  | .createHtmlData text =>
      some (Slots.add [] (Slots.limited .html (cString text)))
  | .createWantData want => want.map fun want => [some (.want want)]
  | .createPlainTextData text =>
      some (Slots.add [] (Slots.limited .plain (cString text)))
  | .createUriData text => some [some (.uri (uri (cString text)))]

def RecordFactory.slot : RecordFactory Want → Option (Slot Uri Want)
  | .new => some none
  | .createHtmlTextRecord text => some (Slots.limited .html (cString text))
  | .createWantRecord want => want.map fun want => some (.want want)
  | .createPlainTextRecord text => some (Slots.limited .plain (cString text))
  | .createUriRecord text => some (some (.uri (uri (cString text))))

def PasteDataUpdate.onSlots (records : List (Slot Uri Want))
    (slots : List (Slot Uri Want)) :
    PasteDataUpdate Want → List (Slot Uri Want) × JsResult Want
  | .addHtmlRecord text =>
      (Slots.add slots (Slots.limited .html (argumentOfAdd N text)), .undefined)
  | .addWantRecord want => (Slots.add slots (want.map .want), .undefined)
  | .addTextRecord text =>
      (Slots.add slots (Slots.limited .plain (argumentOfAdd N text)), .undefined)
  | .addUriRecord text =>
      (Slots.add slots (some (.uri (uri (argumentOfAdd N text)))), .undefined)
  | .addRecord record => (Slots.add slots records[record]?.join, .undefined)
  | .removeRecordAt number =>
      let x := Slots.remove slots (sizeOfInt64 number)
      (x.2, .boolean x.1)
  | .replaceRecordAt number record =>
      match records[record]? with
      | none => (slots, .undefined)
      | some slot =>
          let x := Slots.replace slots (sizeOfInt64 number) slot
          (x.2, .boolean x.1)

/-- `none` is a null pointer followed. -/
def PasteDataQuery.readSlots [ToString Uri] (slots : List (Slot Uri Want)) :
    PasteDataQuery → Option (JsResult Want)
  | .getPrimaryHtml =>
      (Slots.primary MIMETYPE_TEXT_HTML slots).map (.ofPointer Payload.result)
  | .getPrimaryText =>
      (Slots.primary MIMETYPE_TEXT_PLAIN slots).map (.ofPointer Payload.result)
  | .getPrimaryUri =>
      (Slots.primary MIMETYPE_TEXT_URI slots).map (.ofPointer Payload.result)
  | .getPrimaryWant =>
      (Slots.primary MIMETYPE_TEXT_WANT slots).map (.ofPointer Payload.result)
  | .getPrimaryMimeType =>
      match slots with
      | [] => some .undefined
      | none :: _ => none
      | some pl :: _ => some (.string pl.mimeType)
  | .hasMimeType mimeType =>
      (Slots.primary (argumentOfAdd N mimeType) slots).map fun o =>
        .boolean o.isSome
  | .getMimeTypes =>
      (slots.mapM fun o : Slot Uri Want => o.map (·.mimeType)).map fun mimeTypes =>
        if mimeTypes = [] then .undefined else .strings mimeTypes
  | .getRecordCount => some (.number slots.length)
  -- the tag and the properties are never set
  | .getTag => some (.string "")
  | .getProperty => some (.property ⟨none, "", 0⟩)

namespace SlotObjects

def newPasteData (slots : List (Slot Uri Want)) (s : SlotObjects Uri Want) :
    SlotObjects Uri Want × JsResult Want :=
  ({ s with pasteDatas := s.pasteDatas ++ [slots] },
    .pasteData s.pasteDatas.length)

def newRecord [ToString Uri] (slot : Slot Uri Want)
    (s : SlotObjects Uri Want) : SlotObjects Uri Want × JsResult Want :=
  ({ s with records := s.records ++ [slot] },
    .record s.records.length (slot.elim [] Payload.properties))

/-- The text of a record, `none` for a null pointer. -/
def text [ToString Uri] (s : SlotObjects Uri Want) (record : Nat) :
    Option String :=
  s.records[record]?.join.map Payload.text

def exec [ToString Uri] (s : SlotObjects Uri Want) :
    JsOp Want → Option (SlotObjects Uri Want × JsResult Want)
  | .createData factory =>
      match factory.slots uri with
      | none => some (s, .undefined)
      | some slots => some (s.newPasteData slots)
  | .createRecord factory =>
      match factory.slot uri with
      | none => some (s, .undefined)
      | some slot => some (s.newRecord slot)
  | .update obj method =>
      match s.pasteDatas[obj]? with
      | none => some (s, method.missing)
      | some slots =>
          let x := method.onSlots N uri s.records slots
          some ({ s with pasteDatas := s.pasteDatas.set obj x.1 }, x.2)
  | .query obj method =>
      match s.pasteDatas[obj]? with
      | none => some (s, .undefined)
      | some slots => (method.readSlots N slots).map fun result => (s, result)
  | .getRecordAt obj number =>
      match s.pasteDatas[obj]? with
      | none => some (s, .undefined)
      | some slots => some (s.newRecord slots[sizeOfInt64 number]?.join)

end SlotObjects

end Calls

/-! ## §3. What is behind a slot. -/

/-- What a record pointer shows to a program. -/
def slotOf (o : Option (PasteDataRecord Uri Want)) : Slot Uri Want :=
  o.bind (·.payload)

def PasteData.slots (d : PasteData Uri Want) : List (Slot Uri Want) :=
  d.records.map slotOf

def JsObjects.slots (s : JsObjects Uri Want) : SlotObjects Uri Want where
  pasteDatas := s.pasteDatas.map PasteData.slots
  records := s.records.map slotOf

@[simp] theorem slotOf_none :
    slotOf (none : Option (PasteDataRecord Uri Want)) = none := rfl

@[simp] theorem slotOf_toRecord (pl : Payload Uri Want) :
    slotOf (some pl.toRecord) = some pl := pl.payload_toRecord

/-- Nothing of a pointer is hidden. -/
theorem OfPayload.eq_map_slotOf {o : Option (PasteDataRecord Uri Want)}
    (h : OfPayload o) : o = (slotOf o).map Payload.toRecord := by
  cases o with
  | none => rfl
  | some r =>
      obtain ⟨pl, hpl⟩ := h r rfl
      rw [hpl, slotOf_toRecord]
      rfl

theorem PasteData.OfPayloads.records_eq {d : PasteData Uri Want}
    (h : d.OfPayloads) :
    d.records = d.slots.map (Option.map Payload.toRecord) := by
  unfold PasteData.slots
  rw [List.map_map]
  conv_lhs => rw [← List.map_id d.records]
  exact List.map_congr_left fun o ho => (h.records o ho).eq_map_slotOf

theorem slotOf_newHtmlRecord (text : String) :
    slotOf (PasteDataRecord.newHtmlRecord text)
      = (Slots.limited .html text : Slot Uri Want) := by
  unfold PasteDataRecord.newHtmlRecord Slots.limited
  split
  · rfl
  · exact slotOf_toRecord (.html text)

theorem slotOf_newPlaintTextRecord (text : String) :
    slotOf (PasteDataRecord.newPlaintTextRecord text)
      = (Slots.limited .plain text : Slot Uri Want) := by
  unfold PasteDataRecord.newPlaintTextRecord Slots.limited
  split
  · rfl
  · exact slotOf_toRecord (.plain text)

/-- The whole argument of a factory. -/
theorem argumentOfCreate_eq_cString (N : Napi) (text : String) :
    argumentOfCreate N text = cString text := by
  unfold argumentOfCreate
  rw [N.whole _ _ (Nat.lt_succ_self _)]

/-! ## §4. The functions of a paste data. -/

namespace PasteData

variable {d : PasteData Uri Want}

theorem slots_addRecord {o : Option (PasteDataRecord Uri Want)}
    (ho : OfPayload o) :
    (d.addRecord o).slots = Slots.add d.slots (slotOf o) := by
  cases o with
  | none => rfl
  | some r =>
      obtain ⟨pl, hpl⟩ := ho r rfl
      subst hpl
      rw [slotOf_toRecord]
      show (pushFront MAX_RECORD_NUM d.records (some pl.toRecord)).map slotOf
        = pushFront MAX_RECORD_NUM (d.records.map slotOf) (some pl)
      rw [map_pushFront, slotOf_toRecord]

theorem slots_addHtmlRecord (html : String) :
    (d.addHtmlRecord html).slots = Slots.add d.slots (Slots.limited .html html) := by
  have hof : OfPayload (PasteDataRecord.newHtmlRecord html :
      Option (PasteDataRecord Uri Want)) := ofPayload_ite (Payload.html html)
  rw [← slotOf_newHtmlRecord]
  exact slots_addRecord hof

theorem slots_addTextRecord (text : String) :
    (d.addTextRecord text).slots
      = Slots.add d.slots (Slots.limited .plain text) := by
  have hof : OfPayload (PasteDataRecord.newPlaintTextRecord text :
      Option (PasteDataRecord Uri Want)) := ofPayload_ite (Payload.plain text)
  rw [← slotOf_newPlaintTextRecord]
  exact slots_addRecord hof

theorem slots_addUriRecord (u : Uri) :
    (d.addUriRecord u).slots = Slots.add d.slots (some (.uri u)) :=
  slots_addRecord (Payload.uri u).ofPayload

theorem slots_addWantRecord (want : Want) :
    (d.addWantRecord (some want)).slots
      = Slots.add d.slots (some (.want want)) :=
  slots_addRecord (Payload.want want).ofPayload

theorem slots_removeRecordAt (number : Nat) :
    ((d.removeRecordAt number).1, (d.removeRecordAt number).2.slots)
      = Slots.remove d.slots number := by
  unfold removeRecordAt Slots.remove slots
  rw [List.length_map]
  split
  · rw [refreshMimeProp_records, List.map_insertIdx]
    rfl
  · rfl

theorem slots_replaceRecordAt (number : Nat)
    (o : Option (PasteDataRecord Uri Want)) :
    ((d.replaceRecordAt number o).1, (d.replaceRecordAt number o).2.slots)
      = Slots.replace d.slots number (slotOf o) := by
  unfold replaceRecordAt Slots.replace slots
  rw [List.length_map]
  split
  · rw [refreshMimeProp_records, List.map_set]
  · rfl

theorem copied_eq_slots (d : PasteData Uri Want) :
    d.copied = Slots.copied d.slots := by
  unfold copied sent sentCount payloadsOf Slots.copied slots
  rw [List.rtake_eq_reverse_take_reverse, List.length_map, ← List.map_take,
    List.reduceOption, List.filterMap_map]
  rfl

/-- **The four `GetPrimary…`.** -/
theorem getPrimary_slots {α : Type} (mimeType : String)
    (get : PasteDataRecord Uri Want → Option α) (slots : List (Slot Uri Want)) :
    getPrimary mimeType get (slots.map (Option.map Payload.toRecord))
      = (Slots.primary mimeType slots).map fun o =>
          o.bind fun pl => get pl.toRecord := by
  induction slots with
  | nil => rfl
  | cons o slots ih =>
      cases o with
      | none => rfl
      | some pl =>
          show (if pl.toRecord.mimeType = mimeType then some (get pl.toRecord)
            else getPrimary mimeType get (slots.map _)) = _
          rw [ih, Slots.primary_some, pl.toRecord_mimeType]
          split <;> rfl

theorem hasMimeType_slots (mimeType : String) (slots : List (Slot Uri Want)) :
    hasMimeType.go mimeType (slots.map (Option.map Payload.toRecord))
      = (Slots.primary mimeType slots).map Option.isSome := by
  induction slots with
  | nil => rfl
  | cons o slots ih =>
      cases o with
      | none => rfl
      | some pl =>
          show (if pl.toRecord.mimeType = mimeType then some true
            else hasMimeType.go mimeType (slots.map _)) = _
          rw [ih, Slots.primary_some, pl.toRecord_mimeType]
          split <;> rfl

theorem getMimeTypes_slots (slots : List (Slot Uri Want)) :
    (slots.map (Option.map Payload.toRecord)).mapM
        (fun item => item.map (·.mimeType))
      = slots.mapM fun o : Slot Uri Want => o.map (·.mimeType) := by
  induction slots with
  | nil => rfl
  | cons o slots ih =>
      rw [List.map_cons, List.mapM_cons, List.mapM_cons, ih, Option.map_map]
      congr 1
      cases o with
      | none => rfl
      | some pl => exact congrArg some pl.toRecord_mimeType

/-- The payload that is found is shown as the value of its type. -/
theorem primary_result [ToString Uri] {α : Type} (mimeType : String)
    (get : PasteDataRecord Uri Want → Option α) (mk : α → JsResult Want)
    (hget : ∀ pl : Payload Uri Want, pl.mimeType = mimeType →
      (get pl.toRecord).map mk = some pl.result)
    (slots : List (Slot Uri Want)) :
    (getPrimary mimeType get (slots.map (Option.map Payload.toRecord))).map
        (JsResult.ofPointer mk)
      = (Slots.primary mimeType slots).map
          (JsResult.ofPointer Payload.result) := by
  rw [getPrimary_slots, Option.map_map]
  cases h : Slots.primary mimeType slots with
  | none => rfl
  | some o =>
      cases o with
      | none => rfl
      | some pl =>
          have hpl := hget pl (Slots.mimeType_of_primary h)
          obtain ⟨x, hx, heq⟩ := Option.map_eq_some_iff.mp hpl
          show some (JsResult.ofPointer mk (get pl.toRecord))
            = some pl.result
          rw [hx, ← heq]
          rfl

end PasteData

/-! ## §5. The calls. -/

section Calls

variable (N : Napi) (uri : String → Uri)

theorem PasteDataFactory.value_slots (f : PasteDataFactory Want) :
    (f.value N uri).map PasteData.slots = f.slots uri := by
  cases f with
  | new => rfl
  | createHtmlData text =>
      show some (PasteData.slots (PasteData.addHtmlRecord {} _)) = _
      rw [PasteData.slots_addHtmlRecord, argumentOfCreate_eq_cString]
      rfl
  | createWantData want => cases want <;> rfl
  | createPlainTextData text =>
      show some (PasteData.slots (PasteData.addTextRecord {} _)) = _
      rw [PasteData.slots_addTextRecord, argumentOfCreate_eq_cString]
      rfl
  | createUriData text =>
      show some (PasteData.slots (PasteData.addUriRecord {} _)) = _
      rw [PasteData.slots_addUriRecord, argumentOfCreate_eq_cString]
      rfl

theorem RecordFactory.value_slot (f : RecordFactory Want) :
    (f.value N uri).map slotOf = f.slot uri := by
  cases f with
  | new => rfl
  | createHtmlTextRecord text =>
      show some (slotOf (PasteDataRecord.newHtmlRecord _)) = _
      rw [slotOf_newHtmlRecord, argumentOfCreate_eq_cString]
      rfl
  | createWantRecord want => cases want <;> rfl
  | createPlainTextRecord text =>
      show some (slotOf (PasteDataRecord.newPlaintTextRecord _)) = _
      rw [slotOf_newPlaintTextRecord, argumentOfCreate_eq_cString]
      rfl
  | createUriRecord text =>
      show some (slotOf (PasteDataRecord.newUriRecord _)) = _
      rw [argumentOfCreate_eq_cString]
      rfl

/-- **An update does on the paste data what it does on the slots.** -/
theorem PasteDataUpdate.apply_slots
    {records : List (Option (PasteDataRecord Uri Want))}
    (hrecords : ∀ o ∈ records, OfPayload o) (d : PasteData Uri Want)
    (method : PasteDataUpdate Want) :
    ((method.apply N uri records d).1.slots, (method.apply N uri records d).2)
      = method.onSlots N uri (records.map slotOf) d.slots := by
  cases method with
  | addHtmlRecord text =>
      simp only [PasteDataUpdate.apply, PasteDataUpdate.onSlots,
        PasteDataNapi.addHtmlRecord, PasteData.slots_addHtmlRecord]
  | addTextRecord text =>
      simp only [PasteDataUpdate.apply, PasteDataUpdate.onSlots,
        PasteDataNapi.addTextRecord, PasteData.slots_addTextRecord]
  | addUriRecord text =>
      simp only [PasteDataUpdate.apply, PasteDataUpdate.onSlots,
        PasteDataNapi.addUriRecord, PasteData.slots_addUriRecord]
  | addWantRecord want =>
      cases want with
      | none => rfl
      | some want => exact congrArg (·, _) (PasteData.slots_addWantRecord want)
  | addRecord record =>
      simp only [PasteDataUpdate.apply, PasteDataUpdate.onSlots,
        List.getElem?_map]
      cases ho : records[record]? with
      | none => rfl
      | some o =>
          have hof := hrecords o (List.mem_of_getElem? ho)
          exact congrArg (·, _) (PasteData.slots_addRecord hof)
  | removeRecordAt number =>
      have h := d.slots_removeRecordAt (sizeOfInt64 number)
      simp only [PasteDataUpdate.apply, PasteDataUpdate.onSlots, ← h]
  | replaceRecordAt number record =>
      simp only [PasteDataUpdate.apply, PasteDataUpdate.onSlots,
        List.getElem?_map]
      cases records[record]? with
      | none => rfl
      | some o =>
          have h := d.slots_replaceRecordAt (sizeOfInt64 number) o
          simp only [Option.map_some, ← h]

theorem cString_mimeType (pl : Payload Uri Want) :
    cString pl.mimeType = pl.mimeType := by
  cases pl with
  | plain text =>
      show cString MIMETYPE_TEXT_PLAIN = MIMETYPE_TEXT_PLAIN
      decide
  | html text =>
      show cString MIMETYPE_TEXT_HTML = MIMETYPE_TEXT_HTML
      decide
  | uri u =>
      show cString MIMETYPE_TEXT_URI = MIMETYPE_TEXT_URI
      decide
  | want w =>
      show cString MIMETYPE_TEXT_WANT = MIMETYPE_TEXT_WANT
      decide

/-- The MIME types of slots are passed on as they are. -/
theorem map_cString_mapM {slots : List (Slot Uri Want)}
    {mimeTypes : List String}
    (h : (slots.mapM fun o : Slot Uri Want => o.map (·.mimeType))
      = some mimeTypes) : mimeTypes.map cString = mimeTypes := by
  induction slots generalizing mimeTypes with
  | nil =>
      injection h with h
      rw [← h]
      rfl
  | cons o slots ih =>
      rw [List.mapM_cons] at h
      obtain ⟨m, hm, h⟩ := Option.bind_eq_some_iff.mp h
      obtain ⟨ms, hms, h⟩ := Option.bind_eq_some_iff.mp h
      injection h with h
      obtain ⟨pl, _, hpl⟩ := Option.map_eq_some_iff.mp hm
      rw [← h, List.map_cons, ih hms, ← hpl, cString_mimeType]

/-- What is read at an index is null, or of a payload. -/
theorem PasteData.OfPayloads.getRecordAt {d : PasteData Uri Want}
    (h : d.OfPayloads) (index : Nat) :
    OfPayload (d.getRecordAt index)
      ∧ slotOf (d.getRecordAt index) = d.slots[index]?.join := by
  unfold PasteData.getRecordAt PasteData.slots
  rw [List.getElem?_map]
  split
  · cases ho : d.records[index]? with
    | none => exact ⟨ofPayload_none, rfl⟩
    | some o => exact ⟨h.records o (List.mem_of_getElem? ho), rfl⟩
  · next hle =>
      rw [List.getElem?_eq_none (by omega)]
      exact ⟨ofPayload_none, rfl⟩

variable [ToString Uri]

/-- **A query reads of the paste data what it reads of the slots.** -/
theorem PasteDataQuery.read_slots {d : PasteData Uri Want} (h : d.OfPayloads)
    (method : PasteDataQuery) : method.read N d = method.readSlots N d.slots := by
  cases method with
  | getPrimaryHtml =>
      show (PasteData.getPrimary _ _ d.records).map _ = _
      rw [h.records_eq]
      refine PasteData.primary_result _ _ _ ?_ _
      intro pl hpl
      cases pl with
      | html text => rfl
      | _ => simp [Payload.mimeType, MIMETYPE_TEXT_PLAIN, MIMETYPE_TEXT_HTML,
          MIMETYPE_TEXT_URI, MIMETYPE_TEXT_WANT] at hpl
  | getPrimaryText =>
      show (PasteData.getPrimary _ _ d.records).map _ = _
      rw [h.records_eq]
      refine PasteData.primary_result _ _ _ ?_ _
      intro pl hpl
      cases pl with
      | plain text => rfl
      | _ => simp [Payload.mimeType, MIMETYPE_TEXT_PLAIN, MIMETYPE_TEXT_HTML,
          MIMETYPE_TEXT_URI, MIMETYPE_TEXT_WANT] at hpl
  | getPrimaryUri =>
      show (PasteData.getPrimary _ _ d.records).map _ = _
      rw [h.records_eq]
      refine PasteData.primary_result _ _ _ ?_ _
      intro pl hpl
      cases pl with
      | uri u => rfl
      | _ => simp [Payload.mimeType, MIMETYPE_TEXT_PLAIN, MIMETYPE_TEXT_HTML,
          MIMETYPE_TEXT_URI, MIMETYPE_TEXT_WANT] at hpl
  | getPrimaryWant =>
      show (PasteData.getPrimary _ _ d.records).map _ = _
      rw [h.records_eq]
      refine PasteData.primary_result _ _ _ ?_ _
      intro pl hpl
      cases pl with
      | want w => rfl
      | _ => simp [Payload.mimeType, MIMETYPE_TEXT_PLAIN, MIMETYPE_TEXT_HTML,
          MIMETYPE_TEXT_URI, MIMETYPE_TEXT_WANT] at hpl
  | getPrimaryMimeType =>
      unfold PasteDataQuery.read PasteDataQuery.readSlots
        PasteData.getPrimaryMimeType
      rw [h.records_eq]
      cases d.slots with
      | nil => rfl
      | cons o slots =>
          cases o with
          | none => rfl
          | some pl =>
              show some (JsResult.ofString pl.toRecord.mimeType) = _
              rw [pl.toRecord_mimeType]
              exact congrArg (fun m => some (JsResult.string m))
                (cString_mimeType pl)
  | hasMimeType mimeType =>
      show (PasteData.hasMimeType.go _ d.records).map _ = _
      rw [h.records_eq, PasteData.hasMimeType_slots, Option.map_map]
      rfl
  | getMimeTypes =>
      show (PasteData.getMimeTypes d).map _ = _
      unfold PasteData.getMimeTypes
      rw [h.records_eq, PasteData.getMimeTypes_slots]
      unfold PasteDataQuery.readSlots
      cases hm : d.slots.mapM fun o : Slot Uri Want => o.map (·.mimeType) with
      | none => rfl
      | some mimeTypes =>
          -- all of them are MIME types of payloads
          have hmap : mimeTypes.map cString = mimeTypes :=
            map_cString_mapM hm
          simp only [Option.map_some, hmap, List.length_eq_zero_iff]
  | getRecordCount =>
      show some (JsResult.number (d.records.length : Nat))
        = some (JsResult.number (d.slots.length : Nat))
      unfold PasteData.slots
      rw [List.length_map]
  | getTag =>
      show some (JsResult.ofString d.props.tag) = _
      rw [h.tag]
      rfl
  | getProperty => rfl

/-- The properties of a record instance. -/
theorem jsFillInstance_slotOf {o : Option (PasteDataRecord Uri Want)}
    (ho : OfPayload o) :
    PasteDataRecordNapi.jsFillInstance o
      = (slotOf o).elim [] Payload.properties := by
  cases o with
  | none => rfl
  | some r =>
      obtain ⟨pl, hpl⟩ := ho r rfl
      subst hpl
      have hm := cString_mimeType pl
      rw [slotOf_toRecord]
      unfold PasteDataRecordNapi.jsFillInstance
      simp only [Payload.toRecord_mimeType, hm]
      cases pl with
      | plain text => rfl
      | html text => rfl
      | uri u => rfl
      | want w => rfl

/-- **None of the declared properties**: an instance has one of them only where
the record's text happens to be its name. -/
theorem declared_mem_jsFillInstance (pl : Payload Uri Want) {name : String}
    (h : name ∈ ["mimeType", "plainText", "htmlText", "uri"]) :
    name ∈ (PasteDataRecordNapi.jsFillInstance (some pl.toRecord)).map Prod.fst
      ↔ cString pl.text = name := by
  rw [jsFillInstance_slotOf pl.ofPayload, slotOf_toRecord]
  show name ∈ pl.properties.map Prod.fst ↔ _
  -- a MIME type is no declared name
  have hmime : name ≠ pl.mimeType := by
    rintro rfl
    revert h
    simp only [List.mem_cons, List.not_mem_nil, or_false]
    cases pl <;> simp [Payload.mimeType, MIMETYPE_TEXT_PLAIN,
      MIMETYPE_TEXT_HTML, MIMETYPE_TEXT_URI, MIMETYPE_TEXT_WANT]
  unfold Payload.properties
  rw [List.map_cons, List.mem_cons, or_iff_right hmime]
  cases pl with
  | plain text => exact List.mem_singleton.trans eq_comm
  | html text => exact List.mem_singleton.trans eq_comm
  | uri u => exact List.mem_singleton.trans eq_comm
  -- a want has no text, and its property is set under its own name
  | want w =>
      have hwant : name ≠ "want" := by
        rintro rfl
        revert h
        decide
      have hempty : cString "" ≠ name := by
        rintro rfl
        revert h
        decide
      exact iff_of_false (mt List.mem_singleton.mp hwant) hempty

/-- The instance of a text record. -/
example : PasteDataRecordNapi.jsFillInstance
      (some (Payload.plain "a" : Payload String String).toRecord)
    = [("text/plain", .string "mimeType"), ("a", .string "plainText")] := by
  decide

namespace JsObjects

variable {s : JsObjects Uri Want}

omit [ToString Uri] in
theorem slots_newPasteData (d : PasteData Uri Want) :
    ((s.newPasteData d).1.slots, (s.newPasteData d).2)
      = s.slots.newPasteData d.slots := by
  unfold newPasteData SlotObjects.newPasteData JsObjects.slots
  simp only [List.map_append, List.map_cons, List.map_nil, List.length_map]

theorem slots_newRecord {o : Option (PasteDataRecord Uri Want)}
    (ho : OfPayload o) :
    ((s.newRecord o).1.slots, (s.newRecord o).2)
      = s.slots.newRecord (slotOf o) := by
  unfold newRecord SlotObjects.newRecord JsObjects.slots
  rw [jsFillInstance_slotOf ho]
  simp only [List.map_append, List.map_cons, List.map_nil, List.length_map]

/-- The text of a record is its payload's. -/
theorem text_slots (hs : s.Sound) (record : Nat) :
    s.slots.records[record]?.join.map Payload.text
      = s.records[record]?.join.map (·.convertToText) := by
  unfold JsObjects.slots
  rw [List.getElem?_map]
  cases ho : s.records[record]? with
  | none => rfl
  | some o =>
      cases o with
      | none => rfl
      | some r =>
          obtain ⟨pl, hpl⟩ := hs.records _ (List.mem_of_getElem? ho) r rfl
          subst hpl
          show (slotOf (some pl.toRecord)).map Payload.text = _
          rw [slotOf_toRecord]
          cases pl <;> rfl

/-- **EVERY SYNCHRONOUS CALL** does on the objects what it does on the slots,
and returns the same. -/
theorem slots_exec (hs : s.Sound) (op : JsOp Want) :
    (s.exec N uri op).map (fun x => (x.1.slots, x.2))
      = s.slots.exec N uri op := by
  cases op with
  | createData factory =>
      have hf := factory.value_slots N uri
      unfold JsObjects.exec SlotObjects.exec
      dsimp only
      rw [← hf]
      cases (factory.value N uri : Option (PasteData Uri Want)) with
      | none => rfl
      | some d => exact congrArg some (slots_newPasteData d)
  | createRecord factory =>
      have hf := factory.value_slot N uri
      unfold JsObjects.exec SlotObjects.exec
      dsimp only
      rw [← hf]
      cases hv : (factory.value N uri :
          Option (Option (PasteDataRecord Uri Want))) with
      | none => rfl
      | some o =>
          exact congrArg some (slots_newRecord (factory.ofPayload N uri hv))
  | update obj method =>
      unfold JsObjects.exec SlotObjects.exec
      dsimp only
      rw [show s.slots.pasteDatas[obj]? = s.pasteDatas[obj]?.map PasteData.slots
        from List.getElem?_map ..]
      cases s.pasteDatas[obj]? with
      | none => rfl
      | some d =>
          -- the records of the program are those that may be passed
          have h := method.apply_slots N uri hs.records d
          dsimp only [Option.map_some]
          rw [show s.slots.records = s.records.map slotOf from rfl, ← h]
          unfold setPasteData JsObjects.slots
          dsimp only
          rw [List.map_set]
  | query obj method =>
      unfold JsObjects.exec SlotObjects.exec
      dsimp only
      rw [show s.slots.pasteDatas[obj]? = s.pasteDatas[obj]?.map PasteData.slots
        from List.getElem?_map ..]
      cases hd : s.pasteDatas[obj]? with
      | none => rfl
      | some d =>
          have hof := hs.pasteDatas d (List.mem_of_getElem? hd)
          show ((method.read N d).map _).map _ = _
          -- the cache of a paste data is right, so the slots tell as much
          rw [method.read_slots N hof, Option.map_map]
          rfl
  | getRecordAt obj number =>
      unfold JsObjects.exec SlotObjects.exec
      dsimp only
      rw [show s.slots.pasteDatas[obj]? = s.pasteDatas[obj]?.map PasteData.slots
        from List.getElem?_map ..]
      cases hd : s.pasteDatas[obj]? with
      | none => rfl
      | some d =>
          have hof := hs.pasteDatas d (List.mem_of_getElem? hd)
          obtain ⟨hpayload, hslot⟩ :=
            -- the new instance shares the record
            hof.getRecordAt (sizeOfInt64 number)
          show some ((s.newRecord _).1.slots, (s.newRecord _).2) = _
          rw [slots_newRecord hpayload, hslot]
          rfl

end JsObjects

end Calls

end Pasteboard
