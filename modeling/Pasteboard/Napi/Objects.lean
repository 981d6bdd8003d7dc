/-
  Pasteboard.Napi.Objects
  ───────────────────────
  **THE OBJECTS OF A JAVASCRIPT PROGRAM** (`napi_pastedata.cpp`,
  `napi_pastedata_record.cpp`, the factories of `napi_pasteboard.cpp`).

  A program holds instances of `PasteData` and of `PasteDataRecord`, each
  around a native value:

    • factories make an instance; a record that is refused (a long text) is
      an instance around a null pointer,
    • updates change the paste data of one instance,
    • queries read it, through every record pointer up to what they look for.

  A string argument of a method is cut to the buffer of 256 bytes, one of a
  factory is read whole.  `uri` is the constructor of `OHOS::Uri`.  What a
  binding does with a wrong argument count or type is left out; an instance
  that cannot be unwrapped is one that the program does not have.

  Null pointers enter a paste data by `removeRecordAt` and by
  `replaceRecordAt` of a refused record, and in no other way
  (`WellFormed.apply_update`).
-/
import Pasteboard.Data.Mutators
import Pasteboard.Napi.Records
import Pasteboard.Service.Clipboard

namespace Pasteboard

open Lib

variable {Uri Want : Type}

/-! ## §1. What JavaScript gets. -/

/-- The value of a property of an instance. -/
inductive PropertyValue (Want : Type) where
  | string (text : String)
  | want (value : Want)
  deriving DecidableEq, Repr

/-- The properties set on a record instance, by name and in order.  What a
property does that is set twice, or named as a method, is up to the engine. -/
abbrev RecordProperties (Want : Type) : Type :=
  List (String × PropertyValue Want)

/-- The object `SetNapiProperty` fills; `additions` is left out. -/
structure NapiProperty where
  mimeTypes : Option (List String)
  tag : String
  timestamp : Int
  deriving DecidableEq, Repr

/-- The value a binding returns, or settles a call with.  An instance is named
by the number of instances of its class made before it, a promise by its
call. -/
inductive JsResult (Want : Type) where
  | undefined
  | null
  | boolean (value : Bool)
  | number (value : Int)
  | string (value : String)
  | strings (values : List String)
  | want (value : Want)
  | property (value : NapiProperty)
  | pasteData (obj : Nat)
  | record (obj : Nat) (properties : RecordProperties Want)
  | promise (call : Nat)
  /-- An object with the property `code`. -/
  | errorObject (code : Int)
  | error (message : String)
  deriving DecidableEq, Repr

/-- A null pointer is returned as `undefined`. -/
def JsResult.ofPointer {α : Type} (mk : α → JsResult Want) :
    Option α → JsResult Want
  | none => .undefined
  | some p => mk p

/-- `napi_create_string_utf8` of `c_str()`. -/
def JsResult.ofString (text : String) : JsResult Want := .string (cString text)

/-- `napi_get_value_int64`, whose result is passed on as a `size_t`. -/
def sizeOfInt64 (number : Int) : Nat := (number % 18446744073709551616).toNat

namespace PasteDataRecordNapi

/-- The property `propName` with the text `objName`. -/
def setNamedPropertyByStr (dstObj : RecordProperties Want)
    (objName propName : String) : RecordProperties Want :=
  dstObj ++ [(propName, .string (cString objName))]

/-- `value` is `value_` of the instance.  What `SetNamedPropertyByStr` takes as
the text is here the NAME of a property, and the other way round; only a want
is set under its own name. -/
def jsFillInstance [ToString Uri] :
    Option (PasteDataRecord Uri Want) → RecordProperties Want
  | none => []
  | some value =>
      let mimeType := value.mimeType
      let instance' := setNamedPropertyByStr [] "mimeType" (cString mimeType)
      if mimeType = MIMETYPE_TEXT_PLAIN then
        match value.plainText with
        | none => instance'
        | some plainText =>
            setNamedPropertyByStr instance' "plainText" (cString plainText)
      else if mimeType = MIMETYPE_TEXT_HTML then
        match value.htmlText with
        | none => instance'
        | some htmlText =>
            setNamedPropertyByStr instance' "htmlText" (cString htmlText)
      else if mimeType = MIMETYPE_TEXT_URI then
        match value.uri with
        | none => instance'
        | some uri =>
            setNamedPropertyByStr instance' "uri" (cString (toString uri))
      else if mimeType = MIMETYPE_TEXT_WANT then
        match value.want with
        | none => instance'
        | some want => instance' ++ [("want", .want want)]
      else instance'

end PasteDataRecordNapi

/-! ## §2. The bindings. -/

/-- The native values of a program's instances, in the order they were
made. -/
structure JsObjects (Uri Want : Type) where
  pasteDatas : List (PasteData Uri Want) := []
  records : List (Option (PasteDataRecord Uri Want)) := []

/-- A call that makes an instance of `PasteData`; a want comes from
`UnwrapWant`, which may fail. -/
inductive PasteDataFactory (Want : Type) where
  | new
  | createHtmlData (text : String)
  | createWantData (want : Option Want)
  | createPlainTextData (text : String)
  | createUriData (text : String)

/-- One that makes an instance of `PasteDataRecord`. -/
inductive RecordFactory (Want : Type) where
  | new
  | createHtmlTextRecord (text : String)
  | createWantRecord (want : Option Want)
  | createPlainTextRecord (text : String)
  | createUriRecord (text : String)

/-- A method that changes its paste data. -/
inductive PasteDataUpdate (Want : Type) where
  | addHtmlRecord (text : String)
  | addWantRecord (want : Option Want)
  | addTextRecord (text : String)
  | addUriRecord (text : String)
  | addRecord (record : Nat)
  | removeRecordAt (number : Int)
  | replaceRecordAt (number : Int) (record : Nat)

/-- A method that reads it. -/
inductive PasteDataQuery where
  | getPrimaryHtml
  | getPrimaryText
  | getPrimaryUri
  | getPrimaryWant
  | getPrimaryMimeType
  | hasMimeType (mimeType : String)
  | getMimeTypes
  | getRecordCount
  | getTag
  | getProperty

variable (N : Napi) (uri : String → Uri)

/-- The paste data of the new instance, `none` where there is no instance. -/
def PasteDataFactory.value : PasteDataFactory Want → Option (PasteData Uri Want)
  | .new => some {}
  | .createHtmlData text =>
      some (PasteboardClient.createHtmlData (argumentOfCreate N text))
  | .createWantData want =>
      want.map fun want => PasteboardClient.createWantData (some want)
  | .createPlainTextData text =>
      some (PasteboardClient.createPlainTextData (argumentOfCreate N text))
  | .createUriData text =>
      some (PasteboardClient.createUriData (uri (argumentOfCreate N text)))

/-- The pointer in the new instance, `none` where there is no instance. -/
def RecordFactory.value :
    RecordFactory Want → Option (Option (PasteDataRecord Uri Want))
  | .new => some none
  | .createHtmlTextRecord text => some (jScreateHtmlTextRecord N text)
  | .createWantRecord want =>
      want.map fun want => PasteDataRecord.newWantRecord (some want)
  | .createPlainTextRecord text => some (jScreatePlainTextRecord N text)
  | .createUriRecord text => some (jScreateUriRecord N uri text)

/-- The paste data after a method, and what it returns.  `records` are the
program's record instances. -/
def PasteDataUpdate.apply (records : List (Option (PasteDataRecord Uri Want)))
    (d : PasteData Uri Want) :
    PasteDataUpdate Want → PasteData Uri Want × JsResult Want
  | .addHtmlRecord text => (PasteDataNapi.addHtmlRecord N text d, .undefined)
  | .addWantRecord none => (d, .undefined)
  | .addWantRecord (some want) => (d.addWantRecord (some want), .undefined)
  | .addTextRecord text => (PasteDataNapi.addTextRecord N text d, .undefined)
  | .addUriRecord text => (PasteDataNapi.addUriRecord N uri text d, .undefined)
  | .addRecord record =>
      match records[record]? with
      | none => (d, .undefined)
      | some value => (PasteDataNapi.addRecord value d, .undefined)
  | .removeRecordAt number =>
      let x := d.removeRecordAt (sizeOfInt64 number)
      (x.2, .boolean x.1)
  | .replaceRecordAt number record =>
      match records[record]? with
      | none => (d, .undefined)
      | some value =>
          let x := d.replaceRecordAt (sizeOfInt64 number) value
          (x.2, .boolean x.1)

/-- What a method returns that finds no paste data. -/
def PasteDataUpdate.missing : PasteDataUpdate Want → JsResult Want
  | .replaceRecordAt _ _ => .boolean false
  | _ => .undefined

def PasteDataNapi.setNapiProperty (property : PasteDataProperty) :
    NapiProperty where
  mimeTypes :=
    if property.mimeTypes.length > 0 then
      some (property.mimeTypes.map cString)
    else none
  tag := cString property.tag
  timestamp := property.timestamp

/-- What a method returns; `none` is the dereference of a null pointer. -/
def PasteDataQuery.read [ToString Uri] (d : PasteData Uri Want) :
    PasteDataQuery → Option (JsResult Want)
  | .getPrimaryHtml => d.getPrimaryHtml.map (.ofPointer .ofString)
  | .getPrimaryText => d.getPrimaryText.map (.ofPointer .ofString)
  | .getPrimaryUri =>
      d.getPrimaryUri.map (.ofPointer fun p => .ofString (toString p))
  | .getPrimaryWant => d.getPrimaryWant.map (.ofPointer .want)
  | .getPrimaryMimeType => d.getPrimaryMimeType.map (.ofPointer .ofString)
  | .hasMimeType mimeType =>
      (d.hasMimeType (argumentOfAdd N mimeType)).map .boolean
  | .getMimeTypes =>
      d.getMimeTypes.map fun mimeTypes =>
        if mimeTypes.length = 0 then .undefined
        else .strings (mimeTypes.map cString)
  | .getRecordCount => some (.number d.getRecordCount)
  | .getTag => some (.ofString d.getTag)
  | .getProperty =>
      some (.property (PasteDataNapi.setNapiProperty d.getProperty))

/-- A synchronous call. -/
inductive JsOp (Want : Type) where
  | createData (factory : PasteDataFactory Want)
  | createRecord (factory : RecordFactory Want)
  | update (obj : Nat) (method : PasteDataUpdate Want)
  | query (obj : Nat) (method : PasteDataQuery)
  | getRecordAt (obj : Nat) (number : Int)

namespace JsObjects

def newPasteData (value : PasteData Uri Want) (s : JsObjects Uri Want) :
    JsObjects Uri Want × JsResult Want :=
  ({ s with pasteDatas := s.pasteDatas ++ [value] },
    .pasteData s.pasteDatas.length)

/-- The paste data of an instance, which `obj->value_` points to, changes. -/
def setPasteData (obj : Nat) (value : PasteData Uri Want)
    (s : JsObjects Uri Want) : JsObjects Uri Want :=
  { s with pasteDatas := s.pasteDatas.set obj value }

def newRecord [ToString Uri] (value : Option (PasteDataRecord Uri Want))
    (s : JsObjects Uri Want) : JsObjects Uri Want × JsResult Want :=
  ({ s with records := s.records ++ [value] },
    .record s.records.length (PasteDataRecordNapi.jsFillInstance value))

def exec [ToString Uri] (s : JsObjects Uri Want) :
    JsOp Want → Option (JsObjects Uri Want × JsResult Want)
  | .createData factory =>
      match factory.value N uri with
      | none => some (s, .undefined)
      | some value => some (s.newPasteData value)
  | .createRecord factory =>
      match factory.value N uri with
      | none => some (s, .undefined)
      | some value => some (s.newRecord value)
  | .update obj method =>
      match s.pasteDatas[obj]? with
      | none => some (s, method.missing)
      | some d =>
          let x := method.apply N uri s.records d
          some (s.setPasteData obj x.1, x.2)
  | .query obj method =>
      match s.pasteDatas[obj]? with
      | none => some (s, .undefined)
      | some d => (method.read N d).map fun result => (s, result)
  | .getRecordAt obj number =>
      match s.pasteDatas[obj]? with
      | none => some (s, .undefined)
      -- `NewInstanceByRecord` takes a null pointer as well
      | some d => some (s.newRecord (d.getRecordAt (sizeOfInt64 number)))

end JsObjects

/-! ## §3. Records of payloads. -/

/-- A null pointer, or the record of a payload. -/
def OfPayload (o : Option (PasteDataRecord Uri Want)) : Prop :=
  ∀ r, o = some r → ∃ pl : Payload Uri Want, r = pl.toRecord

theorem ofPayload_none : OfPayload (none : Option (PasteDataRecord Uri Want)) :=
  nofun

theorem Payload.ofPayload (pl : Payload Uri Want) :
    OfPayload (some pl.toRecord) := by
  intro r hr
  injection hr with hr
  exact ⟨pl, hr.symm⟩

/-- A factory with a limit. -/
theorem ofPayload_ite {p : Prop} [Decidable p] (pl : Payload Uri Want) :
    OfPayload (if p then none else some pl.toRecord) := by
  split
  · exact ofPayload_none
  · exact pl.ofPayload

theorem RecordFactory.ofPayload {f : RecordFactory Want}
    {value : Option (PasteDataRecord Uri Want)}
    (h : f.value N uri = some value) : OfPayload value := by
  cases f with
  | createWantRecord want =>
      obtain ⟨w, _, heq⟩ := Option.map_eq_some_iff.mp h
      rw [← heq]
      exact (Payload.want w).ofPayload
  | new =>
      injection h with h
      rw [← h]
      exact ofPayload_none
  | createHtmlTextRecord text =>
      injection h with h
      rw [← h]
      exact ofPayload_ite (Payload.html _)
  | createPlainTextRecord text =>
      injection h with h
      rw [← h]
      exact ofPayload_ite (Payload.plain _)
  | createUriRecord text =>
      injection h with h
      rw [← h]
      exact (Payload.uri _).ofPayload

/-! ## §4. An update is a mutator. -/

namespace Mutator

/-- The record pointer a call is given or makes. -/
def given : Mutator Uri Want → Option (PasteDataRecord Uri Want)
  | .replaceRecordAt _ record => record
  | op => op.added

/-- **What a mutator leaves in a paste data.** -/
theorem mem_apply {op : Mutator Uri Want} {d : PasteData Uri Want}
    {o : Option (PasteDataRecord Uri Want)} (h : o ∈ (op.apply d).records) :
    o ∈ d.records ∨ o = none ∨ o = op.given := by
  by_cases hadd : op.Adds
  · rw [apply_of_adds hadd] at h
    have hgiven : op.given = op.added := by
      cases op with
      | replaceRecordAt number record => exact absurd hadd fun hno => hno
      | _ => rfl
    rw [hgiven]
    -- an added record goes to the front, a null pointer nowhere
    cases hr : op.added with
    | none =>
        rw [hr] at h
        exact Or.inl h
    | some r =>
        rw [hr] at h
        rcases mem_pushFront h with hnew | hold
        · exact Or.inr (Or.inr hnew)
        · exact Or.inl hold
  · cases op with
    | removeRecordAt number =>
        change o ∈ (d.removeRecordAt number).2.records at h
        by_cases hlt : number < d.records.length
        · -- a null pointer is put in, and no record is taken out
          rw [PasteData.removeRecordAt_records hlt,
            List.mem_insertIdx (by omega)] at h
          rcases h with hnone | hold
          · exact Or.inr (Or.inl hnone)
          · exact Or.inl hold
        · rw [PasteData.removeRecordAt_of_le (by omega)] at h
          exact Or.inl h
    | replaceRecordAt number record =>
        change o ∈ (d.replaceRecordAt number record).2.records at h
        by_cases hlt : number < d.records.length
        · rw [PasteData.replaceRecordAt_records record hlt] at h
          rcases List.mem_or_eq_of_mem_set h with hold | hnew
          · exact Or.inl hold
          · exact Or.inr (Or.inr hnew)
        · rw [PasteData.replaceRecordAt_of_le record (by omega)] at h
          exact Or.inl h
    | _ => exact absurd trivial hadd

end Mutator

namespace PasteDataUpdate

variable (records : List (Option (PasteDataRecord Uri Want)))

/-- The mutator a method calls, if it comes to call one. -/
def mutator : PasteDataUpdate Want → Option (Mutator Uri Want)
  | .addHtmlRecord text => some (.addHtmlRecord (argumentOfAdd N text))
  | .addWantRecord want => want.map fun want => .addWantRecord (some want)
  | .addTextRecord text => some (.addTextRecord (argumentOfAdd N text))
  | .addUriRecord text => some (.addUriRecord (uri (argumentOfAdd N text)))
  | .addRecord record => records[record]?.map .addRecord
  | .removeRecordAt number => some (.removeRecordAt (sizeOfInt64 number))
  | .replaceRecordAt number record =>
      records[record]?.map (.replaceRecordAt (sizeOfInt64 number))

theorem apply_eq (method : PasteDataUpdate Want) (d : PasteData Uri Want) :
    (method.apply N uri records d).1
      = (method.mutator N uri records).elim d (·.apply d) := by
  cases method with
  | addWantRecord want => cases want <;> rfl
  | addRecord record =>
      simp only [apply, mutator]
      cases records[record]? <;> rfl
  | replaceRecordAt number record =>
      simp only [apply, mutator]
      cases records[record]? <;> rfl
  | _ => simp only [apply, mutator, Option.elim_some, Mutator.apply,
      PasteDataNapi.addHtmlRecord, PasteDataNapi.addTextRecord,
      PasteDataNapi.addUriRecord]

/-- The method puts a null pointer into the paste data. -/
def Damages (d : PasteData Uri Want) (method : PasteDataUpdate Want) : Prop :=
  ∃ op, method.mutator N uri records = some op ∧ ¬ op.Spares d

/-- The pointers a method passes on are null or of payloads. -/
theorem ofPayload_given (h : ∀ o ∈ records, OfPayload o)
    {method : PasteDataUpdate Want} {op : Mutator Uri Want}
    (hop : method.mutator N uri records = some op) : OfPayload op.given := by
  -- a record that is passed is one of the program's own
  have hrecord : ∀ (record : Nat) {mk : Option (PasteDataRecord Uri Want) →
      Mutator Uri Want}, records[record]?.map mk = some op →
      (∀ o, (mk o).given = o) → OfPayload op.given := by
    intro record mk hmk hgiven
    obtain ⟨o, ho, heq⟩ := Option.map_eq_some_iff.mp hmk
    rw [← heq, hgiven]
    exact h o (List.mem_of_getElem? ho)
  cases method with
  | addHtmlRecord text =>
      injection hop with hop
      rw [← hop]
      exact ofPayload_ite (Payload.html _)
  | addTextRecord text =>
      injection hop with hop
      rw [← hop]
      exact ofPayload_ite (Payload.plain _)
  | addUriRecord text =>
      injection hop with hop
      rw [← hop]
      exact (Payload.uri _).ofPayload
  | addWantRecord want =>
      obtain ⟨w, _, heq⟩ := Option.map_eq_some_iff.mp hop
      rw [← heq]
      exact (Payload.want w).ofPayload
  | addRecord record => exact hrecord record hop fun _ => rfl
  | removeRecordAt number =>
      injection hop with hop
      rw [← hop]
      exact ofPayload_none
  | replaceRecordAt number record => exact hrecord record hop fun _ => rfl

end PasteDataUpdate

namespace PasteData

/-- **An update keeps a paste data well formed** exactly when it puts no null
pointer into it. -/
theorem WellFormed.apply_update {d : PasteData Uri Want} (h : d.WellFormed)
    (records : List (Option (PasteDataRecord Uri Want)))
    (method : PasteDataUpdate Want) :
    (method.apply N uri records d).1.WellFormed
      ↔ ¬ method.Damages N uri records d := by
  rw [PasteDataUpdate.apply_eq]
  unfold PasteDataUpdate.Damages
  cases hop : method.mutator N uri records with
  | none =>
      refine iff_of_true h ?_
      rintro ⟨op, hnone, _⟩
      cases hnone
  | some op =>
      show (op.apply d).WellFormed ↔ _
      rw [h.apply_iff]
      simp

/-- **No query of a well-formed paste data follows a null pointer.** -/
theorem WellFormed.read_isSome [ToString Uri] {d : PasteData Uri Want}
    (h : d.WellFormed) (method : PasteDataQuery) :
    (method.read N d).isSome = true := by
  have hsafe := h.readersSafe
  have hmap : ∀ {α : Type} {o : Option α} (f : α → JsResult Want),
      o.isSome = true → (o.map f).isSome = true := by
    intro α o f ho
    rw [Option.isSome_map]
    exact ho
  cases method with
  | getPrimaryHtml => exact hmap _ hsafe.getPrimaryHtml
  | getPrimaryText => exact hmap _ hsafe.getPrimaryText
  | getPrimaryUri => exact hmap _ hsafe.getPrimaryUri
  | getPrimaryWant => exact hmap _ hsafe.getPrimaryWant
  | getPrimaryMimeType => exact hmap _ hsafe.getPrimaryMimeType
  | hasMimeType mimeType => exact hmap _ (hsafe.hasMimeType _)
  | getMimeTypes => exact hmap _ hsafe.getMimeTypes
  | getRecordCount => rfl
  | getTag => rfl
  | getProperty => rfl

/-- What every paste data of a program is: its records are null or of
payloads, its cached MIME types are right, and it has no tag. -/
structure OfPayloads (d : PasteData Uri Want) : Prop where
  records : ∀ o ∈ d.records, OfPayload o
  coherent : d.CacheCoherent
  tag : d.props.tag = ""

theorem OfPayloads.loaded {d : PasteData Uri Want} (h : d.OfPayloads) :
    d.Loaded := by
  intro r hr
  obtain ⟨pl, hpl⟩ := h.records _ hr r rfl
  rw [hpl]
  exact ⟨pl, pl.payload_toRecord⟩

/-- Without a null pointer, it is what a transfer could have brought. -/
theorem OfPayloads.decoded {d : PasteData Uri Want} (h : d.OfPayloads)
    (hwf : d.WellFormed) : d.Decoded where
  count_le := hwf.count_le
  records_eq o ho := by
    cases o with
    | none => exact absurd ho hwf.nonNull
    | some r =>
        obtain ⟨pl, hpl⟩ := h.records _ ho r rfl
        exact ⟨pl, congrArg some hpl⟩

/-- What is pasted is well formed and of payloads. -/
theorem Pasted.wellFormed_ofPayloads {pls : List (Payload Uri Want)}
    {d : PasteData Uri Want} (h : d.Pasted pls) :
    d.WellFormed ∧ d.OfPayloads := by
  refine ⟨⟨h.decoded.count_le, ?_⟩, ⟨?_, h.coherent, h.tag⟩⟩
  · intro hnone
    obtain ⟨pl, hpl⟩ := h.decoded.records_eq _ hnone
    cases hpl
  · intro o ho
    obtain ⟨pl, hpl⟩ := h.decoded.records_eq o ho
    rw [hpl]
    exact pl.ofPayload

theorem ofPayloads_empty : ({} : PasteData Uri Want).OfPayloads where
  records o ho := by cases ho
  coherent := rfl
  tag := rfl

/-- No mutator sets the tag. -/
theorem tag_apply (op : Mutator Uri Want) (d : PasteData Uri Want) :
    (op.apply d).props.tag = d.props.tag := by
  have hadd : ∀ o : Option (PasteDataRecord Uri Want),
      (d.addRecord o).props.tag = d.props.tag := by
    intro o
    cases o <;> rfl
  cases op with
  | removeRecordAt number =>
      show (d.removeRecordAt number).2.props.tag = _
      unfold removeRecordAt
      split <;> rfl
  | replaceRecordAt number record =>
      show (d.replaceRecordAt number record).2.props.tag = _
      unfold replaceRecordAt
      split <;> rfl
  | addRecordRef record => rfl
  | _ => exact hadd _

theorem OfPayloads.apply {d : PasteData Uri Want} (h : d.OfPayloads)
    {op : Mutator Uri Want} (hop : OfPayload op.given) :
    (op.apply d).OfPayloads where
  records o ho := by
    rcases Mutator.mem_apply ho with hold | hnone | hgiven
    · exact h.records o hold
    · rw [hnone]
      exact ofPayload_none
    · rw [hgiven]
      exact hop
  coherent := h.coherent.apply op
  tag := by
    rw [tag_apply]
    exact h.tag

theorem OfPayloads.apply_update {d : PasteData Uri Want} (h : d.OfPayloads)
    {records : List (Option (PasteDataRecord Uri Want))}
    (hrecords : ∀ o ∈ records, OfPayload o) (method : PasteDataUpdate Want) :
    (method.apply N uri records d).1.OfPayloads := by
  rw [PasteDataUpdate.apply_eq]
  cases hop : method.mutator N uri records with
  | none => exact h
  | some op =>
      exact h.apply (PasteDataUpdate.ofPayload_given N uri records hrecords hop)

end PasteData

/-- A factory makes an empty paste data, or adds one record to it. -/
theorem PasteDataFactory.value_cases {f : PasteDataFactory Want}
    {d : PasteData Uri Want} (h : f.value N uri = some d) :
    d = {} ∨ ∃ op : Mutator Uri Want, d = op.apply {} ∧ op.Spares {}
      ∧ OfPayload op.given := by
  cases f with
  | new =>
      injection h with h
      exact Or.inl h.symm
  | createHtmlData text =>
      injection h with h
      exact Or.inr ⟨.addHtmlRecord _, h.symm, trivial,
        ofPayload_ite (Payload.html _)⟩
  | createWantData want =>
      obtain ⟨w, _, heq⟩ := Option.map_eq_some_iff.mp h
      exact Or.inr ⟨.addWantRecord (some w), heq.symm, trivial,
        (Payload.want w).ofPayload⟩
  | createPlainTextData text =>
      injection h with h
      exact Or.inr ⟨.addTextRecord _, h.symm, trivial,
        ofPayload_ite (Payload.plain _)⟩
  | createUriData text =>
      injection h with h
      exact Or.inr ⟨.addUriRecord _, h.symm, trivial,
        (Payload.uri _).ofPayload⟩

/-- **New paste data are well formed and of payloads.** -/
theorem PasteDataFactory.sound {f : PasteDataFactory Want}
    {d : PasteData Uri Want} (h : f.value N uri = some d) :
    d.WellFormed ∧ d.OfPayloads := by
  rcases PasteDataFactory.value_cases N uri h with heq | ⟨op, heq, hspares, hop⟩
  · rw [heq]
    exact ⟨PasteData.wellFormed_empty, PasteData.ofPayloads_empty⟩
  · rw [heq]
    exact ⟨(PasteData.wellFormed_empty.apply_iff op).mpr hspares,
      PasteData.ofPayloads_empty.apply hop⟩

/-! ## §5. What a synchronous call does to the program's objects. -/

namespace JsObjects

/-- What every program's objects are. -/
structure Sound (s : JsObjects Uri Want) : Prop where
  records : ∀ o ∈ s.records, OfPayload o
  pasteDatas : ∀ d ∈ s.pasteDatas, d.OfPayloads

/-- One change of the objects: none, a new instance, or an update of one.  The
instances that get a null pointer are `damaged`. -/
inductive Change (damaged : Nat → Prop) (s : JsObjects Uri Want) :
    JsObjects Uri Want → Prop where
  | refl : Change damaged s s
  | newPasteData {d : PasteData Uri Want} (hwf : d.WellFormed)
      (hof : d.OfPayloads) : Change damaged s (s.newPasteData d).1
  | newRecord {o : Option (PasteDataRecord Uri Want)} (ho : OfPayload o) :
      Change damaged s { s with records := s.records ++ [o] }
  | update {obj : Nat} {d : PasteData Uri Want}
      (hd : s.pasteDatas[obj]? = some d) (method : PasteDataUpdate Want)
      (hdam : method.Damages N uri s.records d → damaged obj) :
      Change damaged s (s.setPasteData obj (method.apply N uri s.records d).1)

/-- The update puts a null pointer into the paste data of `obj`. -/
def Damages (s : JsObjects Uri Want) (obj : Nat) : JsOp Want → Prop
  | .update obj' method => obj' = obj
      ∧ ∃ d, s.pasteDatas[obj]? = some d ∧ method.Damages N uri s.records d
  | _ => False

variable {N uri} {damaged : Nat → Prop} {s s' : JsObjects Uri Want}

theorem sound_empty : ({} : JsObjects Uri Want).Sound := ⟨nofun, nofun⟩

theorem Sound.change (hs : s.Sound) (h : s.Change N uri damaged s') :
    s'.Sound := by
  cases h with
  | refl => exact hs
  | newPasteData hwf hof =>
      refine ⟨hs.records, ?_⟩
      intro d hd
      rcases List.mem_append.mp hd with hd | hd
      · exact hs.pasteDatas d hd
      · rw [List.mem_singleton.mp hd]
        exact hof
  | newRecord ho =>
      refine ⟨?_, hs.pasteDatas⟩
      intro o' ho'
      rcases List.mem_append.mp ho' with ho' | ho'
      · exact hs.records o' ho'
      · rw [List.mem_singleton.mp ho']
        exact ho
  | update hd method _ =>
      refine ⟨hs.records, ?_⟩
      intro d' hd'
      rcases List.mem_or_eq_of_mem_set hd' with hold | hnew
      · exact hs.pasteDatas d' hold
      · rw [hnew]
        exact (hs.pasteDatas _ (List.mem_of_getElem? hd)).apply_update N uri
          hs.records method

/-- Instances stay. -/
theorem Change.length_le (h : s.Change N uri damaged s') :
    s.pasteDatas.length ≤ s'.pasteDatas.length
      ∧ s.records.length ≤ s'.records.length := by
  cases h with
  | refl => exact ⟨Nat.le_refl _, Nat.le_refl _⟩
  | newPasteData hwf hof =>
      unfold JsObjects.newPasteData
      simp
  | newRecord ho => simp
  | update hd method hdam =>
      unfold setPasteData
      simp

/-- An instance is well formed, if there is one. -/
def WellFormedAt (s : JsObjects Uri Want) (obj : Nat) : Prop :=
  ∀ d, s.pasteDatas[obj]? = some d → d.WellFormed

/-- **An instance stays well formed unless it is damaged.** -/
theorem WellFormedAt.change {obj : Nat} (hwf : s.WellFormedAt obj)
    (h : s.Change N uri damaged s') (hno : ¬ damaged obj) :
    s'.WellFormedAt obj := by
  cases h with
  | refl => exact hwf
  | newRecord ho => exact hwf
  | newPasteData hnew hof =>
      intro d hd
      -- the instance, the new one, or one that is not there
      rcases Nat.lt_trichotomy obj s.pasteDatas.length with hlt | heq | hgt
      · refine hwf d ?_
        rw [← hd]
        exact (List.getElem?_append_left hlt).symm
      · subst heq
        unfold newPasteData at hd
        rw [List.getElem?_concat_length] at hd
        injection hd with hd
        rw [← hd]
        exact hnew
      · unfold newPasteData at hd
        rw [List.getElem?_eq_none (by simp; omega)] at hd
        cases hd
  | update hd method hdam =>
      intro d' hd'
      unfold setPasteData at hd'
      rw [List.getElem?_set] at hd'
      split at hd'
      · next heq =>
          subst heq
          rw [if_pos (List.getElem?_eq_some_iff.mp hd).1] at hd'
          injection hd' with hd'
          rw [← hd', (hwf _ hd).apply_update]
          exact fun hdamages => hno (hdam hdamages)
      · exact hwf d' hd'

variable [ToString Uri] {op : JsOp Want} {result : JsResult Want}

/-- **A synchronous call changes one object at most.** -/
theorem exec_change (hs : s.Sound) (h : s.exec N uri op = some (s', result)) :
    s.Change N uri (fun obj => s.Damages N uri obj op) s' := by
  unfold exec at h
  cases op with
  | createData factory =>
      dsimp only at h
      cases hv : (factory.value N uri : Option (PasteData Uri Want)) with
      | none =>
          rw [hv] at h
          injection h with h
          injection h with h _
          rw [← h]
          exact .refl
      | some d =>
          rw [hv] at h
          injection h with h
          injection h with h _
          obtain ⟨hwf, hof⟩ := PasteDataFactory.sound N uri hv
          rw [← h]
          exact .newPasteData hwf hof
  | createRecord factory =>
      dsimp only at h
      cases hv : (factory.value N uri :
          Option (Option (PasteDataRecord Uri Want))) with
      | none =>
          rw [hv] at h
          injection h with h
          injection h with h _
          rw [← h]
          exact .refl
      | some o =>
          rw [hv] at h
          injection h with h
          injection h with h _
          rw [← h]
          exact .newRecord (RecordFactory.ofPayload N uri hv)
  | update obj method =>
      dsimp only at h
      cases hd : s.pasteDatas[obj]? with
      | none =>
          rw [hd] at h
          injection h with h
          injection h with h _
          rw [← h]
          exact .refl
      | some d =>
          rw [hd] at h
          injection h with h
          injection h with h _
          rw [← h]
          exact .update hd method fun hdam => ⟨rfl, d, hd, hdam⟩
  | query obj method =>
      dsimp only at h
      cases hd : s.pasteDatas[obj]? with
      | none =>
          rw [hd] at h
          injection h with h
          injection h with h _
          rw [← h]
          exact .refl
      | some d =>
          rw [hd] at h
          obtain ⟨x, _, hx⟩ := Option.map_eq_some_iff.mp h
          injection hx with hx _
          rw [← hx]
          exact .refl
  | getRecordAt obj number =>
      dsimp only at h
      cases hd : s.pasteDatas[obj]? with
      | none =>
          rw [hd] at h
          injection h with h
          injection h with h _
          rw [← h]
          exact .refl
      | some d =>
          rw [hd] at h
          injection h with h
          injection h with h _
          rw [← h]
          refine .newRecord ?_
          -- what is read is one of the records, or null
          unfold PasteData.getRecordAt
          split
          · cases ho : d.records[sizeOfInt64 number]? with
            | none => exact ofPayload_none
            | some o =>
                exact (hs.pasteDatas d (List.mem_of_getElem? hd)).records o
                  (List.mem_of_getElem? ho)
          · exact ofPayload_none

/-- **Only a query can follow a null pointer.** -/
theorem exec_isSome (s : JsObjects Uri Want) (op : JsOp Want)
    (h : ∀ obj method, op = .query obj method → s.WellFormedAt obj) :
    (s.exec N uri op).isSome = true := by
  unfold exec
  cases op with
  | query obj method =>
      dsimp only
      cases hd : s.pasteDatas[obj]? with
      | none => rfl
      | some d =>
          show ((method.read N d).map _).isSome = true
          rw [Option.isSome_map]
          exact (h obj method rfl d hd).read_isSome N method
  | _ =>
      dsimp only
      split
      · rfl
      · rfl

end JsObjects

end Pasteboard
