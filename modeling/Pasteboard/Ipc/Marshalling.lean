/-
  Pasteboard.Ipc.Marshalling
  ──────────────────────────
  **THE CODECS** (`Marshalling`, `ReadFromParcel`, `Unmarshalling` of
  `paste_data_record.cpp` and `paste_data.cpp`).

  A writer returning `none` is a `Marshalling` returning false.  The parcel a
  failed write leaves behind is not kept: no caller sends it.

  A record is written as its MIME type followed by its payload.  The encoder
  leaves a null payload out; the decoder reads one in any case.
-/
import Pasteboard.Ipc.Parcel
import Pasteboard.Data.PasteData

namespace Pasteboard

open Lib

variable {Uri Want : Type}

/-! ## §1. Records. -/

namespace PasteDataRecord

/-- Write a payload through its pointer; a null pointer writes nothing. -/
def writePayload {α : Type} {E : Ipc Uri Want} (write : α → E.Writer) :
    Option α → E.Writer
  | none => some
  | some a => write a

def marshalling (E : Ipc Uri Want) (r : PasteDataRecord Uri Want) : E.Writer :=
  E.writeString16 (E.str8ToStr16 r.mimeType) >=>
    (if r.mimeType = MIMETYPE_TEXT_PLAIN then
      writePayload (fun s => E.writeString16 (E.str8ToStr16 s)) r.plainText
    else if r.mimeType = MIMETYPE_TEXT_HTML then
      writePayload (fun s => E.writeString16 (E.str8ToStr16 s)) r.htmlText
    else if r.mimeType = MIMETYPE_TEXT_URI then
      writePayload E.writeUri r.uri
    else if r.mimeType = MIMETYPE_TEXT_WANT then
      writePayload E.writeWant r.want
    -- an unknown MIME type is refused, after the type has been written
    else fun _ => none)

/-- The part of `ReadFromParcel` after the MIME type: the payload the type
asks for.  The flag is the status the function returns. -/
def readPayload (E : Ipc Uri Want) (r : PasteDataRecord Uri Want) :
    E.Reader (Bool × PasteDataRecord Uri Want) :=
  if r.mimeType = MIMETYPE_TEXT_HTML then do
    let s ← E.readString16
    return (true, { r with htmlText := some (E.str16ToStr8 s) })
  else if r.mimeType = MIMETYPE_TEXT_PLAIN then do
    let s ← E.readString16
    return (true, { r with plainText := some (E.str16ToStr8 s) })
  else if r.mimeType = MIMETYPE_TEXT_URI then do
    let uri ← E.readUri
    match uri with
    -- `Uri::Unmarshalling` failed: so does the record
    | none => return (false, r)
    | some u => return (true, { r with uri := some u })
  else if r.mimeType = MIMETYPE_TEXT_WANT then do
    let want ← E.readWant
    match want with
    | none => return (false, r)
    | some w => return (true, { r with want := some w })
  else return (false, r)

/-- The status the function returns, and the record it has filled. -/
def readFromParcel (E : Ipc Uri Want) (r : PasteDataRecord Uri Want) :
    E.Reader (Bool × PasteDataRecord Uri Want) := do
  let mime16 ← E.readString16
  readPayload E { r with mimeType := E.str16ToStr8 mime16 }

def unmarshalling (E : Ipc Uri Want) :
    E.Reader (Option (PasteDataRecord Uri Want)) := do
  let filled ← readFromParcel E {}
  return if filled.1 then some filled.2 else none

end PasteDataRecord

/-! ## §2. Paste data. -/

namespace PasteData

def marshalling (E : Ipc Uri Want) (d : PasteData Uri Want) : E.Writer :=
  E.writeUint32 (UInt32.ofNat d.records.length) >=>
    Wire.writeList (E.writeParcelable (PasteDataRecord.marshalling E)) d.records

/-- The decoder's loop: `n` records still to read.  A record that is null or
fails to decode is skipped. -/
def readRecords (E : Ipc Uri Want) :
    Nat → PasteData Uri Want → E.Reader (PasteData Uri Want)
  | 0, d => return d
  | n + 1, d => do
      let record ← E.readParcelable (PasteDataRecord.unmarshalling E)
      match record with
      | none => readRecords E n d
      -- `AddRecord` pushes to the front: the order is reversed
      | some r => readRecords E n (d.addRecordRef r)

/-- The status the function returns, and the paste data it has filled. -/
def readFromParcel (E : Ipc Uri Want) (d : PasteData Uri Want) :
    E.Reader (Bool × PasteData Uri Want) := do
  let length ← E.readUint32
  -- the count is believed, whatever the parcel holds
  let d ← readRecords E length.toNat { d with records := [] }
  return (true, d)

def unmarshalling (E : Ipc Uri Want) :
    E.Reader (Option (PasteData Uri Want)) := do
  let filled ← readFromParcel E {}
  return if filled.1 then some filled.2 else none

end PasteData

/-! ## §3. The items a paste data is written as. -/

namespace Payload

/-- The one item a payload is written as. -/
def item (E : Ipc Uri Want) : Payload Uri Want → Ipc.ParcelItem Uri Want
  | .plain s => ⟨.string16, E.str8ToStr16 s⟩
  | .html s => ⟨.string16, E.str8ToStr16 s⟩
  | .uri u => ⟨.uri, some u⟩
  | .want w => ⟨.want, some w⟩

end Payload

namespace PasteDataRecord

/-- The items of a record: its MIME type, and its payload if there is one. -/
def items (E : Ipc Uri Want) (r : PasteDataRecord Uri Want) :
    List (Ipc.ParcelItem Uri Want) :=
  ⟨.string16, E.str8ToStr16 r.mimeType⟩ :: (r.payload.map (·.item E)).toList

/-- What `WriteParcelable` makes of a record pointer. -/
def parcelItems (E : Ipc Uri Want) :
    Option (PasteDataRecord Uri Want) → List (Ipc.ParcelItem Uri Want)
  | none => [⟨.presence, false⟩]
  | some r => ⟨.presence, true⟩ :: r.items E

/-- Every branch of the encoder writes its payload pointer. -/
theorem emits_writePayload {E : Ipc Uri Want} (T : E.Faithful) {α : Type}
    (write : α → E.Writer) (mk : α → Payload Uri Want)
    (h : ∀ a, T.fifo.Emits (write a) [(mk a).item E]) (o : Option α) :
    T.fifo.Emits (writePayload write o)
      ((o.map mk).map (·.item E)).toList := by
  cases o with
  | none => exact T.fifo.emits_skip
  | some a => exact h a

/-- **A record's `Marshalling` writes the record's items.** -/
theorem emits_marshalling {E : Ipc Uri Want} (T : E.Faithful)
    (r : PasteDataRecord Uri Want) :
    T.fifo.Emits (r.marshalling E) (r.items E) := by
  refine T.fifo.emits_seq (T.fifo.emits_write .string16 _) ?_
  by_cases hp : r.mimeType = MIMETYPE_TEXT_PLAIN
  · rw [if_pos hp, payload_plain hp]
    exact emits_writePayload T _ .plain
      (fun s => T.fifo.emits_write .string16 _) r.plainText
  rw [if_neg hp]
  by_cases hh : r.mimeType = MIMETYPE_TEXT_HTML
  · rw [if_pos hh, payload_html hh]
    exact emits_writePayload T _ .html
      (fun s => T.fifo.emits_write .string16 _) r.htmlText
  rw [if_neg hh]
  by_cases hu : r.mimeType = MIMETYPE_TEXT_URI
  · rw [if_pos hu, payload_uri hu]
    exact emits_writePayload T _ .uri
      (fun u => T.fifo.emits_write .uri _) r.uri
  rw [if_neg hu]
  by_cases hw : r.mimeType = MIMETYPE_TEXT_WANT
  · rw [if_pos hw, payload_want hw]
    exact emits_writePayload T _ .want
      (fun w => T.fifo.emits_write .want _) r.want
  rw [if_neg hw]
  exact T.fifo.emits_fail _

end PasteDataRecord

namespace PasteData

/-- The items of a paste data: the count as 32 bits, then the records. -/
def items (E : Ipc Uri Want) (d : PasteData Uri Want) :
    List (Ipc.ParcelItem Uri Want) :=
  ⟨.uint32, UInt32.ofNat d.records.length⟩ ::
    d.records.flatMap (PasteDataRecord.parcelItems E)

/-- **`Marshalling` writes the items of the paste data.** -/
theorem emits_marshalling {E : Ipc Uri Want} (T : E.Faithful)
    (d : PasteData Uri Want) : T.fifo.Emits (d.marshalling E) (d.items E) := by
  refine T.fifo.emits_seq (T.fifo.emits_write .uint32 _) ?_
  refine T.fifo.emits_writeList d.records fun o _ => ?_
  cases o with
  | none => exact T.emits_writeParcelable_null _
  | some r =>
      exact T.emits_writeParcelable (PasteDataRecord.emits_marshalling T r)

end PasteData

/-! ## §4. When encoding succeeds. -/

namespace PasteDataRecord

variable {E : Ipc Uri Want}

theorem succeeds_writePayload {α : Type} {write : α → E.Writer}
    (h : ∀ a, Wire.Succeeds (write a)) (o : Option α) :
    Wire.Succeeds (writePayload write o) := by
  cases o with
  | none => exact Wire.succeeds_skip
  | some a => exact h a

/-- With room in the parcel, a record of a known MIME type is written. -/
theorem succeeds_marshalling (L : E.Lossless) {r : PasteDataRecord Uri Want}
    (h : KnownMimeType r.mimeType) : Wire.Succeeds (r.marshalling E) := by
  have htext : ∀ s, Wire.Succeeds (E.writeString16 (E.str8ToStr16 s)) :=
    fun s => L .string16 (E.str8ToStr16 s)
  refine Wire.succeeds_seq (htext r.mimeType) ?_
  rcases h with h | h | h | h
  · rw [if_pos h]
    exact succeeds_writePayload htext r.plainText
  · rw [if_neg (by rw [h]; decide), if_pos h]
    exact succeeds_writePayload htext r.htmlText
  · rw [if_neg (by rw [h]; decide), if_neg (by rw [h]; decide), if_pos h]
    exact succeeds_writePayload (fun u => L .uri (some u)) r.uri
  · rw [if_neg (by rw [h]; decide), if_neg (by rw [h]; decide),
      if_neg (by rw [h]; decide), if_pos h]
    exact succeeds_writePayload (fun w => L .want (some w)) r.want

end PasteDataRecord

namespace PasteData

/-- Every record that is not null has a MIME type the encoder knows. -/
def Known (d : PasteData Uri Want) : Prop :=
  ∀ r, some r ∈ d.records → KnownMimeType r.mimeType

/-- With room in the parcel, a paste data of known records is written. -/
theorem succeeds_marshalling {E : Ipc Uri Want} (L : E.Lossless)
    {d : PasteData Uri Want} (h : d.Known) :
    Wire.Succeeds (d.marshalling E) := by
  refine Wire.succeeds_seq (L .uint32 _) ?_
  refine Wire.succeeds_writeList d.records fun o ho => ?_
  refine L.writeParcelable fun r hr => ?_
  subst hr
  exact PasteDataRecord.succeeds_marshalling L (h r ho)

end PasteData

/-! ## §5. The branches of the record decoder. -/

namespace PasteDataRecord

variable (E : Ipc Uri Want)

theorem readPayload_html {r : PasteDataRecord Uri Want}
    (h : r.mimeType = MIMETYPE_TEXT_HTML) :
    readPayload E r = (do
      let s ← E.readString16
      return (true, { r with htmlText := some (E.str16ToStr8 s) })) := by
  unfold readPayload
  rw [if_pos h]

theorem readPayload_plain {r : PasteDataRecord Uri Want}
    (h : r.mimeType = MIMETYPE_TEXT_PLAIN) :
    readPayload E r = (do
      let s ← E.readString16
      return (true, { r with plainText := some (E.str16ToStr8 s) })) := by
  unfold readPayload
  rw [if_neg (by rw [h]; decide), if_pos h]

theorem readPayload_uri {r : PasteDataRecord Uri Want}
    (h : r.mimeType = MIMETYPE_TEXT_URI) :
    readPayload E r = (do
      let uri ← E.readUri
      match uri with
      | none => return (false, r)
      | some u => return (true, { r with uri := some u })) := by
  unfold readPayload
  rw [if_neg (by rw [h]; decide), if_neg (by rw [h]; decide), if_pos h]

theorem readPayload_want {r : PasteDataRecord Uri Want}
    (h : r.mimeType = MIMETYPE_TEXT_WANT) :
    readPayload E r = (do
      let want ← E.readWant
      match want with
      | none => return (false, r)
      | some w => return (true, { r with want := some w })) := by
  unfold readPayload
  rw [if_neg (by rw [h]; decide), if_neg (by rw [h]; decide),
    if_neg (by rw [h]; decide), if_pos h]

theorem readPayload_unknown {r : PasteDataRecord Uri Want}
    (h : ¬ KnownMimeType r.mimeType) :
    readPayload E r = return (false, r) := by
  simp only [KnownMimeType, not_or] at h
  unfold readPayload
  rw [if_neg h.2.1, if_neg h.1, if_neg h.2.2.1, if_neg h.2.2.2]

end PasteDataRecord

/-! ## §6. What the decoders take off a faithful parcel. -/

namespace PasteDataRecord

variable {E : Ipc Uri Want}

/-- The payload item in front, the branch of its MIME type reads it. -/
theorem consumes_readPayload (T : E.Faithful) (pl : Payload Uri Want) :
    T.fifo.Consumes (readPayload E { mimeType := pl.mimeType }) [pl.item E]
      (true, pl.toRecord) := by
  cases pl with
  | plain s =>
      rw [readPayload_plain E rfl]
      refine T.fifo.consumes_read_bind ?_
      rw [T.str16ToStr8_str8ToStr16]
      exact T.fifo.consumes_pure _
  | html s =>
      rw [readPayload_html E rfl]
      refine T.fifo.consumes_read_bind ?_
      rw [T.str16ToStr8_str8ToStr16]
      exact T.fifo.consumes_pure _
  | uri u =>
      rw [readPayload_uri E rfl]
      refine T.fifo.consumes_read_bind ?_
      exact T.fifo.consumes_pure _
  | want w =>
      rw [readPayload_want E rfl]
      refine T.fifo.consumes_read_bind ?_
      exact T.fifo.consumes_pure _

/-- **Decoding the items of a payload's record gives that record.** -/
theorem consumes_unmarshalling (T : E.Faithful) (pl : Payload Uri Want) :
    T.fifo.Consumes (unmarshalling E) (pl.toRecord.items E)
      (some pl.toRecord) := by
  have hread : T.fifo.Consumes (readFromParcel E {}) (pl.toRecord.items E)
      (true, pl.toRecord) := by
    unfold items
    rw [Payload.payload_toRecord, Payload.toRecord_mimeType]
    refine T.fifo.consumes_read_bind ?_
    rw [T.str16ToStr8_str8ToStr16]
    exact consumes_readPayload T pl
  exact T.fifo.consumes_map (fun x => if x.1 then some x.2 else none) hread

/-- The items of a record with its payload are those of the payload's
record. -/
theorem items_of_payload {r : PasteDataRecord Uri Want}
    {pl : Payload Uri Want} (h : r.payload = some pl) :
    r.items E = pl.toRecord.items E := by
  unfold items
  rw [h, mimeType_of_payload h, Payload.payload_toRecord,
    Payload.toRecord_mimeType]

end PasteDataRecord

namespace PasteData

variable {E : Ipc Uri Want}

/-- The records a decoder rebuilds from record pointers that are null or
carry their payload: one for each pointer that is not null. -/
def rebuilt (rs : List (Option (PasteDataRecord Uri Want))) :
    List (PasteDataRecord Uri Want) :=
  rs.filterMap fun o => o.bind fun r => r.payload.map (·.toRecord)

/-- **The decoder's loop over well-framed records** adds each of them. -/
theorem consumes_readRecords (T : E.Faithful) :
    ∀ (rs : List (Option (PasteDataRecord Uri Want))) (d : PasteData Uri Want),
      (∀ r, some r ∈ rs → ∃ pl, r.payload = some pl) →
      T.fifo.Consumes (readRecords E rs.length d)
        (rs.flatMap (PasteDataRecord.parcelItems E))
        ((rebuilt rs).foldl addRecordRef d)
  | [], d, _ => T.fifo.consumes_pure d
  | none :: rs, d, h => by
      have h' := fun r hr => h r (List.mem_cons_of_mem _ hr)
      exact T.fifo.consumes_bind (T.consumes_readParcelable_null _)
        (consumes_readRecords T rs d h')
  | some r :: rs, d, h => by
      obtain ⟨pl, hpl⟩ := h r List.mem_cons_self
      have h' := fun s hs => h s (List.mem_cons_of_mem _ hs)
      have hitems : PasteDataRecord.parcelItems E (some r)
          = ⟨.presence, true⟩ :: pl.toRecord.items E := by
        rw [← PasteDataRecord.items_of_payload hpl]
        rfl
      have hrebuilt : rebuilt (some r :: rs) = pl.toRecord :: rebuilt rs := by
        simp [rebuilt, hpl]
      rw [List.flatMap_cons, hitems, hrebuilt]
      exact T.fifo.consumes_bind
        (T.consumes_readParcelable
          (PasteDataRecord.consumes_unmarshalling T pl))
        (consumes_readRecords T rs (d.addRecordRef pl.toRecord) h')

end PasteData

end Pasteboard
