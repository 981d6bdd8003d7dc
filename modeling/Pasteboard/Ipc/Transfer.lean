/-
  Pasteboard.Ipc.Transfer
  ───────────────────────
  **WHAT A TRANSFER MAKES OF NULL POINTERS.**

  `RemoveRecordAt` puts null pointers between the records, and does so above
  the cap of 128.  `Marshalling` writes a null pointer as its flag, and the
  decoder skips it.  So a hop drops the null pointers, reverses what is left,
  and keeps 128:

      payloads after = (payloads sent).reverse.take 128

  and after two hops the last 128 payloads sent are back, in order, with no
  null pointer among them (`received_received_records`).
-/
import Pasteboard.Ipc.Decoded

namespace Pasteboard

open Lib

namespace PasteData

variable {Uri Want : Type}

/-! ## §1. Payloads and null pointers. -/

/-- Every record that is not null carries the payload of its MIME type. -/
def Loaded (d : PasteData Uri Want) : Prop :=
  ∀ r, some r ∈ d.records → ∃ pl, r.payload = some pl

/-- The payloads of a list of record pointers, null ones left out. -/
def payloadsOf (rs : List (Option (PasteDataRecord Uri Want))) :
    List (Payload Uri Want) :=
  rs.filterMap fun o => o.bind (·.payload)

def payloads (d : PasteData Uri Want) : List (Payload Uri Want) :=
  payloadsOf d.records

/-- The payloads of the records that the count lets through. -/
def sent (d : PasteData Uri Want) : List (Payload Uri Want) :=
  payloadsOf (d.records.take d.sentCount)

/-- What copying and pasting leaves of the records: the last 128 payloads
sent. -/
def copied (d : PasteData Uri Want) : List (Payload Uri Want) :=
  (d.sent.reverse.take MAX_RECORD_NUM).reverse

theorem rebuilt_eq (rs : List (Option (PasteDataRecord Uri Want))) :
    rebuilt rs = (payloadsOf rs).map (·.toRecord) := by
  unfold rebuilt payloadsOf
  rw [List.map_filterMap]
  congr 1
  funext o
  cases o <;> rfl

theorem payloadsOf_map (pls : List (Payload Uri Want)) :
    payloadsOf (pls.map fun pl => some pl.toRecord) = pls := by
  unfold payloadsOf
  rw [List.filterMap_map]
  have hsome : ((fun o : Option (PasteDataRecord Uri Want) =>
      o.bind (·.payload)) ∘ fun pl => some pl.toRecord) = some := by
    funext pl
    exact pl.payload_toRecord
  rw [hsome, List.filterMap_some]

theorem payloads_of_records {d : PasteData Uri Want}
    {pls : List (Payload Uri Want)}
    (h : d.records = pls.map fun pl => some pl.toRecord) : d.payloads = pls := by
  unfold payloads
  rw [h, payloadsOf_map]

theorem Decoded.records_eq_payloads {d : PasteData Uri Want} (h : d.Decoded) :
    d.records = d.payloads.map fun pl => some pl.toRecord := by
  obtain ⟨pls, hpls⟩ := h.exists_payloads
  rw [payloads_of_records hpls]
  exact hpls

theorem Decoded.loaded {d : PasteData Uri Want} (h : d.Decoded) : d.Loaded :=
  fun _ hr => h.complete.payload hr

theorem Loaded.known {d : PasteData Uri Want} (h : d.Loaded) : d.Known := by
  intro r hr
  obtain ⟨pl, hpl⟩ := h r hr
  exact PasteDataRecord.known_of_payload hpl

/-! ## §2. One hop, and two. -/

/-- **One hop** reverses the payloads sent, and keeps 128 of them. -/
theorem received_records_eq (d : PasteData Uri Want) :
    d.received.records
      = (d.sent.reverse.take MAX_RECORD_NUM).map fun pl => some pl.toRecord := by
  rw [received_records, rebuilt_eq, List.map_map, ← List.map_reverse,
    ← List.map_take]
  rfl

/-- What is received is decoded, whatever was sent. -/
theorem decoded_received (d : PasteData Uri Want) : d.received.Decoded where
  count_le := by
    rw [received_records_eq, List.length_map]
    exact List.length_take_le _ _
  records_eq o ho := by
    rw [received_records_eq] at ho
    obtain ⟨pl, _, heq⟩ := List.mem_map.mp ho
    exact ⟨pl, heq.symm⟩

/-- Decoded records are all sent. -/
theorem Decoded.sent_eq {d : PasteData Uri Want} (h : d.Decoded) :
    d.sent = d.payloads := by
  have hcount : d.sentCount = d.records.length := sentCount_of_le h.count_le
  unfold sent
  rw [hcount, List.take_length]
  rfl

/-- So a hop reverses them. -/
theorem Decoded.received_records_eq {d : PasteData Uri Want} (h : d.Decoded) :
    d.received.records
      = d.payloads.reverse.map fun pl => some pl.toRecord := by
  have hlen : d.payloads.length ≤ MAX_RECORD_NUM :=
    (List.length_filterMap_le _ _).trans h.count_le
  rw [PasteData.received_records_eq, h.sent_eq, List.take_of_length_le]
  rw [List.length_reverse]
  exact hlen

/-- **Two hops** give the last 128 payloads sent, in order. -/
theorem received_received_records (d : PasteData Uri Want) :
    d.received.received.records
      = d.copied.map fun pl => some pl.toRecord := by
  rw [d.decoded_received.received_records_eq,
    payloads_of_records d.received_records_eq]
  rfl

/-- **Nothing is lost** of a paste data that no call has put a null pointer
into. -/
theorem Decoded.copied_eq {d : PasteData Uri Want} (h : d.Decoded) :
    d.copied = d.payloads := by
  have hlen : d.payloads.length ≤ MAX_RECORD_NUM :=
    (List.length_filterMap_le _ _).trans h.count_le
  unfold copied
  rw [h.sent_eq, List.take_of_length_le, List.reverse_reverse]
  rw [List.length_reverse]
  exact hlen

/-! ## §3. Through a parcel. -/

/-- **A parcel that a paste data was written to**, read by
`ReadParcelable`. -/
theorem readParcelable_loaded {E : Ipc Uri Want} (T : E.Faithful)
    {d : PasteData Uri Want} (h : d.Loaded) {b : E.Parcel}
    (hb : T.fifo.unread b = ⟨.presence, true⟩ :: d.items E) :
    (E.readParcelable (unmarshalling E) b).1 = some d.received := by
  have hread := T.consumes_readParcelable (consumes_unmarshalling T d h)
  rw [items_split, ← List.cons_append] at hb
  exact (hread b _ hb).1

/-- A loaded paste data can be written. -/
theorem succeeds_writeParcelable {E : Ipc Uri Want} (L : E.Lossless)
    {d : PasteData Uri Want} (h : d.Loaded) :
    Wire.Succeeds (E.writeParcelable (marshalling E) (some d)) := by
  refine L.writeParcelable fun a ha => ?_
  injection ha with ha
  subst ha
  exact succeeds_marshalling L h.known

end PasteData

end Pasteboard
