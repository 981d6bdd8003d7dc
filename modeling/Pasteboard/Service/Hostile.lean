/-
  Pasteboard.Service.Hostile
  ──────────────────────────
  **ANY REQUESTS, ANY PARCELS.**

  Nothing is assumed of the parcels: not what they hold, nor how a read that
  fails moves on.  Two results:

    • `stored_sound` — over every run of requests the service lives on, and
      every stored clip is decoded paste data, on which the consumers of the
      store (the size report, the MIME types, the encoder) need no check,
    • `onSetPasteData_lenient` — one `SET_PASTE_DATA` stores exactly the
      records that decoded and skips the others; it fails only where the
      parcel holds no paste data at all.
-/
import Pasteboard.Service.Isolation
import Pasteboard.Service.Stub
import Pasteboard.Data.Mutators
import Pasteboard.Ipc.Decoded

namespace Pasteboard

open Lib

variable {Uri Want : Type}

/-! ## §1. Decoded paste data have a size. -/

theorem PasteData.Decoded.getDataSize_isSome [ToString Uri]
    {d : PasteData Uri Want} (h : d.Decoded) :
    (PasteboardService.getDataSize d).isSome = true := by
  unfold PasteboardService.getDataSize
  split
  · next hcount =>
      -- the last record is there, and is not null
      have hlt : d.records.length - 1 < d.records.length := by
        have hne : d.records.length ≠ 0 := hcount
        omega
      have hmem : d.records[d.records.length - 1] ∈ d.records :=
        List.getElem_mem hlt
      obtain ⟨pl, hpl⟩ := h.records_eq _ hmem
      have hlast : d.getRecordAt (d.getRecordCount - 1) = some pl.toRecord := by
        unfold PasteData.getRecordAt
        show (if d.records.length > d.records.length - 1
          then (d.records[d.records.length - 1]?).join else none) = _
        rw [if_pos hlt, List.getElem?_eq_getElem hlt, hpl]
        rfl
      rw [hlast]
      rfl
  · rfl

/-! ## §2. Every stored clip is decoded. -/

namespace PasteboardService

/-- Every stored clip came out of the decoder. -/
def AllDecoded (s : PasteboardService Uri Want) : Prop :=
  ∀ (u : Int) d, s.clips[u]? = some d → d.Decoded

theorem allDecoded_empty : ({} : PasteboardService Uri Want).AllDecoded := by
  intro u d h
  exact absurd h not_clip_empty

theorem AllDecoded.measurable [ToString Uri] {s : PasteboardService Uri Want}
    (h : s.AllDecoded) : s.Measurable :=
  fun u d hd => (h u d hd).getDataSize_isSome

end PasteboardService

variable {E : Ipc Uri Want} (H : Host E)

/-- **The data of a `SetPasteData` that a request makes** are decoded. -/
theorem Request.decoded_of_op {r : Request E} {c : Caller}
    {d : PasteData Uri Want} (h : r.op H = some (.setPasteData c d)) :
    d.Decoded := by
  obtain ⟨_, hread⟩ := (Request.op_spec H h).setPasteData c d rfl
  exact Ipc.yields_readParcelable PasteData.yields_unmarshalling _ d hread

variable [ToString Uri]

/-- **No request breaks this.** -/
theorem keeps_allDecoded :
    (stubMachine H).Keeps PasteboardService.AllDecoded := by
  intro s r s' os hs hstep u d hd
  rcases r.clips_cases H hstep hd with hold | ⟨c, hop⟩
  · exact hs u d hold
  · exact Request.decoded_of_op H hop

/-- **Every request can be handled**: no null pointer is followed. -/
theorem step_isSome {s : PasteboardService Uri Want} (hs : s.AllDecoded)
    (r : Request E) : ((stubMachine H).step s r).isSome = true := by
  rw [Request.exec_request]
  cases hop : r.op H with
  | none => rfl
  | some op =>
      refine (ServiceOp.exec_isSome_iff hs.measurable op).mpr ?_
      cases op with
      | setPasteData c d => exact (Request.decoded_of_op H hop).getDataSize_isSome
      | _ => trivial

/-- Any run of requests can be handled, and leaves decoded clips only. -/
theorem run_allDecoded (rs : List (Request E))
    {s : PasteboardService Uri Want} (hs : s.AllDecoded) :
    ∃ s' os, (stubMachine H).run s rs = some (s', os) ∧ s'.AllDecoded := by
  have hok : ∀ (s : PasteboardService Uri Want) (r : Request E), s.AllDecoded →
      (((stubMachine H).step s r).isSome = true ↔ True) :=
    fun s r hs => iff_of_true (step_isSome H hs r) trivial
  have hrun := ((stubMachine H).run_isSome_iff (keeps_allDecoded H) hok rs
    hs).mpr fun _ _ => trivial
  obtain ⟨s', os, hrun⟩ := hrun
  exact ⟨s', os, hrun, (stubMachine H).run_keeps (keeps_allDecoded H) rs hs hrun⟩

/-! ## §3. Hostile parcels cannot poison the store. -/

/-- What the consumers of a stored clip rely on. -/
structure Sound (E : Ipc Uri Want) (d : PasteData Uri Want) : Prop where
  count_le : d.getRecordCount ≤ MAX_RECORD_NUM
  /-- No null pointer, no unknown MIME type, no payload missing. -/
  records : ∀ o ∈ d.allRecords, ∃ r, o = some r
    ∧ KnownMimeType r.mimeType ∧ r.payload.isSome = true
  /-- `GetDataSize` and `GetMimeTypes` follow no null pointer. -/
  dataSize : (PasteboardService.getDataSize d).isSome = true
  mimeTypes : d.getMimeTypes.isSome = true
  /-- `Marshalling` writes each record's flag, MIME type and payload. -/
  marshalling : ∃ pls : List (Payload Uri Want),
    (d.records = pls.map fun pl => some pl.toRecord)
      ∧ d.marshalling E
        = E.writeUint32 (UInt32.ofNat d.records.length) >=>
            Wire.writeList (PasteData.writeRecordOf E) pls

theorem PasteData.Decoded.sound {d : PasteData Uri Want} (h : d.Decoded) :
    Sound E d where
  count_le := h.count_le
  records o ho := by
    obtain ⟨pl, hpl⟩ := h.records_eq o ho
    refine ⟨pl.toRecord, hpl, ?_, ?_⟩
    · exact PasteDataRecord.known_of_payload pl.payload_toRecord
    · rw [pl.payload_toRecord]
      rfl
  dataSize := h.getDataSize_isSome
  mimeTypes := by
    obtain ⟨pls, hpls⟩ := h.exists_payloads
    rw [PasteData.getMimeTypes_of_some d (pls.map (·.toRecord))]
    · rfl
    · rw [hpls, List.map_map]
      rfl
  marshalling := by
    obtain ⟨pls, hpls⟩ := h.exists_payloads
    exact ⟨pls, hpls, PasteData.marshalling_of_payloads E hpls⟩

/-- **HOSTILE PARCELS CANNOT POISON THE STORE.**  Every run of requests, with
whatever parcels, can be handled to its end, and every clip stored then is
sound. -/
theorem stored_sound (E : Ipc Uri Want) (H : Host E)
    (rs : List (Request E)) :
    ∃ s os, (stubMachine H).run {} rs = some (s, os)
      ∧ ∀ (u : Int) d, s.clips[u]? = some d → Sound E d := by
  obtain ⟨s, os, hrun, hs⟩ :=
    run_allDecoded H rs PasteboardService.allDecoded_empty
  exact ⟨s, os, hrun, fun u d hd => (hs u d hd).sound⟩

/-! ## §4. One `SET_PASTE_DATA`. -/

/-- Data that was decoded can be stored. -/
theorem setPasteData_of_decoded (P : Platform) (c : Caller)
    {d : PasteData Uri Want} (hd : d.Decoded) (s : PasteboardService Uri Want) :
    ∃ o, s.setPasteData P c d = some o := by
  apply Option.isSome_iff_exists.mp
  show ((s.setPasteDataDot P c d).map _).isSome = true
  rw [Option.isSome_map, PasteboardService.setPasteDataDot_isSome]
  exact hd.getDataSize_isSome

/-- **What storing data does**, seen by user: the caller's clip is the data,
and the observers of every user are called. -/
theorem setPasteData_effect {P : Platform} {c : Caller}
    {d : PasteData Uri Want} {s : PasteboardService Uri Want}
    {o : Outcome Uri Want Unit} (ho : s.setPasteData P c d = some o) :
    (∀ v, o.service.clips[v]?
        = if P.getUserId c.uid ≠ ERROR_USERID ∧ P.getUserId c.uid = v
          then some d else s.clips[v]?)
      ∧ ∀ u, o.events.filter (·.callsUser u)
        = if P.getUserId c.uid ≠ ERROR_USERID then
            (s.registered u).map (.onPasteboardChanged u)
          else [] := by
  obtain ⟨_, _, reports, hrep, hcase⟩ := PasteboardService.setPasteData_cases ho
  rcases hcase with ⟨hu, hclips, hos⟩ | ⟨hu, hclips, hos⟩
  · refine ⟨?_, ?_⟩
    · intro v
      rw [hclips, if_neg fun h => h.1 hu]
    · intro u
      rw [hos, filter_callsUser_reports hrep, if_neg fun h => h hu]
  · refine ⟨?_, ?_⟩
    · intro v
      rw [hclips v]
      simp only [ne_eq, hu, not_false_eq_true, true_and]
    · intro u
      rw [hos, List.filter_append, filter_callsUser_reports hrep,
        List.nil_append, filter_callsUser_notifyObservers, if_pos hu]

/-- **THE DECODER IS LENIENT.**  Where the parcel holds no paste data, the
status is `ERR_INVALID_VALUE` and nothing happens to the service.  Where it
holds one, the status is `ERR_OK` whatever becomes of the records it declares:
those that decoded are the caller's clip, the last one first and cut to 128,
the others are skipped, and the observers are called. -/
theorem onSetPasteData_lenient (E : Ipc Uri Want) (H : Host E) (c : Caller)
    (data : E.Parcel) (s : PasteboardService Uri Want) :
    ∃ o, PasteboardServiceStub.onSetPasteData H c data s = some o
      ∧ ((E.wire.read .presence data).1 = false →
          o.value.1 = .ERR_INVALID_VALUE ∧ o.service = s ∧ o.events = [])
      ∧ ((E.wire.read .presence data).1 = true →
          o.value.1 = .ERR_OK
            ∧ (∃ d, d.records
                  = (((PasteData.declaredOutcomes E
                        (E.wire.read .presence data).2).filterMap id).map
                      some).reverse.take MAX_RECORD_NUM
                ∧ ∀ v, o.service.clips[v]?
                  = if H.getUserId c.uid ≠ ERROR_USERID
                        ∧ H.getUserId c.uid = v then some d
                    else s.clips[v]?)
            ∧ ∀ u, o.events.filter (·.callsUser u)
                = if H.getUserId c.uid ≠ ERROR_USERID then
                    (s.registered u).map (.onPasteboardChanged u)
                  else []) := by
  cases hflag : (E.wire.read .presence data).1 with
  | false =>
      -- no paste data: `ReadParcelable` returns null
      refine ⟨PasteboardServiceStub.fail s, ?_, ?_, ?_⟩
      · unfold PasteboardServiceStub.onSetPasteData
        rw [E.readParcelable_absent _ hflag]
      · intro _
        exact ⟨rfl, rfl, rfl⟩
      · intro h
        cases h
  | true =>
      obtain ⟨d, hd⟩ := Option.isSome_iff_exists.mp
        (PasteData.unmarshalling_isSome E (E.wire.read .presence data).2)
      have hdec : d.Decoded := PasteData.yields_unmarshalling _ d hd
      obtain ⟨o, ho⟩ := setPasteData_of_decoded H.toPlatform c hdec s
      obtain ⟨hclips, hcalls⟩ := setPasteData_effect ho
      refine ⟨PasteboardServiceStub.ok o, ?_, ?_, ?_⟩
      · unfold PasteboardServiceStub.onSetPasteData
        rw [E.readParcelable_present _ hflag, hd]
        show (s.setPasteData H.toPlatform c d).map _ = _
        rw [ho]
        rfl
      · intro h
        cases h
      · intro _
        have hrec := PasteData.unmarshalling_records E hd
        exact ⟨rfl, ⟨d, hrec, hclips⟩, hcalls⟩

/-- A parcel that declares two records, of which the second is of an unknown
MIME type. -/
def halfKnownParcel : (listIpc String String).Parcel :=
  ([⟨.presence, true⟩, ⟨.uint32, (2 : UInt32)⟩,
    ⟨.presence, true⟩, ⟨.string16, MIMETYPE_TEXT_PLAIN⟩, ⟨.string16, "a"⟩,
    ⟨.presence, true⟩, ⟨.string16, "image/png"⟩] :
    List (Ipc.ParcelItem String String))

/-- **The half-known parcel is stored**, as a clip of its first record. -/
theorem onSetPasteData_halfKnown :
    ¬ ∀ (data : (listIpc String String).Parcel)
        (s : PasteboardService String String)
        (o : Answer (listIpc String String)),
      PasteboardServiceStub.onSetPasteData sampleHost callerOf100 data s
          = some o →
        none ∈ PasteData.declaredOutcomes (listIpc String String)
            ((listIpc String String).wire.read .presence data).2 →
          o.value.1 = .ERR_INVALID_VALUE
            ∧ ∀ u : Int, o.service.clips[u]? = s.clips[u]? := by
  intro h
  have hstored := h halfKnownParcel {} _ rfl (by decide)
  have hok := hstored.1
  revert hok
  decide

end Pasteboard
