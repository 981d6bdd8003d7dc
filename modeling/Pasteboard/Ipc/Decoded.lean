/-
  Pasteboard.Ipc.Decoded
  ──────────────────────
  **WHAT COMES OUT OF AN ARBITRARY PARCEL.**

  Nothing is assumed of the parcel here: no order, no room, no agreement
  between the writes and the reads.  Whatever it holds, the decoder

    • never fails as a whole (`unmarshalling_isSome`): a record that cannot
      be decoded is skipped,
    • returns exactly the records whose decoding succeeded, the last one
      first, cut to 128 (`unmarshalling_records`),
    • returns only records that carry the payload of a known MIME type and
      nothing else (`yields_unmarshalling`).
-/
import Pasteboard.Ipc.RoundTrip

namespace Pasteboard

open Lib

variable {Uri Want : Type}

/-! ## §1. Decoded records. -/

namespace PasteDataRecord

variable (E : Ipc Uri Want)

/-- The branches of the decoder either fail or fill in the one payload. -/
theorem yields_readPayload (m : String) :
    Wire.Yields (readPayload E { mimeType := m })
      fun x => x.1 = true → ∃ pl : Payload Uri Want, x.2 = pl.toRecord := by
  by_cases hk : KnownMimeType m
  · rcases hk with h | h | h | h
    · subst h
      rw [readPayload_plain E rfl]
      exact Wire.yields_read_bind fun s =>
        Wire.yields_pure fun _ => ⟨.plain (E.str16ToStr8 s), rfl⟩
    · subst h
      rw [readPayload_html E rfl]
      exact Wire.yields_read_bind fun s =>
        Wire.yields_pure fun _ => ⟨.html (E.str16ToStr8 s), rfl⟩
    · subst h
      rw [readPayload_uri E rfl]
      refine Wire.yields_read_bind fun o => ?_
      cases o with
      | none =>
          refine Wire.yields_pure fun hfail => ?_
          cases hfail
      | some u => exact Wire.yields_pure fun _ => ⟨.uri u, rfl⟩
    · subst h
      rw [readPayload_want E rfl]
      refine Wire.yields_read_bind fun o => ?_
      cases o with
      | none =>
          refine Wire.yields_pure fun hfail => ?_
          cases hfail
      | some w => exact Wire.yields_pure fun _ => ⟨.want w, rfl⟩
  · rw [readPayload_unknown E (r := { mimeType := m }) hk]
    refine Wire.yields_pure fun hfail => ?_
    cases hfail

/-- **A decoded record is the record of one payload.** -/
theorem yields_unmarshalling :
    Wire.Yields (unmarshalling E)
      fun o => ∀ r, o = some r → ∃ pl : Payload Uri Want, r = pl.toRecord := by
  have hread : Wire.Yields (readFromParcel E {})
      fun x => x.1 = true → ∃ pl : Payload Uri Want, x.2 = pl.toRecord :=
    Wire.yields_read_bind fun s => yields_readPayload E (E.str16ToStr8 s)
  refine Wire.yields_bind hread fun x hx => Wire.yields_pure ?_
  intro r hr
  by_cases hok : x.1 = true
  · rw [if_pos hok] at hr
    injection hr with hr
    subst hr
    exact hx hok
  · rw [if_neg hok] at hr
    cases hr

end PasteDataRecord

/-! ## §2. The decoder's loop, attempt by attempt. -/

namespace PasteData

variable (E : Ipc Uri Want)

/-- The outcomes of reading `n` records one after the other, and the parcel
after them.  A null outcome is a record that was absent or did not decode. -/
def attempts : Nat → E.Parcel → List (Option (PasteDataRecord Uri Want)) × E.Parcel
  | 0, b => ([], b)
  | n + 1, b =>
      let x := E.readParcelable (PasteDataRecord.unmarshalling E) b
      let rest := attempts n x.2
      (x.1 :: rest.1, rest.2)

/-- **The loop adds the outcomes that are not null, and only these.** -/
theorem readRecords_eq :
    ∀ (n : Nat) (d : PasteData Uri Want) (b : E.Parcel),
      (readRecords E n d b).1
        = ((attempts E n b).1.filterMap id).foldl addRecordRef d
  | 0, _, _ => rfl
  | n + 1, d, b => by
      have hatt : (attempts E (n + 1) b).1
          = (E.readParcelable (PasteDataRecord.unmarshalling E) b).1 ::
            (attempts E n
              (E.readParcelable (PasteDataRecord.unmarshalling E) b).2).1 := rfl
      have hstep : readRecords E (n + 1) d b = readRecords E n
          ((E.readParcelable (PasteDataRecord.unmarshalling E) b).1.elim d
            d.addRecordRef)
          (E.readParcelable (PasteDataRecord.unmarshalling E) b).2 := by
        rw [readRecords]
        show (StateT.bind _ _ b : Id _) = _
        unfold StateT.bind
        generalize E.readParcelable (PasteDataRecord.unmarshalling E) b = x
        obtain ⟨_ | r, b'⟩ := x <;> rfl
      rw [hstep, hatt]
      cases (E.readParcelable (PasteDataRecord.unmarshalling E) b).1 with
      | none => exact readRecords_eq n d _
      | some r => exact readRecords_eq n (d.addRecordRef r) _

/-- The outcomes of all records a parcel declares. -/
def declaredOutcomes (b : E.Parcel) :
    List (Option (PasteDataRecord Uri Want)) :=
  (attempts E (E.readUint32 b).1.toNat (E.readUint32 b).2).1

theorem unmarshalling_eq (b : E.Parcel) :
    (unmarshalling E b).1
      = some (((declaredOutcomes E b).filterMap id).foldl addRecordRef {}) := by
  have h := readRecords_eq E (E.readUint32 b).1.toNat {} (E.readUint32 b).2
  show some (readRecords E (E.readUint32 b).1.toNat {} (E.readUint32 b).2).1 = _
  rw [h]
  rfl

/-- **`Unmarshalling` never returns null**, whatever the parcel holds. -/
theorem unmarshalling_isSome (b : E.Parcel) :
    (unmarshalling E b).1.isSome = true := by
  rw [unmarshalling_eq]
  rfl

/-- **The decoded records**: the outcomes that are not null, the last one
first, cut to 128. -/
theorem unmarshalling_records {b : E.Parcel} {d : PasteData Uri Want}
    (h : (unmarshalling E b).1 = some d) :
    d.records = (((declaredOutcomes E b).filterMap id).map some).reverse.take
      MAX_RECORD_NUM := by
  rw [unmarshalling_eq] at h
  injection h with h
  subst h
  rw [foldl_addRecordRef_records _ _ (Nat.zero_le _)]
  show (_ ++ []).take _ = _
  rw [List.append_nil]

/-! ## §3. Decoded paste data. -/

/-- At most 128 records, each the record of one payload. -/
structure Decoded (d : PasteData Uri Want) : Prop where
  count_le : d.records.length ≤ MAX_RECORD_NUM
  records_eq : ∀ o ∈ d.records, ∃ pl : Payload Uri Want, o = some pl.toRecord

variable {E}

theorem decoded_empty : ({} : PasteData Uri Want).Decoded where
  count_le := Nat.zero_le _
  records_eq o ho := by cases ho

theorem Decoded.addRecordRef {d : PasteData Uri Want} (h : d.Decoded)
    (pl : Payload Uri Want) : (d.addRecordRef pl.toRecord).Decoded where
  count_le := length_pushFront_le h.count_le _
  records_eq o ho := by
    rcases mem_pushFront ho with ho | ho
    · exact ⟨pl, ho⟩
    · exact h.records_eq o ho

theorem Decoded.complete {d : PasteData Uri Want} (h : d.Decoded) :
    d.Complete := by
  intro o ho
  obtain ⟨pl, hpl⟩ := h.records_eq o ho
  exact ⟨pl.toRecord, pl, hpl, pl.payload_toRecord⟩

/-- **The loop keeps the paste data decoded**, over any parcel. -/
theorem yields_readRecords :
    ∀ (n : Nat) (d : PasteData Uri Want), d.Decoded →
      Wire.Yields (readRecords E n d) Decoded
  | 0, d, h => Wire.yields_pure h
  | n + 1, d, h => by
      refine Wire.yields_bind
        (Ipc.yields_readParcelable (PasteDataRecord.yields_unmarshalling E))
        fun o ho => ?_
      cases o with
      | none => exact yields_readRecords n d h
      | some r =>
          obtain ⟨pl, hpl⟩ := ho r rfl
          subst hpl
          exact yields_readRecords n _ (h.addRecordRef pl)

/-- **Whatever the parcel, what is decoded is decoded paste data.** -/
theorem yields_unmarshalling :
    Wire.Yields (unmarshalling E) fun o => ∀ d, o = some d → d.Decoded := by
  have hread : Wire.Yields (readFromParcel E {})
      fun x => x.1 = true ∧ x.2.Decoded := by
    refine Wire.yields_read_bind fun (length : UInt32) => ?_
    refine Wire.yields_bind (yields_readRecords length.toNat _ decoded_empty)
      fun d hd => ?_
    exact Wire.yields_pure ⟨rfl, hd⟩
  refine Wire.yields_bind hread fun x hx => Wire.yields_pure ?_
  intro d hd
  rw [if_pos hx.1] at hd
  injection hd with hd
  subst hd
  exact hx.2

/-! ## §4. Decoded paste data are written without a branch. -/

variable (E)

/-- The write of a payload's record through its pointer: the presence flag,
the MIME type, the payload. -/
def writeRecordOf (pl : Payload Uri Want) : E.Writer :=
  E.wire.write .presence true >=>
    (E.writeString16 (E.str8ToStr16 pl.mimeType) >=>
      E.wire.write (pl.item E).1 (pl.item E).2)

theorem writeParcelable_toRecord (pl : Payload Uri Want) :
    E.writeParcelable (PasteDataRecord.marshalling E) (some pl.toRecord)
      = writeRecordOf E pl := by
  cases pl <;> rfl

theorem exists_payloads :
    ∀ os : List (Option (PasteDataRecord Uri Want)),
      (∀ o ∈ os, ∃ pl : Payload Uri Want, o = some pl.toRecord) →
      ∃ pls : List (Payload Uri Want), os = pls.map fun pl => some pl.toRecord
  | [], _ => ⟨[], rfl⟩
  | o :: os, h => by
      obtain ⟨pl, hpl⟩ := h o List.mem_cons_self
      obtain ⟨pls, hpls⟩ :=
        exists_payloads os fun o' ho' => h o' (List.mem_cons_of_mem _ ho')
      refine ⟨pl :: pls, ?_⟩
      rw [hpl, hpls, List.map_cons]

/-- Decoded records are those of a list of payloads. -/
theorem Decoded.exists_payloads {d : PasteData Uri Want} (h : d.Decoded) :
    ∃ pls : List (Payload Uri Want),
      d.records = pls.map fun pl => some pl.toRecord :=
  PasteData.exists_payloads d.records h.records_eq

/-- **`Marshalling` of decoded records** writes the count and, for each, the
flag, the MIME type and the payload: no MIME type is unknown to it, and no
payload missing. -/
theorem marshalling_of_payloads {d : PasteData Uri Want}
    {pls : List (Payload Uri Want)}
    (h : d.records = pls.map fun pl => some pl.toRecord) :
    d.marshalling E
      = E.writeUint32 (UInt32.ofNat d.records.length) >=>
          Wire.writeList (writeRecordOf E) pls := by
  have hlist : ∀ pls : List (Payload Uri Want),
      Wire.writeList (E.writeParcelable (PasteDataRecord.marshalling E))
          (pls.map fun pl => some pl.toRecord)
        = Wire.writeList (writeRecordOf E) pls := by
    intro pls
    induction pls with
    | nil => rfl
    | cons pl pls ih =>
        show E.writeParcelable (PasteDataRecord.marshalling E)
            (some pl.toRecord) >=> Wire.writeList _ _
          = writeRecordOf E pl >=> Wire.writeList _ _
        rw [writeParcelable_toRecord, ih]
  unfold marshalling
  rw [h, hlist]

end PasteData

end Pasteboard
