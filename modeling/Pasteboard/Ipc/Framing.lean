/-
  Pasteboard.Ipc.Framing
  ──────────────────────
  **IS THE FORMAT SELF-DELIMITING?**

  A decoder that takes exactly what the encoder wrote, whatever stands behind
  it, is exact.  The encoder leaves the payload of a null pointer out, and
  the decoder reads a payload for every record: one missing payload shifts
  the framing of all that follows.  So the format is exact for a paste data
  on every faithful parcel if and only if no record lacks its payload
  (`selfDelimiting_iff`).
-/
import Pasteboard.Ipc.RoundTrip

namespace Pasteboard

open Lib

namespace PasteData

variable {Uri Want : Type}

/-! ## §1. Exactness, and why complete records give it. -/

/-- The MIME types of the records that are not null. -/
def recordMimeTypes (d : PasteData Uri Want) : List String :=
  d.records.filterMap fun o => o.map (·.mimeType)

/-- `Unmarshalling` on the parcel `b'` takes everything up to the items
`more`, and returns one record per record of `p`, of the same MIME types. -/
def DecodesExactly {E : Ipc Uri Want} (T : E.Faithful) (p : PasteData Uri Want)
    (b' : E.Parcel) (more : List (Ipc.ParcelItem Uri Want)) : Prop :=
  T.fifo.unread (unmarshalling E b').2 = more
    ∧ ∃ q ms, (unmarshalling E b').1 = some q ∧ q.getMimeTypes = some ms
      ∧ ms.Perm p.recordMimeTypes

theorem map_mimeType_rebuilt :
    ∀ (rs : List (Option (PasteDataRecord Uri Want))),
      (∀ r, some r ∈ rs → ∃ pl, r.payload = some pl) →
      (rebuilt rs).map (·.mimeType) = rs.filterMap fun o => o.map (·.mimeType)
  | [], _ => rfl
  | none :: rs, h => by
      have ih := map_mimeType_rebuilt rs
        fun r hr => h r (List.mem_cons_of_mem _ hr)
      exact ih
  | some r :: rs, h => by
      obtain ⟨pl, hpl⟩ := h r List.mem_cons_self
      have ih := map_mimeType_rebuilt rs
        fun r hr => h r (List.mem_cons_of_mem _ hr)
      have hcons : rebuilt (some r :: rs) = pl.toRecord :: rebuilt rs := by
        simp [rebuilt, hpl]
      rw [hcons, List.map_cons, ih, Payload.toRecord_mimeType,
        ← PasteDataRecord.mimeType_of_payload hpl]
      rfl

theorem length_rebuilt_le (rs : List (Option (PasteDataRecord Uri Want))) :
    (rebuilt rs).length ≤ rs.length :=
  List.length_filterMap_le _ _

/-- **Records with their payloads are decoded exactly.** -/
theorem decodesExactly_of_payloads {E : Ipc Uri Want} (T : E.Faithful)
    {p : PasteData Uri Want} (hlen : p.records.length ≤ MAX_RECORD_NUM)
    (h : ∀ r, some r ∈ p.records → ∃ pl, r.payload = some pl)
    {b b' : E.Parcel} {more : List (Ipc.ParcelItem Uri Want)}
    (hb : p.marshalling E E.wire.empty = some b)
    (hb' : E.wire.writeItems more b = some b') :
    DecodesExactly T p b' more := by
  obtain ⟨hq, hrest⟩ := unmarshalling_marshalling T h hb hb'
  have hcount : p.sentCount = p.records.length := sentCount_of_le hlen
  rw [hcount, List.drop_length, List.flatMap_nil, List.nil_append] at hrest
  -- at most 128 records: the cap drops nothing
  have hrec : p.received.records = (rebuilt p.records).reverse.map some := by
    have hle := length_rebuilt_le p.records
    rw [received_records, hcount, List.take_length, List.map_reverse,
      List.take_of_length_le]
    rw [List.length_reverse, List.length_map]
    omega
  refine ⟨hrest, p.received, _, hq, getMimeTypes_of_some _ _ hrec, ?_⟩
  rw [List.map_reverse, map_mimeType_rebuilt p.records h]
  exact List.reverse_perm _

/-! ## §2. A missing payload on strict parcels. -/

section Missing

variable {E : Ipc Uri Want} {T : E.Faithful} (S : T.fifo.Strict)

/-- The items of records behind which a string stands. -/
def framed (E : Ipc Uri Want) (rs : List (Option (PasteDataRecord Uri Want))) :
    List (Ipc.ParcelItem Uri Want) :=
  rs.flatMap (PasteDataRecord.parcelItems E) ++ [⟨.string16, ""⟩]

theorem framed_none (rs : List (Option (PasteDataRecord Uri Want))) :
    framed E (none :: rs) = [⟨.presence, false⟩] ++ framed E rs := rfl

theorem framed_some (r : PasteDataRecord Uri Want)
    (rs : List (Option (PasteDataRecord Uri Want))) :
    framed E (some r :: rs)
      = ⟨.presence, true⟩ :: (r.items E ++ framed E rs) := by
  unfold framed
  rw [List.flatMap_cons, List.append_assoc]
  rfl

include S

/-- Reading a payload where the next record starts, or where the string
behind the last record stands, leaves nothing. -/
theorem drains_read_framed (rs : List (Option (PasteDataRecord Uri Want)))
    {k : ParcelKind} (hk : k ≠ .presence) :
    T.fifo.Drains (E.wire.read k) (framed E rs) := by
  cases rs with
  | nil =>
      by_cases hs : k = .string16
      · subst hs
        exact T.fifo.drains_read_last .string16 _
      · exact S.drains_read_wrong fun h => hs h.symm
  | cons o rs =>
      cases o with
      | none => exact S.drains_read_wrong fun h => hk h.symm
      | some r => exact S.drains_read_wrong fun h => hk h.symm

omit S in
/-- Where every payload read leaves nothing, so does the decoder's branch. -/
theorem drains_readPayload {xs : List (Ipc.ParcelItem Uri Want)}
    (hread : ∀ k, k ≠ .presence → T.fifo.Drains (E.wire.read k) xs)
    {r : PasteDataRecord Uri Want} (hr : KnownMimeType r.mimeType ∨ xs = []) :
    T.fifo.Drains (PasteDataRecord.readPayload E r) xs := by
  by_cases hk : KnownMimeType r.mimeType
  · rcases hk with h | h | h | h
    · rw [PasteDataRecord.readPayload_plain E h]
      exact T.fifo.drains_bind (hread .string16 (by decide))
        fun s => T.fifo.drains_pure _
    · rw [PasteDataRecord.readPayload_html E h]
      exact T.fifo.drains_bind (hread .string16 (by decide))
        fun s => T.fifo.drains_pure _
    · rw [PasteDataRecord.readPayload_uri E h]
      refine T.fifo.drains_bind (hread .uri (by decide)) fun o => ?_
      cases o with
      | none => exact T.fifo.drains_pure _
      | some u => exact T.fifo.drains_pure _
    · rw [PasteDataRecord.readPayload_want E h]
      refine T.fifo.drains_bind (hread .want (by decide)) fun o => ?_
      cases o with
      | none => exact T.fifo.drains_pure _
      | some w => exact T.fifo.drains_pure _
  · rw [PasteDataRecord.readPayload_unknown E hk, hr.resolve_left hk]
    exact T.fifo.drains_pure _

/-- Decoding a record without its payload leaves nothing. -/
theorem drains_unmarshalling {r : PasteDataRecord Uri Want}
    (hr : KnownMimeType r.mimeType) (hp : r.payload = none)
    (rs : List (Option (PasteDataRecord Uri Want))) :
    T.fifo.Drains (PasteDataRecord.unmarshalling E)
      (r.items E ++ framed E rs) := by
  have hitems : r.items E = [⟨.string16, E.str8ToStr16 r.mimeType⟩] := by
    unfold PasteDataRecord.items
    rw [hp]
    rfl
  rw [hitems]
  have hread : T.fifo.Drains (PasteDataRecord.readFromParcel E {})
      ([⟨.string16, E.str8ToStr16 r.mimeType⟩] ++ framed E rs) := by
    refine T.fifo.drains_of_consumes (T.fifo.consumes_read .string16 _) ?_
    rw [T.str16ToStr8_str8ToStr16]
    exact drains_readPayload (fun k hk => drains_read_framed S rs hk)
      (Or.inl hr)
  have hret : ∀ x : Bool × PasteDataRecord Uri Want,
      T.fifo.Drains (W := E.wire) (pure (if x.1 then some x.2 else none)) [] :=
    fun x => T.fifo.drains_pure _
  exact T.fifo.drains_bind hread hret

/-- Nothing is read out of an empty parcel. -/
theorem drains_unmarshalling_nil :
    T.fifo.Drains (E.readParcelable (PasteDataRecord.unmarshalling E)) [] := by
  have hread : T.fifo.Drains (PasteDataRecord.readFromParcel E {}) [] := by
    refine T.fifo.drains_bind (S.drains_read_nil .string16) fun s => ?_
    exact drains_readPayload (fun k _ => S.drains_read_nil k) (Or.inr rfl)
  refine T.fifo.drains_bind (S.drains_read_nil .presence)
    fun (present : Bool) => ?_
  cases present with
  | false => exact T.fifo.drains_pure _
  | true => exact T.fifo.drains_bind hread fun filled => T.fifo.drains_pure _

theorem drains_readRecords_nil :
    ∀ (n : Nat) (d : PasteData Uri Want), T.fifo.Drains (readRecords E n d) []
  | 0, d => T.fifo.drains_pure d
  | n + 1, d => by
      refine T.fifo.drains_bind (drains_unmarshalling_nil S) fun o => ?_
      cases o with
      | none => exact drains_readRecords_nil n d
      | some r => exact drains_readRecords_nil n (d.addRecordRef r)

/-- **One missing payload, and nothing behind the records survives**: the
decoder's loop over known records of which one lacks its payload also takes
the string that stands behind them. -/
theorem drains_readRecords :
    ∀ (rs : List (Option (PasteDataRecord Uri Want))) (d : PasteData Uri Want),
      (∀ r, some r ∈ rs → KnownMimeType r.mimeType) →
      (∃ r, some r ∈ rs ∧ r.payload = none) →
      T.fifo.Drains (readRecords E rs.length d) (framed E rs)
  | [], _, _, hmiss => by
      obtain ⟨r, hr, _⟩ := hmiss
      cases hr
  | none :: rs, d, hk, hmiss => by
      have hk' := fun r hr => hk r (List.mem_cons_of_mem _ hr)
      have hmiss' : ∃ r, some r ∈ rs ∧ r.payload = none := by
        obtain ⟨r, hr, hp⟩ := hmiss
        rcases List.mem_cons.mp hr with he | hr
        · cases he
        · exact ⟨r, hr, hp⟩
      rw [framed_none]
      have hread := T.consumes_readParcelable_null
        (PasteDataRecord.unmarshalling E)
      exact T.fifo.drains_of_consumes hread (drains_readRecords rs d hk' hmiss')
  | some r :: rs, d, hk, hmiss => by
      have hk' := fun s hs => hk s (List.mem_cons_of_mem _ hs)
      rw [framed_some]
      cases hp : r.payload with
      | some pl =>
          -- a record with its payload is read exactly; the gap comes later
          have hmiss' : ∃ s, some s ∈ rs ∧ s.payload = none := by
            obtain ⟨s, hs, hps⟩ := hmiss
            rcases List.mem_cons.mp hs with he | hs
            · injection he with he
              subst he
              rw [hp] at hps
              cases hps
            · exact ⟨s, hs, hps⟩
          have hread := T.consumes_readParcelable
            (PasteDataRecord.consumes_unmarshalling T pl)
          rw [PasteDataRecord.items_of_payload hp]
          exact T.fifo.drains_of_consumes hread
            (drains_readRecords rs (d.addRecordRef pl.toRecord) hk' hmiss')
      | none =>
          have hread : T.fifo.Drains
              (E.readParcelable (PasteDataRecord.unmarshalling E))
              (⟨.presence, true⟩ :: (r.items E ++ framed E rs)) :=
            T.fifo.drains_of_consumes (T.fifo.consumes_read .presence true)
              (drains_unmarshalling S (hk r List.mem_cons_self) hp rs)
          refine T.fifo.drains_bind hread fun o => ?_
          cases o with
          | none => exact drains_readRecords_nil S rs.length d
          | some s => exact drains_readRecords_nil S rs.length (d.addRecordRef s)

/-- The same for the whole decoder. -/
theorem drains_unmarshalling_missing {p : PasteData Uri Want}
    (hlen : p.records.length ≤ MAX_RECORD_NUM) (hk : p.Known)
    (hmiss : ∃ r, some r ∈ p.records ∧ r.payload = none) :
    T.fifo.Drains (unmarshalling E) (p.items E ++ [⟨.string16, ""⟩]) := by
  have hcount : (UInt32.ofNat p.records.length).toNat = p.records.length := by
    have hmax : MAX_RECORD_NUM = 128 := rfl
    rw [UInt32.toNat_ofNat']
    omega
  have hloop := drains_readRecords S p.records {} hk hmiss
  rw [← hcount] at hloop
  have hread : T.fifo.Drains (readFromParcel E {})
      ([⟨.uint32, UInt32.ofNat p.records.length⟩] ++ framed E p.records) :=
    T.fifo.drains_of_consumes (T.fifo.consumes_read .uint32 _)
      (T.fifo.drains_bind hloop fun d => T.fifo.drains_pure _)
  exact T.fifo.drains_bind hread fun filled => T.fifo.drains_pure _

end Missing

/-! ## §3. Exactly the complete records are framed. -/

/-- **THE FRAMING THEOREM.**  Take a paste data of at most 128 records whose
MIME types are known (the ones `Marshalling` accepts).  On every faithful
parcel, and whatever is written behind it, decoding takes exactly the items
`Marshalling` wrote and returns one record per record, of the same MIME type
— if and only if every record that is not null carries its payload. -/
theorem selfDelimiting_iff (p : PasteData Uri Want)
    (hlen : p.records.length ≤ MAX_RECORD_NUM) (hk : p.Known) :
    (∀ (E : Ipc Uri Want) (T : E.Faithful) (b b' : E.Parcel)
        (more : List (Ipc.ParcelItem Uri Want)),
        p.marshalling E E.wire.empty = some b →
        E.wire.writeItems more b = some b' → DecodesExactly T p b' more)
      ↔ ∀ r, some r ∈ p.records → ∃ pl, r.payload = some pl := by
  constructor
  · intro hexact r hr
    cases hp : r.payload with
    | some pl => exact ⟨pl, rfl⟩
    | none =>
        -- on strict parcels the string behind the records is taken with them
        exfalso
        let E := listIpc Uri Want
        let T := listIpc_faithful Uri Want
        have S : T.fifo.Strict := listFifo_strict _
        have L : E.Lossless := listIpc_lossless Uri Want
        obtain ⟨b, hb⟩ := succeeds_marshalling L hk E.wire.empty
        obtain ⟨b', hb'⟩ := L.writeItems [⟨.string16, ""⟩] b
        obtain ⟨hleft, _⟩ := hexact E T b b' [⟨.string16, ""⟩] hb hb'
        have hunread : T.fifo.unread b' = p.items E ++ [⟨.string16, ""⟩] := by
          rw [T.fifo.emits_writeItems _ b b' hb', emits_marshalling T p _ b hb,
            T.fifo.unread_empty, List.nil_append]
        rw [drains_unmarshalling_missing S hlen hk ⟨r, hr, hp⟩ b' hunread]
          at hleft
        cases hleft
  · intro h E T b b' more hb hb'
    exact decodesExactly_of_payloads T hlen h hb hb'

/-- A record of each MIME type, and a null pointer. -/
def allKinds : PasteData String String :=
  { records := [some (Payload.plain "a").toRecord,
      some (Payload.want "w").toRecord, none,
      some (Payload.html "b").toRecord, some (Payload.uri "u").toRecord] }

theorem allKinds_payload {r : PasteDataRecord String String}
    (hr : some r ∈ allKinds.records) : ∃ pl, r.payload = some pl := by
  simp only [allKinds, List.mem_cons, List.not_mem_nil, or_false] at hr
  rcases hr with h | h | h | h | h
  · injection h with h
    exact ⟨.plain "a", by rw [h]; rfl⟩
  · injection h with h
    exact ⟨.want "w", by rw [h]; rfl⟩
  · cases h
  · injection h with h
    exact ⟨.html "b", by rw [h]; rfl⟩
  · injection h with h
    exact ⟨.uri "u", by rw [h]; rfl⟩

/-- They are framed: the string behind them stays. -/
theorem selfDelimiting_allKinds :
    ∃ b b', allKinds.marshalling (listIpc String String)
        (listIpc String String).wire.empty = some b
      ∧ (listIpc String String).wire.writeItems [⟨.string16, "next"⟩] b
        = some b'
      ∧ DecodesExactly (listIpc_faithful String String) allKinds b'
          [⟨.string16, "next"⟩] := by
  have hpayload : ∀ r, some r ∈ allKinds.records → ∃ pl, r.payload = some pl :=
    fun r hr => allKinds_payload hr
  have hknown : allKinds.Known := by
    intro r hr
    obtain ⟨pl, hpl⟩ := hpayload r hr
    exact PasteDataRecord.known_of_payload hpl
  exact ⟨_, _, rfl, rfl, (selfDelimiting_iff allKinds (by decide) hknown).mpr
    hpayload _ (listIpc_faithful String String) _ _ _ rfl rfl⟩

/-- A text record whose text pointer is null. -/
def textlessRecord : PasteData String String :=
  { records := [some { mimeType := MIMETYPE_TEXT_PLAIN }] }

/-- **The string behind a textless record is read as its text.**  The record
is one the public constructor builds; what follows it in the parcel here is
one string. -/
theorem selfDelimiting_textlessRecord :
    textlessRecord.records.length ≤ MAX_RECORD_NUM
      ∧ ∃ b b', textlessRecord.marshalling (listIpc String String)
          (listIpc String String).wire.empty = some b
        ∧ (listIpc String String).wire.writeItems [⟨.string16, "next"⟩] b = some b'
        ∧ ¬ DecodesExactly (listIpc_faithful String String) textlessRecord b'
            [⟨.string16, "next"⟩] := by
  refine ⟨by decide, _, _, rfl, rfl, ?_⟩
  intro hyp
  obtain ⟨hleft, _⟩ := hyp
  cases hleft

end PasteData

end Pasteboard
