/-
  Pasteboard.Ipc.RoundTrip
  ────────────────────────
  **ONE HOP: what `Unmarshalling` makes of what `Marshalling` wrote.**

  The encoder goes through the records front to back; the decoder rebuilds
  them with `AddRecord`, which inserts at the front.  So one hop REVERSES the
  records, and above the cap it keeps the LAST 128 of them:

      contents after = ((contents before).take (count % 2^32)).reverse.take 128

  (the count crosses as 32 bits).  The order survives a hop exactly on the
  lists this formula maps to their own first 128 entries.
-/
import Pasteboard.Ipc.Marshalling

namespace Pasteboard

open Lib

namespace PasteData

variable {Uri Want : Type}

/-! ## §1. Paste data that can be transferred. -/

/-- Every record pointer is not null, and every record carries the payload of
its MIME type (which is then one of the four known ones). -/
def Complete (d : PasteData Uri Want) : Prop :=
  ∀ o ∈ d.records, ∃ r pl, o = some r ∧ r.payload = some pl

theorem Complete.payload {d : PasteData Uri Want} (h : d.Complete)
    {r : PasteDataRecord Uri Want} (hr : some r ∈ d.records) :
    ∃ pl, r.payload = some pl := by
  obtain ⟨r', pl, he, hpl⟩ := h _ hr
  injection he with he
  subst he
  exact ⟨pl, hpl⟩

/-- Rebuilding complete records keeps MIME type and payload of each. -/
theorem map_content_rebuilt :
    ∀ (rs : List (Option (PasteDataRecord Uri Want))),
      (∀ o ∈ rs, ∃ r pl, o = some r ∧ r.payload = some pl) →
      (rebuilt rs).map (fun r => some r.content)
        = rs.map fun o => o.map (·.content)
  | [], _ => rfl
  | o :: rs, h => by
      obtain ⟨r, pl, ho, hpl⟩ := h o List.mem_cons_self
      subst ho
      have hcons : rebuilt (some r :: rs) = pl.toRecord :: rebuilt rs := by
        simp [rebuilt, hpl]
      rw [hcons, List.map_cons, List.map_cons,
        map_content_rebuilt rs fun o ho => h o (List.mem_cons_of_mem _ ho),
        ← PasteDataRecord.content_of_payload hpl]
      rfl

/-! ## §2. The decoder on the items of a paste data. -/

/-- How many records the decoder asks for: the count, as 32 bits carry it. -/
def sentCount (d : PasteData Uri Want) : Nat :=
  d.records.length % UInt32.size

/-- Within the cap, the count is sent as it is. -/
theorem sentCount_of_le {d : PasteData Uri Want}
    (h : d.records.length ≤ MAX_RECORD_NUM) :
    d.sentCount = d.records.length := by
  have hmax : MAX_RECORD_NUM < UInt32.size := by decide
  exact Nat.mod_eq_of_lt (Nat.lt_of_le_of_lt h hmax)

/-- What the decoder makes of the items of `d`. -/
def received (d : PasteData Uri Want) : PasteData Uri Want :=
  (rebuilt (d.records.take d.sentCount)).foldl addRecordRef {}

/-- **Decoding the items of `d`**, whose records are null or carry their
payload: the first `sentCount` records are read, in this order, and whatever
stands behind them stays in the parcel. -/
theorem consumes_unmarshalling {E : Ipc Uri Want} (T : E.Faithful)
    (d : PasteData Uri Want)
    (h : ∀ r, some r ∈ d.records → ∃ pl, r.payload = some pl) :
    T.fifo.Consumes (unmarshalling E)
      (⟨.uint32, UInt32.ofNat d.records.length⟩ ::
        (d.records.take d.sentCount).flatMap (PasteDataRecord.parcelItems E))
      (some d.received) := by
  have hcount : (UInt32.ofNat d.records.length).toNat
      = (d.records.take d.sentCount).length := by
    rw [UInt32.toNat_ofNat', List.length_take]
    show d.sentCount = _
    have hle : d.sentCount ≤ d.records.length := Nat.mod_le _ _
    omega
  have htake := consumes_readRecords T (d.records.take d.sentCount) {}
    fun r hr => h r (List.mem_of_mem_take hr)
  rw [← hcount] at htake
  have hread : T.fifo.Consumes (readFromParcel E {})
      (⟨.uint32, UInt32.ofNat d.records.length⟩ ::
        (d.records.take d.sentCount).flatMap (PasteDataRecord.parcelItems E))
      (true, d.received) := by
    refine T.fifo.consumes_read_bind ?_
    exact T.fifo.consumes_map (fun d => (true, d)) htake
  exact T.fifo.consumes_map (fun x => if x.1 then some x.2 else none) hread

theorem received_records (d : PasteData Uri Want) :
    d.received.records
      = ((rebuilt (d.records.take d.sentCount)).map some).reverse.take
          MAX_RECORD_NUM := by
  unfold received
  rw [foldl_addRecordRef_records _ _ (Nat.zero_le _)]
  show (_ ++ []).take _ = _
  rw [List.append_nil]

/-- **The effect of one hop on the contents**: reversal, then the cap. -/
theorem received_contents {d : PasteData Uri Want} (h : d.Complete) :
    d.received.contents
      = (d.contents.take d.sentCount).reverse.take MAX_RECORD_NUM := by
  have hmap := map_content_rebuilt (d.records.take d.sentCount)
    fun o ho => h o (List.mem_of_mem_take ho)
  unfold contents
  rw [received_records, ← List.map_take, ← hmap, ← List.map_reverse,
    ← List.map_take, ← List.map_reverse, ← List.map_take, List.map_map]
  rfl

/-- The items of `d`, cut where the decoder stops. -/
theorem items_split (E : Ipc Uri Want) (d : PasteData Uri Want) :
    d.items E
      = (⟨.uint32, UInt32.ofNat d.records.length⟩ ::
          (d.records.take d.sentCount).flatMap (PasteDataRecord.parcelItems E))
        ++ (d.records.drop d.sentCount).flatMap
            (PasteDataRecord.parcelItems E) := by
  rw [List.cons_append, ← List.flatMap_append, List.take_append_drop]
  rfl

/-- **Decoding what was encoded**, with anything written behind it, gives
`received` and leaves the records beyond `sentCount` and the rest. -/
theorem unmarshalling_marshalling {E : Ipc Uri Want} (T : E.Faithful)
    {d : PasteData Uri Want}
    (h : ∀ r, some r ∈ d.records → ∃ pl, r.payload = some pl)
    {b b' : E.Parcel} {more : List (Ipc.ParcelItem Uri Want)}
    (hb : d.marshalling E E.wire.empty = some b)
    (hb' : E.wire.writeItems more b = some b') :
    (unmarshalling E b').1 = some d.received
      ∧ T.fifo.unread (unmarshalling E b').2
        = (d.records.drop d.sentCount).flatMap (PasteDataRecord.parcelItems E)
          ++ more := by
  have he := emits_marshalling T d
  rw [items_split] at he
  exact T.fifo.roundTrip he (consumes_unmarshalling T d h) hb hb'

/-! ## §3. When one hop keeps the records. -/

/-- **THE ONE-HOP THEOREM.**  For a paste data whose records are all complete,
`Unmarshalling` of what `Marshalling` wrote has the first 128 records of the
original, in order and with equal MIME types and payloads, if and only if the
records sent, read backwards and cut to 128, are these first 128 records. -/
theorem unmarshalling_marshalling_iff (E : Ipc Uri Want) (T : E.Faithful)
    (p : PasteData Uri Want) (hp : p.Complete) (b : E.Parcel)
    (hb : p.marshalling E E.wire.empty = some b) :
    (∃ q, (unmarshalling E b).1 = some q
        ∧ q.contents = p.contents.take MAX_RECORD_NUM)
      ↔ (p.contents.take (p.records.length % UInt32.size)).reverse.take
            MAX_RECORD_NUM
          = p.contents.take MAX_RECORD_NUM := by
  have hnone : E.wire.writeItems [] b = some b := rfl
  have hq := (unmarshalling_marshalling T (fun r hr => hp.payload hr) hb
    hnone).1
  have hc := received_contents hp
  constructor
  · intro hyp
    obtain ⟨q, hq', hqc⟩ := hyp
    rw [hq] at hq'
    injection hq' with hq'
    subst hq'
    rw [← hqc, hc]
    rfl
  · intro h
    refine ⟨p.received, hq, ?_⟩
    rw [hc]
    exact h

/-- A text, an HTML text, and the text again. -/
def palindrome : PasteData String String :=
  { records := [some (Payload.plain "a").toRecord,
      some (Payload.html "b").toRecord, some (Payload.plain "a").toRecord] }

theorem palindrome_complete : palindrome.Complete := by
  intro o ho
  simp only [palindrome, List.mem_cons, List.not_mem_nil, or_false] at ho
  rcases ho with h | h | h
  · exact ⟨_, .plain "a", h, rfl⟩
  · exact ⟨_, .html "b", h, rfl⟩
  · exact ⟨_, .plain "a", h, rfl⟩

/-- Records that read the same backwards survive a hop. -/
theorem unmarshalling_marshalling_palindrome :
    ∃ b, palindrome.marshalling (listIpc String String)
        (listIpc String String).wire.empty = some b
      ∧ ∃ q, (unmarshalling (listIpc String String) b).1 = some q
        ∧ q.contents = palindrome.contents.take MAX_RECORD_NUM := by
  refine ⟨_, rfl, ?_⟩
  exact (unmarshalling_marshalling_iff (listIpc String String)
    (listIpc_faithful String String) palindrome palindrome_complete _ rfl).mpr
    (by decide)

/-- A paste data of two different text records. -/
def twoTexts : PasteData String String :=
  { records := [some (Payload.plain "a").toRecord,
      some (Payload.plain "b").toRecord] }

theorem twoTexts_complete : twoTexts.Complete := by
  intro o ho
  have ho' : o = some (Payload.plain "a").toRecord
      ∨ o = some (Payload.plain "b").toRecord := by
    simpa [twoTexts] using ho
  rcases ho' with h | h
  · exact ⟨_, .plain "a", h, rfl⟩
  · exact ⟨_, .plain "b", h, rfl⟩

/-- **Two records come back exchanged.** -/
theorem unmarshalling_marshalling_twoTexts :
    twoTexts.Complete
      ∧ ∃ b, twoTexts.marshalling (listIpc String String)
          (listIpc String String).wire.empty = some b
        ∧ ¬ ∃ q, (unmarshalling (listIpc String String) b).1 = some q
          ∧ q.contents = twoTexts.contents.take MAX_RECORD_NUM := by
  refine ⟨twoTexts_complete, _, rfl, ?_⟩
  intro hyp
  obtain ⟨q, hq, hc⟩ := hyp
  have hq' : some twoTexts.received = some q := by
    rw [← hq]
    rfl
  injection hq' with hq'
  subst hq'
  revert hc
  decide

end PasteData

end Pasteboard
