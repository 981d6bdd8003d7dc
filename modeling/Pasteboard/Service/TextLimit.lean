/-
  Pasteboard.Service.TextLimit
  ────────────────────────────
  **THE TEXT LIMIT AT THE TRUST BOUNDARY.**

  The factories of text and HTML records refuse 500 KiB and more.  The decoder
  does not ask: a text record in a parcel becomes a record of that text,
  whatever its length (`text_of_readParcelable`).  So the limit holds of what
  the service stores, and what breaks it is refused, if and only if no request
  declares a text that breaks it (`text_limit_iff`).
-/
import Pasteboard.Service.Hostile
import Pasteboard.Data.History

namespace Pasteboard

open Lib

variable {Uri Want : Type}

/-! ## §1. The text of a record, and of a place in a parcel. -/

/-- The text of a plain or HTML record. -/
def PasteDataRecord.text (r : PasteDataRecord Uri Want) : Option String :=
  if r.mimeType = MIMETYPE_TEXT_PLAIN then r.plainText
  else if r.mimeType = MIMETYPE_TEXT_HTML then r.htmlText
  else none

namespace PasteData

variable (E : Ipc Uri Want)

/-- The text that a parcel offers in its next place for a record: a presence
flag, the MIME type of a plain or HTML record, a string. -/
def declaredText (b : E.Parcel) : Option String :=
  let present := E.wire.read .presence b
  let mime16 := E.readString16 present.2
  let mimeType := E.str16ToStr8 mime16.1
  if present.1 = true
      ∧ (mimeType = MIMETYPE_TEXT_PLAIN ∨ mimeType = MIMETYPE_TEXT_HTML) then
    some (E.str16ToStr8 (E.readString16 mime16.2).1)
  else none

/-- The parcels in front of which `n` records are read one after the other. -/
def places : Nat → E.Parcel → List E.Parcel
  | 0, _ => []
  | n + 1, b =>
      b :: places n (E.readParcelable (PasteDataRecord.unmarshalling E) b).2

/-- The outcomes of the decoder's loop, place by place. -/
theorem attempts_eq_places : ∀ (n : Nat) (b : E.Parcel),
    (attempts E n b).1 = (places E n b).map fun b =>
      (E.readParcelable (PasteDataRecord.unmarshalling E) b).1 := by
  intro n
  induction n with
  | zero =>
      intro b
      rfl
  | succ n ih =>
      intro b
      show _ :: (attempts E n _).1 = _ :: _
      rw [ih]

/-- The record that is made of a MIME type and what stands behind it. -/
theorem unmarshalling_record_eq (b : E.Parcel) :
    (PasteDataRecord.unmarshalling E b).1
      = (if (PasteDataRecord.readPayload E
            { mimeType := E.str16ToStr8 (E.readString16 b).1 }
            (E.readString16 b).2).1.1 then
          some (PasteDataRecord.readPayload E
            { mimeType := E.str16ToStr8 (E.readString16 b).1 }
            (E.readString16 b).2).1.2
        else none) := by
  show (StateT.bind _ _ b : Id _).1 = _
  unfold StateT.bind
  rfl

/-- Reading the payload leaves the MIME type alone. -/
theorem yields_readPayload_mimeType (r : PasteDataRecord Uri Want) :
    Wire.Yields (PasteDataRecord.readPayload E r)
      fun x => x.2.mimeType = r.mimeType := by
  unfold PasteDataRecord.readPayload
  split
  · exact Wire.yields_read_bind fun _ => Wire.yields_pure rfl
  split
  · exact Wire.yields_read_bind fun _ => Wire.yields_pure rfl
  split
  · refine Wire.yields_read_bind fun o => ?_
    cases o <;> exact Wire.yields_pure rfl
  split
  · refine Wire.yields_read_bind fun o => ?_
    cases o <;> exact Wire.yields_pure rfl
  · exact Wire.yields_pure rfl

/-- **The text of what is decoded is the text that is declared**, of whatever
length. -/
theorem text_of_readParcelable (b : E.Parcel) :
    (E.readParcelable (PasteDataRecord.unmarshalling E) b).1.bind
        PasteDataRecord.text = declaredText E b := by
  unfold declaredText
  dsimp only
  cases hflag : (E.wire.read .presence b).1 with
  | false =>
      rw [E.readParcelable_absent _ hflag]
      simp
  | true =>
      rw [E.readParcelable_present _ hflag, unmarshalling_record_eq]
      generalize E.readString16 (E.wire.read .presence b).2 = mime16
      generalize E.str16ToStr8 mime16.1 = m
      by_cases hplain : m = MIMETYPE_TEXT_PLAIN
      · subst hplain
        rw [PasteDataRecord.readPayload_plain E rfl]
        simp only [true_or, and_self, if_true]
        rfl
      by_cases hhtml : m = MIMETYPE_TEXT_HTML
      · subst hhtml
        rw [PasteDataRecord.readPayload_html E rfl]
        simp only [or_true, and_self, if_true]
        rfl
      -- a record of another MIME type has no text
      have hm := yields_readPayload_mimeType E { mimeType := m } mime16.2
      simp only [hplain, hhtml, or_self, and_false, if_false]
      split
      · show PasteDataRecord.text _ = none
        unfold PasteDataRecord.text
        rw [hm, if_neg hplain, if_neg hhtml]
      · rfl

end PasteData

/-! ## §2. The texts of a request. -/

variable {E : Ipc Uri Want}

namespace Request

/-- The places for records in the parcel of a `SET_PASTE_DATA` with the
service's token and with paste data in it. -/
def recordPlaces (r : Request E) : List E.Parcel :=
  let remote := E.readInterfaceToken r.data
  let present := E.wire.read .presence remote.2
  let length := E.readUint32 present.2
  if remote.1 = DESCRIPTOR ∧ r.code = SET_PASTE_DATA ∧ present.1 = true then
    PasteData.places E length.1.toNat length.2
  else []

/-- No place for a record offers a text of 500 KiB or more. -/
def TextsLimited (r : Request E) : Prop :=
  ∀ b ∈ r.recordPlaces, ∀ text, PasteData.declaredText E b = some text →
    text.length < MAX_TEXT_LEN

/-- Where one does, the record is refused. -/
def RefusesLongTexts (r : Request E) : Prop :=
  ∀ b ∈ r.recordPlaces, ∀ text, PasteData.declaredText E b = some text →
    MAX_TEXT_LEN ≤ text.length →
      (E.readParcelable (PasteDataRecord.unmarshalling E) b).1 = none

/-- Nothing that offers a text is refused. -/
theorem refusesLongTexts_iff (r : Request E) :
    r.RefusesLongTexts ↔ r.TextsLimited := by
  constructor
  · intro h b hb text htext
    by_contra hlong
    have hnone := h b hb text htext (by omega)
    have hdecoded := PasteData.text_of_readParcelable E b
    rw [hnone, htext] at hdecoded
    cases hdecoded
  · intro h b hb text htext hlong
    have hlt := h b hb text htext
    omega

end Request

variable (H : Host E)

/-- **The records of a `SetPasteData` that a request makes** come from its
places. -/
theorem text_of_op {r : Request E} {c : Caller} {d : PasteData Uri Want}
    (hop : r.op H = some (.setPasteData c d)) {o : PasteDataRecord Uri Want}
    (ho : some o ∈ d.allRecords) :
    ∃ b ∈ r.recordPlaces, PasteData.declaredText E b = o.text := by
  obtain ⟨hcode, hread⟩ := (Request.op_spec H hop).setPasteData c d rfl
  have htoken : (E.readInterfaceToken r.data).1 = DESCRIPTOR := by
    by_contra hne
    have hnone : r.op H = none := if_pos fun he => hne he.symm
    rw [hnone] at hop
    cases hop
  have hflag : (E.wire.read .presence (E.readInterfaceToken r.data).2).1
      = true := by
    by_contra hne
    rw [E.readParcelable_absent _ (Bool.eq_false_iff.mpr hne)] at hread
    cases hread
  have hplaces : r.recordPlaces = PasteData.places E _ _ :=
    if_pos ⟨htoken, hcode, hflag⟩
  rw [E.readParcelable_present _ hflag] at hread
  -- a stored record is the outcome of one of the attempts
  have hmem : some o ∈ d.records := ho
  rw [PasteData.unmarshalling_records E hread] at hmem
  have hmem' := List.mem_reverse.mp (List.mem_of_mem_take hmem)
  simp only [List.mem_map, List.mem_filterMap, id_eq, Option.some.injEq,
    exists_eq_right] at hmem'
  unfold PasteData.declaredOutcomes at hmem'
  rw [PasteData.attempts_eq_places] at hmem'
  obtain ⟨b, hb, hout⟩ := List.mem_map.mp hmem'
  refine ⟨b, ?_, ?_⟩
  · rw [hplaces]
    exact hb
  · rw [← PasteData.text_of_readParcelable E b, hout]
    rfl

/-! ## §3. Runs. -/

/-- No stored text or HTML record has a text of 500 KiB or more. -/
def PasteboardService.TextLimited (s : PasteboardService Uri Want) : Prop :=
  ∀ (u : Int) d, s.clips[u]? = some d → ∀ r, some r ∈ d.allRecords →
    ∀ text, r.text = some text → text.length < MAX_TEXT_LEN

theorem PasteboardService.textLimited_empty :
    ({} : PasteboardService Uri Want).TextLimited := by
  intro u d h
  exact absurd h PasteboardService.not_clip_empty

variable [ToString Uri]

/-- A request within the limit keeps the store within it. -/
theorem step_textLimited {s s' : PasteboardService Uri Want} {r : Request E}
    {os : List Event} (hs : s.TextLimited) (hr : r.TextsLimited)
    (hstep : (stubMachine H).step s r = some (s', os)) : s'.TextLimited := by
  intro u d hd o ho text htext
  rcases r.clips_cases H hstep hd with hold | ⟨c, hop⟩
  · exact hs u d hold o ho text htext
  · obtain ⟨b, hb, hdeclared⟩ := text_of_op H hop ho
    exact hr b hb text (hdeclared.trans htext)

/-- **THE TEXT LIMIT AT THE TRUST BOUNDARY.**  Every run of requests can be
handled.  The limit holds of every record stored in any of its states, and
every record that breaks it is refused, if and only if no request declares a
record that breaks it. -/
theorem text_limit_iff (E : Ipc Uri Want) (H : Host E)
    (rs : List (Request E)) :
    ∃ s os, (stubMachine H).run {} rs = some (s, os)
      ∧ (((stubMachine H).Always PasteboardService.TextLimited {} rs
            ∧ ∀ r ∈ rs, r.RefusesLongTexts)
          ↔ ∀ r ∈ rs, r.TextsLimited) := by
  obtain ⟨s, os, hrun, _⟩ :=
    run_allDecoded H rs PasteboardService.allDecoded_empty
  refine ⟨s, os, hrun, ?_⟩
  constructor
  · intro hyp r hr
    exact r.refusesLongTexts_iff.mp (hyp.2 r hr)
  · intro h
    refine ⟨?_, fun r hr => r.refusesLongTexts_iff.mpr (h r hr)⟩
    refine (stubMachine H).always_of_allSteps PasteboardService.TextLimited
      (fun s r s' os hs hr hstep => step_textLimited H hs hr hstep)
      (fun _ hs => hs) rs PasteboardService.textLimited_empty hrun ?_
    exact ((stubMachine H).allSteps_iff_forall rs hrun).mpr h

/-! ## §4. A long text. -/

/-- A `SET_PASTE_DATA` of one text. -/
def textRequest (text : String) : Request (listIpc String String) where
  code := SET_PASTE_DATA
  data := ([⟨.interfaceToken, DESCRIPTOR⟩, ⟨.presence, true⟩,
    ⟨.uint32, (1 : UInt32)⟩, ⟨.presence, true⟩,
    ⟨.string16, MIMETYPE_TEXT_PLAIN⟩, ⟨.string16, text⟩] :
    List (Ipc.ParcelItem String String))
  caller := callerOf100

/-- **A text of 500 KiB in a parcel is stored.** -/
theorem text_limit_longText :
    ¬ ∀ (rs : List (Request (listIpc String String)))
        (s : PasteboardService String String) (os : List Event),
      (stubMachine sampleHost).run {} rs = some (s, os) → s.TextLimited := by
  intro h
  have hstored : ∀ text : String, ∃ s os,
      (stubMachine sampleHost).run {} [textRequest text] = some (s, os)
        ∧ ∃ d, s.clips[(100 : Int)]? = some d
          ∧ some { mimeType := MIMETYPE_TEXT_PLAIN, plainText := some text }
              ∈ d.allRecords := by
    intro text
    exact ⟨_, _, rfl, _, rfl, List.mem_cons_self⟩
  obtain ⟨s, os, hrun, d, hd, hmem⟩ :=
    hstored (PasteboardClient.textOfLength MAX_TEXT_LEN)
  have hlt := h _ s os hrun 100 d hd _ hmem _ rfl
  rw [PasteboardClient.length_textOfLength] at hlt
  exact Nat.lt_irrefl _ hlt

end Pasteboard
