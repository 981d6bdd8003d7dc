/-
  Pasteboard.Data.Record
  ──────────────────────
  **PASTE DATA RECORDS** (`paste_data_record.h/.cpp`): one clipboard entry, a
  MIME type and four payload pointers of which a factory sets one.

  Conventions of the whole development:

    • a `std::string` is a `String` whose characters stand for its bytes, so
      `text.length()` is `String.length`,
    • a `shared_ptr` is an `Option`, `nullptr` is `none`; records have no
      mutator, so sharing one is the same as copying it,
    • `OHOS::Uri` and `AAFwk::Want` come from outside and stay the type
      variables `Uri` and `Want`; `Uri::ToString` is the instance `ToString`.
-/
import Mathlib.Data.Option.Basic

namespace Pasteboard

/-! ## §1. Records, their factories and readers. -/

def MIMETYPE_TEXT_HTML : String := "text/html"
def MIMETYPE_TEXT_PLAIN : String := "text/plain"
def MIMETYPE_TEXT_URI : String := "text/uri"
def MIMETYPE_TEXT_WANT : String := "text/want"

/-- First length in bytes a text or HTML record refuses. -/
def MAX_TEXT_LEN : Nat := 500 * 1024

/-- One clipboard entry.  The public constructor takes the five fields as
they are, so nothing ties the payloads to the MIME type. -/
structure PasteDataRecord (Uri Want : Type) where
  mimeType : String := ""
  htmlText : Option String := none
  want : Option Want := none
  plainText : Option String := none
  uri : Option Uri := none
  deriving DecidableEq, Repr

namespace PasteDataRecord

variable {Uri Want : Type}

def newHtmlRecord (htmlText : String) : Option (PasteDataRecord Uri Want) :=
  if htmlText.length ≥ MAX_TEXT_LEN then none
  else some ⟨MIMETYPE_TEXT_HTML, some htmlText, none, none, none⟩

/-- The pointer is stored as it is: a null `want` makes a record without
payload. -/
def newWantRecord (want : Option Want) : Option (PasteDataRecord Uri Want) :=
  some ⟨MIMETYPE_TEXT_WANT, none, want, none, none⟩

def newPlaintTextRecord (text : String) : Option (PasteDataRecord Uri Want) :=
  if text.length ≥ MAX_TEXT_LEN then none
  else some ⟨MIMETYPE_TEXT_PLAIN, none, none, some text, none⟩

def newUriRecord (uri : Uri) : Option (PasteDataRecord Uri Want) :=
  some ⟨MIMETYPE_TEXT_URI, none, none, none, some uri⟩

/-- The first payload present, in the order the source asks for them. -/
def convertToText [ToString Uri] (r : PasteDataRecord Uri Want) : String :=
  match r.htmlText, r.plainText, r.uri with
  | some html, _, _ => html
  | none, some text, _ => text
  | none, none, some uri => toString uri
  | none, none, none => ""

end PasteDataRecord

/-! ## §2. The payload of a record's own MIME type. -/

/-- What a record is about: one payload, whose constructor fixes the MIME
type. -/
inductive Payload (Uri Want : Type) where
  | plain (text : String)
  | html (text : String)
  | uri (uri : Uri)
  | want (want : Want)
  deriving DecidableEq, Repr

namespace Payload

variable {Uri Want : Type}

def mimeType : Payload Uri Want → String
  | .plain _ => MIMETYPE_TEXT_PLAIN
  | .html _ => MIMETYPE_TEXT_HTML
  | .uri _ => MIMETYPE_TEXT_URI
  | .want _ => MIMETYPE_TEXT_WANT

/-- The record that carries this payload and nothing else. -/
def toRecord : Payload Uri Want → PasteDataRecord Uri Want
  | .plain s => { mimeType := MIMETYPE_TEXT_PLAIN, plainText := some s }
  | .html s => { mimeType := MIMETYPE_TEXT_HTML, htmlText := some s }
  | .uri u => { mimeType := MIMETYPE_TEXT_URI, uri := some u }
  | .want w => { mimeType := MIMETYPE_TEXT_WANT, want := some w }

@[simp] theorem toRecord_mimeType (pl : Payload Uri Want) :
    pl.toRecord.mimeType = pl.mimeType := by
  cases pl <;> rfl

end Payload

/-- The four MIME types the codec knows. -/
def KnownMimeType (m : String) : Prop :=
  m = MIMETYPE_TEXT_PLAIN ∨ m = MIMETYPE_TEXT_HTML ∨ m = MIMETYPE_TEXT_URI
    ∨ m = MIMETYPE_TEXT_WANT

instance (m : String) : Decidable (KnownMimeType m) :=
  inferInstanceAs (Decidable (_ ∨ _ ∨ _ ∨ _))

namespace PasteDataRecord

variable {Uri Want : Type}

/-- The payload stored under the record's own MIME type, if its pointer is
not null. -/
def payload (r : PasteDataRecord Uri Want) : Option (Payload Uri Want) :=
  if r.mimeType = MIMETYPE_TEXT_PLAIN then r.plainText.map .plain
  else if r.mimeType = MIMETYPE_TEXT_HTML then r.htmlText.map .html
  else if r.mimeType = MIMETYPE_TEXT_URI then r.uri.map .uri
  else if r.mimeType = MIMETYPE_TEXT_WANT then r.want.map .want
  else none

/-- What a transfer has to keep of a record: MIME type and payload. -/
def content (r : PasteDataRecord Uri Want) : String × Option (Payload Uri Want) :=
  (r.mimeType, r.payload)

theorem payload_plain {r : PasteDataRecord Uri Want}
    (h : r.mimeType = MIMETYPE_TEXT_PLAIN) :
    r.payload = r.plainText.map .plain := by
  unfold payload
  rw [if_pos h]

theorem payload_html {r : PasteDataRecord Uri Want}
    (h : r.mimeType = MIMETYPE_TEXT_HTML) :
    r.payload = r.htmlText.map .html := by
  unfold payload
  rw [h, if_neg (by decide), if_pos rfl]

theorem payload_uri {r : PasteDataRecord Uri Want}
    (h : r.mimeType = MIMETYPE_TEXT_URI) : r.payload = r.uri.map .uri := by
  unfold payload
  rw [h, if_neg (by decide), if_neg (by decide), if_pos rfl]

theorem payload_want {r : PasteDataRecord Uri Want}
    (h : r.mimeType = MIMETYPE_TEXT_WANT) : r.payload = r.want.map .want := by
  unfold payload
  rw [h, if_neg (by decide), if_neg (by decide), if_neg (by decide),
    if_pos rfl]

theorem payload_unknown {r : PasteDataRecord Uri Want}
    (h : ¬ KnownMimeType r.mimeType) : r.payload = none := by
  simp only [KnownMimeType, not_or] at h
  unfold payload
  rw [if_neg h.1, if_neg h.2.1, if_neg h.2.2.1, if_neg h.2.2.2]

/-- A payload found under the record's MIME type has that MIME type. -/
theorem mimeType_of_payload {r : PasteDataRecord Uri Want}
    {pl : Payload Uri Want} (h : r.payload = some pl) :
    r.mimeType = pl.mimeType := by
  by_cases hk : KnownMimeType r.mimeType
  · -- one case per branch of `payload`
    rcases hk with hm | hm | hm | hm
    · rw [payload_plain hm, Option.map_eq_some_iff] at h
      obtain ⟨s, _, rfl⟩ := h
      exact hm
    · rw [payload_html hm, Option.map_eq_some_iff] at h
      obtain ⟨s, _, rfl⟩ := h
      exact hm
    · rw [payload_uri hm, Option.map_eq_some_iff] at h
      obtain ⟨u, _, rfl⟩ := h
      exact hm
    · rw [payload_want hm, Option.map_eq_some_iff] at h
      obtain ⟨w, _, rfl⟩ := h
      exact hm
  · rw [payload_unknown hk] at h
    cases h

theorem known_of_payload {r : PasteDataRecord Uri Want}
    {pl : Payload Uri Want} (h : r.payload = some pl) :
    KnownMimeType r.mimeType := by
  rw [mimeType_of_payload h]
  cases pl <;> simp [KnownMimeType, Payload.mimeType]

end PasteDataRecord

@[simp] theorem Payload.payload_toRecord {Uri Want : Type}
    (pl : Payload Uri Want) : pl.toRecord.payload = some pl := by
  cases pl <;> rfl

@[simp] theorem Payload.content_toRecord {Uri Want : Type}
    (pl : Payload Uri Want) :
    pl.toRecord.content = (pl.mimeType, some pl) := by
  rw [PasteDataRecord.content, toRecord_mimeType, payload_toRecord]

/-- A record with its payload has the content of that payload's record. -/
theorem PasteDataRecord.content_of_payload {Uri Want : Type}
    {r : PasteDataRecord Uri Want} {pl : Payload Uri Want}
    (h : r.payload = some pl) : r.content = pl.toRecord.content := by
  rw [Payload.content_toRecord, PasteDataRecord.content, h,
    mimeType_of_payload h]

end Pasteboard
