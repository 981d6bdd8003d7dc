/-
  Pasteboard.Napi.Records
  ───────────────────────
  **THE TWO WAYS TO ADD A RECORD** (`napi_pastedata.cpp`,
  `napi_pasteboard.cpp`).

    add…Record(s)             — the text is copied into a buffer of 256 bytes
    addRecord(create…Record(s)) — the text is measured, and copied whole

  So a text of 256 bytes or more is added shortened by the first way.  The two
  agree on shorter texts, and on a text that is too long for any record where
  adding the shortened one changes nothing (`records_agree_iff`).
-/
import Pasteboard.Napi.Env
import Pasteboard.Data.History

namespace Pasteboard

open Lib

variable {Uri Want : Type}

/-! ## §1. The bindings. -/

def STR_MAX_SIZE : Nat := 256

namespace PasteboardClient

def createHtmlTextRecord (htmlText : String) :
    Option (PasteDataRecord Uri Want) :=
  PasteDataRecord.newHtmlRecord htmlText

def createPlainTextRecord (text : String) :
    Option (PasteDataRecord Uri Want) :=
  PasteDataRecord.newPlaintTextRecord text

def createUriRecord (uri : Uri) : Option (PasteDataRecord Uri Want) :=
  PasteDataRecord.newUriRecord uri

end PasteboardClient

/-- The argument of an `add…Record`, as the binding reads it. -/
def argumentOfAdd (N : Napi) (value : String) : String :=
  cString (N.getValueStringUtf8 STR_MAX_SIZE value)

/-- The argument of a `create…Record`: a buffer for its length and the
terminator. -/
def argumentOfCreate (N : Napi) (value : String) : String :=
  cString (N.getValueStringUtf8 (value.length + 1) value)

namespace PasteDataNapi

def addHtmlRecord (N : Napi) (value : String) (obj : PasteData Uri Want) :
    PasteData Uri Want :=
  obj.addHtmlRecord (argumentOfAdd N value)

def addTextRecord (N : Napi) (value : String) (obj : PasteData Uri Want) :
    PasteData Uri Want :=
  obj.addTextRecord (argumentOfAdd N value)

/-- `uri` is the constructor of `OHOS::Uri`. -/
def addUriRecord (N : Napi) (uri : String → Uri) (value : String)
    (obj : PasteData Uri Want) : PasteData Uri Want :=
  obj.addUriRecord (uri (argumentOfAdd N value))

/-- The record of the argument, which is null where the creation refused. -/
def addRecord (record : Option (PasteDataRecord Uri Want))
    (obj : PasteData Uri Want) : PasteData Uri Want :=
  obj.addRecord record

end PasteDataNapi

def jScreateHtmlTextRecord (N : Napi) (value : String) :
    Option (PasteDataRecord Uri Want) :=
  PasteboardClient.createHtmlTextRecord (argumentOfCreate N value)

def jScreatePlainTextRecord (N : Napi) (value : String) :
    Option (PasteDataRecord Uri Want) :=
  PasteboardClient.createPlainTextRecord (argumentOfCreate N value)

def jScreateUriRecord (N : Napi) (uri : String → Uri) (value : String) :
    Option (PasteDataRecord Uri Want) :=
  PasteboardClient.createUriRecord (uri (argumentOfCreate N value))

section Arguments

variable (N : Napi) {value : String} (hnul : '\x00' ∉ value.toList)
include hnul

theorem argumentOfCreate_eq : argumentOfCreate N value = value := by
  unfold argumentOfCreate
  rw [N.whole _ _ (Nat.lt_succ_self _), cString_eq_self hnul]

theorem argumentOfAdd_eq :
    argumentOfAdd N value = N.getValueStringUtf8 STR_MAX_SIZE value := by
  unfold argumentOfAdd
  exact cString_eq_self (N.not_mem_getValueStringUtf8 _ hnul)

/-- **The buffer of 256 bytes** holds a text of up to 255. -/
theorem argumentOfAdd_eq_self_iff :
    argumentOfAdd N value = value ↔ value.length < 256 := by
  rw [argumentOfAdd_eq N hnul]
  exact N.getValueStringUtf8_eq_self_iff (by decide) value

/-- No argument of an `add…Record` is too long for a record. -/
theorem length_argumentOfAdd_lt :
    (argumentOfAdd N value).length < MAX_TEXT_LEN := by
  rw [argumentOfAdd_eq N hnul]
  have hlt := N.length_lt STR_MAX_SIZE value (by decide)
  have hmax : STR_MAX_SIZE ≤ MAX_TEXT_LEN := by decide
  omega

end Arguments

/-! ## §2. When adding two records, or one and none, is the same. -/

/-- A paste data that is full of one record, with its MIME types up to date:
adding that record once more changes nothing. -/
structure PasteData.FullOf (record : PasteDataRecord Uri Want)
    (d : PasteData Uri Want) : Prop where
  full : MAX_RECORD_NUM ≤ d.records.length
  same : ∀ r ∈ d.records, r = some record
  fresh : d.refreshMimeProp = d

namespace PasteData

variable {d : PasteData Uri Want} {record record' : PasteDataRecord Uri Want}

theorem head?_addRecord :
    (d.addRecord (some record)).records.head? = some (some record) :=
  head?_pushFront (by decide) d.records (some record)

/-- The record added is the first one, so it can be told. -/
theorem addRecord_eq_addRecord_iff :
    d.addRecord (some record) = d.addRecord (some record')
      ↔ record = record' := by
  constructor
  · intro h
    have hhead := congrArg (fun d => d.records.head?) h
    simp only [head?_addRecord, Option.some.injEq] at hhead
    exact hhead
  · intro h
    rw [h]

theorem addRecord_eq_self_iff :
    d.addRecord (some record) = d ↔ d.FullOf record := by
  constructor
  · intro h
    have hrecords : pushFront MAX_RECORD_NUM d.records (some record)
        = d.records := congrArg PasteData.records h
    obtain ⟨hfull, hsame⟩ := pushFront_eq_self_iff.mp hrecords
    refine ⟨hfull, hsame, ?_⟩
    have hfresh : refreshMimeProp { d with
        records := pushFront MAX_RECORD_NUM d.records (some record) } = d := h
    rw [hrecords] at hfresh
    exact hfresh
  · intro h
    have hrecords : pushFront MAX_RECORD_NUM d.records (some record)
        = d.records := pushFront_eq_self_iff.mpr ⟨h.full, h.same⟩
    show refreshMimeProp { d with
      records := pushFront MAX_RECORD_NUM d.records (some record) } = d
    rw [hrecords]
    exact h.fresh

end PasteData

/-! ## §3. The two ways. -/

/-- A text that makes a record which keeps it whole is found whole in the
first record. -/
def StoredWhole (N : Napi) (value : String) (d : PasteData Uri Want) : Prop :=
  ∀ record : PasteDataRecord Uri Want,
    jScreatePlainTextRecord N value = some record →
    record.plainText = some value →
    ∃ first, (PasteDataNapi.addTextRecord N value d).records.head?
        = some (some first)
      ∧ first.plainText = some value

/-- The text fits the buffer of 256 bytes; or it fits no record, and the paste
data is full of `record`. -/
def CopiedWhole (value : String) (record : PasteDataRecord Uri Want)
    (d : PasteData Uri Want) : Prop :=
  value.length < 256 ∨ MAX_TEXT_LEN ≤ value.length ∧ d.FullOf record

/-- **Adding a record of a text**, against adding the record of the whole
text: `mk` makes a record of a text that `make` does not refuse. -/
theorem addRecord_argument_iff (N : Napi) (d : PasteData Uri Want)
    {value : String} (hnul : '\x00' ∉ value.toList)
    {make : String → Option (PasteDataRecord Uri Want)}
    {mk : String → PasteDataRecord Uri Want} (hmk : mk.Injective)
    (hmake : ∀ text, make text
      = if text.length ≥ MAX_TEXT_LEN then none else some (mk text)) :
    d.addRecord (make (argumentOfAdd N value))
        = d.addRecord (make (argumentOfCreate N value))
      ↔ CopiedWhole value (mk (argumentOfAdd N value)) d := by
  have hshort := length_argumentOfAdd_lt N hnul
  rw [argumentOfCreate_eq N hnul, hmake, hmake, if_neg (by omega)]
  by_cases hlong : value.length ≥ MAX_TEXT_LEN
  · -- the whole text makes no record: adding must change nothing
    have hmax : 256 ≤ MAX_TEXT_LEN := by decide
    have hnot : ¬ value.length < 256 := by omega
    rw [if_pos hlong]
    show d.addRecord (some _) = d ↔ _
    rw [PasteData.addRecord_eq_self_iff]
    unfold CopiedWhole
    simp only [hnot, hlong, true_and, false_or]
  · -- two records, which are the same where the texts are
    rw [if_neg hlong, PasteData.addRecord_eq_addRecord_iff, hmk.eq_iff,
      argumentOfAdd_eq_self_iff N hnul]
    unfold CopiedWhole
    simp only [hlong, false_and, or_false]

variable (N : Napi) (d : PasteData Uri Want) {value : String}

def plainTextRecord (text : String) : PasteDataRecord Uri Want :=
  (Payload.plain text).toRecord

def htmlTextRecord (htmlText : String) : PasteDataRecord Uri Want :=
  (Payload.html htmlText).toRecord

theorem newPlaintTextRecord_eq (text : String) :
    (PasteDataRecord.newPlaintTextRecord text :
        Option (PasteDataRecord Uri Want))
      = if text.length ≥ MAX_TEXT_LEN then none
        else some (plainTextRecord text) := rfl

theorem newHtmlRecord_eq (htmlText : String) :
    (PasteDataRecord.newHtmlRecord htmlText :
        Option (PasteDataRecord Uri Want))
      = if htmlText.length ≥ MAX_TEXT_LEN then none
        else some (htmlTextRecord htmlText) := rfl

theorem plainTextRecord_injective :
    (plainTextRecord : String → PasteDataRecord Uri Want).Injective := by
  intro text text' h
  injection h with _ _ _ htext _
  exact Option.some.inj htext

theorem htmlTextRecord_injective :
    (htmlTextRecord : String → PasteDataRecord Uri Want).Injective := by
  intro text text' h
  injection h with _ htext _ _ _
  exact Option.some.inj htext

theorem addTextRecord_iff (hnul : '\x00' ∉ value.toList) :
    PasteDataNapi.addTextRecord N value d
        = PasteDataNapi.addRecord (jScreatePlainTextRecord N value) d
      ↔ CopiedWhole value (plainTextRecord (argumentOfAdd N value)) d :=
  addRecord_argument_iff N d hnul plainTextRecord_injective
    newPlaintTextRecord_eq

theorem addHtmlRecord_iff (hnul : '\x00' ∉ value.toList) :
    PasteDataNapi.addHtmlRecord N value d
        = PasteDataNapi.addRecord (jScreateHtmlTextRecord N value) d
      ↔ CopiedWhole value (htmlTextRecord (argumentOfAdd N value)) d :=
  addRecord_argument_iff N d hnul htmlTextRecord_injective newHtmlRecord_eq

/-- A URI record is never refused, so the URIs decide. -/
theorem addUriRecord_iff (uri : String → Uri)
    (hnul : '\x00' ∉ value.toList) :
    PasteDataNapi.addUriRecord N uri value d
        = PasteDataNapi.addRecord (jScreateUriRecord N uri value) d
      ↔ uri (argumentOfAdd N value) = uri value := by
  show d.addRecord (some _) = d.addRecord (some _) ↔ _
  rw [argumentOfCreate_eq N hnul, PasteData.addRecord_eq_addRecord_iff]
  constructor
  · intro h
    injection h with _ _ _ _ huri
    exact Option.some.inj huri
  · intro h
    rw [h]

/-- The record of a text that is not refused. -/
theorem jScreatePlainTextRecord_eq (hnul : '\x00' ∉ value.toList) :
    (jScreatePlainTextRecord N value : Option (PasteDataRecord Uri Want))
      = if value.length ≥ MAX_TEXT_LEN then none
        else some (plainTextRecord value) := by
  unfold jScreatePlainTextRecord PasteboardClient.createPlainTextRecord
  rw [argumentOfCreate_eq N hnul, newPlaintTextRecord_eq]

/-- A text that fits the buffer is stored whole, and one that fits no record
is not kept whole by a creation either. -/
theorem storedWhole_of_copiedWhole {record : PasteDataRecord Uri Want}
    (hnul : '\x00' ∉ value.toList) (h : CopiedWhole value record d) :
    StoredWhole N value d := by
  intro record hcreate hkept
  rcases h with hshort | ⟨hlong, _⟩
  · have hadd := (addTextRecord_iff N d hnul).mpr (Or.inl hshort)
    rw [hadd, hcreate]
    exact ⟨record, PasteData.head?_addRecord, hkept⟩
  · rw [jScreatePlainTextRecord_eq N hnul, if_pos hlong] at hcreate
    cases hcreate

/-- **THE TWO WAYS TO ADD A RECORD**, from any paste data.  Adding a text or
an HTML text is the same as adding the record created of it, and stores no
text shortened, exactly when the text is shorter than 256 bytes, or too long
for any record while the paste data is full of the shortened one.  Adding a
URI is the same exactly when the URIs are. -/
theorem records_agree_iff (N : Napi) (uri : String → Uri)
    (d : PasteData Uri Want) (value : String)
    (hnul : '\x00' ∉ value.toList) :
    ((PasteDataNapi.addTextRecord N value d
          = PasteDataNapi.addRecord (jScreatePlainTextRecord N value) d
        ∧ StoredWhole N value d)
      ↔ CopiedWhole value
          (Payload.plain (N.getValueStringUtf8 256 value)).toRecord d)
    ∧ (PasteDataNapi.addHtmlRecord N value d
          = PasteDataNapi.addRecord (jScreateHtmlTextRecord N value) d
      ↔ CopiedWhole value
          (Payload.html (N.getValueStringUtf8 256 value)).toRecord d)
    ∧ (PasteDataNapi.addUriRecord N uri value d
          = PasteDataNapi.addRecord (jScreateUriRecord N uri value) d
      ↔ uri (N.getValueStringUtf8 256 value) = uri value) := by
  have harg : N.getValueStringUtf8 256 value = argumentOfAdd N value :=
    (argumentOfAdd_eq N hnul).symm
  rw [harg]
  refine ⟨?_, addHtmlRecord_iff N d hnul, addUriRecord_iff N d uri hnul⟩
  constructor
  · intro hyp
    exact (addTextRecord_iff N d hnul).mp hyp.1
  · intro h
    exact ⟨(addTextRecord_iff N d hnul).mpr h,
      storedWhole_of_copiedWhole N d hnul h⟩

/-- A text, an HTML text and a URI of one byte are added alike. -/
theorem records_agree_oneByte :
    (PasteDataNapi.addTextRecord Napi.filling "a" ({} : PasteData String String)
        = PasteDataNapi.addRecord (jScreatePlainTextRecord Napi.filling "a") {}
      ∧ StoredWhole Napi.filling "a" ({} : PasteData String String))
    ∧ PasteDataNapi.addUriRecord Napi.filling id "a"
          ({} : PasteData String String)
        = PasteDataNapi.addRecord (jScreateUriRecord Napi.filling id "a") {} := by
  have hagree := records_agree_iff Napi.filling id
    ({} : PasteData String String) "a" (by decide)
  exact ⟨hagree.1.mpr (Or.inl (by decide)), hagree.2.2.mpr (by decide)⟩

/-- **A text of 256 bytes** is added shortened. -/
theorem records_agree_256 :
    ¬ ∀ (N : Napi) (d : PasteData String String) (value : String),
      '\x00' ∉ value.toList →
      PasteDataNapi.addTextRecord N value d
        = PasteDataNapi.addRecord (jScreatePlainTextRecord N value) d := by
  intro h
  have hnul : '\x00' ∉ (PasteboardClient.textOfLength 256).toList := by
    unfold PasteboardClient.textOfLength
    rw [String.toList_ofList]
    intro hmem
    exact absurd (List.eq_of_mem_replicate hmem) (by decide)
  have hcopied := (addTextRecord_iff Napi.filling {} hnul).mp
    (h Napi.filling {} (PasteboardClient.textOfLength 256) hnul)
  rcases hcopied with hshort | ⟨_, hfull⟩
  · rw [PasteboardClient.length_textOfLength] at hshort
    omega
  · exact absurd hfull.full (by decide)

end Pasteboard
