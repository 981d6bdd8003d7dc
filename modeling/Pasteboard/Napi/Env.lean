/-
  Pasteboard.Napi.Env
  ───────────────────
  **WHAT THE BINDINGS ASK OF N-API.**  N-API is not part of the repository; a
  `Napi` is any implementation of the one function whose result it leaves open,
  with what its documentation promises of it.

    • `napi_get_value_string_utf8` copies an initial part of the text, shorter
      than the buffer, and all of it where it fits,
    • `napi_create_reference` makes a reference that is not live yet, which
      `napi_get_reference_value` maps back to its value,
    • `napi_call_function` passes the first `argc` of the arguments.

  A text is a `String` whose characters stand for the bytes of its UTF-8 form.
-/
import Mathlib.Data.List.TakeWhile
import Std.Data.TreeMap.Lemmas

namespace Pasteboard

/-! ## §1. Texts. -/

structure Napi where
  /-- The text that `napi_get_value_string_utf8` leaves in a buffer of so many
  bytes. -/
  getValueStringUtf8 : Nat → String → String
  initialPart : ∀ bufsize value,
    (getValueStringUtf8 bufsize value).toList <+: value.toList
  length_lt : ∀ bufsize value, 0 < bufsize →
    (getValueStringUtf8 bufsize value).length < bufsize
  whole : ∀ bufsize value, value.length < bufsize →
    getValueStringUtf8 bufsize value = value

/-- `std::string(const char *)`: up to the first NUL. -/
def cString (buf : String) : String :=
  String.ofList (buf.toList.takeWhile fun ch => ch ≠ '\x00')

theorem cString_eq_self {buf : String} (h : '\x00' ∉ buf.toList) :
    cString buf = buf := by
  have hall : ∀ ch ∈ buf.toList, decide (ch ≠ '\x00') = true := by
    intro ch hch
    rw [decide_eq_true_eq]
    intro heq
    subst heq
    exact h hch
  unfold cString
  rw [List.takeWhile_eq_self_iff.mpr hall, String.ofList_toList]

namespace Napi

/-- One byte of the buffer is the terminator, the rest is filled. -/
def filling : Napi where
  getValueStringUtf8 bufsize value :=
    String.ofList (value.toList.take (bufsize - 1))
  initialPart bufsize value := by
    rw [String.toList_ofList]
    exact List.take_prefix _ _
  length_lt bufsize value h := by
    rw [String.length_ofList, List.length_take]
    omega
  whole bufsize value h := by
    rw [List.take_of_length_le, String.ofList_toList]
    rw [String.length_toList]
    omega

/-- The copy is a shorter text exactly where the text does not fit. -/
theorem getValueStringUtf8_eq_self_iff (N : Napi) {bufsize : Nat}
    (h : 0 < bufsize) (value : String) :
    N.getValueStringUtf8 bufsize value = value ↔ value.length < bufsize := by
  constructor
  · intro heq
    have hlt := N.length_lt bufsize value h
    rw [heq] at hlt
    exact hlt
  · exact N.whole bufsize value

theorem not_mem_getValueStringUtf8 (N : Napi) (bufsize : Nat) {value : String}
    {ch : Char} (h : ch ∉ value.toList) :
    ch ∉ (N.getValueStringUtf8 bufsize value).toList := by
  intro hmem
  exact h ((N.initialPart bufsize value).subset hmem)

end Napi

/-! ## §2. References. -/

abbrev NapiRef : Type := Nat

/-- The live references, with their values. -/
abbrev References (Value : Type) : Type := Std.TreeMap NapiRef Value

namespace References

variable {Value : Type}

/-- `napi_create_reference`: `none` where `ref` is live, it returns another
one then. -/
def create (refs : References Value) (ref : NapiRef) (value : Value) :
    Option (References Value) :=
  if ref ∈ refs then none else some (refs.insert ref value)

theorem create_eq_some_iff {refs refs' : References Value} {ref : NapiRef}
    {value : Value} :
    refs.create ref value = some refs'
      ↔ ref ∉ refs ∧ refs.insert ref value = refs' := by
  unfold create
  by_cases h : ref ∈ refs
  · simp [h]
  · simp [h]

/-- A live reference keeps its value when another one is made. -/
theorem getElem?_insert_of_live {refs : References Value} {ref ref' : NapiRef}
    {value : Value} (hnew : ref ∉ refs) (hlive : ref' ∈ refs) :
    (refs.insert ref value)[ref']? = refs[ref']? := by
  have hne : compare ref ref' ≠ .eq := by
    intro heq
    rw [Std.LawfulEqCmp.compare_eq_iff_eq] at heq
    subst heq
    exact hnew hlive
  rw [Std.TreeMap.getElem?_insert, if_neg hne]

end References

/-! ## §3. Calls. -/

/-- The arguments `napi_call_function` passes on. -/
def napiCallFunction {Value : Type} (argc : Nat) (argv : List Value) :
    List Value :=
  argv.take argc

end Pasteboard
