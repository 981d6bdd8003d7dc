/-
  Pasteboard.Ipc.Parcel
  ─────────────────────
  **THE EXTERNAL PARCEL.**

  `Parcel`, the string conversions and the parcelling of `Uri` and `Want` are
  not part of the repository.  `Ipc` takes them as parameters: a wire with one
  kind of item per read/write pair of `Parcel` the pasteboard uses, and the
  two conversions.  `Ipc.Faithful` is what the code relies on:

    • the wire is FIFO,
    • `Str16ToStr8` undoes `Str8ToStr16`.

  A `Uri` (a `Want`) crosses as ONE item: reading a parcelled `Uri` returns
  the `Uri` that was written.  The reads are total: a failed read returns
  some value, and nothing is said about which.
-/
import Pasteboard.Lib.Wire

namespace Pasteboard

open Lib

/-- The kinds of item the pasteboard puts into a parcel. -/
inductive ParcelKind where
  | uint32
  /-- The `Int32` in front of a parcelable, `0` for a null pointer. -/
  | presence
  | string16
  | uri
  | want
  | remoteObject
  | interfaceToken
  | bool
  deriving DecidableEq, Repr

/-- A remote object, named by its address. -/
abbrev RemoteObject : Type := Nat

/-- The values of each kind.  A pointer that may be null is an `Option`. -/
@[reducible] def ParcelVal (Uri Want : Type) : ParcelKind → Type
  | .uint32 => UInt32
  | .presence => Bool
  | .string16 => String
  | .uri => Option Uri
  | .want => Option Want
  | .remoteObject => Option RemoteObject
  | .interfaceToken => String
  | .bool => Bool

/-- The inter-process layer outside the repository. -/
structure Ipc (Uri Want : Type) where
  wire : Wire ParcelKind (ParcelVal Uri Want)
  str8ToStr16 : String → String
  str16ToStr8 : String → String

namespace Ipc

variable {Uri Want : Type}

abbrev ParcelItem (Uri Want : Type) : Type := Item (ParcelVal Uri Want)

variable (E : Ipc Uri Want)

abbrev Parcel : Type := E.wire.Buf
abbrev Writer : Type := E.wire.Writer
abbrev Reader (α : Type) : Type := E.wire.Reader α

/-! ## §1. The reads and writes the pasteboard uses. -/

def writeUint32 (n : UInt32) : E.Writer := E.wire.write .uint32 n
def writeString16 (s : String) : E.Writer := E.wire.write .string16 s
def writeBool (b : Bool) : E.Writer := E.wire.write .bool b
def writeUri (u : Uri) : E.Writer := E.wire.write .uri (some u)
def writeWant (w : Want) : E.Writer := E.wire.write .want (some w)
def writeRemoteObject (o : RemoteObject) : E.Writer :=
  E.wire.write .remoteObject (some o)
def writeInterfaceToken (s : String) : E.Writer :=
  E.wire.write .interfaceToken s

def readUint32 : E.Reader UInt32 := E.wire.read .uint32
def readString16 : E.Reader String := E.wire.read .string16
def readBool : E.Reader Bool := E.wire.read .bool
def readUri : E.Reader (Option Uri) := E.wire.read .uri
def readWant : E.Reader (Option Want) := E.wire.read .want
def readRemoteObject : E.Reader (Option RemoteObject) :=
  E.wire.read .remoteObject
def readInterfaceToken : E.Reader String := E.wire.read .interfaceToken

/-- `WriteParcelable`: the presence flag, then the object's `Marshalling`;
the flag alone for a null pointer. -/
def writeParcelable {α : Type} (marshalling : α → E.Writer) :
    Option α → E.Writer
  | none => E.wire.write .presence false
  | some a => E.wire.write .presence true >=> marshalling a

/-- `ReadParcelable`: the presence flag, then `Unmarshalling`. -/
def readParcelable {α : Type} (unmarshalling : E.Reader (Option α)) :
    E.Reader (Option α) := do
  let present : Bool ← E.wire.read .presence
  if present then unmarshalling else pure none

theorem readParcelable_absent {α : Type} (unmarshalling : E.Reader (Option α))
    {b : E.Parcel} (h : (E.wire.read .presence b).1 = false) :
    (E.readParcelable unmarshalling b).1 = none := by
  show ((if (E.wire.read .presence b).1 then unmarshalling else pure none)
    (E.wire.read .presence b).2).1 = none
  rw [h]
  rfl

theorem readParcelable_present {α : Type} (unmarshalling : E.Reader (Option α))
    {b : E.Parcel} (h : (E.wire.read .presence b).1 = true) :
    (E.readParcelable unmarshalling b).1
      = (unmarshalling (E.wire.read .presence b).2).1 := by
  show ((if (E.wire.read .presence b).1 then unmarshalling else pure none)
    (E.wire.read .presence b).2).1 = _
  rw [h]
  rfl

/-- What the code relies on. -/
structure Faithful where
  fifo : E.wire.Fifo
  str16ToStr8_str8ToStr16 : ∀ s, E.str16ToStr8 (E.str8ToStr16 s) = s

/-- Every write succeeds: no parcel runs out of room. -/
def Lossless : Prop := ∀ k v, Wire.Succeeds (E.wire.write k v)

/-! ## §2. Parcelables on a FIFO wire. -/

variable {E}

theorem Faithful.emits_writeParcelable_null (T : E.Faithful) {α : Type}
    (marshalling : α → E.Writer) :
    T.fifo.Emits (E.writeParcelable marshalling none) [⟨.presence, false⟩] :=
  T.fifo.emits_write .presence false

theorem Faithful.emits_writeParcelable (T : E.Faithful) {α : Type}
    {marshalling : α → E.Writer} {xs : List (ParcelItem Uri Want)} {a : α}
    (h : T.fifo.Emits (marshalling a) xs) :
    T.fifo.Emits (E.writeParcelable marshalling (some a))
      (⟨.presence, true⟩ :: xs) :=
  T.fifo.emits_seq (T.fifo.emits_write .presence true) h

theorem Faithful.consumes_readParcelable_null (T : E.Faithful) {α : Type}
    (unmarshalling : E.Reader (Option α)) :
    T.fifo.Consumes (E.readParcelable unmarshalling) [⟨.presence, false⟩] none :=
  T.fifo.consumes_read_bind (T.fifo.consumes_pure none)

theorem Faithful.consumes_readParcelable (T : E.Faithful) {α : Type}
    {unmarshalling : E.Reader (Option α)} {xs : List (ParcelItem Uri Want)}
    {a : Option α} (h : T.fifo.Consumes unmarshalling xs a) :
    T.fifo.Consumes (E.readParcelable unmarshalling) (⟨.presence, true⟩ :: xs) a :=
  T.fifo.consumes_read_bind (k := .presence) (v := (true : Bool))
    (f := fun present : Bool => if present then unmarshalling else pure none) h

theorem Lossless.writeItems (L : E.Lossless)
    (xs : List (ParcelItem Uri Want)) : Wire.Succeeds (E.wire.writeItems xs) :=
  Wire.succeeds_writeList xs fun i _ => L i.1 i.2

theorem Lossless.writeParcelable (L : E.Lossless) {α : Type}
    {marshalling : α → E.Writer} {o : Option α}
    (h : ∀ a, o = some a → Wire.Succeeds (marshalling a)) :
    Wire.Succeeds (E.writeParcelable marshalling o) := by
  cases o with
  | none => exact L .presence false
  | some a => exact Wire.succeeds_seq (L .presence true) (h a rfl)

/-- On any parcel, `ReadParcelable` returns null or what `Unmarshalling`
returns. -/
theorem yields_readParcelable {α : Type} {unmarshalling : E.Reader (Option α)}
    {P : α → Prop} (h : Wire.Yields unmarshalling fun o => ∀ a, o = some a → P a) :
    Wire.Yields (E.readParcelable unmarshalling)
      fun o => ∀ a, o = some a → P a := by
  refine Wire.yields_read_bind fun (present : Bool) => ?_
  cases present with
  | false =>
      refine Wire.yields_pure ?_
      intro a ha
      cases ha
  | true => exact h

end Ipc

/-! ## §3. Parcels that are lists of items. -/

/-- The value a failed read returns: empty, or null. -/
def ParcelVal.empty (Uri Want : Type) : (k : ParcelKind) → ParcelVal Uri Want k
  | .uint32 => (0 : UInt32)
  | .presence => false
  | .string16 => ""
  | .uri => none
  | .want => none
  | .remoteObject => none
  | .interfaceToken => ""
  | .bool => false

/-- Unbounded parcels that are the list of their unread items, with strings
that need no conversion. -/
def listIpc (Uri Want : Type) : Ipc Uri Want where
  wire := listWire (ParcelVal.empty Uri Want)
  str8ToStr16 s := s
  str16ToStr8 s := s

/-- **The list parcels are faithful.** -/
def listIpc_faithful (Uri Want : Type) : (listIpc Uri Want).Faithful where
  fifo := listFifo (ParcelVal.empty Uri Want)
  str16ToStr8_str8ToStr16 _ := rfl

theorem listIpc_lossless (Uri Want : Type) : (listIpc Uri Want).Lossless :=
  fun _ _ _ => ⟨_, rfl⟩

end Pasteboard
