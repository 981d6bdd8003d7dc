/-
  Pasteboard.Service.Clipboard
  ────────────────────────────
  **WHAT A CLIENT'S CALLS DO**, from any state the service can reach and for
  any data that can be written, null pointers among it.

  To its clients the service is one clipboard per user that holds a list of
  payloads (`PasteboardService.pasted`).  Over a lossless FIFO transport:

    setPasteData d — the caller's clipboard holds `d.copied`
    clear          — the caller's clipboard is empty
    getPasteData   — delivers the caller's clipboard, which stays as it is
    hasPasteData   — tells whether it holds anything

  A caller without a user id has an empty clipboard, which nothing fills.
-/
import Pasteboard.Ipc.MimeCache
import Pasteboard.Ipc.Transfer
import Pasteboard.Service.EndToEnd

namespace Pasteboard

open Lib

variable {Uri Want : Type}

/-! ## §1. Clipboards. -/

theorem PasteData.cacheCoherent_received (d : PasteData Uri Want) :
    d.received.CacheCoherent := by
  have hfold : ∀ (rs : List (PasteDataRecord Uri Want))
      (d : PasteData Uri Want), d.CacheCoherent →
      (rs.foldl addRecordRef d).CacheCoherent := by
    intro rs
    induction rs with
    | nil =>
        intro d h
        exact h
    | cons r rs ih =>
        intro d _
        exact ih _ (cacheCoherent_addRecordRef d r)
  exact hfold _ {} rfl

/-- A hop carries no tag. -/
theorem PasteData.tag_received (d : PasteData Uri Want) :
    d.received.props.tag = "" := by
  have hfold : ∀ (rs : List (PasteDataRecord Uri Want))
      (d : PasteData Uri Want), (rs.foldl addRecordRef d).props.tag
        = d.props.tag := by
    intro rs
    induction rs with
    | nil =>
        intro d
        rfl
    | cons r rs ih =>
        intro d
        rw [List.foldl_cons, ih]
        rfl
  exact hfold _ {}

/-- What a paste delivers of a list of payloads. -/
structure PasteData.Pasted (pls : List (Payload Uri Want))
    (d : PasteData Uri Want) : Prop where
  payloads : d.payloads = pls
  decoded : d.Decoded
  coherent : d.CacheCoherent
  tag : d.props.tag = ""

theorem PasteData.pasted_received (d : PasteData Uri Want) :
    d.received.Pasted d.received.payloads :=
  ⟨rfl, d.decoded_received, d.cacheCoherent_received, d.tag_received⟩

theorem PasteData.pasted_empty : ({} : PasteData Uri Want).Pasted [] :=
  ⟨rfl, PasteData.decoded_empty, rfl, rfl⟩

/-- What is put into a user's clipboard, nothing for an emptied one. -/
abbrev Copy (Uri Want : Type) : Type := Int × Option (List (Payload Uri Want))

/-- What an operation puts into a clipboard. -/
def ServiceOp.copy (P : Platform) (op : ServiceOp Uri Want) :
    Option (Copy Uri Want) :=
  (op.clipEffect P).map fun x => (x.1, x.2.map fun d => d.received.payloads)

namespace PasteboardService

/-- A user's clipboard: the payloads of the clip, as a hop delivers them. -/
def pasted (s : PasteboardService Uri Want) (u : Int) :
    Option (List (Payload Uri Want)) :=
  s.clips[u]?.map fun d => d.received.payloads

/-- A caller's clipboard. -/
def clipboard (P : Platform) (c : Caller) (s : PasteboardService Uri Want) :
    Option (List (Payload Uri Want)) :=
  if P.getUserId c.uid = ERROR_USERID then none
  else s.pasted (P.getUserId c.uid)

end PasteboardService

/-- The service lives on, with one clipboard assigned to or none. -/
structure Performed (copy : Option (Copy Uri Want))
    (s s' : PasteboardService Uri Want) : Prop where
  allDecoded : s'.AllDecoded
  pasted : s'.pasted = Register.assign id s.pasted copy

/-- Assigning the clips assigns the clipboards. -/
theorem assign_copy (P : Platform) (op : ServiceOp Uri Want)
    (s : PasteboardService Uri Want) (u : Int) :
    (Register.assign (ServiceOp.clipEffect P) (fun v => s.clips[v]?) op u).map
        (fun d => d.received.payloads)
      = Register.assign id s.pasted (op.copy P) u := by
  cases heff : op.clipEffect P with
  | none =>
      have hcopy : op.copy P = none := by
        unfold ServiceOp.copy
        rw [heff]
        rfl
      rw [Register.assign_none heff, hcopy, Register.assign_none rfl]
      rfl
  | some x =>
      have hcopy : op.copy P
          = some (x.1, x.2.map fun d => d.received.payloads) := by
        unfold ServiceOp.copy
        rw [heff]
        rfl
      have happly : ∀ w, Register.assign id s.pasted (some (x.1, w)) u
          = if x.1 = u then w else s.pasted u := fun w =>
        Register.assign_apply rfl u
      rw [Register.assign_apply heff, hcopy, happly]
      split
      · rfl
      · rfl

variable {E : Ipc Uri Want} [ToString Uri] (H : Host E)

/-! ## §2. Requests. -/

/-- What a request puts into a clipboard. -/
def Request.copy (r : Request E) : Option (Copy Uri Want) :=
  (r.op H).bind (ServiceOp.copy H.toPlatform)

/-- **Any request is answered**, and does what its operation does. -/
theorem exists_answer {s : PasteboardService Uri Want} (hs : s.AllDecoded)
    (r : Request E) :
    ∃ answer, PasteboardServiceStub.onRemoteRequest H r s = some answer
      ∧ Performed (r.copy H) s answer.service := by
  obtain ⟨⟨s', os⟩, hstep⟩ := Option.isSome_iff_exists.mp (step_isSome H hs r)
  obtain ⟨answer, hanswer, hservice, _⟩ := Outcome.of_map_step hstep
  subst hservice
  refine ⟨answer, hanswer, keeps_allDecoded H s r _ os hs hstep, ?_⟩
  rw [Request.exec_request] at hstep
  unfold Request.copy
  cases hop : r.op H with
  | none =>
      rw [hop] at hstep
      injection hstep with hstep
      injection hstep with hs' _
      rw [← hs']
      exact (Register.assign_none rfl).symm
  | some op =>
      rw [hop] at hstep
      funext u
      show (answer.service.clips[u]?).map _ = _
      rw [(ServiceOp.exec_spec hstep).clips u]
      exact assign_copy H.toPlatform op s u

omit [ToString Uri] in
/-- A request with the service's token makes the operation of its code. -/
theorem Request.op_of_token {code : UInt32} {b : E.Parcel} {c : Caller}
    (htoken : (E.readInterfaceToken b).1 = DESCRIPTOR) :
    (⟨code, b, c⟩ : Request E).op H
      = decode H code (E.readInterfaceToken b).2 c := by
  unfold Request.op
  dsimp only
  rw [if_neg fun hne => hne htoken.symm]

omit [ToString Uri] in
/-- What an operation that assigns the caller's clip puts into a clipboard. -/
theorem ServiceOp.copy_assigns {P : Platform} (op : ServiceOp Uri Want)
    (w : Option (PasteData Uri Want))
    (h : op.clipEffect P
      = if op.userId P = ERROR_USERID then none else some (op.userId P, w)) :
    op.copy P = if op.userId P = ERROR_USERID then none
      else some (op.userId P, w.map fun d => d.received.payloads) := by
  unfold ServiceOp.copy
  rw [h]
  split
  · rfl
  · rfl

omit [ToString Uri] in
theorem ServiceOp.clipEffect_of_not_assigns {P : Platform}
    {op : ServiceOp Uri Want} (h : ¬ op.Assigns) : op.clipEffect P = none := by
  cases heff : op.clipEffect P with
  | none => rfl
  | some x =>
      obtain ⟨_, _, ⟨c, d, hop, _⟩ | ⟨c, hop, _⟩⟩ :=
        ServiceOp.clipEffect_eq_some heff
      · rw [hop] at h
        exact absurd trivial h
      · rw [hop] at h
        exact absurd trivial h

/-! ## §3. The proxies. -/

namespace PasteboardServiceProxy

section Writes

variable (T : E.Faithful) (L : E.Lossless) (c : Caller)
  {s : PasteboardService Uri Want} (hs : s.AllDecoded)

/-- What a caller puts into its clipboard. -/
def copyOf (P : Platform) (c : Caller)
    (held : Option (List (Payload Uri Want))) : Option (Copy Uri Want) :=
  if P.getUserId c.uid = ERROR_USERID then none
  else some (P.getUserId c.uid, held)

include hs

/-- A function without a result does what its request does. -/
theorem performed_send {code : UInt32} {write : E.Writer} {r : Request E}
    (hreq : request code write c = some r) :
    ∃ o, send H code write c s = some o
      ∧ Performed (r.copy H) s o.service := by
  obtain ⟨answer, hanswer, hdone⟩ := exists_answer H hs r
  refine ⟨⟨(), answer.service, answer.events⟩, ?_, hdone⟩
  unfold send
  rw [hreq]
  show (PasteboardServiceStub.onRemoteRequest H r s).map _ = _
  rw [hanswer]
  rfl

include T L

/-- **Clearing.** -/
theorem performed_clear :
    ∃ o, clear H c s = some o
      ∧ Performed (copyOf H.toPlatform c none) s o.service := by
  obtain ⟨b, hb, hreq⟩ := exists_request L CLEAR_ALL Wire.succeeds_skip c
  obtain ⟨htoken, _⟩ := readInterfaceToken_request T T.fifo.emits_skip hb
  obtain ⟨o, ho, hdone⟩ := performed_send H c hs hreq
  refine ⟨o, ho, ?_⟩
  have hcopy : (⟨CLEAR_ALL, b, c⟩ : Request E).copy H
      = copyOf H.toPlatform c none := by
    unfold Request.copy
    rw [Request.op_of_token H htoken]
    exact ServiceOp.copy_assigns (.clear c) none rfl
  rw [← hcopy]
  exact hdone

/-- **Copying**, null pointers or not. -/
theorem performed_setPasteData {d : PasteData Uri Want} (hd : d.Loaded) :
    ∃ o, setPasteData H c d s = some o
      ∧ Performed (copyOf H.toPlatform c (some d.copied)) s o.service := by
  obtain ⟨b, hb, hreq⟩ := exists_request L SET_PASTE_DATA
    (PasteData.succeeds_writeParcelable L hd) c
  obtain ⟨htoken, hbody⟩ := readInterfaceToken_request T
    (T.emits_writeParcelable (PasteData.emits_marshalling T d)) hb
  obtain ⟨o, ho, hdone⟩ := performed_send H c hs hreq
  refine ⟨o, ho, ?_⟩
  have hcopy : (⟨SET_PASTE_DATA, b, c⟩ : Request E).copy H
      = copyOf H.toPlatform c (some d.copied) := by
    have hread := PasteData.readParcelable_loaded T hd hbody
    have hpayloads := PasteData.payloads_of_records d.received_received_records
    unfold Request.copy
    rw [Request.op_of_token H htoken]
    show ((E.readParcelable (PasteData.unmarshalling E)
      (E.readInterfaceToken b).2).1.map _).bind _ = _
    rw [hread, ← hpayloads]
    exact ServiceOp.copy_assigns (.setPasteData c d.received)
      (some d.received) rfl
  rw [← hcopy]
  exact hdone

end Writes

omit [ToString Uri] in
/-- The two questions put nothing into a clipboard. -/
theorem copy_of_question (op : ServiceOp Uri Want) {code : UInt32}
    {b : E.Parcel} {c : Caller}
    (htoken : (E.readInterfaceToken b).1 = DESCRIPTOR)
    (hop : Request.decode H code (E.readInterfaceToken b).2 c = some op)
    (hno : ¬ op.Assigns) :
    (⟨code, b, c⟩ : Request E).copy H = none := by
  unfold Request.copy
  rw [Request.op_of_token H htoken, hop]
  show (op.clipEffect H.toPlatform).map _ = none
  rw [ServiceOp.clipEffect_of_not_assigns hno]
  rfl

/-- **Asking whether there is anything.** -/
theorem performed_hasPasteData (T : E.Faithful) (L : E.Lossless) (c : Caller)
    {s : PasteboardService Uri Want} (hs : s.AllDecoded) :
    ∃ o, hasPasteData H c s = some o
      ∧ Performed none s o.service
      ∧ o.value = (s.clipboard H.toPlatform c).isSome := by
  obtain ⟨b, hb, hreq⟩ := exists_request L HAS_PASTE_DATA Wire.succeeds_skip c
  obtain ⟨htoken, _⟩ := readInterfaceToken_request T T.fifo.emits_skip hb
  obtain ⟨answer, hanswer, hdone⟩ := exists_answer H hs
    (⟨HAS_PASTE_DATA, b, c⟩ : Request E)
  rw [copy_of_question H (.hasPasteData c) htoken rfl fun h => h] at hdone
  -- the answer carries what the service found
  have hfunc : PasteboardServiceStub.memberFunc H HAS_PASTE_DATA
      = some fun c _ s => PasteboardServiceStub.onHasPasteData H c s := rfl
  obtain ⟨reply, hreply⟩ :=
    L .bool (s.hasPasteData H.toPlatform c).value E.wire.empty
  have hdata : answer.value = (.ERR_OK, reply) := by
    rw [onRemoteRequest_of_token H htoken hfunc] at hanswer
    injection hanswer with hanswer
    rw [← hanswer]
    show (ErrCode.ERR_OK, (E.writeBool _ E.wire.empty).getD _) = _
    rw [show E.writeBool (s.hasPasteData H.toPlatform c).value E.wire.empty
      = some reply from hreply]
    rfl
  have hread : (E.readBool reply).1 = (s.hasPasteData H.toPlatform c).value := by
    have hunread := T.fifo.emits_write .bool
      (s.hasPasteData H.toPlatform c).value E.wire.empty reply hreply
    rw [T.fifo.unread_empty, List.nil_append] at hunread
    exact (T.fifo.read_head hunread).1
  have hvalue : (s.hasPasteData H.toPlatform c).value
      = (s.clipboard H.toPlatform c).isSome := by
    rw [(observes_clip hs.measurable c (P := H.toPlatform)).hasPasteData]
    unfold PasteboardService.clipboard PasteboardService.pasted
    split
    · rfl
    · rw [Option.isSome_map]
  refine ⟨⟨(E.readBool reply).1, answer.service, answer.events⟩, ?_, hdone,
    hread.trans hvalue⟩
  unfold hasPasteData
  rw [hreq]
  show (PasteboardServiceStub.onRemoteRequest H _ s).map _ = _
  rw [hanswer, Option.map_some, hdata, if_neg fun hne => hne rfl]

/-- What a paste hands to its caller: the payloads of the clipboard, or the
data it was given. -/
structure Pastes (held : Option (List (Payload Uri Want)))
    (given : PasteData Uri Want) (found : Bool × PasteData Uri Want) :
    Prop where
  some : ∀ pls, held = some pls → found.1 = true ∧ found.2.Pasted pls
  none : held = none → found = (false, given)

/-- **Pasting.** -/
theorem performed_getPasteData (T : E.Faithful) (L : E.Lossless) (c : Caller)
    {s : PasteboardService Uri Want} (hs : s.AllDecoded)
    (out : PasteData Uri Want) :
    ∃ o, getPasteData H c out s = some o
      ∧ Performed none s o.service
      ∧ Pastes (s.clipboard H.toPlatform c) out o.value := by
  obtain ⟨b, hb, hreq⟩ := exists_request L GET_PASTE_DATA Wire.succeeds_skip c
  obtain ⟨htoken, _⟩ := readInterfaceToken_request T T.fifo.emits_skip hb
  obtain ⟨answer, hanswer, hdone⟩ := exists_answer H hs
    (⟨GET_PASTE_DATA, b, c⟩ : Request E)
  rw [copy_of_question H (.getPasteData c {}) htoken rfl fun h => h] at hdone
  have hfunc : PasteboardServiceStub.memberFunc H GET_PASTE_DATA
      = Option.some fun c _ s => PasteboardServiceStub.onGetPasteData H c s :=
    rfl
  have hhandled := hanswer
  rw [onRemoteRequest_of_token H htoken hfunc] at hhandled
  by_cases hheld : s.clipboard H.toPlatform c = none
  · -- no clip: the request fails
    obtain ⟨found, hfound, hvalue⟩ :=
      (observes_clip hs.measurable c (P := H.toPlatform)).getPasteData {}
    have hnone : (if H.getUserId c.uid = ERROR_USERID then Option.none
        else s.clips[H.getUserId c.uid]?) = Option.none := by
      unfold PasteboardService.clipboard PasteboardService.pasted at hheld
      split
      · rfl
      · next hu =>
          rw [if_neg hu, Option.map_eq_none_iff] at hheld
          exact hheld
    rw [hnone] at hvalue
    have hstatus : answer.value.1 = .ERR_INVALID_VALUE := by
      change (s.getPasteData H.toPlatform c {}).map _ = _ at hhandled
      rw [hfound, Option.map_some, hvalue] at hhandled
      injection hhandled with hhandled
      rw [← hhandled]
      rfl
    refine ⟨⟨(false, out), answer.service, answer.events⟩, ?_, hdone, ?_⟩
    · unfold getPasteData
      rw [hreq]
      show (PasteboardServiceStub.onRemoteRequest H _ s).map _ = _
      rw [hanswer, Option.map_some, hstatus, if_pos (by decide)]
    · refine ⟨?_, fun _ => rfl⟩
      intro pls hpls
      rw [hheld] at hpls
      cases hpls
  · -- the clip is in the reply
    have hu : H.getUserId c.uid ≠ ERROR_USERID := by
      intro hu
      exact hheld (if_pos hu)
    have hclip : s.clipboard H.toPlatform c
        = s.clips[H.getUserId c.uid]?.map fun d => d.received.payloads :=
      if_neg hu
    obtain ⟨d, hd⟩ : ∃ d, s.clips[H.getUserId c.uid]? = Option.some d := by
      apply Option.ne_none_iff_exists'.mp
      intro hnone
      rw [hclip, hnone] at hheld
      exact hheld rfl
    rw [hd] at hclip
    obtain ⟨reply, s', os, hreply, hunread⟩ :=
      onGetPasteData_of_clip H T L hu hs hd
    have hread : (E.readParcelable (PasteData.unmarshalling E) reply).1
        = Option.some d.received :=
      PasteData.readParcelable_loaded T (hs _ d hd).loaded hunread
    rw [hreply] at hhandled
    injection hhandled with hhandled
    refine ⟨⟨(true, d.received), answer.service, answer.events⟩, ?_, hdone, ?_⟩
    · unfold getPasteData
      rw [hreq]
      show (PasteboardServiceStub.onRemoteRequest H _ s).map _ = _
      rw [hanswer, Option.map_some, ← hhandled, if_neg fun hne => hne rfl,
        hread]
    · refine ⟨?_, ?_⟩
      · intro pls hpls
        rw [hclip] at hpls
        injection hpls with hpls
        subst hpls
        exact ⟨rfl, d.pasted_received⟩
      · intro hnone
        exact absurd hnone hheld

end PasteboardServiceProxy

end Pasteboard
