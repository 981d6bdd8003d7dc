/-
  Pasteboard.Service.EndToEnd
  ───────────────────────────
  **COPY, THEN PASTE, over the proxies.**

  One hop reverses the records (`Ipc.RoundTrip`).  What is copied crosses
  once into the store and once back out of it, so for at most 128 records the
  two reversals cancel, whatever requests are handled in between: only a
  `SetPasteData` or a `Clear` by the same user would replace the clip
  (`copy_paste`).
-/
import Pasteboard.Service.Hostile

namespace Pasteboard

open Lib

variable {Uri Want : Type}

/-! ## §1. Two hops. -/

namespace PasteData

/-- Within the cap, one hop reverses the contents. -/
theorem received_contents_reverse {p : PasteData Uri Want} (hp : p.Complete)
    (hlen : p.getRecordCount ≤ MAX_RECORD_NUM) :
    p.received.contents = p.contents.reverse := by
  have hmap : p.contents.length = p.records.length := List.length_map _
  have hcount : p.sentCount = p.contents.length :=
    (sentCount_of_le hlen).trans hmap.symm
  rw [received_contents hp, hcount, List.take_length, List.take_of_length_le]
  rw [List.length_reverse, hmap]
  exact hlen

/-- **Two hops restore the contents.** -/
theorem received_received_contents {p : PasteData Uri Want} (hp : p.Complete)
    (hlen : p.getRecordCount ≤ MAX_RECORD_NUM) (h : p.received.Decoded) :
    p.received.received.contents = p.contents := by
  rw [received_contents_reverse h.complete h.count_le,
    received_contents_reverse hp hlen, List.reverse_reverse]

/-- Within the cap, a decoder in front of all the items of `p`. -/
theorem consumes_items {E : Ipc Uri Want} (T : E.Faithful)
    {p : PasteData Uri Want} (hp : p.Complete)
    (hlen : p.getRecordCount ≤ MAX_RECORD_NUM) :
    T.fifo.Consumes (unmarshalling E) (p.items E) (some p.received) := by
  have h := consumes_unmarshalling T p fun r hr => hp.payload hr
  have hcount : p.sentCount = p.records.length := sentCount_of_le hlen
  rw [hcount, List.take_length] at h
  exact h

theorem Complete.known {p : PasteData Uri Want} (hp : p.Complete) :
    p.Known := by
  intro r hr
  obtain ⟨pl, hpl⟩ := hp.payload hr
  exact PasteDataRecord.known_of_payload hpl

/-- **A parcel that a complete paste data was written to**, read by
`ReadParcelable`. -/
theorem readParcelable_items {E : Ipc Uri Want} (T : E.Faithful)
    {p : PasteData Uri Want} (hp : p.Complete)
    (hlen : p.getRecordCount ≤ MAX_RECORD_NUM) {b : E.Parcel}
    (hb : T.fifo.unread b = ⟨.presence, true⟩ :: p.items E) :
    (E.readParcelable (unmarshalling E) b).1 = some p.received := by
  have h := T.consumes_readParcelable (consumes_items T hp hlen)
  exact (h b [] (by rw [hb, List.append_nil])).1

/-- What is received of a complete paste data is decoded. -/
theorem received_decoded {E : Ipc Uri Want} (T : E.Faithful) (L : E.Lossless)
    {p : PasteData Uri Want} (hp : p.Complete) : p.received.Decoded := by
  obtain ⟨b, hb⟩ := succeeds_marshalling L hp.known E.wire.empty
  have hnone : E.wire.writeItems [] b = some b := rfl
  have h := unmarshalling_marshalling T (fun r hr => hp.payload hr) hb hnone
  exact yields_unmarshalling b _ h.1

end PasteData

/-! ## §2. The proxy's requests. -/

variable {E : Ipc Uri Want}

namespace PasteboardServiceProxy

/-- On lossless parcels a request is sent. -/
theorem exists_request (L : E.Lossless) (code : UInt32) {write : E.Writer}
    (hw : Wire.Succeeds write) (c : Caller) :
    ∃ b, (E.writeInterfaceToken DESCRIPTOR >=> write) E.wire.empty = some b
      ∧ request code write c = some ⟨code, b, c⟩ := by
  obtain ⟨b, hb⟩ :=
    Wire.succeeds_seq (L .interfaceToken DESCRIPTOR) hw E.wire.empty
  refine ⟨b, hb, ?_⟩
  unfold request
  rw [show (E.writeInterfaceToken DESCRIPTOR >=> write) E.wire.empty
    = some b from hb]
  rfl

/-- The stub finds its own token in front, and the written items behind. -/
theorem readInterfaceToken_request (T : E.Faithful) {write : E.Writer}
    {xs : List (Ipc.ParcelItem Uri Want)} (hw : T.fifo.Emits write xs)
    {b : E.Parcel}
    (hb : (E.writeInterfaceToken DESCRIPTOR >=> write) E.wire.empty = some b) :
    (E.readInterfaceToken b).1 = DESCRIPTOR
      ∧ T.fifo.unread (E.readInterfaceToken b).2 = xs := by
  have hemit := T.fifo.emits_seq
    (T.fifo.emits_write .interfaceToken DESCRIPTOR) hw
  have hunread := hemit E.wire.empty b hb
  rw [T.fifo.unread_empty, List.nil_append] at hunread
  exact T.fifo.read_head hunread

end PasteboardServiceProxy

variable [ToString Uri] (H : Host E)

/-- A request with the service's token goes to the handler of its code. -/
theorem onRemoteRequest_of_token {r : Request E}
    {s : PasteboardService Uri Want}
    {func : Caller → E.Parcel → PasteboardService Uri Want → Option (Answer E)}
    (htoken : (E.readInterfaceToken r.data).1 = DESCRIPTOR)
    (hfunc : PasteboardServiceStub.memberFunc H r.code = some func) :
    PasteboardServiceStub.onRemoteRequest H r s
      = func r.caller (E.readInterfaceToken r.data).2 s := by
  unfold PasteboardServiceStub.onRemoteRequest
  dsimp only
  rw [if_neg fun hne => hne htoken.symm, hfunc]

/-! ## §3. Copy, and paste. -/

omit [ToString Uri] in
/-- **The proxy's `SET_PASTE_DATA`** asks the service for a `SetPasteData` of
what one hop makes of the data. -/
theorem exists_setPasteData_request (T : E.Faithful) (L : E.Lossless)
    {p : PasteData Uri Want} (hp : p.Complete)
    (hlen : p.getRecordCount ≤ MAX_RECORD_NUM) (c : Caller) :
    ∃ r : Request E,
      PasteboardServiceProxy.request SET_PASTE_DATA
          (E.writeParcelable (PasteData.marshalling E) (some p)) c = some r
        ∧ r.op H = some (.setPasteData c p.received) := by
  have hw : Wire.Succeeds
      (E.writeParcelable (PasteData.marshalling E) (some p)) := by
    refine L.writeParcelable fun a ha => ?_
    injection ha with ha
    subst ha
    exact PasteData.succeeds_marshalling L hp.known
  obtain ⟨b, hb, hreq⟩ :=
    PasteboardServiceProxy.exists_request L SET_PASTE_DATA hw c
  obtain ⟨htoken, hbody⟩ := PasteboardServiceProxy.readInterfaceToken_request T
    (T.emits_writeParcelable (PasteData.emits_marshalling T p)) hb
  have hread : (E.readParcelable (PasteData.unmarshalling E)
      (E.readInterfaceToken b).2).1 = some p.received :=
    PasteData.readParcelable_items T hp hlen hbody
  refine ⟨⟨SET_PASTE_DATA, b, c⟩, hreq, ?_⟩
  unfold Request.op
  dsimp only
  rw [if_neg fun hne => hne htoken.symm]
  show (E.readParcelable (PasteData.unmarshalling E)
    (E.readInterfaceToken b).2).1.map _ = _
  rw [hread]
  rfl

/-- **Copying stores what one hop makes of the data**, under the caller's user
id and nowhere else. -/
theorem copy_stores (T : E.Faithful) (L : E.Lossless)
    {p : PasteData Uri Want} (hp : p.Complete)
    (hlen : p.getRecordCount ≤ MAX_RECORD_NUM) {c : Caller}
    (hu : H.getUserId c.uid ≠ ERROR_USERID)
    {s : PasteboardService Uri Want} (hs : s.AllDecoded) :
    ∃ o, PasteboardServiceProxy.setPasteData H c p s = some o
      ∧ o.service.AllDecoded
      ∧ o.service.clips[H.getUserId c.uid]? = some p.received := by
  obtain ⟨r, hreq, hop⟩ := exists_setPasteData_request H T L hp hlen c
  -- the request can be handled, and steps the service as its operation does
  obtain ⟨⟨s', os⟩, hstep⟩ :=
    Option.isSome_iff_exists.mp (step_isSome H hs r)
  have hs' : s'.AllDecoded := keeps_allDecoded H s r s' os hs hstep
  have hexec : (ServiceOp.setPasteData c p.received).exec H.toPlatform s
      = some (s', os) := by
    rw [Request.exec_request, hop] at hstep
    exact hstep
  obtain ⟨answer, hanswer, hs''⟩ := Option.map_eq_some_iff.mp hstep
  injection hs'' with hservice _
  refine ⟨⟨(), answer.service, answer.events⟩, ?_, ?_, ?_⟩
  · unfold PasteboardServiceProxy.setPasteData PasteboardServiceProxy.send
    rw [hreq]
    show (PasteboardServiceStub.onRemoteRequest H _ s).map _ = _
    rw [hanswer]
    rfl
  · show answer.service.AllDecoded
    rw [hservice]
    exact hs'
  · show answer.service.clips[_]? = _
    have heff : ServiceOp.clipEffect H.toPlatform (.setPasteData c p.received)
        = some (H.getUserId c.uid, some p.received) := if_neg hu
    rw [hservice, (ServiceOp.exec_spec hexec).clips, Register.assign_of_eq heff]

/-- **Requests that neither set nor clear `u`'s clip keep it.** -/
theorem run_keeps_clip {u : Int} {rs : List (Request E)}
    (hrs : ∀ r ∈ rs, H.getUserId r.caller.uid = u →
      r.code ≠ SET_PASTE_DATA ∧ r.code ≠ CLEAR_ALL)
    {s s' : PasteboardService Uri Want} {os : List Event}
    (hrun : (stubMachine H).run s rs = some (s', os)) :
    s'.clips[u]? = s.clips[u]? := by
  rw [Request.run_requests] at hrun
  have habs := (serviceMachine H.toPlatform).run_abs
    (fun (s : PasteboardService Uri Want) (v : Int) => s.clips[v]?)
    (Register.assign (ServiceOp.clipEffect H.toPlatform))
    (fun s op s' os' hstep => funext (ServiceOp.exec_spec hstep).clips) _ hrun
  -- no operation of the run assigns `u`'s key
  refine (congrFun habs u).trans ?_
  refine Register.foldl_assign_of_untouched _ _ ?_
  intro op hop w hw
  obtain ⟨r, hr, hrop⟩ := List.mem_filterMap.mp hop
  have hspec := Request.op_spec H hrop
  obtain ⟨huser, _, hcase⟩ := ServiceOp.clipEffect_eq_some hw
  have hu : H.getUserId r.caller.uid = u := by
    rw [← hspec.caller]
    exact huser
  obtain ⟨hset, hclear⟩ := hrs r hr hu
  rcases hcase with ⟨c, d, h, _⟩ | ⟨c, h, _⟩
  · exact hset (hspec.setPasteData c d h).1
  · exact hclear (hspec.clear c h)

/-- **The reply to a `GET_PASTE_DATA`** carries the caller's clip. -/
theorem onGetPasteData_of_clip (T : E.Faithful) (L : E.Lossless) {c : Caller}
    (hu : H.getUserId c.uid ≠ ERROR_USERID)
    {s : PasteboardService Uri Want} (hs : s.AllDecoded)
    {d : PasteData Uri Want} (hd : s.clips[H.getUserId c.uid]? = some d) :
    ∃ reply s' os, PasteboardServiceStub.onGetPasteData H c s
        = some ⟨(.ERR_OK, reply), s', os⟩
      ∧ T.fifo.unread reply = ⟨.presence, true⟩ :: d.items E := by
  have hdec : d.Decoded := hs _ d hd
  -- the service finds the clip
  obtain ⟨o, ho, hvalue⟩ :=
    (observes_clip hs.measurable c (P := H.toPlatform)).getPasteData {}
  rw [if_neg hu, hd] at hvalue
  -- the stub writes it into the reply
  have hw : Wire.Succeeds
      (E.writeParcelable (PasteData.marshalling E) (some d)) := by
    refine L.writeParcelable fun a ha => ?_
    injection ha with ha
    subst ha
    exact PasteData.succeeds_marshalling L hdec.complete.known
  obtain ⟨reply, hreply⟩ := hw E.wire.empty
  have hunread := T.emits_writeParcelable (PasteData.emits_marshalling T d)
    E.wire.empty reply hreply
  rw [T.fifo.unread_empty, List.nil_append] at hunread
  refine ⟨reply, o.service, o.events, ?_, hunread⟩
  show (s.getPasteData H.toPlatform c {}).map _ = _
  rw [ho]
  show some (if o.value.1 = true then _ else _) = _
  rw [hvalue, if_pos rfl, hreply]

/-- **Pasting delivers what one hop makes of the clip.** -/
theorem paste_delivers (T : E.Faithful) (L : E.Lossless) {c : Caller}
    (hu : H.getUserId c.uid ≠ ERROR_USERID)
    {s : PasteboardService Uri Want} (hs : s.AllDecoded)
    {d : PasteData Uri Want} (hd : s.clips[H.getUserId c.uid]? = some d)
    (out : PasteData Uri Want) :
    ∃ o, PasteboardServiceProxy.getPasteData H c out s = some o
      ∧ o.value = (true, d.received) := by
  have hdec : d.Decoded := hs _ d hd
  obtain ⟨b, hb, hreq⟩ := PasteboardServiceProxy.exists_request L GET_PASTE_DATA
    Wire.succeeds_skip c
  obtain ⟨htoken, _⟩ := PasteboardServiceProxy.readInterfaceToken_request T
    T.fifo.emits_skip hb
  obtain ⟨reply, s', os, hreply, hunread⟩ :=
    onGetPasteData_of_clip H T L hu hs hd
  have hanswer : PasteboardServiceStub.onRemoteRequest H
      (⟨GET_PASTE_DATA, b, c⟩ : Request E) s
        = some ⟨(.ERR_OK, reply), s', os⟩ := by
    have hfunc : PasteboardServiceStub.memberFunc H GET_PASTE_DATA
        = some fun c _ s => PasteboardServiceStub.onGetPasteData H c s := rfl
    rw [onRemoteRequest_of_token H htoken hfunc]
    exact hreply
  -- the proxy reads it
  have hread : (E.readParcelable (PasteData.unmarshalling E) reply).1
      = some d.received :=
    PasteData.readParcelable_items T hdec.complete hdec.count_le hunread
  refine ⟨⟨(true, d.received), s', os⟩, ?_, rfl⟩
  unfold PasteboardServiceProxy.getPasteData
  rw [hreq]
  show (PasteboardServiceStub.onRemoteRequest H _ s).map _ = _
  rw [hanswer]
  show some (if ErrCode.ERR_OK ≠ ErrCode.ERR_OK then _ else _) = _
  rw [if_neg fun hne => hne rfl, hread]

/-- **COPY AND PASTE.**  On a lossless FIFO transport, from any state the
service can reach: what a client of `u` copies is what a client of `u` pastes,
record for record and in order, whatever requests are handled in between that
neither set nor clear `u`'s clip. -/
theorem copy_paste (E : Ipc Uri Want) (T : E.Faithful) (L : E.Lossless)
    (H : Host E) (u : Int) (hu : u ≠ ERROR_USERID) (p : PasteData Uri Want)
    (hp : p.Complete) (hlen : p.getRecordCount ≤ MAX_RECORD_NUM)
    (copier paster : Caller) (hcopier : H.getUserId copier.uid = u)
    (hpaster : H.getUserId paster.uid = u) (before after : List (Request E))
    (hafter : ∀ r ∈ after, H.getUserId r.caller.uid = u →
      r.code ≠ SET_PASTE_DATA ∧ r.code ≠ CLEAR_ALL) :
    ∃ s os o s' os',
      (stubMachine H).run {} before = some (s, os)
        ∧ PasteboardServiceProxy.setPasteData H copier p s = some o
        ∧ (stubMachine H).run o.service after = some (s', os')
        ∧ ∀ out, ∃ o' q,
          PasteboardServiceProxy.getPasteData H paster out s' = some o'
            ∧ o'.value = (true, q) ∧ q.contents = p.contents := by
  obtain ⟨s, os, hbefore, hs⟩ :=
    run_allDecoded H before PasteboardService.allDecoded_empty
  -- copy
  have hne : H.getUserId copier.uid ≠ ERROR_USERID := by
    rw [hcopier]
    exact hu
  obtain ⟨o, ho, hs₁, hclip⟩ := copy_stores H T L hp hlen hne hs
  obtain ⟨s', os', hrun, hs'⟩ := run_allDecoded H after hs₁
  refine ⟨s, os, o, s', os', hbefore, ho, hrun, ?_⟩
  -- paste, what has been kept meanwhile
  intro out
  have hkept : s'.clips[H.getUserId paster.uid]? = some p.received := by
    rw [hpaster, run_keeps_clip H hafter hrun, ← hcopier]
    exact hclip
  have hne' : H.getUserId paster.uid ≠ ERROR_USERID := by
    rw [hpaster]
    exact hu
  obtain ⟨o', ho', hvalue⟩ := paste_delivers H T L hne' hs' hkept out
  exact ⟨o', p.received.received, ho', hvalue,
    PasteData.received_received_contents hp hlen
      (PasteData.received_decoded T L hp)⟩

/-- User 101 copies something else. -/
def otherCopy : Request (listIpc String String) where
  code := SET_PASTE_DATA
  data := (⟨.interfaceToken, DESCRIPTOR⟩ :: halfKnownParcel :
    List (Ipc.ParcelItem String String))
  caller := callerOf101

/-- User 101 copies something else between the copy and the paste of user
100. -/
theorem copy_paste_sample :
    ∃ s os o s' os',
      (stubMachine sampleHost).run {} [] = some (s, os)
        ∧ PasteboardServiceProxy.setPasteData sampleHost callerOf100
            PasteData.twoTexts s = some o
        ∧ (stubMachine sampleHost).run o.service
            [otherCopy] = some (s', os')
        ∧ ∀ out, ∃ o' q,
          PasteboardServiceProxy.getPasteData sampleHost callerOf100 out s'
              = some o'
            ∧ o'.value = (true, q)
            ∧ q.contents = PasteData.twoTexts.contents := by
  refine copy_paste (listIpc String String) (listIpc_faithful String String)
    (listIpc_lossless String String) sampleHost 100 (by decide)
    PasteData.twoTexts PasteData.twoTexts_complete (by decide)
    callerOf100 callerOf100 (by decide) (by decide) [] _ ?_
  intro r hr huser
  rw [List.mem_singleton.mp hr] at huser
  exact absurd huser (by decide)

end Pasteboard
