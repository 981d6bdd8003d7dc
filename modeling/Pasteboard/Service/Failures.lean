/-
  Pasteboard.Service.Failures
  ───────────────────────────
  **A FAILED REQUEST LEAVES NO TRACE.**

  A handler either fails before it calls the service, or has called
  `GetPasteData`, which changes neither clips nor registries and calls nobody
  (`onRemoteRequest_untouched`).  On the other side of the transport, a proxy
  that cannot write its request sends none, and a `GetPasteData` that fails
  leaves the caller's paste data alone.
-/
import Pasteboard.Service.Hostile

namespace Pasteboard

open Lib

variable {Uri Want : Type} {E : Ipc Uri Want}

/-! ## §1. The stub. -/

/-- The clips and the registries are as before, and no observer was called. -/
structure Untouched (s : PasteboardService Uri Want) (answer : Answer E) :
    Prop where
  clips : answer.service.clips = s.clips
  observerMap : answer.service.observerMap = s.observerMap
  quiet : ∀ u o, .onPasteboardChanged u o ∉ answer.events

theorem Untouched.of_same {s : PasteboardService Uri Want}
    (value : ErrCode × E.Parcel) : Untouched s ⟨value, s, []⟩ where
  clips := rfl
  observerMap := rfl
  quiet _ _ h := by cases h

/-- A handler that fails leaves the service as it was. -/
def FailsUntouched (s : PasteboardService Uri Want)
    (handled : Option (Answer E)) : Prop :=
  ∀ answer, handled = some answer → answer.value.1 ≠ .ERR_OK →
    Untouched s answer

theorem FailsUntouched.of_ok {s : PasteboardService Uri Want}
    (o : Outcome Uri Want Unit) :
    FailsUntouched s (some (PasteboardServiceStub.ok (E := E) o)) := by
  intro answer h hfail
  injection h with h
  subst h
  exact absurd rfl hfail

theorem FailsUntouched.of_same {s : PasteboardService Uri Want}
    (value : ErrCode × E.Parcel) :
    FailsUntouched s (some ⟨value, s, []⟩) := by
  intro answer h _
  injection h with h
  subst h
  exact Untouched.of_same value

namespace PasteboardServiceStub

variable [ToString Uri] (H : Host E) (c : Caller) (data : E.Parcel)
  (s : PasteboardService Uri Want)

/-- Whatever its status, a `GET_PASTE_DATA` leaves the service as it was. -/
theorem onGetPasteData_untouched {answer : Answer E}
    (h : onGetPasteData H c s = some answer) : Untouched s answer := by
  obtain ⟨o, ho, hanswer⟩ := Option.map_eq_some_iff.mp h
  obtain ⟨hclips, hobs, hrep, _⟩ := PasteboardService.getPasteData_cases ho
  -- all three branches return the service and the events of the operation
  have hsame : answer.service = o.service ∧ answer.events = o.events := by
    subst hanswer
    split
    · split <;> exact ⟨rfl, rfl⟩
    · exact ⟨rfl, rfl⟩
  refine ⟨?_, ?_, ?_⟩
  · rw [hsame.1, hclips]
  · rw [hsame.1, hobs]
  · intro u obs hmem
    rw [hsame.2] at hmem
    exact hrep _ hmem u obs rfl

omit [ToString Uri] in
theorem onHasPasteData_failsUntouched :
    FailsUntouched s (onHasPasteData H c s) := by
  intro answer h hfail
  injection h with h
  subst h
  exact absurd rfl hfail

theorem onSetPasteData_failsUntouched :
    FailsUntouched s (onSetPasteData H c data s) := by
  unfold onSetPasteData
  split
  · exact FailsUntouched.of_same _
  · intro answer h hfail
    obtain ⟨o, _, hanswer⟩ := Option.map_eq_some_iff.mp h
    exact FailsUntouched.of_ok o answer (congrArg some hanswer) hfail

omit [ToString Uri] in
theorem onObserver_failsUntouched
    (call : Option RemoteObject → Outcome Uri Want Unit) :
    FailsUntouched s (onObserver H call data s) := by
  unfold onObserver
  split
  · exact FailsUntouched.of_same _
  · split
    · exact FailsUntouched.of_same _
    · exact FailsUntouched.of_ok _

/-- **Every handler of the table.** -/
theorem memberFunc_failsUntouched {code : UInt32}
    {func : Caller → E.Parcel → PasteboardService Uri Want → Option (Answer E)}
    (h : memberFunc H code = some func) : FailsUntouched s (func c data s) := by
  unfold memberFunc at h
  split at h
  · injection h with h
    subst h
    exact fun answer hanswer _ => onGetPasteData_untouched H c s hanswer
  split at h
  · injection h with h
    subst h
    exact onHasPasteData_failsUntouched H c s
  split at h
  · injection h with h
    subst h
    exact onSetPasteData_failsUntouched H c data s
  split at h
  · injection h with h
    subst h
    exact FailsUntouched.of_ok _
  split at h
  · injection h with h
    subst h
    exact onObserver_failsUntouched H data s _
  split at h
  · injection h with h
    subst h
    exact onObserver_failsUntouched H data s _
  split at h
  · injection h with h
    subst h
    exact FailsUntouched.of_ok _
  · cases h

/-- **A request that fails leaves the service as it was**, whatever its code,
token, parcel and caller. -/
theorem onRemoteRequest_untouched (r : Request E) :
    FailsUntouched s (onRemoteRequest H r s) := by
  unfold onRemoteRequest
  dsimp only
  split
  · exact FailsUntouched.of_same _
  · split
    · next func hfunc => exact memberFunc_failsUntouched H r.caller _ s hfunc
    · exact FailsUntouched.of_same _

end PasteboardServiceStub

/-! ## §2. The proxy. -/

namespace PasteboardServiceProxy

/-- Where the arguments cannot be written behind the token, there is no
request. -/
theorem request_eq_none (code : UInt32) {write : E.Writer} (c : Caller)
    (h : ∀ b, E.writeInterfaceToken DESCRIPTOR E.wire.empty = some b →
      write b = none) : request code write c = none := by
  unfold request
  show ((E.writeInterfaceToken DESCRIPTOR E.wire.empty).bind write).map _ = none
  cases hb : E.writeInterfaceToken DESCRIPTOR E.wire.empty with
  | none => rfl
  | some b =>
      show (write b).map _ = none
      rw [h b hb]
      rfl

/-- **A record that cannot be written** makes the whole write fail, whatever
has been written before it. -/
theorem writeParcelable_of_record_failed {d : PasteData Uri Want}
    {pre post : List (Option (PasteDataRecord Uri Want))}
    {o : Option (PasteDataRecord Uri Want)} (hd : d.records = pre ++ o :: post)
    (ho : ∀ b, E.writeParcelable (PasteDataRecord.marshalling E) o b = none)
    (b : E.Parcel) :
    E.writeParcelable (PasteData.marshalling E) (some d) b = none := by
  -- the loop over the records stops at the first that fails
  have hlist : ∀ (pre : List (Option (PasteDataRecord Uri Want)))
      (b : E.Parcel),
      Wire.writeList (E.writeParcelable (PasteDataRecord.marshalling E))
        (pre ++ o :: post) b = none := by
    intro pre
    induction pre with
    | nil =>
        intro b
        show (E.writeParcelable _ o b).bind _ = none
        rw [ho b]
        rfl
    | cons o' pre ih =>
        intro b
        show (E.writeParcelable _ o' b).bind _ = none
        rw [Option.bind_eq_none_iff]
        intro b' _
        exact ih b'
  -- before it, the presence and the count
  show (E.wire.write .presence true b).bind (PasteData.marshalling E d) = none
  rw [Option.bind_eq_none_iff]
  intro b₁ _
  show (E.writeUint32 _ b₁).bind _ = none
  rw [Option.bind_eq_none_iff]
  intro b₂ _
  rw [hd]
  exact hlist pre b₂

end PasteboardServiceProxy

/-! ## §3. Both ends. -/

/-- What failures do in the state `s`. -/
structure FailuresInert [ToString Uri] (H : Host E)
    (s : PasteboardService Uri Want) : Prop where
  request : ∀ r, FailsUntouched s (PasteboardServiceStub.onRemoteRequest H r s)
  /-- A request for the data that cannot be written. -/
  getPasteData_unsent : ∀ c data,
    PasteboardServiceProxy.request (E := E) GET_PASTE_DATA some c = none →
      PasteboardServiceProxy.getPasteData H c data s
        = some ⟨(false, data), s, []⟩
  /-- A request for the data that fails. -/
  getPasteData_failed : ∀ c data r answer,
    PasteboardServiceProxy.request GET_PASTE_DATA some c = some r →
    PasteboardServiceStub.onRemoteRequest H r s = some answer →
    answer.value.1 ≠ .ERR_OK →
      PasteboardServiceProxy.getPasteData H c data s
        = some ⟨(false, data), answer.service, answer.events⟩
  /-- Data that cannot be written, wherever that fails. -/
  setPasteData_unsent : ∀ c d,
    (∀ b, E.writeInterfaceToken DESCRIPTOR E.wire.empty = some b →
      E.writeParcelable (PasteData.marshalling E) (some d) b = none) →
      PasteboardServiceProxy.request SET_PASTE_DATA
          (E.writeParcelable (PasteData.marshalling E) (some d)) c = none
        ∧ PasteboardServiceProxy.setPasteData H c d s = some ⟨(), s, []⟩
  /-- Data with a record that cannot be written, behind others that can. -/
  setPasteData_partWay : ∀ c d pre o post, d.records = pre ++ o :: post →
    (∀ b, E.writeParcelable (PasteDataRecord.marshalling E) o b = none) →
      PasteboardServiceProxy.setPasteData H c d s = some ⟨(), s, []⟩

/-- **FAILED REQUESTS LEAVE THE SERVICE INTACT.**  In every state a run of
requests can reach, every further request is answered; and in every state
whatever, one that fails leaves clips and registries as they were and calls no
observer, and the proxies' failures change nothing on either side. -/
theorem failures_inert [ToString Uri] (E : Ipc Uri Want) (H : Host E) :
    (∀ rs : List (Request E), ∃ s os, (stubMachine H).run {} rs = some (s, os)
        ∧ ∀ r, ∃ answer,
          PasteboardServiceStub.onRemoteRequest H r s = some answer)
      ∧ ∀ s, FailuresInert H s := by
  constructor
  · intro rs
    obtain ⟨s, os, hrun, hs⟩ :=
      run_allDecoded H rs PasteboardService.allDecoded_empty
    refine ⟨s, os, hrun, ?_⟩
    intro r
    have hstep := step_isSome H hs r
    rw [show (stubMachine H).step s r
      = (PasteboardServiceStub.onRemoteRequest H r s).map (·.step) from rfl,
      Option.isSome_map] at hstep
    exact Option.isSome_iff_exists.mp hstep
  · intro s
    have hunsent : ∀ c d,
        (∀ b, E.writeInterfaceToken DESCRIPTOR E.wire.empty = some b →
          E.writeParcelable (PasteData.marshalling E) (some d) b = none) →
        PasteboardServiceProxy.request SET_PASTE_DATA
            (E.writeParcelable (PasteData.marshalling E) (some d)) c = none
          ∧ PasteboardServiceProxy.setPasteData H c d s = some ⟨(), s, []⟩ := by
      intro c d hfail
      have hreq :=
        PasteboardServiceProxy.request_eq_none SET_PASTE_DATA c hfail
      refine ⟨hreq, ?_⟩
      unfold PasteboardServiceProxy.setPasteData PasteboardServiceProxy.send
      rw [hreq]
    refine ⟨?_, ?_, ?_, hunsent, ?_⟩
    · intro r
      exact PasteboardServiceStub.onRemoteRequest_untouched H s r
    · intro c data hreq
      unfold PasteboardServiceProxy.getPasteData
      rw [hreq]
    · intro c data r answer hreq hanswer hfail
      unfold PasteboardServiceProxy.getPasteData
      rw [hreq]
      show (PasteboardServiceStub.onRemoteRequest H r s).map _ = _
      rw [hanswer]
      show some (if answer.value.1 ≠ ErrCode.ERR_OK then _ else _) = _
      rw [if_pos hfail]
    · intro c d pre o post hd ho
      exact (hunsent c d fun b _ =>
        PasteboardServiceProxy.writeParcelable_of_record_failed hd ho b).2

end Pasteboard
