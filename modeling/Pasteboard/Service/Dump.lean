/-
  Pasteboard.Service.Dump
  ───────────────────────
  **WHOSE COPY DOES THE DUMP DESCRIBE?**

  `DunmpData` shows the record count and the MIME types of the clip of the
  greatest user id, with the owner and the time of the copy that was made
  last, by whomever, also by a caller without a user id.

    • `KeepsDump` — the operations after which both are still of one copy.
    • `dump_describes_one_call` — over every run of such operations, the dump
      describes one copy, whose clip is still stored, or says that there is
      none.
-/
import Pasteboard.Service.Store
import Pasteboard.Data.History
import Pasteboard.Lib.Capped

namespace Pasteboard

open Lib

variable {Uri Want : Type}

/-! ## §1. The dump. -/

namespace PasteboardService

/-- The text of the dump of a clip. -/
def dumpText (bundleName timeForLastCopy : String) (recordCounts : Nat)
    (mimeTypes : List String) : String :=
  let result :=
    "|Owner       :  " ++ bundleName ++ "\n"
      ++ "|Timestamp   :  " ++ timeForLastCopy ++ "\n"
      ++ "|Share Option: " ++ " CrossDevice" ++ "\n"
      ++ "|Record Count:  " ++ toString recordCounts ++ "\n"
      ++ "|Mime types  :  \x7b"
  let result := mimeTypes.foldl (fun result m => result ++ m ++ ",") result
  result ++ "\x7d"

def NO_COPY_DATA : String := "No copy data." ++ "\n"

def dunmpData (P : Platform) (s : PasteboardService Uri Want) : Option String :=
  match s.lastClip with
  | none => some NO_COPY_DATA
  | some clip =>
      clip.getMimeTypes.map fun mimeTypes =>
        -- owner and time are those of the last copy, not of this clip
        dumpText (P.bundleName s.uIdForLastCopy) s.timeForLastCopy
          clip.getRecordCount mimeTypes

end PasteboardService

/-! ## §2. What it should describe. -/

/-- A `SetPasteData` of the run whose clip is still stored: its user has made
no other, and no `Clear`, since. -/
def StoredCall (P : Platform) (ops : List (ServiceOp Uri Want)) (c : Caller)
    (d : PasteData Uri Want) : Prop :=
  P.getUserId c.uid ≠ ERROR_USERID
    ∧ ∃ pre post, ops = pre ++ .setPasteData c d :: post
      ∧ ∀ op ∈ post, op.userId P = P.getUserId c.uid → ¬ op.Assigns

/-- The dump says that there is nothing, or shows owner, time, record count and
MIME types of one call whose clip is still stored. -/
def DescribesOneCall (P : Platform) (ops : List (ServiceOp Uri Want))
    (s : PasteboardService Uri Want) : Prop :=
  s.dunmpData P = some PasteboardService.NO_COPY_DATA
    ∨ ∃ c d mimeTypes, StoredCall P ops c d
      ∧ s.clips[P.getUserId c.uid]? = some d
      ∧ d.getMimeTypes = some mimeTypes
      ∧ s.dunmpData P = some (PasteboardService.dumpText (P.bundleName c.uid)
          (getTime c.clock) d.getRecordCount mimeTypes)

/-- A copy by a user below none that has a clip, of data without null pointers;
a copy by a caller without user id where there is no clip; a `Clear` that
leaves the greatest user id, or nothing. -/
def KeepsDump (P : Platform) (s : PasteboardService Uri Want) :
    ServiceOp Uri Want → Prop
  | .setPasteData c d =>
      if P.getUserId c.uid = ERROR_USERID then s.clips.keys = []
      else none ∉ d.allRecords ∧ ∀ v ∈ s.clips.keys, v ≤ P.getUserId c.uid
  | .clear c =>
      P.getUserId c.uid ∈ s.clips.keys →
        (∃ v ∈ s.clips.keys, P.getUserId c.uid < v)
          ∨ ∀ v ∈ s.clips.keys, v = P.getUserId c.uid
  | _ => True

theorem StoredCall.append {P : Platform} {ops : List (ServiceOp Uri Want)}
    {c : Caller} {d : PasteData Uri Want} (h : StoredCall P ops c d)
    {op : ServiceOp Uri Want}
    (hop : op.userId P = P.getUserId c.uid → ¬ op.Assigns) :
    StoredCall P (ops ++ [op]) c d := by
  obtain ⟨hu, pre, post, heq, hpost⟩ := h
  refine ⟨hu, pre, post ++ [op], ?_, ?_⟩
  · rw [heq, List.append_assoc]
    rfl
  · intro op' hop'
    rcases List.mem_append.mp hop' with h | h
    · exact hpost op' h
    · rw [List.mem_singleton.mp h]
      exact hop

/-! ## §3. What the operations note for the dump. -/

/-- Who made the last copy, when, and the access history. -/
structure Notes where
  uid : Int
  time : String
  history : List String

/-- The entry `SetPasteboardHistory` makes for a call. -/
def historyEntry (P : Platform) (c : Caller) (state : String) : String :=
  getTime c.clock ++ "  " ++ P.bundleName c.uid ++ "    " ++ state

/-- The history after a call. -/
def Notes.record (n : Notes) (P : Platform) (c : Caller) (state : String) :
    Notes :=
  { n with history :=
      pushBack DATA_HISTORY_SIZE n.history (historyEntry P c state) }

/-- The notes after an operation. -/
def ServiceOp.notes (P : Platform) (n : Notes) : ServiceOp Uri Want → Notes
  | .setPasteData c _ =>
      { n with uid := c.uid, time := getTime c.clock }.record P c "Set"
  | .getPasteData c _ => n.record P c "Get"
  | _ => n

/-- Who made the last copy, and when, after the operation. -/
def ServiceOp.lastCopy (last : Int × String) :
    ServiceOp Uri Want → Int × String
  | .setPasteData c _ => (c.uid, getTime c.clock)
  | _ => last

namespace PasteboardService

variable {P : Platform} {c : Caller} {s : PasteboardService Uri Want}

def notes (s : PasteboardService Uri Want) : Notes :=
  ⟨s.uIdForLastCopy, s.timeForLastCopy, s.dataHistory⟩

/-- Who made the last copy, and when. -/
def lastCopy (s : PasteboardService Uri Want) : Int × String :=
  (s.uIdForLastCopy, s.timeForLastCopy)

theorem setPasteboardHistory_notes (state : String) :
    (s.setPasteboardHistory P c.uid state (getTime c.clock)).notes
      = s.notes.record P c state := rfl

theorem setPasteData_notes [ToString Uri] {d : PasteData Uri Want}
    {o : Outcome Uri Want Unit} (h : s.setPasteData P c d = some o) :
    o.service.notes = (ServiceOp.setPasteData c d).notes P s.notes := by
  obtain ⟨x, hx, ho⟩ := Option.map_eq_some_iff.mp h
  obtain ⟨n, _, hn⟩ := Option.map_eq_some_iff.mp hx
  subst ho hn
  dsimp only
  split <;> rfl

theorem getPasteDataDot_notes [ToString Uri]
    {x : PasteboardService Uri Want × List Event}
    (h : s.getPasteDataDot P c = some x) :
    x.1.notes = s.notes.record P c "Get" := by
  rw [← setPasteboardHistory_notes]
  unfold getPasteDataDot at h
  dsimp only at h
  split at h
  · injection h with h
    subst h
    rfl
  · obtain ⟨n, _, hn⟩ := Option.map_eq_some_iff.mp h
    subst hn
    rfl

theorem getPasteData_notes [ToString Uri] {data : PasteData Uri Want}
    {o : Outcome Uri Want (Bool × PasteData Uri Want)}
    (h : s.getPasteData P c data = some o) :
    o.service.notes = s.notes.record P c "Get" := by
  obtain ⟨x, hx, ho⟩ := Option.map_eq_some_iff.mp h
  rw [← getPasteDataDot_notes hx, ← ho]
  split
  · rfl
  · split <;> rfl

theorem clear_notes : (s.clear P c).service.notes = s.notes := by
  unfold clear
  dsimp only
  split
  · rfl
  · split <;> rfl

theorem addPasteboardChangedObserver_notes (o : Option RemoteObject) :
    (s.addPasteboardChangedObserver P c o).service.notes = s.notes := by
  unfold addPasteboardChangedObserver
  split
  · rfl
  · dsimp only
    split <;> rfl

theorem removePasteboardChangedObserver_notes (o : Option RemoteObject) :
    (s.removePasteboardChangedObserver P c o).service.notes = s.notes := by
  unfold removePasteboardChangedObserver
  split
  · rfl
  · dsimp only
    split
    · rfl
    · split <;> rfl

theorem removeAllChangedObserver_notes :
    (s.removeAllChangedObserver P c).service.notes = s.notes := by
  unfold removeAllChangedObserver
  dsimp only
  split
  · rfl
  · split <;> rfl

end PasteboardService

variable [ToString Uri] {P : Platform} {s s' : PasteboardService Uri Want}
  {os : List Event}

/-- **What each operation notes**: a `SetPasteData` the copy and an entry, a
`GetPasteData` an entry, whoever makes it and whatever comes of it; nothing
else notes anything. -/
theorem exec_notes {op : ServiceOp Uri Want}
    (h : op.exec P s = some (s', os)) : s'.notes = op.notes P s.notes := by
  cases op with
  | setPasteData c d =>
      obtain ⟨o, ho, hs, _⟩ := Outcome.of_map_step h
      subst hs
      exact PasteboardService.setPasteData_notes ho
  | getPasteData c data =>
      obtain ⟨o, ho, hs, _⟩ := Outcome.of_map_step h
      subst hs
      exact PasteboardService.getPasteData_notes ho
  | hasPasteData c =>
      injection h with h
      rw [PasteboardService.hasPasteData_service] at h
      injection h with hs _
      subst hs
      rfl
  | clear c =>
      obtain ⟨hs, _⟩ := Outcome.of_step h
      subst hs
      exact PasteboardService.clear_notes
  | addPasteboardChangedObserver c o =>
      obtain ⟨hs, _⟩ := Outcome.of_step h
      subst hs
      exact PasteboardService.addPasteboardChangedObserver_notes o
  | removePasteboardChangedObserver c o =>
      obtain ⟨hs, _⟩ := Outcome.of_step h
      subst hs
      exact PasteboardService.removePasteboardChangedObserver_notes o
  | removeAllChangedObserver c =>
      obtain ⟨hs, _⟩ := Outcome.of_step h
      subst hs
      exact PasteboardService.removeAllChangedObserver_notes

/-- **A `SetPasteData` sets the fields of the last copy**, whoever makes it;
nothing else touches them. -/
theorem exec_lastCopy {op : ServiceOp Uri Want}
    (h : op.exec P s = some (s', os)) :
    s'.lastCopy = op.lastCopy s.lastCopy := by
  have hnotes := congrArg (fun n : Notes => (n.uid, n.time)) (exec_notes h)
  cases op with
  | _ => exact hnotes

/-! ## §4. The last copy is the clip that is shown. -/

/-- No clip is stored; or the last copy is stored, its user has the greatest
user id that has a clip, and its data have no null pointer. -/
def LastCopyShown (P : Platform) (ops : List (ServiceOp Uri Want))
    (s : PasteboardService Uri Want) : Prop :=
  s.clips.keys = []
    ∨ ∃ c d, StoredCall P ops c d ∧ s.clips[P.getUserId c.uid]? = some d
      ∧ (∀ v ∈ s.clips.keys, v ≤ P.getUserId c.uid)
      ∧ s.lastCopy = (c.uid, getTime c.clock)
      ∧ none ∉ d.allRecords

theorem keys_subset {op : ServiceOp Uri Want}
    (h : ServiceOp.StepSpec P op s s' os) {v : Int} (hv : v ∈ s'.clips.keys) :
    v ∈ s.clips.keys
      ∨ v ≠ ERROR_USERID ∧ op.userId P = v ∧ ∃ c d, op = .setPasteData c d := by
  obtain ⟨d, hd⟩ := (OrderedMap.mem_keys_iff _ v).mp hv
  rcases h.clips_cases hd with hold | ⟨hne, huser, c, hop⟩
  · exact Or.inl ((OrderedMap.mem_keys_iff _ v).mpr ⟨d, hold⟩)
  · exact Or.inr ⟨hne, huser, c, d, hop⟩

/-- A copy that keeps the dump is the one that is shown then. -/
theorem lastCopyShown_of_set {ops : List (ServiceOp Uri Want)} {c : Caller}
    {d : PasteData Uri Want} (hkeep : KeepsDump P s (.setPasteData c d))
    (hstep : (ServiceOp.setPasteData c d).exec P s = some (s', os)) :
    LastCopyShown P (ops ++ [.setPasteData c d]) s' := by
  have hspec := ServiceOp.exec_spec hstep
  simp only [KeepsDump] at hkeep
  by_cases hu : P.getUserId c.uid = ERROR_USERID
  · -- nothing is stored, before and after
    rw [if_pos hu] at hkeep
    refine Or.inl (List.eq_nil_iff_forall_not_mem.mpr ?_)
    intro v hv
    rcases keys_subset hspec hv with hold | ⟨hne, huser, _⟩
    · rw [hkeep] at hold
      cases hold
    · exact hne (huser.symm.trans hu)
  · rw [if_neg hu] at hkeep
    have hcall : StoredCall P (ops ++ [.setPasteData c d]) c d :=
      ⟨hu, ops, [], rfl, fun _ hmem => absurd hmem List.not_mem_nil⟩
    refine Or.inr ⟨c, d, hcall, ?_, ?_, ?_, hkeep.1⟩
    · have heff : ServiceOp.clipEffect P (.setPasteData c d)
          = some (P.getUserId c.uid, some d) := if_neg hu
      rw [hspec.clips, Register.assign_of_eq heff]
    · intro v hv
      rcases keys_subset hspec hv with hold | ⟨_, huser, _⟩
      · exact hkeep.2 v hold
      · exact Int.le_of_eq huser.symm
    · exact exec_lastCopy hstep

/-- An operation that is no copy gives nobody a clip. -/
theorem keys_subset_of_not_set {op : ServiceOp Uri Want}
    (hset : ∀ c d, op ≠ .setPasteData c d)
    (h : ServiceOp.StepSpec P op s s' os) {v : Int} (hv : v ∈ s'.clips.keys) :
    v ∈ s.clips.keys := by
  rcases keys_subset h hv with hold | ⟨_, _, c, d, hop⟩
  · exact hold
  · exact absurd hop (hset c d)

/-- A `Clear` of the clip that is shown, if it keeps the dump, leaves no clip:
it was the only one. -/
theorem keys_eq_nil_of_clear {c : Caller}
    (hclip : P.getUserId c.uid ∈ s.clips.keys)
    (hu : P.getUserId c.uid ≠ ERROR_USERID)
    (hmax : ∀ v ∈ s.clips.keys, v ≤ P.getUserId c.uid)
    (hkeep : KeepsDump P s (.clear c))
    (hspec : ServiceOp.StepSpec P (.clear c) s s' os) : s'.clips.keys = [] := by
  have hset : ∀ c' d, (.clear c : ServiceOp Uri Want) ≠ .setPasteData c' d := by
    intro c' d h
    cases h
  refine List.eq_nil_iff_forall_not_mem.mpr ?_
  intro v hv
  rcases hkeep hclip with ⟨w, hw, hlt⟩ | hsole
  · have hle := hmax w hw
    omega
  · have hvu := hsole v (keys_subset_of_not_set hset hspec hv)
    have heff : ServiceOp.clipEffect P (.clear c : ServiceOp Uri Want)
        = some (P.getUserId c.uid, none) := if_neg hu
    obtain ⟨d, hd⟩ := (OrderedMap.mem_keys_iff _ v).mp hv
    rw [hvu, hspec.clips, Register.assign_of_eq heff] at hd
    cases hd

/-- Any other operation that keeps the dump leaves that copy there, or
nothing. -/
theorem lastCopyShown_of_not_set {ops : List (ServiceOp Uri Want)}
    {op : ServiceOp Uri Want} (hset : ∀ c d, op ≠ .setPasteData c d)
    (h : LastCopyShown P ops s) (hkeep : KeepsDump P s op)
    (hstep : op.exec P s = some (s', os)) :
    LastCopyShown P (ops ++ [op]) s' := by
  have hspec := ServiceOp.exec_spec hstep
  rcases h with hempty | ⟨c, d, hcall, hclip, hmax, hcopy, hnull⟩
  · refine Or.inl (List.eq_nil_iff_forall_not_mem.mpr ?_)
    intro v hv
    have hold := keys_subset_of_not_set hset hspec hv
    rw [hempty] at hold
    cases hold
  · by_cases hclear : op.userId P = P.getUserId c.uid ∧ op.Assigns
    · -- the clip that is shown is cleared
      obtain ⟨huser, hassigns⟩ := hclear
      have hin : P.getUserId c.uid ∈ s.clips.keys :=
        (OrderedMap.mem_keys_iff _ _).mpr ⟨d, hclip⟩
      cases op with
      | clear c' =>
          have hown : P.getUserId c'.uid = P.getUserId c.uid := huser
          rw [← hown] at hin hmax
          refine Or.inl (keys_eq_nil_of_clear hin ?_ hmax hkeep hspec)
          rw [hown]
          exact hcall.1
      | setPasteData c' d' => exact absurd rfl (hset c' d')
      | _ => exact absurd hassigns fun hno => hno
    · -- the clip that is shown stays
      refine Or.inr ⟨c, d, ?_, ?_, ?_, ?_, hnull⟩
      · exact hcall.append fun huser hassigns => hclear ⟨huser, hassigns⟩
      · rw [hspec.clips, Register.assign_of_ne]
        · exact hclip
        · intro w hw
          obtain ⟨huser, _, hcase⟩ := ServiceOp.clipEffect_eq_some hw
          refine hclear ⟨huser, ?_⟩
          rcases hcase with ⟨c', d', hop, _⟩ | ⟨c', hop, _⟩
          · exact absurd hop (hset c' d')
          · subst hop
            trivial
      · intro v hv
        exact hmax v (keys_subset_of_not_set hset hspec hv)
      · rw [exec_lastCopy hstep, ← hcopy]
        cases op with
        | setPasteData c' d' => exact absurd rfl (hset c' d')
        | _ => rfl

omit [ToString Uri] in
/-- **What is shown is described.** -/
theorem LastCopyShown.describes {ops : List (ServiceOp Uri Want)}
    (h : LastCopyShown P ops s) : DescribesOneCall P ops s := by
  rcases h with hempty | ⟨c, d, hcall, hclip, hmax, hcopy, hnull⟩
  · refine Or.inl ?_
    have hnone : s.lastClip = none := by
      unfold PasteboardService.lastClip
      rw [← Std.TreeMap.map_fst_toList_eq_keys, List.map_eq_nil_iff] at hempty
      rw [hempty]
      rfl
    unfold PasteboardService.dunmpData
    rw [hnone]
  · refine Or.inr ?_
    have hlast : s.lastClip = some d := by
      unfold PasteboardService.lastClip
      rw [OrderedMap.getLast?_toList s.clips hclip]
      · rfl
      · intro v hv hlt
        have hle := hmax v hv
        rw [Int.compare_eq_lt] at hlt
        omega
    have hrs := PasteData.eq_map_some d.records hnull
    have hmimes := PasteData.getMimeTypes_of_some d _ hrs
    injection hcopy with huid htime
    refine ⟨c, d, _, hcall, hclip, hmimes, ?_⟩
    unfold PasteboardService.dunmpData
    rw [hlast, huid, htime]
    show d.getMimeTypes.map _ = _
    rw [hmimes]
    rfl

/-- **OWNER, TIME, COUNT AND TYPES OF ONE COPY.**  In every state of a run
whose operations meet `KeepsDump`, the dump describes one copy made until then
whose clip is still stored, or says that there is none. -/
theorem dump_describes_one_call (P : Platform) (ops : List (ServiceOp Uri Want))
    (hops : (serviceMachine P).AllSteps (KeepsDump P) {} ops)
    (pre post : List (ServiceOp Uri Want)) (heq : ops = pre ++ post)
    (s : PasteboardService Uri Want) (os : List Event)
    (hrun : (serviceMachine P).run {} pre = some (s, os)) :
    DescribesOneCall P pre s := by
  subst heq
  refine LastCopyShown.describes ?_
  refine (serviceMachine P).history_of_allSteps (LastCopyShown P) ?_ ?_ pre
    hrun hops.left
  · exact Or.inl rfl
  · intro ops s op s' os hshown hkeep hstep
    by_cases hset : ∃ c d, op = .setPasteData c d
    · obtain ⟨c, d, hop⟩ := hset
      subst hop
      exact lastCopyShown_of_set hkeep hstep
    · refine lastCopyShown_of_not_set ?_ hshown hkeep hstep
      intro c d hop
      exact hset ⟨c, d, hop⟩

/-- The users 100 and 101 copy, and the first clears. -/
def copiesAndClear : List (ServiceOp String String) :=
  [.setPasteData callerOf100 (PasteboardClient.createPlainTextData "a"),
    .setPasteData callerOf101 (PasteboardClient.createPlainTextData "b"),
    .clear callerOf100]

theorem dump_describes_two_copies :
    ∃ s os, (serviceMachine samplePlatform).run {} copiesAndClear = some (s, os)
      ∧ DescribesOneCall samplePlatform copiesAndClear s := by
  refine ⟨_, _, rfl, ?_⟩
  refine dump_describes_one_call samplePlatform copiesAndClear ?_ _ []
    (List.append_nil _).symm _ _ rfl
  refine ((serviceMachine samplePlatform).allSteps_cons rfl).mpr ⟨?_, ?_⟩
  · show _ ∧ _
    decide
  refine ((serviceMachine samplePlatform).allSteps_cons rfl).mpr ⟨?_, ?_⟩
  · show _ ∧ _
    decide
  refine ((serviceMachine samplePlatform).allSteps_cons rfl).mpr ⟨?_, ?_⟩
  · intro _
    decide
  · exact (serviceMachine samplePlatform).allSteps_nil _ _

/-- One bundle name to each of the two callers. -/
def namedPlatform : Platform :=
  { samplePlatform with
    getBundleNameForUid := fun uid =>
      if uid = callerOf100.uid then some "app.of.user100"
      else some "app.of.user101" }

/-- **The owner of one copy, and the MIME types of another.**  The user 101
copies a plain text and then the user 100 an HTML text: the dump shows the
owner of the second and the types of the first. -/
theorem dump_mixes_two_copies :
    ¬ ∀ (P : Platform) (ops : List (ServiceOp String String))
        (s : PasteboardService String String) (os : List Event),
      (serviceMachine P).run {} ops = some (s, os) →
        DescribesOneCall P ops s := by
  intro h
  have hdump := h namedPlatform
    [.setPasteData callerOf101 (PasteboardClient.createPlainTextData "a"),
      .setPasteData callerOf100 (PasteboardClient.createHtmlData "b")]
    _ _ rfl
  rcases hdump with hempty | ⟨c, d, mimeTypes, hcall, _, hmimes, hout⟩
  · revert hempty
    decide
  · obtain ⟨_, pre, post, heq, _⟩ := hcall
    have hmem : ServiceOp.setPasteData c d ∈
        ([.setPasteData callerOf101 (PasteboardClient.createPlainTextData "a"),
          .setPasteData callerOf100 (PasteboardClient.createHtmlData "b")] :
          List (ServiceOp String String)) := by
      rw [heq]
      exact List.mem_append_right pre List.mem_cons_self
    simp only [List.mem_cons, List.not_mem_nil, or_false,
      ServiceOp.setPasteData.injEq] at hmem
    rcases hmem with ⟨hc, hd⟩ | ⟨hc, hd⟩ <;> subst hc hd
    · -- the first has another owner
      injection hmimes with hmimes
      subst hmimes
      revert hout
      decide
    · -- the second has other types
      injection hmimes with hmimes
      subst hmimes
      revert hout
      decide

end Pasteboard
