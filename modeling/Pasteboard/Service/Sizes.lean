/-
  Pasteboard.Service.Sizes
  ────────────────────────
  **THE SIZE THAT IS REPORTED.**

  `GetDataSize` measures one record, the last; and a `GetPasteData` measures
  the clip of the greatest user id, before it asks who the caller is.

    • `getDataSize_eq_total_iff` — the size of the last record is that of all
      records where the others have empty texts.
    • `sizes_right_iff` — when the report of a `SetPasteData`, and that of a
      `GetPasteData`, is the size of the data concerned.
-/
import Pasteboard.Service.Store

namespace Pasteboard

open Lib

variable {Uri Want : Type} [ToString Uri]

/-! ## §1. The total and the last. -/

namespace PasteData

/-- The length of the texts of all records, which a null pointer among them
does not have. -/
def totalTextLength : List (Option (PasteDataRecord Uri Want)) → Option Nat
  | [] => some 0
  | none :: _ => none
  | some r :: rs =>
      (totalTextLength rs).map (r.convertToText.length + ·)

/-- All records have a text, and only that of the last is not empty. -/
def OnlyLastHasText (d : PasteData Uri Want) : Prop :=
  none ∉ d.allRecords
    ∧ ∀ r, some r ∈ d.allRecords.dropLast → r.convertToText = ""

theorem totalTextLength_append :
    ∀ xs ys : List (Option (PasteDataRecord Uri Want)),
      totalTextLength (xs ++ ys)
        = (totalTextLength xs).bind fun n => (totalTextLength ys).map (n + ·) := by
  intro xs
  induction xs with
  | nil =>
      intro ys
      simp [totalTextLength]
  | cons o xs ih =>
      intro ys
      cases o with
      | none => rfl
      | some r =>
          show (totalTextLength (xs ++ ys)).map _
            = ((totalTextLength xs).map _).bind _
          rw [ih]
          cases totalTextLength xs <;> cases totalTextLength ys <;>
            simp [Nat.add_assoc]

/-- Nothing has a text exactly where every record has an empty one. -/
theorem totalTextLength_eq_zero_iff :
    ∀ os : List (Option (PasteDataRecord Uri Want)),
      totalTextLength os = some 0
        ↔ none ∉ os ∧ ∀ r, some r ∈ os → r.convertToText = "" := by
  intro os
  induction os with
  | nil => simp [totalTextLength]
  | cons o os ih =>
      cases o with
      | none => simp [totalTextLength]
      | some r =>
          simp only [totalTextLength, Option.map_eq_some_iff]
          constructor
          · intro hyp
            obtain ⟨n, hn, hsum⟩ := hyp
            have hzero : n = 0 := by omega
            have hlen : r.convertToText.length = 0 := by omega
            subst hzero
            have hrest := ih.mp hn
            refine ⟨by simp [hrest.1], ?_⟩
            intro r' hr'
            rcases List.mem_cons.mp hr' with h | h
            · injection h with h
              subst h
              exact String.length_eq_zero_iff.mp hlen
            · exact hrest.2 r' h
          · intro hyp
            obtain ⟨hnone, hall⟩ := hyp
            refine ⟨0, ih.mpr ⟨?_, ?_⟩, ?_⟩
            · exact fun h => hnone (List.mem_cons_of_mem _ h)
            · exact fun r' h => hall r' (List.mem_cons_of_mem _ h)
            · rw [hall r List.mem_cons_self]
              rfl

end PasteData

namespace PasteboardService

/-- The size of data that end in a given entry. -/
theorem getDataSize_of_append {d : PasteData Uri Want}
    {os : List (Option (PasteDataRecord Uri Want))}
    {o : Option (PasteDataRecord Uri Want)} (h : d.records = os ++ [o]) :
    getDataSize d = o.map fun r => r.convertToText.length := by
  have hcount : d.records.length = os.length + 1 := by simp [h]
  unfold getDataSize PasteData.getRecordCount PasteData.getRecordAt
  rw [if_pos (by omega), if_pos (by omega), hcount, Nat.add_sub_cancel, h,
    List.getElem?_append_right (Nat.le_refl _), Nat.sub_self]
  cases o <;> rfl

/-- **The size of the last record is that of all**, where the others have empty
texts, and only there. -/
theorem getDataSize_eq_total_iff (d : PasteData Uri Want) :
    (∃ n, getDataSize d = some n ∧ PasteData.totalTextLength d.records = some n)
      ↔ d.OnlyLastHasText := by
  unfold PasteData.OnlyLastHasText PasteData.allRecords
  rcases List.eq_nil_or_concat d.records with h | ⟨os, o, h⟩
  · -- no records at all: both are zero
    refine iff_of_true ⟨0, ?_, ?_⟩ ?_
    · unfold getDataSize PasteData.getRecordCount
      rw [if_neg (by simp [h])]
      rfl
    · rw [h]
      rfl
    · simp [h]
  · rw [List.concat_eq_append] at h
    rw [getDataSize_of_append h, h, PasteData.totalTextLength_append,
      List.dropLast_concat]
    have hzero := PasteData.totalTextLength_eq_zero_iff os
    cases o with
    | none => simp
    | some r =>
        simp only [PasteData.totalTextLength, Option.map_some, Nat.add_zero,
          Option.some.injEq, exists_eq_left', Option.bind_eq_some_iff,
          List.mem_append, List.mem_singleton, or_false, reduceCtorEq]
        rw [← hzero]
        constructor
        · intro hyp
          obtain ⟨n, hn, hsum⟩ := hyp
          have hn0 : n = 0 := by omega
          rw [hn, hn0]
        · intro htotal
          exact ⟨0, htotal, by omega⟩

end PasteboardService

/-! ## §2. What one operation reports. -/

/-- The sizes a `CalculateTimeConsuming` is constructed with. -/
def reportedSizes (os : List Event) : List Nat :=
  os.filterMap fun e =>
    match e with
    | .timeConsuming calPasteboardData _ => some calPasteboardData
    | _ => none

/-- The length of the text of the last record, `0` where there is none. -/
def PasteData.lastTextLength (d : PasteData Uri Want) : Nat :=
  (d.records.getLast?.join.map fun r => r.convertToText.length).getD 0

namespace PasteboardService

variable {P : Platform} {c : Caller} {s : PasteboardService Uri Want}

theorem lastTextLength_of_getDataSize {d : PasteData Uri Want} {n : Nat}
    (h : getDataSize d = some n) : d.lastTextLength = n := by
  unfold PasteData.lastTextLength
  rcases List.eq_nil_or_concat d.records with hd | ⟨os, o, hd⟩
  · unfold getDataSize PasteData.getRecordCount at h
    rw [if_neg (by simp [hd])] at h
    injection h with h
    rw [hd, ← h]
    rfl
  · rw [List.concat_eq_append] at hd
    rw [getDataSize_of_append hd] at h
    rw [hd, List.getLast?_concat]
    show (o.map _).getD 0 = n
    rw [h]
    rfl

omit [ToString Uri] in
theorem reportedSizes_notifyObservers (s : PasteboardService Uri Want) :
    reportedSizes s.notifyObservers = [] := by
  unfold reportedSizes notifyObservers
  rw [List.filterMap_eq_nil_iff]
  intro e he
  obtain ⟨x, _, hx⟩ := List.mem_flatMap.mp he
  obtain ⟨o, _, ho⟩ := List.mem_map.mp hx
  subst ho
  rfl

/-- A `SetPasteData` reports the size of the data, once. -/
theorem setPasteData_sizes {d : PasteData Uri Want}
    {o : Outcome Uri Want Unit} (h : s.setPasteData P c d = some o) :
    ∃ n, getDataSize d = some n ∧ reportedSizes o.events = [n] := by
  obtain ⟨x, hx, ho⟩ := Option.map_eq_some_iff.mp h
  obtain ⟨n, hn, hxe⟩ := Option.map_eq_some_iff.mp hx
  refine ⟨n, hn, ?_⟩
  subst ho hxe
  split
  · rfl
  · show reportedSizes (_ ++ notifyObservers _) = [n]
    unfold reportedSizes
    rw [List.filterMap_append]
    show [n] ++ reportedSizes _ = [n]
    rw [reportedSizes_notifyObservers, List.append_nil]

/-- A `GetPasteData` reports the size of the last clip, where there is one. -/
theorem getPasteData_sizes {data : PasteData Uri Want}
    {o : Outcome Uri Want (Bool × PasteData Uri Want)}
    (h : s.getPasteData P c data = some o) :
    (s.lastClip = none ∧ reportedSizes o.events = [])
      ∨ ∃ g n, s.lastClip = some g ∧ getDataSize g = some n
          ∧ reportedSizes o.events = [n] := by
  obtain ⟨x, hx, ho⟩ := Option.map_eq_some_iff.mp h
  have hevents : o.events = x.2 := by
    subst ho
    split
    · rfl
    · split <;> rfl
  rw [hevents]
  have hlast : (s.setPasteboardHistory P c.uid "Get" (getTime c.clock)).lastClip
      = s.lastClip := rfl
  unfold getPasteDataDot at hx
  dsimp only at hx
  rw [hlast] at hx
  split at hx
  · next hnone =>
      injection hx with hx
      subst hx
      exact Or.inl ⟨hnone, rfl⟩
  · next g hg =>
      obtain ⟨n, hn, hx⟩ := Option.map_eq_some_iff.mp hx
      subst hx
      exact Or.inr ⟨g, n, hg, hn, rfl⟩

end PasteboardService

/-! ## §3. When it is the right size. -/

/-- A `SetPasteData` of `d` reports the total of `d`. -/
def SetReportsTotal (P : Platform) (s : PasteboardService Uri Want) (c : Caller)
    (d : PasteData Uri Want) : Prop :=
  ∃ o n, s.setPasteData P c d = some o
    ∧ PasteData.totalTextLength d.records = some n
    ∧ reportedSizes o.events = [n]

/-- A `GetPasteData` reports the total of what it delivers, and nothing where
it delivers nothing. -/
def GetReportsTotal (P : Platform) (s : PasteboardService Uri Want) (c : Caller)
    (data : PasteData Uri Want) : Prop :=
  ∃ o, s.getPasteData P c data = some o
    ∧ (o.value.1 = true →
        ∃ n, PasteData.totalTextLength o.value.2.records = some n
          ∧ reportedSizes o.events = [n])
    ∧ (o.value.1 = false → reportedSizes o.events = [])

/-- There is no clip at all; or the caller has the one of the greatest user
id, and only its last record has a text; or the caller has another one, and
the text of the last record of the clip of the greatest user id is as long as
all the caller's texts together. -/
def MeasuredClipFits (P : Platform) (s : PasteboardService Uri Want)
    (c : Caller) : Prop :=
  match s.clips.toList.getLast? with
  | none => True
  | some last =>
      P.getUserId c.uid ≠ ERROR_USERID
        ∧ ∃ d, s.clips[P.getUserId c.uid]? = some d
          ∧ (P.getUserId c.uid = last.1 ∧ d.OnlyLastHasText
            ∨ P.getUserId c.uid ≠ last.1
              ∧ PasteData.totalTextLength d.records
                = some last.2.lastTextLength)

variable {P : Platform} {s : PasteboardService Uri Want}

theorem setReportsTotal_iff (c : Caller) (d : PasteData Uri Want) :
    SetReportsTotal P s c d ↔ d.OnlyLastHasText := by
  rw [← PasteboardService.getDataSize_eq_total_iff]
  constructor
  · intro hyp
    obtain ⟨o, n, ho, htotal, hsizes⟩ := hyp
    obtain ⟨m, hm, hsizes'⟩ := PasteboardService.setPasteData_sizes ho
    rw [hsizes] at hsizes'
    injection hsizes' with hnm
    subst hnm
    exact ⟨n, hm, htotal⟩
  · intro hyp
    obtain ⟨n, hn, htotal⟩ := hyp
    have hsome : (s.setPasteData P c d).isSome = true := by
      show ((s.setPasteDataDot P c d).map _).isSome = true
      rw [Option.isSome_map, PasteboardService.setPasteDataDot_isSome, hn]
      rfl
    obtain ⟨o, ho⟩ := Option.isSome_iff_exists.mp hsome
    obtain ⟨m, hm, hsizes⟩ := PasteboardService.setPasteData_sizes ho
    rw [hn] at hm
    injection hm with hnm
    subst hnm
    exact ⟨o, n, ho, htotal, hsizes⟩

/-- What a `GetPasteData` reports is decided by its one outcome. -/
theorem getReportsTotal_of_outcome {c : Caller} {data : PasteData Uri Want}
    {o : Outcome Uri Want (Bool × PasteData Uri Want)}
    (ho : s.getPasteData P c data = some o) :
    GetReportsTotal P s c data ↔
      (o.value.1 = true →
        ∃ n, PasteData.totalTextLength o.value.2.records = some n
          ∧ reportedSizes o.events = [n])
      ∧ (o.value.1 = false → reportedSizes o.events = []) := by
  constructor
  · intro hyp
    obtain ⟨o', ho', h⟩ := hyp
    rw [ho] at ho'
    injection ho' with ho'
    subst ho'
    exact h
  · intro h
    exact ⟨o, ho, h⟩

/-- Where nothing is delivered, nothing should be reported. -/
theorem getReportsTotal_of_false {c : Caller} {data : PasteData Uri Want}
    {o : Outcome Uri Want (Bool × PasteData Uri Want)}
    (ho : s.getPasteData P c data = some o) (hvalue : o.value = (false, data)) :
    GetReportsTotal P s c data ↔ reportedSizes o.events = [] := by
  rw [getReportsTotal_of_outcome ho, hvalue]
  simp

/-- Where `d` is delivered, the one size that is reported should be its
total. -/
theorem getReportsTotal_of_true {c : Caller} {data d : PasteData Uri Want}
    {o : Outcome Uri Want (Bool × PasteData Uri Want)} {n : Nat}
    (ho : s.getPasteData P c data = some o) (hvalue : o.value = (true, d))
    (hsizes : reportedSizes o.events = [n]) :
    GetReportsTotal P s c data
      ↔ PasteData.totalTextLength d.records = some n := by
  rw [getReportsTotal_of_outcome ho, hvalue, hsizes]
  simp

/-- Where no clip is stored, all fits. -/
theorem measuredClipFits_of_none (c : Caller)
    (hlast : s.clips.toList.getLast? = none) : MeasuredClipFits P s c := by
  unfold MeasuredClipFits
  rw [hlast]
  trivial

/-- A caller without a clip fits nothing that is measured. -/
theorem not_measuredClipFits {c : Caller} {last : Int × PasteData Uri Want}
    (hlast : s.clips.toList.getLast? = some last)
    (hclip : P.getUserId c.uid = ERROR_USERID
      ∨ s.clips[P.getUserId c.uid]? = none) : ¬ MeasuredClipFits P s c := by
  unfold MeasuredClipFits
  rw [hlast]
  intro h
  obtain ⟨hu, d, hd, _⟩ := h
  rcases hclip with hno | hnone
  · exact hu hno
  · rw [hnone] at hd
    cases hd

/-- The clip of a caller fits where its total is the size that is measured. -/
theorem measuredClipFits_iff {c : Caller} {d : PasteData Uri Want}
    {last : Int × PasteData Uri Want} {n : Nat}
    (hlast : s.clips.toList.getLast? = some last)
    (hn : PasteboardService.getDataSize last.2 = some n)
    (hu : P.getUserId c.uid ≠ ERROR_USERID)
    (hd : s.clips[P.getUserId c.uid]? = some d) :
    MeasuredClipFits P s c
      ↔ PasteData.totalTextLength d.records = some n := by
  unfold MeasuredClipFits
  rw [hlast]
  simp only [PasteboardService.lastTextLength_of_getDataSize hn, hd,
    Option.some.injEq, exists_eq_left', ne_eq, hu, not_false_eq_true, true_and]
  by_cases hv : P.getUserId c.uid = last.1
  · -- the caller's clip is the one measured
    have hclip := OrderedMap.getElem?_of_getLast? _ hlast
    rw [← hv, hd] at hclip
    injection hclip with hsame
    subst hsame
    have hfits := PasteboardService.getDataSize_eq_total_iff last.2
    rw [hn] at hfits
    simp [hv, ← hfits]
  · simp [hv]

/-- **A `GetPasteData` reports the right size where the measured clip
fits**, and only there. -/
theorem getReportsTotal_iff (hm : s.Measurable) (c : Caller)
    (data : PasteData Uri Want) :
    GetReportsTotal P s c data ↔ MeasuredClipFits P s c := by
  obtain ⟨o, ho, hvalue⟩ := (observes_clip hm c (P := P)).getPasteData data
  have hsizes := PasteboardService.getPasteData_sizes ho
  unfold PasteboardService.lastClip at hsizes
  cases hlast : s.clips.toList.getLast? with
  | none =>
      -- no clip is stored: nothing is delivered, and nothing reported
      rw [OrderedMap.getElem?_of_getLast?_eq_none _ hlast, ite_self] at hvalue
      rw [getReportsTotal_of_false ho hvalue]
      refine iff_of_true ?_ (measuredClipFits_of_none c hlast)
      rcases hsizes with ⟨_, hempty⟩ | ⟨g, n, hg, _, _⟩
      · exact hempty
      · rw [hlast] at hg
        cases hg
  | some last =>
      -- the clip of the greatest user id is measured
      rw [hlast] at hsizes
      obtain ⟨n, hn, hreport⟩ : ∃ n, PasteboardService.getDataSize last.2
          = some n ∧ reportedSizes o.events = [n] := by
        rcases hsizes with ⟨hnone, _⟩ | ⟨g, n, hg, hn, hreport⟩
        · cases hnone
        · injection hg with hg
          subst hg
          exact ⟨n, hn, hreport⟩
      by_cases hu : P.getUserId c.uid = ERROR_USERID
      · rw [if_pos hu] at hvalue
        rw [getReportsTotal_of_false ho hvalue, hreport]
        exact iff_of_false nofun (not_measuredClipFits hlast (Or.inl hu))
      · rw [if_neg hu] at hvalue
        cases hd : s.clips[P.getUserId c.uid]? with
        | none =>
            rw [hd] at hvalue
            rw [getReportsTotal_of_false ho hvalue, hreport]
            exact iff_of_false nofun (not_measuredClipFits hlast (Or.inr hd))
        | some d =>
            rw [hd] at hvalue
            rw [getReportsTotal_of_true ho hvalue hreport,
              measuredClipFits_iff hlast hn hu hd]

/-- **THE REPORTED SIZE.**  In every reachable state: a `SetPasteData` reports
the total text length of its data exactly where only their last record has a
text; a `GetPasteData` reports the total of what it delivers, or nothing where
it delivers nothing, exactly where the clip it measures fits. -/
theorem sizes_right_iff (P : Platform) (ops : List (ServiceOp Uri Want))
    (s : PasteboardService Uri Want) (os : List Event)
    (hrun : (serviceMachine P).run {} ops = some (s, os)) :
    (∀ c d, SetReportsTotal P s c d ↔ d.OnlyLastHasText)
      ∧ ∀ c data, GetReportsTotal P s c data ↔ MeasuredClipFits P s c :=
  ⟨fun c d => setReportsTotal_iff c d,
    fun c data => getReportsTotal_iff (run_measurable hrun) c data⟩

/-! ## §4. Two records, and two users. -/

/-- Each of two users copies a text; that of user 101 is longer. -/
def twoCopiesRun : List (ServiceOp String String) :=
  [.setPasteData callerOf100 (({} : PasteData String String).addTextRecord "a"),
    .setPasteData callerOf101
      (({} : PasteData String String).addTextRecord "bc")]

theorem sizes_right_twoCopies :
    ∃ s os, (serviceMachine samplePlatform).run {} twoCopiesRun = some (s, os)
      ∧ (SetReportsTotal samplePlatform s callerOf100
            (({} : PasteData String String).addTextRecord "a")
          ↔ (({} : PasteData String String).addTextRecord "a").OnlyLastHasText)
      ∧ (GetReportsTotal samplePlatform s callerOf101 {}
          ↔ MeasuredClipFits samplePlatform s callerOf101) := by
  refine ⟨_, _, rfl, ?_⟩
  have hright := sizes_right_iff samplePlatform twoCopiesRun _ _ rfl
  exact ⟨hright.1 callerOf100 _, hright.2 callerOf101 {}⟩

/-- **Of two texts only one is reported**, and to user 100 the size of the clip
of user 101 is. -/
theorem sizes_wrong :
    (¬ ∀ d : PasteData String String,
        SetReportsTotal samplePlatform {} callerOf100 d)
      ∧ ∃ s os, (serviceMachine samplePlatform).run {} twoCopiesRun
            = some (s, os)
          ∧ ¬ GetReportsTotal samplePlatform s callerOf100 {} := by
  constructor
  · intro h
    have hfits := (setReportsTotal_iff callerOf100 _).mp
      (h ((({} : PasteData String String).addTextRecord "a").addTextRecord "b"))
    have hempty := hfits.2 ⟨"text/plain", none, none, some "b", none⟩
      (by decide)
    revert hempty
    decide
  · refine ⟨_, _, rfl, ?_⟩
    intro hyp
    obtain ⟨o, ho, htotal, _⟩ := hyp
    injection ho with ho
    subst ho
    obtain ⟨n, hn, hsizes⟩ := htotal rfl
    -- one character is delivered, two are reported
    have hone : PasteData.totalTextLength (({} : PasteData String String).addTextRecord
        "a").records = some 1 := by decide
    have hn1 : n = 1 := by
      have heq : some 1 = some n := hone.symm.trans hn
      injection heq with heq
      exact heq.symm
    subst hn1
    revert hsizes
    decide

end Pasteboard
