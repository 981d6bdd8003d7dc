/-
  Pasteboard.Dfx.Behaviour
  ────────────────────────
  **THE BEHAVIOUR REPORT** (`hiview_adapter.cpp`): how often each app copied
  and pasted, counted in two maps, and reported as a list of ten names.

    • The loop that fills the ten names goes through ALL entries of the sorted
      vector: with an eleventh app it writes outside of the list
      (`reportBehaviour_isSome_iff`).
    • A flush is right exactly when neither state has more than ten apps and
      no app's counter has wrapped around (`behaviour_flush_iff`).

  `std::sort` is not stable: which of two apps with the same count comes first
  is left open (`StdSort`).
-/
import Mathlib
import Pasteboard.Service.State
import Pasteboard.Dfx.Levels
import Pasteboard.Lib.Runs
import Pasteboard.Lib.Tally

namespace Pasteboard

open Lib

/-! ## §1. The maps and the report. -/

structure PasteboardBehaviourMsg where
  pasteboardState : Int
  appId : String
  deriving DecidableEq, Repr

/-- The static maps of the adapter. -/
structure Behaviour where
  copyPasteboardBehaviour : Std.TreeMap String Int := {}
  pastePasteboardBehaviour : Std.TreeMap String Int := {}

/-- `std::sort` by the comparator `a.second > b.second`. -/
structure StdSort where
  sort : List (String × Int) → List (String × Int)
  perm : ∀ vec, (sort vec).Perm vec
  sorted : ∀ vec, (sort vec).Pairwise fun a b => ¬ b.2 > a.2

namespace HiViewAdapter

def reportPasteboardBehaviour (msg : PasteboardBehaviourMsg) (b : Behaviour) :
    Behaviour :=
  if msg.pasteboardState = BPS_COPY_STATE then
    { b with copyPasteboardBehaviour :=
        tally b.copyPasteboardBehaviour msg.appId }
  else if msg.pasteboardState = BPS_PASTE_STATE then
    { b with pastePasteboardBehaviour :=
        tally b.pastePasteboardBehaviour msg.appId }
  else b

def TOTAL_APP_NUMBERS : Nat := 10

def TOP_APPS : List String :=
  ["TOP_ONE_APP", "TOP_TOW_APP", "TOP_THREE_APP", "TOP_FOUR_APP",
    "TOP_FIVE_APP", "TOP_SIX_APP", "TOP_SEVEN_APP", "TOP_EIGHT_APP",
    "TOP_NINE_APP", "TOP_TEN_APP"]

def appEntry (app : String) (count : Int) : String :=
  app ++ " :" ++ toString count

/-- The loop that fills the list, from the index `j` on: `none` is a write
outside of it. -/
def pushNames : Nat → List (String × Int) → List String → Option (List String)
  | _, [], appPackName => some appPackName
  | j, (app, count) :: vec, appPackName =>
      if j < appPackName.length then
        pushNames (j + 1) vec (appPackName.set j (appEntry app count))
      else none

def behaviourEvent (pasteboardState : String) (appPackName : List String) :
    SysEvent :=
  ⟨coverEventID PASTEBOARD_BEHAVIOUR, .BEHAVIOR,
    (PASTEBOARD_STATE, pasteboardState) :: TOP_APPS.zip appPackName⟩

/-- The map after the report, and the event if there is one. -/
def reportBehaviour (S : StdSort) (behaviour : Std.TreeMap String Int)
    (pasteboardState : String) :
    Option (Std.TreeMap String Int × List SysEvent) :=
  if ¬ behaviour.isEmpty then
    let vec := S.sort behaviour.toList
    let appPackName := List.replicate TOTAL_APP_NUMBERS "default"
    (pushNames 0 vec appPackName).map fun appPackName =>
      ({}, [behaviourEvent pasteboardState appPackName])
  else some (behaviour, [])

def invokePasteBoardBehaviour (S : StdSort) (b : Behaviour) :
    Option (Behaviour × List SysEvent) :=
  let copy :=
    if ¬ b.copyPasteboardBehaviour.isEmpty then
      reportBehaviour S b.copyPasteboardBehaviour COPY_STATE
    else some (b.copyPasteboardBehaviour, [])
  copy.bind fun copy =>
    let b := { b with copyPasteboardBehaviour := copy.1 }
    let paste :=
      if ¬ b.pastePasteboardBehaviour.isEmpty then
        reportBehaviour S b.pastePasteboardBehaviour PASTE_STATE
      else some (b.pastePasteboardBehaviour, [])
    paste.map fun paste =>
      ({ b with pastePasteboardBehaviour := paste.1 }, copy.2 ++ paste.2)

end HiViewAdapter

/-- What comes in: a report, or the flush of the timer thread. -/
inductive BehaviourInput where
  | reportPasteboardBehaviour (msg : PasteboardBehaviourMsg)
  | invokePasteBoardBehaviour

/-- The counting of behaviour as a machine. -/
def behaviourMachine (S : StdSort) :
    Machine Behaviour BehaviourInput SysEvent where
  step b
    | .reportPasteboardBehaviour msg =>
        some (HiViewAdapter.reportPasteboardBehaviour msg b, [])
    | .invokePasteBoardBehaviour =>
        HiViewAdapter.invokePasteBoardBehaviour S b

/-! ## §2. What a flush should report. -/

open HiViewAdapter

/-- The apps of the reports of a state, one for each report. -/
def appsOf (state : Int) (msgs : List PasteboardBehaviourMsg) : List String :=
  (msgs.filter fun msg => msg.pasteboardState = state).map (·.appId)

/-- `names` are the top ten of `apps`, with their counts: as many as there are
apps, up to ten; the most frequent first; none left out that is more frequent
than one listed; and `"default"` in the slots that are left. -/
structure TopTen (apps : List String) (names : List String) : Prop where
  top : ∃ top : List String, top.Nodup
    ∧ top.length = min 10 apps.dedup.length
    ∧ (∀ app ∈ top, app ∈ apps)
    ∧ top.Pairwise (fun app app' => apps.count app' ≤ apps.count app)
    ∧ (∀ app ∈ top, ∀ app' ∈ apps, app' ∉ top →
        apps.count app' ≤ apps.count app)
    ∧ names = top.map (fun app => appEntry app (apps.count app))
        ++ List.replicate (10 - top.length) "default"

/-- The events for one state: none without a report, else one that shows the
top ten. -/
def StateReported (pasteboardState : String) (apps : List String)
    (events : List SysEvent) : Prop :=
  (apps = [] → events = [])
    ∧ (apps ≠ [] → ∃ names, TopTen apps names
        ∧ events = [behaviourEvent pasteboardState names])

/-- The flush in the state `b`, which has counted `msgs`, stays in the list,
reports each state, and leaves both maps empty. -/
def FlushRight (S : StdSort) (msgs : List PasteboardBehaviourMsg)
    (b : Behaviour) : Prop :=
  ∃ copy paste,
    invokePasteBoardBehaviour S b = some ({}, copy ++ paste)
      ∧ StateReported COPY_STATE (appsOf BPS_COPY_STATE msgs) copy
      ∧ StateReported PASTE_STATE (appsOf BPS_PASTE_STATE msgs) paste

/-- At most ten apps, and less than 2 to the 31 reports of each. -/
def Reportable (apps : List String) : Prop :=
  apps.dedup.length ≤ 10 ∧ ∀ app ∈ apps, apps.count app < 2147483648

/-! ## §3. Entries and their text. -/

/-- No numeral has a colon. -/
theorem colon_not_mem_toString (n : Int) : ':' ∉ (toString n).toList := by
  have hdigits : ∀ m : Nat, ':' ∉ m.repr.toList := by
    intro m hmem
    rw [Nat.toList_repr] at hmem
    have hdigit := Nat.isDigit_of_mem_toDigits (by decide) (by decide) hmem
    revert hdigit
    decide
  rw [Int.toString_eq_repr, Int.repr_eq_if]
  split
  · exact hdigits _
  · rw [String.toList_append, List.mem_append, not_or]
    exact ⟨by decide, hdigits _⟩

/-- The first `a` splits a list in one way. -/
theorem split_at_first {α : Type} {a : α} {zs zs' : List α} :
    ∀ {xs xs' : List α}, a ∉ xs → a ∉ xs' →
      xs ++ a :: zs = xs' ++ a :: zs' → xs = xs' ∧ zs = zs' := by
  intro xs
  induction xs with
  | nil =>
      intro xs' _ hxs' h
      cases xs' with
      | nil => exact ⟨rfl, (List.cons.inj h).2⟩
      | cons x' xs' =>
          refine absurd ?_ hxs'
          rw [(List.cons.inj h).1]
          exact List.mem_cons_self
  | cons x xs ih =>
      intro xs' hxs hxs' h
      cases xs' with
      | nil =>
          refine absurd ?_ hxs
          rw [(List.cons.inj h).1]
          exact List.mem_cons_self
      | cons x' xs' =>
          obtain ⟨hx, hrest⟩ := List.cons.inj h
          rw [List.mem_cons, not_or] at hxs hxs'
          obtain ⟨hxs₁, hzs⟩ := ih hxs.2 hxs'.2 hrest
          rw [hx, hxs₁]
          exact ⟨rfl, hzs⟩

/-- **An entry shows one app and one count.** -/
theorem appEntry_inj {app app' : String} {n n' : Int}
    (h : appEntry app n = appEntry app' n') : app = app' ∧ n = n' := by
  -- read from the end, the count is what stands before the first colon
  have hrev : ∀ (a : String) (m : Int), (appEntry a m).toList.reverse
      = (toString m).toList.reverse ++ ':' :: ' ' :: a.toList.reverse := by
    intro a m
    unfold appEntry
    rw [String.toList_append, String.toList_append, List.reverse_append,
      List.reverse_append]
    rfl
  have hcolon : ∀ m : Int, ':' ∉ (toString m).toList.reverse := by
    intro m
    rw [List.mem_reverse]
    exact colon_not_mem_toString m
  have hlist : (appEntry app n).toList.reverse
      = (appEntry app' n').toList.reverse := by rw [h]
  rw [hrev, hrev] at hlist
  obtain ⟨hcount, happ⟩ := split_at_first (hcolon n) (hcolon n') hlist
  constructor
  · have happ' := List.reverse_injective (List.cons.inj happ).2
    exact String.toList_inj.mp happ'
  · have hcount' := String.toList_inj.mp (List.reverse_injective hcount)
    rw [Int.toString_eq_repr, Int.toString_eq_repr] at hcount'
    exact Int.repr_inj.mp hcount'

/-- A write at `j` extends what is filled. -/
theorem take_set_succ {names : List String} {j : Nat}
    (hj : j < names.length) (name : String) :
    (names.set j name).take (j + 1) = names.take j ++ [name] := by
  have hlt : j < (names.set j name).length := by
    rw [List.length_set]
    exact hj
  rw [List.take_succ_eq_append_getElem hlt, List.getElem_set_self,
    List.take_set_of_le (Nat.le_refl j)]

/-- **The loop fills the slots from `j` on**, where there are enough. -/
theorem pushNames_of_le (vec : List (String × Int)) :
    ∀ (j : Nat) (names : List String), j + vec.length ≤ names.length →
      pushNames j vec names
        = some (names.take j ++ vec.map (fun e => appEntry e.1 e.2)
            ++ names.drop (j + vec.length)) := by
  induction vec with
  | nil =>
      intro j names _
      rw [List.map_nil, List.append_nil, List.length_nil, Nat.add_zero,
        List.take_append_drop]
      rfl
  | cons e vec ih =>
      intro j names h
      obtain ⟨app, n⟩ := e
      rw [List.length_cons] at h
      have hj : j < names.length := by omega
      rw [pushNames, if_pos hj, ih, take_set_succ hj,
        List.drop_set_of_lt (by omega), List.length_cons, List.map_cons,
        Nat.add_right_comm j 1, Nat.add_assoc j vec.length 1]
      · simp only [List.append_assoc, List.singleton_append]
      · rw [List.length_set]
        omega

/-- With an entry too many it writes outside of the list. -/
theorem pushNames_of_lt (vec : List (String × Int)) :
    ∀ (j : Nat) (names : List String), j ≤ names.length →
      names.length < j + vec.length → pushNames j vec names = none := by
  induction vec with
  | nil =>
      intro j names hle hlt
      rw [List.length_nil] at hlt
      omega
  | cons e vec ih =>
      intro j names hle hlt
      obtain ⟨app, n⟩ := e
      rw [List.length_cons] at hlt
      rw [pushNames]
      by_cases hj : j < names.length
      · rw [if_pos hj]
        apply ih
        · rw [List.length_set]
          exact hj
        · rw [List.length_set]
          omega
      · rw [if_neg hj]

/-! ## §4. The report of one state. -/

/-- What a map shows after the reports of these apps. -/
def tallied (apps : List String) : Std.TreeMap String Int :=
  apps.foldl tally {}

/-- The vector that is reported, sorted. -/
def ranking (S : StdSort) (apps : List String) : List (String × Int) :=
  S.sort (tallied apps).toList

theorem mem_ranking (S : StdSort) (apps : List String) (app : String)
    (n : Int) :
    (app, n) ∈ ranking S apps
      ↔ app ∈ apps ∧ n = int32 (apps.count app) := by
  unfold ranking
  rw [(S.perm _).mem_iff]
  exact mem_toList_foldl_tally apps app n

/-- The ranked apps are those reported, each once. -/
theorem ranking_perm (S : StdSort) (apps : List String) :
    ((ranking S apps).map Prod.fst).Perm apps.dedup :=
  ((S.perm _).map Prod.fst).trans (keys_foldl_tally_perm apps)

theorem length_ranking (S : StdSort) (apps : List String) :
    (ranking S apps).length = apps.dedup.length := by
  rw [← (ranking_perm S apps).length_eq, List.length_map]

theorem tallied_isEmpty_iff (apps : List String) :
    (tallied apps).isEmpty = true ↔ apps = [] := by
  have hlen := (keys_foldl_tally_perm apps).length_eq
  rw [List.length_map] at hlen
  rw [← Std.TreeMap.isEmpty_toList, List.isEmpty_iff, ← List.length_eq_zero_iff,
    ← List.dedup_eq_nil, ← List.length_eq_zero_iff]
  unfold tallied
  rw [hlen]

/-- The ten names when at most ten apps are ranked. -/
def rankedNames (S : StdSort) (apps : List String) : List String :=
  (ranking S apps).map (fun e => appEntry e.1 e.2)
    ++ List.replicate (10 - apps.dedup.length) "default"

theorem length_rankedNames (S : StdSort) {apps : List String}
    (h : apps.dedup.length ≤ 10) : (rankedNames S apps).length = 10 := by
  unfold rankedNames
  rw [List.length_append, List.length_map, length_ranking,
    List.length_replicate]
  omega

theorem TopTen.length_eq {apps names : List String} (h : TopTen apps names) :
    names.length = 10 := by
  obtain ⟨top, _, hlen, _, _, _, hnames⟩ := h.top
  rw [hnames, List.length_append, List.length_map, List.length_replicate]
  omega

/-- Ten names can be read off their event. -/
theorem names_of_behaviourEvent (state : String) {names : List String}
    (h : names.length = 10) :
    (behaviourEvent state names).params.tail.map Prod.snd = names := by
  show (TOP_APPS.zip names).map Prod.snd = names
  rw [List.map_snd_zip]
  rw [h]
  decide

/-- **The report of one state**: nothing without an app, an event with the
ranked names for up to ten, a write outside of the list for more. -/
theorem reportBehaviour_eq (S : StdSort) (apps : List String)
    (state : String) :
    reportBehaviour S (tallied apps) state
      = if apps = [] then some ({}, [])
        else if apps.dedup.length ≤ 10 then
          some ({}, [behaviourEvent state (rankedNames S apps)])
        else none := by
  unfold reportBehaviour
  by_cases hnil : apps = []
  · subst hnil
    rw [if_pos rfl]
    rfl
  · have hfull : ¬ (tallied apps).isEmpty = true := by
      rw [tallied_isEmpty_iff]
      exact hnil
    rw [if_pos hfull, if_neg hnil]
    show (pushNames 0 (ranking S apps) _).map _ = _
    have hlen := length_ranking S apps
    by_cases hle : apps.dedup.length ≤ 10
    · rw [if_pos hle, pushNames_of_le]
      · rw [Option.map_some, Nat.zero_add, hlen, List.take_zero,
          List.nil_append, List.drop_replicate]
        rfl
      · rw [List.length_replicate, hlen, Nat.zero_add]
        exact hle
    · rw [if_neg hle, pushNames_of_lt]
      · rfl
      · exact Nat.zero_le _
      · rw [List.length_replicate, hlen, Nat.zero_add]
        exact Nat.lt_of_not_le hle

/-- Counters that have not wrapped around rank and show the exact counts. -/
theorem topTen_rankedNames (S : StdSort) {apps : List String}
    (h : Reportable apps) : TopTen apps (rankedNames S apps) := by
  obtain ⟨hle, hcount⟩ := h
  have hexact : ∀ e ∈ ranking S apps, e.1 ∈ apps
      ∧ e.2 = (apps.count e.1 : Int) := by
    intro e he
    obtain ⟨happ, hn⟩ := (mem_ranking S apps e.1 e.2).mp he
    exact ⟨happ, hn.trans ((int32_eq_iff _).mpr (hcount e.1 happ))⟩
  have hperm := ranking_perm S apps
  have hlen := length_ranking S apps
  refine ⟨(ranking S apps).map Prod.fst, ?_, ?_, ?_, ?_, ?_, ?_⟩
  · exact hperm.nodup_iff.mpr (List.nodup_dedup apps)
  · rw [List.length_map, hlen]
    omega
  · intro app happ
    exact List.mem_dedup.mp (hperm.mem_iff.mp happ)
  · rw [List.pairwise_map]
    refine (S.sorted (tallied apps).toList).imp_of_mem ?_
    intro e e' he he' hsort
    have hn := (hexact e he).2
    have hn' := (hexact e' he').2
    omega
  · -- every app is listed
    intro app _ app' happ' hno
    exact absurd (hperm.mem_iff.mpr (List.mem_dedup.mpr happ')) hno
  · unfold rankedNames
    rw [List.map_map, List.length_map, hlen]
    congr 1
    refine List.map_congr_left fun e he => ?_
    show appEntry e.1 e.2 = appEntry e.1 (apps.count e.1)
    rw [(hexact e he).2]

/-- Ranked names that are the top ten show every count as it is. -/
theorem reportable_of_topTen (S : StdSort) {apps : List String}
    (hle : apps.dedup.length ≤ 10) (h : TopTen apps (rankedNames S apps)) :
    Reportable apps := by
  refine ⟨hle, ?_⟩
  obtain ⟨top, _, hlen, _, _, _, hnames⟩ := h.top
  intro app happ
  -- the entry of the app in the ranking is an entry of the top ten
  have hentries : (ranking S apps).map (fun e => appEntry e.1 e.2)
      = top.map fun app => appEntry app (apps.count app) := by
    refine (List.append_inj hnames ?_).1
    rw [List.length_map, List.length_map, length_ranking, hlen]
    omega
  have hrank : (app, int32 (apps.count app)) ∈ ranking S apps :=
    (mem_ranking S apps app (int32 (apps.count app))).mpr ⟨happ, rfl⟩
  have hmem : appEntry app (int32 (apps.count app))
      ∈ (ranking S apps).map fun e => appEntry e.1 e.2 :=
    List.mem_map_of_mem hrank
  rw [hentries] at hmem
  obtain ⟨app', _, hentry⟩ := List.mem_map.mp hmem
  obtain ⟨happ', hn⟩ := appEntry_inj hentry
  subst happ'
  exact (int32_eq_iff _).mp hn.symm

/-! ## §5. The flush. -/

/-- The maps hold what the reports of `msgs` make of empty ones. -/
structure Tallies (msgs : List PasteboardBehaviourMsg) (b : Behaviour) :
    Prop where
  copy : b.copyPasteboardBehaviour = tallied (appsOf BPS_COPY_STATE msgs)
  paste : b.pastePasteboardBehaviour = tallied (appsOf BPS_PASTE_STATE msgs)

theorem tallies_nil : Tallies [] {} := ⟨rfl, rfl⟩

/-- The emptiness test is made twice. -/
theorem invoke_eq (S : StdSort) (b : Behaviour) :
    invokePasteBoardBehaviour S b
      = (reportBehaviour S b.copyPasteboardBehaviour COPY_STATE).bind
          fun copy =>
            (reportBehaviour S b.pastePasteboardBehaviour PASTE_STATE).map
              fun paste => (⟨copy.1, paste.1⟩, copy.2 ++ paste.2) := by
  have htwice : ∀ (m : Std.TreeMap String Int) (state : String),
      (if ¬ m.isEmpty then reportBehaviour S m state else some (m, []))
        = reportBehaviour S m state := by
    intro m state
    unfold reportBehaviour
    split <;> rfl
  unfold invokePasteBoardBehaviour
  dsimp only
  rw [htwice]
  simp only [htwice]

/-- What the report of one state puts out, if it comes to its end. -/
theorem reportBehaviour_cases {S : StdSort} {apps : List String}
    {state : String} {m : Std.TreeMap String Int} {events : List SysEvent}
    (h : reportBehaviour S (tallied apps) state = some (m, events)) :
    m = {} ∧ ((apps = [] ∧ events = [])
      ∨ (apps ≠ [] ∧ apps.dedup.length ≤ 10
        ∧ events = [behaviourEvent state (rankedNames S apps)])) := by
  rw [reportBehaviour_eq] at h
  by_cases hnil : apps = []
  · rw [if_pos hnil, Option.some.injEq, Prod.mk.injEq] at h
    exact ⟨h.1.symm, Or.inl ⟨hnil, h.2.symm⟩⟩
  · rw [if_neg hnil] at h
    by_cases hle : apps.dedup.length ≤ 10
    · rw [if_pos hle, Option.some.injEq, Prod.mk.injEq] at h
      exact ⟨h.1.symm, Or.inr ⟨hnil, hle, h.2.symm⟩⟩
    · rw [if_neg hle] at h
      cases h

/-- What a flush puts out, if it comes to its end. -/
theorem invoke_cases {S : StdSort} {msgs : List PasteboardBehaviourMsg}
    {b b' : Behaviour} {os : List SysEvent} (hb : Tallies msgs b)
    (h : invokePasteBoardBehaviour S b = some (b', os)) :
    b' = {} ∧ ∃ copy paste, os = copy ++ paste
      ∧ reportBehaviour S (tallied (appsOf BPS_COPY_STATE msgs)) COPY_STATE
        = some ({}, copy)
      ∧ reportBehaviour S (tallied (appsOf BPS_PASTE_STATE msgs)) PASTE_STATE
        = some ({}, paste) := by
  rw [invoke_eq, hb.copy, hb.paste] at h
  obtain ⟨⟨m, copy⟩, hcopy, h⟩ := Option.bind_eq_some_iff.mp h
  obtain ⟨⟨m', paste⟩, hpaste, h⟩ := Option.map_eq_some_iff.mp h
  injection h with hb' hos
  obtain ⟨hm, _⟩ := reportBehaviour_cases hcopy
  obtain ⟨hm', _⟩ := reportBehaviour_cases hpaste
  subst hm hm'
  exact ⟨hb'.symm, copy, paste, hos.symm, hcopy, hpaste⟩

theorem reportable_nil : Reportable [] := by
  refine ⟨by decide, ?_⟩
  intro app happ
  cases happ

/-- One state is reported right exactly when it is reportable. -/
theorem stateReported_iff {S : StdSort} {apps : List String} {state : String}
    {events : List SysEvent}
    (h : reportBehaviour S (tallied apps) state = some ({}, events)) :
    StateReported state apps events ↔ Reportable apps := by
  obtain ⟨_, ⟨hnil, hevents⟩ | ⟨hne, hle, hevents⟩⟩ := reportBehaviour_cases h
  · subst hnil
    refine iff_of_true ⟨fun _ => hevents, fun hne => absurd rfl hne⟩ ?_
    exact reportable_nil
  · constructor
    · intro hreported
      obtain ⟨names, htop, heq⟩ := hreported.2 hne
      rw [hevents] at heq
      injection heq with heq
      -- the event shows the names themselves
      have hnames : rankedNames S apps = names := by
        rw [← names_of_behaviourEvent state (length_rankedNames S hle), heq,
          names_of_behaviourEvent state htop.length_eq]
      rw [← hnames] at htop
      exact reportable_of_topTen S hle htop
    · intro hreportable
      refine ⟨fun hnil => absurd hnil hne, fun _ => ?_⟩
      exact ⟨rankedNames S apps, topTen_rankedNames S hreportable, hevents⟩

/-- A right report has one event, or none without an app. -/
theorem StateReported.length_eq {state : String} {apps : List String}
    {events : List SysEvent} (h : StateReported state apps events) :
    events.length = if apps = [] then 0 else 1 := by
  by_cases hnil : apps = []
  · rw [if_pos hnil, h.1 hnil]
    rfl
  · obtain ⟨names, _, hevents⟩ := h.2 hnil
    rw [if_neg hnil, hevents]
    rfl

/-- So has any report that comes to its end. -/
theorem reportBehaviour_length {S : StdSort} {apps : List String}
    {state : String} {m : Std.TreeMap String Int} {events : List SysEvent}
    (h : reportBehaviour S (tallied apps) state = some (m, events)) :
    events.length = if apps = [] then 0 else 1 := by
  obtain ⟨_, ⟨hnil, hevents⟩ | ⟨hne, _, hevents⟩⟩ := reportBehaviour_cases h
  · rw [if_pos hnil, hevents]
    rfl
  · rw [if_neg hne, hevents]
    rfl

/-- **A flush is right exactly when both states are reportable.** -/
theorem flushRight_iff {S : StdSort} {msgs : List PasteboardBehaviourMsg}
    {b : Behaviour} (hb : Tallies msgs b) :
    FlushRight S msgs b
      ↔ Reportable (appsOf BPS_COPY_STATE msgs)
        ∧ Reportable (appsOf BPS_PASTE_STATE msgs) := by
  constructor
  · intro hyp
    obtain ⟨copy, paste, hinvoke, hcopy, hpaste⟩ := hyp
    obtain ⟨_, copy', paste', hos, hcopy', hpaste'⟩ := invoke_cases hb hinvoke
    -- the events divide into those of the two states in one way
    have hlen : copy.length = copy'.length := by
      rw [hcopy.length_eq, reportBehaviour_length hcopy']
    obtain ⟨hc, hp⟩ := List.append_inj hos hlen
    subst hc hp
    exact ⟨(stateReported_iff hcopy').mp hcopy,
      (stateReported_iff hpaste').mp hpaste⟩
  · intro hyp
    obtain ⟨hcopy, hpaste⟩ := hyp
    have hends : ∀ (apps : List String) (state : String), Reportable apps →
        ∃ events, reportBehaviour S (tallied apps) state
          = some ({}, events) := by
      intro apps state h
      rw [reportBehaviour_eq]
      by_cases hnil : apps = []
      · exact ⟨[], if_pos hnil⟩
      · rw [if_neg hnil, if_pos h.1]
        exact ⟨_, rfl⟩
    obtain ⟨copy, hcopy'⟩ := hends _ COPY_STATE hcopy
    obtain ⟨paste, hpaste'⟩ := hends _ PASTE_STATE hpaste
    refine ⟨copy, paste, ?_, (stateReported_iff hcopy').mpr hcopy,
      (stateReported_iff hpaste').mpr hpaste⟩
    rw [invoke_eq, hb.copy, hb.paste, hcopy', Option.bind_some, hpaste']
    rfl

/-! ## §6. Runs. -/

/-- The report of an input, a flush has none. -/
def BehaviourInput.msg : BehaviourInput → Option PasteboardBehaviourMsg
  | .reportPasteboardBehaviour msg => some msg
  | .invokePasteBoardBehaviour => none

theorem appsOf_concat (state : Int) (msgs : List PasteboardBehaviourMsg)
    (msg : PasteboardBehaviourMsg) :
    appsOf state (msgs ++ [msg])
      = if msg.pasteboardState = state then appsOf state msgs ++ [msg.appId]
        else appsOf state msgs := by
  unfold appsOf
  rw [List.filter_append, List.map_append]
  by_cases h : msg.pasteboardState = state
  · rw [if_pos h, List.filter_cons_of_pos (by simp [h])]
    rfl
  · rw [if_neg h, List.filter_cons_of_neg (by simp [h]), List.filter_nil,
      List.map_nil, List.append_nil]

theorem tallied_concat (apps : List String) (app : String) :
    tallied (apps ++ [app]) = tally (tallied apps) app := by
  unfold tallied
  rw [List.foldl_append]
  rfl

/-- One more report. -/
theorem Tallies.report {msgs : List PasteboardBehaviourMsg} {b : Behaviour}
    (hb : Tallies msgs b) (msg : PasteboardBehaviourMsg) :
    Tallies (msgs ++ [msg]) (reportPasteboardBehaviour msg b) := by
  unfold reportPasteboardBehaviour
  by_cases hc : msg.pasteboardState = BPS_COPY_STATE
  · have hp : ¬ msg.pasteboardState = BPS_PASTE_STATE := by
      rw [hc]
      decide
    rw [if_pos hc]
    constructor
    · rw [appsOf_concat, if_pos hc, tallied_concat, ← hb.copy]
    · rw [appsOf_concat, if_neg hp]
      exact hb.paste
  · rw [if_neg hc]
    by_cases hp : msg.pasteboardState = BPS_PASTE_STATE
    · rw [if_pos hp]
      constructor
      · rw [appsOf_concat, if_neg hc]
        exact hb.copy
      · rw [appsOf_concat, if_pos hp, tallied_concat, ← hb.paste]
    · -- an unknown state is not counted
      rw [if_neg hp]
      constructor
      · rw [appsOf_concat, if_neg hc]
        exact hb.copy
      · rw [appsOf_concat, if_neg hp]
        exact hb.paste

/-- **After any run the maps hold the reports since the last flush.** -/
theorem tallies_run {S : StdSort} {is : List BehaviourInput} {b : Behaviour}
    {os : List SysEvent} (hrun : (behaviourMachine S).run {} is = some (b, os)) :
    Tallies (sinceLast BehaviourInput.msg is) b := by
  refine (behaviourMachine S).history_of_allSteps
    (fun is b => Tallies (sinceLast BehaviourInput.msg is) b)
    (G := fun _ _ => True) tallies_nil ?_ is hrun
    fun _ _ _ _ _ _ _ => trivial
  intro is b i b' os hb _ hstep
  rw [sinceLast_concat]
  cases i with
  | reportPasteboardBehaviour msg =>
      injection hstep with hstep
      injection hstep with hb' _
      subst hb'
      exact hb.report msg
  | invokePasteBoardBehaviour =>
      obtain ⟨hb', _⟩ := invoke_cases hb hstep
      subst hb'
      exact tallies_nil

/-- **THE TOP TEN, UP TO TEN APPS.**  In any run of reports and flushes, a
flush reports each state with its apps and their exact counts since the last
one, the most frequent first, and leaves both maps empty, if and only if
neither state has had more than ten apps, nor 2 to the 31 reports of one app,
since then.  With an eleventh app it writes outside of the ten names. -/
theorem behaviour_flush_iff (S : StdSort) (is : List BehaviourInput)
    (b : Behaviour) (os : List SysEvent)
    (hrun : (behaviourMachine S).run {} is = some (b, os)) :
    FlushRight S (sinceLast BehaviourInput.msg is) b
      ↔ Reportable (appsOf BPS_COPY_STATE (sinceLast BehaviourInput.msg is))
        ∧ Reportable
            (appsOf BPS_PASTE_STATE (sinceLast BehaviourInput.msg is)) :=
  flushRight_iff (tallies_run hrun)

/-- A sort to run it with. -/
def StdSort.merge : StdSort where
  sort vec := vec.mergeSort fun a b => decide (b.2 ≤ a.2)
  perm vec := List.mergeSort_perm vec _
  sorted vec := by
    refine (List.pairwise_mergeSort ?_ ?_ vec).imp ?_
    · intro a b c hab hbc
      simp only [decide_eq_true_eq] at *
      omega
    · intro a b
      simp only [Bool.or_eq_true, decide_eq_true_eq]
      omega
    · intro a b hab
      simp only [decide_eq_true_eq] at hab
      omega

/-- A copy by each of these apps. -/
def copiesBy (apps : List String) : List BehaviourInput :=
  apps.map fun app => .reportPasteboardBehaviour ⟨BPS_COPY_STATE, app⟩

theorem behaviour_flush_twoApps :
    ∃ b os, (behaviourMachine StdSort.merge).run {} (copiesBy ["a", "b", "a"])
        = some (b, os)
      ∧ FlushRight StdSort.merge
          (sinceLast BehaviourInput.msg (copiesBy ["a", "b", "a"])) b := by
  refine ⟨_, _, rfl, ?_⟩
  refine (behaviour_flush_iff StdSort.merge _ _ _ rfl).mpr ⟨⟨?_, ?_⟩, ⟨?_, ?_⟩⟩
    <;> decide

/-- **Eleven apps that copy**: the flush writes the eleventh name outside of
the list of ten. -/
theorem behaviour_flush_elevenApps :
    ¬ ∀ (S : StdSort) (is : List BehaviourInput) (b : Behaviour)
        (os : List SysEvent), (behaviourMachine S).run {} is = some (b, os) →
      FlushRight S (sinceLast BehaviourInput.msg is) b := by
  intro h
  have hflush := h StdSort.merge
    (copiesBy ["a", "b", "c", "d", "e", "f", "g", "h", "i", "j", "k"]) _ _ rfl
  have hreportable := ((flushRight_iff
    (tallies_run (S := StdSort.merge) rfl)).mp hflush).1.1
  revert hreportable
  decide

end Pasteboard
