import Ketabdaneh.Library.Sorting
import Ketabdaneh.Web.Dashboard.DashboardData

/-!
This module contains what the dashboard's lists are, for any two lists they are derived from.
-/

namespace Web.Dashboard

open Ecma Text

/-- `localeCompare` orders the strings, some of which it may not tell apart. -/
structure Collates (browser : Browser) : Prop where
  total : ∀ a b, browser.localeCompare a b ≤ 0 ∨ browser.localeCompare b a ≤ 0
  trans : ∀ a b c, browser.localeCompare a b ≤ 0 → browser.localeCompare b c ≤ 0 →
    browser.localeCompare a c ≤ 0

def Assigned (assignments : List EventAssignmentRead) (event : EventRead) : Prop :=
  ∃ assignment ∈ assignments, assignment.eventId = event.id

instance (assignments : List EventAssignmentRead) : DecidablePred (Assigned assignments) :=
  fun event => inferInstanceAs (Decidable (∃ assignment ∈ assignments, assignment.eventId = event.id))

/-- The number of assignments that reference an event. -/
def references (assignments : List EventAssignmentRead) (event : EventRead) : Nat :=
  assignments.countP fun assignment => assignment.eventId = event.id

def isUpcoming (browser : Browser) (now : TimeValue) (event : EventRead) : Bool :=
  (parseInstant browser event.plannedAt).any fun time => time ≥ now

/-- The nearest first, those of one instant by their titles. -/
def Before (browser : Browser) (a b : UpcomingEvent) : Prop :=
  ∀ s t, parseInstant browser a.event.plannedAt = some s →
    parseInstant browser b.event.plannedAt = some t →
      s < t ∨ s = t ∧ browser.localeCompare a.event.title b.event.title ≤ 0

/-- What is asked of the lists that are derived from the events and the assignments. -/
structure Correlates (browser : Browser) (now : TimeValue) (events : List EventRead)
    (assignments : List EventAssignmentRead) (result : DashboardEvents) : Prop where
  assigned : result.assigned = events.filter fun event => Assigned assignments event
  unassigned : result.unassigned = events.filter fun event => ¬Assigned assignments event
  upcoming : ∀ item, item ∈ result.upcoming ↔
    item.event ∈ events
      ∧ (∃ time, parseInstant browser item.event.plannedAt = some time ∧ now ≤ time)
      ∧ item.assignmentCount = references assignments item.event
  once : (result.upcoming.map fun item => item.event.id).Nodup
  ordered : result.upcoming.Pairwise (Before browser)
  unparsed : ∀ event ∈ events, parseInstant browser event.plannedAt = none →
    Xor (event ∈ result.assigned) (event ∈ result.unassigned)

variable {browser : Browser} {now : TimeValue} {events : List EventRead}
  {assignments : List EventAssignmentRead}

theorem countOf_assignmentCounts (assignments : List EventAssignmentRead) (event : EventRead)
    : countOf (assignmentCounts assignments) event = references assignments event := by
  unfold countOf assignmentCounts
  rw [Map.getD_get_count]
  exact Nat.zero_add _

theorem references_eq_zero {event : EventRead}
    : references assignments event = 0 ↔ ¬Assigned assignments event := by
  unfold references Assigned
  rw [List.countP_eq_zero]
  simp

theorem pushEvent_eq (browser : Browser) (now : TimeValue) (counts : Map Str Nat)
    (result : DashboardEvents) (event : EventRead)
    : pushEvent browser now counts result event
        =
      {
        upcoming :=
          result.upcoming
            ++ ([event].filter (isUpcoming browser now)).map fun event => ⟨event, countOf counts event⟩
        unassigned := result.unassigned ++ [event].filter fun event => countOf counts event = 0
        assigned := result.assigned ++ [event].filter fun event => countOf counts event ≠ 0
        assignmentCount := result.assignmentCount
      } := by
  unfold pushEvent
  dsimp only
  by_cases hcount : countOf counts event = 0
  . cases hparse : parseInstant browser event.plannedAt with
    | none => simp [hcount, isUpcoming, hparse]
    | some time =>
      by_cases hnow : time ≥ now
      . simp [hcount, isUpcoming, hparse, hnow]
      . simp [hcount, isUpcoming, hparse, hnow]
  . cases hparse : parseInstant browser event.plannedAt with
    | none => simp [hcount, isUpcoming, hparse]
    | some time =>
      by_cases hnow : time ≥ now
      . simp [hcount, isUpcoming, hparse, hnow]
      . simp [hcount, isUpcoming, hparse, hnow]

theorem foldl_pushEvent (counts : Map Str Nat) (result : DashboardEvents)
    : events.foldl (pushEvent browser now counts) result
        =
      {
        upcoming :=
          result.upcoming
            ++ (events.filter (isUpcoming browser now)).map fun event => ⟨event, countOf counts event⟩
        unassigned := result.unassigned ++ events.filter fun event => countOf counts event = 0
        assigned := result.assigned ++ events.filter fun event => countOf counts event ≠ 0
        assignmentCount := result.assignmentCount
      } := by
  induction events generalizing result with
  | nil => simp
  | cons event events ih =>
    rw [List.foldl_cons, ih, pushEvent_eq, ← List.singleton_append (l := events)]
    simp only [List.filter_append, List.map_append, List.append_assoc]

/-- The upcoming events in the order of the list. -/
def unsorted (browser : Browser) (now : TimeValue) (events : List EventRead)
    (assignments : List EventAssignmentRead) : List UpcomingEvent :=
  (events.filter (isUpcoming browser now)).map fun event => ⟨event, references assignments event⟩

theorem buildDashboardEvents_eq
    : buildDashboardEvents browser now events assignments
        =
      {
        upcoming :=
          (unsorted browser now events assignments).mergeSort fun a b => compareUpcoming browser a b ≤ 0
        unassigned := events.filter fun event => ¬Assigned assignments event
        assigned := events.filter fun event => Assigned assignments event
        assignmentCount := assignments.length
      } := by
  unfold buildDashboardEvents unsorted
  dsimp only
  rw [foldl_pushEvent]
  simp only [countOf_assignmentCounts, List.nil_append, references_eq_zero, ne_eq, Decidable.not_not]

theorem isUpcoming_iff {event : EventRead}
    : isUpcoming browser now event = true
        ↔
      ∃ time, parseInstant browser event.plannedAt = some time ∧ now ≤ time := by
  simp [isUpcoming, Option.any_eq_true]

theorem mem_unsorted {item : UpcomingEvent}
    : item ∈ unsorted browser now events assignments
        ↔
      item.event ∈ events
        ∧ (∃ time, parseInstant browser item.event.plannedAt = some time ∧ now ≤ time)
        ∧ item.assignmentCount = references assignments item.event := by
  unfold unsorted
  rw [List.mem_map]
  constructor
  . intro h
    obtain ⟨event, hevent, hitem⟩ := h
    rw [List.mem_filter, isUpcoming_iff] at hevent
    rw [← hitem]
    exact ⟨hevent.1, hevent.2, rfl⟩
  . intro h
    obtain ⟨hmem, htime, hcount⟩ := h
    refine ⟨item.event, ?_, ?_⟩
    . rw [List.mem_filter, isUpcoming_iff]
      exact ⟨hmem, htime⟩
    . rw [← hcount]

theorem nodup_unsorted (hids : (events.map fun event => event.id).Nodup)
    : ((unsorted browser now events assignments).map fun item => item.event.id).Nodup := by
  have hsublist := (List.filter_sublist (p := isUpcoming browser now) (l := events)).map
    fun event => event.id
  unfold unsorted
  rw [List.map_map]
  exact hids.sublist hsublist

def instantOf (browser : Browser) (item : UpcomingEvent) : Int :=
  (parseInstant browser item.event.plannedAt).getD 0

theorem compareUpcoming_eq (a b : UpcomingEvent)
    : compareUpcoming browser a b
        =
      if instantOf browser a ≠ instantOf browser b then
        instantOf browser a - instantOf browser b
      else
        browser.localeCompare a.event.title b.event.title := by
  rfl

theorem pairwise_mergeSort_compareUpcoming (hcollates : Collates browser)
    (items : List UpcomingEvent)
    : (items.mergeSort fun a b => compareUpcoming browser a b ≤ 0).Pairwise (Before browser) := by
  have hsorted : (items.mergeSort fun a b => compareUpcoming browser a b ≤ 0).Pairwise fun a b =>
      instantOf browser a < instantOf browser b
        ∨ instantOf browser a = instantOf browser b
          ∧ browser.localeCompare a.event.title b.event.title ≤ 0 := by
    apply Sorting.pairwise_mergeSort
    . intro a b c hab hbc
      have htitle := hcollates.trans a.event.title b.event.title c.event.title
      omega
    . intro a _ b _
      have htotal := hcollates.total a.event.title b.event.title
      constructor
      case of_le =>
        intro h
        rw [decide_eq_true_iff, compareUpcoming_eq] at h
        split at h
        . exact .inl (by omega)
        . exact .inr ⟨by omega, h⟩
      case of_not_le =>
        intro h
        rw [decide_eq_true_iff, compareUpcoming_eq] at h
        split at h
        . exact .inl (by omega)
        . exact .inr ⟨by omega, htotal.resolve_left h⟩
  apply hsorted.imp
  intro a b hab s t hs ht
  unfold instantOf at hab
  rwa [hs, ht, Option.getD_some, Option.getD_some] at hab

theorem correlates (hcollates : Collates browser) (now : TimeValue)
    (hids : (events.map fun event => event.id).Nodup) (assignments : List EventAssignmentRead)
    : Correlates browser now events assignments
        (buildDashboardEvents browser now events assignments) := by
  rw [buildDashboardEvents_eq]
  constructor
  case assigned => rfl
  case unassigned => rfl
  case upcoming =>
    intro item
    rw [List.mem_mergeSort, mem_unsorted]
  case once =>
    rw [((List.mergeSort_perm _ _).map _).nodup_iff]
    exact nodup_unsorted hids
  case ordered => exact pairwise_mergeSort_compareUpcoming hcollates _
  case unparsed =>
    intro event hevent _
    dsimp only
    rw [List.mem_filter, List.mem_filter, decide_eq_true_iff, decide_eq_true_iff]
    by_cases h : Assigned assignments event
    . exact .inl ⟨⟨hevent, h⟩, fun hnot => hnot.2 h⟩
    . exact .inr ⟨⟨hevent, h⟩, fun hassigned => h hassigned.2⟩

def meeting : EventRead where
  id := ofString "3"
  plannedAt := ofString "2026-07-20T18:00:00+00:00"
  title := ofString "Meeting"

def lesson : EventRead where
  id := ofString "1"
  plannedAt := ofString "2026-07-20T18:00:00+00:00"
  title := ofString "Lesson"

/-- An event whose time is not one. -/
def undated : EventRead where
  id := ofString "2"
  plannedAt := ofString "soon"
  title := ofString "Excursion"

/-- The titles here differ in their first letters. -/
def manager : Browser where
  parse iso := if iso = meeting.plannedAt then some 1784570400000 else none
  clock := ⟨fun _ => 0⟩
  localeCompare a b := (a.headD (cp ' ')).val - (b.headD (cp ' ')).val
  formatTime _ := ofString "18:00"

theorem collates_manager : Collates manager where
  total := by
    intro a b
    unfold manager
    dsimp only
    omega
  trans := by
    intro a b c
    unfold manager
    dsimp only
    omega

theorem manager_correlates
    : Correlates manager 1784500000000 [meeting, undated, lesson] [⟨meeting.id⟩, ⟨ofString "4"⟩]
        (buildDashboardEvents manager 1784500000000 [meeting, undated, lesson]
          [⟨meeting.id⟩, ⟨ofString "4"⟩]) := by
  exact correlates collates_manager 1784500000000 (by decide) [⟨meeting.id⟩, ⟨ofString "4"⟩]

end Web.Dashboard
