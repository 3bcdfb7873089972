import Ketabdaneh.Library.IntervalPacking
import Ketabdaneh.Library.Sorting
import Ketabdaneh.Web.Calendar.Lemmas.CalendarGrid
import Mathlib.Data.Rat.Floor

namespace Web

open Calendar Ecma Text WeekMath

namespace LaidOutEvent

def ending (item : LaidOutEvent) : Int :=
  item.top + EVENT_HEIGHT

/-- The block of an item is half open. -/
def Covers (item : LaidOutEvent) (point : ℚ) : Prop :=
  item.top ≤ point ∧ point < item.ending

instance (item : LaidOutEvent) (point : ℚ) : Decidable (item.Covers point) :=
  inferInstanceAs (Decidable (_ ∧ _))

def inLane (placed : LaidOutEvent × Nat) : LaidOutEvent :=
  { placed.1 with lane := placed.2 }

variable {item : LaidOutEvent}

theorem top_lt_ending (item : LaidOutEvent) : item.top < item.ending := by
  unfold ending EVENT_HEIGHT
  omega

theorem covers_iff {point : ℚ}
    : item.Covers point ↔ IntervalPacking.covers top ending ⌊point⌋ item = true := by
  rw [IntervalPacking.covers_iff, Int.le_floor, Int.floor_lt]
  rfl

end LaidOutEvent

def DayColumn.crowd (column : DayColumn) (point : ℚ) : Nat :=
  column.items.countP fun item => item.Covers point

namespace CalendarGrid

open IntervalPacking LaidOutEvent

variable {browser : Browser} {events : List EventRead}

theorem joinLane_eq_place (laneEnds : List Int) (item : LaidOutEvent)
    : joinLane laneEnds item = place top ending laneEnds item := by
  rfl

theorem packLanes_eq_pack (laneEnds : List Int) (items : List LaidOutEvent)
    : packLanes laneEnds items
        =
      ((pack top ending laneEnds items).1.map inLane, (pack top ending laneEnds items).2) := by
  induction items generalizing laneEnds with
  | nil => rfl
  | cons item items ih =>
    unfold packLanes pack
    dsimp only
    rw [joinLane_eq_place, ih, List.map_cons]
    rfl

theorem compareItems_of_ne {a b : LaidOutEvent} (h : a.top ≠ b.top)
    : compareItems browser a b = a.top - b.top := by
  unfold compareItems
  rw [if_pos]
  omega

theorem compareItems_decides (a b : LaidOutEvent)
    : Sorting.Decides (fun a b => compareItems browser a b ≤ 0) (fun a b => a.top ≤ b.top) a b := by
  constructor
  case of_le =>
    intro hle
    rw [decide_eq_true_iff] at hle
    by_cases htop : a.top = b.top
    . exact Int.le_of_eq htop
    . rw [compareItems_of_ne htop] at hle
      omega
  case of_not_le =>
    intro hle
    rw [decide_eq_true_iff] at hle
    by_cases htop : a.top = b.top
    . exact Int.le_of_eq htop.symm
    . rw [compareItems_of_ne htop] at hle
      omega

/-- Whatever the locale says of ties, the items are in the order of their tops. -/
theorem pairwise_dayEvents (mounted : Bool) (dayKey : Str)
    : (dayEvents browser mounted events dayKey).Pairwise fun a b => a.top ≤ b.top := by
  unfold dayEvents
  split
  . apply Sorting.pairwise_mergeSort
    . intro a b c hab hbc
      exact Int.le_trans hab hbc
    . intro a _ b _
      apply compareItems_decides
  . exact List.Pairwise.nil

def packed (browser : Browser) (mounted : Bool) (events : List EventRead) (dayDate : DateObject)
    : List (LaidOutEvent × Nat) × List Int :=
  pack top ending [] (dayEvents browser mounted events (isoOf dayDate))

theorem packed_dayEvents (mounted : Bool) (dayDate : DateObject)
    : Packed top ending (packed browser mounted events dayDate).1
        (packed browser mounted events dayDate).2 := by
  apply @Packed.pack _ _ _ _ _ [] _ packed_nil
  . simp
  . apply pairwise_dayEvents
  . intro item _
    apply top_lt_ending

theorem items_dayColumn (mounted : Bool) (dayDate : DateObject)
    : (dayColumn browser mounted events dayDate).items
        =
      (packed browser mounted events dayDate).1.map inLane := by
  unfold dayColumn
  dsimp only
  rw [packLanes_eq_pack]
  rfl

theorem lanes_dayColumn (mounted : Bool) (dayDate : DateObject)
    : (dayColumn browser mounted events dayDate).lanes
        =
      max 1 (packed browser mounted events dayDate).2.length := by
  unfold dayColumn
  dsimp only
  rw [packLanes_eq_pack]
  rfl

theorem map_event_dayColumn (mounted : Bool) (dayDate : DateObject)
    : (dayColumn browser mounted events dayDate).items.map event
        =
      (dayEvents browser mounted events (isoOf dayDate)).map event := by
  apply map_event_packLanes

theorem perm_dayColumn (dayDate : DateObject)
    : ((dayColumn browser true events dayDate).items.map event).Perm
        (events.filter (onDay browser dayDate)) := by
  rw [map_event_dayColumn, ← map_event_filterMap]
  apply List.Perm.map
  unfold dayEvents
  rw [if_pos rfl]
  apply List.mergeSort_perm

theorem apart_dayColumn (mounted : Bool) (dayDate : DateObject)
    : (dayColumn browser mounted events dayDate).items.Pairwise fun a b =>
        a.lane = b.lane → ∀ point, ¬(a.Covers point ∧ b.Covers point) := by
  rw [items_dayColumn, List.pairwise_map]
  apply (packed_dayEvents mounted dayDate).apart.imp
  intro x y hxy hlane point hcovers
  have hends : x.1.ending ≤ y.1.top := hxy hlane
  have hlt : point < x.1.ending := hcovers.1.2
  have hle : (y.1.top : ℚ) ≤ point := hcovers.2.1
  have hcast : (x.1.ending : ℚ) ≤ y.1.top := Int.cast_le.mpr hends
  linarith

theorem lane_lt_iff (mounted : Bool) (dayDate : DateObject) (lane : Nat)
    : lane < (packed browser mounted events dayDate).2.length
        ↔
      ∃ item ∈ (dayColumn browser mounted events dayDate).items, item.lane = lane := by
  rw [(packed_dayEvents mounted dayDate).lane_lt_iff, items_dayColumn]
  simp only [List.mem_map, exists_exists_and_eq_and]
  rfl

theorem crowd_dayColumn (mounted : Bool) (dayDate : DateObject) (point : ℚ)
    : (dayColumn browser mounted events dayDate).crowd point
        =
      (packed browser mounted events dayDate).1.countP fun x => covers top ending ⌊point⌋ x.1 := by
  unfold DayColumn.crowd
  rw [items_dayColumn, List.countP_map]
  apply List.countP_congr
  intro x _
  rw [Function.comp_apply, decide_eq_true_iff, covers_iff]
  rfl

theorem isGreatest_crowd (mounted : Bool) (dayDate : DateObject)
    : IsGreatest (Set.range (dayColumn browser mounted events dayDate).crowd)
        (packed browser mounted events dayDate).2.length := by
  have hpacked : Packed top ending (packed browser mounted events dayDate).1
      (packed browser mounted events dayDate).2 := packed_dayEvents mounted dayDate
  constructor
  . by_cases hnil : (packed browser mounted events dayDate).2 = []
    . exists 0
      have hle := hpacked.countP_covers_le ⌊(0 : ℚ)⌋
      rw [crowd_dayColumn]
      rw [hnil] at hle ⊢
      exact Nat.le_zero.mp hle
    . obtain ⟨point, hpoint⟩ := hpacked.exists_countP_covers_eq hnil
      exists point
      rw [crowd_dayColumn, Int.floor_intCast, hpoint]
  . intro n hn
    obtain ⟨point, hpoint⟩ := hn
    rw [← hpoint, crowd_dayColumn]
    apply hpacked.countP_covers_le

end CalendarGrid

/-- A column that uses as many lanes as it has items at one point, and no more. -/
structure DayColumn.PacksLanes (column : DayColumn) : Prop where
  apart : column.items.Pairwise fun a b =>
    a.lane = b.lane → ∀ point, ¬(a.Covers point ∧ b.Covers point)
  minimal : ∃ k, (∀ lane, lane < k ↔ ∃ item ∈ column.items, item.lane = lane)
    ∧ IsGreatest (Set.range column.crowd) k
    ∧ column.lanes = max 1 k

namespace CalendarGrid

/-- Once the grid is mounted, a column shows the events of its day; before that it shows none. -/
theorem lane_packing (browser : Browser) (mounted : Bool) (events : List EventRead)
    (dayDate : DateObject)
    : ((dayColumn browser mounted events dayDate).items.map LaidOutEvent.event).Perm
          (if mounted then events.filter (onDay browser dayDate) else [])
        ∧ (dayColumn browser mounted events dayDate).PacksLanes := by
  constructor
  . cases mounted with
    | false => exact List.Perm.nil
    | true => exact perm_dayColumn dayDate
  . constructor
    case apart => apply apart_dayColumn
    case minimal =>
      exists (packed browser mounted events dayDate).2.length
      exact ⟨lane_lt_iff mounted dayDate, isGreatest_crowd mounted dayDate,
        lanes_dayColumn mounted dayDate⟩

end CalendarGrid

end Web
