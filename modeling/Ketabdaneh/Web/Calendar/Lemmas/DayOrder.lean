import Ketabdaneh.Api.Services.Lemmas.EventReads
import Ketabdaneh.Library.Python.Uuid
import Ketabdaneh.Library.Sorting
import Ketabdaneh.Web.Calendar.Lemmas.VisibleHours
import Mathlib.Data.Set.Function

/-!
This module contains in which order a column shows the events that the API lists.
-/

namespace Web

open Calendar Ecma Python Text WeekMath

/-- The order in which the API lists events. -/
def ListedBefore (x y : Api.EventRead) : Prop :=
  ∀ n m, x.plannedAt.instant = some n → y.plannedAt.instant = some m → n < m ∨ n = m ∧ x.id ≤ y.id

structure Listed (reads : List Api.EventRead) : Prop where
  aware : ∀ read ∈ reads, ∃ n, read.plannedAt.instant = some n
  sorted : reads.Pairwise ListedBefore

/-- What the page reads of a listed event; `isoformat` is how a time is written to JSON. -/
def delivered (isoformat : DateTime → Str) (read : Api.EventRead) : EventRead where
  id := uuidText read.id
  plannedAt := isoformat read.plannedAt

/-- The browser reads the times it is sent, to the millisecond, and orders the ids as the API does. -/
structure Delivers (browser : Browser) (isoformat : DateTime → Str) (reads : List Api.EventRead)
    : Prop where
  parse : ∀ read ∈ reads, ∀ n, read.plannedAt.instant = some n →
    browser.parse (isoformat read.plannedAt) = some (n / 1000)
  localeCompare : ∀ x ∈ reads, ∀ y ∈ reads,
    browser.localeCompare (uuidText x.id) (uuidText y.id) ≤ 0 ↔ x.id ≤ y.id

namespace CalendarGrid

variable {browser : Browser} {isoformat : DateTime → Str} {reads : List Api.EventRead}

theorem pairwise_eventBefore (rows : List Api.Event)
    : (rows.mergeSort Api.eventBefore).Pairwise fun a b => Api.eventBefore a b = true := by
  apply List.pairwise_mergeSort
  . intro a b c hab hbc
    simp only [Api.eventBefore, Bool.or_eq_true, Bool.and_eq_true, decide_eq_true_iff,
      Fin.le_def] at *
    omega
  . intro a b
    simp only [Api.eventBefore, Bool.or_eq_true, Bool.and_eq_true, decide_eq_true_iff,
      Fin.le_def] at *
    omega

theorem listed_listEvents {db : Api.Database} (h : Api.listEvents db = some reads) : Listed reads := by
  unfold Api.listEvents at h
  rw [List.mapM_eq_some_iff] at h
  constructor
  case aware =>
    intro read hread
    have hmem : some read ∈ (db.events.rows.mergeSort Api.eventBefore).map Api.readEvent := by
      rw [h]
      exact List.mem_map_of_mem hread
    rw [List.mem_map] at hmem
    obtain ⟨event, _, hevent⟩ := hmem
    exact ⟨_, (Api.readEvent_eq_some hevent).2⟩
  case sorted =>
    have hsorted : (reads.map some).Pairwise fun a b =>
        ∀ x y, a = some x → b = some y → ListedBefore x y := by
      rw [← h, List.pairwise_map]
      apply (pairwise_eventBefore db.events.rows).imp
      intro a b hab x y hx hy n m hn hm
      obtain ⟨hidx, hinstantx⟩ := Api.readEvent_eq_some hx
      obtain ⟨hidy, hinstanty⟩ := Api.readEvent_eq_some hy
      rw [hn, Option.some.injEq] at hinstantx
      rw [hm, Option.some.injEq] at hinstanty
      rw [hinstantx, hinstanty, hidx, hidy]
      simp only [Api.eventBefore, Bool.or_eq_true, Bool.and_eq_true, decide_eq_true_iff] at hab
      exact hab
    rw [List.pairwise_map] at hsorted
    apply hsorted.imp
    intro x y hxy
    exact hxy x y rfl rfl

/-- Every time that Python has is in the range of a `Date`. -/
theorem timeClip_instant {t : DateTime} {n : Int} (h : t.instant = some n)
    : timeClip (n / 1000) = some (n / 1000) := by
  have hdays := Date.toDays_bounds t.year_ge t.year_le
  have hwall := And.intro t.wall.hour_nonneg t.wall.hour_le
  have hminute := And.intro t.wall.minute_nonneg t.wall.minute_le
  have hsecond := And.intro t.wall.second_nonneg t.wall.second_le
  have hmicro := And.intro t.micro_nonneg t.micro_lt
  unfold DateTime.instant at h
  rw [Option.map_eq_some_iff] at h
  obtain ⟨offset, hoffset, hn⟩ := h
  have hbound := t.tzinfo_bound offset hoffset
  unfold Wall.toSeconds at hn
  apply timeClip_of_le
  . unfold maxTime
    omega
  . unfold maxTime
    omega

theorem newDate_delivered (hdelivers : Delivers browser isoformat reads) {read : Api.EventRead}
    (hread : read ∈ reads) {n : Int} (hn : read.plannedAt.instant = some n)
    : browser.newDate (delivered isoformat read).plannedAt = some (n / 1000) := by
  unfold Browser.newDate delivered
  rw [hdelivers.parse read hread n hn, Option.bind_some, timeClip_instant hn]

/-- The items of a list are read off their events again. -/
theorem filterMap_map_event {dayKey : Str} {items : List LaidOutEvent}
    (h : ∀ item ∈ items, dayEvent browser dayKey item.event = some item)
    : (items.map LaidOutEvent.event).filterMap (dayEvent browser dayKey) = items := by
  induction items with
  | nil => rfl
  | cons item items ih =>
    rw [List.map_cons, List.filterMap_cons_some (h item List.mem_cons_self), ih]
    intro item' hitem'
    exact h item' (List.mem_cons_of_mem _ hitem')

theorem dayEvent_event {dayKey : Str} {event : EventRead} {item : LaidOutEvent}
    (h : dayEvent browser dayKey event = some item)
    : dayEvent browser dayKey item.event = some item := by
  obtain ⟨date, _, _, hlay⟩ := dayEvent_eq_some.mp h
  rwa [← hlay, event_layOut, hlay]

/-- A column keeps the order of its events when sorting leaves its items alone. -/
theorem map_event_eq_iff {events : List EventRead} {dayDate : DateObject}
    : (dayColumn browser true events dayDate).items.map LaidOutEvent.event
          =
        events.filter (onDay browser dayDate)
        ↔
      (events.filterMap (dayEvent browser (isoOf dayDate))).mergeSort
            (fun a b => compareItems browser a b ≤ 0)
          =
        events.filterMap (dayEvent browser (isoOf dayDate)) := by
  have hself : ∀ item ∈ events.filterMap (dayEvent browser (isoOf dayDate)),
      dayEvent browser (isoOf dayDate) item.event = some item := by
    intro item hitem
    rw [List.mem_filterMap] at hitem
    obtain ⟨event, _, hevent⟩ := hitem
    exact dayEvent_event hevent
  have hcolumn :
      (dayColumn browser true events dayDate).items.map LaidOutEvent.event
        =
      ((events.filterMap (dayEvent browser (isoOf dayDate))).mergeSort
        fun a b => compareItems browser a b ≤ 0).map LaidOutEvent.event := by
    apply map_event_packLanes
  rw [hcolumn, ← map_event_filterMap]
  constructor
  . intro h
    have hsorted : ∀ item ∈ (events.filterMap (dayEvent browser (isoOf dayDate))).mergeSort
        (fun a b => compareItems browser a b ≤ 0),
        dayEvent browser (isoOf dayDate) item.event = some item := by
      intro item hitem
      rw [List.mem_mergeSort] at hitem
      exact hself item hitem
    rw [← filterMap_map_event hsorted, h, filterMap_map_event hself]
  . intro h
    rw [h]

theorem compareItems_le_iff (hdelivers : Delivers browser isoformat reads) {key : Str → Api.UUID}
    (hkey : ∀ read ∈ reads, key (uuidText read.id) = read.id) {dayKey : Str}
    : ∀ a ∈ (reads.map (delivered isoformat)).filterMap (dayEvent browser dayKey),
      ∀ b ∈ (reads.map (delivered isoformat)).filterMap (dayEvent browser dayKey),
        decide (compareItems browser a b ≤ 0) = true
          ↔
        a.top < b.top ∨ a.top = b.top ∧ key a.event.id ≤ key b.event.id := by
  have hread : ∀ item ∈ (reads.map (delivered isoformat)).filterMap (dayEvent browser dayKey),
      ∃ read ∈ reads, item.event.id = uuidText read.id := by
    intro item hitem
    rw [List.mem_filterMap] at hitem
    obtain ⟨event, hevent, hitem⟩ := hitem
    rw [List.mem_map] at hevent
    obtain ⟨read, hread, hevent⟩ := hevent
    obtain ⟨date, _, _, hlay⟩ := dayEvent_eq_some.mp hitem
    refine ⟨read, hread, ?_⟩
    rw [← hlay, event_layOut, ← hevent]
    rfl
  intro a ha b hb
  obtain ⟨x, hx, hxid⟩ := hread a ha
  obtain ⟨y, hy, hyid⟩ := hread b hb
  rw [decide_eq_true_iff, hxid, hyid, hkey x hx, hkey y hy, ← hdelivers.localeCompare x hx y hy]
  unfold compareItems
  split
  . omega
  . rw [hxid, hyid]
    omega

/-- The ids can be told apart in the browser. -/
theorem exists_key (hdelivers : Delivers browser isoformat reads)
    : ∃ key : Str → Api.UUID, ∀ read ∈ reads, key (uuidText read.id) = read.id := by
  have hinjective : Set.InjOn uuidText {id | ∃ read ∈ reads, read.id = id} := by
    intro a ha b hb hab
    obtain ⟨x, hx, hxa⟩ := ha
    obtain ⟨y, hy, hyb⟩ := hb
    rw [← hxa, ← hyb] at hab ⊢
    have hself := (hdelivers.localeCompare x hx x hx).mpr (le_refl _)
    apply le_antisymm
    . rw [← hdelivers.localeCompare x hx y hy, ← hab]
      exact hself
    . rw [← hdelivers.localeCompare y hy x hx, ← hab]
      exact hself
  exists Function.invFunOn uuidText {id | ∃ read ∈ reads, read.id = id}
  intro read hread
  exact hinjective.leftInvOn_invFunOn ⟨read, hread, rfl⟩

/-- Where the block of an event starts that is listed at an instant in microseconds. -/
def slot (browser : Browser) (n : Int) : Int :=
  max 0 (min (gridMinute (browser.clock.wall (n / 1000))) 792)

/-- Of two events of one local day the grid does not put the later one first. -/
def InPlace (browser : Browser) (x y : Api.EventRead) : Prop :=
  ∀ n m, x.plannedAt.instant = some n → y.plannedAt.instant = some m → n < m →
    (browser.clock.wall (n / 1000)).date = (browser.clock.wall (m / 1000)).date →
      slot browser n < slot browser m ∨ slot browser n = slot browser m ∧ x.id ≤ y.id

theorem dayEvent_delivered (hdelivers : Delivers browser isoformat reads) {read : Api.EventRead}
    (hread : read ∈ reads) {n : Int} (hn : read.plannedAt.instant = some n) {dayDate : DateObject}
    {item : LaidOutEvent}
    : dayEvent browser (isoOf dayDate) (delivered isoformat read) = some item
        ↔
      localKey browser (n / 1000) = isoOf dayDate
        ∧ layOut browser (delivered isoformat read) (n / 1000) = item := by
  rw [dayEvent_eq_some]
  constructor
  . intro h
    obtain ⟨date, hdate, hkey, hlay⟩ := h
    rw [newDate_delivered hdelivers hread hn, Option.some.injEq] at hdate
    rw [← hdate] at hkey hlay
    exact ⟨hkey, hlay⟩
  . intro h
    exact ⟨_, newDate_delivered hdelivers hread hn, h⟩

theorem pairwise_dayEvents_iff (hdelivers : Delivers browser isoformat reads)
    {key : Str → Api.UUID} (hkey : ∀ read ∈ reads, key (uuidText read.id) = read.id)
    (hlisted : Listed reads) (dayDate : DateObject)
    : ((reads.map (delivered isoformat)).filterMap (dayEvent browser (isoOf dayDate))).Pairwise
        (fun a b => a.top < b.top ∨ a.top = b.top ∧ key a.event.id ≤ key b.event.id)
        ↔
      reads.Pairwise fun x y => ∀ n m, x.plannedAt.instant = some n → y.plannedAt.instant = some m →
        localKey browser (n / 1000) = isoOf dayDate → localKey browser (m / 1000) = isoOf dayDate →
          slot browser n < slot browser m ∨ slot browser n = slot browser m ∧ x.id ≤ y.id := by
  rw [List.pairwise_filterMap, List.pairwise_map]
  apply List.Pairwise.iff_of_mem
  intro x y hx hy
  obtain ⟨n, hn⟩ := hlisted.aware x hx
  obtain ⟨m, hm⟩ := hlisted.aware y hy
  simp only [dayEvent_delivered hdelivers hx hn, dayEvent_delivered hdelivers hy hm, hn, hm,
    Option.some.injEq]
  constructor
  . intro h n' m' hn' hm' hday hday'
    rw [← hn'] at hday ⊢
    rw [← hm'] at hday' ⊢
    have hplace := h _ ⟨hday, rfl⟩ _ ⟨hday', rfl⟩
    rw [top_layOut, top_layOut, event_layOut, event_layOut] at hplace
    unfold delivered at hplace
    rwa [hkey x hx, hkey y hy] at hplace
  . intro h a ha b hb
    rw [← ha.2, ← hb.2, top_layOut, top_layOut, event_layOut, event_layOut]
    unfold delivered
    rw [hkey x hx, hkey y hy]
    exact h n m rfl rfl ha.1 hb.1

theorem map_event_eq_iff_pairwise (hlisted : Listed reads)
    (hdelivers : Delivers browser isoformat reads) (dayDate : DateObject)
    : (dayColumn browser true (reads.map (delivered isoformat)) dayDate).items.map LaidOutEvent.event
          =
        (reads.map (delivered isoformat)).filter (onDay browser dayDate)
        ↔
      reads.Pairwise fun x y => ∀ n m, x.plannedAt.instant = some n → y.plannedAt.instant = some m →
        localKey browser (n / 1000) = isoOf dayDate → localKey browser (m / 1000) = isoOf dayDate →
          slot browser n < slot browser m ∨ slot browser n = slot browser m ∧ x.id ≤ y.id := by
  obtain ⟨key, hkey⟩ := exists_key hdelivers
  rw [map_event_eq_iff, ← pairwise_dayEvents_iff hdelivers hkey hlisted]
  apply Sorting.mergeSort_eq_self_iff _ _ (compareItems_le_iff hdelivers hkey)
  . intro a b c hab hbc
    simp only [Fin.le_def] at *
    omega
  . intro a b
    simp only [Fin.le_def]
    omega

/-- The columns keep the order of the API exactly when every two events of one day are in place. -/
theorem keepsOrder_iff (hlisted : Listed reads) (hdelivers : Delivers browser isoformat reads)
    : (∀ dayDate,
          (dayColumn browser true (reads.map (delivered isoformat)) dayDate).items.map
              LaidOutEvent.event
            =
          (reads.map (delivered isoformat)).filter (onDay browser dayDate))
        ↔
      ∀ x ∈ reads, ∀ y ∈ reads, InPlace browser x y := by
  have hcolumn := map_event_eq_iff_pairwise hlisted hdelivers
  constructor
  . intro hkeeps x hx y hy n m hn hm hlt hday
    rw [List.mem_iff_getElem] at hx hy
    obtain ⟨i, hi, hx⟩ := hx
    obtain ⟨j, hj, hy⟩ := hy
    have hordered := (hcolumn (some (86400000 * (browser.clock.wall (n / 1000)).date.toDays))).mp
      (hkeeps _)
    rw [List.pairwise_iff_getElem] at hordered
    have hsorted := hlisted.sorted
    rw [List.pairwise_iff_getElem] at hsorted
    cases Nat.lt_or_ge i j with
    | inl hij =>
      have hplace := hordered i j hi hj hij
      rw [hx, hy, isoOf_midnight] at hplace
      apply hplace n m hn hm (localKey_eq _)
      rw [localKey_eq, hday]
    | inr hji =>
      cases Nat.eq_or_lt_of_le hji with
      | inl heq =>
        subst heq
        rw [← hx, hy, hm, Option.some.injEq] at hn
        omega
      | inr hji =>
        have hbefore := hsorted j i hj hi hji
        rw [hx, hy] at hbefore
        have := hbefore m n hm hn
        omega
  . intro hplaces dayDate
    rw [hcolumn]
    apply hlisted.sorted.imp_of_mem
    intro x y hx hy hbefore n m hn hm hday hday'
    cases hbefore n m hn hm with
    | inl hlt =>
      apply hplaces x hx y hy n m hn hm hlt
      rw [← hday', localKey_eq, localKey_eq] at hday
      exact dateKey_injective hday
    | inr heq =>
      right
      rw [heq.1]
      exact ⟨rfl, heq.2⟩

def doorsOpen : Api.Event where
  id := 2
  title := ofString "Doors open"
  type := ofString "READING_CLUB"
  plannedAt := 1784530800000000

def rehearsal : Api.Event where
  id := 1
  title := ofString "Rehearsal"
  type := ofString "READING_CLUB"
  plannedAt := 1784532600000000

/-- Two events before the grid's first hour. -/
def earlyEvents : Api.Database :=
  { Api.bareDatabase with
    events := { rows := [doorsOpen, rehearsal], nodup := by decide }
    fk_event_assignments_event_id := by simp [Api.bareDatabase, Api.Seed.database] }

def earlyReads : List Api.EventRead :=
  [doorsOpen, rehearsal].filterMap Api.readEvent

def earlyIsoformat (t : DateTime) : Str :=
  if t.instant = some doorsOpen.plannedAt then ofString "2026-07-20T07:00:00Z"
  else ofString "2026-07-20T07:30:00Z"

def earlyViewer : Browser where
  parse iso :=
    if iso = ofString "2026-07-20T07:00:00Z" then some 1784530800000
    else if iso = ofString "2026-07-20T07:30:00Z" then some 1784532600000
    else none
  clock := ⟨fun _ => 0⟩
  localeCompare a b := if a < b then -1 else if b < a then 1 else 0
  formatTime _ := ofString "07:00"

theorem listEvents_earlyEvents : Api.listEvents earlyEvents = some earlyReads := by
  have hsorted : [doorsOpen, rehearsal].mergeSort Api.eventBefore = [doorsOpen, rehearsal] := by
    apply List.mergeSort_of_pairwise
    decide
  have hrows : earlyEvents.events.rows = [doorsOpen, rehearsal] := by
    rfl
  rw [Api.listEvents, hrows, hsorted]
  rfl

theorem delivers_earlyReads : Delivers earlyViewer earlyIsoformat earlyReads where
  parse := by decide +kernel
  localeCompare := by decide +kernel

theorem earlyReads_keepsOrder_iff
    : (∀ dayDate,
          (dayColumn earlyViewer true (earlyReads.map (delivered earlyIsoformat)) dayDate).items.map
              LaidOutEvent.event
            =
          (earlyReads.map (delivered earlyIsoformat)).filter (onDay earlyViewer dayDate))
        ↔
      ∀ x ∈ earlyReads, ∀ y ∈ earlyReads, InPlace earlyViewer x y := by
  exact keepsOrder_iff (listed_listEvents listEvents_earlyEvents) delivers_earlyReads

/-- The grid shows the rehearsal of half past seven before the doors of seven. -/
theorem earlyReads_reordered
    : Api.listEvents earlyEvents = some earlyReads
        ∧ Delivers earlyViewer earlyIsoformat earlyReads
        ∧ ¬∀ dayDate,
            (dayColumn earlyViewer true (earlyReads.map (delivered earlyIsoformat)) dayDate).items.map
                LaidOutEvent.event
              =
            (earlyReads.map (delivered earlyIsoformat)).filter (onDay earlyViewer dayDate) := by
  refine ⟨listEvents_earlyEvents, delivers_earlyReads, ?_⟩
  intro h
  have hordered := (map_event_eq_iff_pairwise (listed_listEvents listEvents_earlyEvents)
    delivers_earlyReads (some 1784505600000)).mp (h _)
  have hreversed := (List.pairwise_cons.mp hordered).1 _ List.mem_cons_self
    doorsOpen.plannedAt rehearsal.plannedAt rfl rfl (by decide +kernel) (by decide +kernel)
  revert hreversed
  decide

end CalendarGrid

end Web
