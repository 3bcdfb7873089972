import Ketabdaneh.Library.Calendar.Rfc3339

/-!
This module contains Python's `datetime`: its range, aware and naive values and the instant an aware
value denotes.
-/

namespace Python

open Calendar

def MINYEAR : Int := 1

def MAXYEAR : Int := 9999

@[ext]
structure DateTime where
  wall : Wall
  micro : Int
  /-- The UTC offset in minutes; `none` is a naive value. -/
  tzinfo : Option Int
  year_ge : MINYEAR ≤ wall.date.year
  year_le : wall.date.year ≤ MAXYEAR
  micro_nonneg : 0 ≤ micro
  micro_lt : micro < 1000000
  tzinfo_bound : ∀ offset, tzinfo = some offset → -1440 < offset ∧ offset < 1440

namespace DateTime

instance : DecidableEq DateTime := fun _ _ =>
  decidable_of_iff _ DateTime.ext_iff.symm

def mk? (wall : Wall) (micro : Int) (tzinfo : Option Int) : Option DateTime :=
  if h : (MINYEAR ≤ wall.date.year ∧ wall.date.year ≤ MAXYEAR) ∧ (0 ≤ micro ∧ micro < 1000000)
      ∧ ∀ offset ∈ tzinfo, -1440 < offset ∧ offset < 1440 then
    some ⟨wall, micro, tzinfo, h.1.1, h.1.2, h.2.1.1, h.2.1.2, h.2.2⟩
  else
    none

def instant (t : DateTime) : Option Int :=
  t.tzinfo.map fun offset => 1000000 * (t.wall.toSeconds - 60 * offset) + t.micro

def ofInstant (n : Int) : Option DateTime :=
  mk? (.ofSeconds (n / 1000000)) (n % 1000000) (some 0)

def ofRfc3339 (s : Str) : Option DateTime := do
  let t ← Rfc3339.readDateTime s
  mk? t.wall t.micro (some t.offset)

theorem mk?_eq_some {wall : Wall} {micro : Int} {tzinfo : Option Int} {t : DateTime}
    (h : mk? wall micro tzinfo = some t)
    : t.wall = wall ∧ t.micro = micro ∧ t.tzinfo = tzinfo := by
  unfold mk? at h
  split at h
  . simp only [Option.some.injEq] at h
    rw [← h]
    exact ⟨rfl, rfl, rfl⟩
  . simp at h

theorem mk?_isSome {wall : Wall} {micro : Int} {tzinfo : Option Int}
    : (mk? wall micro tzinfo).isSome
        ↔
      (MINYEAR ≤ wall.date.year ∧ wall.date.year ≤ MAXYEAR) ∧ (0 ≤ micro ∧ micro < 1000000)
        ∧ ∀ offset ∈ tzinfo, -1440 < offset ∧ offset < 1440 := by
  unfold mk?
  split
  . next h => exact iff_of_true rfl h
  . next h => exact iff_of_false (by simp) h

theorem ofInstant_isSome {n : Int}
    : (ofInstant n).isSome
        ↔
      MINYEAR ≤ (Wall.ofSeconds (n / 1000000)).date.year
        ∧ (Wall.ofSeconds (n / 1000000)).date.year ≤ MAXYEAR := by
  unfold ofInstant
  rw [mk?_isSome]
  constructor
  . intro h
    exact h.1
  . intro h
    refine ⟨h, by omega, ?_⟩
    intro offset hoffset
    simp only [Option.mem_def, Option.some.injEq] at hoffset
    omega

theorem instant_ofInstant {n : Int} {t : DateTime} (h : ofInstant n = some t)
    : t.instant = some n := by
  obtain ⟨hw, hm, ho⟩ := mk?_eq_some h
  simp only [instant, hw, hm, ho, Option.map_some, Wall.toSeconds_ofSeconds, Option.some.injEq]
  omega

end DateTime

end Python
