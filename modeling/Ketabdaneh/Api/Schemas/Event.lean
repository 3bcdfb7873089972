import Ketabdaneh.Library.Python.DateTime

namespace Api

open Python

def mustBeTimezoneAware (value : DateTime) : Except String DateTime :=
  if value.tzinfo = none then
    .error "planned_at must include a timezone offset (e.g. \"2026-09-19T17:00:00+03:30\")"
  else
    .ok value

theorem mustBeTimezoneAware_eq_ok {value value' : DateTime}
    (h : mustBeTimezoneAware value = .ok value') : value' = value ∧ value.tzinfo ≠ none := by
  unfold mustBeTimezoneAware at h
  split at h
  . simp at h
  . next hne =>
    simp only [Except.ok.injEq] at h
    exact ⟨h.symm, hne⟩

structure EventCreate where
  title : Str
  type : Str
  plannedAt : DateTime
  aware : plannedAt.tzinfo ≠ none

namespace EventCreate

def validate (title type : Str) (plannedAt : DateTime) : Except String EventCreate :=
  match h : mustBeTimezoneAware plannedAt with
  | .error message => .error message
  | .ok value => .ok ⟨title, type, value, by
      obtain ⟨rfl, hne⟩ := mustBeTimezoneAware_eq_ok h
      exact hne⟩

/--
A request body whose `planned_at` is a text of RFC 3339, the only form that is read here of those
that pydantic takes; `none` is a rejected one.
-/
def ofJson (title type plannedAt : Str) : Option EventCreate := do
  let value ← DateTime.ofRfc3339 plannedAt
  (validate title type value).toOption

def instant (payload : EventCreate) : Int :=
  payload.plannedAt.instant.get (by
    simpa [DateTime.instant] using Option.isSome_iff_ne_none.mpr payload.aware)

theorem instant_plannedAt (payload : EventCreate)
    : payload.plannedAt.instant = some payload.instant := by
  simp [instant]

theorem validate_eq_ok (title type : Str) {value : DateTime} (h : value.tzinfo ≠ none)
    : ∃ event, validate title type value = .ok event ∧ event.plannedAt = value := by
  unfold validate
  split
  . next heq => simp [mustBeTimezoneAware, h] at heq
  . next heq => exact ⟨_, rfl, (mustBeTimezoneAware_eq_ok heq).1⟩

theorem validate_plannedAt {title type : Str} {value : DateTime} {event : EventCreate}
    (h : validate title type value = .ok event) : event.plannedAt = value := by
  unfold validate at h
  split at h
  . simp at h
  . next heq =>
    simp only [Except.ok.injEq] at h
    rw [← h]
    exact (mustBeTimezoneAware_eq_ok heq).1

theorem ofJson_eq_some_iff {title type plannedAt : Str} {n : Int}
    : (∃ event, ofJson title type plannedAt = some event ∧ event.instant = n)
        ↔
      ∃ value, DateTime.ofRfc3339 plannedAt = some value ∧ value.instant = some n := by
  constructor
  . rintro ⟨event, hjson, rfl⟩
    simp only [ofJson, Option.bind_eq_bind, Option.bind_eq_some_iff] at hjson
    obtain ⟨value, hvalue, hevent⟩ := hjson
    refine ⟨value, hvalue, ?_⟩
    cases hv : validate title type value with
    | error message => simp [hv, Except.toOption] at hevent
    | ok event' =>
      simp only [hv, Except.toOption, Option.some.injEq] at hevent
      rw [← validate_plannedAt hv, hevent]
      exact event.instant_plannedAt
  . rintro ⟨value, hvalue, hn⟩
    have haware : value.tzinfo ≠ none := by
      intro hnone
      simp [DateTime.instant, hnone] at hn
    obtain ⟨event, hevent, hplanned⟩ := validate_eq_ok title type haware
    refine ⟨event, ?_, ?_⟩
    . simp [ofJson, hvalue, hevent, Except.toOption]
    . have := event.instant_plannedAt
      rw [hplanned, hn] at this
      simpa using this.symm

end EventCreate

end Api
