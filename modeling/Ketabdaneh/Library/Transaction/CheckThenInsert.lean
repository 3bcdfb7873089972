import Ketabdaneh.Library.Transaction.Interleaving
import Mathlib.Data.List.Infix
import Mathlib.Data.List.Count

/-!
This module contains calls that look for a row, and write it if it is not there. Two such calls for
one row are first followed by the phases they go through.
-/

namespace Transaction
namespace CheckThenInsert

inductive Phase where
  /-- Before the check, with other queries left before it. -/
  | reading (left : Nat)
  | checked
  | written
  | succeeded
  /-- Ended by the check. -/
  | taken
  /-- Ended in any other way. -/
  | failed
  deriving DecidableEq

/-- A statement of a session: it depends on whether the row is there, and on the other session. -/
inductive Move (present : Prop) (other : Phase) : Phase → Phase → Prop where
  | read (left : Nat) : Move present other (.reading (left + 1)) (.reading left)
  | readFails (left : Nat) : Move present other (.reading (left + 1)) .failed
  | find (hpresent : present) : Move present other (.reading 0) .taken
  | check (habsent : ¬present) : Move present other (.reading 0) .checked
  | checkFails (habsent : ¬present) : Move present other (.reading 0) .failed
  | write (habsent : ¬present) (hwaits : other ≠ .written) : Move present other .checked .written
  | writeFails : Move present other .checked .failed
  | commit : Move present other .written .succeeded

structure Phases where
  present : Prop
  phase : Bool → Phase

structure Step (s : Phases) (i : Bool) (t : Phases) : Prop where
  move : Move s.present (s.phase !i) (s.phase i) (t.phase i)
  other : t.phase (!i) = s.phase (!i)
  present : t.present ↔ s.present ∨ t.phase i = .succeeded

inductive Steps (s : Phases) : List Bool → Phases → Prop where
  | nil : Steps s [] s
  | concat {is i t u} (hsteps : Steps s is t) (hstep : Step t i u) : Steps s (is ++ [i]) u

/-- Session `i` has committed before the other one checks, the statement after its other queries. -/
def CommitsFirst (reads : Bool → Nat) (schedule : List Bool) (i : Bool) : Prop :=
  ∃ before, before ++ [!i] <+: schedule
    ∧ before.count (!i) = reads (!i) ∧ before.count i = reads i + 3

theorem not_commitsFirst_nil {reads : Bool → Nat} {i : Bool} : ¬CommitsFirst reads [] i := by
  rintro ⟨before, hprefix, _⟩
  rw [List.prefix_nil] at hprefix
  exact absurd hprefix (by simp)

theorem commitsFirst_concat {reads : Bool → Nat} {schedule : List Bool} {i j : Bool}
    : CommitsFirst reads (schedule ++ [j]) i
        ↔
      CommitsFirst reads schedule i
        ∨ j = (!i) ∧ schedule.count (!i) = reads (!i) ∧ schedule.count i = reads i + 3 := by
  simp only [CommitsFirst, List.prefix_concat_iff]
  constructor
  . rintro ⟨before, h | h, hcounts⟩
    . rw [← List.concat_eq_append, ← List.concat_eq_append, List.concat_inj] at h
      rw [h.1] at hcounts
      exact Or.inr ⟨h.2.symm, hcounts⟩
    . exact Or.inl ⟨before, h, hcounts⟩
  . rintro (⟨before, h, hcounts⟩ | ⟨hj, hcounts⟩)
    . exact ⟨before, Or.inr h, hcounts⟩
    . rw [hj]
      exact ⟨schedule, Or.inl rfl, hcounts⟩

/-- How many statements a session has taken in a phase; a failure ends it before its commit. -/
def Phase.Counts (reads count : Nat) : Phase → Prop
  | .reading left => count + left = reads
  | .checked => count = reads + 1
  | .written => count = reads + 2
  | .succeeded => count = reads + 3
  | .taken => count = reads + 1
  | .failed => count ≤ reads + 2

/-- The row is there because of the session, or will be. -/
def Phase.Owns (phase : Phase) : Prop :=
  phase = .written ∨ phase = .succeeded

namespace Move

variable {present : Prop} {other phase phase' : Phase}

theorem counts {reads count : Nat} (h : Move present other phase phase')
    (hphase : phase.Counts reads count) : phase'.Counts reads (count + 1) := by
  cases h
  all_goals
    simp only [Phase.Counts] at hphase ⊢
    omega

theorem not_ended (h : Move present other phase phase') : phase ≠ .succeeded ∧ phase ≠ .taken := by
  cases h
  all_goals simp

theorem eq_taken (h : Move present other (.reading 0) phase') (hpresent : present)
    : phase' = .taken := by
  cases h with
  | find => rfl
  | check habsent => exact absurd hpresent habsent
  | checkFails habsent => exact absurd hpresent habsent

theorem of_taken (h : Move present other phase .taken) : phase = .reading 0 ∧ present := by
  cases h with
  | find hpresent => exact ⟨rfl, hpresent⟩

theorem owns (h : Move present other phase phase') (howns : phase'.Owns)
    : phase.Owns ∨ ¬present ∧ other ≠ .written := by
  cases h with
  | write habsent hwaits => exact Or.inr ⟨habsent, hwaits⟩
  | commit => exact Or.inl (Or.inl rfl)
  | _ => simp [Phase.Owns] at howns

theorem waits (h : Move present other phase .written) : other ≠ .written := by
  cases h with
  | write _ hwaits => exact hwaits

theorem eq_reading (h : Move present other phase phase') (reads : Nat)
    (hcounts : phase.Counts reads reads) : phase = .reading 0 := by
  cases h
  all_goals
    simp only [Phase.Counts] at hcounts
    first
      | rfl
      | omega

end Move

theorem Phase.Counts.eq_succeeded (reads : Nat) {phase : Phase}
    (h : phase.Counts reads (reads + 3)) : phase = .succeeded := by
  cases phase
  all_goals
    simp only [Phase.Counts] at h
    first
      | rfl
      | omega

theorem eq_or_eq_not (i j : Bool) : j = i ∨ j = !i := by
  cases i with
  | false => cases j with
    | false => exact Or.inl rfl
    | true => exact Or.inr rfl
  | true => cases j with
    | false => exact Or.inr rfl
    | true => exact Or.inl rfl

/-- What holds after a schedule, of two sessions that began where the row was there or was not. -/
structure Reached (reads : Bool → Nat) (present₀ : Prop) (schedule : List Bool) (s : Phases)
    : Prop where
  counts : ∀ i, (s.phase i).Counts (reads i) (schedule.count i)
  present : s.present ↔ present₀ ∨ ∃ i, s.phase i = .succeeded
  alone : ∀ i, (s.phase i).Owns → ¬(s.phase !i).Owns ∧ ¬present₀
  first : ∀ i, CommitsFirst reads schedule i → s.phase i = .succeeded ∧ s.phase (!i) = .taken
  found : ∀ i, s.phase (!i) = .taken → present₀ ∨ CommitsFirst reads schedule i

namespace Reached

variable {reads : Bool → Nat} {present₀ : Prop} {schedule : List Bool} {s t : Phases} {i : Bool}

theorem counts_step (h : Reached reads present₀ schedule s) (hstep : Step s i t) (j : Bool)
    : (t.phase j).Counts (reads j) ((schedule ++ [i]).count j) := by
  have hj := h.counts j
  rw [List.count_append]
  rcases eq_or_eq_not i j with rfl | rfl
  . rw [List.count_singleton_self]
    exact hstep.move.counts hj
  . rw [hstep.other]
    simpa using hj

theorem present_step (h : Reached reads present₀ schedule s) (hstep : Step s i t)
    : t.present ↔ present₀ ∨ ∃ j, t.phase j = .succeeded := by
  rw [hstep.present, h.present, or_assoc]
  apply or_congr_right
  constructor
  . rintro (⟨j, hj⟩ | hi)
    . rcases eq_or_eq_not i j with rfl | rfl
      . exact absurd hj hstep.move.not_ended.1
      . exact ⟨!i, by rw [hstep.other, hj]⟩
    . exact ⟨i, hi⟩
  . rintro ⟨j, hj⟩
    rcases eq_or_eq_not i j with rfl | rfl
    . exact Or.inr hj
    . rw [hstep.other] at hj
      exact Or.inl ⟨!i, hj⟩

theorem owns_step (h : Reached reads present₀ schedule s) (hstep : Step s i t)
    (howns : (t.phase i).Owns) : ¬(s.phase !i).Owns ∧ ¬present₀ := by
  rcases hstep.move.owns howns with howned | ⟨habsent, hwaits⟩
  . exact h.alone i howned
  . rw [h.present, not_or, not_exists] at habsent
    constructor
    . rintro (hwritten | hsucceeded)
      . exact hwaits hwritten
      . exact habsent.2 _ hsucceeded
    . exact habsent.1

theorem alone_step (h : Reached reads present₀ schedule s) (hstep : Step s i t) (j : Bool)
    (howns : (t.phase j).Owns) : ¬(t.phase !j).Owns ∧ ¬present₀ := by
  rcases eq_or_eq_not i j with rfl | rfl
  . rw [hstep.other]
    exact h.owns_step hstep howns
  . rw [hstep.other] at howns
    constructor
    . intro hi
      rw [Bool.not_not] at hi
      exact (h.owns_step hstep hi).1 howns
    . exact (h.alone _ howns).2

theorem first_step (h : Reached reads present₀ schedule s) (hstep : Step s i t) (j : Bool)
    (hfirst : CommitsFirst reads (schedule ++ [i]) j)
    : t.phase j = .succeeded ∧ t.phase (!j) = .taken := by
  rw [commitsFirst_concat] at hfirst
  rcases hfirst with hfirst | ⟨rfl, hreads, hcommits⟩
  . -- both have ended, so there is no further statement
    have hended := h.first j hfirst
    rcases eq_or_eq_not j i with rfl | rfl
    . exact absurd hended.1 hstep.move.not_ended.1
    . exact absurd hended.2 hstep.move.not_ended.2
  . have hother := hstep.other
    rw [Bool.not_not] at hother
    have hsucceeded : s.phase j = .succeeded := by
      apply Phase.Counts.eq_succeeded (reads j)
      rw [← hcommits]
      exact h.counts j
    have hreading : s.phase (!j) = .reading 0 := by
      apply hstep.move.eq_reading (reads !j)
      have hcounts := h.counts !j
      rwa [hreads] at hcounts
    have hmove := hstep.move
    rw [hreading] at hmove
    rw [hother]
    refine ⟨hsucceeded, hmove.eq_taken ?_⟩
    rw [h.present]
    exact Or.inr ⟨j, hsucceeded⟩

theorem found_step (h : Reached reads present₀ schedule s) (hstep : Step s i t) (j : Bool)
    (htaken : t.phase (!j) = .taken)
    : present₀ ∨ CommitsFirst reads (schedule ++ [i]) j := by
  rw [commitsFirst_concat]
  rcases eq_or_eq_not i j with rfl | rfl
  . rw [hstep.other] at htaken
    rcases h.found j htaken with hpresent | hfirst
    . exact Or.inl hpresent
    . exact Or.inr (Or.inl hfirst)
  . rw [Bool.not_not] at htaken
    have hmove := hstep.move
    rw [htaken] at hmove
    rcases hmove.of_taken with ⟨hreading, hpresent⟩
    have hi := h.counts i
    rw [hreading, Phase.Counts] at hi
    rcases h.present.mp hpresent with hpresent | ⟨k, hk⟩
    . exact Or.inl hpresent
    . rcases eq_or_eq_not i k with rfl | rfl
      . rw [hk] at hreading
        injection hreading
      . have hcounts := h.counts !i
        rw [hk, Phase.Counts] at hcounts
        rw [Bool.not_not]
        exact Or.inr (Or.inr ⟨rfl, by omega, hcounts⟩)

theorem step (h : Reached reads present₀ schedule s) (hstep : Step s i t)
    : Reached reads present₀ (schedule ++ [i]) t where
  counts := h.counts_step hstep
  present := h.present_step hstep
  alone := h.alone_step hstep
  first := h.first_step hstep
  found := h.found_step hstep

theorem start (h : ∀ i, s.phase i = .reading (reads i) ∨ s.phase i = .failed)
    : Reached reads s.present [] s where
  counts i := by
    rcases h i with h | h
    . simp [h, Phase.Counts]
    . simp [h, Phase.Counts]
  present := by
    constructor
    . exact Or.inl
    . rintro (h | ⟨i, hi⟩)
      . exact h
      . rcases h i with h | h
        . simp [h] at hi
        . simp [h] at hi
  alone i howns := by
    rcases h i with h | h
    . simp [h, Phase.Owns] at howns
    . simp [h, Phase.Owns] at howns
  first i hfirst := absurd hfirst not_commitsFirst_nil
  found i htaken := by
    rcases h !i with h | h
    . simp [h] at htaken
    . simp [h] at htaken

theorem steps (h : ∀ i, s.phase i = .reading (reads i) ∨ s.phase i = .failed)
    (hsteps : Steps s schedule t) : Reached reads s.present schedule t := by
  induction hsteps with
  | nil => exact start h
  | concat _ hstep ih => exact ih.step hstep

/-- One session succeeds, and the check ends the other, exactly if the one commits first. -/
theorem succeeded_taken_iff (h : Reached reads present₀ schedule s) (i : Bool)
    : s.phase i = .succeeded ∧ s.phase (!i) = .taken ↔ CommitsFirst reads schedule i := by
  constructor
  . rintro ⟨hsucceeded, htaken⟩
    rcases h.found i htaken with hpresent | hfirst
    . exact absurd hpresent (h.alone i (Or.inr hsucceeded)).2
    . exact hfirst
  . exact h.first i

end Reached

end CheckThenInsert
end Transaction
