import Mathlib.Data.List.Nodup
import Mathlib.Data.List.Perm.Subperm
import Mathlib.Order.Lattice
import Mathlib.Tactic.Common

/-!
This module contains the packing of half open intervals into lanes: each, in the order of their
starts, joins the first lane whose last interval has ended, or opens a new one. The lanes are then as
few as there can be.
-/

namespace IntervalPacking

variable {α τ : Type} [LinearOrder τ] (start finish : α → τ)

/-- The lane an interval joins, and where the lanes end with it. -/
def place (ends : List τ) (a : α) : Nat × List τ :=
  match ends.findIdx? fun laneEnd => laneEnd ≤ start a with
  | none => (ends.length, ends ++ [finish a])
  | some lane => (lane, ends.set lane (finish a))

def pack (ends : List τ) : List α → List (α × Nat) × List τ
  | [] => ([], ends)
  | a :: as =>
    let placed := place start finish ends a
    let packed := pack placed.2 as
    ((a, placed.1) :: packed.1, packed.2)

def covers (p : τ) (a : α) : Bool :=
  start a ≤ p && p < finish a

theorem covers_iff {p : τ} {a : α} : covers start finish p a = true ↔ start a ≤ p ∧ p < finish a := by
  simp [covers]

/-- What holds of the intervals that were placed, and of where their lanes end. -/
structure Packed (placed : List (α × Nat)) (ends : List τ) : Prop where
  lane_lt : ∀ x ∈ placed, x.2 < ends.length
  last : ∀ (lane : Nat) laneEnd, ends[lane]? = some laneEnd →
    ∃ a, (a, lane) ∈ placed ∧ finish a = laneEnd
  finish_le : ∀ x ∈ placed, ∀ laneEnd, ends[x.2]? = some laneEnd → finish x.1 ≤ laneEnd
  apart : placed.Pairwise fun x y => x.2 = y.2 → finish x.1 ≤ start y.1
  /-- Every lane was opened at a point that the lanes before it cover. -/
  crowded : ends = [] ∨ ∃ p, ∀ lane < ends.length, ∃ a, (a, lane) ∈ placed
    ∧ covers start finish p a = true

variable {start finish}

theorem packed_nil : Packed start finish [] [] where
  lane_lt := by simp
  last := by simp
  finish_le := by simp
  apart := List.Pairwise.nil
  crowded := Or.inl rfl

namespace Packed

variable {placed : List (α × Nat)} {ends : List τ} {a : α}

theorem open_lane (h : Packed start finish placed ends)
    (hsorted : ∀ x ∈ placed, start x.1 ≤ start a) (hproper : start a < finish a)
    (hbusy : ∀ laneEnd ∈ ends, start a < laneEnd)
    : Packed start finish (placed ++ [(a, ends.length)]) (ends ++ [finish a]) := by
  have hnew : (a, ends.length) ∈ placed ++ [(a, ends.length)] := by simp
  constructor
  case lane_lt =>
    intro x hx
    rw [List.length_append, List.length_singleton]
    rw [List.mem_append, List.mem_singleton] at hx
    cases hx with
    | inl hx =>
      have := h.lane_lt x hx
      omega
    | inr hx =>
      rw [hx]
      dsimp only
      omega
  case last =>
    intro lane laneEnd hlane
    rw [List.getElem?_append] at hlane
    split at hlane
    . obtain ⟨b, hb, hfinish⟩ := h.last lane laneEnd hlane
      exact ⟨b, List.mem_append_left _ hb, hfinish⟩
    . next hge =>
      have hlast : lane = ends.length := by
        have hlt := (List.getElem?_eq_some_iff.mp hlane).1
        rw [List.length_singleton] at hlt
        omega
      rw [hlast, Nat.sub_self, List.getElem?_cons_zero, Option.some.injEq] at hlane
      rw [hlast]
      exact ⟨a, hnew, hlane⟩
  case finish_le =>
    intro x hx laneEnd hlane
    rw [List.mem_append, List.mem_singleton] at hx
    cases hx with
    | inl hx =>
      rw [List.getElem?_append_left (h.lane_lt x hx)] at hlane
      exact h.finish_le x hx laneEnd hlane
    | inr hx =>
      rw [hx, List.getElem?_concat_length, Option.some.injEq] at hlane
      rw [hx, hlane]
  case apart =>
    rw [List.pairwise_append]
    refine ⟨h.apart, List.pairwise_singleton _ _, ?_⟩
    intro x hx y hy hsame
    rw [List.mem_singleton] at hy
    rw [hy] at hsame
    have := h.lane_lt x hx
    omega
  case crowded =>
    right
    exists start a
    intro lane hlane
    rw [List.length_append, List.length_singleton] at hlane
    cases Nat.lt_or_ge lane ends.length with
    | inl hlt =>
      obtain ⟨b, hb, hfinish⟩ := h.last lane _ (List.getElem?_eq_getElem hlt)
      refine ⟨b, List.mem_append_left _ hb, ?_⟩
      rw [covers_iff, hfinish]
      exact ⟨hsorted _ hb, hbusy _ (List.getElem_mem hlt)⟩
    | inr hge =>
      have hlast : lane = ends.length := by omega
      rw [hlast]
      refine ⟨a, hnew, ?_⟩
      rw [covers_iff]
      exact ⟨le_refl _, hproper⟩

theorem join_lane (h : Packed start finish placed ends) (hproper : start a < finish a) {lane : Nat}
    {laneEnd : τ} (hlane : ends[lane]? = some laneEnd) (hfree : laneEnd ≤ start a)
    : Packed start finish (placed ++ [(a, lane)]) (ends.set lane (finish a)) := by
  have hlt := (List.getElem?_eq_some_iff.mp hlane).1
  have hnew : (a, lane) ∈ placed ++ [(a, lane)] := by simp
  constructor
  case lane_lt =>
    intro x hx
    rw [List.length_set]
    rw [List.mem_append, List.mem_singleton] at hx
    cases hx with
    | inl hx => exact h.lane_lt x hx
    | inr hx =>
      rw [hx]
      exact hlt
  case last =>
    intro lane' laneEnd' hlane'
    by_cases hsame : lane = lane'
    . rw [← hsame, List.getElem?_set_self hlt, Option.some.injEq] at hlane'
      rw [← hsame]
      exact ⟨a, hnew, hlane'⟩
    . rw [List.getElem?_set_ne hsame] at hlane'
      obtain ⟨b, hb, hfinish⟩ := h.last lane' laneEnd' hlane'
      exact ⟨b, List.mem_append_left _ hb, hfinish⟩
  case finish_le =>
    intro x hx laneEnd' hlane'
    by_cases hsame : lane = x.2
    . rw [← hsame, List.getElem?_set_self hlt, Option.some.injEq] at hlane'
      rw [List.mem_append, List.mem_singleton] at hx
      cases hx with
      | inl hx =>
        have hle := h.finish_le x hx laneEnd (by rw [← hsame, hlane])
        rw [← hlane']
        exact (hle.trans hfree).trans hproper.le
      | inr hx => rw [hx, hlane']
    . rw [List.getElem?_set_ne hsame] at hlane'
      rw [List.mem_append, List.mem_singleton] at hx
      cases hx with
      | inl hx => exact h.finish_le x hx laneEnd' hlane'
      | inr hx =>
        rw [hx] at hsame
        contradiction
  case apart =>
    rw [List.pairwise_append]
    refine ⟨h.apart, List.pairwise_singleton _ _, ?_⟩
    intro x hx y hy hsame
    rw [List.mem_singleton] at hy
    rw [hy] at hsame ⊢
    exact (h.finish_le x hx laneEnd (by rw [hsame, hlane])).trans hfree
  case crowded =>
    right
    cases h.crowded with
    | inl hnil =>
      rw [hnil] at hlt
      contradiction
    | inr hcrowded =>
      obtain ⟨p, hp⟩ := hcrowded
      exists p
      intro lane' hlane'
      rw [List.length_set] at hlane'
      obtain ⟨b, hb, hcovers⟩ := hp lane' hlane'
      exact ⟨b, List.mem_append_left _ hb, hcovers⟩

/-- One more interval that starts no earlier than those before it. -/
theorem place (h : Packed start finish placed ends)
    (hsorted : ∀ x ∈ placed, start x.1 ≤ start a) (hproper : start a < finish a)
    : Packed start finish (placed ++ [(a, (place start finish ends a).1)])
        (place start finish ends a).2 := by
  unfold IntervalPacking.place
  split
  . next hbusy =>
    apply h.open_lane hsorted hproper
    intro laneEnd hmem
    rw [List.findIdx?_eq_none_iff] at hbusy
    simpa using hbusy laneEnd hmem
  . next lane hfree =>
    rw [List.findIdx?_eq_some_iff_getElem] at hfree
    obtain ⟨hlt, hfree, _⟩ := hfree
    apply h.join_lane hproper (List.getElem?_eq_getElem hlt)
    simpa using hfree

theorem pack (h : Packed start finish placed ends) {as : List α}
    (hbefore : ∀ x ∈ placed, ∀ a ∈ as, start x.1 ≤ start a)
    (hsorted : as.Pairwise fun a b => start a ≤ start b) (hproper : ∀ a ∈ as, start a < finish a)
    : Packed start finish (placed ++ (pack start finish ends as).1)
        (pack start finish ends as).2 := by
  induction as generalizing placed ends with
  | nil =>
    rw [IntervalPacking.pack, List.append_nil]
    exact h
  | cons a as ih =>
    rw [List.pairwise_cons] at hsorted
    have hplaced := h.place (fun x hx => hbefore x hx a List.mem_cons_self)
      (hproper a List.mem_cons_self)
    rw [IntervalPacking.pack, List.append_cons]
    apply ih hplaced
    . intro x hx b hb
      rw [List.mem_append, List.mem_singleton] at hx
      cases hx with
      | inl hx => exact hbefore x hx b (List.mem_cons_of_mem _ hb)
      | inr hx =>
        rw [hx]
        exact hsorted.1 b hb
    . exact hsorted.2
    . intro b hb
      exact hproper b (List.mem_cons_of_mem _ hb)

theorem lane_lt_iff (h : Packed start finish placed ends) (lane : Nat)
    : lane < ends.length ↔ ∃ x ∈ placed, x.2 = lane := by
  constructor
  . intro hlt
    obtain ⟨b, hb, _⟩ := h.last lane _ (List.getElem?_eq_getElem hlt)
    exact ⟨_, hb, rfl⟩
  . intro hused
    obtain ⟨x, hx, hlane⟩ := hused
    rw [← hlane]
    exact h.lane_lt x hx

/-- Intervals that share a point are in lanes of their own. -/
theorem countP_covers_le (h : Packed start finish placed ends) (p : τ)
    : (placed.countP fun x => covers start finish p x.1) ≤ ends.length := by
  have hnodup : ((placed.filter fun x => covers start finish p x.1).map Prod.snd).Nodup := by
    rw [List.Nodup, List.pairwise_map, List.pairwise_filter]
    apply h.apart.imp
    intro x y hxy hx hy hsame
    rw [covers_iff] at hx hy
    exact absurd ((hxy hsame).trans hy.1) (not_le_of_gt hx.2)
  have hsubset : (placed.filter fun x => covers start finish p x.1).map Prod.snd
      ⊆ List.range ends.length := by
    intro lane hlane
    rw [List.mem_map] at hlane
    obtain ⟨x, hx, hlane⟩ := hlane
    rw [List.mem_range, ← hlane]
    exact h.lane_lt x (List.mem_of_mem_filter hx)
  have hlength := (hnodup.subperm hsubset).length_le
  rwa [List.length_map, List.length_range, ← List.countP_eq_length_filter] at hlength

theorem exists_countP_covers_eq (h : Packed start finish placed ends) (hne : ends ≠ [])
    : ∃ p, (placed.countP fun x => covers start finish p x.1) = ends.length := by
  obtain ⟨p, hp⟩ := h.crowded.resolve_left hne
  exists p
  apply Nat.le_antisymm (h.countP_covers_le p)
  have hsubset : List.range ends.length
      ⊆ (placed.filter fun x => covers start finish p x.1).map Prod.snd := by
    intro lane hlane
    rw [List.mem_range] at hlane
    obtain ⟨b, hb, hcovers⟩ := hp lane hlane
    rw [List.mem_map]
    refine ⟨(b, lane), ?_, rfl⟩
    rw [List.mem_filter]
    exact ⟨hb, hcovers⟩
  have hlength := (List.nodup_range.subperm hsubset).length_le
  rwa [List.length_map, List.length_range, ← List.countP_eq_length_filter] at hlength

end Packed

end IntervalPacking
