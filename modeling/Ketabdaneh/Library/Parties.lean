import Ketabdaneh.Library.Transition

/-!
This module contains systems of parties that join at any time and take steps of their own in any
order, and write to one log.
-/

namespace Transition

variable {κ σ α ρ : Type}

theorem flatMap_set_perm {β γ : Type} {f : β → List γ} {l : List β} {i : Nat} {b b' : β}
    {new : List γ} (hb : l[i]? = some b) (hf : f b' = f b ++ new)
    : ((l.set i b').flatMap f).Perm (l.flatMap f ++ new) := by
  induction l generalizing i with
  | nil => simp at hb
  | cons c l ih =>
    cases i with
    | zero =>
      rw [List.getElem?_cons_zero, Option.some.injEq] at hb
      rw [List.set_cons_zero, List.flatMap_cons, List.flatMap_cons, hf, hb, List.append_assoc,
        List.append_assoc]
      apply List.Perm.append_left
      apply List.perm_append_comm
    | succ i =>
      rw [List.getElem?_cons_succ] at hb
      rw [List.set_cons_succ, List.flatMap_cons, List.flatMap_cons, List.append_assoc]
      apply List.Perm.append_left
      exact ih hb

structure Parties (σ ρ : Type) where
  parties : List σ := []
  log : List ρ := []

/-- A party joins, or the one of this number takes a step. -/
inductive Move (κ α : Type) where
  | join (key : κ)
  | act (index : Nat) (action : α)

namespace Parties

variable (init : κ → σ) (own : σ → α → Option (σ × List ρ))

def step (system : Parties σ ρ) : Move κ α → Option (Parties σ ρ)
  | .join key => some { system with parties := system.parties ++ [init key] }
  | .act index action => do
    let before ← system.parties[index]?
    let (after, new) ← own before action
    return { parties := system.parties.set index after, log := system.log ++ new }

/-- What a move does to the parties and the log. -/
inductive Steps (system : Parties σ ρ) : Move κ α → Parties σ ρ → Prop where
  | join (key : κ) : Steps system (.join key) ⟨system.parties ++ [init key], system.log⟩
  | act (index : Nat) (action : α) {before after : σ} {new : List ρ}
      (hbefore : system.parties[index]? = some before) (hafter : own before action = some (after, new))
    : Steps system (.act index action) ⟨system.parties.set index after, system.log ++ new⟩

variable {init} {own} {system next : Parties σ ρ}

theorem steps_of_step {move : Move κ α} (h : step init own system move = some next)
    : Steps init own system move next := by
  cases move with
  | join key =>
    injection h with h
    rw [← h]
    apply Steps.join
  | act index action =>
    simp only [step, bind, Option.bind_eq_some_iff, pure, Option.some.injEq] at h
    rcases h with ⟨before, hbefore, ⟨after, new⟩, hafter, rfl⟩
    exact .act index action hbefore hafter

/-- What a party has when it joins and keeps when it takes a step, all parties have. -/
theorem forall_parties {P : σ → Prop} {moves : List (Move κ α)} (hinit : ∀ key, P (init key))
    (hown : ∀ before action after new, P before → own before action = some (after, new) → P after)
    (h : run (step init own) {} moves = some system)
    : ∀ party ∈ system.parties, P party := by
  apply run_keeps (P := fun system : Parties σ ρ => ∀ party ∈ system.parties, P party) ?_ ?_ h
  . intro system move next hall hstep
    cases steps_of_step hstep with
    | join key =>
      rw [List.forall_mem_append, List.forall_mem_singleton]
      exact ⟨hall, hinit key⟩
    | act index action hbefore hafter =>
      intro party hmem
      cases List.mem_or_eq_of_mem_set hmem with
      | inl hmem => exact hall party hmem
      | inr heq =>
        rw [heq]
        exact hown _ _ _ _ (hall _ (List.mem_of_getElem? hbefore)) hafter
  . simp

/-- In any order, the log is what the parties have written, where each remembers that. -/
theorem log_perm {written : σ → List ρ} {moves : List (Move κ α)}
    (hinit : ∀ key, written (init key) = [])
    (hown : ∀ before action after new, own before action = some (after, new) →
      written after = written before ++ new)
    (h : run (step init own) {} moves = some system)
    : system.log.Perm (system.parties.flatMap written) := by
  apply run_keeps (P := fun system : Parties σ ρ =>
    system.log.Perm (system.parties.flatMap written)) ?_ ?_ h
  . intro system move next hperm hstep
    cases steps_of_step hstep with
    | join key =>
      rw [List.flatMap_append, List.flatMap_singleton, hinit, List.append_nil]
      exact hperm
    | act index action hbefore hafter =>
      exact (hperm.append_right _).trans (flatMap_set_perm hbefore (hown _ _ _ _ hafter)).symm
  . exact .nil

end Parties

end Transition
