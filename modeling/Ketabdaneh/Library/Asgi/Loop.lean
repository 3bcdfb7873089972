import Ketabdaneh.Library.Asgi.Basic
import Ketabdaneh.Library.Parties

/-!
This module contains tasks that one event loop runs: each goes on from one point where it waits to
the next, and between two of these points no other does. What a task reports needs no waiting.
-/

namespace Asgi

variable {κ Effect Report α : Type}

/-- What a task reports before it waits or ends, and what is left of it then. -/
def Task.settle : Task (Effect ⊕ Report) α → List Report × Task (Effect ⊕ Report) α
  | .emit (.inr report) rest => (report :: rest.settle.1, rest.settle.2)
  | task => ([], task)

/-- A task that was started for a key, what it has done and reported, and what is left of it. -/
structure Started (κ Effect Report α : Type) where
  key : κ
  events : List (Event Effect) := []
  reports : List Report := []
  task : Task (Effect ⊕ Report) α

namespace Started

def settle (started : Started κ Effect Report α) : Started κ Effect Report α :=
  {
    started with
    reports := started.reports ++ started.task.settle.1
    task := started.task.settle.2
  }

def afterEvent (started : Started κ Effect Report α) (event : Event Effect)
    (rest : Task (Effect ⊕ Report) α) : Started κ Effect Report α :=
  settle { started with events := started.events ++ [event], task := rest }

/-- Goes on from where it waits; the answer is that to a message, if it sends one. -/
def proceed (answer : Option Raised) (started : Started κ Effect Report α)
    : Option (Started κ Effect Report α) :=
  match started.task with
  | .done _ => none
  | .emit (.inl effect) rest => some (started.afterEvent (.emitted effect) rest)
  | .emit (.inr _) _ => some started.settle
  | .send message next => some (started.afterEvent (.sent message answer) (next answer))

def result? (started : Started κ Effect Report α) : Option α :=
  match started.task with
  | .done result => some result
  | _ => none

variable {started next : Started κ Effect Report α} {answer : Option Raised}

theorem reports_of_proceed (h : started.proceed answer = some next)
    : ∃ new, next.reports = started.reports ++ new := by
  unfold proceed at h
  split at h
  . injection h
  all_goals
    injection h with h
    rw [← h]
    exact ⟨_, rfl⟩

end Started

structure Loop (κ Effect Report α : Type) where
  tasks : List (Started κ Effect Report α) := []
  reports : List Report := []

/-- A task is started for a key, or the one of this number goes on. -/
inductive Turn (κ : Type) where
  | start (key : κ)
  | proceed (index : Nat) (answer : Option Raised)

namespace Loop

variable (spawn : κ → Task (Effect ⊕ Report) α)

def step (loop : Loop κ Effect Report α) : Turn κ → Option (Loop κ Effect Report α)
  | .start key =>
    let started := Started.settle { key, task := spawn key }
    some { tasks := loop.tasks ++ [started], reports := loop.reports ++ started.reports }
  | .proceed index answer => do
    let started ← loop.tasks[index]?
    let next ← started.proceed answer
    return {
      tasks := loop.tasks.set index next
      reports := loop.reports ++ next.reports.drop started.reports.length
    }

variable {spawn} {loop next : Loop κ Effect Report α}

/-- What a turn does to the tasks, and that it reports what the one task does that has the turn. -/
inductive Steps (spawn : κ → Task (Effect ⊕ Report) α) (loop : Loop κ Effect Report α)
    : Turn κ → Loop κ Effect Report α → Prop where
  | start (key : κ) (started : Started κ Effect Report α)
      (hstarted : started = Started.settle { key, task := spawn key })
    : Steps spawn loop (.start key) ⟨loop.tasks ++ [started], loop.reports ++ started.reports⟩
  | proceed (index : Nat) (answer : Option Raised) {before after : Started κ Effect Report α}
      (hbefore : loop.tasks[index]? = some before) (hafter : before.proceed answer = some after)
      {new : List Report} (hnew : after.reports = before.reports ++ new)
    : Steps spawn loop (.proceed index answer) ⟨loop.tasks.set index after, loop.reports ++ new⟩

theorem steps_of_step {turn : Turn κ} (h : step spawn loop turn = some next)
    : Steps spawn loop turn next := by
  cases turn with
  | start key =>
    injection h with h
    rw [← h]
    exact .start key _ rfl
  | proceed index answer =>
    simp only [step, bind, Option.bind_eq_some_iff, pure, Option.some.injEq] at h
    rcases h with ⟨before, hbefore, after, hafter, rfl⟩
    rcases Started.reports_of_proceed hafter with ⟨new, hnew⟩
    have hdrop : after.reports.drop before.reports.length = new := by
      rw [hnew, List.drop_left]
    rw [hdrop]
    exact .proceed index answer hbefore hafter hnew

/-- Whatever the order of the turns, what was reported is what the tasks have reported. -/
theorem reports_perm {turns : List (Turn κ)}
    (h : Transition.run (step spawn) {} turns = some loop)
    : loop.reports.Perm (loop.tasks.flatMap Started.reports) := by
  apply Transition.run_keeps (P := fun loop : Loop κ Effect Report α =>
    loop.reports.Perm (loop.tasks.flatMap Started.reports)) ?_ ?_ h
  . intro loop turn next hperm hstep
    cases steps_of_step hstep with
    | start key started _ =>
      rw [List.flatMap_append, List.flatMap_singleton]
      exact hperm.append_right _
    | proceed index answer hbefore hafter hnew =>
      exact (hperm.append_right _).trans (Transition.flatMap_set_perm hbefore hnew).symm
  . exact .nil

/-- What a task has when it starts and keeps when it goes on, all tasks of the loop have. -/
theorem forall_tasks {P : Started κ Effect Report α → Prop} {turns : List (Turn κ)}
    (hstart : ∀ key, P (Started.settle { key, task := spawn key }))
    (hproceed : ∀ started answer next, P started → started.proceed answer = some next → P next)
    (h : Transition.run (step spawn) {} turns = some loop)
    : ∀ started ∈ loop.tasks, P started := by
  apply Transition.run_keeps (P := fun loop : Loop κ Effect Report α =>
    ∀ started ∈ loop.tasks, P started) ?_ ?_ h
  . intro loop turn next hall hstep
    cases steps_of_step hstep with
    | start key started hstarted =>
      rw [List.forall_mem_append, List.forall_mem_singleton, hstarted]
      exact ⟨hall, hstart key⟩
    | proceed index answer hbefore hafter hnew =>
      intro started hmem
      cases List.mem_or_eq_of_mem_set hmem with
      | inl hmem => exact hall started hmem
      | inr heq =>
        rw [heq]
        exact hproceed _ _ _ (hall _ (List.mem_of_getElem? hbefore)) hafter
  . simp

end Loop

end Asgi
