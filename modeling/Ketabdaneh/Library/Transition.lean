import Mathlib.Data.List.Infix
import Mathlib.Data.Option.Basic

/-!
This module contains runs of labelled transition systems, whose step is a partial function of the
state and the action, and the rules for what holds along a run.
-/

namespace Transition

variable {State Action : Type*}
variable (step : State → Action → Option State)

def run (s : State) : List Action → Option State
  | [] => some s
  | a :: as => (step s a).bind fun t => run t as

/-- `P` holds in every state of the run. -/
def Always (P : State → Prop) (s : State) (as : List Action) : Prop :=
  ∀ pre t, pre <+: as → run step s pre = some t → P t

/-- `G` holds of every action of the run, in the state it is taken in. -/
def Along (G : State → Action → Prop) (s : State) (as : List Action) : Prop :=
  ∀ pre a t, pre ++ [a] <+: as → run step s pre = some t → (step t a).isSome → G t a

variable {step}

@[simp]
theorem run_nil (s : State) : run step s [] = some s := rfl

@[simp]
theorem run_cons (s : State) (a : Action) (as : List Action)
    : run step s (a :: as) = (step s a).bind fun t => run step t as := rfl

theorem run_append (s : State) (as bs : List Action)
    : run step s (as ++ bs) = (run step s as).bind fun t => run step t bs := by
  induction as generalizing s with
  | nil => simp
  | cons a as ih =>
    rw [List.cons_append, run_cons, run_cons, Option.bind_assoc]
    congr 1
    funext t
    apply ih

theorem run_concat (s : State) (as : List Action) (a : Action)
    : run step s (as ++ [a]) = (run step s as).bind fun t => step t a := by
  rw [run_append]
  congr 1
  funext t
  rw [run_cons]
  cases step t a with
  | none => rfl
  | some u => rfl

theorem run_total (f : State → Action → State) (s : State) (as : List Action)
    : run (fun s a => some (f s a)) s as = some (as.foldl f s) := by
  induction as generalizing s with
  | nil => rfl
  | cons a as ih => rw [run_cons, Option.bind_some, ih, List.foldl_cons]

/-- What every step keeps holds where a run ends. -/
theorem run_keeps {P : State → Prop} (hstep : ∀ s a t, P s → step s a = some t → P t) {s t : State}
    {as : List Action} (h : P s) (hrun : run step s as = some t) : P t := by
  induction as generalizing s with
  | nil =>
    rw [run_nil, Option.some.injEq] at hrun
    rwa [← hrun]
  | cons a as ih =>
    rw [run_cons, Option.bind_eq_some_iff] at hrun
    rcases hrun with ⟨u, hu, hrun⟩
    exact ih (hstep s a u h hu) hrun

theorem always_nil {P : State → Prop} {s : State} : Always step P s [] ↔ P s := by
  constructor
  . intro h
    apply h []
    . apply List.prefix_rfl
    . apply run_nil
  . intro h pre t hpre hrun
    rw [List.prefix_nil.mp hpre, run_nil, Option.some.injEq] at hrun
    rwa [← hrun]

theorem always_cons {P : State → Prop} {s : State} {a : Action} {as : List Action}
    : Always step P s (a :: as) ↔ P s ∧ ∀ t, step s a = some t → Always step P t as := by
  constructor
  . intro h
    constructor
    . apply h []
      . apply List.nil_prefix
      . apply run_nil
    . intro t hstep pre u hpre hrun
      apply h (a :: pre)
      . rw [List.cons_prefix_cons]
        exact ⟨rfl, hpre⟩
      . rw [run_cons, hstep, Option.bind_some]
        assumption
  . intro h pre u hpre hrun
    cases pre with
    | nil =>
      rw [run_nil, Option.some.injEq] at hrun
      rw [← hrun]
      exact h.1
    | cons b pre =>
      rw [List.cons_prefix_cons] at hpre
      rw [run_cons, Option.bind_eq_some_iff, hpre.1] at hrun
      rcases hrun with ⟨t, hstep, hrun⟩
      exact h.2 t hstep pre u hpre.2 hrun

theorem along_nil {G : State → Action → Prop} {s : State} : Along step G s [] := by
  intro pre a t hpre
  simp at hpre

theorem along_cons {G : State → Action → Prop} {s : State} {a : Action} {as : List Action}
    : Along step G s (a :: as)
        ↔
      ∀ t, step s a = some t → G s a ∧ Along step G t as := by
  constructor
  . intro h t hstep
    constructor
    . apply h [] a s
      . simp
      . apply run_nil
      . rw [hstep, Option.isSome_some]
    . intro pre b u hpre hrun hsome
      apply h (a :: pre) b u
      . rw [List.cons_append, List.cons_prefix_cons]
        exact ⟨rfl, hpre⟩
      . rw [run_cons, hstep, Option.bind_some]
        assumption
      . assumption
  . intro h pre b u hpre hrun hsome
    cases pre with
    | nil =>
      rw [List.nil_append, List.cons_prefix_cons] at hpre
      rw [run_nil, Option.some.injEq] at hrun
      rw [← hrun, hpre.1] at hsome
      rcases Option.isSome_iff_exists.mp hsome with ⟨t, hstep⟩
      rw [← hrun, hpre.1]
      exact (h t hstep).1
    | cons c pre =>
      rw [List.cons_append, List.cons_prefix_cons] at hpre
      rw [run_cons, Option.bind_eq_some_iff, hpre.1] at hrun
      rcases hrun with ⟨t, hstep, hrun⟩
      exact (h t hstep).2 pre b u hpre.2 hrun hsome

theorem along_cons_of_step {G : State → Action → Prop} {s t : State} {a : Action} {as : List Action}
    (h : step s a = some t) : Along step G s (a :: as) ↔ G s a ∧ Along step G t as := by
  rw [along_cons, h]
  simp only [Option.some.injEq, forall_eq']

/--
A predicate that a step from a good state keeps exactly under a guard holds throughout the runs
whose steps all meet the guard, and throughout no other.
-/
theorem always_iff_along {P : State → Prop} {G : State → Action → Prop}
    (hstep : ∀ s a t, P s → step s a = some t → (P t ↔ G s a)) {s : State} (h : P s)
    (as : List Action) : Always step P s as ↔ Along step G s as := by
  induction as generalizing s with
  | nil => exact iff_of_true (always_nil.mpr h) along_nil
  | cons a as ih =>
    rw [always_cons, along_cons]
    constructor
    . intro halways t ht
      have hrest := halways.2 t ht
      have hPt : P t := hrest [] t List.nil_prefix (run_nil t)
      refine ⟨(hstep s a t h ht).mp hPt, ?_⟩
      rwa [← ih hPt]
    . intro halong
      refine ⟨h, ?_⟩
      intro t ht
      rcases halong t ht with ⟨hG, hrest⟩
      have hPt : P t := (hstep s a t h ht).mpr hG
      rwa [ih hPt]

/-- What every step under a guard keeps holds throughout the runs whose steps all meet the guard. -/
theorem always_of_along {P : State → Prop} {G : State → Action → Prop}
    (hstep : ∀ s a t, P s → G s a → step s a = some t → P t) {s : State} (h : P s)
    {as : List Action} (halong : Along step G s as) : Always step P s as := by
  induction as generalizing s with
  | nil => exact always_nil.mpr h
  | cons a as ih =>
    rw [always_cons]
    refine ⟨h, ?_⟩
    intro t ht
    rw [along_cons] at halong
    rcases halong t ht with ⟨hG, hrest⟩
    exact ih (hstep s a t h hG ht) hrest

/-- A guard that the steps must meet for `P`, from states in which `Q` was kept so far. -/
theorem along_of_always {P Q : State → Prop} {G : State → Action → Prop}
    (hkeeps : ∀ s a t, Q s → G s a → step s a = some t → Q t)
    (hguard : ∀ s a t, Q s → step s a = some t → P t → G s a) {s : State} (h : Q s)
    {as : List Action} (halways : Always step P s as) : Along step G s as := by
  induction as generalizing s with
  | nil => exact along_nil
  | cons a as ih =>
    rw [along_cons]
    intro t ht
    rw [always_cons] at halways
    have hrest := halways.2 t ht
    have hG : G s a := hguard s a t h ht (hrest [] t List.nil_prefix (run_nil t))
    exact ⟨hG, ih (hkeeps s a t h hG ht) hrest⟩

theorem Always.mono {P Q : State → Prop} (hPQ : ∀ s, P s → Q s) {s : State} {as : List Action}
    (h : Always step P s as) : Always step Q s as := by
  intro pre t hpre hrun
  exact hPQ t (h pre t hpre hrun)

theorem Always.of_append {P : State → Prop} {s t : State} {as bs : List Action}
    (h : Always step P s (as ++ bs)) (hrun : run step s as = some t) : Always step P t bs := by
  intro pre u hpre hpres
  apply h (as ++ pre) u
  . rwa [List.prefix_append_right_inj]
  . rw [run_append, hrun, Option.bind_some]
    assumption

theorem along_congr {G H : State → Action → Prop}
    (hstep : ∀ s a t, step s a = some t → (G s a ↔ H s a)) (s : State) (as : List Action)
    : Along step G s as ↔ Along step H s as := by
  unfold Along
  constructor
  all_goals
    intro h pre a t hpre hrun hsome
    rcases Option.isSome_iff_exists.mp hsome with ⟨u, hu⟩
  . rw [← hstep t a u hu]
    apply h
    all_goals assumption
  . rw [hstep t a u hu]
    apply h
    all_goals assumption

end Transition
