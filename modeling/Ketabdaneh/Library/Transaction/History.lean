import Ketabdaneh.Library.Transaction.Outline

/-!
This module contains the history of what programs commit beside one another: the store is what comes
of it, and each program ends as is said of it.
-/

namespace Transaction

variable {ι Change Store Write Event ε α : Type}

/-- A write that session `i` committed, or somebody else's change. -/
inductive Entry (ι Write Change : Type) where
  | write (i : ι) (w : Write)
  | change (c : Change)

abbrev History (ι Write Change : Type) :=
  List (Entry ι Write Change)

def Entry.write? [DecidableEq ι] (i : ι) : Entry ι Write Change → Option Write
  | .write j w => if j = i then some w else none
  | .change _ => none

/-- What session `i` committed. -/
def History.log [DecidableEq ι] (history : History ι Write Change) (i : ι) : List Write :=
  history.filterMap (Entry.write? i)

namespace Schema

variable (schema : Schema Store Write ε) (change : Store → Change → Store)

def enter (s : Store) : Entry ι Write Change → Except ε Store
  | .write _ w => schema.apply s w
  | .change c => .ok (change s c)

def replay (s : Store) (history : History ι Write Change) : Except ε Store :=
  history.foldlM (schema.enter change) s

variable {schema change}

theorem replay_append (s : Store) (history later : History ι Write Change)
    : schema.replay change s (history ++ later)
        =
      (schema.replay change s history >>= fun t => schema.replay change t later) := by
  apply List.foldlM_append

theorem replay_writes (s : Store) (i : ι) (writes : List Write)
    : schema.replay change s (writes.map (Entry.write i)) = schema.view s writes := by
  unfold replay view
  rw [List.foldlM_map]
  rfl

theorem replay_concat {s t : Store} {history : History ι Write Change} {entry : Entry ι Write Change}
    (h : schema.replay change s (history ++ [entry]) = .ok t)
    : ∃ u, schema.replay change s history = .ok u ∧ schema.enter change u entry = .ok t := by
  rw [replay_append] at h
  cases hhistory : schema.replay change s history with
  | error e =>
    rw [hhistory] at h
    injection h
  | ok u =>
    rw [hhistory] at h
    refine ⟨u, rfl, ?_⟩
    rw [← h]
    show _ = schema.replay change u [entry]
    unfold replay
    rw [List.foldlM_cons]
    cases schema.enter change u entry with
    | error e => rfl
    | ok v => rfl

end Schema

namespace History

variable [DecidableEq ι] {history : History ι Write Change} {i j : ι}

@[simp]
theorem log_nil : log ([] : History ι Write Change) i = [] := rfl

@[simp]
theorem log_append (later : History ι Write Change)
    : log (history ++ later) i = history.log i ++ log later i := by
  apply List.filterMap_append

@[simp]
theorem log_change (c : Change) : log ([.change c] : History ι Write Change) i = [] := rfl

@[simp]
theorem log_writes_self (writes : List Write)
    : log (writes.map (Entry.write i) : History ι Write Change) i = writes := by
  unfold log
  rw [List.filterMap_map]
  calc
    _ = writes.filterMap some := by
      congr 1
      funext w
      simp [Entry.write?]
    _ = writes := List.filterMap_some

theorem log_writes_of_ne (h : i ≠ j) (writes : List Write)
    : log (writes.map (Entry.write i) : History ι Write Change) j = [] := by
  unfold log
  rw [List.filterMap_map, List.filterMap_eq_nil_iff]
  intro w _
  simp [Entry.write?, h]

theorem mem_log {w : Write} : w ∈ history.log i ↔ Entry.write i w ∈ history := by
  unfold log
  rw [List.mem_filterMap]
  constructor
  . rintro ⟨entry, hentry, hw⟩
    cases entry with
    | change c => injection hw
    | write j v =>
      simp only [Entry.write?] at hw
      split at hw
      . next hj =>
        rw [Option.some.injEq] at hw
        rw [← hw, ← hj]
        exact hentry
      . injection hw
  . intro h
    refine ⟨_, h, ?_⟩
    simp [Entry.write?]

end History

section

variable [Preorder Store]

/-- The store only grows, by what is committed. -/
structure Schema.Growing (schema : Schema Store Write ε) (change : Store → Change → Store) : Prop where
  apply : ∀ {s t w}, schema.apply s w = .ok t → s ≤ t
  change : ∀ s c, s ≤ change s c

variable {schema : Schema Store Write ε} {change : Store → Change → Store}

theorem Schema.Growing.view (h : schema.Growing change) {s t : Store} {pending : List Write}
    (hview : schema.view s pending = .ok t) : s ≤ t := by
  induction pending generalizing s with
  | nil =>
    injection hview with hview
    rw [hview]
  | cons w pending ih =>
    unfold Schema.view at hview
    rw [List.foldlM_cons] at hview
    cases happly : schema.apply s w with
    | error e =>
      rw [happly] at hview
      injection hview
    | ok u =>
      rw [happly] at hview
      exact (h.apply happly).trans (ih hview)

theorem Schema.Growing.replay (h : schema.Growing change) {s t : Store}
    {history : History ι Write Change} (hreplay : schema.replay change s history = .ok t) : s ≤ t := by
  induction history using List.reverseRecOn generalizing t with
  | nil =>
    injection hreplay with hreplay
    rw [hreplay]
  | append_singleton history entry ih =>
    rcases Schema.replay_concat hreplay with ⟨u, hu, henter⟩
    apply (ih hu).trans
    cases entry with
    | write i w => exact h.apply henter
    | change c =>
      injection henter with henter
      rw [← henter]
      exact h.change u c

variable [DecidableEq ι]

/-- What is said of each session, when it ends as `post` says. -/
def Session.Outline (schema : Schema Store Write ε)
    (post : Store → List Write → Except ε α → Prop) (s : Store) (log : List Write)
    (session : Session Store Write Event ε α) : Prop :=
  session.program.Outline schema (fun s log _ ending => post s log ending.outcome) s log
    session.pending

structure System.Outlined (schema : Schema Store Write ε) (change : Store → Change → Store)
    (post : ι → Store → List Write → Except ε α → Prop) (s : Store)
    (w : System ι Store Write Event ε α) (history : History ι Write Change) : Prop where
  store : schema.replay change s history = .ok w.store
  sessions : ∀ i, (w.sessions i).Outline schema (post i) w.store (history.log i)

variable {post : Store → List Write → Except ε α → Prop} {s t : Store} {log : List Write}
variable {session session' : Session Store Write Event ε α}

omit [DecidableEq ι] in
theorem Session.Outline.mono
    (hpost : ∀ {s t log outcome}, s ≤ t → post s log outcome → post t log outcome)
    (h : session.Outline schema post s log) (hst : s ≤ t) : session.Outline schema post t log := by
  unfold Session.Outline at h ⊢
  apply h.mono _ hst
  intro _ _ _ _ _ hle hholds
  exact hpost hle hholds

omit [DecidableEq ι] in
theorem Session.Outline.commitsNothing {next : Session Store Write Event ε α}
    (hadvance : some (s, next) = some (t, session')) (h : next.Outline schema post s log)
    : ∃ committed, schema.view s committed = .ok t
        ∧ session'.Outline schema post t (log ++ committed) := by
  rw [Option.some.injEq, Prod.mk.injEq] at hadvance
  refine ⟨[], congrArg Except.ok hadvance.1, ?_⟩
  rw [← hadvance.1, ← hadvance.2, List.append_nil]
  exact h

omit [DecidableEq ι] in
/-- A session's next statement commits what it had written, or nothing. -/
theorem Session.Outline.advance (h : session.Outline schema post s log)
    (hadvance : schema.advance s session = some (t, session'))
    : ∃ committed, schema.view s committed = .ok t
        ∧ session'.Outline schema post t (log ++ committed) := by
  unfold Session.Outline at h
  rw [← Program.outline_settle] at h
  unfold Schema.advance at hadvance
  split at hadvance
  . next next hsettle =>
    rw [hsettle] at h
    split at hadvance
    . next v hview =>
      exact Session.Outline.commitsNothing hadvance ((h s le_rfl).1 v hview)
    . next e hview =>
      exact Session.Outline.commitsNothing hadvance ((h s le_rfl).2 e hview)
  . next write next hsettle =>
    rw [hsettle] at h
    split at hadvance
    . next v hview =>
      exact Session.Outline.commitsNothing hadvance ((h s le_rfl).1 v hview)
    . next e hview =>
      exact Session.Outline.commitsNothing hadvance ((h s le_rfl).2 e hview)
  . next next hsettle =>
    rw [hsettle] at h
    split at hadvance
    . next v hview =>
      rw [Option.some.injEq, Prod.mk.injEq] at hadvance
      rw [← hadvance.1, ← hadvance.2]
      exact ⟨session.pending, hview, (h s le_rfl).1 v hview⟩
    . next e hview =>
      exact Session.Outline.commitsNothing hadvance ((h s le_rfl).2 e hview)
  . injection hadvance

omit [DecidableEq ι] in
theorem Session.Outline.of_outcome (h : session.Outline schema post s log) {outcome : Except ε α}
    (houtcome : session.outcome = some outcome) : post s log outcome := by
  unfold Session.Outline at h
  rw [← Program.outline_settle] at h
  unfold Session.outcome at houtcome
  split at houtcome
  . next a hsettle =>
    rw [hsettle] at h
    rw [Option.some.injEq] at houtcome
    rw [← houtcome]
    exact h
  . next e hsettle =>
    rw [hsettle] at h
    rw [Option.some.injEq] at houtcome
    rw [← houtcome]
    exact h
  . injection houtcome

namespace System

variable [Fintype ι] {posts : ι → Store → List Write → Except ε α → Prop}
variable {w w' : System ι Store Write Event ε α} {history : History ι Write Change}

theorem Outlined.act (hgrows : schema.Growing change)
    (hposts : ∀ i {s t log outcome}, s ≤ t → posts i s log outcome → posts i t log outcome)
    (h : w.Outlined schema change posts s history) {action : Action ι Change}
    (hact : schema.act change w action = some w')
    : ∃ later, w'.Outlined schema change posts s (history ++ later) := by
  cases action with
  | change c =>
    rw [Schema.act, Option.some.injEq] at hact
    rw [← hact]
    refine ⟨[.change c], ?_, ?_⟩
    . rw [Schema.replay_append, h.store]
      rfl
    . intro i
      rw [History.log_append, History.log_change, List.append_nil]
      exact (h.sessions i).mono (hposts i) (hgrows.change _ c)
  | statement i =>
    rcases Schema.act_statement hact with ⟨t, session, hadvance, hstore, hsessions⟩
    rcases (h.sessions i).advance hadvance with ⟨committed, hview, hsession⟩
    refine ⟨committed.map (Entry.write i), ?_, ?_⟩
    . rw [Schema.replay_append, h.store, hstore, ← hview]
      apply Schema.replay_writes
    . intro j
      rw [hstore, hsessions, History.log_append]
      by_cases hj : j = i
      . rw [hj, Function.update_self, History.log_writes_self]
        exact hsession
      . rw [Function.update_of_ne hj, History.log_writes_of_ne (Ne.symm hj), List.append_nil]
        exact (h.sessions j).mono (hposts j) (hgrows.view hview)

/-- A run has a history, and each session has committed what is said of it. -/
theorem outlined_of_run (hgrows : schema.Growing change)
    (hposts : ∀ i {s t log outcome}, s ≤ t → posts i s log outcome → posts i t log outcome)
    {programs : ι → Program Store Write Event ε α}
    (hprograms : ∀ i, ({ program := programs i } : Session Store Write Event ε α).Outline schema
      (posts i) s []) {schedule : List (Action ι Change)}
    (hrun : Transition.run (schema.act change) (System.start s programs) schedule = some w)
    : ∃ history, w.Outlined schema change posts s history := by
  have hstart : (System.start s programs).Outlined schema change posts s [] := ⟨rfl, hprograms⟩
  have hstep : ∀ (w : System ι Store Write Event ε α) (action : Action ι Change) w',
      (∃ history, w.Outlined schema change posts s history) →
        schema.act change w action = some w' →
          ∃ history, w'.Outlined schema change posts s history := by
    rintro w action w' ⟨history, h⟩ hact
    rcases h.act hgrows hposts hact with ⟨later, hlater⟩
    exact ⟨history ++ later, hlater⟩
  exact Transition.run_keeps hstep ⟨[], hstart⟩ hrun

end System

end

end Transaction
