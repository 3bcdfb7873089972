import Ketabdaneh.Library.Transaction.Stable

/-!
This module contains the order in which interleaved calls take effect, one at a time, and what follows
from it.
-/

namespace Transaction

open Transition

variable {ι Change Store Write Event ε α : Type}

section

variable (schema : Schema Store Write ε) (change : Store → Change → Store)
  (programs : ι → Program Store Write Event ε α) (s : Store)

/--
The store is what the actions make of it one after the other. The calls among them are those that have
taken effect, and each of them answers as it does in that order.
-/
structure Linearizes (schedule : List (Action ι Change)) (w : System ι Store Write Event ε α)
    (order : List (Action ι Change)) : Prop where
  store : w.store = schema.performAll change programs s order
  once : (order.filterMap Action.session?).Nodup
  changes : order.filterMap Action.change? = schedule.filterMap Action.change?
  began : ∀ i, .statement i ∈ order → .statement i ∈ schedule
  ended : ∀ i, .statement i ∈ schedule → (w.sessions i).outcome ≠ none → .statement i ∈ order
  outcome : ∀ before i after outcome, order = before ++ .statement i :: after →
    (w.sessions i).outcome = some outcome →
    (call schema.apply (schema.performAll change programs s before) (programs i)).outcome = outcome

/-- What took effect is not moved by what comes after it. -/
def Linearizable [Fintype ι] [DecidableEq ι] (schedule : List (Action ι Change))
    (w : System ι Store Write Event ε α) (order : List (Action ι Change)) : Prop :=
  Linearizes schema change programs s schedule w order
    ∧ ∀ before t, before <+: schedule →
      Transition.run (schema.act change) (System.start s programs) before = some t →
      ∃ earlier, earlier <+: order ∧ Linearizes schema change programs s before t earlier

end

theorem mem_sessions {order : List (Action ι Change)} {i : ι}
    : i ∈ order.filterMap Action.session? ↔ Action.statement i ∈ order := by
  rw [List.mem_filterMap]
  constructor
  . rintro ⟨action, hmem, haction⟩
    cases action with
    | statement j =>
      rw [show i = j from (Option.some.inj haction).symm]
      exact hmem
    | change c => contradiction
  . intro h
    exact ⟨_, h, rfl⟩

theorem nodup_sessions_concat {order : List (Action ι Change)} {i : ι}
    (h : (order.filterMap Action.session?).Nodup) (hi : Action.statement i ∉ order)
    : ((order ++ [Action.statement i]).filterMap Action.session?).Nodup := by
  rw [List.filterMap_append, show [Action.statement i].filterMap Action.session? = [i] from rfl,
    ← List.concat_eq_append, List.nodup_concat]
  rw [← mem_sessions] at hi
  exact ⟨hi, h⟩

/-- A session takes effect at one place. -/
theorem before_unique {before after before' after' : List (Action ι Change)} {i : ι}
    (h : ((before ++ .statement i :: after).filterMap Action.session?).Nodup)
    (heq : before ++ .statement i :: after = before' ++ .statement i :: after')
    : before = before' := by
  have hnot : ∀ {pre post : List (Action ι Change)},
      ((pre ++ .statement i :: post).filterMap Action.session?).Nodup → .statement i ∉ pre := by
    intro pre post hnodup hmem
    rw [List.filterMap_append] at hnodup
    apply List.disjoint_of_nodup_append hnodup (mem_sessions.mpr hmem)
    exact List.mem_cons_self
  have h' := h
  rw [heq] at h'
  rcases List.append_eq_append_iff.mp heq with ⟨rest, hbefore, hrest⟩ | ⟨rest, hbefore, hrest⟩
  . cases rest with
    | nil => rw [hbefore, List.append_nil]
    | cons a rest =>
      rw [List.cons_append, List.cons.injEq] at hrest
      rw [hbefore, ← hrest.1] at h'
      exact absurd (List.mem_append_right _ List.mem_cons_self) (hnot h')
  . cases rest with
    | nil => rw [hbefore, List.append_nil]
    | cons a rest =>
      rw [List.cons_append, List.cons.injEq] at hrest
      rw [hbefore, ← hrest.1] at h
      exact absurd (List.mem_append_right _ List.mem_cons_self) (hnot h)

theorem Schema.performAll_append (schema : Schema Store Write ε) (change : Store → Change → Store)
    (programs : ι → Program Store Write Event ε α) (s : Store) (actions more : List (Action ι Change))
    : schema.performAll change programs s (actions ++ more)
        =
      schema.performAll change programs (schema.performAll change programs s actions) more := by
  apply List.foldl_append

theorem Schema.performAll_concat (schema : Schema Store Write ε) (change : Store → Change → Store)
    (programs : ι → Program Store Write Event ε α) (s : Store) (actions : List (Action ι Change))
    (action : Action ι Change)
    : schema.performAll change programs s (actions ++ [action])
        =
      schema.perform change programs (schema.performAll change programs s actions) action := by
  rw [performAll_append]
  rfl

section

variable [Preorder Store] {schema : Schema Store Write ε} {change : Store → Change → Store}
  {programs : ι → Program Store Write Event ε α} {s : Store}
  {schedule order : List (Action ι Change)} {w w' : System ι Store Write Event ε α}

/-- A session takes effect at its place in the order, or has not taken effect. -/
def Placed (schema : Schema Store Write ε) (change : Store → Change → Store)
    (programs : ι → Program Store Write Event ε α) (s : Store)
    (schedule order : List (Action ι Change)) (w : System ι Store Write Event ε α) (i : ι) : Prop :=
  .statement i ∉ order ∧ (w.sessions i).Undecided schema w.store (programs i)
      ∧ (.statement i ∈ schedule → (w.sessions i).outcome = none)
    ∨ ∃ before after outcome, order = before ++ .statement i :: after
      ∧ (call schema.apply (schema.performAll change programs s before) (programs i)).outcome = outcome
      ∧ (w.sessions i).Decided w.store outcome

structure Follows (schema : Schema Store Write ε) (change : Store → Change → Store)
    (programs : ι → Program Store Write Event ε α) (s : Store)
    (schedule order : List (Action ι Change)) (w : System ι Store Write Event ε α) : Prop where
  store : w.store = schema.performAll change programs s order
  once : (order.filterMap Action.session?).Nodup
  changes : order.filterMap Action.change? = schedule.filterMap Action.change?
  began : ∀ i, .statement i ∈ order → .statement i ∈ schedule
  placed : ∀ i, Placed schema change programs s schedule order w i

namespace Follows

theorem start (hstable : ∀ i, (programs i).Stable schema [] s)
    : Follows schema change programs s [] [] (System.start s programs) where
  store := rfl
  once := List.nodup_nil
  changes := rfl
  began i h := absurd h List.not_mem_nil
  placed i := by
    left
    refine ⟨List.not_mem_nil, ⟨hstable i, ?_⟩, ?_⟩
    . intro t _
      rfl
    . intro h
      exact absurd h List.not_mem_nil

theorem linearizes (h : Follows schema change programs s schedule order w)
    : Linearizes schema change programs s schedule w order where
  store := h.store
  once := h.once
  changes := h.changes
  began := h.began
  ended i hi hended := by
    rcases h.placed i with ⟨_, _, hnone⟩ | ⟨before, after, outcome, horder, _⟩
    . exact absurd (hnone hi) hended
    . rw [horder]
      simp
  outcome before i after outcome horder houtcome := by
    rcases h.placed i with ⟨hnot, _⟩ | ⟨before', after', outcome', horder', hcall, hdecided⟩
    . rw [horder] at hnot
      exact absurd (by simp) hnot
    . have honce := h.once
      rw [horder] at honce
      rw [before_unique honce (horder.symm.trans horder'), hcall, hdecided.outcome_eq houtcome]

/-- A session that does not act keeps its place when the store grows. -/
theorem placed_of_le {i : ι} {more : List (Action ι Change)} {action : Action ι Change}
    (h : Placed schema change programs s schedule order w i) (hle : w.store ≤ w'.store)
    (hsession : w'.sessions i = w.sessions i) (haction : action ≠ .statement i)
    (hmore : ∀ a ∈ more, a = action)
    : Placed schema change programs s (schedule ++ [action]) (order ++ more) w' i := by
  have hnot : ∀ a ∈ more, a ≠ .statement i := by
    intro a ha
    rw [hmore a ha]
    exact haction
  rcases h with ⟨horder, hundecided, hnone⟩ | ⟨before, after, outcome, horder, hcall, hdecided⟩
  . left
    rw [hsession]
    refine ⟨?_, hundecided.mono hle, ?_⟩
    . rw [List.mem_append, not_or]
      exact ⟨horder, fun hmem => hnot _ hmem rfl⟩
    . intro hmem
      rw [List.mem_append, List.mem_singleton] at hmem
      exact hnone (hmem.resolve_right haction.symm)
  . right
    rw [hsession]
    refine ⟨before, after ++ more, outcome, ?_, hcall, hdecided.mono hle⟩
    rw [horder, List.append_assoc, List.cons_append]

theorem change_step (hchange : ∀ s c, s ≤ change s c)
    (h : Follows schema change programs s schedule order w) (c : Change)
    : Follows schema change programs s (schedule ++ [.change c]) (order ++ [.change c])
        { w with store := change w.store c } where
  store := by
    rw [Schema.performAll_concat, ← h.store]
    rfl
  once := by
    rw [List.filterMap_append]
    show (order.filterMap Action.session? ++ []).Nodup
    rw [List.append_nil]
    exact h.once
  changes := by rw [List.filterMap_append, List.filterMap_append, h.changes]
  began i hi := by
    rw [List.mem_append] at hi ⊢
    cases hi with
    | inl hi => exact Or.inl (h.began i hi)
    | inr hi => exact Or.inr hi
  placed i := placed_of_le (h.placed i) (hchange w.store c) rfl (by simp) (by simp)

variable [DecidableEq ι] {t : Store} {i : ι} {next : Session Store Write Event ε α}

/-- The session has read or written on. -/
theorem stay (h : Follows schema change programs s schedule order w)
    (hstore : w'.store = w.store) (hsessions : w'.sessions = Function.update w.sessions i next)
    (hplaced : Placed schema change programs s (schedule ++ [.statement i]) order w' i)
    : Follows schema change programs s (schedule ++ [.statement i]) order w' where
  store := by rw [hstore, h.store]
  once := h.once
  changes := by
    rw [List.filterMap_append, h.changes]
    exact (List.append_nil _).symm
  began j hj := List.mem_append_left _ (h.began j hj)
  placed j := by
    by_cases hj : j = i
    . rw [hj]
      exact hplaced
    . rw [← List.append_nil order]
      apply placed_of_le (h.placed j)
      . exact le_of_eq hstore.symm
      . rw [hsessions, Function.update_of_ne hj]
      . simpa using Ne.symm hj
      . simp

/-- The session has taken effect. -/
theorem take {outcome : Except ε α} (h : Follows schema change programs s schedule order w)
    (hnot : Action.statement i ∉ order) (hstore : w'.store = t)
    (hsessions : w'.sessions = Function.update w.sessions i next)
    (htakes : Session.Takes schema w.store t (programs i) next outcome)
    : Follows schema change programs s (schedule ++ [.statement i]) (order ++ [.statement i]) w' where
  store := by
    have hanswer := congrArg Prod.snd htakes.answer
    rw [Schema.performAll_concat, ← h.store, hstore]
    exact hanswer.symm
  once := nodup_sessions_concat h.once hnot
  changes := by
    rw [List.filterMap_append, List.filterMap_append, h.changes]
  began j hj := by
    rw [List.mem_append] at hj ⊢
    cases hj with
    | inl hj => exact Or.inl (h.began j hj)
    | inr hj => exact Or.inr hj
  placed j := by
    by_cases hj : j = i
    . right
      rw [hj]
      refine ⟨order, [], outcome, rfl, ?_, ?_⟩
      . rw [← h.store]
        exact congrArg Prod.fst htakes.answer
      . rw [hsessions, Function.update_self, hstore]
        exact htakes.decided
    . apply placed_of_le (h.placed j)
      . rw [hstore]
        exact htakes.le
      . rw [hsessions, Function.update_of_ne hj]
      . simpa using Ne.symm hj
      . simp

variable [Fintype ι]

theorem step (hchange : ∀ s c, s ≤ change s c)
    (h : Follows schema change programs s schedule order w) {action : Action ι Change}
    (hact : schema.act change w action = some w')
    : ∃ order', order <+: order' ∧ Follows schema change programs s (schedule ++ [action]) order' w' := by
  cases action with
  | change c =>
    rw [Schema.act, Option.some.injEq] at hact
    rw [← hact]
    exact ⟨_, List.prefix_append _ _, h.change_step hchange c⟩
  | statement i =>
    rcases Schema.act_statement hact with ⟨t, next, hadvance, hstore, hsessions⟩
    rcases h.placed i with ⟨hnot, hundecided, _⟩ | ⟨before, after, outcome, horder, hcall, hdecided⟩
    . rcases hundecided.advance hadvance with ⟨ht, hnext, hnone⟩ | ⟨outcome, htakes⟩
      . refine ⟨order, List.prefix_rfl, h.stay (hstore.trans ht) hsessions ?_⟩
        left
        rw [hsessions, Function.update_self, hstore, ht]
        exact ⟨hnot, hnext, fun _ => hnone⟩
      . exact ⟨_, List.prefix_append _ _, h.take hnot hstore hsessions htakes⟩
    . rcases hdecided.advance hadvance with ⟨ht, hnext⟩
      refine ⟨order, List.prefix_rfl, h.stay (hstore.trans ht) hsessions ?_⟩
      right
      rw [hsessions, Function.update_self, hstore, ht]
      exact ⟨before, after, outcome, horder, hcall, hnext⟩

end Follows

variable [Fintype ι] [DecidableEq ι]

omit [Preorder Store] in
/-- A call that begins later takes effect later, on what the store has become by then. -/
theorem Linearizable.later (h : Linearizable schema change programs s schedule w order)
    {before : List (Action ι Change)} {t : System ι Store Write Event ε α}
    (hbefore : before <+: schedule)
    (ht : Transition.run (schema.act change) (System.start s programs) before = some t) {i : ι}
    (hlater : Action.statement i ∉ before) (hbegins : Action.statement i ∈ schedule)
    {outcome : Except ε α} (houtcome : (w.sessions i).outcome = some outcome)
    : ∃ between,
        (call schema.apply (schema.performAll change programs t.store between) (programs i)).outcome
          =
        outcome := by
  rcases h.2 before t hbefore ht with ⟨earlier, ⟨rest, horder⟩, hearlier⟩
  have hmem := h.1.ended i hbegins (by simp [houtcome])
  rw [← horder, List.mem_append] at hmem
  have hrest := hmem.resolve_left (fun hmem => hlater (hearlier.began i hmem))
  rcases List.append_of_mem hrest with ⟨between, after, hsplit⟩
  refine ⟨between, ?_⟩
  rw [hearlier.store, ← Schema.performAll_append]
  apply h.1.outcome _ _ after _ _ houtcome
  rw [← horder, hsplit, List.append_assoc]

omit [Preorder Store] [Fintype ι] [DecidableEq ι] in
/-- What every call and every change keeps holds in every state. -/
theorem Linearizes.keeps {P : Store → Prop} (h : Linearizes schema change programs s schedule w order)
    (hperform : ∀ t action, P t → P (schema.perform change programs t action)) (hs : P s)
    : P w.store := by
  rw [h.store]
  unfold Schema.performAll
  clear h
  induction order generalizing s with
  | nil => exact hs
  | cons action order ih => exact ih (hperform s action hs)

omit [Fintype ι] [DecidableEq ι] in
theorem le_performAll (hchange : ∀ s c, s ≤ change s c)
    (hstable : ∀ i s, (programs i).Stable schema [] s) (s : Store)
    (actions : List (Action ι Change)) : s ≤ schema.performAll change programs s actions := by
  induction actions generalizing s with
  | nil => exact le_rfl
  | cons action actions ih =>
    refine le_trans ?_ (ih (schema.perform change programs s action))
    cases action with
    | statement i => exact (hstable i s).le_run rfl
    | change c => exact hchange s c

/-- Stable programs take effect one at a time, in whatever order their statements are run. -/
theorem linearizable (hchange : ∀ s c, s ≤ change s c)
    (hstable : ∀ i, (programs i).Stable schema [] s)
    (hrun : Transition.run (schema.act change) (System.start s programs) schedule = some w)
    : ∃ order, Linearizable schema change programs s schedule w order := by
  suffices hfollows : ∃ order, Follows schema change programs s schedule order w
      ∧ ∀ before t, before <+: schedule →
        Transition.run (schema.act change) (System.start s programs) before = some t →
        ∃ earlier, earlier <+: order ∧ Linearizes schema change programs s before t earlier by
    rcases hfollows with ⟨order, hfollows, hprefix⟩
    exact ⟨order, hfollows.linearizes, hprefix⟩
  induction schedule using List.reverseRecOn generalizing w with
  | nil =>
    rw [run_nil, Option.some.injEq] at hrun
    have hstart : Follows schema change programs s [] [] (System.start s programs) :=
      Follows.start hstable
    refine ⟨[], ?_, ?_⟩
    . rw [← hrun]
      exact hstart
    . intro before t hbefore ht
      rw [List.prefix_nil] at hbefore
      rw [hbefore, run_nil, Option.some.injEq] at ht
      rw [hbefore, ← ht]
      exact ⟨[], List.prefix_rfl, hstart.linearizes⟩
  | append_singleton schedule action ih =>
    have hwhole := hrun
    rw [run_concat, Option.bind_eq_some_iff] at hrun
    rcases hrun with ⟨w₀, hrun, hact⟩
    rcases ih hrun with ⟨order, hfollows, hprefix⟩
    rcases hfollows.step hchange hact with ⟨order', horder, hfollows'⟩
    refine ⟨order', hfollows', ?_⟩
    intro before t hbefore ht
    rw [List.prefix_concat_iff] at hbefore
    cases hbefore with
    | inl heq =>
      rw [heq, hwhole, Option.some.injEq] at ht
      rw [heq, ← ht]
      exact ⟨order', List.prefix_rfl, hfollows'.linearizes⟩
    | inr hbefore =>
      rcases hprefix before t hbefore ht with ⟨earlier, hearlier, hlinearizes⟩
      exact ⟨earlier, hearlier.trans horder, hlinearizes⟩

end

end Transaction
