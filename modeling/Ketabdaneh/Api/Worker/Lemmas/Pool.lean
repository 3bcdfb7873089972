import Ketabdaneh.Api.Worker.Lemmas.Service
import Ketabdaneh.Api.Worker.Pool

namespace Api

open Python Transition

namespace ServicePool

/-- Created, and not closed yet. -/
def Open (service : ServicePool) (n : Nat) : Prop :=
  n < service.created ∧ .created n ∉ service.closed

/-- The service closes the pools it creates, and no others, before it creates another. -/
structure Owns (service : ServicePool) : Prop where
  one : ∀ m n, service.Open m → service.Open n → m = n
  closed : service.closes = true → service.calls = [] → ∀ n, ¬service.Open n
  injected : .injected ∉ service.closed

/--
What goes wrong is left out: a pool that no call has closed or closes is let go of by a failing call;
one is created although another is there, or is not closed yet; a `close` takes the pool it closes for
the one that is there by then, or one that was injected for its own.
-/
def Careful (service : ServicePool) : ServiceAction → Prop
  | .poolCreated _ true =>
    service.pool = none
      ∧ ∀ n, .aclose (.created n) ∈ service.calls → .created n ∈ service.closed
  | .jobEnqueued _ false =>
    ∀ n, service.pool = some (.created n) → .aclose (.created n) ∈ service.calls
  | .close => service.pool ≠ some .injected
  | .poolClosed index =>
    ∀ pool, service.calls[index]? = some (.aclose pool) →
      service.pool = none ∨ service.pool = some pool
  | _ => True

/-- What careful steps keep: an open pool is the one that is there, or is about to be closed. -/
structure Kept (service : ServicePool) : Prop where
  one : ∀ m n, service.Open m → service.Open n → m = n
  held : ∀ n, service.Open n →
    service.pool = some (.created n) ∨ .aclose (.created n) ∈ service.calls
  closes : service.closes = true → ∀ n, service.Open n → .aclose (.created n) ∈ service.calls
  pool : ∀ n, service.pool = some (.created n) → service.Open n
  calls : ∀ n, .aclose (.created n) ∈ service.calls → n < service.created
  closed : ∀ n, .created n ∈ service.closed → n < service.created
  injected : .injected ∉ service.closed ∧ .aclose .injected ∉ service.calls
  initial : service.pool = some .injected → ∀ await ∈ service.calls, await = .enqueueJob .injected

theorem owns_of_kept {service : ServicePool} (h : service.Kept) : service.Owns where
  one := h.one
  closed hcloses hcalls n hopen := by
    have := h.closes hcloses n hopen
    rw [hcalls] at this
    simp at this
  injected := h.injected.1

theorem kept_init (injected : Bool) : (init injected).Kept where
  one m n hm := by simp [Open, init] at hm
  held n hn := by simp [Open, init] at hn
  closes h := by simp [init] at h
  pool n h := by
    cases injected with
    | true => simp [init] at h
    | false => simp [init] at h
  calls n h := by simp [init] at h
  closed n h := by simp [init] at h
  injected := by simp [init]
  initial _ := by simp [init]

theorem Kept.of_calls {service : ServicePool} (h : service.Kept) {calls : List Await}
    (hcalls : ∀ pool, .aclose pool ∈ calls ↔ .aclose pool ∈ service.calls)
    (hnew : ∀ await ∈ calls, await ∈ service.calls ∨ await = service.getPool)
    : Kept { service with calls := calls, closes := false } where
  one := h.one
  held n hn := by
    rw [hcalls]
    exact h.held n hn
  closes h := by simp at h
  pool := h.pool
  calls n hn := by
    rw [hcalls] at hn
    exact h.calls n hn
  closed := h.closed
  injected := by
    rw [hcalls]
    exact h.injected
  initial hpool await hawait := by
    cases hnew await hawait with
    | inl hmem => exact h.initial hpool await hmem
    | inr heq =>
      have hpool : service.pool = some .injected := hpool
      rw [heq, getPool, hpool]

theorem mem_eraseIdx_of_ne {α : Type} {l : List α} {i : Nat} {x y : α} (hi : l[i]? = some y)
    (hne : x ≠ y) : x ∈ l.eraseIdx i ↔ x ∈ l := by
  rw [List.mem_eraseIdx_iff_getElem?, List.mem_iff_getElem?]
  constructor
  . rintro ⟨j, -, hj⟩
    exact ⟨j, hj⟩
  . rintro ⟨j, hj⟩
    refine ⟨j, ?_, hj⟩
    rintro rfl
    rw [hi, Option.some.injEq] at hj
    exact hne hj.symm

variable {service next : ServicePool}

theorem getPool_ne (service : ServicePool) (pool : Pool) : service.getPool ≠ .aclose pool := by
  unfold getPool
  cases service.pool with
  | none => simp
  | some pool' => simp

theorem Kept.wait (h : service.Kept) : (service.wait service.getPool).Kept := by
  apply h.of_calls
  . intro pool
    rw [List.mem_append, List.mem_singleton, or_iff_left (Ne.symm (service.getPool_ne pool))]
  . intro await
    rw [List.mem_append, List.mem_singleton]
    exact id

theorem Kept.leave (h : service.Kept) {index : Nat} {await : Await}
    (hindex : service.calls[index]? = some await) (hawait : ∀ pool, await ≠ .aclose pool)
    : (service.leave index).Kept := by
  apply h.of_calls
  . intro pool
    exact mem_eraseIdx_of_ne hindex (Ne.symm (hawait pool))
  . intro await hmem
    exact Or.inl (List.mem_of_mem_eraseIdx hmem)

theorem Kept.enqueueNotification (h : service.Kept) (valid : Bool)
    : (service.enqueueNotification valid).Kept := by
  unfold ServicePool.enqueueNotification
  split
  . exact h.wait
  . exact h.of_calls (fun _ => Iff.rfl) fun _ => Or.inl

theorem open_poolCreated {index n : Nat}
    : (service.poolCreated index true).Open n
        ↔
      service.Open n ∨ n = service.created ∧ .created n ∉ service.closed := by
  unfold Open poolCreated
  rw [if_pos rfl]
  dsimp only
  constructor
  . rintro ⟨hlt, hnot⟩
    by_cases hn : n = service.created
    . exact Or.inr ⟨hn, hnot⟩
    . exact Or.inl ⟨by omega, hnot⟩
  . rintro (⟨hlt, hnot⟩ | ⟨heq, hnot⟩)
    . exact ⟨by omega, hnot⟩
    . exact ⟨by omega, hnot⟩

theorem mem_set_of_ne {α : Type} {l : List α} {i : Nat} {x y z : α} (hi : l[i]? = some y)
    (hxy : x ≠ y) (hxz : x ≠ z) : x ∈ l.set i z ↔ x ∈ l := by
  rw [List.mem_iff_getElem?, List.mem_iff_getElem?]
  apply exists_congr
  intro j
  by_cases hij : i = j
  . rw [← hij, hi, List.getElem?_set_self (List.getElem?_eq_some_iff.mp hi).1]
    simp [Ne.symm hxy, Ne.symm hxz]
  . rw [List.getElem?_set_ne hij]

theorem Kept.poolCreated (h : service.Kept) {index : Nat}
    (hindex : service.calls[index]? = some .createPool) {connects : Bool}
    (hcareful : service.Careful (.poolCreated index connects))
    : (service.poolCreated index connects).Kept := by
  cases connects with
  | false =>
    unfold ServicePool.poolCreated
    rw [if_neg (by simp)]
    exact h.leave hindex (by simp)
  | true =>
    rcases hcareful with ⟨hnone, hclosing⟩
    -- no pool is open yet
    have hnot : ∀ n, ¬service.Open n := by
      intro n hopen
      have hheld := h.held n hopen
      rw [hnone, or_iff_right (by simp)] at hheld
      exact hopen.2 (hclosing n hheld)
    have hopen : ∀ n, (service.poolCreated index true).Open n → n = service.created := by
      intro n hn
      rw [open_poolCreated, or_iff_right (hnot n)] at hn
      exact hn.1
    have hcalls : ∀ pool, .aclose pool ∈ (service.poolCreated index true).calls
        ↔ .aclose pool ∈ service.calls := by
      intro pool
      unfold ServicePool.poolCreated
      rw [if_pos rfl]
      exact mem_set_of_ne hindex (by simp) (by simp)
    constructor
    . intro m n hm hn
      rw [hopen m hm, hopen n hn]
    . intro n hn
      rw [hopen n hn]
      exact Or.inl rfl
    . intro hcloses
      injection hcloses
    . intro n hn
      unfold ServicePool.poolCreated at hn
      simp only [if_true, Option.some.injEq, Pool.created.injEq] at hn
      rw [open_poolCreated]
      refine Or.inr ⟨hn.symm, ?_⟩
      intro hclosed
      have := h.closed n hclosed
      omega
    . intro n hn
      rw [hcalls] at hn
      have := h.calls n hn
      unfold ServicePool.poolCreated
      simp only [if_true]
      omega
    . intro n hn
      have := h.closed n hn
      unfold ServicePool.poolCreated
      simp only [if_true]
      omega
    . rw [hcalls]
      exact h.injected
    . intro hpool
      injection hpool with hpool
      injection hpool

theorem Kept.jobEnqueued (h : service.Kept) {index : Nat} {pool : Pool}
    (hindex : service.calls[index]? = some (.enqueueJob pool)) {queued : Bool}
    (hcareful : service.Careful (.jobEnqueued index queued))
    : (service.jobEnqueued index queued).Kept := by
  have hleave := h.leave hindex (by simp)
  cases queued with
  | true => exact hleave
  | false =>
    have hcalls : ∀ pool, .aclose pool ∈ (service.leave index).calls ↔ .aclose pool ∈ service.calls := by
      intro pool
      exact mem_eraseIdx_of_ne hindex (by simp)
    constructor
    . exact hleave.one
    . intro n hn
      right
      cases hleave.held n hn with
      | inl hpool =>
        show _ ∈ (service.leave index).calls
        rw [hcalls]
        exact hcareful n hpool
      | inr hcall => exact hcall
    . intro hcloses
      injection hcloses
    . intro n hn
      injection hn
    . exact hleave.calls
    . exact hleave.closed
    . exact hleave.injected
    . intro hpool
      injection hpool

theorem Kept.close (h : service.Kept) (hcareful : service.Careful .close) : service.close.Kept := by
  unfold ServicePool.close
  cases hpool : service.pool with
  | none =>
    have hheld : ∀ n, service.Open n → .aclose (.created n) ∈ service.calls := by
      intro n hn
      have := h.held n hn
      rwa [hpool, or_iff_right (by simp)] at this
    exact {
      one := h.one
      held := fun n hn => Or.inr (hheld n hn)
      closes := fun _ => hheld
      pool := by simp
      calls := h.calls
      closed := h.closed
      injected := h.injected
      initial := by simp
    }
  | some pool =>
    have hne : pool ≠ .injected := by
      intro heq
      apply hcareful
      rw [hpool, heq]
    have hmem : ∀ await, await ∈ (service.wait (.aclose pool)).calls
        ↔ await ∈ service.calls ∨ await = .aclose pool := by
      intro await
      unfold ServicePool.wait
      rw [List.mem_append, List.mem_singleton]
    constructor
    . exact h.one
    . intro n hn
      rw [hmem]
      cases h.held n hn with
      | inl hheld => exact Or.inl hheld
      | inr hheld => exact Or.inr (Or.inl hheld)
    . intro hcloses
      injection hcloses
    . exact h.pool
    . intro n hn
      rw [hmem] at hn
      cases hn with
      | inl hn => exact h.calls n hn
      | inr hn =>
        injection hn with hn
        exact (h.pool n (by rw [hpool, hn])).1
    . exact h.closed
    . refine ⟨h.injected.1, ?_⟩
      rw [hmem, not_or]
      refine ⟨h.injected.2, ?_⟩
      intro heq
      injection heq with heq
      exact hne heq.symm
    . intro hinjected
      have hinjected : service.pool = some .injected := hinjected
      rw [hpool] at hinjected
      injection hinjected
      contradiction

theorem Kept.poolClosed (h : service.Kept) {index : Nat} {pool : Pool}
    (hindex : service.calls[index]? = some (.aclose pool))
    (hcareful : service.Careful (.poolClosed index)) : (service.poolClosed index pool).Kept := by
  have hmem := List.mem_of_getElem? hindex
  have hopen : ∀ n, (service.poolClosed index pool).Open n → pool ≠ .created n ∧ service.Open n := by
    intro n hn
    unfold Open ServicePool.poolClosed at hn
    rw [List.mem_cons, not_or] at hn
    exact ⟨Ne.symm hn.2.1, hn.1, hn.2.2⟩
  -- a pool that is open yet is not the one that was there
  have hclosing : ∀ n, (service.poolClosed index pool).Open n →
      .aclose (.created n) ∈ (service.poolClosed index pool).calls := by
    intro n hn
    rcases hopen n hn with ⟨hne, hn⟩
    have hcall : .aclose (.created n) ∈ service.calls := by
      cases h.held n hn with
      | inl hpool =>
        cases hcareful pool hindex with
        | inl hnone =>
          rw [hnone] at hpool
          injection hpool
        | inr hsome =>
          rw [hsome] at hpool
          injection hpool with heq
          exact absurd heq hne
      | inr hcall => exact hcall
    unfold ServicePool.poolClosed
    rw [mem_eraseIdx_of_ne hindex]
    . exact hcall
    . intro heq
      injection heq with heq
      exact hne heq.symm
  have hcalls : ∀ await, await ∈ (service.poolClosed index pool).calls → await ∈ service.calls := by
    intro await hawait
    exact List.mem_of_mem_eraseIdx hawait
  constructor
  . intro m n hm hn
    exact h.one m n (hopen m hm).2 (hopen n hn).2
  . intro n hn
    exact Or.inr (hclosing n hn)
  . intro _
    exact hclosing
  . intro n hn
    injection hn
  . intro n hn
    exact h.calls n (hcalls _ hn)
  . intro n hn
    cases List.mem_cons.mp hn with
    | inl heq =>
      rw [← heq] at hmem
      exact h.calls n hmem
    | inr hn => exact h.closed n hn
  . constructor
    . intro hinjected
      cases List.mem_cons.mp hinjected with
      | inl heq =>
        rw [← heq] at hmem
        exact h.injected.2 hmem
      | inr hinjected => exact h.injected.1 hinjected
    . intro hinjected
      exact h.injected.2 (hcalls _ hinjected)
  . intro hpool
    injection hpool

theorem kept_step (h : service.Kept) {action : ServiceAction} (hcareful : service.Careful action)
    (hstep : service.step action = some next) : next.Kept := by
  cases action with
  | enqueueNotification valid =>
    injection hstep with hstep
    rw [← hstep]
    exact h.enqueueNotification valid
  | poolCreated index connects =>
    rw [step] at hstep
    split at hstep
    . next hindex =>
      injection hstep with hstep
      rw [← hstep]
      exact h.poolCreated hindex hcareful
    . injection hstep
  | jobEnqueued index queued =>
    rw [step] at hstep
    split at hstep
    . next hindex =>
      injection hstep with hstep
      rw [← hstep]
      exact h.jobEnqueued hindex hcareful
    . injection hstep
  | close =>
    injection hstep with hstep
    rw [← hstep]
    exact h.close hcareful
  | poolClosed index =>
    rw [step] at hstep
    split at hstep
    . next hindex =>
      injection hstep with hstep
      rw [← hstep]
      exact h.poolClosed hindex hcareful
    . injection hstep

/-- In every run whose steps are all careful, the service owns its pools in every state. -/
theorem owns_of_careful (injected : Bool) (actions : List ServiceAction)
    (h : Along step Careful (init injected) actions) : Always step Owns (init injected) actions := by
  have hkept : Always step Kept (init injected) actions :=
    always_of_along (fun _ _ _ hkept hcareful hstep => kept_step hkept hcareful hstep)
      (kept_init injected) h
  exact hkept.mono fun _ => owns_of_kept

theorem not_always_of_lost (hpool : service.pool = none) {n : Nat} (hopen : service.Open n)
    (hclosed : ∀ m, .created m ∈ service.closed → m < service.created)
    : ¬Always step Owns service
        [.enqueueNotification true, .poolCreated service.calls.length true] := by
  intro halways
  have hwait : service.enqueueNotification true = service.wait .createPool := by
    rw [ServicePool.enqueueNotification, if_pos rfl, getPool, hpool]
  have hcall : (service.wait .createPool).calls[service.calls.length]? = some .createPool :=
    List.getElem?_concat_length
  have howns := halways _ ((service.wait .createPool).poolCreated service.calls.length true)
    List.prefix_rfl (by
      rw [run_cons, step, Option.bind_some, hwait, run_cons, step, hcall]
      rfl)
  have hold : ((service.wait .createPool).poolCreated service.calls.length true).Open n :=
    open_poolCreated.mpr (Or.inl hopen)
  have hnew : ((service.wait .createPool).poolCreated service.calls.length true).Open service.created := by
    rw [open_poolCreated]
    refine Or.inr ⟨rfl, ?_⟩
    intro hmem
    have := hclosed _ hmem
    omega
  have := howns.one _ _ hold hnew
  have := hopen.1
  omega

theorem not_owns_poolCreated (h : service.Kept) {index n : Nat} (hopen : service.Open n)
    : ¬(service.poolCreated index true).Owns := by
  intro howns
  have hnew : (service.poolCreated index true).Open service.created := by
    rw [open_poolCreated]
    refine Or.inr ⟨rfl, ?_⟩
    intro hmem
    have := h.closed _ hmem
    omega
  have := howns.one _ _ (open_poolCreated.mpr (Or.inl hopen)) hnew
  have := hopen.1
  omega

theorem Kept.exists_open (h : service.Kept) {pool : Pool} (hpool : service.pool = some pool)
    {await : Await} (hmem : await ∈ service.calls) (hne : await ≠ .enqueueJob .injected)
    : ∃ n, pool = .created n ∧ service.Open n := by
  cases pool with
  | injected => exact absurd (h.initial hpool await hmem) hne
  | created n => exact ⟨n, rfl, h.pool n hpool⟩

theorem Kept.exists_not_owns (h : service.Kept) {action : ServiceAction}
    (hstep : service.step action = some next) (hnot : ¬service.Careful action)
    : ∃ actions, ¬Always step Owns next actions := by
  cases action with
  | enqueueNotification valid => exact absurd trivial hnot
  | poolCreated index connects =>
    cases connects with
    | false => exact absurd trivial hnot
    | true =>
      rw [step] at hstep
      split at hstep
      . next hindex =>
        injection hstep with hstep
        have hopen : ∃ n, service.Open n := by
          cases hpool : service.pool with
          | none =>
            simp only [Careful, hpool, true_and, not_forall] at hnot
            rcases hnot with ⟨n, hcall, hclosed⟩
            exact ⟨n, h.calls n hcall, hclosed⟩
          | some pool =>
            rcases h.exists_open hpool (List.mem_of_getElem? hindex) (by simp) with ⟨n, -, hn⟩
            exact ⟨n, hn⟩
        rcases hopen with ⟨n, hn⟩
        refine ⟨[], ?_⟩
        rw [always_nil, ← hstep]
        exact not_owns_poolCreated h hn
      . injection hstep
  | jobEnqueued index queued =>
    cases queued with
    | true => exact absurd trivial hnot
    | false =>
      rw [step] at hstep
      split at hstep
      . injection hstep with hstep
        simp only [Careful, not_forall] at hnot
        rcases hnot with ⟨n, hpool, -⟩
        rw [← hstep]
        have hopen : (service.jobEnqueued index false).Open n := h.pool n hpool
        exact ⟨_, not_always_of_lost rfl hopen h.closed⟩
      . injection hstep
  | close =>
    injection hstep with hstep
    simp only [Careful, not_not] at hnot
    have hclose : next = service.wait (.aclose .injected) := by
      rw [← hstep, ServicePool.close, hnot]
    have hcall : (service.wait (.aclose .injected)).calls[service.calls.length]?
        = some (.aclose .injected) := List.getElem?_concat_length
    refine ⟨[.poolClosed service.calls.length], ?_⟩
    intro halways
    have howns := halways _ ((service.wait (.aclose .injected)).poolClosed service.calls.length .injected)
      List.prefix_rfl (by
        rw [hclose, run_cons, step, hcall]
        rfl)
    exact howns.injected List.mem_cons_self
  | poolClosed index =>
    rw [step] at hstep
    split at hstep
    . next pool hindex =>
      injection hstep with hstep
      simp only [Careful, not_forall, not_or] at hnot
      rcases hnot with ⟨pool', hindex', hnone, hne⟩
      rw [hindex] at hindex'
      injection hindex' with hindex'
      injection hindex' with heq
      rcases Option.ne_none_iff_exists'.mp hnone with ⟨other, hother⟩
      rcases h.exists_open hother (List.mem_of_getElem? hindex) (by simp) with ⟨n, rfl, hn⟩
      rw [← hstep]
      refine ⟨_, not_always_of_lost (n := n) rfl ⟨hn.1, ?_⟩ ?_⟩
      . intro hclosed
        cases List.mem_cons.mp hclosed with
        | inl hsame =>
          apply hne
          rw [hother, hsame, heq]
        | inr hclosed => exact hn.2 hclosed
      . intro m hm
        cases List.mem_cons.mp hm with
        | inl hsame =>
          apply h.calls m
          rw [hsame]
          exact List.mem_of_getElem? hindex
        | inr hm => exact h.closed m hm
    . injection hstep

/-- A run may go wrong after its first step that is not careful, if not with it. -/
theorem exists_not_owns_of_not_careful (injected : Bool) {actions : List ServiceAction}
    (hcareful : Along step Careful (init injected) actions)
    (hrun : run step (init injected) actions = some service) {action : ServiceAction}
    (hstep : service.step action = some next) (hnot : ¬service.Careful action)
    : ∃ rest, ¬Always step Owns (init injected) (actions ++ action :: rest) := by
  have hkept : Always step Kept (init injected) actions :=
    always_of_along (fun _ _ _ hkept hcareful hstep => kept_step hkept hcareful hstep)
      (kept_init injected) hcareful
  rcases (hkept _ _ List.prefix_rfl hrun).exists_not_owns hstep hnot with ⟨rest, hrest⟩
  refine ⟨rest, ?_⟩
  intro halways
  have hafter := halways.of_append hrun
  rw [always_cons] at hafter
  exact hrest (hafter.2 next hstep)

def queuedOnce : List ServiceAction :=
  [.enqueueNotification true, .poolCreated 0 true, .jobEnqueued 0 true, .close, .poolClosed 0]

theorem queuedOnce_owns
    : (run step (init false) queuedOnce).map ServicePool.closed = some [.created 0]
        ∧ Always step Owns (init false) queuedOnce := by
  refine ⟨rfl, owns_of_careful false queuedOnce ?_⟩
  unfold queuedOnce
  rw [along_cons_of_step rfl, along_cons_of_step rfl, along_cons_of_step rfl, along_cons_of_step rfl,
    along_cons_of_step rfl]
  refine ⟨trivial, ⟨rfl, ?_⟩, trivial, ?_, ?_, along_nil⟩
  . intro n hmem
    simp [init, enqueueNotification, wait, getPool] at hmem
  . intro hpool
    injection hpool with hpool
    injection hpool
  . intro pool hpool
    injection hpool with hpool
    injection hpool with hpool
    rw [← hpool]
    exact Or.inr rfl

def failedOnce : List ServiceAction :=
  [.enqueueNotification true, .poolCreated 0 true, .jobEnqueued 0 false, .enqueueNotification true,
    .poolCreated 0 true]

def atOnce : List ServiceAction :=
  [.enqueueNotification true, .enqueueNotification true, .poolCreated 0 true, .poolCreated 1 true]

/--
Two pools are open after a failure, as after two first calls at once; the one of the call that failed
outlives the service; and a pool that was injected is closed.
-/
theorem failedOnce_leaks
    : (∃ after, run step (init false) failedOnce = some after ∧ after.Open 0 ∧ after.Open 1)
        ∧ (∃ after, run step (init false) atOnce = some after ∧ after.Open 0 ∧ after.Open 1)
        ∧ (∃ after, run step (init false)
            [.enqueueNotification true, .poolCreated 0 true, .jobEnqueued 0 false, .close] = some after
          ∧ after.closes = true ∧ after.calls = [] ∧ after.Open 0)
        ∧ (∃ after, run step (init true) [.close, .poolClosed 0] = some after
          ∧ .injected ∈ after.closed)
        ∧ ¬∀ injected actions, Always step Owns (init injected) actions := by
  have hfailed : ∃ after, run step (init false) failedOnce = some after ∧ after.Open 0 ∧ after.Open 1 :=
    ⟨_, rfl, ⟨by decide, by decide⟩, by decide, by decide⟩
  refine ⟨hfailed, ⟨_, rfl, ⟨by decide, by decide⟩, by decide, by decide⟩,
    ⟨_, rfl, rfl, rfl, by decide, by decide⟩, ⟨_, rfl, by decide⟩, ?_⟩
  intro howns
  rcases hfailed with ⟨after, hrun, hzero, hone⟩
  have := (howns false failedOnce _ after List.prefix_rfl hrun).one 0 1 hzero hone
  contradiction

section

/-- One call, with no other beside it. -/
def alone (service : ServicePool) (valid connects queued : Bool) : List ServiceAction :=
  .enqueueNotification valid ::
    if valid then
      (if service.pool.isSome then [] else [.poolCreated 0 connects])
        ++ if service.pool.isSome || connects then [.jobEnqueued 0 queued] else []
    else
      []

variable (floatText : PyFloat → Str) (redis : Redis)

/-- Alone, a call does to the pool what the service does that takes one call after the other. -/
theorem pool_alone (hcalls : service.calls = []) (channel address text category metadata : Value)
    : (run step service (service.alone
        (NotificationJob.new channel address text category
          (if metadata.truthy then metadata else .dict [])).isOk
        redis.connect.isNone
        ((NotificationJob.new channel address text category
            (if metadata.truthy then metadata else .dict [])).toOption.any fun job =>
          (BackgroundNotificationService.enqueueJob floatText redis job.toPayload).isOk))).map
        (fun after => after.pool.isSome)
        =
      some ((BackgroundNotificationService.mk service.pool.isSome).enqueueNotification floatText redis
        channel address text category metadata).1.pool := by
  rcases service with ⟨pool, created, closed, calls, closes⟩
  subst hcalls
  rcases redis with ⟨connect, enqueue⟩
  unfold BackgroundNotificationService.enqueueNotification
  dsimp only
  cases NotificationJob.new channel address text category
      (if metadata.truthy then metadata else .dict []) with
  | error error => rfl
  | ok job =>
    cases pool with
    | some pool =>
      simp only [Except.isOk, Except.toBool, Except.toOption, Option.any_some]
      cases BackgroundNotificationService.enqueueJob floatText ⟨connect, enqueue⟩ job.toPayload with
      | error name => rfl
      | ok bytes => rfl
    | none =>
      cases connect with
      | some name => rfl
      | none =>
        simp only [Except.isOk, Except.toBool, Except.toOption, Option.any_some]
        cases BackgroundNotificationService.enqueueJob floatText ⟨none, enqueue⟩ job.toPayload with
        | error name => rfl
        | ok bytes => rfl

end

end ServicePool

end Api
