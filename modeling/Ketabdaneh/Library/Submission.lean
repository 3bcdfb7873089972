import Ketabdaneh.Library.Transition

/-!
This module contains pages that send requests to a server which others use as well. A request is
carried out at any later time and at most once, and the page may have given it up by then.
-/

namespace Submission

inductive Wait where
  | waiting
  | heard
  | abandoned
  deriving DecidableEq

structure Sent (Request Answer : Type) where
  request : Request
  -- what the server answered when it carried the request out
  answer : Option Answer := none
  wait : Wait := .waiting

structure Page (Store Form Request Answer : Type) where
  store : Store
  form : Form
  sent : List (Sent Request Answer) := []

inductive Action (Event Change Input Loss : Type) where
  | user (event : Event)
  | elsewhere (change : Change)
  -- the server carries a request out, with what it draws for that
  | carryOut (i : Nat) (input : Input)
  | hear (i : Nat)
  -- the page stops waiting for an answer, for what it notices instead of one
  | abandon (i : Nat) (loss : Loss)

variable {Store Form Request Answer Event Change Input Loss : Type}

structure Rules (Store Form Request Answer Event Change Input Loss : Type) where
  -- what a form does on an event, if it can happen to the form, and the request it sends
  user : Form → Event → Option (Form × Option Request)
  change : Store → Change → Store
  carryOut : Store → Request → Input → Answer × Store
  hear : Form → Answer → Form
  abandon : Form → Loss → Form

/-- The request, while the page waits for its answer. -/
def Page.awaited (page : Page Store Form Request Answer) (i : Nat) : Option (Sent Request Answer) :=
  page.sent[i]?.filter fun sent => sent.wait = .waiting

def Page.unanswered (page : Page Store Form Request Answer) (i : Nat)
    : Option (Sent Request Answer) :=
  page.sent[i]?.filter fun sent => sent.answer.isNone

def Page.requests (page : Page Store Form Request Answer) : List Request :=
  page.sent.map Sent.request

namespace Rules

variable (rules : Rules Store Form Request Answer Event Change Input Loss)

def step (page : Page Store Form Request Answer)
    : Action Event Change Input Loss → Option (Page Store Form Request Answer)
  | .user event =>
    (rules.user page.form event).map fun (form, request) =>
      { page with form, sent := page.sent ++ request.toList.map fun request => { request } }
  | .elsewhere change => some { page with store := rules.change page.store change }
  | .carryOut i input =>
    (page.unanswered i).map fun sent =>
      let (answer, store) := rules.carryOut page.store sent.request input
      { page with store, sent := page.sent.set i { sent with answer := some answer } }
  | .hear i =>
    (page.awaited i).bind fun sent =>
      sent.answer.map fun answer =>
        { page with
          form := rules.hear page.form answer
          sent := page.sent.set i { sent with wait := .heard } }
  | .abandon i loss =>
    (page.awaited i).map fun sent =>
      { page with
        form := rules.abandon page.form loss
        sent := page.sent.set i { sent with wait := .abandoned } }

variable {rules} {page page' : Page Store Form Request Answer} {i : Nat}

theorem step_user {event : Event} (h : rules.step page (.user event) = some page')
    : ∃ form request, rules.user page.form event = some (form, request)
        ∧ page' = { page with
          form
          sent := page.sent ++ request.toList.map fun request => { request } } := by
  rw [step, Option.map_eq_some_iff] at h
  rcases h with ⟨⟨form, request⟩, huser, h⟩
  exact ⟨form, request, huser, h.symm⟩

theorem step_carryOut {input : Input} (h : rules.step page (.carryOut i input) = some page')
    : ∃ sent, page.sent[i]? = some sent ∧ sent.answer = none
        ∧ page' = { page with
          store := (rules.carryOut page.store sent.request input).2
          sent := page.sent.set i
            { sent with answer := some (rules.carryOut page.store sent.request input).1 } } := by
  rw [step, Option.map_eq_some_iff] at h
  rcases h with ⟨sent, hsent, h⟩
  rw [Page.unanswered, Option.filter_eq_some_iff, Option.isNone_iff_eq_none] at hsent
  exact ⟨sent, hsent.1, hsent.2, h.symm⟩

theorem step_hear (h : rules.step page (.hear i) = some page')
    : ∃ sent answer, page.sent[i]? = some sent ∧ sent.wait = .waiting ∧ sent.answer = some answer
        ∧ page' = { page with
          form := rules.hear page.form answer
          sent := page.sent.set i { sent with wait := .heard } } := by
  rw [step, Option.bind_eq_some_iff] at h
  rcases h with ⟨sent, hsent, h⟩
  rw [Option.map_eq_some_iff] at h
  rcases h with ⟨answer, hanswer, h⟩
  rw [Page.awaited, Option.filter_eq_some_iff, decide_eq_true_iff] at hsent
  exact ⟨sent, answer, hsent.1, hsent.2, hanswer, h.symm⟩

theorem step_abandon {loss : Loss} (h : rules.step page (.abandon i loss) = some page')
    : ∃ sent, page.sent[i]? = some sent ∧ sent.wait = .waiting
        ∧ page' = { page with
          form := rules.abandon page.form loss
          sent := page.sent.set i { sent with wait := .abandoned } } := by
  rw [step, Option.map_eq_some_iff] at h
  rcases h with ⟨sent, hsent, h⟩
  rw [Page.awaited, Option.filter_eq_some_iff, decide_eq_true_iff] at hsent
  exact ⟨sent, hsent.1, hsent.2, h.symm⟩

end Rules

namespace Sent

/-- The request is the same one, and its answer does not change once it has been given. -/
structure Onward (sent sent' : Sent Request Answer) : Prop where
  request : sent'.request = sent.request
  answer : ∀ answer, sent.answer = some answer → sent'.answer = some answer

theorem Onward.refl (sent : Sent Request Answer) : sent.Onward sent :=
  ⟨rfl, fun _ h => h⟩

end Sent

section

variable {rules : Rules Store Form Request Answer Event Change Input Loss}
variable {page page' : Page Store Form Request Answer} {i : Nat}

theorem getElem?_set_of_some {sents : List (Sent Request Answer)} {sent : Sent Request Answer}
    (h : sents[i]? = some sent) (sent' : Sent Request Answer) (j : Nat)
    : (sents.set i sent')[j]? = if i = j then some sent' else sents[j]? := by
  rw [List.getElem?_set]
  split
  . rcases List.getElem?_eq_some_iff.mp h with ⟨hlt, _⟩
    rw [if_pos hlt]
  . rfl

theorem onward_of_step {action : Action Event Change Input Loss}
    (h : rules.step page action = some page') {sent : Sent Request Answer}
    (hsent : page.sent[i]? = some sent)
    : ∃ sent', page'.sent[i]? = some sent' ∧ sent.Onward sent' := by
  have hset : ∀ {j : Nat} {old new : Sent Request Answer}, page.sent[j]? = some old →
      old.Onward new →
      ∃ sent', (page.sent.set j new)[i]? = some sent' ∧ sent.Onward sent' := by
    intro j old new hold honward
    rw [getElem?_set_of_some hold]
    split
    . next hij =>
      rw [hij, hsent, Option.some.injEq] at hold
      rw [hold]
      exact ⟨new, rfl, honward⟩
    . exact ⟨sent, hsent, Sent.Onward.refl sent⟩
  cases action with
  | user event =>
    rcases rules.step_user h with ⟨form, request, _, h⟩
    rw [h]
    rcases List.getElem?_eq_some_iff.mp hsent with ⟨hlt, _⟩
    refine ⟨sent, ?_, Sent.Onward.refl sent⟩
    rw [List.getElem?_append_left hlt]
    exact hsent
  | elsewhere change =>
    injection h with h
    rw [← h]
    exact ⟨sent, hsent, Sent.Onward.refl sent⟩
  | carryOut j input =>
    rcases rules.step_carryOut h with ⟨old, hold, hnone, h⟩
    rw [h]
    apply hset hold
    refine ⟨rfl, ?_⟩
    intro answer hanswer
    rw [hnone] at hanswer
    contradiction
  | hear j =>
    rcases rules.step_hear h with ⟨old, _, hold, _, _, h⟩
    rw [h]
    exact hset hold ⟨rfl, fun _ h => h⟩
  | abandon j loss =>
    rcases rules.step_abandon h with ⟨old, hold, _, h⟩
    rw [h]
    exact hset hold ⟨rfl, fun _ h => h⟩

theorem map_request_set {sents : List (Sent Request Answer)} {sent : Sent Request Answer}
    (h : sents[i]? = some sent) {sent' : Sent Request Answer}
    (hrequest : sent'.request = sent.request)
    : (sents.set i sent').map Sent.request = sents.map Sent.request := by
  apply List.ext_getElem?
  intro j
  rw [List.getElem?_map, List.getElem?_map, getElem?_set_of_some h]
  split
  . next hij => rw [← hij, h, Option.map_some, Option.map_some, hrequest]
  . rfl

theorem form_of_step {action : Action Event Change Input Loss}
    (h : rules.step page action = some page')
    : (∃ event request, rules.user page.form event = some (page'.form, request)
          ∧ page'.requests = page.requests ++ request.toList)
        ∨ page'.requests = page.requests
          ∧ (page'.form = page.form ∨ (∃ answer, page'.form = rules.hear page.form answer)
            ∨ ∃ loss, page'.form = rules.abandon page.form loss) := by
  cases action with
  | user event =>
    rcases rules.step_user h with ⟨form, request, huser, h⟩
    left
    refine ⟨event, request, ?_, ?_⟩
    . rw [h]
      exact huser
    . rw [h, Page.requests, List.map_append, List.map_map]
      simp [Page.requests, Function.comp_def]
  | elsewhere change =>
    injection h with h
    rw [← h]
    exact Or.inr ⟨rfl, Or.inl rfl⟩
  | carryOut i input =>
    rcases rules.step_carryOut h with ⟨sent, hsent, _, h⟩
    right
    refine ⟨?_, Or.inl ?_⟩
    . rw [h]
      exact map_request_set hsent rfl
    . rw [h]
  | hear i =>
    rcases rules.step_hear h with ⟨sent, answer, hsent, _, _, h⟩
    right
    refine ⟨?_, Or.inr (Or.inl ⟨answer, ?_⟩)⟩
    . rw [h]
      exact map_request_set hsent rfl
    . rw [h]
  | abandon i loss =>
    rcases rules.step_abandon h with ⟨sent, hsent, _, h⟩
    right
    refine ⟨?_, Or.inr (Or.inr ⟨loss, ?_⟩)⟩
    . rw [h]
      exact map_request_set hsent rfl
    . rw [h]

end

section

variable (rules : Rules Store Form Request Answer Event Change Input Loss)

/--
A form that waits for one answer at a time. It is left for an answer of success, and sends nothing
any more.
-/
structure Rules.OneAtATime (valid : Form → Prop) (waits left : Form → Bool)
    (succeeds : Answer → Bool) : Prop where
  sends : ∀ {form event form' request}, valid form →
    rules.user form event = some (form', some request) →
    waits form = false ∧ left form = false ∧ waits form' = true ∧ left form' = false
  stays : ∀ {form event form'}, rules.user form event = some (form', none) →
    waits form' = waits form ∧ left form' = left form
  hears : ∀ {form} answer, waits form = true →
    waits (rules.hear form answer) = false ∧ left (rules.hear form answer) = succeeds answer
  abandons : ∀ {form} loss, waits form = true →
    waits (rules.abandon form loss) = false ∧ left (rules.abandon form loss) = false
  valid_user : ∀ {form event form' request}, valid form →
    rules.user form event = some (form', request) → valid form'
  valid_hear : ∀ {form} answer, waits form = true → valid (rules.hear form answer)
  valid_abandon : ∀ {form} loss, waits form = true → valid (rules.abandon form loss)

/-- The last request is the one that is waited for, or the one that succeeded. -/
structure Page.InTurn (valid : Form → Prop) (waits left : Form → Bool) (succeeds : Answer → Bool)
    (page : Page Store Form Request Answer) : Prop where
  valid : valid page.form
  waiting : ∀ {i sent}, page.sent[i]? = some sent →
    (sent.wait = .waiting ↔ i + 1 = page.sent.length ∧ waits page.form = true)
  heard : ∀ {i sent}, page.sent[i]? = some sent → sent.wait = .heard →
    ∃ answer, sent.answer = some answer
      ∧ (succeeds answer = true ↔ i + 1 = page.sent.length ∧ left page.form = true)
  left : left page.form = true →
    ∃ (i : Nat) (sent : Sent Request Answer), page.sent[i]? = some sent ∧ sent.wait = .heard
      ∧ i + 1 = page.sent.length

variable {rules} {valid : Form → Prop} {waits left : Form → Bool} {succeeds : Answer → Bool}

theorem Page.InTurn.start {form : Form} (store : Store) (hvalid : valid form)
    (h : left form = false)
    : Page.InTurn valid waits left succeeds ({ store, form } : Page Store Form Request Answer) := by
  constructor
  . exact hvalid
  . intro i sent hsent
    contradiction
  . intro i sent hsent
    contradiction
  . intro hleft
    rw [h] at hleft
    contradiction

variable {page page' : Page Store Form Request Answer}

theorem Page.InTurn.user (hrules : rules.OneAtATime valid waits left succeeds)
    (h : page.InTurn valid waits left succeeds) {event : Event} {form : Form}
    {request : Option Request}
    (huser : rules.user page.form event = some (form, request))
    : Page.InTurn valid waits left succeeds
        { page with form, sent := page.sent ++ request.toList.map fun request => { request } } := by
  cases request with
  | none =>
    rcases hrules.stays huser with ⟨hwaits, hleft⟩
    rw [Option.toList_none, List.map_nil, List.append_nil]
    constructor
    . exact hrules.valid_user h.valid huser
    . rw [hwaits]
      exact h.waiting
    . rw [hleft]
      exact h.heard
    . rw [hleft]
      exact h.left
  | some request =>
    rcases hrules.sends h.valid huser with ⟨hwaits, hleft, hwaits', hleft'⟩
    -- the page waited for nothing, so that the new request is the only one that it waits for
    rw [Option.toList_some, List.map_singleton]
    constructor
    . exact hrules.valid_user h.valid huser
    . intro i sent hsent
      rw [List.length_append, List.length_singleton, hwaits', Nat.succ_inj]
      rcases Nat.lt_or_ge i page.sent.length with hlt | hge
      . rw [List.getElem?_append_left hlt] at hsent
        rw [h.waiting hsent, hwaits]
        simp [Nat.ne_of_lt hlt]
      . rw [List.getElem?_append_right hge, List.getElem?_singleton] at hsent
        split at hsent
        . next hi =>
          injection hsent with hsent
          rw [← hsent]
          simp
          omega
        . contradiction
    . intro i sent hsent hheard
      rw [hleft']
      rcases Nat.lt_or_ge i page.sent.length with hlt | hge
      . rw [List.getElem?_append_left hlt] at hsent
        rcases h.heard hsent hheard with ⟨answer, hanswer, hsucceeds⟩
        refine ⟨answer, hanswer, ?_⟩
        rw [hsucceeds, hleft]
        simp
      . rw [List.getElem?_append_right hge, List.getElem?_singleton] at hsent
        split at hsent
        . injection hsent with hsent
          rw [← hsent] at hheard
          contradiction
        . contradiction
    . rw [hleft']
      intro hfalse
      contradiction

theorem Page.InTurn.settle (h : page.InTurn valid waits left succeeds) {i : Nat}
    {sent : Sent Request Answer} (hsent : page.sent[i]? = some sent)
    (hwaiting : sent.wait = .waiting)
    {form : Form} {wait : Wait} (hvalid : valid form) (hwait : wait ≠ .waiting)
    (hwaits : waits form = false)
    (hheard : wait = .heard → ∃ answer, sent.answer = some answer ∧ left form = succeeds answer)
    (hleft : left form = true → wait = .heard)
    : Page.InTurn valid waits left succeeds
        { page with form, sent := page.sent.set i { sent with wait } } := by
  -- what is waited for is the last request, and the others keep their waits
  have hlast := ((h.waiting hsent).mp hwaiting).1
  constructor
  . exact hvalid
  . intro j sent' hsent'
    rw [hwaits, List.length_set]
    rw [getElem?_set_of_some hsent] at hsent'
    split at hsent'
    . injection hsent' with hsent'
      rw [← hsent']
      simp [hwait]
    . rw [h.waiting hsent']
      simp
      omega
  . intro j sent' hsent' hheard'
    rw [List.length_set]
    rw [getElem?_set_of_some hsent] at hsent'
    split at hsent'
    . next hij =>
      injection hsent' with hsent'
      rw [← hsent'] at hheard' ⊢
      rcases hheard hheard' with ⟨answer, hanswer, hsucceeds⟩
      refine ⟨answer, hanswer, ?_⟩
      rw [hsucceeds, ← hij]
      simp [hlast]
    . rcases h.heard hsent' hheard' with ⟨answer, hanswer, hsucceeds⟩
      refine ⟨answer, hanswer, ?_⟩
      rw [hsucceeds]
      omega
  . intro hform
    refine ⟨i, { sent with wait }, ?_, hleft hform, ?_⟩
    . rw [getElem?_set_of_some hsent, if_pos rfl]
    . rw [List.length_set]
      exact hlast

theorem Page.InTurn.answer (h : page.InTurn valid waits left succeeds) {i : Nat}
    {sent : Sent Request Answer} (hsent : page.sent[i]? = some sent) (hnone : sent.answer = none)
    (store : Store) (answer : Answer)
    : Page.InTurn valid waits left succeeds
        { page with store, sent := page.sent.set i { sent with answer := some answer } } := by
  constructor
  . exact h.valid
  . intro j sent' hsent'
    rw [List.length_set]
    rw [getElem?_set_of_some hsent] at hsent'
    split at hsent'
    . next hij =>
      injection hsent' with hsent'
      have hwaiting := h.waiting hsent
      rw [← hsent', ← hij]
      exact hwaiting
    . exact h.waiting hsent'
  . intro j sent' hsent' hheard
    rw [List.length_set]
    rw [getElem?_set_of_some hsent] at hsent'
    split at hsent'
    . injection hsent' with hsent'
      rw [← hsent'] at hheard
      rcases h.heard hsent hheard with ⟨answer, hanswer, _⟩
      rw [hnone] at hanswer
      contradiction
    . exact h.heard hsent' hheard
  . intro hleft
    rcases h.left hleft with ⟨j, sent', hsent', hheard, hlast⟩
    refine ⟨j, sent', ?_, hheard, ?_⟩
    . rw [getElem?_set_of_some hsent, if_neg]
      . exact hsent'
      -- the request that was heard had its answer before
      . intro hij
        rw [hij, hsent', Option.some.injEq] at hsent
        rw [hsent] at hheard
        rcases h.heard (hsent ▸ hsent') hheard with ⟨answer, hanswer, _⟩
        rw [hnone] at hanswer
        contradiction
    . rw [List.length_set]
      exact hlast

theorem inTurn_of_step (hrules : rules.OneAtATime valid waits left succeeds)
    (h : page.InTurn valid waits left succeeds) {action : Action Event Change Input Loss}
    (hstep : rules.step page action = some page') : page'.InTurn valid waits left succeeds := by
  cases action with
  | user event =>
    rcases rules.step_user hstep with ⟨form, request, huser, hpage⟩
    rw [hpage]
    exact h.user hrules huser
  | elsewhere change =>
    injection hstep with hstep
    rw [← hstep]
    exact ⟨h.valid, h.waiting, h.heard, h.left⟩
  | carryOut i input =>
    rcases rules.step_carryOut hstep with ⟨sent, hsent, hnone, hpage⟩
    rw [hpage]
    apply h.answer hsent hnone
  | hear i =>
    rcases rules.step_hear hstep with ⟨sent, answer, hsent, hwaiting, hanswer, hpage⟩
    have hform := ((h.waiting hsent).mp hwaiting).2
    rcases hrules.hears answer hform with ⟨hwaits, hleft⟩
    rw [hpage]
    apply h.settle hsent hwaiting
    . exact hrules.valid_hear answer hform
    . simp
    . exact hwaits
    . intro _
      exact ⟨answer, hanswer, hleft⟩
    . intro _
      rfl
  | abandon i loss =>
    rcases rules.step_abandon hstep with ⟨sent, hsent, hwaiting, hpage⟩
    have hform := ((h.waiting hsent).mp hwaiting).2
    rcases hrules.abandons loss hform with ⟨hwaits, hleft⟩
    rw [hpage]
    apply h.settle hsent hwaiting
    . exact hrules.valid_abandon loss hform
    . simp
    . exact hwaits
    . intro hheard
      contradiction
    . intro hleft'
      rw [hleft] at hleft'
      contradiction

/-- The successes that a page does not know of come of the requests it has abandoned. -/
theorem Page.InTurn.abandoned (h : page.InTurn valid waits left succeeds)
    (hwaits : waits page.form = false) (hleft : left page.form = false) {sent : Sent Request Answer}
    (hsent : sent ∈ page.sent) (hsucceeds : sent.answer.any succeeds = true)
    : sent.wait = .abandoned := by
  rcases List.getElem?_of_mem hsent with ⟨i, hi⟩
  cases hcase : sent.wait with
  | waiting =>
    have hpending := ((h.waiting hi).mp hcase).2
    rw [hwaits] at hpending
    contradiction
  | heard =>
    rcases h.heard hi hcase with ⟨answer, hanswer, hiff⟩
    rw [hanswer] at hsucceeds
    have hended := (hiff.mp hsucceeds).2
    rw [hleft] at hended
    contradiction
  | abandoned => rfl

end

section

variable (rules : Rules Store Form Request Answer Event Change Input Loss)

/-- What an answer says of the store stays so, whatever is done to the store later. -/
structure Rules.Lasting (Stands : Store → Request → Answer → Prop) : Prop where
  carriedOut : ∀ store request input,
    Stands (rules.carryOut store request input).2 request (rules.carryOut store request input).1
  change : ∀ {store request answer} change, Stands store request answer →
    Stands (rules.change store change) request answer
  carryOut : ∀ {store request answer} request' input, Stands store request answer →
    Stands (rules.carryOut store request' input).2 request answer

def Page.Standing (Stands : Store → Request → Answer → Prop) (page : Page Store Form Request Answer)
    : Prop :=
  ∀ sent ∈ page.sent, ∀ answer, sent.answer = some answer → Stands page.store sent.request answer

variable {rules} {Stands : Store → Request → Answer → Prop}
variable {page page' : Page Store Form Request Answer}

theorem Page.Standing.set (h : page.Standing Stands) {i : Nat} {sent : Sent Request Answer}
    (hsent : page.sent[i]? = some sent) (form : Form) (wait : Wait)
    : Page.Standing Stands { page with form, sent := page.sent.set i { sent with wait } } := by
  intro sent' hsent'
  rcases List.mem_or_eq_of_mem_set hsent' with hmem | heq
  . exact h sent' hmem
  . rw [heq]
    exact h sent (List.mem_of_getElem? hsent)

theorem standing_of_step (hrules : rules.Lasting Stands) (h : page.Standing Stands)
    {action : Action Event Change Input Loss} (hstep : rules.step page action = some page')
    : page'.Standing Stands := by
  cases action with
  | user event =>
    rcases rules.step_user hstep with ⟨form, request, _, hpage⟩
    rw [hpage]
    intro sent hsent answer hanswer
    rw [List.mem_append] at hsent
    cases hsent with
    | inl hsent => exact h sent hsent answer hanswer
    | inr hsent =>
      rw [List.mem_map] at hsent
      rcases hsent with ⟨request, _, hsent⟩
      rw [← hsent] at hanswer
      contradiction
  | elsewhere change =>
    injection hstep with hstep
    rw [← hstep]
    intro sent hsent answer hanswer
    exact hrules.change change (h sent hsent answer hanswer)
  | carryOut i input =>
    rcases rules.step_carryOut hstep with ⟨sent, hsent, _, hpage⟩
    rw [hpage]
    intro sent' hsent' answer hanswer
    rcases List.mem_or_eq_of_mem_set hsent' with hmem | heq
    . exact hrules.carryOut sent.request input (h sent' hmem answer hanswer)
    . rw [heq, Option.some.injEq] at hanswer
      rw [heq, ← hanswer]
      exact hrules.carriedOut page.store sent.request input
  | hear i =>
    rcases rules.step_hear hstep with ⟨sent, answer, hsent, _, _, hpage⟩
    rw [hpage]
    apply h.set hsent
  | abandon i loss =>
    rcases rules.step_abandon hstep with ⟨sent, hsent, _, hpage⟩
    rw [hpage]
    apply h.set hsent

variable {Key Row : Type} {key : Answer → Option Key}

/-- No two of the answers have one key. -/
def Page.Distinct (key : Answer → Option Key) (page : Page Store Form Request Answer) : Prop :=
  (page.sent.filterMap fun sent => sent.answer.bind key).Nodup

theorem filterMap_set_of_eq {sents : List (Sent Request Answer)} {i : Nat}
    {sent : Sent Request Answer}
    (hsent : sents[i]? = some sent) {β : Type} {f : Sent Request Answer → Option β}
    {sent' : Sent Request Answer} (h : f sent' = f sent)
    : (sents.set i sent').filterMap f = sents.filterMap f := by
  rcases List.getElem?_eq_some_iff.mp hsent with ⟨hlt, hget⟩
  rw [List.set_eq_take_append_cons_drop, if_pos hlt]
  conv_rhs => rw [← List.take_append_drop i sents, List.drop_eq_getElem_cons hlt, hget]
  rw [List.filterMap_append, List.filterMap_append, List.filterMap_cons, List.filterMap_cons, h]

theorem distinct_of_step
    (hfresh : ∀ {store request answer} request' input k, Stands store request answer →
      key answer = some k → key (rules.carryOut store request' input).1 ≠ some k)
    (hstanding : page.Standing Stands) (h : page.Distinct key)
    {action : Action Event Change Input Loss} (hstep : rules.step page action = some page')
    : page'.Distinct key := by
  cases action with
  | user event =>
    rcases rules.step_user hstep with ⟨form, request, _, hpage⟩
    rw [hpage, Page.Distinct, List.filterMap_append]
    cases request with
    | none =>
      rw [Option.toList_none, List.map_nil, List.filterMap_nil, List.append_nil]
      exact h
    | some request =>
      rw [Option.toList_some, List.map_singleton, List.filterMap_cons_none, List.filterMap_nil,
        List.append_nil]
      . exact h
      . rfl
  | elsewhere change =>
    injection hstep with hstep
    rw [← hstep]
    exact h
  | carryOut i input =>
    rcases rules.step_carryOut hstep with ⟨sent, hsent, hnone, hpage⟩
    rcases List.getElem?_eq_some_iff.mp hsent with ⟨hlt, hget⟩
    have hbefore : page.sent = page.sent.take i ++ sent :: page.sent.drop (i + 1) := by
      rw [← hget, ← List.drop_eq_getElem_cons hlt, List.take_append_drop]
    have hold : (page.sent.take i).filterMap (fun sent => sent.answer.bind key)
        ++ (page.sent.drop (i + 1)).filterMap (fun sent => sent.answer.bind key)
        = page.sent.filterMap fun sent => sent.answer.bind key := by
      conv_rhs => rw [hbefore]
      rw [List.filterMap_append, List.filterMap_cons_none]
      rw [hnone, Option.bind_none]
    rw [hpage, Page.Distinct, List.set_eq_take_append_cons_drop, if_pos hlt, List.filterMap_append,
      List.filterMap_cons, Option.bind_some]
    rw [Page.Distinct, ← hold] at h
    split
    . exact h
    . next k hkey =>
      rw [List.perm_middle.nodup_iff, List.nodup_cons]
      refine ⟨?_, h⟩
      rw [hold, List.mem_filterMap]
      rintro ⟨sent', hsent', hk⟩
      rw [Option.bind_eq_some_iff] at hk
      rcases hk with ⟨answer, hanswer, hk⟩
      exact hfresh sent.request input k (hstanding sent' hsent' answer hanswer) hk hkey
  | hear i =>
    rcases rules.step_hear hstep with ⟨sent, answer, hsent, _, _, hpage⟩
    rw [hpage, Page.Distinct, filterMap_set_of_eq hsent]
    . exact h
    . rfl
  | abandon i loss =>
    rcases rules.step_abandon hstep with ⟨sent, hsent, _, hpage⟩
    rw [hpage, Page.Distinct, filterMap_set_of_eq hsent]
    . exact h
    . rfl

theorem le_of_run [Preorder Store] (hchange : ∀ store change, store ≤ rules.change store change)
    (hcarryOut : ∀ store request input, store ≤ (rules.carryOut store request input).2)
    {actions : List (Action Event Change Input Loss)}
    (hrun : Transition.run rules.step page actions = some page') : page.store ≤ page'.store := by
  refine @Transition.run_keeps _ _ rules.step (fun page' => page.store ≤ page'.store) ?_ page page'
    actions (le_refl _) hrun
  intro mid action next h hstep
  apply h.trans
  cases action with
  | user event =>
    rcases rules.step_user hstep with ⟨_, _, _, hnext⟩
    rw [hnext]
  | elsewhere change =>
    injection hstep with hstep
    rw [← hstep]
    exact hchange mid.store change
  | carryOut i input =>
    rcases rules.step_carryOut hstep with ⟨sent, _, _, hnext⟩
    rw [hnext]
    exact hcarryOut mid.store sent.request input
  | hear i =>
    rcases rules.step_hear hstep with ⟨_, _, _, _, _, hnext⟩
    rw [hnext]
  | abandon i loss =>
    rcases rules.step_abandon hstep with ⟨_, _, _, hnext⟩
    rw [hnext]

/-- What only events of one kind bring about in a form is there once such an event has happened. -/
theorem caused_of_run {P : Form → Prop} {Q : Event → Prop}
    (huser : ∀ {form event form' request}, rules.user form event = some (form', request) →
      (P form' ↔ P form ∨ Q event))
    (hhear : ∀ form answer, P (rules.hear form answer) ↔ P form)
    (habandon : ∀ form loss, P (rules.abandon form loss) ↔ P form)
    {actions : List (Action Event Change Input Loss)}
    (hrun : Transition.run rules.step page actions = some page')
    : P page'.form ↔ P page.form ∨ ∃ event, .user event ∈ actions ∧ Q event := by
  induction actions using List.reverseRecOn generalizing page' with
  | nil =>
    injection hrun with hrun
    simp [hrun]
  | append_singleton actions action ih =>
    rw [Transition.run_concat, Option.bind_eq_some_iff] at hrun
    rcases hrun with ⟨mid, hmid, hstep⟩
    have hmidform := ih hmid
    cases action with
    | user event =>
      rcases rules.step_user hstep with ⟨form, request, hform, hpage⟩
      simp [hpage, huser hform, hmidform, or_assoc, or_and_right, exists_or]
    | elsewhere change =>
      have hpage := hstep
      injection hpage with hpage
      simp [← hpage, hmidform]
    | carryOut i input =>
      rcases rules.step_carryOut hstep with ⟨_, _, _, hpage⟩
      simp [hpage, hmidform]
    | hear i =>
      rcases rules.step_hear hstep with ⟨_, answer, _, _, _, hpage⟩
      simp [hpage, hhear, hmidform]
    | abandon i loss =>
      rcases rules.step_abandon hstep with ⟨_, _, _, hpage⟩
      simp [hpage, habandon, hmidform]

/-- A row of the store is from the start, from a request of the page or from others. -/
theorem origin_of_run {Row : Type} {Has : Store → Row → Prop} {own : Answer → Row → Prop}
    {others : Change → Row → Prop}
    (hchange : ∀ {store row} change, Has (rules.change store change) row →
      Has store row ∨ others change row)
    (hcarryOut : ∀ {store row} request input, Has (rules.carryOut store request input).2 row →
      Has store row ∨ own (rules.carryOut store request input).1 row)
    {actions : List (Action Event Change Input Loss)}
    (hrun : Transition.run rules.step page actions = some page') {row : Row}
    (h : Has page'.store row)
    : Has page.store row
        ∨ (∃ sent ∈ page'.sent, ∃ answer, sent.answer = some answer ∧ own answer row)
        ∨ ∃ change, .elsewhere change ∈ actions ∧ others change row := by
  induction actions using List.reverseRecOn generalizing page' with
  | nil =>
    injection hrun with hrun
    rw [← hrun] at h
    exact Or.inl h
  | append_singleton actions action ih =>
    rw [Transition.run_concat, Option.bind_eq_some_iff] at hrun
    rcases hrun with ⟨mid, hmid, hstep⟩
    -- a request of before has the answer that it had
    have hbefore : Has mid.store row → Has page.store row
        ∨ (∃ sent ∈ page'.sent, ∃ answer, sent.answer = some answer ∧ own answer row)
        ∨ ∃ change, .elsewhere change ∈ actions ++ [action] ∧ others change row := by
      intro hhas
      rcases ih hmid hhas with hstart | ⟨sent, hsent, answer, hanswer, hown⟩
        | ⟨change, hmem, hothers⟩
      . exact Or.inl hstart
      . rcases List.getElem?_of_mem hsent with ⟨i, hi⟩
        rcases onward_of_step hstep hi with ⟨sent', hsent', honward⟩
        exact Or.inr (Or.inl ⟨sent', List.mem_of_getElem? hsent', answer,
          honward.answer answer hanswer, hown⟩)
      . exact Or.inr (Or.inr ⟨change, List.mem_append_left _ hmem, hothers⟩)
    cases action with
    | user event =>
      rcases rules.step_user hstep with ⟨form, request, _, hpage⟩
      rw [hpage] at h
      exact hbefore h
    | elsewhere change =>
      have hpage := hstep
      injection hpage with hpage
      rw [← hpage] at h
      rcases hchange change h with hhas | hothers
      . exact hbefore hhas
      . exact Or.inr (Or.inr ⟨change, List.mem_append_right _ List.mem_cons_self, hothers⟩)
    | carryOut i input =>
      rcases rules.step_carryOut hstep with ⟨sent, hsent, _, hpage⟩
      rw [hpage] at h
      rcases hcarryOut sent.request input h with hhas | hown
      . exact hbefore hhas
      . have hset := getElem?_set_of_some hsent
          { sent with answer := some (rules.carryOut mid.store sent.request input).1 } i
        rw [if_pos rfl] at hset
        rw [hpage]
        exact Or.inr (Or.inl ⟨_, List.mem_of_getElem? hset, _, rfl, hown⟩)
    | hear i =>
      rcases rules.step_hear hstep with ⟨_, _, _, _, _, hpage⟩
      rw [hpage] at h
      exact hbefore h
    | abandon i loss =>
      rcases rules.step_abandon hstep with ⟨_, _, _, hpage⟩
      rw [hpage] at h
      exact hbefore h

end

end Submission
