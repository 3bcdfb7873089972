import Ketabdaneh.Api.Commands.Lemmas.Outlines

/-!
This module contains how the command that grants a role ends, and what it has committed then.
-/

namespace Api

open Text Transaction

namespace AssignRole

/-- The command asks for the role with this code for the user with this name. -/
def Invocation.Asks (args : Invocation) (username code : Str) : Prop :=
  args.list = false ∧ normalizeUsername (args.username.getD []) = username
    ∧ args.roleCode.getD [] = code

/-- What the command has committed when it ends, and its status or what it raises. -/
inductive Ends (args : Invocation) (s : Accounts)
    : List AccountWrite → Except CommandError Nat → Prop where
  | granted (username : Str) (role : ApplicationRole) (userId : UUID)
      (hasks : args.Asks username role.code) (huser : s.HasUser userId username)
      (hrole : role ∈ s.applicationRoles.rows) (hholds : s.HoldsRole username role.code)
    : Ends args s [.newGrant ⟨userId, role.id⟩] (.ok 0)
  | listed (hlist : args.list = true) : Ends args s [] (.ok 0)
  | held (username code : Str) (hasks : args.Asks username code) (hholds : s.HoldsRole username code)
    : Ends args s [] (.ok 0)
  | refused (status : Nat) (hstatus : status ≠ 0) : Ends args s [] (.ok status)
  | escaped (e : CommandError) : Ends args s [] (.error e)

variable {terminal : Terminal} {args : Invocation} {s t : Accounts} {log : List AccountWrite}
variable {outcome : Except CommandError Nat}

theorem Ends.mono (hst : s ≤ t) (h : Ends args s log outcome) : Ends args t log outcome := by
  cases h with
  | granted username role userId hasks huser hrole hholds =>
    rw [← hst.applicationRoles] at hrole
    exact .granted username role userId hasks (huser.mono hst) hrole (hholds.mono hst)
  | listed hlist => exact .listed hlist
  | held username code hasks hholds => exact .held username code hasks (hholds.mono hst)
  | refused status hstatus => exact .refused status hstatus
  | escaped e => exact .escaped e

theorem Ends.of_mem_grant {grant : UserApplicationRole} (h : Ends args s log outcome)
    (hgrant : .newGrant grant ∈ log)
    : outcome = .ok 0 ∧ ∃ username, ∃ role ∈ s.applicationRoles.rows, args.Asks username role.code
        ∧ s.HasUser grant.userId username ∧ grant.applicationRoleId = role.id := by
  cases h with
  | granted username role userId hasks huser hrole hholds =>
    rw [List.mem_singleton, AccountWrite.newGrant.injEq] at hgrant
    rw [hgrant]
    exact ⟨rfl, username, role, hrole, hasks, huser, rfl⟩
  | listed hlist => cases hgrant
  | held username code hasks hholds => cases hgrant
  | refused status hstatus => cases hgrant
  | escaped e => cases hgrant

theorem Ends.holdsRole {username code : Str} (h : Ends args s log (.ok 0))
    (hasks : args.Asks username code) : s.HoldsRole username code := by
  rcases hasks with ⟨hlist, rfl, rfl⟩
  cases h with
  | granted username role userId hasks huser hrole hholds =>
    rw [hasks.2.1, hasks.2.2]
    exact hholds
  | listed hlist' =>
    rw [hlist] at hlist'
    exact absurd hlist' Bool.false_ne_true
  | held username code hasks hholds =>
    rw [hasks.2.1, hasks.2.2]
    exact hholds
  | refused status hstatus => exact absurd rfl hstatus

/-- How what is tried ends, for what is then written out or caught. -/
def BodyEnds (args : Invocation)
    : Post Accounts AccountWrite CommandError CommandError (Except Nat (User × List Str))
  | s, log, _, .returned (.error status) => Ends args s log (.ok status)
  | s, log, _, .returned (.ok _) => Ends args s log (.ok 0)
  | s, log, _, .thrown e =>
    log = [] ∧ ∀ username code, e = .service (.roleAlreadyGranted username code) →
      Ends args s [] (.ok 0)
  | _, log, _, .failed _ => log = []

theorem outline_printRoles {post : Post Accounts AccountWrite CommandError CommandError Unit}
    (roles : List ApplicationRole) (h : ∀ t, s ≤ t → post t [] [] (.returned ()))
    : (printRoles terminal roles).Outline commandSchema post s [] [] := by
  induction roles generalizing s with
  | nil => exact h s le_rfl
  | cons role roles ih =>
    apply Program.Outline.query_bind
    intro t hst
    apply ih
    intro u htu
    exact h u (hst.trans htu)

theorem outline_printState {post : Post Accounts AccountWrite CommandError CommandError Unit}
    (h : ∀ t, s ≤ t → post t [] [] (.returned ()))
    : (printState terminal).Outline commandSchema post s [] [] := by
  apply Program.Outline.query_bind
  intro t hst
  apply outline_printRoles
  intro u htu
  exact h u (hst.trans htu)

theorem outline_grant (hlist : args.list = false)
    : (grant terminal args (args.username.getD []) (args.roleCode.getD [])).Outline commandSchema
        (BodyEnds args) s [] [] := by
  unfold grant
  apply Terminal.outline_call_bind
  apply AccountService.outline_assignApplicationRole
  . intro t user role _ huser hrole hcode hholds
    apply Program.Outline.query_bind
    intro u htu
    rw [← hcode] at hholds
    apply Ends.mono htu
    exact .granted _ role user.id ⟨hlist, rfl, hcode.symm⟩ huser hrole hholds
  . intro t pending e _ hraises
    refine ⟨rfl, ?_⟩
    intro username code he
    rw [Terminal.raised_eq_roleAlreadyGranted he] at hraises
    cases hraises with
    | roleAlreadyGranted hholds => exact .held _ _ ⟨hlist, rfl, rfl⟩ hholds
  . intro t e _
    exact rfl

theorem outline_body : (body terminal args).Outline commandSchema (BodyEnds args) s [] [] := by
  unfold body
  split
  . next hlist =>
    apply Program.Outline.bind
    apply outline_printState
    intro t _
    exact .listed hlist
  . next hlist =>
    rw [Bool.not_eq_true] at hlist
    dsimp only
    split
    . exact .refused 2 (by decide)
    . exact outline_grant hlist

theorem outline_caught {e : CommandError} {pending : List AccountWrite}
    (h : BodyEnds args s log pending (.thrown e))
    : (caught terminal args e).Outline commandSchema (fun s log _ ending => Ends args s log ending.outcome)
        s log pending := by
  rcases h with ⟨hlog, hheld⟩
  rw [hlog]
  unfold caught
  split
  . exact .refused 1 (by decide)
  . intro t _
    constructor
    . intro v _
      exact .refused 1 (by decide)
    . intro e _
      exact .escaped e
  . exact hheld _ _ rfl
  . exact .escaped _

/-- Run beside anything that grows the database, the command ends as one of the cases of `Ends`. -/
theorem outline_main
    : (main terminal args).Outline commandSchema
        (fun s log _ ending => Ends args s log ending.outcome) s [] [] := by
  apply Program.Outline.handle
  apply outline_body.weaken
  intro s log pending ending h
  cases ending with
  | returned result =>
    cases result with
    | error status => exact h
    | ok granted => exact h
  | thrown e => exact outline_caught h
  | failed e =>
    rw [show log = [] from h]
    exact .escaped e

end AssignRole

end Api
