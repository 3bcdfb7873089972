import Ketabdaneh.Api.Commands.Lemmas.Outlines

/-!
This module contains how the command that creates a user ends, and what it has committed then.
-/

namespace Api

open Text Transaction

namespace CreateUser

def Invocation.user (args : Invocation) (passwordHash : Str) : User :=
  ⟨args.id, normalizeUsername args.username, passwordHash, true⟩

/-- What the command has committed when it ends, and its status or what it raises. -/
inductive Ends (args : Invocation) (s : Accounts)
    : List AccountWrite → Except CommandError Nat → Prop where
  | created (passwordHash : Str) (hasked : args.role = none)
      (huser : s.HasUser args.id (normalizeUsername args.username))
    : Ends args s [.newUser (args.user passwordHash)] (.ok 0)
  | createdWithRole (passwordHash : Str) (role : ApplicationRole)
      (hasked : args.role = some role.code) (hrole : role ∈ s.applicationRoles.rows)
      (huser : s.HasUser args.id (normalizeUsername args.username))
      (hholds : s.HoldsRole (normalizeUsername args.username) role.code)
    : Ends args s [.newUser (args.user passwordHash), .newGrant ⟨args.id, role.id⟩] (.ok 0)
  | refused : Ends args s [] (.ok 1)
  -- somebody else granted the role to the new user first
  | overtaken (passwordHash code : Str) (hasked : args.role = some code)
      (hholds : s.HoldsRole (normalizeUsername args.username) code)
    : Ends args s [.newUser (args.user passwordHash)] (.ok 1)
  | escaped (e : CommandError) : Ends args s [] (.error e)
  | leftWithoutRole (passwordHash code : Str) (hasked : args.role = some code) (e : CommandError)
    : Ends args s [.newUser (args.user passwordHash)] (.error e)

variable {terminal : Terminal} {hasher : PasswordHasher} {args : Invocation} {s t : Accounts}
variable {log : List AccountWrite} {outcome : Except CommandError Nat}

theorem Ends.mono (hst : s ≤ t) (h : Ends args s log outcome) : Ends args t log outcome := by
  cases h with
  | created passwordHash hasked huser => exact .created passwordHash hasked (huser.mono hst)
  | createdWithRole passwordHash role hasked hrole huser hholds =>
    rw [← hst.applicationRoles] at hrole
    exact .createdWithRole passwordHash role hasked hrole (huser.mono hst) (hholds.mono hst)
  | refused => exact .refused
  | overtaken passwordHash code hasked hholds =>
    exact .overtaken passwordHash code hasked (hholds.mono hst)
  | escaped e => exact .escaped e
  | leftWithoutRole passwordHash code hasked e => exact .leftWithoutRole passwordHash code hasked e

/-- The command asks for the role with this code for the user with this name. -/
def Invocation.Asks (args : Invocation) (username code : Str) : Prop :=
  normalizeUsername args.username = username ∧ args.role = some code

theorem Ends.of_mem_grant {grant : UserApplicationRole} (h : Ends args s log outcome)
    (hgrant : .newGrant grant ∈ log)
    : outcome = .ok 0 ∧ ∃ username, ∃ role ∈ s.applicationRoles.rows, args.Asks username role.code
        ∧ s.HasUser grant.userId username ∧ grant.applicationRoleId = role.id := by
  cases h with
  | createdWithRole passwordHash role hasked hrole huser hholds =>
    simp only [List.mem_cons, List.not_mem_nil, or_false, AccountWrite.newGrant.injEq,
      reduceCtorEq, false_or] at hgrant
    rw [hgrant]
    exact ⟨rfl, _, role, hrole, ⟨rfl, hasked⟩, huser, rfl⟩
  | _ => simp at hgrant

theorem Ends.holdsRole {username code : Str} (h : Ends args s log (.ok 0))
    (hasks : args.Asks username code) : s.HoldsRole username code := by
  rcases hasks with ⟨rfl, hasked⟩
  cases h with
  | created passwordHash hnone huser =>
    rw [hnone] at hasked
    injection hasked
  | createdWithRole passwordHash role hasked' hrole huser hholds =>
    rw [hasked', Option.some.injEq] at hasked
    rw [← hasked]
    exact hholds

theorem outline_validateRole
    {post : Post Accounts AccountWrite CommandError CommandError (Except Nat (Option ApplicationRole))}
    (hnone : args.role = none → post s log [] (.returned (.ok none)))
    (hsome : ∀ t role, s ≤ t → args.role = some role.code → storable role.code = true →
      role ∈ t.applicationRoles.rows → post t log [] (.returned (.ok (some role))))
    (hunknown : ∀ t, s ≤ t → post t log [] (.returned (.error 1)))
    (hthrown : ∀ e, post s log [] (.thrown e))
    : (validateRole terminal args).Outline commandSchema post s log [] := by
  unfold validateRole
  cases hasked : args.role with
  | none => exact hnone hasked
  | some code =>
    apply Terminal.outline_call_bind
    apply AccountService.outline_scalar
    . intro t hst hstorable
      dsimp only [Terminal.called]
      cases hrole : t.roleCoded? code with
      | none =>
        apply Program.Outline.query_bind
        intro u htu
        exact hunknown u (hst.trans htu)
      | some role =>
        rw [Accounts.roleCoded?_eq_some] at hrole
        apply hsome t role hst
        . rw [hasked, hrole.2]
        . rw [hrole.2]
          simpa using hstorable
        . exact hrole.1
    . intro _
      exact hthrown _

/-- How what is tried ends: it is written out and the status is 1, where it is a `ValueError`. -/
def BodyEnds (args : Invocation)
    : Post Accounts AccountWrite CommandError CommandError (Except Nat (User × Option ApplicationRole))
  | s, log, _, .returned (.error status) => Ends args s log (.ok status)
  | s, log, _, .returned (.ok _) => Ends args s log (.ok 0)
  | s, log, _, .thrown e =>
    Ends args s log (.error e) ∧ (e.valueError?.isSome = true → Ends args s log (.ok 1))
  | s, log, _, .failed e => Ends args s log (.error e)

theorem bodyEnds_thrown (e : CommandError) (pending : List AccountWrite)
    : BodyEnds args s [] pending (.thrown e) :=
  ⟨.escaped e, fun _ => .refused⟩

/-- Of the new user and the known role, only that another has granted it can be a `ValueError`. -/
theorem holdsRole_of_raises {role : ApplicationRole} {texts : List Str} {e : AccountError}
    (huser : s.HasUser args.id (normalizeUsername args.username))
    (hrole : role ∈ s.applicationRoles.rows) (htexts : ∀ text ∈ texts, storable text = true)
    (h : AccountService.AssignRaises args.username role.code s t e)
    (hvalue : (terminal.raised texts [] e).valueError?.isSome = true)
    : t.HoldsRole (normalizeUsername args.username) role.code := by
  cases h with
  | userNotFound hnone =>
    rcases huser with ⟨user, huser, _, hname⟩
    exact absurd hname (hnone user huser)
  | unknownApplicationRole hnone => exact absurd rfl (hnone role hrole)
  | roleAlreadyGranted hholds => exact hholds
  | database =>
    have hnone : texts.find? (fun text => !storable text) = none := by
      rw [List.find?_eq_none]
      intro text htext
      simp [htexts text htext]
    unfold Terminal.raised at hvalue
    rw [hnone] at hvalue
    exact absurd hvalue Bool.false_ne_true

theorem outline_create {role : Option ApplicationRole} {password : Str}
    (hasked : args.role = role.map ApplicationRole.code)
    (hrole : ∀ granted ∈ role, granted ∈ s.applicationRoles.rows ∧ storable granted.code = true)
    : (create terminal hasher args role password).Outline commandSchema (BodyEnds args) s [] [] := by
  unfold create
  apply Terminal.outline_call_bind
  apply AccountService.outline_createUser
  . intro t passwordHash hst huser hstorable
    dsimp only [Terminal.called]
    rw [List.nil_append]
    cases role with
    | none => exact .created passwordHash hasked huser
    | some granted =>
      rcases hrole granted rfl with ⟨hgranted, hcode⟩
      apply Terminal.outline_call_bind
      apply AccountService.outline_assignApplicationRole
      . intro u user role htu huser' hrole' hcode' hholds
        have hsame : role = granted := by
          apply List.inj_on_of_nodup_map u.uq_application_roles_code hrole' _ hcode'
          rw [(hst.trans htu).applicationRoles]
          exact hgranted
        rw [(huser.mono htu).id_eq huser', hsame]
        rw [hsame] at hrole'
        exact .createdWithRole passwordHash granted hasked hrole' (huser.mono htu) hholds
      . intro u pending e htu hraises
        refine ⟨.leftWithoutRole passwordHash granted.code hasked _, ?_⟩
        intro hvalue
        apply Ends.overtaken passwordHash granted.code hasked
        apply holdsRole_of_raises huser _ _ hraises hvalue
        . rw [hst.applicationRoles]
          exact hgranted
        . simp [hstorable, hcode]
      . intro u e _
        exact .leftWithoutRole passwordHash granted.code hasked e
  . intro t pending e _
    exact bodyEnds_thrown _ pending
  . intro t e _
    exact .escaped e

theorem outline_prompt {role : Option ApplicationRole}
    (hasked : args.role = role.map ApplicationRole.code)
    (hrole : ∀ granted ∈ role, granted ∈ s.applicationRoles.rows ∧ storable granted.code = true)
    : (prompt terminal hasher args role).Outline commandSchema (BodyEnds args) s [] [] := by
  unfold prompt Command.getpass
  cases args.password with
  | none => exact bodyEnds_thrown _ []
  | some password =>
    cases args.confirm with
    | none => exact bodyEnds_thrown _ []
    | some confirm =>
      show (if password ≠ confirm then _ else _ : Command _).Outline _ _ _ _ _
      split
      . exact .refused
      . exact outline_create hasked hrole

theorem outline_caught {e : CommandError} {pending : List AccountWrite}
    (h : BodyEnds args s log pending (.thrown e))
    : (caught e).Outline commandSchema (fun s log _ ending => Ends args s log ending.outcome) s log
        pending := by
  unfold caught
  split
  . exact h.2 rfl
  . split
    . next hvalue => exact h.2 (by rw [hvalue, Option.isSome_some])
    . exact h.1

theorem outline_body
    : (body terminal hasher args).Outline commandSchema (BodyEnds args) s [] [] := by
  unfold body
  apply Program.Outline.bind
  apply outline_validateRole
  . intro hasked
    apply outline_prompt hasked
    rintro granted ⟨⟩
  . intro t role _ hasked hstorable hrole
    apply outline_prompt hasked
    intro granted hgranted
    rw [Option.mem_some_iff] at hgranted
    rw [← hgranted]
    exact ⟨hrole, hstorable⟩
  . intro t _
    exact .refused
  . intro e
    exact bodyEnds_thrown e []

/-- Run beside anything that grows the database, the command ends as one of the cases of `Ends`. -/
theorem outline_main
    : (main terminal hasher args).Outline commandSchema
        (fun s log _ ending => Ends args s log ending.outcome) s [] [] := by
  apply Program.Outline.handle
  apply outline_body.weaken
  intro s log pending ending h
  cases ending with
  | returned result =>
    cases result with
    | error status => exact h
    | ok created => exact h
  | thrown e => exact outline_caught h
  | failed e => exact h

end CreateUser

end Api
