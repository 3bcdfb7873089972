import Ketabdaneh.Api.Commands.AssignRole
import Ketabdaneh.Api.Commands.CreateUser
import Ketabdaneh.Library.Transaction.History

/-!
This module contains operators whose commands run beside one another and beside the logins of the API.
-/

namespace Api

open Text Transaction

inductive Invocation where
  | createUser (args : CreateUser.Invocation)
  | assignRole (args : AssignRole.Invocation)

def Invocation.main (terminal : Terminal) (hasher : PasswordHasher) : Invocation → Command Nat
  | .createUser args => CreateUser.main terminal hasher args
  | .assignRole args => AssignRole.main terminal args

/-- What a login may write for its user. -/
structure Rehash where
  id : UUID
  passwordHash : Str

def Accounts.rehash (db : Accounts) (rehash : Rehash) : Accounts :=
  ((AccountWrite.setPasswordHash rehash.id rehash.passwordHash).apply db).toOption.getD db

/-- Any number of commands, their statements in any order and among the writes of logins. -/
def operate {ι : Type} [Fintype ι] [DecidableEq ι] (terminal : Terminal) (hasher : PasswordHasher)
    (invocations : ι → Invocation) (db : Accounts) (schedule : List (Action ι Rehash))
    : Option (System ι Accounts AccountWrite Console CommandError Nat) :=
  Transition.run (commandSchema.act Accounts.rehash)
    (System.start db fun i => (invocations i).main terminal hasher) schedule

end Api
