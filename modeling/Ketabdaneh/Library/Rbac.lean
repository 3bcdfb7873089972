import Mathlib.Data.Set.Lattice

/-!
This module contains role-based access control: users hold roles, and roles contain permissions.
-/

namespace Rbac

variable {User Role Permission : Type*}

/-- What a user may do: the union over the roles that were granted to it. -/
def effective (granted : Set (User × Role)) (contains : Role → Set Permission) (user : User)
    : Set Permission :=
  ⋃ role ∈ {role | (user, role) ∈ granted}, contains role

variable {granted : Set (User × Role)} {contains : Role → Set Permission} {user other : User}

theorem mem_effective {permission : Permission}
    : permission ∈ effective granted contains user
        ↔
      ∃ role, (user, role) ∈ granted ∧ permission ∈ contains role := by
  simp [effective]

theorem effective_of_not_granted (h : ∀ role, (user, role) ∉ granted)
    : effective granted contains user = ∅ := by
  simp [effective, h]

theorem effective_insert (role : Role)
    : effective (insert (user, role) granted) contains user
        =
      effective granted contains user ∪ contains role := by
  have hroles : {r | (user, r) ∈ insert (user, role) granted}
      = insert role {r | (user, r) ∈ granted} := by
    ext r
    simp
  rw [effective, hroles, Set.biUnion_insert, Set.union_comm]
  rfl

theorem effective_insert_of_ne (role : Role) (h : other ≠ user)
    : effective (insert (user, role) granted) contains other
        =
      effective granted contains other := by
  simp [effective, h]

end Rbac
