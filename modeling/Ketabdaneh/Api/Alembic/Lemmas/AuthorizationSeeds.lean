import Ketabdaneh.Api.Alembic.AuthorizationSeeds

/-!
This module contains when the seeds of the authorization tables go in, and what is there then.
-/

namespace Api

open ReferenceTable Text

namespace Accounts

variable {db db' : Accounts}

/-- All but the application roles. -/
structure SameButRoles (db db' : Accounts) : Prop where
  users : db'.users = db.users
  permissions : db'.permissions = db.permissions
  applicationRolePermissions : db'.applicationRolePermissions = db.applicationRolePermissions
  userApplicationRoles : db'.userApplicationRoles = db.userApplicationRoles

theorem sameButRoles_of_withApplicationRoles
    {table : ReferenceTable ApplicationRole ApplicationRole.id ApplicationRole.code
      ApplicationRole.name}
    (h : db.withApplicationRoles table = some db') : db.SameButRoles db' := by
  unfold withApplicationRoles at h
  split at h
  . rw [← Option.some.inj h]
    exact ⟨rfl, rfl, rfl, rfl⟩
  . contradiction

/-- All but the permissions. -/
structure SameButPermissions (db db' : Accounts) : Prop where
  users : db'.users = db.users
  applicationRoles : db'.applicationRoles = db.applicationRoles
  applicationRolePermissions : db'.applicationRolePermissions = db.applicationRolePermissions
  userApplicationRoles : db'.userApplicationRoles = db.userApplicationRoles

theorem sameButPermissions_of_withPermissions
    {table : ReferenceTable Permission Permission.id Permission.code Permission.name}
    (h : db.withPermissions table = some db') : db.SameButPermissions db' := by
  unfold withPermissions at h
  split at h
  . rw [← Option.some.inj h]
    exact ⟨rfl, rfl, rfl, rfl⟩
  . contradiction

end Accounts

theorem nodup_seedRoles : (SEED_APPLICATION_ROLES.map ApplicationRole.id).Nodup
    ∧ (SEED_APPLICATION_ROLES.map ApplicationRole.code).Nodup
    ∧ (SEED_APPLICATION_ROLES.map ApplicationRole.name).Nodup := by decide

theorem nodup_seedPermissions : (SEED_PERMISSIONS.map Permission.id).Nodup
    ∧ (SEED_PERMISSIONS.map Permission.code).Nodup
    ∧ (SEED_PERMISSIONS.map Permission.name).Nodup := by decide

theorem nodup_seedLinks
    : (SEED_APPLICATION_ROLE_PERMISSIONS.map ApplicationRolePermission.key).Nodup := by decide

theorem seedLink_refers : ∀ link ∈ SEED_APPLICATION_ROLE_PERMISSIONS,
    link.applicationRoleId ∈ SEED_APPLICATION_ROLES.map ApplicationRole.id
      ∧ link.permissionId ∈ SEED_PERMISSIONS.map Permission.id := by decide

/-- Nothing is seeded that is not in the matrix. -/
theorem seed_linked
    : (∀ role ∈ SEED_APPLICATION_ROLES,
          role.id ∈ SEED_APPLICATION_ROLE_PERMISSIONS.map ApplicationRolePermission.applicationRoleId)
        ∧ ∀ permission ∈ SEED_PERMISSIONS,
          permission.id ∈ SEED_APPLICATION_ROLE_PERMISSIONS.map ApplicationRolePermission.permissionId := by
  decide

namespace Accounts

/-- Each seed finds its own id where its code is taken, and is free to go in elsewhere. -/
structure Admits (db : Accounts) : Prop where
  roles : ∀ role ∈ SEED_APPLICATION_ROLES,
    (role.code ∈ db.applicationRoles.rows.map ApplicationRole.code →
        role.id ∈ db.applicationRoles.rows.map ApplicationRole.id)
      ∧ (role.code ∉ db.applicationRoles.rows.map ApplicationRole.code →
        role.id ∉ db.applicationRoles.rows.map ApplicationRole.id
          ∧ role.name ∉ db.applicationRoles.rows.map ApplicationRole.name)
  permissions : ∀ permission ∈ SEED_PERMISSIONS,
    (permission.code ∈ db.permissions.rows.map Permission.code →
        permission.id ∈ db.permissions.rows.map Permission.id)
      ∧ (permission.code ∉ db.permissions.rows.map Permission.code →
        permission.id ∉ db.permissions.rows.map Permission.id
          ∧ permission.name ∉ db.permissions.rows.map Permission.name)

/-- The seeds are there besides what was there. -/
structure Seeded (db db' : Accounts) : Prop where
  users : db'.users = db.users
  userApplicationRoles : db'.userApplicationRoles = db.userApplicationRoles
  applicationRoles : ∀ role, role ∈ db'.applicationRoles.rows ↔
    role ∈ db.applicationRoles.rows ∨ role ∈ SEED_APPLICATION_ROLES
      ∧ role.code ∉ db.applicationRoles.rows.map ApplicationRole.code
  permissions : ∀ permission, permission ∈ db'.permissions.rows ↔
    permission ∈ db.permissions.rows ∨ permission ∈ SEED_PERMISSIONS
      ∧ permission.code ∉ db.permissions.rows.map Permission.code
  applicationRolePermissions : ∀ link, link ∈ db'.applicationRolePermissions.rows ↔
    link ∈ db.applicationRolePermissions.rows ∨ link ∈ SEED_APPLICATION_ROLE_PERMISSIONS

variable {db db₁ db₂ db' : Accounts}

theorem key_injective {link other : ApplicationRolePermission} (h : link.key = other.key)
    : link = other := by
  cases link
  cases other
  injection h with hrole hpermission
  congr

theorem mem_insertMissing_links {links : List ApplicationRolePermission}
    (h : (links.map ApplicationRolePermission.key).Nodup) {link : ApplicationRolePermission}
    : link ∈ (db.applicationRolePermissions.insertMissing links).rows
        ↔
      link ∈ db.applicationRolePermissions.rows ∨ link ∈ links := by
  rw [Table.mem_insertMissing h]
  by_cases hmem : link ∈ db.applicationRolePermissions.rows
  . simp [hmem]
  . have hnew : link.key ∉ db.applicationRolePermissions.rows.map ApplicationRolePermission.key := by
      intro hkey
      rw [List.mem_map] at hkey
      rcases hkey with ⟨other, hother, heq⟩
      rw [key_injective heq] at hother
      exact hmem hother
    simp only [hmem, false_or, hnew, not_false_eq_true, and_true]

theorem insertApplicationRolePermissions_eq_some {links : List ApplicationRolePermission}
    (h : db.insertApplicationRolePermissions links = some db')
    : db'.users = db.users ∧ db'.userApplicationRoles = db.userApplicationRoles
        ∧ db'.applicationRoles = db.applicationRoles ∧ db'.permissions = db.permissions
        ∧ db'.applicationRolePermissions = db.applicationRolePermissions.insertMissing links := by
  unfold insertApplicationRolePermissions at h
  dsimp only at h
  split at h
  . rw [← Option.some.inj h]
    exact ⟨rfl, rfl, rfl, rfl, rfl⟩
  . contradiction

theorem exists_insertApplicationRolePermissions {links : List ApplicationRolePermission}
    (h : (links.map ApplicationRolePermission.key).Nodup)
    : (∃ db', db.insertApplicationRolePermissions links = some db')
        ↔
      ∀ link ∈ links, link.applicationRoleId ∈ db.applicationRoles.rows.map ApplicationRole.id
        ∧ link.permissionId ∈ db.permissions.rows.map Permission.id := by
  unfold insertApplicationRolePermissions
  dsimp only
  constructor
  . rintro ⟨db', heq⟩ link hlink
    split at heq
    . next hrefers =>
      have hmem := (@mem_insertMissing_links db _ h link).mpr (Or.inr hlink)
      exact ⟨hrefers.1 link hmem, hrefers.2 link hmem⟩
    . contradiction
  . intro hrefers
    rw [dif_pos]
    . exact ⟨_, rfl⟩
    . constructor
      . intro link hlink
        cases (mem_insertMissing_links h).mp hlink with
        | inl hold => exact db.fk_application_role_permissions_application_role_id link hold
        | inr hnew => exact (hrefers link hnew).1
      . intro link hlink
        cases (mem_insertMissing_links h).mp hlink with
        | inl hold => exact db.fk_application_role_permissions_permission_id link hold
        | inr hnew => exact (hrefers link hnew).2

theorem insertRoles_eq_some (h : applicationRolePart.insertAll? SEED_APPLICATION_ROLES db = some db')
    : db.SameButRoles db'
        ∧ db'.applicationRoleTable.rows
          = db.applicationRoleTable.rows ++ db.applicationRoleTable.missing SEED_APPLICATION_ROLES := by
  constructor
  . exact sameButRoles_of_withApplicationRoles (Part.insertAll?_eq_some.mp h).2
  . exact Part.rows_of_insertAll? nodup_seedRoles.1 nodup_seedRoles.2.1 nodup_seedRoles.2.2 h

theorem insertPermissions_eq_some (h : permissionPart.insertAll? SEED_PERMISSIONS db = some db')
    : db.SameButPermissions db'
        ∧ db'.permissionTable.rows
          = db.permissionTable.rows ++ db.permissionTable.missing SEED_PERMISSIONS := by
  constructor
  . exact sameButPermissions_of_withPermissions (Part.insertAll?_eq_some.mp h).2
  . exact Part.rows_of_insertAll? nodup_seedPermissions.1 nodup_seedPermissions.2.1
      nodup_seedPermissions.2.2 h

theorem insertSeedAuthorizationData_eq_some
    : insertSeedAuthorizationData db = some db'
        ↔
      ∃ db₁ db₂, applicationRolePart.insertAll? SEED_APPLICATION_ROLES db = some db₁
        ∧ permissionPart.insertAll? SEED_PERMISSIONS db₁ = some db₂
        ∧ db₂.insertApplicationRolePermissions SEED_APPLICATION_ROLE_PERMISSIONS = some db' := by
  unfold insertSeedAuthorizationData
  simp only [Option.bind_eq_bind, Option.bind_eq_some_iff]
  constructor
  . rintro ⟨db₁, h₁, db₂, h₂, h⟩
    exact ⟨db₁, db₂, h₁, h₂, h⟩
  . rintro ⟨db₁, db₂, h₁, h₂, h⟩
    exact ⟨db₁, h₁, db₂, h₂, h⟩

theorem seeded_of_insert (h : insertSeedAuthorizationData db = some db') : db.Seeded db' := by
  rw [insertSeedAuthorizationData_eq_some] at h
  rcases h with ⟨db₁, db₂, hroles, hpermissions, hlinks⟩
  rcases insertRoles_eq_some hroles with ⟨hsame₁, hrows₁⟩
  rcases insertPermissions_eq_some hpermissions with ⟨hsame₂, hrows₂⟩
  rcases insertApplicationRolePermissions_eq_some hlinks with ⟨h₁, h₂, h₃, h₄, h₅⟩
  constructor
  . rw [h₁, hsame₂.users, hsame₁.users]
  . rw [h₂, hsame₂.userApplicationRoles, hsame₁.userApplicationRoles]
  . rw [h₃, hsame₂.applicationRoles]
    intro role
    exact mem_of_append_missing hrows₁
  . rw [h₄, ← hsame₁.permissions]
    intro permission
    exact mem_of_append_missing hrows₂
  . intro link
    rw [h₅, mem_insertMissing_links nodup_seedLinks, hsame₂.applicationRolePermissions,
      hsame₁.applicationRolePermissions]

/-- Where the table takes the seeds it has the id of each, unless a code stands under another id. -/
theorem exists_insertAll? {Row Key Code Name : Type} [DecidableEq Key] [DecidableEq Code]
    [DecidableEq Name] {key : Row → Key} {code : Row → Code} {name : Row → Name} {seeds : List Row}
    (part : Part Accounts key code name) (db : Accounts) (hkey : (seeds.map key).Nodup)
    (hcode : (seeds.map code).Nodup) (hname : (seeds.map name).Nodup)
    : (∃ db', part.insertAll? seeds db = some db')
        ↔
      ∀ row ∈ seeds, code row ∉ (part.get db).rows.map code →
        key row ∉ (part.get db).rows.map key ∧ name row ∉ (part.get db).rows.map name := by
  rw [← Option.isSome_iff_exists, Option.isSome_iff_ne_none, ne_eq,
    Part.insertAll?_eq_none hkey hcode hname]
  unfold missing Clashes
  simp only [List.mem_filter, decide_eq_true_iff, not_exists, not_and, not_or, and_imp]

theorem exists_insertRoles (db : Accounts)
    : (∃ db', applicationRolePart.insertAll? SEED_APPLICATION_ROLES db = some db')
        ↔
      ∀ role ∈ SEED_APPLICATION_ROLES,
        role.code ∉ db.applicationRoles.rows.map ApplicationRole.code →
          role.id ∉ db.applicationRoles.rows.map ApplicationRole.id
            ∧ role.name ∉ db.applicationRoles.rows.map ApplicationRole.name :=
  exists_insertAll? applicationRolePart db nodup_seedRoles.1 nodup_seedRoles.2.1 nodup_seedRoles.2.2

theorem exists_insertPermissions (db : Accounts)
    : (∃ db', permissionPart.insertAll? SEED_PERMISSIONS db = some db')
        ↔
      ∀ permission ∈ SEED_PERMISSIONS,
        permission.code ∉ db.permissionTable.rows.map Permission.code →
          permission.id ∉ db.permissionTable.rows.map Permission.id
            ∧ permission.name ∉ db.permissionTable.rows.map Permission.name :=
  exists_insertAll? permissionPart db nodup_seedPermissions.1 nodup_seedPermissions.2.1
    nodup_seedPermissions.2.2

theorem exists_insertSeedAuthorizationData
    : (∃ db', insertSeedAuthorizationData db = some db') ↔ db.Admits := by
  constructor
  . rintro ⟨db', h⟩
    rw [insertSeedAuthorizationData_eq_some] at h
    rcases h with ⟨db₁, db₂, hroles, hpermissions, hlinks⟩
    rcases insertRoles_eq_some hroles with ⟨hsame₁, hrows₁⟩
    rcases insertPermissions_eq_some hpermissions with ⟨hsame₂, hrows₂⟩
    have hrefers := (exists_insertApplicationRolePermissions nodup_seedLinks).mp ⟨db', hlinks⟩
    have hrows : db₁.permissionTable.rows = db.permissions.rows :=
      congrArg Table.rows hsame₁.permissions
    constructor
    . intro role hrole
      refine ⟨?_, (exists_insertRoles db).mp
        ⟨db₁, hroles⟩ role hrole⟩
      intro hcode
      have hlinked := seed_linked.1 role hrole
      rw [List.mem_map] at hlinked
      rcases hlinked with ⟨link, hlink, hid⟩
      have hthere := (hrefers link hlink).1
      rw [hsame₂.applicationRoles, hid] at hthere
      have hor := (key_mem_of_append_missing nodup_seedRoles.1 hrows₁ hrole).mp hthere
      exact hor.resolve_right (not_not_intro hcode)
    . intro permission hpermission
      rw [← hrows]
      refine ⟨?_, (exists_insertPermissions db₁).mp ⟨db₂, hpermissions⟩ permission hpermission⟩
      intro hcode
      have hlinked := seed_linked.2 permission hpermission
      rw [List.mem_map] at hlinked
      rcases hlinked with ⟨link, hlink, hid⟩
      have hthere := (hrefers link hlink).2
      rw [hid] at hthere
      have hor := (key_mem_of_append_missing nodup_seedPermissions.1 hrows₂ hpermission).mp hthere
      exact hor.resolve_right (not_not_intro hcode)
  . intro h
    rcases (exists_insertRoles db).mpr
      (fun role hrole => (h.roles role hrole).2) with ⟨db₁, hroles⟩
    rcases insertRoles_eq_some hroles with ⟨hsame₁, hrows₁⟩
    have hrows : db₁.permissionTable.rows = db.permissions.rows :=
      congrArg Table.rows hsame₁.permissions
    have hpermissions₁ : ∀ permission ∈ SEED_PERMISSIONS,
        (permission.code ∈ db₁.permissionTable.rows.map Permission.code →
            permission.id ∈ db₁.permissionTable.rows.map Permission.id)
          ∧ (permission.code ∉ db₁.permissionTable.rows.map Permission.code →
            permission.id ∉ db₁.permissionTable.rows.map Permission.id
              ∧ permission.name ∉ db₁.permissionTable.rows.map Permission.name) := by
      rw [hrows]
      exact h.permissions
    rcases (exists_insertPermissions db₁).mpr
      (fun permission hpermission => (hpermissions₁ permission hpermission).2) with ⟨db₂, hpermissions⟩
    rcases insertPermissions_eq_some hpermissions with ⟨hsame₂, hrows₂⟩
    have hrefers : ∀ link ∈ SEED_APPLICATION_ROLE_PERMISSIONS,
        link.applicationRoleId ∈ db₂.applicationRoles.rows.map ApplicationRole.id
          ∧ link.permissionId ∈ db₂.permissions.rows.map Permission.id := by
      intro link hlink
      have hseeds := seedLink_refers link hlink
      rw [List.mem_map, List.mem_map] at hseeds
      rcases hseeds with ⟨⟨role, hrole, hroleId⟩, ⟨permission, hpermission, hpermissionId⟩⟩
      rw [hsame₂.applicationRoles, ← hroleId, ← hpermissionId]
      constructor
      . apply (key_mem_of_append_missing nodup_seedRoles.1 hrows₁ hrole).mpr
        exact or_not_of_imp (h.roles role hrole).1
      . apply (key_mem_of_append_missing nodup_seedPermissions.1 hrows₂ hpermission).mpr
        exact or_not_of_imp (hpermissions₁ permission hpermission).1
    rcases (exists_insertApplicationRolePermissions nodup_seedLinks).mpr hrefers with ⟨db', hlinks⟩
    exact ⟨db', insertSeedAuthorizationData_eq_some.mpr ⟨db₁, db₂, hroles, hpermissions, hlinks⟩⟩

theorem ext (husers : db.users = db'.users) (hroles : db.applicationRoles = db'.applicationRoles)
    (hpermissions : db.permissions = db'.permissions)
    (hlinks : db.applicationRolePermissions = db'.applicationRolePermissions)
    (hgrants : db.userApplicationRoles = db'.userApplicationRoles) : db = db' := by
  cases db
  cases db'
  congr

theorem insertApplicationRolePermissions_of_subset {links : List ApplicationRolePermission}
    (hnodup : (links.map ApplicationRolePermission.key).Nodup)
    (h : links ⊆ db.applicationRolePermissions.rows)
    : db.insertApplicationRolePermissions links = some db := by
  have hsame := Table.insertMissing_of_subset hnodup h
  rcases (exists_insertApplicationRolePermissions hnodup).mpr (fun link hlink =>
    ⟨db.fk_application_role_permissions_application_role_id link (h hlink),
      db.fk_application_role_permissions_permission_id link (h hlink)⟩) with ⟨db', hdb'⟩
  rcases insertApplicationRolePermissions_eq_some hdb' with ⟨h₁, h₂, h₃, h₄, h₅⟩
  rw [hdb', Option.some.injEq]
  exact ext h₁ h₃ h₄ (h₅.trans hsame) h₂

/-- A second insertion finds all the seeds. -/
theorem insertSeedAuthorizationData_again (h : db.Seeded db')
    : insertSeedAuthorizationData db' = some db' := by
  rw [insertSeedAuthorizationData_eq_some]
  refine ⟨db', db', ?_, ?_, ?_⟩
  . apply Part.insertAll?_of_forall_mem nodup_seedRoles.1 nodup_seedRoles.2.1 nodup_seedRoles.2.2
    intro role hrole
    show role.code ∈ db'.applicationRoles.rows.map ApplicationRole.code
    by_cases hcode : role.code ∈ db.applicationRoles.rows.map ApplicationRole.code
    . rw [List.mem_map] at hcode ⊢
      rcases hcode with ⟨other, hother, heq⟩
      exact ⟨other, (h.applicationRoles other).mpr (Or.inl hother), heq⟩
    . apply List.mem_map_of_mem
      exact (h.applicationRoles role).mpr (Or.inr ⟨hrole, hcode⟩)
  . apply Part.insertAll?_of_forall_mem nodup_seedPermissions.1 nodup_seedPermissions.2.1
      nodup_seedPermissions.2.2
    intro permission hpermission
    show permission.code ∈ db'.permissions.rows.map Permission.code
    by_cases hcode : permission.code ∈ db.permissions.rows.map Permission.code
    . rw [List.mem_map] at hcode ⊢
      rcases hcode with ⟨other, hother, heq⟩
      exact ⟨other, (h.permissions other).mpr (Or.inl hother), heq⟩
    . apply List.mem_map_of_mem
      exact (h.permissions permission).mpr (Or.inr ⟨hpermission, hcode⟩)
  . apply insertApplicationRolePermissions_of_subset nodup_seedLinks
    intro link hlink
    exact (h.applicationRolePermissions link).mpr (Or.inr hlink)

end Accounts

/-- The seeds go in exactly where they are admitted, beside what is there, and once. -/
theorem seed_authorization (db : Accounts)
    : ((∃ db', insertSeedAuthorizationData db = some db') ↔ db.Admits)
        ∧ ∀ db', insertSeedAuthorizationData db = some db' →
          db.Seeded db' ∧ insertSeedAuthorizationData db' = some db' := by
  refine ⟨Accounts.exists_insertSeedAuthorizationData, ?_⟩
  intro db' h
  have hseeded := Accounts.seeded_of_insert h
  exact ⟨hseeded, Accounts.insertSeedAuthorizationData_again hseeded⟩

end Api
