import Ketabdaneh.Api.Services.Lemmas.Store
import Ketabdaneh.Library.FirstOccurrence

/-!
This module contains how the creation of a person resolves its role codes, for any list of codes and
any roles table.
-/

namespace Api

open Service Text FirstOccurrence

namespace Database

def HasRole (db : Database) (code : Str) : Prop :=
  ∃ role ∈ db.roles.rows, role.code = code

def Holds (db : Database) (personId : UUID) (code : Str) : Prop :=
  ∃ role ∈ db.roles.rows, role.code = code ∧ role.id ∈ db.memberships personId

theorem findRole_eq_some {db : Database} {code : Str} {role : Role}
    : findRole db code = some role ↔ role ∈ db.roles.rows ∧ role.code = code := by
  apply Table.find?_eq_some
  exact db.uq_roles_code

theorem isNone_findRole {db : Database} {code : Str}
    : (findRole db code).isNone = true ↔ ¬db.HasRole code := by
  rw [Option.isNone_iff_eq_none, Option.eq_none_iff_forall_ne_some]
  constructor
  . intro h hrole
    obtain ⟨role, hrole⟩ := hrole
    exact h role (findRole_eq_some.mpr hrole)
  . intro h role hrole
    exact h ⟨role, findRole_eq_some.mp hrole⟩

def missingRoles (db : Database) (codes : List Str) : List Str :=
  codes.filter fun code => (findRole db code).isNone

theorem mem_missingRoles {db : Database} {codes : List Str} {code : Str}
    : code ∈ db.missingRoles codes ↔ code ∈ codes ∧ ¬db.HasRole code := by
  rw [missingRoles, List.mem_filter, isNone_findRole]

theorem missingRoles_eq_nil {db : Database} {codes : List Str}
    : db.missingRoles codes = [] ↔ ∀ code ∈ codes, db.HasRole code := by
  rw [List.eq_nil_iff_forall_not_mem]
  simp only [mem_missingRoles, not_and, not_not]

/-- Distinct codes find distinct roles. -/
theorem nodup_filterMap_findRole (db : Database) {codes : List Str} (h : codes.Nodup)
    : ((codes.filterMap (findRole db)).map Role.id).Nodup := by
  have hroles : (codes.filterMap (findRole db)).Nodup := by
    apply h.filterMap
    intro code code' role hcode hcode'
    rw [Option.mem_def, findRole_eq_some] at hcode hcode'
    rw [← hcode.2, ← hcode'.2]
  apply hroles.map_on
  intro role hrole role' hrole' heq
  rw [List.mem_filterMap] at hrole hrole'
  obtain ⟨code, _, hrole⟩ := hrole
  obtain ⟨code', _, hrole'⟩ := hrole'
  exact List.inj_on_of_nodup_map db.roles.nodup (findRole_eq_some.mp hrole).1
    (findRole_eq_some.mp hrole').1 heq

theorem exists_insertPerson {db : Database} {person : Person} {roles : List Role}
    (hid : person.id ∉ db.persons.rows.map Person.id) (hnodup : (roles.map Role.id).Nodup)
    (hroles : ∀ role ∈ roles, role ∈ db.roles.rows)
    : ∃ db', db.insertPerson person (roles.map fun role => ⟨person.id, role.id⟩) = some db' := by
  have hkeys : ((db.personRoles.rows ++ roles.map fun role => PersonRole.mk person.id role.id).map
      PersonRole.key).Nodup := by
    rw [List.map_append, List.nodup_append']
    refine ⟨db.personRoles.nodup, ?_, ?_⟩
    . rw [List.map_map]
      apply List.Nodup.of_map Prod.snd
      rw [List.map_map]
      exact hnodup
    . intro key hold hnew
      rw [List.mem_map] at hold hnew
      obtain ⟨link, hlink, hold⟩ := hold
      obtain ⟨link', hlink', hnew⟩ := hnew
      rw [List.mem_map] at hlink'
      obtain ⟨role, _, hlink'⟩ := hlink'
      -- a stored membership is of a stored person, and the new person is not stored yet
      have hperson : link.personId = person.id := by
        rw [← hold, ← hlink'] at hnew
        exact (congrArg Prod.fst hnew).symm
      apply hid
      rw [← hperson]
      exact db.fk_person_roles_person_id link hlink
  have hinsert : (db.persons.insert? person).isSome = true := Table.isSome_insert?.mpr hid
  obtain ⟨persons, hpersons⟩ := Option.isSome_iff_exists.mp hinsert
  unfold insertPerson
  split
  . next persons' personRoles hpersons' hlinks =>
    rw [dif_pos]
    . exact ⟨_, rfl⟩
    . intro link hlink
      rw [List.mem_map] at hlink
      obtain ⟨role, hrole, hlink⟩ := hlink
      rw [← hlink, Table.insert?_eq_some.mp hpersons']
      constructor
      . simp
      . exact List.mem_map_of_mem (hroles role hrole)
  . next hnone =>
    exact absurd (Table.insertAll?_eq_some.mpr rfl) (hnone persons ⟨_, hkeys⟩ hpersons)

theorem holds_iff_of_adds {db db' : Database} {person : Person} {codes : List Str}
    (hid : person.id ∉ db.persons.rows.map Person.id)
    (h : db.Adds db' (.person person
      ((codes.filterMap (findRole db)).map fun role => ⟨person.id, role.id⟩)))
    (code : Str) : db'.Holds person.id code ↔ code ∈ codes ∧ db.HasRole code := by
  have hmemberships : db'.memberships person.id = (codes.filterMap (findRole db)).map Role.id := by
    have hold : (db.personRoles.rows.filter fun link => link.personId = person.id) = [] := by
      rw [List.filter_eq_nil_iff]
      intro link hlink
      rw [decide_eq_true_eq]
      intro heq
      rw [← heq] at hid
      exact hid (db.fk_person_roles_person_id link hlink)
    rw [memberships, h.personRoles, List.filter_append, hold, List.nil_append]
    simp [NewRow.personRoles, List.filter_map, Function.comp_def]
  unfold Holds
  rw [hmemberships, h.roles]
  constructor
  . intro hholds
    obtain ⟨role, hrole, hcode, hlinked⟩ := hholds
    rw [List.mem_map] at hlinked
    obtain ⟨found, hfound, hsame⟩ := hlinked
    rw [List.mem_filterMap] at hfound
    obtain ⟨code', hcode', hfound⟩ := hfound
    rw [findRole_eq_some] at hfound
    have heq : found = role := List.inj_on_of_nodup_map db.roles.nodup hfound.1 hrole hsame
    rw [← hcode, ← heq, hfound.2]
    exact ⟨hcode', found, hfound⟩
  . intro hcode
    obtain ⟨hcode, role, hrole⟩ := hcode
    refine ⟨role, hrole.1, hrole.2, ?_⟩
    apply List.mem_map_of_mem
    rw [List.mem_filterMap]
    exact ⟨code, hcode, findRole_eq_some.mpr hrole⟩

end Database

theorem throw_unknownRole_unless (missing : List Str) (roles : List Role) (s : Session)
    : (if missing ≠ [] then throw (.unknownRole missing) else return roles : Service (List Role)) s
        =
      if missing = [] then .ok roles s else .error (.unknownRole missing) s := by
  cases missing with
  | nil => rfl
  | cons code codes => rfl

theorem resolveRoles_eq (codes : List Str) (s : Session)
    : resolveRoles codes s
        =
      if codes.all storable then
        if s.db.missingRoles codes = [] then
          .ok (codes.filterMap (findRole s.db)) s
        else
          .error (.unknownRole (s.db.missingRoles codes)) s
      else
        .error .database s := by
  unfold resolveRoles
  split
  . next hnil =>
    rw [hnil]
    rfl
  . simp only [bind, EStateM.bind, query_eq]
    by_cases hcodes : codes.all storable = true
    . simp only [if_pos hcodes]
      apply throw_unknownRole_unless
    . simp only [if_neg hcodes]

namespace PersonCreate

def person (payload : PersonCreate) (id : UUID) : Person :=
  ⟨id, payload.name, payload.phone, payload.active⟩

def HasStorableTexts (payload : PersonCreate) : Prop :=
  storable payload.name = true ∧ ∀ phone ∈ payload.phone, storable phone = true

variable {payload : PersonCreate} {id : UUID} {db : Database}

theorem all_storable_texts {links : List PersonRole}
    : (NewRow.person (payload.person id) links).texts.all storable = true
        ↔
      payload.HasStorableTexts := by
  simp [NewRow.texts, person, HasStorableTexts]

theorem createPerson_of_error {commits : Bool} {e : CreateError} {t : Session}
    (h : resolveRoles payload.roles.eraseDups { db } = .error e t)
    : createPerson payload id commits { db } = .error e t := by
  simp only [createPerson, bind, EStateM.bind, h]

theorem createPerson_of_ok {roles : List Role}
    (h : resolveRoles payload.roles.eraseDups { db } = .ok roles { db })
    : createPerson payload id true { db }
        =
      match flush db [.person (payload.person id) (roles.map fun role => ⟨id, role.id⟩)] with
      | some db' => .ok (payload.person id) { db := db' }
      | none => .error .database { db } := by
  simp only [createPerson, bind, EStateM.bind, h, add_eq, commit_eq, List.nil_append, person]
  cases flush db [.person ⟨id, payload.name, payload.phone, payload.active⟩
    (roles.map fun role => ⟨id, role.id⟩)] with
  | none => rfl
  | some db' => rfl

theorem createPerson_of_missing
    (hcodes : payload.roles.eraseDups.all storable = true)
    (hmissing : db.missingRoles payload.roles.eraseDups ≠ [])
    : createPerson payload id true { db }
        =
      .error (.unknownRole (db.missingRoles payload.roles.eraseDups)) { db } := by
  apply createPerson_of_error
  rw [resolveRoles_eq, if_pos hcodes, if_neg hmissing]

theorem createPerson_of_known
    (hid : id ∉ db.persons.rows.map Person.id)
    (hcodes : payload.roles.eraseDups.all storable = true)
    (hmissing : db.missingRoles payload.roles.eraseDups = []) (htexts : payload.HasStorableTexts)
    : ∃ db', createPerson payload id true { db } = .ok (payload.person id) { db := db' }
        ∧ db.Adds db' (.person (payload.person id)
            ((payload.roles.eraseDups.filterMap (findRole db)).map fun role => ⟨id, role.id⟩)) := by
  have hresolve : resolveRoles payload.roles.eraseDups { db }
      = .ok (payload.roles.eraseDups.filterMap (findRole db)) { db } := by
    rw [resolveRoles_eq, if_pos hcodes, if_pos hmissing]
  have hroles : ∀ role ∈ payload.roles.eraseDups.filterMap (findRole db), role ∈ db.roles.rows := by
    intro role hrole
    rw [List.mem_filterMap] at hrole
    obtain ⟨code, _, hrole⟩ := hrole
    exact (Database.findRole_eq_some.mp hrole).1
  have hinsert : ∃ db', db.insertPerson (payload.person id)
      ((payload.roles.eraseDups.filterMap (findRole db)).map fun role => ⟨id, role.id⟩)
        = some db' :=
    Database.exists_insertPerson hid
      (Database.nodup_filterMap_findRole db (nodup_eraseDups payload.roles)) hroles
  obtain ⟨db', hinsert⟩ := hinsert
  refine ⟨db', ?_, NewRow.adds_person hinsert⟩
  rw [createPerson_of_ok hresolve, flush, if_pos (all_storable_texts.mpr htexts), NewRow.insert,
    hinsert]
  rfl

theorem createPerson_of_unstorable
    (hcodes : payload.roles.eraseDups.all storable = true)
    (hmissing : db.missingRoles payload.roles.eraseDups = []) (htexts : ¬payload.HasStorableTexts)
    : createPerson payload id true { db } = .error .database { db } := by
  have hresolve : resolveRoles payload.roles.eraseDups { db }
      = .ok (payload.roles.eraseDups.filterMap (findRole db)) { db } := by
    rw [resolveRoles_eq, if_pos hcodes, if_pos hmissing]
  rw [createPerson_of_ok hresolve, flush, if_neg]
  rw [all_storable_texts]
  exact htexts

end PersonCreate

/-- What the creation of a person does with its role codes: all of them become memberships, or
nothing is written. -/
structure Database.ResolvesRoles (db : Database) (payload : PersonCreate) (id : UUID)
    (outcome : Except CreateError Person × Database) : Prop where
  succeeds : (∃ person, outcome.1 = .ok person) ↔ ∀ code ∈ payload.roles, db.HasRole code
  person : ∀ person, outcome.1 = .ok person →
    person = payload.person id ∧ outcome.2.persons.rows = db.persons.rows ++ [person]
  holds : ∀ person, outcome.1 = .ok person →
    ∀ code, outcome.2.Holds person.id code ↔ code ∈ payload.roles
  memberships : ∀ person, outcome.1 = .ok person →
    (outcome.2.memberships person.id).Nodup
      ∧ ∀ roleId ∈ outcome.2.memberships person.id, ∃ role ∈ outcome.2.roles.rows, role.id = roleId
  unknown : ∀ e, outcome.1 = .error e →
    ∃ missing, e = .unknownRole missing
      ∧ (∀ code, code ∈ missing ↔ code ∈ payload.roles ∧ ¬db.HasRole code)
      ∧ missing.Pairwise fun a b => payload.roles.idxOf a < payload.roles.idxOf b
  unwritten : ∀ e, outcome.1 = .error e → outcome.2 = db

namespace PersonCreate

variable {payload : PersonCreate} {id : UUID} {db : Database}

theorem missingRoles_eraseDups
    : db.missingRoles payload.roles.eraseDups = []
        ↔
      ∀ code ∈ payload.roles, db.HasRole code := by
  rw [Database.missingRoles_eq_nil]
  simp only [List.mem_eraseDups]

theorem resolvesRoles_of_known
    (hid : id ∉ db.persons.rows.map Person.id)
    (hcodes : payload.roles.eraseDups.all storable = true)
    (hknown : ∀ code ∈ payload.roles, db.HasRole code) (htexts : payload.HasStorableTexts)
    : db.ResolvesRoles payload id (Service.call db (createPerson payload id true)) := by
  obtain ⟨db', hcreate, hadds⟩ :=
    createPerson_of_known hid hcodes (missingRoles_eraseDups.mpr hknown) htexts
  have houtcome : Service.call db (createPerson payload id true) = (.ok (payload.person id), db') := by
    simp only [Service.call, hcreate]
  rw [houtcome]
  have hperson : ∀ person, (.ok (payload.person id) : Except CreateError Person) = .ok person
      → person = payload.person id := by
    intro person h
    injection h with h
    exact h.symm
  constructor
  case succeeds =>
    constructor
    . intro _
      exact hknown
    . intro _
      exact ⟨_, rfl⟩
  case person =>
    intro person h
    rw [hperson person h]
    exact ⟨rfl, hadds.persons⟩
  case holds =>
    intro person h code
    rw [hperson person h, Database.holds_iff_of_adds hid hadds, List.mem_eraseDups]
    constructor
    . intro hholds
      exact hholds.1
    . intro hcode
      exact ⟨hcode, hknown code hcode⟩
  case memberships =>
    intro person _
    constructor
    . apply Database.nodup_memberships
    . intro roleId hroleId
      exact Database.role_of_mem_memberships hroleId
  case unknown =>
    intro e h
    injection h
  case unwritten =>
    intro e h
    injection h

theorem resolvesRoles_of_missing
    (hcodes : payload.roles.eraseDups.all storable = true)
    (hmissing : ¬∀ code ∈ payload.roles, db.HasRole code)
    : db.ResolvesRoles payload id (Service.call db (createPerson payload id true)) := by
  have hcreate : createPerson payload id true { db }
      = .error (.unknownRole (db.missingRoles payload.roles.eraseDups)) { db } := by
    apply createPerson_of_missing hcodes
    rwa [ne_eq, missingRoles_eraseDups]
  have houtcome : Service.call db (createPerson payload id true)
      = (.error (.unknownRole (db.missingRoles payload.roles.eraseDups)), db) := by
    simp only [Service.call, hcreate]
  rw [houtcome]
  constructor
  case succeeds =>
    constructor
    . intro h
      obtain ⟨person, h⟩ := h
      injection h
    . intro h
      exact absurd h hmissing
  case person =>
    intro person h
    injection h
  case holds =>
    intro person h
    injection h
  case memberships =>
    intro person h
    injection h
  case unknown =>
    intro e h
    injection h with h
    refine ⟨_, h.symm, ?_, ?_⟩
    . intro code
      rw [Database.mem_missingRoles, List.mem_eraseDups]
    . exact (pairwise_eraseDups payload.roles).filter _
  case unwritten =>
    intro e _
    rfl

theorem not_resolvesRoles_of_database
    (h : createPerson payload id true { db } = .error .database { db })
    : ¬db.ResolvesRoles payload id (Service.call db (createPerson payload id true)) := by
  intro hresolves
  have houtcome : Service.call db (createPerson payload id true) = (.error .database, db) := by
    simp only [Service.call, h]
  rw [houtcome] at hresolves
  obtain ⟨missing, hmissing, _⟩ := hresolves.unknown .database rfl
  injection hmissing

/-- The driver refuses a text with a NUL or a lone surrogate, and nothing translates its error. -/
theorem resolvesRoles_iff (db : Database) (payload : PersonCreate) (id : UUID)
    (hid : id ∉ db.persons.rows.map Person.id)
    : db.ResolvesRoles payload id (Service.call db (createPerson payload id true))
        ↔
      (∀ code ∈ payload.roles, storable code = true)
        ∧ ((∀ code ∈ payload.roles, db.HasRole code) → payload.HasStorableTexts) := by
  have hall : payload.roles.eraseDups.all storable = true
      ↔ ∀ code ∈ payload.roles, storable code = true := by
    rw [List.all_eq_true]
    simp only [List.mem_eraseDups]
  rw [← hall]
  constructor
  . intro hresolves
    have hcodes : payload.roles.eraseDups.all storable = true := by
      by_contra hcodes
      apply not_resolvesRoles_of_database _ hresolves
      apply createPerson_of_error
      rw [resolveRoles_eq, if_neg hcodes]
    refine ⟨hcodes, ?_⟩
    intro hknown
    by_contra htexts
    apply not_resolvesRoles_of_database _ hresolves
    exact createPerson_of_unstorable hcodes (missingRoles_eraseDups.mpr hknown) htexts
  . intro h
    by_cases hknown : ∀ code ∈ payload.roles, db.HasRole code
    . exact resolvesRoles_of_known hid h.1 hknown (h.2 hknown)
    . exact resolvesRoles_of_missing h.1 hknown

def learnerSeed : Seed :=
  { bare with
    roles := { rows := [⟨0, ofString "learner", ofString "Learner / Student"⟩] }
    uq_roles_code := by simp
    uq_roles_name := by simp }

def learners : Database :=
  learnerSeed.database

def learner : PersonCreate where
  name := ofString "Zahra"
  roles := [ofString "learner", ofString "ghost", ofString "learner", ofString "ghost"]

theorem learner_resolvesRoles
    : learners.ResolvesRoles learner 0 (Service.call learners (createPerson learner 0 true)) := by
  rw [resolvesRoles_iff learners learner 0 (by decide)]
  constructor
  . exact List.all_eq_true.mp (by decide)
  . intro _
    refine ⟨by decide, ?_⟩
    intro phone hphone
    contradiction

def nulRole : PersonCreate where
  name := ofString "Zahra"
  roles := [ofString "\x00"]

/-- No role has the code, which is what the service has an error of its own for. -/
theorem nulRole_unresolved
    : ¬learners.ResolvesRoles nulRole 0 (Service.call learners (createPerson nulRole 0 true)) := by
  apply not_resolvesRoles_of_database
  rfl

end PersonCreate

end Api
