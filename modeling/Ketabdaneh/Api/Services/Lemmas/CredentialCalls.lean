import Ketabdaneh.Api.Lemmas.Password
import Ketabdaneh.Api.Services.CredentialCalls
import Ketabdaneh.Api.Services.Lemmas.AccountCalls
import Ketabdaneh.Api.Services.Lemmas.Authenticate
import Mathlib.Data.List.Forall2

/-!
This module contains which credentials are accepted after calls that create users and log them in.
-/

namespace Api

open Text Transaction

theorem normalizeUsername_idem (username : Str)
    : normalizeUsername (normalizeUsername username) = normalizeUsername username := by
  rw [normalizeUsername, normalizeUsername, strip_casefold_strip, casefold_casefold]

/--
What is taken for granted of the password library besides its documentation: a hash is verified by
the password it was made of and by no other, and it is made of the bytes of the text.
-/
structure PasswordHasher.Exact (hasher : PasswordHasher) : Prop where
  verify_hash : ∀ {salt made passwordHash password},
    (hasher.hash salt made).value = some passwordHash →
      ((hasher.verify passwordHash password).value = .ok true ↔ password = made)
  encodable_of_hash : ∀ {salt password passwordHash},
    (hasher.hash salt password).value = some passwordHash → encodable password = true

section

open AccountService

variable {hasher : PasswordHasher} {salt : Salt} {commits : Bool} {settings : AuthSettings}
variable {db db' : Accounts} {username password : Str} {user : User}

/-- How a login of this user ends well. -/
inductive LogsIn (hasher : PasswordHasher) (salt : Salt) (commits : Bool) (db : Accounts)
    (password : Str) (user : User) : User → Accounts → Prop where
  | asIs (h : passwordNeedsRehash hasher user.passwordHash = some false)
    : LogsIn hasher salt commits db password user user db
  | rehashed (h : passwordNeedsRehash hasher user.passwordHash = some true) {passwordHash db'}
      (hhash : (hashPassword hasher salt password).value = some passwordHash)
      (hcommits : commits = true)
      (happly : (AccountWrite.setPasswordHash user.id passwordHash).apply db = .ok db')
    : LogsIn hasher salt commits db password user { user with passwordHash } db'

theorem returns_pure {a b : User}
    : Returns db db (pure b : AccountService User) a db' ↔ b = a ∧ db = db' := by
  constructor
  . rintro ⟨houtcome, hstore⟩
    injection houtcome with houtcome
    exact ⟨houtcome, hstore⟩
  . rintro ⟨rfl, rfl⟩
    exact ⟨rfl, rfl⟩

theorem returns_acceptUser {found : User}
    : Returns db db (acceptUser hasher salt commits password found) user db'
        ↔
      LogsIn hasher salt commits db password found user db' := by
  unfold acceptUser
  constructor
  . intro h
    split at h
    . exact absurd h not_returns_throw
    . next hneeded =>
      rw [returns_pure] at h
      rw [← h.1, ← h.2]
      exact .asIs hneeded
    . next hneeded =>
      rw [returns_perform_bind] at h
      cases hhash : (hashPassword hasher salt password).value with
      | none =>
        rw [hhash] at h
        exact absurd h not_returns_throw
      | some passwordHash =>
        rw [hhash] at h
        dsimp only at h
        rw [returns_add_commit] at h
        rcases h with ⟨hcommits, happly, rfl⟩
        exact .rehashed hneeded hhash hcommits happly
  . intro h
    cases h with
    | asIs hneeded =>
      rw [hneeded]
      dsimp only
      rw [returns_pure]
      exact ⟨rfl, rfl⟩
    | rehashed hneeded hhash hcommits happly =>
      rw [hneeded]
      dsimp only
      rw [returns_perform_bind, hhash]
      dsimp only
      rw [returns_add_commit]
      exact ⟨hcommits, happly, rfl⟩

theorem returns_authenticate
    : Returns db db (authenticate hasher salt commits settings username password) user db'
        ↔
      ensureSecureAuthSecret settings = .ok () ∧ storable (normalizeUsername username) = true
        ∧ ∃ found, db.userNamed? (normalizeUsername username) = some found
          ∧ (verifyPassword hasher found.passwordHash password).value = true
          ∧ found.active = true
          ∧ LogsIn hasher salt commits db password found user db' := by
  unfold authenticate
  cases ensureSecureAuthSecret settings with
  | error e => simp [not_returns_throw]
  | ok _ =>
    dsimp only
    rw [returns_scalar_bind, List.all_cons, List.all_nil, Bool.and_true]
    cases db.userNamed? (normalizeUsername username) with
    | none =>
      dsimp only
      rw [returns_perform_bind]
      simp [not_returns_throw]
    | some found =>
      dsimp only
      rw [returns_perform_bind]
      cases hverified : (verifyPassword hasher found.passwordHash password).value with
      | false => simp [hverified, not_returns_throw]
      | true =>
        rw [if_neg (by simp)]
        rcases Bool.eq_false_or_eq_true found.active with hactive | hactive
        . rw [if_neg (by simp [hactive])]
          change storable _ = true ∧ Returns db db (acceptUser hasher salt commits password found) _ _
            ↔ _
          rw [returns_acceptUser]
          simp [hverified, hactive]
        . simp [hactive, not_returns_throw]

theorem commitsLast_authenticate
    : (authenticate hasher salt commits settings username password).CommitsLast := by
  unfold authenticate
  split
  . trivial
  . apply commitsLast_scalar_bind
    intro found
    cases found with
    | none =>
      apply commitsLast_perform_bind
      trivial
    | some user =>
      apply commitsLast_perform_bind
      split
      . trivial
      . split
        . trivial
        . split
          . trivial
          . trivial
          . apply commitsLast_perform_bind
            split
            . trivial
            . apply commitsLast_add_commit

end

namespace CredentialCall

variable {hasher : PasswordHasher} {db : Accounts} {call : CredentialCall}

theorem commitsLast_service : (call.service hasher).CommitsLast := by
  cases call with
  | createUser => apply commitsLast_createUser
  | authenticate => apply commitsLast_authenticate

theorem after_of_error {e : AccountError} (h : (call.perform hasher db).outcome = .error e)
    : call.after hasher db = db := by
  apply Transaction.store_of_error
  . apply commitsLast_service
  . exact h

theorem returns_of_ok {user : User} (h : (call.perform hasher db).outcome = .ok user)
    : AccountService.Returns db db (call.service hasher) user (call.after hasher db) :=
  ⟨h, rfl⟩

end CredentialCall

/-- A user as its credential left it, with a hash of the password. -/
structure User.StoredFrom (hasher : PasswordHasher) (user : User) (credential : Credential)
    : Prop where
  username : user.username = normalizeUsername credential.username
  username_ne_nil : user.username ≠ []
  storable : storable user.username = true
  active : user.active = credential.active
  passwordHash : ∃ salt,
    (hashPassword hasher salt credential.password).value = some user.passwordHash

section

variable {hasher : PasswordHasher} {db db' : Accounts} {call : CredentialCall} {user : User}
variable {credential : Credential} {credentials : List Credential} {password : Str}

theorem AccountWrite.apply_setPasswordHash_eq_ok {id : UUID} {passwordHash : Str}
    (h : (setPasswordHash id passwordHash).apply db = .ok db')
    : db' = db.setPasswordHash id passwordHash := by
  unfold apply at h
  split at h
  . dsimp only at h
    split at h
    . injection h with h
      exact h.symm
    . injection h
  . injection h

theorem User.StoredFrom.verify_iff (h : user.StoredFrom hasher credential) (hexact : hasher.Exact)
    : (verifyPassword hasher user.passwordHash password).value = true
        ↔
      credential.password = password := by
  rcases h.passwordHash with ⟨salt, hhash⟩
  rw [verifyPassword_eq_true, hexact.verify_hash hhash, eq_comm]

theorem storedFrom_setPasswordHash
    (h : List.Forall₂ (User.StoredFrom hasher) db.users.rows credentials) (hexact : hasher.Exact)
    (huser : user ∈ db.users.rows)
    (hverified : (verifyPassword hasher user.passwordHash password).value = true) {salt : Salt}
    {passwordHash : Str} (hhash : (hashPassword hasher salt password).value = some passwordHash)
    : List.Forall₂ (User.StoredFrom hasher) (db.setPasswordHash user.id passwordHash).users.rows
        credentials := by
  change List.Forall₂ _ (db.users.rows.map _) _
  rw [List.forall₂_map_left_iff]
  have hmem := (List.forall₂_and_left _ _).mpr ⟨fun row (hrow : row ∈ db.users.rows) => hrow, h⟩
  apply hmem.imp
  rintro row credential ⟨hrow, hstored⟩
  split
  . next hid =>
    have hsame : row = user := List.inj_on_of_nodup_map db.users.nodup hrow huser hid
    rw [← hsame, hstored.verify_iff hexact] at hverified
    refine ⟨hstored.username, hstored.username_ne_nil, hstored.storable, hstored.active, salt, ?_⟩
    rw [hverified]
    exact hhash
  . exact hstored

theorem storedFrom_after (call : CredentialCall)
    (h : List.Forall₂ (User.StoredFrom hasher) db.users.rows credentials)
    (hexact : hasher.Exact)
    : List.Forall₂ (User.StoredFrom hasher) (call.after hasher db).users.rows
        (credentials ++ call.created hasher db) := by
  cases houtcome : (call.perform hasher db).outcome with
  | error e =>
    have hcreated : call.created hasher db = [] := by
      cases call with
      | createUser => simp [CredentialCall.created, houtcome]
      | authenticate => rfl
    rw [CredentialCall.after_of_error houtcome, hcreated, List.append_nil]
    exact h
  | ok user =>
    have hreturns := CredentialCall.returns_of_ok houtcome
    cases call with
    | createUser username password active id salt commits =>
      have hcreated : CredentialCall.created hasher db
          (.createUser username password active id salt commits) = [⟨username, password, active⟩] := by
        simp [CredentialCall.created, houtcome]
      rw [hcreated]
      change AccountService.Returns db db (createUser hasher salt commits username password active id)
        user _ at hreturns
      rw [returns_createUser] at hreturns
      rcases hreturns with ⟨hne, _, hstorable, _, passwordHash, hhash, huser, _, happly⟩
      rw [(AccountWrite.apply_newUser happly).users]
      apply List.rel_append h
      apply List.Forall₂.cons _ .nil
      rw [huser]
      exact ⟨rfl, hne, by simpa using hstorable, rfl, salt, hhash⟩
    | authenticate settings username password salt commits =>
      change AccountService.Returns db db
        (authenticate hasher salt commits settings username password) user _ at hreturns
      rw [returns_authenticate] at hreturns
      rcases hreturns with ⟨_, _, found, hfound, hverified, _, hlogin⟩
      change List.Forall₂ _ _ (credentials ++ [])
      rw [List.append_nil]
      generalize CredentialCall.after hasher db _ = db' at hlogin ⊢
      cases hlogin with
      | asIs => exact h
      | rehashed _ hhash _ happly =>
        rw [AccountWrite.apply_setPasswordHash_eq_ok happly]
        rw [Accounts.userNamed?_eq_some] at hfound
        exact storedFrom_setPasswordHash h hexact hfound.1 hverified hhash

theorem storedFrom_afterCredentials {calls : List CredentialCall}
    (h : List.Forall₂ (User.StoredFrom hasher) db.users.rows credentials) (hexact : hasher.Exact)
    : List.Forall₂ (User.StoredFrom hasher) (db.afterCredentials hasher calls).users.rows
        (credentials ++ db.credentials hasher calls) := by
  induction calls generalizing db credentials with
  | nil =>
    rw [Accounts.credentials, List.append_nil]
    exact h
  | cons call calls ih =>
    rw [Accounts.credentials, ← List.append_assoc]
    exact ih (storedFrom_after call h hexact)

theorem exists_of_forall₂ {α β : Type} {R : α → β → Prop} {as : List α} {bs : List β}
    (h : List.Forall₂ R as bs) : ∀ a ∈ as, ∃ b ∈ bs, R a b := by
  induction h with
  | nil => simp
  | cons hab _ ih =>
    intro a ha
    rcases List.mem_cons.mp ha with rfl | ha
    . exact ⟨_, List.mem_cons_self, hab⟩
    . rcases ih a ha with ⟨b, hb, hR⟩
      exact ⟨b, List.mem_cons_of_mem _ hb, hR⟩

/-- The credentials name an active user that was created, with its password. -/
def Matches (credentials : List Credential) (username password : Str) : Prop :=
  ∃ credential ∈ credentials, credential.active = true
    ∧ normalizeUsername credential.username = normalizeUsername username
    ∧ credential.password = password

theorem authenticates_iff (hhasher : hasher.Documented) (hexact : hasher.Exact)
    (h : List.Forall₂ (User.StoredFrom hasher) db.users.rows credentials)
    {settings : AuthSettings} {salt : Salt} {username : Str}
    : db.Authenticates hasher settings salt username password
        ↔
      ensureSecureAuthSecret settings = .ok () ∧ Matches credentials username password := by
  constructor
  . rintro ⟨user, houtcome⟩
    have hreturns := CredentialCall.returns_of_ok houtcome
    change AccountService.Returns db db (authenticate hasher salt true settings username password)
      user _ at hreturns
    rw [returns_authenticate] at hreturns
    rcases hreturns with ⟨hsecure, _, found, hfound, hverified, hactive, _⟩
    rw [Accounts.userNamed?_eq_some] at hfound
    rcases exists_of_forall₂ h found hfound.1 with ⟨credential, hcredential, hstored⟩
    refine ⟨hsecure, credential, hcredential, ?_, ?_, ?_⟩
    . rw [← hstored.active, hactive]
    . rw [← hstored.username, hfound.2]
    . exact (hstored.verify_iff hexact).mp hverified
  . rintro ⟨hsecure, credential, hcredential, hactive, husername, hpassword⟩
    rcases exists_of_forall₂ h.flip credential hcredential with ⟨user, huser, hstored⟩
    have hverified := (hstored.verify_iff hexact).mpr hpassword
    have hfound : db.userNamed? (normalizeUsername username) = some user := by
      rw [Accounts.userNamed?_eq_some]
      exact ⟨huser, hstored.username.trans husername⟩
    have hencodable : encodable password = true := by
      rcases hstored.passwordHash with ⟨_, hhash⟩
      rw [hpassword] at hhash
      exact hexact.encodable_of_hash hhash
    obtain ⟨accepted, haccepted⟩ : ∃ accepted,
        (AccountService.run db db (acceptUser hasher salt true password user)).outcome
          = .ok accepted := by
      apply acceptUser_eq_ok hhasher hencodable hverified huser
    have hstorable : storable (normalizeUsername username) = true := by
      rw [← husername, ← hstored.username, hstored.storable]
    have huseractive : user.active = true := by
      rw [hstored.active, hactive]
    have hlogin := returns_acceptUser.mp ⟨haccepted, rfl⟩
    have hreturns := returns_authenticate.mpr
      ⟨hsecure, hstorable, user, hfound, hverified, huseractive, hlogin⟩
    exact ⟨accepted, hreturns.1⟩

/--
After all calls the user names are canonical and tell the users apart, a call that fails writes
nothing, and what is accepted are the credentials of the active users created, before and after any
further login.
-/
theorem credentials_decide (hhasher : hasher.Documented) (hexact : hasher.Exact)
    (hempty : db.users.rows = []) (calls : List CredentialCall)
    : let reached := db.afterCredentials hasher calls
      (∀ user ∈ reached.users.rows,
          user.username ≠ [] ∧ normalizeUsername user.username = user.username)
        ∧ (reached.users.rows.map User.username).Nodup
        ∧ (∀ (call : CredentialCall) (e : AccountError),
            (call.perform hasher reached).outcome = .error e → call.after hasher reached = reached)
        ∧ (∀ settings salt username password,
            reached.Authenticates hasher settings salt username password
              ↔
            ensureSecureAuthSecret settings = .ok ()
              ∧ Matches (db.credentials hasher calls) username password)
        ∧ ∀ loginSettings loginName loginPassword loginSalt commits settings salt username password,
            (CredentialCall.after hasher reached (.authenticate loginSettings loginName loginPassword
                loginSalt commits)).Authenticates hasher settings salt username password
              ↔
            reached.Authenticates hasher settings salt username password := by
  intro reached
  have hstored : List.Forall₂ (User.StoredFrom hasher) reached.users.rows
      (db.credentials hasher calls) := by
    have hbefore : List.Forall₂ (User.StoredFrom hasher) db.users.rows [] := by
      rw [hempty]
      exact .nil
    exact storedFrom_afterCredentials hbefore hexact
  refine ⟨?_, reached.uq_users_username, fun _ _ => CredentialCall.after_of_error, ?_, ?_⟩
  . intro user huser
    rcases exists_of_forall₂ hstored user huser with ⟨credential, _, huser⟩
    refine ⟨huser.username_ne_nil, ?_⟩
    rw [huser.username, normalizeUsername_idem]
  . intro settings salt username password
    exact authenticates_iff hhasher hexact hstored
  . intro loginSettings loginName loginPassword loginSalt commits settings salt username password
    rw [authenticates_iff hhasher hexact hstored]
    apply authenticates_iff hhasher hexact
    have hafter := storedFrom_after
      (.authenticate loginSettings loginName loginPassword loginSalt commits) hstored hexact
    rwa [CredentialCall.created, List.append_nil] at hafter

end

section

/-- Two characters for each one, of which none is a surrogate or NUL. -/
def pairDigest (password : Str) : Str :=
  password.flatMap fun c => [Fin.ofNat _ (c.val / 1024 + 256), Fin.ofNat _ (c.val % 1024 + 256)]

/-- A hasher that has the password itself in place of the digest, and may ask for a new hash. -/
def exactHasher (needsRehash : Bool) : PasswordHasher where
  hash _ password :=
    if encodable password then { value := some (plainHash (pairDigest password)), computations := 1 }
    else { value := none }
  verify encoded password :=
    if saltLength encoded < MIN_SALT_LENGTH then
      { value := .error .other }
    else if encodable password ∧ encoded = plainHash (pairDigest password) then
      { value := .ok true, computations := 1 }
    else
      { value := .error .mismatch, computations := 1 }
  checkNeedsRehash _ := some needsRehash

theorem pairDigest_inj {password other : Str} (h : pairDigest password = pairDigest other)
    : password = other := by
  induction password generalizing other with
  | nil =>
    cases other with
    | nil => rfl
    | cons d other => simp [pairDigest] at h
  | cons c password ih =>
    cases other with
    | nil => simp [pairDigest] at h
    | cons d other =>
      simp only [pairDigest, List.flatMap_cons, List.cons_append, List.nil_append,
        List.cons.injEq, Fin.ext_iff, Fin.val_ofNat] at h
      rcases h with ⟨hhigh, hlow, hrest⟩
      rw [ih hrest]
      congr 1
      have hc := c.isLt
      have hd := d.isLt
      rw [Fin.ext_iff]
      omega

theorem plainHash_append (digest : Str) : plainHash digest = plainHash [] ++ digest := by
  simp [plainHash]

theorem plainHash_inj {digest other : Str} (h : plainHash digest = plainHash other)
    : digest = other := by
  rw [plainHash_append, plainHash_append other] at h
  exact List.append_cancel_left h

theorem storable_pairDigest (password : Str) : storable (pairDigest password) = true := by
  have hrange : ∀ d ∈ pairDigest password, 0 < d.val ∧ d.val < 0xD800 := by
    intro d hd
    rcases List.mem_flatMap.mp hd with ⟨c, _, hd⟩
    have hc := c.isLt
    rcases List.mem_cons.mp hd with rfl | hd
    . rw [Fin.val_ofNat]
      omega
    . rw [List.mem_singleton.mp hd, Fin.val_ofNat]
      omega
  simp only [storable, encodable, Bool.and_eq_true, List.all_eq_true, Bool.not_eq_true',
    List.contains_eq_mem, decide_eq_false_iff_not]
  constructor
  . intro d hd
    rw [isSurrogate, Bool.and_eq_false_iff, decide_eq_false_iff_not]
    exact .inl (Nat.not_le.mpr (hrange d hd).2)
  . intro hzero
    exact absurd (hrange _ hzero).1 (by decide)

variable {needsRehash : Bool}

theorem exactHasher_hash {salt : Salt} {password passwordHash : Str}
    : ((exactHasher needsRehash).hash salt password).value = some passwordHash
        ↔
      encodable password = true ∧ passwordHash = plainHash (pairDigest password) := by
  unfold exactHasher
  dsimp only
  split
  . next h => simp [h, eq_comm]
  . next h => simp [h]

theorem saltLength_exactHash {salt : Salt} {password passwordHash : Str}
    (h : ((exactHasher needsRehash).hash salt password).value = some passwordHash)
    : saltLength passwordHash = 16 := by
  rw [(exactHasher_hash.mp h).2]
  apply saltLength_plainHash

theorem exactHasher_documented : (exactHasher needsRehash).Documented where
  hash_eq_some := by
    intro salt password hencodable
    refine ⟨_, exactHasher_hash.mpr ⟨hencodable, rfl⟩, ?_⟩
    exact storable_plainHash (storable_pairDigest password)
  verify_made := by
    intro salt made passwordHash password hmade _
    have hlong := saltLength_exactHash hmade
    unfold exactHasher
    dsimp only
    rw [hlong, if_neg (by decide)]
    split
    . rfl
    . rfl
  verify_short := by
    intro encoded password hshort
    unfold exactHasher
    dsimp only
    rw [if_pos hshort]
    exact ⟨rfl, rfl⟩
  needsRehash_eq_some := by
    intro encoded password _
    exact ⟨_, rfl⟩

theorem exactHasher_exact : (exactHasher needsRehash).Exact where
  verify_hash := by
    intro salt made passwordHash password hmade
    have hlong := saltLength_exactHash hmade
    rcases exactHasher_hash.mp hmade with ⟨hencodable, rfl⟩
    unfold exactHasher
    dsimp only
    rw [hlong, if_neg (by decide)]
    split
    . next h => simpa using (pairDigest_inj (plainHash_inj h.2)).symm
    . next h =>
      simp only [reduceCtorEq, false_iff]
      rintro rfl
      exact h ⟨hencodable, rfl⟩
  encodable_of_hash h := (exactHasher_hash.mp h).1

def namedTwice : List CredentialCall :=
  [.createUser (ofString " Straße") (ofString "password") true 1 0 true,
    .createUser (ofString "STRASSE") (ofString "hunter22") true 2 0 true,
    .authenticate secureSettings (ofString "straße ") (ofString "password") 0 true]

theorem credentials_namedTwice
    : noAccounts.credentials (exactHasher true) namedTwice
        = [⟨ofString " Straße", ofString "password", true⟩] := by
  decide +kernel

theorem namedTwice_accepted
    : (noAccounts.afterCredentials (exactHasher true) namedTwice).Authenticates (exactHasher true)
        secureSettings 0 (ofString "strasse") (ofString "password") := by
  have hempty : noAccounts.users.rows = [] := rfl
  rcases credentials_decide exactHasher_documented exactHasher_exact hempty namedTwice
    with ⟨_, _, _, hdecided, _⟩
  apply (hdecided _ _ _ _).mpr
  rw [credentials_namedTwice]
  exact ⟨rfl, _, List.mem_cons_self, rfl, by decide +kernel, rfl⟩

def createdOnce : List CredentialCall :=
  [.createUser (ofString "a") (ofString "password") true 1 0 true]

def placeholderSettings : AuthSettings where
  authSecretKey := AUTH_SECRET_PLACEHOLDER
  authAllowInsecureDevSecret := false

/-- Without a secret nobody is logged in, and neither is one whose new hash cannot be committed. -/
theorem createdOnce_rejected
    : let reached := noAccounts.afterCredentials (exactHasher true) createdOnce
      Matches (noAccounts.credentials (exactHasher true) createdOnce) (ofString "a")
          (ofString "password")
        ∧ ((CredentialCall.authenticate placeholderSettings (ofString "a") (ofString "password") 0
            true).perform (exactHasher true) reached).outcome = .error .insecureSecret
        ∧ ((CredentialCall.authenticate secureSettings (ofString "a") (ofString "password") 0
            false).perform (exactHasher true) reached).outcome = .error .database := by
  have hcredentials : noAccounts.credentials (exactHasher true) createdOnce
      = [⟨ofString "a", ofString "password", true⟩] := by
    decide +kernel
  rw [hcredentials]
  exact ⟨⟨_, List.mem_cons_self, rfl, rfl, rfl⟩, rfl, rfl⟩

end

end Api
