import Ketabdaneh.Api.Routes.Deps
import Ketabdaneh.Api.Services.Lemmas.Authz

/-!
This module contains when a protected route runs its handler, and when it answers 401 or 403.
-/

namespace Api

open Python Text

def has (claims : Dict) (claim : Str) : Bool :=
  !((Value.get? claims.items claim).getD .None).eq .None

/--
What PyJWT promises: it returns the claims of the tokens that verify, are not expired and have the
required claims, and raises its own error for all others.
-/
structure PyJWT.Documented (jwt : PyJWT) (Verifies : Str → Str → List Str → Dict → Prop)
    (Expired : Dict → Prop) : Prop where
  decode_eq_ok : ∀ {token key algorithms require claims},
    jwt.decode token key algorithms require = .ok claims
      ↔ Verifies token key algorithms claims ∧ ¬Expired claims ∧ ∀ claim ∈ require, has claims claim = true
  decode_eq_error : ∀ {token key algorithms require e},
    jwt.decode token key algorithms require = .error e → e = .pyJWTError

/--
What the security scheme promises: the scheme stands before the first blank of the header, and
`param` takes the credentials from what is after it.
-/
structure BearerDocumented (httpBearer : Option Str → Option HTTPAuthorizationCredentials)
    (param : Str → Str) : Prop where
  of_some : ∀ {header c}, httpBearer header = some c →
    ∃ rest, header = some (c.scheme ++ cp ' ' :: rest) ∧ c.credentials = param rest
      ∧ c.credentials ≠ []
  of_bearer : ∀ {scheme rest}, asciiLower scheme = ofString "bearer" → param rest ≠ [] →
    httpBearer (some (scheme ++ cp ' ' :: rest)) = some ⟨scheme, param rest⟩

def Presents (param : Str → Str) (header : Option Str) (token : Str) : Prop :=
  ∃ scheme rest, header = some (scheme ++ cp ' ' :: rest) ∧ asciiLower scheme = ofString "bearer"
    ∧ param rest = token ∧ token ≠ []

def AccessType (claims : Dict) : Prop :=
  ∀ value, Value.get? claims.items TOKEN_TYPE_CLAIM = some value → value = .str ACCESS_TOKEN_TYPE

/-- All that authentication asks for, of a header and a user of the database. -/
structure Authenticated (Verifies : Str → Str → List Str → Dict → Prop) (Expired : Dict → Prop)
    (param : Str → Str) (settings : AuthSettings) (header : Option Str) (db : Accounts)
    (user : User) : Prop where
  token : ∃ token, Presents param header token
    ∧ ∃ claims, Verifies token settings.authSecretKey [settings.authAlgorithm] claims
      ∧ ¬Expired claims ∧ has claims EXPIRY_CLAIM = true ∧ AccessType claims
      ∧ ∃ subject, Value.get? claims.items SUBJECT_CLAIM = some (.str subject)
        ∧ uuid subject = some user.id
  mem : user ∈ db.users.rows
  active : user.active = true

theorem accessType_iff {claims : Dict}
    : ((Value.get? claims.items TOKEN_TYPE_CLAIM).getD (.str ACCESS_TOKEN_TYPE)).eq
          (.str ACCESS_TOKEN_TYPE) = true
        ↔
      AccessType claims := by
  rw [Value.eq_str_iff, AccessType]
  cases Value.get? claims.items TOKEN_TYPE_CLAIM with
  | none => simp
  | some value => simp

section

variable {jwt : PyJWT} {Verifies : Str → Str → List Str → Dict → Prop} {Expired : Dict → Prop}
variable {httpBearer : Option Str → Option HTTPAuthorizationCredentials} {param : Str → Str}

theorem decodeAccessToken_eq_ok (hjwt : jwt.Documented Verifies Expired)
    {token key algorithm subject : Str}
    : decodeAccessToken jwt token key algorithm = .ok subject
        ↔
      ∃ claims, Verifies token key [algorithm] claims ∧ ¬Expired claims ∧ has claims EXPIRY_CLAIM = true
        ∧ AccessType claims ∧ Value.get? claims.items SUBJECT_CLAIM = some (.str subject)
        ∧ subject ≠ [] := by
  simp only [decodeAccessToken, algorithms_eq]
  constructor
  . intro h
    split at h
    . injection h
    . injection h
    . next claims hclaims =>
      rw [hjwt.decode_eq_ok] at hclaims
      rcases hclaims with ⟨hverifies, hexpired, hrequired⟩
      split at h
      . injection h
      . next htype =>
        rw [Bool.not_eq_true, Bool.not_eq_false', accessType_iff] at htype
        split at h
        . next found hfound =>
          split at h
          . injection h
          . next hne =>
            injection h with h
            rw [h] at hfound hne
            refine ⟨claims, hverifies, hexpired, ?_, htype, ?_, hne⟩
            . apply hrequired
              apply List.mem_cons_self
            . cases hsub : Value.get? claims.items SUBJECT_CLAIM with
              | none =>
                rw [hsub] at hfound
                injection hfound
              | some value =>
                rw [hsub, Option.getD_some] at hfound
                rw [hfound]
        . injection h
  . rintro ⟨claims, hverifies, hexpired, hexp, htype, hsub, hne⟩
    have hdecode : jwt.decode token key [algorithm] [EXPIRY_CLAIM, SUBJECT_CLAIM] = .ok claims := by
      rw [hjwt.decode_eq_ok]
      refine ⟨hverifies, hexpired, ?_⟩
      intro claim hclaim
      rw [List.mem_cons, List.mem_singleton] at hclaim
      rcases hclaim with hclaim | hclaim
      . rw [hclaim]
        assumption
      . rw [hclaim, has, hsub]
        rfl
    rw [← accessType_iff] at htype
    simp only [hdecode, htype, hsub, Option.getD_some, hne, Bool.not_true, Bool.false_eq_true,
      if_false]

theorem decodeAccessToken_eq_error (hjwt : jwt.Documented Verifies Expired)
    {token key algorithm : Str} {e : TokenError}
    (h : decodeAccessToken jwt token key algorithm = .error e) : e = .invalidToken := by
  simp only [decodeAccessToken] at h
  split at h
  . injection h with h
    exact h.symm
  . next hother =>
    have hdocumented := hjwt.decode_eq_error hother
    injection hdocumented
  . split at h
    . injection h with h
      exact h.symm
    . split at h
      . split at h
        . injection h with h
          exact h.symm
        . injection h
      . injection h with h
        exact h.symm

variable {settings : AuthSettings} (hjwt : jwt.Documented Verifies Expired)
variable (hsecret : ensureSecureAuthSecret settings = .ok ())

include hsecret in
theorem resolveTokenSubject_eq (token : Str)
    : resolveTokenSubject jwt settings token
        =
      decodeAccessToken jwt token settings.authSecretKey settings.authAlgorithm := by
  rw [resolveTokenSubject, hsecret]
  rfl

theorem ne_nil_of_uuid {subject : Str} {id : UUID} (h : uuid subject = some id) : subject ≠ [] := by
  have hempty : uuid [] = none := rfl
  intro hnil
  rw [hnil, hempty] at h
  injection h

include hjwt hsecret in
theorem getCurrentUser_eq_error {credentials : Option HTTPAuthorizationCredentials} {db : Accounts}
    {e : Raised} (h : getCurrentUser jwt settings credentials db = .error e)
    : e = .http unauthorized := by
  simp only [getCurrentUser, resolveTokenSubject_eq hsecret] at h
  repeat' split at h
  all_goals first
    | injection h with h
      exact h.symm
    | next herror =>
      have hinvalid := decodeAccessToken_eq_error hjwt herror
      injection hinvalid
    | injection h

theorem activeUser_eq_ok {db : Accounts} {id : UUID} {user : User}
    : (match db.users.get? id with
        | none => Except.error (Raised.http unauthorized)
        | some user => if user.active then .ok user else .error (.http unauthorized)) = .ok user
        ↔
      id = user.id ∧ user ∈ db.users.rows ∧ user.active = true := by
  cases hget : db.users.get? id with
  | none =>
    simp only [reduceCtorEq, false_iff]
    rintro ⟨hid, hmem, _⟩
    rw [Table.get?_eq_some.mpr ⟨hmem, hid.symm⟩] at hget
    injection hget
  | some found =>
    rw [Table.get?_eq_some] at hget
    simp only
    constructor
    . intro h
      split at h
      . next hactive =>
        injection h with h
        rw [← h]
        exact ⟨hget.2.symm, hget.1, hactive⟩
      . injection h
    . rintro ⟨hid, hmem, hactive⟩
      have hsame : found = user := by
        apply List.inj_on_of_nodup_map db.users.nodup hget.1 hmem
        rw [hget.2, hid]
      rw [hsame, if_pos hactive]

include hsecret in
theorem getCurrentUser_eq_ok {credentials : HTTPAuthorizationCredentials} {db : Accounts}
    {user : User}
    : getCurrentUser jwt settings (some credentials) db = .ok user
        ↔
      asciiLower credentials.scheme = ofString "bearer"
        ∧ (∃ subject, decodeAccessToken jwt credentials.credentials settings.authSecretKey
            settings.authAlgorithm = .ok subject ∧ uuid subject = some user.id)
        ∧ user ∈ db.users.rows ∧ user.active = true := by
  simp only [getCurrentUser, resolveTokenSubject_eq hsecret]
  by_cases hscheme : asciiLower credentials.scheme = ofString "bearer"
  . rw [if_neg (not_not_intro hscheme)]
    cases decodeAccessToken jwt credentials.credentials settings.authSecretKey
      settings.authAlgorithm with
    | error e => cases e <;> simp
    | ok subject =>
      simp only
      cases hid : uuid subject with
      | none => simp [hid]
      | some id =>
        apply Iff.trans activeUser_eq_ok
        simp [hscheme, hid]
  . rw [if_pos hscheme]
    simp [hscheme]

include hjwt hsecret in
theorem getCurrentUser_iff (hbearer : BearerDocumented httpBearer param) {header : Option Str}
    {db : Accounts} {user : User}
    : getCurrentUser jwt settings (httpBearer header) db = .ok user
        ↔
      Authenticated Verifies Expired param settings header db user := by
  constructor
  . intro h
    cases hc : httpBearer header with
    | none =>
      rw [hc] at h
      injection h
    | some c =>
      rw [hc, getCurrentUser_eq_ok hsecret] at h
      rcases h with ⟨hscheme, ⟨subject, hdecode, hid⟩, hmem, hactive⟩
      rcases hbearer.of_some hc with ⟨rest, hheader, hparam, hne⟩
      rw [decodeAccessToken_eq_ok hjwt] at hdecode
      rcases hdecode with ⟨claims, hverifies, hexpired, hexp, htype, hsub, _⟩
      refine ⟨⟨c.credentials, ?_, claims, ?_⟩, hmem, hactive⟩
      . exact ⟨c.scheme, rest, hheader, hscheme, hparam.symm, hne⟩
      . exact ⟨hverifies, hexpired, hexp, htype, subject, hsub, hid⟩
  . intro h
    rcases h.token with ⟨token, hpresents, claims, hverifies, hexpired, hexp, htype, subject, hsub,
      hid⟩
    rcases hpresents with ⟨scheme, rest, hheader, hscheme, hparam, hne⟩
    have hc : httpBearer header = some ⟨scheme, token⟩ := by
      rw [← hparam] at hne
      rw [hheader, hbearer.of_bearer hscheme hne, hparam]
    rw [hc, getCurrentUser_eq_ok hsecret]
    refine ⟨hscheme, ⟨subject, ?_, hid⟩, h.mem, h.active⟩
    rw [decodeAccessToken_eq_ok hjwt]
    exact ⟨claims, hverifies, hexpired, hexp, htype, hsub, ne_nil_of_uuid hid⟩

include hjwt hsecret in
theorem exists_authenticated_or (hbearer : BearerDocumented httpBearer param)
    (header : Option Str) (db : Accounts)
    : (∃ user, getCurrentUser jwt settings (httpBearer header) db = .ok user
          ∧ Authenticated Verifies Expired param settings header db user)
        ∨ (getCurrentUser jwt settings (httpBearer header) db = .error (.http unauthorized)
          ∧ ¬∃ user, Authenticated Verifies Expired param settings header db user) := by
  cases huser : getCurrentUser jwt settings (httpBearer header) db with
  | ok user =>
    left
    exact ⟨user, rfl, (getCurrentUser_iff hjwt hsecret hbearer).mp huser⟩
  | error e =>
    right
    constructor
    . rw [getCurrentUser_eq_error hjwt hsecret huser]
    . rintro ⟨user, hauthenticated⟩
      rw [← getCurrentUser_iff hjwt hsecret hbearer, huser] at hauthenticated
      injection hauthenticated

include hjwt hsecret in
theorem authenticated_unique (hbearer : BearerDocumented httpBearer param) {header : Option Str}
    {db : Accounts} {user other : User}
    (h : Authenticated Verifies Expired param settings header db user)
    (hother : Authenticated Verifies Expired param settings header db other) : other = user := by
  rw [← getCurrentUser_iff hjwt hsecret hbearer] at h hother
  rw [h] at hother
  injection hother with hsame
  exact hsame.symm

include hjwt hsecret in
theorem requirePermission_cases (hbearer : BearerDocumented httpBearer param) (permission : Str)
    (header : Option Str) (db : Accounts)
    : (∃ user, requirePermission permission jwt settings httpBearer header db = .ok user
          ∧ Authenticated Verifies Expired param settings header db user
          ∧ db.Holds user permission)
        ∨ (∃ user, requirePermission permission jwt settings httpBearer header db
            = .error (.http forbidden)
          ∧ Authenticated Verifies Expired param settings header db user
          ∧ ¬db.Holds user permission)
        ∨ requirePermission permission jwt settings httpBearer header db
            = .error (.http unauthorized)
          ∧ ¬∃ user, Authenticated Verifies Expired param settings header db user := by
  unfold requirePermission
  rcases exists_authenticated_or hjwt hsecret hbearer header db with
    ⟨user, huser, hauthenticated⟩ | ⟨herror, hnone⟩
  . rw [huser]
    by_cases hholds : db.Holds user permission
    . left
      refine ⟨user, ?_, hauthenticated, hholds⟩
      apply if_pos
      exact userHasPermission_iff.mpr hholds
    . right
      left
      refine ⟨user, ?_, hauthenticated, hholds⟩
      apply if_neg
      rwa [userHasPermission_iff]
  . right
    right
    rw [herror]
    exact ⟨rfl, hnone⟩

end

theorem unauthorized_ne_forbidden : unauthorized ≠ forbidden := by
  intro h
  have hstatus : (401 : Nat) = 403 := congrArg HTTPException.status h
  omega

/--
A protected route runs its handler for an authenticated user with the permission, answers 403
without the permission, and 401 without such a user.
-/
theorem requirePermission_decides {jwt : PyJWT}
    {Verifies : Str → Str → List Str → Dict → Prop} {Expired : Dict → Prop}
    {httpBearer : Option Str → Option HTTPAuthorizationCredentials} {param : Str → Str}
    {settings : AuthSettings} (hjwt : jwt.Documented Verifies Expired)
    (hbearer : BearerDocumented httpBearer param)
    (hsecret : ensureSecureAuthSecret settings = .ok ()) (permission : Str) (header : Option Str)
    (db : Accounts)
    : (∀ user, requirePermission permission jwt settings httpBearer header db = .ok user
          ↔ Authenticated Verifies Expired param settings header db user
            ∧ db.Holds user permission)
        ∧ (requirePermission permission jwt settings httpBearer header db
            = .error (.http unauthorized)
          ↔ ¬∃ user, Authenticated Verifies Expired param settings header db user)
        ∧ (requirePermission permission jwt settings httpBearer header db = .error (.http forbidden)
          ↔ ∃ user, Authenticated Verifies Expired param settings header db user
            ∧ ¬db.Holds user permission)
        ∧ ∀ e, requirePermission permission jwt settings httpBearer header db = .error e →
          e = .http unauthorized ∨ e = .http forbidden := by
  have hunique : ∀ {user other}, Authenticated Verifies Expired param settings header db user →
      Authenticated Verifies Expired param settings header db other → other = user :=
    authenticated_unique hjwt hsecret hbearer
  rcases requirePermission_cases hjwt hsecret hbearer permission header db with
    ⟨user, hok, hauth, hholds⟩ | ⟨user, h403, hauth, hholds⟩ | ⟨h401, hnone⟩
  . rw [hok]
    refine ⟨?_, ?_, ?_, ?_⟩
    . intro other
      constructor
      . intro h
        injection h with h
        rw [← h]
        exact ⟨hauth, hholds⟩
      . intro h
        rw [hunique hauth h.1]
    . simp only [reduceCtorEq, false_iff, not_not]
      exact ⟨user, hauth⟩
    . simp only [reduceCtorEq, false_iff]
      rintro ⟨other, hother, hnot⟩
      rw [hunique hauth hother] at hnot
      exact hnot hholds
    . intro e h
      injection h
  . rw [h403]
    refine ⟨?_, ?_, ?_, ?_⟩
    . intro other
      simp only [reduceCtorEq, false_iff]
      rintro ⟨hother, hthere⟩
      rw [hunique hauth hother] at hthere
      exact hholds hthere
    . simp only [Except.error.injEq, Raised.http.injEq, unauthorized_ne_forbidden.symm, false_iff,
        not_not]
      exact ⟨user, hauth⟩
    . simp only [true_iff]
      exact ⟨user, hauth, hholds⟩
    . intro e h
      injection h with h
      exact Or.inr h.symm
  . rw [h401]
    refine ⟨?_, ?_, ?_, ?_⟩
    . intro other
      simp only [reduceCtorEq, false_iff]
      rintro ⟨hother, _⟩
      exact hnone ⟨other, hother⟩
    . simp only [true_iff]
      exact hnone
    . simp only [Except.error.injEq, Raised.http.injEq, unauthorized_ne_forbidden, false_iff]
      rintro ⟨other, hother, _⟩
      exact hnone ⟨other, hother⟩
    . intro e h
      injection h with h
      exact Or.inl h.symm

section

def plainBearer (header : Option Str) : Option HTTPAuthorizationCredentials :=
  header.bind fun text =>
    match text.span (· ≠ cp ' ') with
    | (scheme, _ :: c :: credentials) =>
      if asciiLower scheme = ofString "bearer" then some ⟨scheme, c :: credentials⟩ else none
    | _ => none

theorem blank_not_mem {scheme : Str} (h : asciiLower scheme = ofString "bearer") : cp ' ' ∉ scheme := by
  intro hmem
  have hlower : cp ' ' ∈ asciiLower scheme := List.mem_map.mpr ⟨cp ' ', hmem, rfl⟩
  rw [h] at hlower
  revert hlower
  decide

theorem span_append_blank {scheme rest : Str} (h : cp ' ' ∉ scheme)
    : (scheme ++ cp ' ' :: rest).span (· ≠ cp ' ') = (scheme, cp ' ' :: rest) := by
  have hall : ∀ c ∈ scheme, (decide (c ≠ cp ' ')) = true := by
    intro c hc
    rw [decide_eq_true_eq]
    intro heq
    rw [heq] at hc
    exact h hc
  rw [List.span_eq_takeWhile_dropWhile, List.takeWhile_append_of_pos hall,
    List.dropWhile_append_of_pos hall]
  simp

theorem plainBearer_documented : BearerDocumented plainBearer id where
  of_some := by
    intro header c h
    rw [plainBearer, Option.bind_eq_some_iff] at h
    rcases h with ⟨text, hheader, h⟩
    split at h
    . next scheme blank d credentials hspan =>
      split at h
      . rw [Option.some.injEq] at h
        rw [List.span_eq_takeWhile_dropWhile, Prod.mk.injEq] at hspan
        have hblank : blank = cp ' ' := by
          have hhead := List.head?_dropWhile_not (· ≠ cp ' ') text
          rw [hspan.2] at hhead
          simpa using hhead
        refine ⟨d :: credentials, ?_, ?_, ?_⟩
        . rw [hheader, ← h, ← hblank, ← hspan.1, ← hspan.2, List.takeWhile_append_dropWhile]
        . rw [← h]
          rfl
        . rw [← h]
          apply List.cons_ne_nil
      . injection h
    . injection h
  of_bearer := by
    intro scheme rest hscheme hrest
    rw [plainBearer, Option.bind_some, span_append_blank (blank_not_mem hscheme)]
    cases rest with
    | nil => exact absurd rfl hrest
    | cons c rest =>
      simp only
      rw [if_pos hscheme]
      rfl

def operatorSettings : AuthSettings where
  authSecretKey := ofString "correct-horse-battery-staple-0123"

def operatorToken : Str :=
  ofString "eyJhbGciOiJIUzI1NiIsInR5cCI6IkpXVCJ9"
    ++ cp '.' :: ofString "eyJzdWIiOiIwMDAwMDAwMC0wMDAwLTAwMDAtMDAwMC0wMDAwMDAwMDAwMDEiLCJ0eXAi"
    ++ ofString "OiJhY2Nlc3MiLCJpYXQiOjE3NjAwMDAwMDAsImV4cCI6MTc2MDAwMzYwMH0"
    ++ cp '.' :: ofString "KDqEjQcJpfqRTwAQ2gT-WhuSCwHTKri72vqlTaJ6zvU"

def operatorClaims : Dict where
  items := [
    (.str (ofString "sub"), .str (ofString "00000000-0000-0000-0000-000000000001")),
    (.str (ofString "typ"), .str (ofString "access")),
    (.str (ofString "iat"), .int 1760000000),
    (.str (ofString "exp"), .int 1760003600)]
  wellFormed := by decide

def operatorJwt : PyJWT where
  decode token key algorithms require :=
    if token = operatorToken ∧ key = operatorSettings.authSecretKey ∧ ofString "HS256" ∈ algorithms
        ∧ ∀ claim ∈ require, has operatorClaims claim = true then
      .ok operatorClaims
    else
      .error .pyJWTError

def operatorVerifies (token key : Str) (algorithms : List Str) (claims : Dict) : Prop :=
  token = operatorToken ∧ key = operatorSettings.authSecretKey ∧ ofString "HS256" ∈ algorithms
    ∧ claims = operatorClaims

def expiredAtIssue (claims : Dict) : Prop :=
  ∀ n, Value.get? claims.items EXPIRY_CLAIM = some (.int n) → n ≤ 1760000000

theorem operatorClaims_not_expired : ¬expiredAtIssue operatorClaims := by
  intro h
  have hle := h 1760003600 rfl
  omega

theorem operatorJwt_documented : operatorJwt.Documented operatorVerifies expiredAtIssue where
  decode_eq_ok := by
    intro token key algorithms require claims
    simp only [operatorJwt, operatorVerifies]
    constructor
    . intro h
      split at h
      . next hverifies =>
        injection h with h
        rw [← h]
        exact ⟨⟨hverifies.1, hverifies.2.1, hverifies.2.2.1, rfl⟩, operatorClaims_not_expired,
          hverifies.2.2.2⟩
      . injection h
    . rintro ⟨⟨htoken, hkey, halgorithms, hclaims⟩, _, hrequired⟩
      rw [hclaims] at hrequired
      rw [if_pos ⟨htoken, hkey, halgorithms, hrequired⟩, hclaims]
  decode_eq_error := by
    intro token key algorithms require e h
    simp only [operatorJwt] at h
    split at h
    . injection h
    . injection h with h
      exact h.symm

def operator : User :=
  ⟨1, ofString "operator", ofString "$argon2id$", true⟩

def operatorAccounts : Accounts where
  users := ⟨[operator], by simp⟩
  applicationRoles := ⟨[⟨2, ofString "operator", ofString "Operator"⟩], by simp⟩
  permissions := ⟨[⟨3, ofString "events:read", ofString "Read events"⟩], by simp⟩
  applicationRolePermissions := ⟨[⟨2, 3⟩], by simp⟩
  userApplicationRoles := ⟨[⟨1, 2⟩], by simp⟩
  uq_users_username := by simp
  uq_application_roles_code := by simp
  uq_application_roles_name := by simp
  uq_permissions_code := by simp
  uq_permissions_name := by simp
  fk_application_role_permissions_application_role_id := by simp
  fk_application_role_permissions_permission_id := by simp
  fk_user_application_roles_user_id := by simp [operator]
  fk_user_application_roles_application_role_id := by simp

theorem requirePermission_operator :
    requirePermission (ofString "events:read") operatorJwt operatorSettings plainBearer
        (some (ofString "BEARER" ++ cp ' ' :: operatorToken)) operatorAccounts
      = .ok operator := by
  apply ((requirePermission_decides operatorJwt_documented plainBearer_documented rfl _ _ _).1
    operator).mpr
  constructor
  . constructor
    . refine ⟨operatorToken, ?_, operatorClaims, ?_, operatorClaims_not_expired, rfl, ?_, _, rfl,
        by decide⟩
      . refine ⟨ofString "BEARER", operatorToken, rfl, by decide, id_eq operatorToken, ?_⟩
        simp [operatorToken]
      . exact ⟨rfl, rfl, List.mem_cons_self, rfl⟩
      . rw [← accessType_iff]
        rfl
    . apply List.mem_cons_self
    . rfl
  . rw [← userHasPermission_iff]
    decide

end

end Api
