import Ketabdaneh.Api.Routes.Auth
import Ketabdaneh.Api.Services.Lemmas.Authenticate
import Ketabdaneh.Api.Services.Lemmas.Token

/-!
This module contains how a login is answered.
-/

namespace Api

open Python Text Transaction AccountService

theorem storable_normalizeUsername {username : Str} (h : encodable username = true)
    : storable (normalizeUsername username) = true ↔ cp '\x00' ∉ username := by
  have hstrip : encodable (strip username) = true := by
    rw [encodable, List.all_eq_true] at h ⊢
    intro c hc
    exact h c (mem_of_mem_trimBy hc)
  have hnul : cp '\x00' ∈ normalizeUsername username ↔ cp '\x00' ∈ username := by
    have hzero : cp '\x00' = 0 := rfl
    rw [hzero, normalizeUsername, nul_mem_casefold, strip, mem_trimBy (by decide)]
  rw [storable, normalizeUsername, encodable_casefold hstrip, ← normalizeUsername]
  simp [hnul]

section

variable {jwt : JwtCodec} {hasher : PasswordHasher} {salt : Salt} {now : Nat}
variable {settings : Config.Settings} {Signs Checks : Str → Str → Prop} {db : Accounts} {user : User}
variable {password : Str}

def Accounts.Accepts (hasher : PasswordHasher) (db : Accounts) (username password : Str) : Prop :=
  ∃ user ∈ db.users.rows, user.username = normalizeUsername username
    ∧ (hasher.verify user.passwordHash password).value = .ok true ∧ user.active = true

/--
A login is answered with a token or the one rejection, exactly if the name has no NUL and a token can
be issued for accepted credentials.
-/
theorem login_answers_iff (hhasher : hasher.Documented) (hjwt : jwt.Documented Signs Checks)
    (hsecure : ensureSecureAuthSecret settings.auth = .ok ()) (payload : LoginRequest)
    : (login jwt hasher salt true now settings payload db = .error (.http loginRejected)
          ∨ ∃ response, login jwt hasher salt true now settings payload db = .ok response)
        ↔
      cp '\x00' ∉ payload.username
        ∧ (db.Accepts hasher payload.username payload.password →
          Signs settings.authSecretKey settings.authAlgorithm
            ∧ HasExpiry now settings.accessTokenExpireMinutes) := by
  have hissue : ∀ user, (∃ token expiresIn, issueAccessToken jwt settings now user
      = .ok (token, expiresIn)) ↔ Signs settings.authSecretKey settings.authAlgorithm
        ∧ HasExpiry now settings.accessTokenExpireMinutes := by
    intro user
    simp only [issueAccessToken_eq_ok]
    constructor
    . rintro ⟨token, _, hexpiry, hencode, _⟩
      exact ⟨hjwt.encode_eq_ok.mp ⟨token, hencode⟩, hexpiry⟩
    . rintro ⟨hsigns, hexpiry⟩
      rcases hjwt.encode_eq_ok.mpr hsigns with ⟨token, hencode⟩
      exact ⟨token, _, hexpiry, hencode, rfl⟩
  have hattempt : Authentication hasher salt true db (normalizeUsername payload.username)
      payload.password (Transaction.call accountSchema.apply db
        (authenticate hasher salt true settings.auth payload.username payload.password)) :=
    authentication_of_secure hsecure
  rw [← storable_normalizeUsername payload.encodable_username]
  unfold login
  dsimp only
  cases hattempt with
  | unsendable hname houtcome => simp [hname, houtcome]
  | unknown hname hfound houtcome hevents =>
    have hrefused : ¬db.Accepts hasher payload.username payload.password := by
      rintro ⟨user, huser, husername, _⟩
      rw [Accounts.userNamed?_eq_some.mpr ⟨huser, husername⟩] at hfound
      injection hfound
    simp [hname, houtcome, hrefused]
  | rejected hname hfound hbad houtcome hevents =>
    have hrefused : ¬db.Accepts hasher payload.username payload.password := by
      rintro ⟨user, huser, husername, hverified, hactive⟩
      rw [Accounts.userNamed?_eq_some.mpr ⟨huser, husername⟩] at hfound
      injection hfound with hfound
      rw [← verifyPassword_eq_true, hfound] at hverified
      rw [hfound] at hactive
      simp [hverified, hactive] at hbad
    simp [hname, houtcome, hrefused]
  | accepted hname hfound hverified hactive houtcome =>
    rw [Accounts.userNamed?_eq_some] at hfound
    have haccepts : db.Accepts hasher payload.username payload.password :=
      ⟨_, hfound.1, hfound.2, verifyPassword_eq_true.mp hverified, hactive⟩
    rcases acceptUser_eq_ok hhasher payload.encodable_password hverified hfound.1 with
      ⟨user, huser⟩
    rw [houtcome, huser, ← hissue user]
    simp only [hname, haccepts, true_and, true_implies]
    cases issueAccessToken jwt settings now user with
    | error e => simp
    | ok issued =>
      rcases issued with ⟨token, expiresIn⟩
      simp

end

section

def memberLogin : LoginRequest where
  username := ofString "A"
  password := ofString "password"
  username_ne_nil := by decide
  password_ne_nil := by decide
  encodable_username := by decide
  encodable_password := by decide

theorem login_answers_member
    : login plainJwt plainHasher 0 true 1790000000000000 defaults memberLogin (singleAccount member)
          = .error (.http loginRejected)
        ∨ ∃ response, login plainJwt plainHasher 0 true 1790000000000000 defaults memberLogin
          (singleAccount member) = .ok response := by
  rw [login_answers_iff plainHasher_documented plainJwt_documented rfl]
  exact ⟨by decide, fun _ => ⟨List.mem_singleton_self _, _, rfl, rfl⟩⟩

def nulLogin : LoginRequest where
  username := ofString "a\x00"
  password := ofString "password"
  username_ne_nil := by decide
  password_ne_nil := by decide
  encodable_username := by decide
  encodable_password := by decide

/-- The driver does not send a text with NUL, and nothing turns its error into an answer. -/
theorem login_nul_unhandled
    : login plainJwt plainHasher 0 true 1790000000000000 defaults nulLogin noAccounts
        =
      .error .unhandled := by
  rfl

end

end Api
