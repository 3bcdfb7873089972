import Ketabdaneh.Api.Worker.Lemmas.Startup
import Ketabdaneh.Library.Python.Json

/-!
This module contains when a token can be issued, and is accepted by the settings it was issued under.
-/

namespace Api

open Python Text

/--
What PyJWT promises of the payloads of access tokens: `Signs` are the keys it signs with under an
algorithm, `Checks` those it takes to verify what it signed.
-/
structure JwtCodec.Documented (jwt : JwtCodec) (Signs Checks : Str → Str → Prop) : Prop where
  encode_eq_ok : ∀ {subject iat exp key algorithm},
    (∃ token, jwt.encode (accessPayload subject iat exp) key algorithm = .ok token)
      ↔ Signs key algorithm
  decode_encode : ∀ {subject iat exp key algorithm token} {clock : Rat},
    jwt.encode (accessPayload subject iat exp) key algorithm = .ok token → Checks key algorithm →
      iat ≤ clock → clock < exp →
        (jwt.decoder clock).decode token key [algorithm] [EXPIRY_CLAIM, SUBJECT_CLAIM]
          = .ok (accessPayload subject iat exp)
  decode_unchecked : ∀ {subject iat exp key algorithm token clock payload},
    jwt.encode (accessPayload subject iat exp) key algorithm = .ok token → ¬Checks key algorithm →
      (jwt.decoder clock).decode token key [algorithm] [EXPIRY_CLAIM, SUBJECT_CLAIM] ≠ .ok payload

/-- The end of a lifetime of so many minutes is a time that Python has. -/
def HasExpiry (now : Nat) (minutes : Int) : Prop :=
  ∃ expiresDelta, timedelta minutes = some expiresDelta
    ∧ (DateTime.ofInstant (now + expiresDelta)).isSome = true

section

variable {jwt : JwtCodec} {Signs Checks : Str → Str → Prop} {settings : Config.Settings}
variable {now later : Nat} {user : User} {token : Str} {expiresIn : Int}

theorem timedelta_eq_some {minutes expiresDelta : Int} (h : timedelta minutes = some expiresDelta)
    : expiresDelta = minutes * 60000000 := by
  unfold timedelta at h
  dsimp only at h
  split at h
  . injection h with h
    exact h.symm
  . injection h

theorem bind_instant {n expiresAt : Int}
    : (DateTime.ofInstant n).bind DateTime.instant = some expiresAt
        ↔
      (DateTime.ofInstant n).isSome = true ∧ expiresAt = n := by
  cases h : DateTime.ofInstant n with
  | none => simp
  | some t =>
    rw [Option.bind_some, DateTime.instant_ofInstant h]
    simp [eq_comm]

theorem seconds_of_minutes (minutes : Int)
    : truncate (trueDiv (minutes * 60000000) 1000000) = 60 * minutes := by
  have hmul : minutes * 60000000 = (60 * minutes) * (1000000 : Nat) := by
    push_cast
    ring
  rw [hmul, trueDiv_mul _ (by decide), truncate_intCast]

def issuedPayload (settings : Config.Settings) (now : Nat) (user : User) : Dict :=
  accessPayload (uuidText user.id) (truncate (timestamp now))
    (truncate (timestamp (now + settings.accessTokenExpireMinutes * 60000000)))

theorem createAccessToken_eq_ok {subject key algorithm : Str} {expiresDelta : Int}
    : createAccessToken jwt now subject key algorithm expiresDelta = .ok (token, expiresIn)
        ↔
      (DateTime.ofInstant (now + expiresDelta)).isSome = true
        ∧ jwt.encode (accessPayload subject (truncate (timestamp now))
            (truncate (timestamp (now + expiresDelta)))) key algorithm = .ok token
        ∧ expiresIn = truncate (trueDiv expiresDelta 1000000) := by
  unfold createAccessToken
  cases hexpires : (DateTime.ofInstant (now + expiresDelta)).bind DateTime.instant with
  | none =>
    have hnone : (DateTime.ofInstant (now + expiresDelta)).isSome ≠ true := by
      intro hsome
      rw [bind_instant.mpr ⟨hsome, rfl⟩] at hexpires
      injection hexpires
    simp [hnone]
  | some expiresAt =>
    rw [bind_instant] at hexpires
    rcases hexpires with ⟨hsome, rfl⟩
    dsimp only
    split
    . next e he => simp [he]
    . next made hmade => simp [hsome, hmade, eq_comm]

theorem issueAccessToken_eq_ok
    : issueAccessToken jwt settings now user = .ok (token, expiresIn)
        ↔
      HasExpiry now settings.accessTokenExpireMinutes
        ∧ jwt.encode (issuedPayload settings now user) settings.authSecretKey settings.authAlgorithm
          = .ok token
        ∧ expiresIn = 60 * settings.accessTokenExpireMinutes := by
  unfold issueAccessToken HasExpiry issuedPayload
  cases hdelta : timedelta settings.accessTokenExpireMinutes with
  | none => simp
  | some expiresDelta =>
    dsimp only
    rw [createAccessToken_eq_ok, timedelta_eq_some hdelta, seconds_of_minutes]
    simp

theorem uuidText_ne_nil (id : UUID) : uuidText id ≠ [] := by
  simp [uuidText]

theorem decodeAccessToken_accessPayload {decoder : PyJWT} {subject key algorithm : Str} {iat exp : Int}
    (hsubject : subject ≠ [])
    (h : decoder.decode token key [algorithm] [EXPIRY_CLAIM, SUBJECT_CLAIM]
      = .ok (accessPayload subject iat exp))
    : decodeAccessToken decoder token key algorithm = .ok subject := by
  simp only [decodeAccessToken, algorithms_eq, h]
  have htype : (Value.get? (accessPayload subject iat exp).items TOKEN_TYPE_CLAIM)
      = some (.str ACCESS_TOKEN_TYPE) := rfl
  have hsub : (Value.get? (accessPayload subject iat exp).items SUBJECT_CLAIM)
      = some (.str subject) := rfl
  rw [htype, hsub]
  simp [Value.eq, hsubject]

/-- The clock of the same second is not before a token was issued, and is before it expires. -/
theorem iat_le (hlater : now ≤ later) (hsecond : now / 1000000 = later / 1000000)
    : (truncate (timestamp now) : Rat) ≤ timestamp later := by
  have hnow : timestamp now = divNat now 1000000 := trueDiv_natCast ..
  have hlater' : timestamp later = divNat later 1000000 := trueDiv_natCast ..
  rw [hnow, hlater']
  apply le_trans (truncate_le (divNat_nonneg ..))
  apply divNat_mono_of_div_eq
  . assumption
  . assumption

theorem lt_exp (hsecond : now / 1000000 = later / 1000000) {minutes : Int} (hminutes : 1 ≤ minutes)
    : timestamp later < truncate (timestamp (now + minutes * 60000000)) := by
  rcases Int.eq_ofNat_of_zero_le (by omega : 0 ≤ minutes) with ⟨n, rfl⟩
  have hexpires : timestamp (now + n * 60000000) = divNat (now + n * 60000000) 1000000 := by
    rw [← trueDiv_natCast]
    push_cast
    rfl
  have hlater : timestamp later = divNat later 1000000 := trueDiv_natCast ..
  have hexp : ((now + n * 60000000) / 1000000 : Nat) ≤ truncate (timestamp (now + n * 60000000)) := by
    rw [hexpires]
    apply le_truncate
    apply le_divNat
  have hlt : (later / 1000000 + 1 : Nat) < (now + n * 60000000) / 1000000 := by
    omega
  calc timestamp later
    _ = divNat later 1000000 := hlater
    _ ≤ ((later / 1000000 + 1 : Nat) : Rat) := divNat_le (by decide)
    _ < (((now + n * 60000000) / 1000000 : Nat) : Rat) := by exact_mod_cast hlt
    _ ≤ (truncate (timestamp (now + n * 60000000)) : Rat) := by
      rw [← Int.cast_natCast, Int.cast_le]
      exact hexp

/--
A token is issued for a time, and accepted in the same second for its user, exactly if PyJWT signs
and checks with the secret and the algorithm, and the lifetime is positive and has an end.
-/
theorem issued_accepted_iff (hjwt : jwt.Documented Signs Checks)
    (hsecure : ensureSecureAuthSecret settings.auth = .ok ()) (hlater : now ≤ later)
    (hsecond : now / 1000000 = later / 1000000)
    : (∃ token expiresIn, issueAccessToken jwt settings now user = .ok (token, expiresIn)
          ∧ 0 < expiresIn
          ∧ resolveTokenSubject (jwt.decoder (timestamp later)) settings.auth token
            = .ok (uuidText user.id))
        ↔
      Signs settings.authSecretKey settings.authAlgorithm
        ∧ Checks settings.authSecretKey settings.authAlgorithm
        ∧ 1 ≤ settings.accessTokenExpireMinutes
        ∧ HasExpiry now settings.accessTokenExpireMinutes := by
  have hresolve : ∀ token, resolveTokenSubject (jwt.decoder (timestamp later)) settings.auth token
      = decodeAccessToken (jwt.decoder (timestamp later)) token settings.authSecretKey
        settings.authAlgorithm := by
    intro token
    rw [resolveTokenSubject, hsecure]
    rfl
  constructor
  . rintro ⟨token, expiresIn, hissue, hpositive, haccept⟩
    rw [issueAccessToken_eq_ok] at hissue
    rcases hissue with ⟨hexpiry, hencode, hseconds⟩
    refine ⟨hjwt.encode_eq_ok.mp ⟨token, hencode⟩, ?_, by omega, hexpiry⟩
    by_contra hchecks
    rw [hresolve] at haccept
    simp only [decodeAccessToken, algorithms_eq] at haccept
    split at haccept
    . injection haccept
    . injection haccept
    . next payload hpayload => exact hjwt.decode_unchecked hencode hchecks hpayload
  . rintro ⟨hsigns, hchecks, hminutes, hexpiry⟩
    rcases hjwt.encode_eq_ok.mpr hsigns with ⟨token, hencode⟩
    refine ⟨token, _, issueAccessToken_eq_ok.mpr ⟨hexpiry, hencode, rfl⟩, by omega, ?_⟩
    rw [hresolve]
    apply decodeAccessToken_accessPayload (uuidText_ne_nil _)
    apply hjwt.decode_encode hencode hchecks
    . apply iat_le
      . assumption
      . assumption
    . apply lt_exp
      . assumption
      . assumption

end

section

/-- A token that is its payload behind its key, which stands for the signature. -/
def plainToken (key subject : Str) (iat exp : Int) : Str :=
  key ++ cp '.' :: (Json.intText iat ++ cp '.' :: (Json.intText exp ++ cp '.' :: subject))

def readSigned (text : Str) : Option Int :=
  match text with
  | [] => none
  | c :: rest =>
    if c = cp '-' then (readDecimal rest).map fun n : Nat => -n
    else (readDecimal text).map fun n : Nat => n

def readPlainToken (key token : Str) : Option Dict :=
  if (key ++ [cp '.']).isPrefixOf token then
    match partition (cp '.') (token.drop (key.length + 1)) with
    | (iat, some rest) =>
      match partition (cp '.') rest with
      | (exp, some subject) => do
        let iat ← readSigned iat
        let exp ← readSigned exp
        return accessPayload subject iat exp
      | _ => none
    | _ => none
  else
    none

def claimInt (payload : Dict) (claim : Str) : Int :=
  match Value.get? payload.items claim with
  | some (.int n) => n
  | _ => 0

/-- The codec of the algorithm that the application knows. -/
def plainJwt : JwtCodec where
  encode payload key algorithm :=
    if algorithm ∈ JWT_ALGORITHMS then
      match Value.get? payload.items SUBJECT_CLAIM with
      | some (.str subject) =>
        .ok (plainToken key subject (claimInt payload IAT_CLAIM) (claimInt payload EXPIRY_CLAIM))
      | _ => .error .other
    else
      .error .other
  decoder clock := {
    decode token key algorithms _ :=
      match readPlainToken key token with
      | some payload =>
        if algorithms = JWT_ALGORITHMS ∧ claimInt payload IAT_CLAIM ≤ clock
            ∧ clock < claimInt payload EXPIRY_CLAIM then
          .ok payload
        else
          .error .pyJWTError
      | none => .error .pyJWTError
  }

theorem partition_append {separator : CodePoint} {s : Str} (rest : Str) (h : separator ∉ s)
    : partition separator (s ++ separator :: rest) = (s, some rest) := by
  have hall : ∀ c ∈ s, decide (c ≠ separator) = true := by
    intro c hc
    rw [decide_eq_true_eq]
    exact ne_of_mem_of_not_mem hc h
  unfold partition
  rw [List.dropWhile_append_of_pos hall, List.takeWhile_append_of_pos hall]
  simp

theorem digitValue_none_not_mem_decimal {c : CodePoint} (n : Nat) (h : digitValue c = none)
    : c ∉ decimal n := by
  intro hmem
  have hdigit := isSome_digitValue_of_mem_decimal c hmem
  rw [h] at hdigit
  injection hdigit

theorem dot_not_mem_intText (n : Int) : cp '.' ∉ Json.intText n := by
  have hdecimal := digitValue_none_not_mem_decimal n.natAbs (c := cp '.') (by decide)
  unfold Json.intText
  split
  . rw [List.mem_cons, not_or]
    exact ⟨by decide, hdecimal⟩
  . assumption

theorem readDecimal_decimal (n : Nat) : readDecimal (decimal n) = some n := by
  rw [readDecimal, if_neg (decimal_ne_nil n), readDigits_decimal]

theorem readSigned_intText (n : Int) : readSigned (Json.intText n) = some n := by
  unfold Json.intText
  split
  . next h =>
    simp only [readSigned, if_true, readDecimal_decimal, Option.map_some, Option.some.injEq]
    omega
  . next h =>
    have hminus := digitValue_none_not_mem_decimal n.natAbs (c := cp '-') (by decide)
    cases htext : decimal n.natAbs with
    | nil => exact absurd htext (decimal_ne_nil _)
    | cons c rest =>
      rw [htext, List.mem_cons, not_or] at hminus
      rw [readSigned, if_neg (Ne.symm hminus.1), ← htext, readDecimal_decimal, Option.map_some,
        Option.some.injEq]
      omega

theorem readPlainToken_plainToken (key subject : Str) (iat exp : Int)
    : readPlainToken key (plainToken key subject iat exp) = some (accessPayload subject iat exp) := by
  unfold readPlainToken plainToken
  have hprefix : (key ++ [cp '.']).isPrefixOf
      (key ++ cp '.' :: (Json.intText iat ++ cp '.' :: (Json.intText exp ++ cp '.' :: subject)))
      = true := by
    rw [List.isPrefixOf_iff_prefix]
    exact ⟨_, List.append_assoc ..⟩
  rw [if_pos hprefix, List.drop_length_add_append, List.drop_one, List.tail_cons,
    partition_append _ (dot_not_mem_intText iat)]
  dsimp only
  rw [partition_append _ (dot_not_mem_intText exp)]
  dsimp only
  rw [readSigned_intText, readSigned_intText]
  rfl

theorem encode_plainJwt {key subject algorithm : Str} {iat exp : Int}
    : plainJwt.encode (accessPayload subject iat exp) key algorithm
        =
      if algorithm ∈ JWT_ALGORITHMS then .ok (plainToken key subject iat exp)
      else .error .other := rfl

theorem plainJwt_documented
    : plainJwt.Documented (fun _ algorithm => algorithm ∈ JWT_ALGORITHMS)
        (fun _ algorithm => algorithm ∈ JWT_ALGORITHMS) where
  encode_eq_ok := by
    intro subject iat exp key algorithm
    rw [encode_plainJwt]
    split
    . next h => simp [h]
    . next h => simp [h]
  decode_encode := by
    intro subject iat exp key algorithm token clock hencode hchecks hiat hexp
    rw [encode_plainJwt, if_pos hchecks, Except.ok.injEq] at hencode
    have halgorithm : [algorithm] = JWT_ALGORITHMS := by
      rw [← algorithms_eq, if_pos hchecks]
    simp only [plainJwt, ← hencode, readPlainToken_plainToken]
    rw [if_pos]
    exact ⟨halgorithm, hiat, hexp⟩
  decode_unchecked := by
    intro subject iat exp key algorithm token clock payload hencode hchecks
    rw [encode_plainJwt, if_neg hchecks] at hencode
    injection hencode

def holder : User where
  id := 1
  username := ofString "a"
  passwordHash := []
  active := true

/-- Under the defaults, in the last microsecond of a second. -/
theorem issued_accepted_defaults
    : ∃ token expiresIn,
        issueAccessToken plainJwt defaults 1790000000000000 holder = .ok (token, expiresIn)
          ∧ 0 < expiresIn
          ∧ resolveTokenSubject (plainJwt.decoder (timestamp (1790000000999999 : Nat))) defaults.auth
            token = .ok (uuidText holder.id) := by
  rw [issued_accepted_iff plainJwt_documented (by rfl) (by decide) (by decide)]
  exact ⟨List.mem_singleton_self _, List.mem_singleton_self _, by decide, _, rfl, rfl⟩

/-- A lifetime of no minutes is admitted. -/
theorem zero_minutes_admitted
    : ∃ settings, Config.load plainReaders
          (environmentOf [(ofString "access_token_expire_minutes", ofString "0")]) = .ok settings
        ∧ ensureSecureAuthSecret settings.auth = .ok ()
        ∧ ¬∃ token expiresIn,
          issueAccessToken plainJwt settings 1790000000000000 holder = .ok (token, expiresIn)
            ∧ 0 < expiresIn
            ∧ resolveTokenSubject (plainJwt.decoder (timestamp (1790000000000000 : Nat)))
              settings.auth token = .ok (uuidText holder.id) := by
  have hload : ∃ settings, Config.load plainReaders
        (environmentOf [(ofString "access_token_expire_minutes", ofString "0")]) = .ok settings
      ∧ ensureSecureAuthSecret settings.auth = .ok ()
      ∧ settings.accessTokenExpireMinutes = 0 := ⟨_, rfl, rfl, rfl⟩
  rcases hload with ⟨settings, hload, hsecure, hminutes⟩
  refine ⟨settings, hload, hsecure, ?_⟩
  rintro ⟨token, expiresIn, hissue, hpositive, _⟩
  rw [issueAccessToken_eq_ok, hminutes] at hissue
  omega

end

end Api
