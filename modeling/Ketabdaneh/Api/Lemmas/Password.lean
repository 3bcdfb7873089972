import Ketabdaneh.Api.Core.Security
import Ketabdaneh.Api.Database

/-!
This module contains what the password library promises.
-/

namespace Api

open Text

/-- The field of this number, counted from zero, of an encoded hash. -/
def hashField : Nat → Str → Str
  | 0, encoded => encoded.takeWhile (· ≠ cp '$')
  | n + 1, encoded => hashField n (encoded.dropWhile (· ≠ cp '$')).tail

/-- The bytes of the salt of an encoded hash, which has it in base 64 without padding. -/
def saltLength (encoded : Str) : Nat :=
  (hashField 4 encoded).length * 6 / 8

def MIN_SALT_LENGTH : Nat :=
  8

/--
What argon2-cffi promises: it hashes all texts that have UTF-8 bytes, it computes once to verify one
of these against a hash it made, and it does not compute for a hash it cannot have made.
-/
structure PasswordHasher.Documented (hasher : PasswordHasher) : Prop where
  hash_eq_some : ∀ {salt password}, encodable password = true →
    ∃ passwordHash, (hasher.hash salt password).value = some passwordHash
      ∧ storable passwordHash = true
  verify_made : ∀ {salt made passwordHash password},
    (hasher.hash salt made).value = some passwordHash → encodable password = true →
      (hasher.verify passwordHash password).computations = 1
  verify_short : ∀ {encoded password}, saltLength encoded < MIN_SALT_LENGTH →
    (hasher.verify encoded password).value = .error .other
      ∧ (hasher.verify encoded password).computations = 0
  needsRehash_eq_some : ∀ {encoded password}, (hasher.verify encoded password).value = .ok true →
    ∃ needed, hasher.checkNeedsRehash encoded = some needed

theorem computations_verifyPassword {hasher : PasswordHasher} {passwordHash password : Str}
    : (verifyPassword hasher passwordHash password).computations
        =
      (hasher.verify passwordHash password).computations := by
  unfold verifyPassword
  dsimp only
  split
  . rfl
  . rfl
  . rfl

theorem verifyPassword_eq_true {hasher : PasswordHasher} {passwordHash password : Str}
    : (verifyPassword hasher passwordHash password).value = true
        ↔
      (hasher.verify passwordHash password).value = .ok true := by
  unfold verifyPassword
  dsimp only
  split
  . next h => simp [h]
  . next h => simp [h]
  . next h => simp [h]

section

/-- The parameters of the hasher and a salt of zeros, before a digest. -/
def plainHash (digest : Str) : Str :=
  [[], ofString "argon2id", ofString "v=19", ofString "m=65536,t=3,p=4",
    ofString "AAAAAAAAAAAAAAAAAAAAAA"].foldr (fun field rest => field ++ cp '$' :: rest) digest

/-- A hasher that has the password itself in place of the digest. -/
def plainHasher : PasswordHasher where
  hash _ password :=
    { value := some (plainHash (if storable password then password else [])), computations := 1 }
  verify encoded password :=
    if saltLength encoded < MIN_SALT_LENGTH then
      { value := .error .other }
    else if encoded = plainHash password then
      { value := .ok true, computations := 1 }
    else
      { value := .error .mismatch, computations := 1 }
  checkNeedsRehash encoded := some (hashField 3 encoded ≠ ofString "m=65536,t=3,p=4")

theorem hashField_zero {field : Str} (rest : Str) (h : cp '$' ∉ field)
    : hashField 0 (field ++ cp '$' :: rest) = field := by
  rw [hashField, List.takeWhile_append_of_pos]
  . simp
  . intro c hc
    rw [decide_eq_true_eq]
    exact ne_of_mem_of_not_mem hc h

theorem hashField_succ {n : Nat} {field : Str} (rest : Str) (h : cp '$' ∉ field)
    : hashField (n + 1) (field ++ cp '$' :: rest) = hashField n rest := by
  rw [hashField, List.dropWhile_append_of_pos]
  . simp
  . intro c hc
    rw [decide_eq_true_eq]
    exact ne_of_mem_of_not_mem hc h

theorem saltLength_plainHash (digest : Str) : saltLength (plainHash digest) = 16 := by
  unfold plainHash saltLength
  simp only [List.foldr_cons]
  rw [hashField_succ _ (by decide), hashField_succ _ (by decide), hashField_succ _ (by decide),
    hashField_succ _ (by decide), hashField_zero _ (by decide)]
  rfl

theorem storable_append {s t : Str} (hs : storable s = true) (ht : storable t = true)
    : storable (s ++ t) = true := by
  simp only [storable, encodable, Bool.and_eq_true, List.all_append, Bool.not_eq_true',
    List.contains_eq_mem, List.mem_append, decide_eq_false_iff_not, not_or] at hs ht ⊢
  exact ⟨⟨hs.1, ht.1⟩, hs.2, ht.2⟩

theorem storable_plainHash {digest : Str} (h : storable digest = true)
    : storable (plainHash digest) = true := by
  have happend : plainHash digest = plainHash [] ++ digest := by
    simp [plainHash]
  rw [happend]
  apply storable_append
  . decide
  . assumption

theorem plainHasher_documented : plainHasher.Documented where
  hash_eq_some := by
    intro salt password _
    refine ⟨_, rfl, ?_⟩
    apply storable_plainHash
    split
    . assumption
    . decide
  verify_made := by
    intro salt made passwordHash password hmade _
    injection hmade with hmade
    have hlong : saltLength passwordHash = 16 := by
      rw [← hmade]
      apply saltLength_plainHash
    unfold plainHasher
    dsimp only
    rw [hlong, if_neg (by decide)]
    split
    . rfl
    . rfl
  verify_short := by
    intro encoded password hshort
    unfold plainHasher
    dsimp only
    rw [if_pos hshort]
    exact ⟨rfl, rfl⟩
  needsRehash_eq_some := by
    intro encoded password _
    exact ⟨_, rfl⟩

end

end Api
