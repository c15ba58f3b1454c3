import Mathlib.Logic.Function.Basic

/-!
# The crypto helpers, by their contract

`@/utils/crypto` is not part of this snapshot: `encryptSecretValueWithKey`, `decryptSecretValueWithKey`,
`deriveKeyFromSecret` and `isEncryptedSecret` are given by their contract, as fields of `Crypto` with the laws
beside them.  `V` is the type of JSON values a `secret` column holds (plaintext objects and envelopes alike), `K` of
keys and `I` of the random IVs an encryption draws.

`sealedCrypto` is one instance, in which an envelope records its key and plaintext.
-/

namespace Archestra

/-- The helpers and their contract: decryption under the key of the encryption gives the plaintext back, under any
other key it throws (`none`), keys of distinct secrets differ, and an encryption is an envelope. -/
structure Crypto (K V I : Type) where
  deriveKeyFromSecret : String → K
  encryptSecretValueWithKey : V → K → I → V
  decryptSecretValueWithKey : V → K → Option V
  isEncryptedSecret : V → Bool
  decrypt_encrypt : ∀ p k iv, decryptSecretValueWithKey (encryptSecretValueWithKey p k iv) k = some p
  decrypt_encrypt_of_ne : ∀ p k k' iv, k' ≠ k →
    decryptSecretValueWithKey (encryptSecretValueWithKey p k iv) k' = none
  deriveKeyFromSecret_injective : Function.Injective deriveKeyFromSecret
  isEncryptedSecret_encrypt : ∀ p k iv, isEncryptedSecret (encryptSecretValueWithKey p k iv) = true

namespace Crypto

variable {K V I : Type} (crypto : Crypto K V I)

/-- The value is an envelope of some plaintext under `k`. -/
def SealedUnder (k : K) (v : V) : Prop := ∃ p iv, v = crypto.encryptSecretValueWithKey p k iv

/-- What a stored value stands for under `k`: the decryption of an envelope, or the value itself. -/
def plaintextOf (k : K) (v : V) : Option V :=
  if crypto.isEncryptedSecret v then crypto.decryptSecretValueWithKey v k else some v

theorem SealedUnder.isEncrypted {k : K} {v : V} (h : crypto.SealedUnder k v) : crypto.isEncryptedSecret v = true := by
  obtain ⟨p, iv, rfl⟩ := h
  exact crypto.isEncryptedSecret_encrypt p k iv

theorem sealedUnder_encrypt (p : V) (k : K) (iv : I) : crypto.SealedUnder k (crypto.encryptSecretValueWithKey p k iv) :=
  ⟨p, iv, rfl⟩

@[simp] theorem plaintextOf_encrypt (p : V) (k : K) (iv : I) :
    crypto.plaintextOf k (crypto.encryptSecretValueWithKey p k iv) = some p := by
  simp [plaintextOf, crypto.isEncryptedSecret_encrypt, crypto.decrypt_encrypt]

end Crypto

/-- A value of the instance: an object, or an envelope recording its key, its IV and its plaintext. -/
inductive SealedValue where
  | object (n : Nat)
  | envelope (key : String) (iv : Nat) (payload : SealedValue)
  deriving DecidableEq, Repr

/-- An instance of the contract, the key of a secret being the secret itself. -/
def sealedCrypto : Crypto String SealedValue Nat where
  deriveKeyFromSecret := id
  encryptSecretValueWithKey p k iv := .envelope k iv p
  decryptSecretValueWithKey
    | .envelope k' _ p, k => if k' = k then some p else none
    | .object _, _ => none
  isEncryptedSecret
    | .envelope .. => true
    | .object _ => false
  decrypt_encrypt _ _ _ := if_pos rfl
  decrypt_encrypt_of_ne _ _ _ _ h := if_neg (Ne.symm h)
  deriveKeyFromSecret_injective _ _ h := h
  isEncryptedSecret_encrypt _ _ _ := rfl

end Archestra
