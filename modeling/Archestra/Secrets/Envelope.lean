import Archestra.Secrets.Rotation
import Archestra.Js.Code

/-!
# The envelope format, modelled from the spec

`@/utils/crypto` is not among the sources.  The spec fixes the format of its envelopes: `isEncryptedSecret`
accepts exactly an object `{ __encrypted: s }` whose string starts with `v1:`; `decryptSecretValueWithKey` splits `s`
into exactly four colon-separated parts, `v1` first, and opens the other three with the cipher;
`encryptSecretValueWithKey` seals the plaintext and joins `v1` and the three base64url parts.  The cipher is a
parameter with its contract (`Cipher`).

* `envelopeCrypto`: these helpers meet the contract `Crypto` for every cipher that meets its own, and `codeCipher`
  is one;
* `legacy_envelope_shaped_secret_misread`: a plaintext object `{ __encrypted: "v1:legacy" }` is taken for an
  envelope: reading it throws and a rotation rejects;
* `plaintext_secret_read_and_rotated`: a secret `isEncryptedSecret` rejects reads back unchanged, and a rotation that
  resolves leaves in its place an envelope of it under the new key.
-/

namespace Archestra

/-- Modelled from the spec: the authenticated cipher of `@/utils/crypto`, which is not among the sources.  Sealing
a plaintext under a key with an IV gives the base64url parts `<iv>`, `<authTag>`, `<ciphertext>`, none with a colon;
opening checks the tag, so it gives the plaintext back under the sealing key and fails under any other. -/
structure Cipher (K I : Type) where
  deriveKeyFromSecret : String → K
  encipher : Js.Value → K → I → List Char × List Char × List Char
  decipher : List Char × List Char × List Char → K → Option Js.Value
  decipher_encipher : ∀ p k iv, decipher (encipher p k iv) k = some p
  decipher_encipher_of_ne : ∀ p k k' iv, k' ≠ k → decipher (encipher p k iv) k' = none
  deriveKeyFromSecret_injective : Function.Injective deriveKeyFromSecret
  base64url : ∀ p k iv, ':' ∉ (encipher p k iv).1 ∧ ':' ∉ (encipher p k iv).2.1 ∧ ':' ∉ (encipher p k iv).2.2

namespace Envelope

/-- Modelled from the spec: the string `v1:<iv>:<authTag>:<ciphertext>` of an envelope. -/
def envelopeString (parts : List Char × List Char × List Char) : String :=
  String.mk ([':'].intercalate ["v1".toList, parts.1, parts.2.1, parts.2.2])

/-- Modelled from the spec: `isEncryptedSecret(value)`, true only for the exact shape `{ __encrypted: string }` with
the string starting with `v1:`. -/
def isEncryptedSecret : Js.Value → Bool
  | .obj [("__encrypted", .str s)] => "v1:".toList.isPrefixOf s.toList
  | _ => false

/-- Modelled from the spec: the parts of `decryptSecretValueWithKey`'s split, exactly four and `v1` first; anything
else is "Invalid encrypted secret format". -/
def envelopeParts (s : String) : Option (List Char × List Char × List Char) :=
  match s.toList.splitOn ':' with
  | [v, iv, authTag, ciphertext] => if v = "v1".toList then some (iv, authTag, ciphertext) else none
  | _ => none

variable {K I : Type} (cipher : Cipher K I)

/-- Modelled from the spec: `encryptSecretValueWithKey(plaintext, key)`. -/
def encryptSecretValueWithKey (plaintext : Js.Value) (key : K) (iv : I) : Js.Value :=
  .obj [("__encrypted", .str (envelopeString (cipher.encipher plaintext key iv)))]

/-- Modelled from the spec: `decryptSecretValueWithKey(wrapper, key)`; `none` when it throws. -/
def decryptSecretValueWithKey (wrapper : Js.Value) (key : K) : Option Js.Value :=
  match wrapper with
  | .obj [("__encrypted", .str s)] => (envelopeParts s).bind fun parts => cipher.decipher parts key
  | _ => none

theorem envelopeParts_envelopeString (p : Js.Value) (k : K) (iv : I) :
    envelopeParts (envelopeString (cipher.encipher p k iv)) = some (cipher.encipher p k iv) := by
  obtain ⟨ha, hb, hc⟩ := cipher.base64url p k iv
  have hsplit : (envelopeString (cipher.encipher p k iv)).toList.splitOn ':' =
      ["v1".toList, (cipher.encipher p k iv).1, (cipher.encipher p k iv).2.1, (cipher.encipher p k iv).2.2] := by
    refine List.splitOn_intercalate _ ':' (fun l hl => ?_) (List.cons_ne_nil _ _)
    simp only [List.mem_cons, List.mem_singleton, List.not_mem_nil, or_false] at hl
    rcases hl with rfl | rfl | rfl | rfl
    exacts [by decide, ha, hb, hc]
  simp only [envelopeParts, hsplit, if_true]

theorem decrypt_encrypt (p : Js.Value) (k k' : K) (iv : I) :
    decryptSecretValueWithKey cipher (encryptSecretValueWithKey cipher p k iv) k' = cipher.decipher (cipher.encipher p k iv) k' := by
  simp only [decryptSecretValueWithKey, encryptSecretValueWithKey, envelopeParts_envelopeString, Option.some_bind]

theorem isEncryptedSecret_encrypt (p : Js.Value) (k : K) (iv : I) :
    isEncryptedSecret (encryptSecretValueWithKey cipher p k iv) = true := by
  simp only [isEncryptedSecret, encryptSecretValueWithKey, envelopeString, List.isPrefixOf_iff_prefix]
  simp [List.intercalate]

/-- The envelope helpers modelled from the spec meet the contract of the crypto helpers. -/
def envelopeCrypto : Crypto K Js.Value I where
  deriveKeyFromSecret := cipher.deriveKeyFromSecret
  encryptSecretValueWithKey := encryptSecretValueWithKey cipher
  decryptSecretValueWithKey := decryptSecretValueWithKey cipher
  isEncryptedSecret := isEncryptedSecret
  decrypt_encrypt p k iv := (decrypt_encrypt cipher p k k iv).trans (cipher.decipher_encipher p k iv)
  decrypt_encrypt_of_ne p k k' iv h := (decrypt_encrypt cipher p k k' iv).trans (cipher.decipher_encipher_of_ne p k k' iv h)
  deriveKeyFromSecret_injective := cipher.deriveKeyFromSecret_injective
  isEncryptedSecret_encrypt := isEncryptedSecret_encrypt cipher

/-- One cipher that meets the contract: the IV part is the code of the IV, the tag the code of the key, the
ciphertext the code of the plaintext, and opening checks the tag against the key. -/
def codeCipher : Cipher String Nat where
  deriveKeyFromSecret := id
  encipher p k iv := (Js.encode (.num iv), Js.encodeString k, Js.encode p)
  decipher parts k := if parts.2.1 = Js.encodeString k then Js.decode parts.2.2 else none
  decipher_encipher p k iv := by simp [Js.decode_encode]
  decipher_encipher_of_ne p k k' iv h := by simp [Js.encodeString_injective.ne h.symm]
  deriveKeyFromSecret_injective := Function.injective_id
  base64url p k iv := ⟨Js.colon_not_mem_encode _, Js.colon_not_mem_encodeString k, Js.colon_not_mem_encode p⟩

/-- A plaintext object `{ __encrypted: "v1:legacy" }`: `isEncryptedSecret` takes it for an envelope, so reading its
row throws and a rotation rejects; the cipher is never reached, as the string does not split into four parts. -/
theorem legacy_envelope_shaped_secret_misread :
    isEncryptedSecret (.obj [("__encrypted", .str "v1:legacy")]) = true ∧
      SecretModel.decryptSecretRow (envelopeCrypto codeCipher) "auth"
        ⟨0, "legacy", .obj [("__encrypted", .str "v1:legacy")]⟩ = none ∧
      (rotateSecretEncryptionKey (envelopeCrypto codeCipher)
        ⟨[⟨0, "legacy", .obj [("__encrypted", .str "v1:legacy")]⟩], 1, by decide, by decide⟩
        "old" "new" false id).1 = .error .decryptFailed :=
  ⟨rfl, rfl, rfl⟩

end Envelope

/-- For all crypto helpers that meet the contract: a row whose value `isEncryptedSecret` rejects reads back
unchanged, and a rotation that resolves leaves in its place, under its id and name, an envelope that decrypts under
the new key to that value. -/
theorem plaintext_secret_read_and_rotated {K V I : Type} (crypto : Crypto K V I) (authSecret : String)
    (table : SecretTable V) (oldSecret newSecret : String) (iv : Nat → I) (row : SecretRow V)
    (hrow : row ∈ table.rows) (hplain : crypto.isEncryptedSecret row.secret = false) :
    SecretModel.decryptSecretRow crypto authSecret row = some row ∧
      ∀ counts, (rotateSecretEncryptionKey crypto table oldSecret newSecret false iv).1 = .ok counts →
        ∃ r' ∈ (rotateSecretEncryptionKey crypto table oldSecret newSecret false iv).2.1.rows,
          r'.id = row.id ∧ r'.name = row.name ∧ crypto.isEncryptedSecret r'.secret = true ∧
            crypto.decryptSecretValueWithKey r'.secret (crypto.deriveKeyFromSecret newSecret) = some row.secret := by
  refine ⟨by simp [SecretModel.decryptSecretRow, hplain], fun counts hok => ?_⟩
  by_cases heq : oldSecret = newSecret
  · simp only [rotateSecretEncryptionKey, heq, if_true, reduceCtorEq] at hok
  by_cases hall : ∀ r ∈ table.rows, (crypto.plaintextOf (crypto.deriveKeyFromSecret oldSecret) r.secret).isSome
  · obtain ⟨t', post, hrun, hrows, hrel⟩ := Rotation.reencryptRows_ok crypto (crypto.deriveKeyFromSecret oldSecret)
      (crypto.deriveKeyFromSecret newSecret) iv table.rows 0 table [] 0 0 rfl hall
    obtain ⟨r', hr', hid, hname, p, i, hp, hs⟩ := Rotation.exists_reencrypted_of_mem crypto _ _ hrel hrow
    obtain rfl : row.secret = p := by simpa [Crypto.plaintextOf, hplain] using hp
    simp only [rotateSecretEncryptionKey, heq, if_false, Bool.false_eq_true, hrun, hrows, List.nil_append]
    exact ⟨r', hr', hid, hname, hs ▸ crypto.isEncryptedSecret_encrypt _ _ i, hs ▸ crypto.decrypt_encrypt _ _ i⟩
  · push_neg at hall
    obtain ⟨r, hr, hnone⟩ := hall
    have hloop := Rotation.reencryptRows_eq_none crypto (crypto.deriveKeyFromSecret oldSecret)
      (crypto.deriveKeyFromSecret newSecret) iv table.rows ⟨r, hr, by simpa using hnone⟩ 0 table (0, 0)
    simp only [rotateSecretEncryptionKey, heq, if_false, Bool.false_eq_true, hloop, reduceCtorEq] at hok

/-- A plaintext object, read back and rotated into an envelope under the new key. -/
theorem plaintext_secret_read_and_rotated_object :
    sealedCrypto.isEncryptedSecret (.object 2) = false ∧
      ∃ r' ∈ (rotateSecretEncryptionKey sealedCrypto ⟨[⟨0, "b", .object 2⟩], 1, by decide, by decide⟩
          "old" "new" false id).2.1.rows,
        r'.id = 0 ∧ r'.name = "b" ∧ sealedCrypto.isEncryptedSecret r'.secret = true ∧
          sealedCrypto.decryptSecretValueWithKey r'.secret (sealedCrypto.deriveKeyFromSecret "new") = some (.object 2) :=
  ⟨by decide, (plaintext_secret_read_and_rotated sealedCrypto "auth" ⟨[⟨0, "b", .object 2⟩], 1, by decide, by decide⟩
    "old" "new" id ⟨0, "b", .object 2⟩ (by decide) (by decide)).2 ⟨1, 0, 1⟩ rfl⟩

end Archestra
