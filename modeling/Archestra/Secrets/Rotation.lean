import Archestra.Secrets.SecretModel

/-!
# Rotating the secret encryption key

`rotateSecretEncryptionKey` of the standalone script: it refuses identical secrets before it touches the database,
reads every row of `secret`, and in one transaction re-encrypts each row under the new key, an envelope after
decrypting it under the old key and a plaintext object as it is.  A row that does not decrypt throws and rolls the
transaction back.  The `i`-th encryption of the loop draws the IV `iv i`.

* `reencryptRows_ok`, `reencryptRows_eq_none`: the loop re-encrypts every row in place, or fails on a row that does
  not decrypt;
* `rotateSecretEncryptionKey_spec`: the counts and the re-encrypted table of a rotation, the rollback when a row does
  not decrypt, and the refusal of identical secrets without a statement;
* `rotateSecretEncryptionKey_dryRun`: a dry run writes nothing and resolves or rejects as the rotation does;
* `rotation_invisible`: calls of `SecretModel` under the server's secret, a rotation to another secret, and calls
  after the server restarts with it answer as the plain store does on all the calls.
-/

namespace Archestra

/-- What the rotation resolves with. -/
structure RotationCounts where
  total : Nat
  reEncrypted : Nat
  newlyEncrypted : Nat
  deriving DecidableEq, Repr

/-- Why it rejects: identical secrets, or a row that does not decrypt under the old key. -/
inductive RotationError where
  | identicalSecrets
  | decryptFailed
  deriving DecidableEq, Repr

/-- The statements the rotation sends that read or change the table. -/
inductive RotationStatement where
  | selectAll
  | update (id : Nat)
  | commit
  | rollback
  deriving DecidableEq, Repr

namespace SecretTable

variable {V : Type}

/-- `UPDATE secret SET secret = v WHERE id = id`. -/
def setSecret (t : SecretTable V) (id : Nat) (v : V) : SecretTable V :=
  t.mapRows (fun r => if r.id = id then { r with secret := v } else r) fun r => by dsimp only; split <;> rfl

/-- With distinct ids, the update of a row's id changes that row alone. -/
theorem setSecret_rows {t : SecretTable V} {pre post : List (SecretRow V)} {row : SecretRow V}
    (h : t.rows = pre ++ row :: post) (v : V) :
    (t.setSecret row.id v).rows = pre ++ { row with secret := v } :: post := by
  have hnd := t.ids_nodup
  rw [h, List.map_append, List.map_cons, List.nodup_append, List.nodup_cons] at hnd
  have keep : ∀ xs : List (SecretRow V), row.id ∉ xs.map (·.id) →
      xs.map (fun r => if r.id = row.id then { r with secret := v } else r) = xs := fun xs hx =>
    (List.map_congr_left fun r hr => if_neg fun e => hx (List.mem_map.2 ⟨r, hr, e⟩)).trans (List.map_id _)
  have hpre : row.id ∉ pre.map (·.id) := fun hm => hnd.2.2 hm (List.mem_cons_self _ _)
  simp only [setSecret, mapRows, h, List.map_append, List.map_cons, if_pos rfl, ite_true, keep pre hpre,
    keep post hnd.2.1.1]

end SecretTable

namespace Rotation

variable {K V I : Type} (crypto : Crypto K V I) (oldKey newKey : K) (iv : Nat → I)

/-- The transaction's loop from the `n`-th row on, with the counters `(reEncrypted, newlyEncrypted)` so far: the
counters, the table and the ids updated; `none` when a row does not decrypt. -/
def reencryptRows : Nat → List (SecretRow V) → SecretTable V → Nat × Nat → Option (Nat × Nat × SecretTable V × List Nat)
  | _, [], t, (re, newly) => some (re, newly, t, [])
  | n, row :: rest, t, (re, newly) =>
    let plaintext? := if crypto.isEncryptedSecret row.secret then
      crypto.decryptSecretValueWithKey row.secret oldKey else some row.secret
    match plaintext? with
    | none => none
    | some plaintext =>
      let counts := if crypto.isEncryptedSecret row.secret then (re + 1, newly) else (re, newly + 1)
      let encrypted := crypto.encryptSecretValueWithKey plaintext newKey (iv n)
      (reencryptRows (n + 1) rest (t.setSecret row.id encrypted) counts).map
        fun (re, newly, t, ids) => (re, newly, t, row.id :: ids)

/-- The dry run's loop: the counters, or `none` when a row does not decrypt. -/
def dryRunCounts : List (SecretRow V) → Nat × Nat → Option (Nat × Nat)
  | [], counts => some counts
  | row :: rest, (re, newly) =>
    if crypto.isEncryptedSecret row.secret then
      (crypto.decryptSecretValueWithKey row.secret oldKey).bind fun _ => dryRunCounts rest (re + 1, newly)
    else dryRunCounts rest (re, newly + 1)

/-- `r'` re-encrypts `r`: the same id and name, and an envelope under the new key of the plaintext `r` stands for
under the old key. -/
def Reencrypted (r r' : SecretRow V) : Prop :=
  r'.id = r.id ∧ r'.name = r.name ∧
    ∃ p i, crypto.plaintextOf oldKey r.secret = some p ∧ r'.secret = crypto.encryptSecretValueWithKey p newKey i

/-- The number of envelopes and of plaintext objects among rows. -/
def countEncrypted (rows : List (SecretRow V)) : Nat × Nat :=
  ((rows.filter fun r => crypto.isEncryptedSecret r.secret).length,
    (rows.filter fun r => !crypto.isEncryptedSecret r.secret).length)

/-- When every row decrypts, the loop re-encrypts each row in place, in order, and counts them. -/
theorem reencryptRows_ok (rest : List (SecretRow V)) :
    ∀ (n : Nat) (t : SecretTable V) (pre : List (SecretRow V)) (re newly : Nat), t.rows = pre ++ rest →
      (∀ r ∈ rest, (crypto.plaintextOf oldKey r.secret).isSome) →
      ∃ t' post, reencryptRows crypto oldKey newKey iv n rest t (re, newly) =
          some (re + (countEncrypted crypto rest).1, newly + (countEncrypted crypto rest).2, t', rest.map (·.id)) ∧
        t'.rows = pre ++ post ∧ List.Forall₂ (Reencrypted crypto oldKey newKey) rest post := by
  induction rest with
  | nil => exact fun n t pre re newly ht _ => ⟨t, [], by simp [reencryptRows, countEncrypted], by simpa using ht, .nil⟩
  | cons row rest ih =>
    intro n t pre re newly ht hdec
    obtain ⟨p, hp⟩ := Option.isSome_iff_exists.1 (hdec row (List.mem_cons_self row rest))
    let row' : SecretRow V := { row with secret := crypto.encryptSecretValueWithKey p newKey (iv n) }
    have ht' : (t.setSecret row.id (crypto.encryptSecretValueWithKey p newKey (iv n))).rows = (pre ++ [row']) ++ rest := by
      rw [SecretTable.setSecret_rows ht, List.append_assoc]; rfl
    have hcounts := fun c => ih (n + 1) _ _ (c : Nat × Nat).1 c.2 ht' fun r hr => hdec r (List.mem_cons_of_mem row hr)
    cases hE : crypto.isEncryptedSecret row.secret with
    | true =>
      have hd : crypto.decryptSecretValueWithKey row.secret oldKey = some p := by
        simpa [Crypto.plaintextOf, hE] using hp
      obtain ⟨t', post, hrun, hrows, hrel⟩ := hcounts (re + 1, newly)
      refine ⟨t', row' :: post, ?_, by simpa using hrows, .cons ⟨rfl, rfl, p, iv n, hp, rfl⟩ hrel⟩
      simp [reencryptRows, hE, hd, hrun, countEncrypted, List.filter_cons]
      omega
    | false =>
      obtain rfl : row.secret = p := by simpa [Crypto.plaintextOf, hE] using hp
      obtain ⟨t', post, hrun, hrows, hrel⟩ := hcounts (re, newly + 1)
      refine ⟨t', row' :: post, ?_, by simpa using hrows, .cons ⟨rfl, rfl, _, iv n, hp, rfl⟩ hrel⟩
      simp [reencryptRows, hE, hrun, countEncrypted, List.filter_cons]
      omega

/-- A row that does not decrypt makes the loop fail. -/
theorem reencryptRows_eq_none (rest : List (SecretRow V)) (h : ∃ r ∈ rest, crypto.plaintextOf oldKey r.secret = none) :
    ∀ (n : Nat) (t : SecretTable V) (counts : Nat × Nat), reencryptRows crypto oldKey newKey iv n rest t counts = none := by
  induction rest with
  | nil => simp at h
  | cons row rest ih =>
    intro n t ⟨re, newly⟩
    have hp : (if crypto.isEncryptedSecret row.secret then crypto.decryptSecretValueWithKey row.secret oldKey
        else some row.secret) = crypto.plaintextOf oldKey row.secret := rfl
    cases hrow : crypto.plaintextOf oldKey row.secret with
    | none => simp only [reencryptRows, hp, hrow]
    | some p =>
      obtain ⟨r, hr, hnone⟩ := h
      rcases List.mem_cons.1 hr with rfl | hr
      · simp [hrow] at hnone
      · simp only [reencryptRows, hp, hrow, ih ⟨r, hr, hnone⟩, Option.map_none']

/-- Each row of the loop's input has its re-encryption among the rows the loop leaves. -/
theorem exists_reencrypted_of_mem {rows post : List (SecretRow V)}
    (h : List.Forall₂ (Reencrypted crypto oldKey newKey) rows post) {r : SecretRow V} (hr : r ∈ rows) :
    ∃ r' ∈ post, Reencrypted crypto oldKey newKey r r' := by
  induction h with
  | nil => cases hr
  | cons hab _ ih =>
    rcases List.mem_cons.1 hr with rfl | hr
    · exact ⟨_, List.mem_cons_self _ _, hab⟩
    · obtain ⟨r', hr', hre⟩ := ih hr
      exact ⟨r', List.mem_cons_of_mem _ hr', hre⟩

/-- The dry run's loop computes the counters of the transaction's loop, and fails on the same rows. -/
theorem dryRunCounts_eq (rows : List (SecretRow V)) :
    ∀ (n : Nat) (t : SecretTable V) (re newly : Nat), dryRunCounts crypto oldKey rows (re, newly) =
      (reencryptRows crypto oldKey newKey iv n rows t (re, newly)).map fun r => (r.1, r.2.1) := by
  induction rows with
  | nil => intro n t re newly; rfl
  | cons row rest ih =>
    intro n t re newly
    cases hE : crypto.isEncryptedSecret row.secret with
    | true =>
      cases hd : crypto.decryptSecretValueWithKey row.secret oldKey <;>
        simp [dryRunCounts, reencryptRows, hE, hd, Option.map_map, Function.comp_def]
      exact ih _ _ _ _
    | false => simp [dryRunCounts, reencryptRows, hE, Option.map_map, Function.comp_def]; exact ih _ _ _ _

end Rotation

variable {K V I : Type}

/-- `rotateSecretEncryptionKey({ oldSecret, newSecret, dryRun })`: what it resolves or rejects with, the table
after it, and the statements it sends. -/
def rotateSecretEncryptionKey (crypto : Crypto K V I) (table : SecretTable V) (oldSecret newSecret : String)
    (dryRun : Bool) (iv : Nat → I) : Except RotationError RotationCounts × SecretTable V × List RotationStatement :=
  if oldSecret = newSecret then (.error .identicalSecrets, table, [])
  else
    let oldKey := crypto.deriveKeyFromSecret oldSecret
    let newKey := crypto.deriveKeyFromSecret newSecret
    let rows := table.rows
    if dryRun then
      match Rotation.dryRunCounts crypto oldKey rows (0, 0) with
      | none => (.error .decryptFailed, table, [.selectAll])
      | some (reEncrypted, newlyEncrypted) => (.ok ⟨rows.length, reEncrypted, newlyEncrypted⟩, table, [.selectAll])
    else
      match Rotation.reencryptRows crypto oldKey newKey iv 0 rows table (0, 0) with
      | none => (.error .decryptFailed, table, [.selectAll, .rollback])
      | some (reEncrypted, newlyEncrypted, table', ids) =>
        (.ok ⟨rows.length, reEncrypted, newlyEncrypted⟩, table', .selectAll :: ids.map .update ++ [.commit])

/-- A rotation from `oldSecret` to `newSecret`:
* when the secrets differ and every row is an envelope under the old key or a plaintext object, it resolves with the
  number of rows, of envelopes and of plaintext objects, and every row, in place, keeps its id and name and holds an
  envelope that decrypts under the new key to the plaintext the row stood for;
* when some envelope does not decrypt under the old key, it rejects and leaves every row as it was;
* when the secrets are equal, it rejects before it sends any statement. -/
theorem rotateSecretEncryptionKey_spec (crypto : Crypto K V I) (table : SecretTable V) (oldSecret newSecret : String)
    (iv : Nat → I) :
    (oldSecret ≠ newSecret →
      (∀ r ∈ table.rows, crypto.SealedUnder (crypto.deriveKeyFromSecret oldSecret) r.secret ∨
        crypto.isEncryptedSecret r.secret = false) →
      (rotateSecretEncryptionKey crypto table oldSecret newSecret false iv).1 =
          .ok ⟨table.rows.length, (table.rows.filter fun r => crypto.isEncryptedSecret r.secret).length,
            (table.rows.filter fun r => !crypto.isEncryptedSecret r.secret).length⟩ ∧
        List.Forall₂ (fun r r' => r'.id = r.id ∧ r'.name = r.name ∧ crypto.isEncryptedSecret r'.secret = true ∧
            ∃ p, crypto.plaintextOf (crypto.deriveKeyFromSecret oldSecret) r.secret = some p ∧
              crypto.decryptSecretValueWithKey r'.secret (crypto.deriveKeyFromSecret newSecret) = some p)
          table.rows (rotateSecretEncryptionKey crypto table oldSecret newSecret false iv).2.1.rows) ∧
    ((∃ r ∈ table.rows, crypto.isEncryptedSecret r.secret = true ∧
        crypto.decryptSecretValueWithKey r.secret (crypto.deriveKeyFromSecret oldSecret) = none) →
      (∃ e, (rotateSecretEncryptionKey crypto table oldSecret newSecret false iv).1 = .error e) ∧
        (rotateSecretEncryptionKey crypto table oldSecret newSecret false iv).2.1.rows = table.rows) ∧
    (oldSecret = newSecret → ∀ dryRun,
      (rotateSecretEncryptionKey crypto table oldSecret newSecret dryRun iv).1 = .error .identicalSecrets ∧
        (rotateSecretEncryptionKey crypto table oldSecret newSecret dryRun iv).2.1.rows = table.rows ∧
        (rotateSecretEncryptionKey crypto table oldSecret newSecret dryRun iv).2.2 = []) := by
  refine ⟨fun hne hrows => ?_, fun ⟨r, hr, henc, hdec⟩ => ?_, fun heq _ => by simp [rotateSecretEncryptionKey, heq]⟩
  · have hsome : ∀ r ∈ table.rows, (crypto.plaintextOf (crypto.deriveKeyFromSecret oldSecret) r.secret).isSome := by
      intro r hr
      rcases hrows r hr with ⟨p, i, hp⟩ | hplain
      · simp [hp]
      · simp [Crypto.plaintextOf, hplain]
    obtain ⟨t', post, hrun, hrows', hrel⟩ := Rotation.reencryptRows_ok crypto (crypto.deriveKeyFromSecret oldSecret)
      (crypto.deriveKeyFromSecret newSecret) iv table.rows 0 table [] 0 0 rfl hsome
    simp only [rotateSecretEncryptionKey, hne, if_false, Bool.false_eq_true, hrun, Nat.zero_add, hrows', List.nil_append]
    refine ⟨rfl, hrel.imp fun r r' ⟨hid, hname, p, i, hp, hs⟩ => ⟨hid, hname, ?_, p, hp, ?_⟩⟩
    · rw [hs]; exact crypto.isEncryptedSecret_encrypt p _ i
    · rw [hs]; exact crypto.decrypt_encrypt p _ i
  · by_cases heq : oldSecret = newSecret
    · simp [rotateSecretEncryptionKey, heq]
    · have hnone := Rotation.reencryptRows_eq_none crypto (crypto.deriveKeyFromSecret oldSecret)
        (crypto.deriveKeyFromSecret newSecret) iv table.rows ⟨r, hr, by simp [Crypto.plaintextOf, henc, hdec]⟩ 0 table (0, 0)
      simp only [rotateSecretEncryptionKey, heq, if_false, Bool.false_eq_true, hnone]
      exact ⟨⟨_, rfl⟩, trivial⟩

/-- One envelope under `old` and one plaintext object, both re-encrypted under `new`. -/
example :
    let run := rotateSecretEncryptionKey sealedCrypto
      ⟨[⟨0, "a", .envelope "old" 0 (.object 1)⟩, ⟨1, "b", .object 2⟩], 2, by decide, by decide⟩ "old" "new" false id
    run.1.toOption = some ⟨2, 1, 1⟩ ∧
      run.2.1.rows = [⟨0, "a", .envelope "new" 0 (.object 1)⟩, ⟨1, "b", .envelope "new" 1 (.object 2)⟩] := by
  decide

/-- A dry run from `oldSecret` to a different `newSecret` sends only the read of every row and leaves the table as it
is; it resolves or rejects exactly as the real rotation from the same table does, with the same counts, and both
reject exactly when some envelope does not decrypt under the old key. -/
theorem rotateSecretEncryptionKey_dryRun (crypto : Crypto K V I) (table : SecretTable V) (oldSecret newSecret : String)
    (iv : Nat → I) (hne : oldSecret ≠ newSecret) :
    (rotateSecretEncryptionKey crypto table oldSecret newSecret true iv).2.1 = table ∧
      (rotateSecretEncryptionKey crypto table oldSecret newSecret true iv).2.2 = [.selectAll] ∧
      (rotateSecretEncryptionKey crypto table oldSecret newSecret true iv).1 =
        (rotateSecretEncryptionKey crypto table oldSecret newSecret false iv).1 ∧
      ((∃ e, (rotateSecretEncryptionKey crypto table oldSecret newSecret false iv).1 = .error e) ↔
        ∃ r ∈ table.rows, crypto.isEncryptedSecret r.secret = true ∧
          crypto.decryptSecretValueWithKey r.secret (crypto.deriveKeyFromSecret oldSecret) = none) := by
  have hdry := Rotation.dryRunCounts_eq crypto (crypto.deriveKeyFromSecret oldSecret)
    (crypto.deriveKeyFromSecret newSecret) iv table.rows 0 table 0 0
  have hreal : ∀ e, (rotateSecretEncryptionKey crypto table oldSecret newSecret false iv).1 = .error e ↔
      Rotation.reencryptRows crypto (crypto.deriveKeyFromSecret oldSecret) (crypto.deriveKeyFromSecret newSecret) iv 0
        table.rows table (0, 0) = none ∧ e = .decryptFailed := by
    intro e
    simp only [rotateSecretEncryptionKey, hne, if_false, Bool.false_eq_true]
    split <;> rename_i h <;> simp only [h, Except.error.injEq, true_and, reduceCtorEq, false_and]
    exact eq_comm
  have hframe : (rotateSecretEncryptionKey crypto table oldSecret newSecret true iv).2 = (table, [.selectAll]) := by
    simp only [rotateSecretEncryptionKey, hne, if_false, if_true]
    split <;> rfl
  refine ⟨congrArg Prod.fst hframe, congrArg Prod.snd hframe, ?_, ?_⟩
  · simp only [rotateSecretEncryptionKey, hne, if_false, if_true, Bool.false_eq_true, hdry]
    cases Rotation.reencryptRows crypto (crypto.deriveKeyFromSecret oldSecret) (crypto.deriveKeyFromSecret newSecret) iv 0
      table.rows table (0, 0) <;> rfl
  · simp only [hreal, exists_and_left, exists_eq, and_true]
    constructor
    · intro hnone
      by_contra hall
      push_neg at hall
      obtain ⟨_, _, h, -⟩ := Rotation.reencryptRows_ok crypto (crypto.deriveKeyFromSecret oldSecret)
        (crypto.deriveKeyFromSecret newSecret) iv table.rows 0 table [] 0 0 rfl fun r hr => by
          cases hE : crypto.isEncryptedSecret r.secret <;>
            simp [Crypto.plaintextOf, hE, Option.isSome_iff_ne_none, hall r hr]
      rw [hnone] at h
      cases h
    · rintro ⟨r, hr, henc, hdec⟩
      exact Rotation.reencryptRows_eq_none crypto _ _ iv table.rows ⟨r, hr, by simp [Crypto.plaintextOf, henc, hdec]⟩ 0
        table (0, 0)

/-- Dry run and rotation agree on a table with one envelope under `old` and one plaintext object. -/
theorem rotateSecretEncryptionKey_dryRun_two_rows :
    (rotateSecretEncryptionKey sealedCrypto ⟨[⟨0, "a", .envelope "old" 0 (.object 1)⟩, ⟨1, "b", .object 2⟩], 2,
        by decide, by decide⟩ "old" "new" true id).1 =
      (rotateSecretEncryptionKey sealedCrypto ⟨[⟨0, "a", .envelope "old" 0 (.object 1)⟩, ⟨1, "b", .object 2⟩], 2,
        by decide, by decide⟩ "old" "new" false id).1 :=
  (rotateSecretEncryptionKey_dryRun sealedCrypto _ "old" "new" id (by decide)).2.2.1

/-! ## A rotation in the life of the store

The server encrypts under the key of its `ARCHESTRA_AUTH_SECRET`; the script is run with that secret as the old one,
and the server restarts with the new one. -/

namespace Rotation

variable {K V I : Type} (crypto : Crypto K V I) (oldKey newKey : K) (iv : Nat → I)

/-- The loop only updates rows: the table keeps the next id it hands out. -/
theorem reencryptRows_nextId (rest : List (SecretRow V)) :
    ∀ (n : Nat) (t : SecretTable V) (counts : Nat × Nat) {res : Nat × Nat × SecretTable V × List Nat},
      reencryptRows crypto oldKey newKey iv n rest t counts = some res → res.2.2.1.nextId = t.nextId := by
  induction rest with
  | nil =>
    rintro n t ⟨re, newly⟩ res h
    cases h
    rfl
  | cons row rest ih =>
    rintro n t ⟨re, newly⟩ res h
    simp only [reencryptRows] at h
    split at h
    · cases h
    · obtain ⟨res', h', rfl⟩ := Option.map_eq_some'.1 h
      have hres := ih _ _ _ h'
      exact hres

variable {crypto oldKey newKey}

/-- Every re-encrypted row holds an envelope under the new key. -/
theorem sealed_of_reencrypted {rows rows' : List (SecretRow V)}
    (h : List.Forall₂ (Reencrypted crypto oldKey newKey) rows rows') :
    ∀ r' ∈ rows', crypto.SealedUnder newKey r'.secret := by
  induction h with
  | nil => exact fun _ h => absurd h (List.not_mem_nil _)
  | cons hab _ ih =>
    intro r' hr'
    rcases List.mem_cons.1 hr' with rfl | hr'
    · obtain ⟨-, -, p, i, -, hs⟩ := hab
      exact hs ▸ crypto.sealedUnder_encrypt p newKey i
    · exact ih r' hr'

end Rotation

section Lifetime

variable {crypto : Crypto K V I} {authSecret newSecret : String}

/-- A rotation between different secrets of a table whose rows all decrypt under the old key resolves, and leaves the
re-encryption of every row, in place, with the same next id. -/
theorem rotate_reencrypts (table : SecretTable V) (iv : Nat → I) (hne : authSecret ≠ newSecret)
    (hsome : ∀ r ∈ table.rows, (crypto.plaintextOf (crypto.deriveKeyFromSecret authSecret) r.secret).isSome) :
    (∃ counts, (rotateSecretEncryptionKey crypto table authSecret newSecret false iv).1 = .ok counts) ∧
      List.Forall₂ (Rotation.Reencrypted crypto (crypto.deriveKeyFromSecret authSecret)
        (crypto.deriveKeyFromSecret newSecret)) table.rows
        (rotateSecretEncryptionKey crypto table authSecret newSecret false iv).2.1.rows ∧
      (rotateSecretEncryptionKey crypto table authSecret newSecret false iv).2.1.nextId = table.nextId := by
  obtain ⟨t', post, hrun, hrows, hrel⟩ := Rotation.reencryptRows_ok crypto (crypto.deriveKeyFromSecret authSecret)
    (crypto.deriveKeyFromSecret newSecret) iv table.rows 0 table [] 0 0 rfl hsome
  have hnext := Rotation.reencryptRows_nextId crypto _ _ iv table.rows 0 table (0, 0) hrun
  simp only [rotateSecretEncryptionKey, hne, if_false, Bool.false_eq_true, hrun, Nat.zero_add, hrows,
    List.nil_append]
  exact ⟨⟨_, rfl⟩, hrel, hnext⟩

/-- A row sealed under the old key and its re-encryption stand for the same plain row. -/
theorem plainRow_reencrypted {r r' : SecretRow V}
    (hs : crypto.SealedUnder (SecretModel.key crypto authSecret) r.secret)
    (h : Rotation.Reencrypted crypto (SecretModel.key crypto authSecret) (SecretModel.key crypto newSecret) r r') :
    SecretModel.plainRow crypto authSecret r = SecretModel.plainRow crypto newSecret r' := by
  obtain ⟨q, i, hq⟩ := hs
  obtain ⟨hid, hname, p, i', hp, hp'⟩ := h
  rw [hq, crypto.plaintextOf_encrypt] at hp
  cases hp
  obtain ⟨id, name, secret⟩ := r
  obtain ⟨id', name', secret'⟩ := r'
  dsimp only at hq hp' hid hname
  subst hq hp' hid hname
  simp only [SecretModel.plainRow, SecretModel.decryptSecretValue, crypto.decrypt_encrypt, Option.getD_some]

/-- The re-encrypted table stands, under the new secret, for the plain table the old one stood for. -/
theorem refines_reencrypted {t a t' : SecretTable V} (h : SecretModel.Refines crypto authSecret t a)
    (hrel : List.Forall₂ (Rotation.Reencrypted crypto (SecretModel.key crypto authSecret)
      (SecretModel.key crypto newSecret)) t.rows t'.rows) (hnext : t'.nextId = t.nextId) :
    SecretModel.Refines crypto newSecret t' a := by
  refine ⟨Rotation.sealed_of_reencrypted hrel, ?_, h.nextId_eq.trans hnext.symm⟩
  have hmap : List.Forall₂ (· = ·) (t.rows.map (SecretModel.plainRow crypto authSecret))
      (t'.rows.map (SecretModel.plainRow crypto newSecret)) :=
    List.forall₂_map_left_iff.2 <| List.forall₂_map_right_iff.2 <|
      ((List.forall₂_and_left _ _).2 ⟨h.sealed, hrel⟩).imp fun _ _ hr => plainRow_reencrypted hr.1 hr.2
  rw [List.forall₂_eq_eq_eq] at hmap
  exact h.rows_eq.trans hmap

theorem SecretStore.runCalls_append (a : SecretTable V) (calls₁ calls₂ : List (SecretCall V I)) :
    (SecretStore.runCalls a (calls₁ ++ calls₂)).1 =
      (SecretStore.runCalls a calls₁).1 ++ (SecretStore.runCalls (SecretStore.runCalls a calls₁).2 calls₂).1 := by
  induction calls₁ generalizing a with
  | nil => rfl
  | cons c cs ih =>
    show (SecretStore.exec a c).1 :: (SecretStore.runCalls (SecretStore.exec a c).2 (cs ++ calls₂)).1 = _
    rw [ih]
    rfl

/-- For every table standing for a plain store under the server's secret, every calls before a rotation to another
secret, and every calls after the server restarts with the new secret: the rotation resolves, and all the calls
answer as the plain store does on them one after another; the rotation is invisible to the store's users. -/
theorem rotation_invisible (table a : SecretTable V) (h : SecretModel.Refines crypto authSecret table a)
    (calls₁ calls₂ : List (SecretCall V I)) (hne : authSecret ≠ newSecret) (iv : Nat → I) :
    let t₁ := (SecretModel.runCalls crypto authSecret table calls₁).2
    let rotated := rotateSecretEncryptionKey crypto t₁ authSecret newSecret false iv
    (∃ counts, rotated.1 = .ok counts) ∧
      (SecretModel.runCalls crypto authSecret table calls₁).1 ++
          (SecretModel.runCalls crypto newSecret rotated.2.1 calls₂).1 =
        (SecretStore.runCalls a (calls₁ ++ calls₂)).1 := by
  intro t₁ rotated
  obtain ⟨hans₁, href₁⟩ := SecretModel.runCalls_refines h calls₁
  have hsome : ∀ r ∈ t₁.rows, (crypto.plaintextOf (crypto.deriveKeyFromSecret authSecret) r.secret).isSome :=
    fun r hr => by
      obtain ⟨p, i, hp⟩ := href₁.sealed r hr
      rw [hp, SecretModel.key, crypto.plaintextOf_encrypt]
      rfl
  obtain ⟨hok, hrel, hnext⟩ := rotate_reencrypts t₁ iv hne hsome
  obtain ⟨hans₂, -⟩ := SecretModel.runCalls_refines (refines_reencrypted href₁ hrel hnext) calls₂
  exact ⟨hok, by rw [hans₁, hans₂, SecretStore.runCalls_append]⟩

/-- A secret created under `auth`, the key rotated to `auth-2`, and the secret read back after the restart. -/
theorem rotation_invisible_create_rotate_find :
    let calls₁ : List (SecretCall SealedValue Nat) := [.create ⟨"openai", .object 7⟩ 0]
    let calls₂ : List (SecretCall SealedValue Nat) := [.findByName "openai"]
    SecretModel.Refines sealedCrypto "auth" .empty .empty ∧ "auth" ≠ "auth-2" ∧
      (let t₁ := (SecretModel.runCalls sealedCrypto "auth" .empty calls₁).2
      let rotated := rotateSecretEncryptionKey sealedCrypto t₁ "auth" "auth-2" false id
      (∃ counts, rotated.1 = .ok counts) ∧
        (SecretModel.runCalls sealedCrypto "auth" .empty calls₁).1 ++
            (SecretModel.runCalls sealedCrypto "auth-2" rotated.2.1 calls₂).1 =
          (SecretStore.runCalls .empty (calls₁ ++ calls₂)).1) :=
  have h : SecretModel.Refines sealedCrypto "auth" (.empty : SecretTable SealedValue) .empty := ⟨nofun, rfl, rfl⟩
  ⟨h, by decide, rotation_invisible _ _ h _ _ (by decide) id⟩

end Lifetime

end Archestra
