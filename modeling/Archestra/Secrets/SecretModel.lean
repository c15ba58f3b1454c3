import Archestra.Secrets.Crypto
import Mathlib.Data.List.Nodup

/-!
# The secret store

`SecretModel` encrypts a secret under the ambient key (`deriveKeyFromSecret` of the auth secret) before it writes
it, and decrypts what it reads (`decryptSecretRow`).  Its purpose is a plain store: `SecretStore.exec` runs the
same calls on a table of plaintexts.

* `exec_refines`: one call of `SecretModel` answers as the plain store does, and keeps the encrypted table an
  encryption of the plain one;
* `secretModel_refines_store`: from a table of envelopes under the ambient key, every sequence of calls answers as
  the plain store does, and every stored secret stays an envelope.
-/

namespace Archestra

/-- A row of `secret`: the columns the model reads and writes. -/
structure SecretRow (V : Type) where
  id : Nat
  name : String
  secret : V
  deriving DecidableEq, Repr

/-- The table: its rows, with their primary key `id` distinct, and the next id the database hands out. -/
structure SecretTable (V : Type) where
  rows : List (SecretRow V)
  nextId : Nat
  id_lt : ∀ r ∈ rows, r.id < nextId
  ids_nodup : (rows.map (·.id)).Nodup

namespace SecretTable

variable {V : Type}

/-- The empty table. -/
def empty : SecretTable V := ⟨[], 0, nofun, List.nodup_nil⟩

/-- `INSERT` of a row with the next id. -/
def insert (t : SecretTable V) (name : String) (secret : V) : SecretTable V where
  rows := t.rows ++ [⟨t.nextId, name, secret⟩]
  nextId := t.nextId + 1
  id_lt r hr := by
    rcases List.mem_append.1 hr with hr | hr
    · exact Nat.lt_succ_of_lt (t.id_lt r hr)
    · simp only [List.mem_singleton] at hr; subst hr; exact Nat.lt_succ_self _
  ids_nodup := by
    rw [List.map_append, List.nodup_append]
    refine ⟨t.ids_nodup, List.nodup_singleton _, ?_⟩
    simp only [List.map_cons, List.map_nil, List.disjoint_singleton, List.mem_map, not_exists, not_and]
    exact fun r hr h => Nat.ne_of_lt (t.id_lt r hr) h

/-- Rewrite every row by a function that keeps its id. -/
def mapRows (t : SecretTable V) (f : SecretRow V → SecretRow V) (hf : ∀ r, (f r).id = r.id) : SecretTable V where
  rows := t.rows.map f
  nextId := t.nextId
  id_lt r hr := by
    obtain ⟨r', hr', rfl⟩ := List.mem_map.1 hr
    exact (hf r').symm ▸ t.id_lt r' hr'
  ids_nodup := by
    rw [List.map_map]
    exact (congrArg List.Nodup (List.map_congr_left fun r _ => hf r)).mpr t.ids_nodup

/-- Keep the rows that satisfy `p`. -/
def filterRows (t : SecretTable V) (p : SecretRow V → Bool) : SecretTable V where
  rows := t.rows.filter p
  nextId := t.nextId
  id_lt r hr := t.id_lt r (List.mem_of_mem_filter hr)
  ids_nodup := t.ids_nodup.sublist ((List.filter_sublist _).map _)

end SecretTable

/-- `InsertSecret`. -/
structure InsertSecret (V : Type) where
  name : String
  secret : V
  deriving DecidableEq, Repr

/-- `UpdateSecret`: the columns it sets. -/
structure UpdateSecret (V : Type) where
  name : Option String := none
  secret : Option V := none
  deriving DecidableEq, Repr

/-- The row after `SET`. -/
def UpdateSecret.apply {V : Type} (u : UpdateSecret V) (r : SecretRow V) : SecretRow V :=
  { r with name := u.name.getD r.name, secret := u.secret.getD r.secret }

/-- A call of `SecretModel`; a write carries the IV its encryption draws. -/
inductive SecretCall (V I : Type) where
  | create (input : InsertSecret V) (iv : I)
  | findById (id : Nat)
  | findByName (name : String)
  | findByIds (ids : List Nat)
  | update (id : Nat) (input : UpdateSecret V) (iv : I)
  | delete (id : Nat)

/-- What a call returns, or that it threw. -/
inductive SecretResponse (V : Type) where
  | row (r : Option (SecretRow V))
  | rows (rs : List (SecretRow V))
  | deleted (b : Bool)
  | threw
  deriving DecidableEq, Repr

namespace SecretModel

variable {K V I : Type} (crypto : Crypto K V I) (authSecret : String)

/-- The ambient key. -/
def key : K := crypto.deriveKeyFromSecret authSecret

def encryptSecretValue (p : V) (iv : I) : V := crypto.encryptSecretValueWithKey p (key crypto authSecret) iv

def decryptSecretValue (v : V) : Option V := crypto.decryptSecretValueWithKey v (key crypto authSecret)

/-- `decryptSecretRow`: `none` when the decryption throws. -/
def decryptSecretRow (row : SecretRow V) : Option (SecretRow V) :=
  if crypto.isEncryptedSecret row.secret then (decryptSecretValue crypto authSecret row.secret).map
    fun secret => { row with secret }
  else some row

/-- The answer of a call that returns one decrypted row. -/
def respond (row : Option (SecretRow V)) : SecretResponse V := row.elim .threw fun r => .row (some r)

/-- `update`'s `values`: the secret, when given, encrypted. -/
def updateValues (input : UpdateSecret V) (iv : I) : UpdateSecret V :=
  match input.secret with
  | some s => { input with secret := some (encryptSecretValue crypto authSecret s iv) }
  | none => input

theorem updateValues_id (input : UpdateSecret V) (iv : I) (r : SecretRow V) :
    ((updateValues crypto authSecret input iv).apply r).id = r.id := rfl

/-- A call, and the table after it.  An `update` with no column to set throws (Drizzle's "No values to set");
one that matches no row returns `undefined`. -/
def exec (t : SecretTable V) : SecretCall V I → SecretResponse V × SecretTable V
  | .create input iv =>
    let secret := encryptSecretValue crypto authSecret input.secret iv
    (respond (decryptSecretRow crypto authSecret ⟨t.nextId, input.name, secret⟩), t.insert input.name secret)
  | .findById id =>
    (match t.rows.find? (·.id == id) with
      | none => .row none
      | some r => respond (decryptSecretRow crypto authSecret r), t)
  | .findByName name =>
    (match t.rows.find? (·.name == name) with
      | none => .row none
      | some r => respond (decryptSecretRow crypto authSecret r), t)
  | .findByIds ids =>
    (if ids.length = 0 then .rows []
      else ((t.rows.filter (·.id ∈ ids)).mapM (decryptSecretRow crypto authSecret)).elim .threw .rows, t)
  | .update id input iv =>
    let values := updateValues crypto authSecret input iv
    if values.name.isNone ∧ values.secret.isNone then (.threw, t)
    else
      (match (t.rows.filter (·.id = id)).map values.apply with
        | [] => .row none
        | updatedSecret :: _ => respond (decryptSecretRow crypto authSecret updatedSecret),
        t.mapRows (fun r => if r.id = id then values.apply r else r) fun r => by dsimp only; split <;> rfl)
  | .delete id => (.deleted ((t.rows.filter (·.id = id)).length > 0), t.filterRows (·.id ≠ id))

/-- A sequence of calls: the answers, and the table at the end. -/
def runCalls (t : SecretTable V) : List (SecretCall V I) → List (SecretResponse V) × SecretTable V
  | [] => ([], t)
  | c :: cs =>
    let (r, t') := exec crypto authSecret t c
    let (rs, t'') := runCalls t' cs
    (r :: rs, t'')

end SecretModel

/-! ### The plain store -/

namespace SecretStore

variable {V I : Type}

/-- A call on a table of plaintexts: what `SecretModel` is for. -/
def exec (t : SecretTable V) : SecretCall V I → SecretResponse V × SecretTable V
  | .create input _ => (.row (some ⟨t.nextId, input.name, input.secret⟩), t.insert input.name input.secret)
  | .findById id => (.row (t.rows.find? (·.id == id)), t)
  | .findByName name => (.row (t.rows.find? (·.name == name)), t)
  | .findByIds ids => (.rows (if ids.length = 0 then [] else t.rows.filter (·.id ∈ ids)), t)
  | .update id input _ =>
    if input.name.isNone ∧ input.secret.isNone then (.threw, t)
    else
      (.row ((t.rows.filter (·.id = id)).map input.apply).head?,
        t.mapRows (fun r => if r.id = id then input.apply r else r) fun r => by dsimp only; split <;> rfl)
  | .delete id => (.deleted ((t.rows.filter (·.id = id)).length > 0), t.filterRows (·.id ≠ id))

def runCalls (t : SecretTable V) : List (SecretCall V I) → List (SecretResponse V) × SecretTable V
  | [] => ([], t)
  | c :: cs =>
    let (r, t') := exec t c
    let (rs, t'') := runCalls t' cs
    (r :: rs, t'')

end SecretStore

/-! ### `SecretModel` refines the plain store -/

namespace SecretModel

variable {K V I : Type} (crypto : Crypto K V I) (authSecret : String)

/-- The plaintext row a stored row stands for. -/
def plainRow (r : SecretRow V) : SecretRow V :=
  { r with secret := (decryptSecretValue crypto authSecret r.secret).getD r.secret }

/-- The plain table a stored table stands for. -/
def plainTable (t : SecretTable V) : SecretTable V := t.mapRows (plainRow crypto authSecret) fun _ => rfl

/-- Every stored secret is an envelope under the ambient key, and `a` holds the plaintexts of `t`'s rows. -/
structure Refines (t a : SecretTable V) : Prop where
  sealed : ∀ r ∈ t.rows, crypto.SealedUnder (key crypto authSecret) r.secret
  rows_eq : a.rows = t.rows.map (plainRow crypto authSecret)
  nextId_eq : a.nextId = t.nextId

variable {crypto authSecret}

@[simp] theorem plainRow_id (r : SecretRow V) : (plainRow crypto authSecret r).id = r.id := rfl

theorem plainRow_encrypt (id : Nat) (name : String) (p : V) (iv : I) :
    plainRow crypto authSecret ⟨id, name, encryptSecretValue crypto authSecret p iv⟩ = ⟨id, name, p⟩ := by
  simp [plainRow, decryptSecretValue, encryptSecretValue, crypto.decrypt_encrypt]

theorem decryptSecretRow_sealed {r : SecretRow V} (h : crypto.SealedUnder (key crypto authSecret) r.secret) :
    decryptSecretRow crypto authSecret r = some (plainRow crypto authSecret r) := by
  obtain ⟨p, iv, hp⟩ := h
  simp [decryptSecretRow, plainRow, decryptSecretValue, hp, crypto.isEncryptedSecret_encrypt, crypto.decrypt_encrypt]

theorem mapM_decryptSecretRow {rs : List (SecretRow V)}
    (h : ∀ r ∈ rs, crypto.SealedUnder (key crypto authSecret) r.secret) :
    rs.mapM (decryptSecretRow crypto authSecret) = some (rs.map (plainRow crypto authSecret)) := by
  induction rs with
  | nil => rfl
  | cons r rs ih =>
    simp only [List.mapM_cons, decryptSecretRow_sealed (h r (List.mem_cons_self r rs)),
      ih fun x hx => h x (List.mem_cons_of_mem r hx)]
    rfl

/-- A written row stands for the plain store's write, and stays sealed. -/
theorem plainRow_apply {r : SecretRow V} (h : crypto.SealedUnder (key crypto authSecret) r.secret)
    (input : UpdateSecret V) (iv : I) :
    plainRow crypto authSecret ((updateValues crypto authSecret input iv).apply r) =
        input.apply (plainRow crypto authSecret r) ∧
      crypto.SealedUnder (key crypto authSecret) ((updateValues crypto authSecret input iv).apply r).secret := by
  unfold updateValues
  cases hs : input.secret with
  | some s =>
    refine ⟨?_, crypto.sealedUnder_encrypt _ _ _⟩
    simp [plainRow, UpdateSecret.apply, hs, decryptSecretValue, encryptSecretValue, crypto.decrypt_encrypt]
  | none => exact ⟨by simp [plainRow, UpdateSecret.apply, hs], by simpa [UpdateSecret.apply, hs] using h⟩

theorem find?_plainRow (rs : List (SecretRow V)) {p : SecretRow V → Bool}
    (hp : ∀ r, p (plainRow crypto authSecret r) = p r) :
    (rs.map (plainRow crypto authSecret)).find? p = (rs.find? p).map (plainRow crypto authSecret) := by
  rw [List.find?_map]
  exact congrArg _ (congrArg (List.find? · rs) (funext hp))

theorem filter_plainRow (rs : List (SecretRow V)) {p : SecretRow V → Bool}
    (hp : ∀ r, p (plainRow crypto authSecret r) = p r) :
    (rs.map (plainRow crypto authSecret)).filter p = (rs.filter p).map (plainRow crypto authSecret) := by
  rw [List.filter_map]
  exact congrArg _ (congrArg (List.filter · rs) (funext hp))

/-- A lookup answers as the plain store's. -/
theorem respond_find? {t a : SecretTable V} (h : Refines crypto authSecret t a) {p : SecretRow V → Bool}
    (hp : ∀ r, p (plainRow crypto authSecret r) = p r) :
    (match t.rows.find? p with
      | none => .row none
      | some r => respond (decryptSecretRow crypto authSecret r)) = SecretResponse.row (a.rows.find? p) := by
  rw [h.rows_eq, find?_plainRow _ hp]
  cases hf : t.rows.find? p with
  | none => rfl
  | some r => simp [respond, decryptSecretRow_sealed (h.sealed r (List.mem_of_find?_eq_some hf))]

/-- An `update` answers as the plain store's, and rewrites the matching row in both tables alike. -/
theorem exec_update_refines {t a : SecretTable V} (h : Refines crypto authSecret t a) (id : Nat)
    (input : UpdateSecret V) (iv : I) :
    (exec crypto authSecret t (.update id input iv)).1 = (SecretStore.exec a (.update id input iv)).1 ∧
      Refines crypto authSecret (exec crypto authSecret t (.update id input iv)).2
        (SecretStore.exec a (.update id input iv)).2 := by
  have hnone : ((updateValues crypto authSecret input iv).name.isNone ∧
      (updateValues crypto authSecret input iv).secret.isNone) ↔ (input.name.isNone ∧ input.secret.isNone) := by
    unfold updateValues; cases hs : input.secret <;> simp [hs]
  simp only [exec, SecretStore.exec, hnone]
  split
  · exact ⟨rfl, h⟩
  · refine ⟨?_, ⟨fun r hr => ?_, ?_, h.nextId_eq⟩⟩
    · rw [h.rows_eq, filter_plainRow _ (by intro; rfl)]
      have hs : ∀ r ∈ t.rows.filter (·.id = id), crypto.SealedUnder (key crypto authSecret) r.secret :=
        fun r hr => h.sealed r (List.mem_of_mem_filter hr)
      generalize t.rows.filter (·.id = id) = rs at hs
      cases rs with
      | nil => rfl
      | cons r rs =>
        have hr := plainRow_apply (hs r (List.mem_cons_self r rs)) input iv
        simp [respond, decryptSecretRow_sealed hr.2, hr.1]
    · simp only [SecretTable.mapRows, List.mem_map] at hr
      obtain ⟨r, hr, rfl⟩ := hr
      by_cases hid : r.id = id
      · simpa [hid] using (plainRow_apply (h.sealed r hr) input iv).2
      · simpa [hid] using h.sealed r hr
    · simp only [SecretTable.mapRows, h.rows_eq, List.map_map]
      refine List.map_congr_left fun r hr => ?_
      by_cases hid : r.id = id
      · simp [hid, (plainRow_apply (h.sealed r hr) input iv).1]
      · simp [hid]

/-- One call answers as the plain store does, and keeps the refinement. -/
theorem exec_refines {t a : SecretTable V} (h : Refines crypto authSecret t a) (c : SecretCall V I) :
    (exec crypto authSecret t c).1 = (SecretStore.exec a c).1 ∧
      Refines crypto authSecret (exec crypto authSecret t c).2 (SecretStore.exec a c).2 := by
  cases c with
  | create input iv =>
    refine ⟨?_, ⟨fun r hr => ?_, ?_, ?_⟩⟩
    · show respond (decryptSecretRow crypto authSecret
          ⟨t.nextId, input.name, encryptSecretValue crypto authSecret input.secret iv⟩) = _
      rw [decryptSecretRow_sealed (crypto.sealedUnder_encrypt _ _ _), plainRow_encrypt]
      simp [respond, SecretStore.exec, h.nextId_eq]
    · rcases List.mem_append.1 hr with hr | hr
      · exact h.sealed r hr
      · simp only [List.mem_singleton] at hr; subst hr; exact crypto.sealedUnder_encrypt _ _ _
    · simp [exec, SecretStore.exec, SecretTable.insert, h.rows_eq, h.nextId_eq, plainRow_encrypt]
    · simp [exec, SecretStore.exec, SecretTable.insert, h.nextId_eq]
  | findById id => exact ⟨respond_find? h (by intro; rfl), h⟩
  | findByName name => exact ⟨respond_find? h (by intro; rfl), h⟩
  | findByIds ids =>
    refine ⟨?_, h⟩
    simp only [exec, SecretStore.exec]
    split
    · rfl
    · have hs : ∀ r ∈ t.rows.filter (·.id ∈ ids), crypto.SealedUnder (key crypto authSecret) r.secret :=
        fun r hr => h.sealed r (List.mem_of_mem_filter hr)
      rw [mapM_decryptSecretRow hs, h.rows_eq, filter_plainRow _ (by intro; rfl)]
      rfl
  | update id input iv => exact exec_update_refines h id input iv
  | delete id =>
    refine ⟨?_, ⟨fun r hr => h.sealed r (List.mem_of_mem_filter hr), ?_, h.nextId_eq⟩⟩
    · simp only [exec, SecretStore.exec, h.rows_eq]
      rw [filter_plainRow, List.length_map]
      intro; rfl
    · simp only [exec, SecretStore.exec, SecretTable.filterRows, h.rows_eq]
      exact filter_plainRow _ (by intro; rfl)

theorem runCalls_refines {t a : SecretTable V} (h : Refines crypto authSecret t a) (calls : List (SecretCall V I)) :
    (runCalls crypto authSecret t calls).1 = (SecretStore.runCalls a calls).1 ∧
      Refines crypto authSecret (runCalls crypto authSecret t calls).2 (SecretStore.runCalls a calls).2 := by
  induction calls generalizing t a with
  | nil => exact ⟨rfl, h⟩
  | cons c cs ih =>
    obtain ⟨hr, hc⟩ := exec_refines h c
    obtain ⟨hrs, hcs⟩ := ih hc
    exact ⟨by simp only [runCalls, SecretStore.runCalls, hr, hrs], hcs⟩

variable (crypto authSecret)

/-- From a table of envelopes under the ambient key, every sequence of calls answers as the plain store of their
plaintexts does, and every stored secret stays an envelope of the plaintext the store holds. -/
theorem secretModel_refines_store (table : SecretTable V)
    (h : ∀ r ∈ table.rows, crypto.SealedUnder (crypto.deriveKeyFromSecret authSecret) r.secret)
    (calls : List (SecretCall V I)) :
    (runCalls crypto authSecret table calls).1 =
        (SecretStore.runCalls (plainTable crypto authSecret table) calls).1 ∧
      (∀ r ∈ (runCalls crypto authSecret table calls).2.rows, crypto.isEncryptedSecret r.secret = true) ∧
      Refines crypto authSecret (runCalls crypto authSecret table calls).2
        (SecretStore.runCalls (plainTable crypto authSecret table) calls).2 := by
  obtain ⟨hr, hc⟩ := runCalls_refines (a := plainTable crypto authSecret table) ⟨h, rfl, rfl⟩ calls
  exact ⟨hr, fun r hr => (hc.sealed r hr).isEncrypted, hc⟩

theorem secretModel_refines_store_create_then_find :
    let calls : List (SecretCall SealedValue Nat) := [.create ⟨"openai", .object 7⟩ 0, .findById 0]
    (∀ r ∈ (SecretTable.empty : SecretTable SealedValue).rows,
        sealedCrypto.SealedUnder (sealedCrypto.deriveKeyFromSecret "auth") r.secret) ∧
      (runCalls sealedCrypto "auth" .empty calls).1 =
          (SecretStore.runCalls (plainTable sealedCrypto "auth" .empty) calls).1 ∧
        (∀ r ∈ (runCalls sealedCrypto "auth" .empty calls).2.rows, sealedCrypto.isEncryptedSecret r.secret = true) ∧
        Refines sealedCrypto "auth" (runCalls sealedCrypto "auth" .empty calls).2
          (SecretStore.runCalls (plainTable sealedCrypto "auth" .empty) calls).2 :=
  ⟨nofun, secretModel_refines_store sealedCrypto "auth" .empty nofun _⟩

/-- The stored secret is the envelope; both calls answer with the plaintext. -/
example :
    let r := runCalls sealedCrypto "auth" .empty [.create ⟨"openai", .object 7⟩ 0, .findById 0]
    r.2.rows = [⟨0, "openai", .envelope "auth" 0 (.object 7)⟩] ∧
      r.1 = [.row (some ⟨0, "openai", .object 7⟩), .row (some ⟨0, "openai", .object 7⟩)] := by
  decide

end SecretModel

end Archestra
