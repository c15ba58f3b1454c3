import Archestra.Models.Organization
import Archestra.Js.Object
import Mathlib.Data.Rat.Defs
import Mathlib.Tactic.Linarith

/-!
# The two ways to write an organization's logo

`POST /api/organization/logo` (the appearance routes) and `PATCH /api/organization` with a body `{logo}` (the
organization routes, through `OrganizationModel.patch`) run alone on the `organization` table.  Both check that the
logo starts with `data:image/png;base64,` and is at most `2.66 * 1024 * 1024` UTF-16 units long, with the same two
messages (`logoError`), but they differ around the check:

* `patch` checks only a truthy logo, so `PATCH` stores `""` where `POST` rejects it;
* `patch` throws a plain `Error`, which the `PATCH` handler's `catch` answers with 500 `api_error`, where `POST`
  answers 400 `validation_error`.

`PATCH` hands the body to Drizzle's `.set`, which throws `No values to set` when the body holds no column.

* `logoError_eq_none_iff`: the logos both paths accept;
* `uploadOrganizationLogo_admin`, `patchOrganization_rejects`, `patchOrganization_writes`: what each path answers and
  leaves, for every table and every logo;
* `patchOrganization_empty`: the empty body is answered with 500 `No values to set`;
* `logo_paths_agree`: the two paths side by side: they agree on every non-empty logo up to the status and type of the
  rejection, and part on the empty one;
* `logo_paths_disagree`: the empty logo, rejected by one path and stored by the other.
-/

namespace Archestra

/-! ### The logo checks -/

/-- The prefix both paths require. -/
def logoPrefix : String := "data:image/png;base64,"

/-- `logo.length`: the UTF-16 code units of the string. -/
def utf16Length (s : String) : Nat := (s.toList.map fun c => if c.toNat < 0x10000 then 1 else 2).sum

/-- `2.66 * 1024 * 1024`: "2MB * 1.33 = ~2.66MB in base64". -/
def maxSize : ℚ := 2.66 * 1024 * 1024

/-- The size check `logo.length > maxSize` on a whole number of code units. -/
theorem gt_maxSize_iff (n : Nat) : (n : ℚ) > maxSize ↔ 2789212 < n := by
  rw [maxSize, gt_iff_lt]
  norm_num
  constructor
  · intro h
    exact_mod_cast (show (2789212 : ℚ) < n by linarith)
  · intro h
    have : (2789213 : ℚ) ≤ n := by exact_mod_cast h
    linarith

/-- The two checks both paths make, in order, with their messages: the message of the first that fails. -/
def logoError (logo : String) : Option String :=
  if !startsWith logo logoPrefix then some "Logo must be a PNG image in base64 format"
  else if (utf16Length logo : ℚ) > maxSize then some "Logo must be less than 2MB"
  else none

/-- The logos both paths accept: a PNG data URI of at most `2789212` code units. -/
theorem logoError_eq_none_iff (logo : String) :
    logoError logo = none ↔ logoPrefix.toList <+: logo.toList ∧ utf16Length logo ≤ 2789212 := by
  unfold logoError startsWith
  by_cases hp : logoPrefix.toList <+: logo.toList <;> by_cases hs : 2789212 < utf16Length logo <;>
    simp only [hp, hs, gt_maxSize_iff, decide_True, decide_False, Bool.not_true, Bool.not_false, Bool.false_eq_true,
      Bool.true_eq_false, if_true, if_false, reduceCtorEq, ← Nat.not_lt, true_and, false_and, iff_true, iff_false,
      not_true_eq_false, not_false_eq_true]

theorem logoError_empty : logoError "" = some "Logo must be a PNG image in base64 format" := rfl

/-! ### The model functions, run alone -/

/-- The columns an `UPDATE organization SET ...` writes: each present or not. -/
structure OrganizationSet where
  theme : Option (Option String)
  customFont : Option (Option String)
  logoType : Option (Option String)
  logo : Option (Option String)
  limitCleanupInterval : Option (Option String)
  deriving DecidableEq, Repr

/-- The row with the present columns written. -/
def OrganizationSet.applyTo (d : OrganizationSet) (r : OrganizationRow) : OrganizationRow :=
  { r with theme := d.theme.getD r.theme, customFont := d.customFont.getD r.customFont,
           logoType := d.logoType.getD r.logoType, logo := d.logo.getD r.logo,
           limitCleanupInterval := d.limitCleanupInterval.getD r.limitCleanupInterval }

/-- `UPDATE organization SET d WHERE id = id RETURNING *`, `[row] = ...`: the first returned row, and the table. -/
def updateWhereId (rows : List OrganizationRow) (id : String) (d : OrganizationSet) :
    Option OrganizationRow × List OrganizationRow :=
  ((rows.find? (·.id == id)).map d.applyTo, rows.map fun r => if r.id = id then d.applyTo r else r)

/-- The answers a `SELECT * FROM organization LIMIT 1` may give: none on an empty table, any row otherwise. -/
def selectFirstAnswers (rows : List OrganizationRow) : List (Option OrganizationRow) :=
  match rows with
  | [] => [none]
  | _ => rows.map some

/-- The body of `PATCH /api/organization`, `UpdateOrganizationSchema.partial()`: the editable columns present. -/
structure UpdateOrganization where
  theme : Option (Option String)
  customFont : Option (Option String)
  logo : Option (Option String)
  limitCleanupInterval : Option (Option String)
  deriving DecidableEq, Repr

/-- The columns `.set(data)` writes. -/
def UpdateOrganization.toSet (data : UpdateOrganization) : OrganizationSet :=
  ⟨data.theme, data.customFont, none, data.logo, data.limitCleanupInterval⟩

namespace OrganizationModel

/-- `getOrCreateDefaultOrganization()` run alone, its `SELECT` answering `existingOrg`: that row, or the row it
inserts into the empty table. -/
def getOrCreateDefaultOrganizationAlone (rows : List OrganizationRow) (existingOrg : Option OrganizationRow) :
    OrganizationRow × List OrganizationRow :=
  match existingOrg with
  | some existingOrg => (existingOrg, rows)
  | none => (defaultOrganization, rows ++ [defaultOrganization])

/-- Modelled from the spec: the appearance routes write the given appearance columns of the organization, and the
route answers 500 when no row comes back.  An `UPDATE ... SET data WHERE id = id RETURNING *`. -/
def updateAppearance (rows : List OrganizationRow) (id : String) (logo logoType : Option String) :
    Option OrganizationRow × List OrganizationRow :=
  updateWhereId rows id ⟨none, none, some logoType, some logo, none⟩

/-- `UPDATE organization SET data WHERE id = id RETURNING *`: Drizzle's `.set(data)` throws `No values to set` when
`data` holds no column. -/
def updateReturning (rows : List OrganizationRow) (id : String) (data : UpdateOrganization) :
    Except String (Option OrganizationRow × List OrganizationRow) :=
  if data = ⟨none, none, none, none⟩ then .error "No values to set" else .ok (updateWhereId rows id data.toSet)

/-- `patch(id, data)`: when `"logo" in data && data.logo`, the two checks, each throwing `new Error(message)`; then
`UPDATE ... SET data WHERE id = id RETURNING *`, `updatedOrganization || null`. -/
def patch (rows : List OrganizationRow) (id : String) (data : UpdateOrganization) :
    Except String (Option OrganizationRow × List OrganizationRow) :=
  match data.logo with
  | some (some logo) =>
    if logo ≠ "" then
      match logoError logo with
      | some message => .error message
      | none => updateReturning rows id data
    else updateReturning rows id data
  | _ => updateReturning rows id data

/-- A body holding a logo is not empty: the `UPDATE` runs. -/
theorem updateReturning_of_logo (rows : List OrganizationRow) (id : String) {data : UpdateOrganization}
    {logo : Option String} (h : data.logo = some logo) :
    updateReturning rows id data = .ok (updateWhereId rows id data.toSet) :=
  if_neg fun he => by rw [he] at h; cases h

/-- What the `UPDATE` returns when it does not throw: the body's columns written. -/
theorem updateReturning_eq_ok {rows : List OrganizationRow} {id : String} {data : UpdateOrganization}
    {r : Option OrganizationRow × List OrganizationRow} (h : updateReturning rows id data = .ok r) :
    r = updateWhereId rows id data.toSet := by
  unfold updateReturning at h
  split at h
  · cases h
  · exact (Except.ok.inj h).symm

end OrganizationModel

/-! ### The handlers -/

/-- What a handler sends: an error body `{error: {message, type}}` with its status, the logo route's
`{success: true, logo}`, or the organization. -/
inductive OrganizationReply where
  | error (status : Nat) (message type : String)
  | logoUploaded (logo : Option String)
  | organization (org : OrganizationRow)
  deriving DecidableEq, Repr

/-- The status of a reply: `reply.send` without `status` answers 200. -/
def OrganizationReply.status : OrganizationReply → Nat
  | .error status _ _ => status
  | .logoUploaded _ | .organization _ => 200

/-- The fields of the session user the logo route reads. -/
structure SessionUser where
  isAdmin : Bool
  deriving DecidableEq, Repr

namespace OrganizationRoutes

open OrganizationModel

/-- `POST /api/organization/logo` with `{logo}`, `getUserFromRequest` giving `user` and the `SELECT` of
`getOrCreateDefaultOrganization` answering `existingOrg`: the reply and the table. -/
def uploadOrganizationLogo (rows : List OrganizationRow) (user : Option SessionUser) (logo : String)
    (existingOrg : Option OrganizationRow) : OrganizationReply × List OrganizationRow :=
  match user with
  | none => (.error 401 "Unauthorized" "unauthorized", rows)
  | some user =>
    if !user.isAdmin then (.error 403 "Forbidden: Admin access required" "forbidden", rows)
    else
      match logoError logo with
      | some message => (.error 400 message "validation_error", rows)
      | none =>
        let (organization, rows) := getOrCreateDefaultOrganizationAlone rows existingOrg
        match updateAppearance rows organization.id (some logo) (some "custom") with
        | (none, rows) => (.error 500 "Failed to upload logo" "api_error", rows)
        | (some updatedOrg, rows) => (.logoUploaded (updatedOrg.logo.filter (· ≠ "")), rows)

/-- `PATCH /api/organization` for the caller's `organizationId`: `patch`, a thrown message answered by the `catch`
with 500 `api_error`, a missing organization with 404.  The `if ("logo" in body) {}` does nothing. -/
def patchOrganization (rows : List OrganizationRow) (organizationId : String) (body : UpdateOrganization) :
    OrganizationReply × List OrganizationRow :=
  match patch rows organizationId body with
  | .error message => (.error 500 message "api_error", rows)
  | .ok (none, rows) => (.error 404 "Organization not found" "not_found", rows)
  | .ok (some organization, rows) => (.organization organization, rows)

/-! ### The two paths side by side -/

theorem logo_ne_empty_of_logoError {logo : String} (h : logoError logo = none) : logo ≠ "" := by
  rintro rfl
  exact absurd h (by rw [logoError_empty]; exact Option.some_ne_none _)

/-- A table holding a row with an id has a first row with that id. -/
theorem find?_id_of_mem {rows : List OrganizationRow} {org : OrganizationRow} (horg : org ∈ rows) :
    ∃ r, rows.find? (·.id == org.id) = some r := by
  cases hf : rows.find? (·.id == org.id) with
  | none => exact absurd (List.find?_eq_none.1 hf org horg) (by simp)
  | some r => exact ⟨r, rfl⟩

/-- `POST /api/organization/logo` by an admin, the `SELECT` having answered `org`: a logo that fails a check is
answered with 400 `validation_error` and the check's message, the table left as it was; an accepted logo is written,
with `logoType: "custom"`, to the rows of `org`'s id, and sent back. -/
theorem uploadOrganizationLogo_admin (rows : List OrganizationRow) {org : OrganizationRow} (horg : org ∈ rows)
    (logo : String) :
    uploadOrganizationLogo rows (some ⟨true⟩) logo (some org) =
      match logoError logo with
      | some message => (.error 400 message "validation_error", rows)
      | none => (.logoUploaded (some logo),
          rows.map fun r => if r.id = org.id then { r with logoType := some "custom", logo := some logo } else r) := by
  obtain ⟨r, hf⟩ := find?_id_of_mem horg
  cases he : logoError logo with
  | some message => simp [uploadOrganizationLogo, he]
  | none =>
    simp [uploadOrganizationLogo, he, getOrCreateDefaultOrganizationAlone, updateAppearance, updateWhereId, hf,
      OrganizationSet.applyTo, logo_ne_empty_of_logoError he]

/-- `PATCH /api/organization` with `{logo}`: a non-empty logo that fails a check is answered with 500 `api_error`
and the check's message, the table left as it was. -/
theorem patchOrganization_rejects (rows : List OrganizationRow) (organizationId : String) {logo message : String}
    (hne : logo ≠ "") (he : logoError logo = some message) :
    patchOrganization rows organizationId ⟨none, none, some (some logo), none⟩ = (.error 500 message "api_error", rows) := by
  simp [patchOrganization, patch, hne, he]

/-- `PATCH /api/organization` with `{logo}` for the caller's organization `org`: the empty logo, or one that passes
the checks, is written to the rows of `org`'s id, and a row of that id is sent back with it. -/
theorem patchOrganization_writes (rows : List OrganizationRow) {org : OrganizationRow} (horg : org ∈ rows)
    {logo : String} (h : logo = "" ∨ logoError logo = none) :
    ∃ r : OrganizationRow, patchOrganization rows org.id ⟨none, none, some (some logo), none⟩ =
      (.organization { r with logo := some logo },
        rows.map fun r => if r.id = org.id then { r with logo := some logo } else r) := by
  obtain ⟨r, hf⟩ := find?_id_of_mem horg
  refine ⟨r, ?_⟩
  rcases h with rfl | he
  · simp [patchOrganization, patch, updateReturning, updateWhereId, hf, OrganizationSet.applyTo,
      UpdateOrganization.toSet]
  · simp [patchOrganization, patch, he, updateReturning, updateWhereId, hf, OrganizationSet.applyTo,
      UpdateOrganization.toSet]

/-- `PATCH /api/organization` with `{}`: Drizzle's `No values to set` is answered with 500 `api_error`, the table
left as it was. -/
theorem patchOrganization_empty (rows : List OrganizationRow) (organizationId : String) :
    patchOrganization rows organizationId ⟨none, none, none, none⟩ =
      (.error 500 "No values to set" "api_error", rows) :=
  rfl

/-- The two paths on the same organization `org`, for every table holding it and every logo `s`.  A logo that fails
a check is rejected by `POST` with 400 `validation_error` and, when it is not empty, by `PATCH` with 500 `api_error`,
with the same message and the table left as it was.  A logo that passes is written by both to the rows of `org`'s id,
`POST` also setting `logoType: "custom"`.  The empty logo is rejected by `POST` and written by `PATCH`. -/
theorem logo_paths_agree (rows : List OrganizationRow) (org : OrganizationRow) (horg : org ∈ rows) (s : String) :
    let post := uploadOrganizationLogo rows (some ⟨true⟩) s (some org)
    let patch := patchOrganization rows org.id ⟨none, none, some (some s), none⟩
    (∀ message, logoError s = some message →
      post = (.error 400 message "validation_error", rows) ∧
        (s ≠ "" → patch = (.error 500 message "api_error", rows))) ∧
    (logoError s = none →
      post = (.logoUploaded (some s),
          rows.map fun r => if r.id = org.id then { r with logoType := some "custom", logo := some s } else r) ∧
        ∃ r : OrganizationRow, patch = (.organization { r with logo := some s },
          rows.map fun r => if r.id = org.id then { r with logo := some s } else r)) ∧
    (s = "" → post = (.error 400 "Logo must be a PNG image in base64 format" "validation_error", rows) ∧
      ∃ r : OrganizationRow, patch = (.organization { r with logo := some "" },
        rows.map fun r => if r.id = org.id then { r with logo := some "" } else r)) := by
  dsimp only
  have hpost := uploadOrganizationLogo_admin rows horg s
  refine ⟨fun message he => ⟨by rw [hpost, he], fun hne => patchOrganization_rejects rows org.id hne he⟩,
    fun he => ⟨by rw [hpost, he], patchOrganization_writes rows horg (.inr he)⟩, ?_⟩
  rintro rfl
  exact ⟨by rw [hpost, logoError_empty], patchOrganization_writes rows horg (.inl rfl)⟩

/-- One organization `org-a` without a logo, written by a different path each time. -/
theorem logo_paths_agree_on_org_a :
    let org : OrganizationRow := ⟨"org-a", "A", "a", none, none, none, none, none⟩
    org ∈ [org] ∧
      let post := uploadOrganizationLogo [org] (some ⟨true⟩) "" (some org)
      let patch := patchOrganization [org] org.id ⟨none, none, some (some ""), none⟩
      (∀ message, logoError "" = some message →
        post = (.error 400 message "validation_error", [org]) ∧
          ("" ≠ "" → patch = (.error 500 message "api_error", [org]))) ∧
      (logoError "" = none →
        post = (.logoUploaded (some ""),
            [org].map fun r => if r.id = org.id then { r with logoType := some "custom", logo := some "" } else r) ∧
          ∃ r : OrganizationRow, patch = (.organization { r with logo := some "" },
            [org].map fun r => if r.id = org.id then { r with logo := some "" } else r)) ∧
      ("" = "" → post = (.error 400 "Logo must be a PNG image in base64 format" "validation_error", [org]) ∧
        ∃ r : OrganizationRow, patch = (.organization { r with logo := some "" },
          [org].map fun r => if r.id = org.id then { r with logo := some "" } else r)) :=
  ⟨List.mem_singleton_self _, logo_paths_agree _ _ (List.mem_singleton_self _) ""⟩

/-- The table of one organization `org-a` without a logo.  The logo `""`: `POST` rejects it with 400 and leaves the
table, `PATCH` answers 200 and stores it.  The logo `"x"`: both reject it, `PATCH` with 500 `api_error`. -/
theorem logo_paths_disagree :
    let org : OrganizationRow := ⟨"org-a", "A", "a", none, none, none, none, none⟩
    uploadOrganizationLogo [org] (some ⟨true⟩) "" (some org) =
        (.error 400 "Logo must be a PNG image in base64 format" "validation_error", [org]) ∧
      patchOrganization [org] org.id ⟨none, none, some (some ""), none⟩ =
        (.organization { org with logo := some "" }, [{ org with logo := some "" }]) ∧
      uploadOrganizationLogo [org] (some ⟨true⟩) "x" (some org) =
        (.error 400 "Logo must be a PNG image in base64 format" "validation_error", [org]) ∧
      patchOrganization [org] org.id ⟨none, none, some (some "x"), none⟩ =
        (.error 500 "Logo must be a PNG image in base64 format" "api_error", [org]) := by
  decide

end OrganizationRoutes

end Archestra
