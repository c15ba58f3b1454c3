import Archestra.Routes.Organization

/-!
# The appearance routes, one request after another

`GET` and `PUT /api/organization/appearance`, `POST` and `DELETE /api/organization/logo` each find the organization
through `getOrCreateDefaultOrganization`, whose `SELECT ... LIMIT 1` may answer any row of the table, and the writes
then update the rows of that organization's id.  Here the requests are served one after another (`Serves`), each
`SELECT` answering any row the table allows; the concurrent calls are the subject of `Archestra.Models.Organization`.
No statement throws in this model, so the handlers' `catch` blocks are not reached, and neither is the `GET`'s
`if (!organization)`, since `getOrCreateDefaultOrganization` returns a row.

What the routes are for is one appearance, read by every signed-in user and written by admins (`AppearanceSpec`).
The table refines it as long as it holds at most one row, which it keeps doing:

* `serve_length_le_one`: a request on a table of at most one row leaves at most one row, the default organization
  being created only in an empty table;
* `serve_refines`: on such a table every request answers as the same request on the one appearance, and leaves the
  appearance that request leaves;
* `serves_refines`: so does every run of requests from such a table, the empty one included: each `GET` shows the
  appearance the writes before it left;
* `serves_nonAdmin`: a run in which no caller is an admin leaves the appearance as it was, although a `GET` may
  create the default organization;
* `getOrganization_patchOrganization`: `GET /api/organization` reads back what a `PATCH` answered, on every table.
-/

namespace Archestra

/-- The object `OrganizationAppearanceSchema` describes, as the routes send it. -/
structure AppearanceSettings where
  theme : String
  customFont : String
  logoType : String
  logo : Option String
  deriving DecidableEq, Repr

/-- What the appearance routes send: a reply of the logo route's kinds, error bodies among them; the appearance
settings; or `{success: true}`. -/
inductive AppearanceReply where
  | reply (r : OrganizationReply)
  | settings (s : AppearanceSettings)
  | success
  deriving DecidableEq, Repr

/-- The appearance columns of a row. -/
def OrganizationRow.appearance (r : OrganizationRow) : Appearance := ⟨r.theme, r.customFont, r.logoType, r.logo⟩

/-- The columns an `UPDATE` writes, on an appearance. -/
def OrganizationSet.write (d : OrganizationSet) (a : Appearance) : Appearance :=
  ⟨d.theme.getD a.theme, d.customFont.getD a.customFont, d.logoType.getD a.logoType, d.logo.getD a.logo⟩

@[simp] theorem OrganizationSet.applyTo_id (d : OrganizationSet) (r : OrganizationRow) : (d.applyTo r).id = r.id :=
  rfl

@[simp] theorem OrganizationSet.applyTo_appearance (d : OrganizationSet) (r : OrganizationRow) :
    (d.applyTo r).appearance = d.write r.appearance :=
  rfl

namespace OrganizationRoutes

open OrganizationModel

/-- `GET /api/organization/appearance`: the appearance columns of the organization, each or its default. -/
def getOrganizationAppearance (rows : List OrganizationRow) (user : Option SessionUser)
    (existingOrg : Option OrganizationRow) : AppearanceReply × List OrganizationRow :=
  match user with
  | none => (.reply (.error 401 "Unauthorized" "unauthorized"), rows)
  | some _ =>
    let (organization, rows) := getOrCreateDefaultOrganizationAlone rows existingOrg
    (.settings ⟨(organization.theme.filter (· ≠ "")).getD "cosmic-night",
      (organization.customFont.filter (· ≠ "")).getD "lato",
      (organization.logoType.filter (· ≠ "")).getD "default", organization.logo.filter (· ≠ "")⟩, rows)

/-- `PUT /api/organization/appearance` with `body`.  `updateAppearance(organization.id, request.body)` writes the
columns the body holds, as it does for the logo routes; the reply sends the written logo as it is. -/
def updateOrganizationAppearance (rows : List OrganizationRow) (user : Option SessionUser) (body : OrganizationSet)
    (existingOrg : Option OrganizationRow) : AppearanceReply × List OrganizationRow :=
  match user with
  | none => (.reply (.error 401 "Unauthorized" "unauthorized"), rows)
  | some user =>
    if !user.isAdmin then (.reply (.error 403 "Forbidden: Admin access required" "forbidden"), rows)
    else
      let (organization, rows) := getOrCreateDefaultOrganizationAlone rows existingOrg
      match updateWhereId rows organization.id body with
      | (none, rows) => (.reply (.error 500 "Failed to update organization" "api_error"), rows)
      | (some updatedOrg, rows) =>
        (.settings ⟨(updatedOrg.theme.filter (· ≠ "")).getD "cosmic-night",
          (updatedOrg.customFont.filter (· ≠ "")).getD "lato",
          (updatedOrg.logoType.filter (· ≠ "")).getD "default", updatedOrg.logo⟩, rows)

/-- `DELETE /api/organization/logo`: `logo: null, logoType: "default"`. -/
def deleteOrganizationLogo (rows : List OrganizationRow) (user : Option SessionUser)
    (existingOrg : Option OrganizationRow) : AppearanceReply × List OrganizationRow :=
  match user with
  | none => (.reply (.error 401 "Unauthorized" "unauthorized"), rows)
  | some user =>
    if !user.isAdmin then (.reply (.error 403 "Forbidden: Admin access required" "forbidden"), rows)
    else
      let (organization, rows) := getOrCreateDefaultOrganizationAlone rows existingOrg
      match updateAppearance rows organization.id none (some "default") with
      | (none, rows) => (.reply (.error 500 "Failed to delete logo" "api_error"), rows)
      | (some _, rows) => (.success, rows)

/-- `OrganizationModel.getById(id)`: `SELECT ... WHERE id = id LIMIT 1`. -/
def getById (rows : List OrganizationRow) (id : String) : Option OrganizationRow := rows.find? (·.id == id)

/-- `GET /api/organization` for the caller's `organizationId`. -/
def getOrganization (rows : List OrganizationRow) (organizationId : String) : OrganizationReply :=
  match getById rows organizationId with
  | none => .error 404 "Organization not found" "not_found"
  | some organization => .organization organization

/-! ### Requests one after another -/

/-- A request to the appearance routes. -/
inductive AppearanceRequest where
  | getAppearance
  | updateAppearance (body : OrganizationSet)
  | uploadLogo (logo : String)
  | deleteLogo
  deriving DecidableEq, Repr

/-- One request by `user`, the `SELECT` of `getOrCreateDefaultOrganization` answering `existingOrg`. -/
def serve (rows : List OrganizationRow) (user : Option SessionUser) (existingOrg : Option OrganizationRow) :
    AppearanceRequest → AppearanceReply × List OrganizationRow
  | .getAppearance => getOrganizationAppearance rows user existingOrg
  | .updateAppearance body => updateOrganizationAppearance rows user body existingOrg
  | .uploadLogo logo => Prod.map .reply id (uploadOrganizationLogo rows user logo existingOrg)
  | .deleteLogo => deleteOrganizationLogo rows user existingOrg

/-- Requests `(user, request)` served one after another from a table, each `SELECT` answering one of the answers the
table allows: their replies, and the table they leave. -/
inductive Serves : List OrganizationRow → List (Option SessionUser × AppearanceRequest) → List AppearanceReply →
    List OrganizationRow → Prop
  | nil (rows : List OrganizationRow) : Serves rows [] [] rows
  | cons {rows : List OrganizationRow} {user : Option SessionUser} {request : AppearanceRequest}
      {existingOrg : Option OrganizationRow} {rest : List (Option SessionUser × AppearanceRequest)}
      {replies : List AppearanceReply} {rows' : List OrganizationRow} :
      existingOrg ∈ selectFirstAnswers rows → Serves (serve rows user existingOrg request).2 rest replies rows' →
      Serves rows ((user, request) :: rest) ((serve rows user existingOrg request).1 :: replies) rows'

end OrganizationRoutes

/-! ### What the routes are for: one appearance -/

namespace AppearanceSpec

open OrganizationRoutes

/-- The settings an appearance shows: each column, or its default when it is unset or empty. -/
def settings (a : Appearance) : AppearanceSettings :=
  ⟨(a.theme.filter (· ≠ "")).getD "cosmic-night", (a.customFont.filter (· ≠ "")).getD "lato",
    (a.logoType.filter (· ≠ "")).getD "default", a.logo.filter (· ≠ "")⟩

/-- A write by `user`: the reply and appearance `k` for an admin, 403 otherwise. -/
def byAdmin (user : SessionUser) (a : Appearance) (k : AppearanceReply × Appearance) : AppearanceReply × Appearance :=
  if !user.isAdmin then (.reply (.error 403 "Forbidden: Admin access required" "forbidden"), a) else k

/-- One request on the appearance: a signed-in user reads it, an admin writes it, an uploaded logo being checked
first.  A `PUT` answers the written settings with the logo as written, an upload the logo, a deletion success. -/
def step (a : Appearance) : Option SessionUser → AppearanceRequest → AppearanceReply × Appearance
  | none, _ => (.reply (.error 401 "Unauthorized" "unauthorized"), a)
  | some _, .getAppearance => (.settings (settings a), a)
  | some user, .updateAppearance body =>
    byAdmin user a (.settings { settings (body.write a) with logo := (body.write a).logo }, body.write a)
  | some user, .uploadLogo logo =>
    byAdmin user a <|
      match logoError logo with
      | some message => (.reply (.error 400 message "validation_error"), a)
      | none => (.reply (.logoUploaded (some logo)), { a with logoType := some "custom", logo := some logo })
  | some user, .deleteLogo => byAdmin user a (.success, { a with logoType := some "default", logo := none })

/-- Requests one after another on the appearance. -/
def run (a : Appearance) : List (Option SessionUser × AppearanceRequest) → List AppearanceReply × Appearance
  | [] => ([], a)
  | (user, request) :: rest =>
    ((step a user request).1 :: (run (step a user request).2 rest).1, (run (step a user request).2 rest).2)

/-- A caller who is not an admin leaves the appearance as it was. -/
theorem step_nonAdmin (a : Appearance) {user : Option SessionUser} (hu : user ≠ some ⟨true⟩)
    (request : AppearanceRequest) : (step a user request).2 = a := by
  rcases user with _ | ⟨_ | _⟩
  · rfl
  · cases request <;> rfl
  · exact absurd rfl hu

/-- Requests of which none is an admin's answer as on the first appearance, and leave it as it was. -/
theorem run_nonAdmin (a : Appearance) {requests : List (Option SessionUser × AppearanceRequest)}
    (hu : ∀ p ∈ requests, p.1 ≠ some ⟨true⟩) :
    run a requests = (requests.map fun p => (step a p.1 p.2).1, a) := by
  induction requests with
  | nil => rfl
  | cons p rest ih =>
    have hp := step_nonAdmin a (hu p (List.mem_cons_self _ _)) p.2
    rw [run, hp, ih fun q hq => hu q (List.mem_cons_of_mem _ hq)]
    rfl

end AppearanceSpec

/-! ### The table refines the appearance -/

namespace OrganizationRoutes

open OrganizationModel AppearanceSpec

/-- The appearance a table shows: that of its first row, or of the default organization an empty table gets. -/
def appearanceOf (rows : List OrganizationRow) : Appearance := (rows.headD defaultOrganization).appearance

/-- On a table of at most one row, `getOrCreateDefaultOrganization` returns the row, or creates it in the empty
table, and leaves the table holding that row alone. -/
theorem getOrCreateDefaultOrganizationAlone_of_length_le_one {rows : List OrganizationRow}
    (hrows : rows.length ≤ 1) {existingOrg : Option OrganizationRow} (he : existingOrg ∈ selectFirstAnswers rows) :
    getOrCreateDefaultOrganizationAlone rows existingOrg =
      (rows.headD defaultOrganization, [rows.headD defaultOrganization]) := by
  rcases rows with _ | ⟨r, _ | ⟨_, _⟩⟩
  · rw [List.mem_singleton.1 he]
    rfl
  · rw [List.mem_singleton.1 (show existingOrg ∈ [some r] from he)]
    rfl
  · exact absurd hrows (by simp)

theorem updateWhereId_singleton (org : OrganizationRow) (d : OrganizationSet) :
    updateWhereId [org] org.id d = (some (d.applyTo org), [d.applyTo org]) := by
  simp [updateWhereId]

/-- On a table of at most one row, every request answers as the same request on the table's appearance, leaves the
appearance that request leaves, and leaves at most one row. -/
theorem serve_refines {rows : List OrganizationRow} (hrows : rows.length ≤ 1) {existingOrg : Option OrganizationRow}
    (he : existingOrg ∈ selectFirstAnswers rows) (user : Option SessionUser) (request : AppearanceRequest) :
    (serve rows user existingOrg request).1 = (step (appearanceOf rows) user request).1 ∧
      appearanceOf (serve rows user existingOrg request).2 = (step (appearanceOf rows) user request).2 ∧
      (serve rows user existingOrg request).2.length ≤ 1 := by
  have hgc := getOrCreateDefaultOrganizationAlone_of_length_le_one hrows he
  rcases user with _ | ⟨_ | _⟩
  · cases request <;> exact ⟨rfl, rfl, hrows⟩
  · cases request
    · simp only [serve, getOrganizationAppearance, hgc]
      exact ⟨rfl, rfl, le_refl _⟩
    all_goals exact ⟨rfl, rfl, hrows⟩
  · cases request with
    | getAppearance =>
      simp only [serve, getOrganizationAppearance, hgc]
      exact ⟨rfl, rfl, le_refl _⟩
    | updateAppearance body =>
      simp only [serve, updateOrganizationAppearance, hgc, updateWhereId_singleton]
      exact ⟨rfl, rfl, le_refl _⟩
    | uploadLogo logo =>
      cases hl : logoError logo with
      | some message =>
        simp only [serve, uploadOrganizationLogo, hl]
        exact ⟨by simp [step, byAdmin, hl], by simp [step, byAdmin, hl], hrows⟩
      | none =>
        have hne := logo_ne_empty_of_logoError hl
        simp only [serve, uploadOrganizationLogo, hl, hgc, updateAppearance, updateWhereId_singleton, step, byAdmin]
        refine ⟨?_, rfl, le_refl _⟩
        simp [OrganizationSet.applyTo, hne]
    | deleteLogo =>
      simp only [serve, deleteOrganizationLogo, hgc, updateAppearance, updateWhereId_singleton]
      exact ⟨rfl, rfl, le_refl _⟩

/-- Every run of requests from a table of at most one row, the empty one included, answers as the same requests on
the table's appearance, one after another, and leaves the appearance they leave, in a table of at most one row. -/
theorem serves_refines {init rows : List OrganizationRow} {requests : List (Option SessionUser × AppearanceRequest)}
    {replies : List AppearanceReply} (h : Serves init requests replies rows) (hinit : init.length ≤ 1) :
    (replies, appearanceOf rows) = AppearanceSpec.run (appearanceOf init) requests ∧ rows.length ≤ 1 := by
  induction h with
  | nil => exact ⟨rfl, hinit⟩
  | cons he _ ih =>
    obtain ⟨h1, h2, h3⟩ := serve_refines hinit he _ _
    obtain ⟨ih1, ih2⟩ := ih h3
    rw [h2] at ih1
    exact ⟨by rw [AppearanceSpec.run, ← h1, ← ih1], ih2⟩

/-- A run from a table of at most one row in which no caller is an admin answers every request as on the table's
first appearance, and leaves that appearance, although a `GET` may create the default organization. -/
theorem serves_nonAdmin {init rows : List OrganizationRow} {requests : List (Option SessionUser × AppearanceRequest)}
    {replies : List AppearanceReply} (h : Serves init requests replies rows) (hinit : init.length ≤ 1)
    (hu : ∀ p ∈ requests, p.1 ≠ some ⟨true⟩) :
    replies = requests.map (fun p => (step (appearanceOf init) p.1 p.2).1) ∧
      appearanceOf rows = appearanceOf init := by
  have href := (serves_refines h hinit).1
  rw [run_nonAdmin _ hu, Prod.mk.injEq] at href
  exact href

/-- From the empty table, a member tries to delete the logo, then reads the appearance, which creates the default
organization. -/
theorem serves_nonAdmin_member_get :
    let requests : List (Option SessionUser × AppearanceRequest) :=
      [(some ⟨false⟩, .deleteLogo), (some ⟨false⟩, .getAppearance)]
    let replies : List AppearanceReply :=
      [.reply (.error 403 "Forbidden: Admin access required" "forbidden"),
        .settings ⟨"cosmic-night", "lato", "default", none⟩]
    Serves [] requests replies [defaultOrganization] ∧ ([] : List OrganizationRow).length ≤ 1 ∧
      (∀ p ∈ requests, p.1 ≠ some ⟨true⟩) ∧
      replies = requests.map (fun p => (step (appearanceOf []) p.1 p.2).1) ∧
        appearanceOf [defaultOrganization] = appearanceOf [] :=
  have h : Serves [] [(some ⟨false⟩, .deleteLogo), (some ⟨false⟩, .getAppearance)]
      [.reply (.error 403 "Forbidden: Admin access required" "forbidden"),
        .settings ⟨"cosmic-night", "lato", "default", none⟩] [defaultOrganization] :=
    @Serves.cons [] _ _ none _ _ _ (List.mem_singleton_self _) <|
      @Serves.cons _ _ _ none _ _ _ (List.mem_singleton_self _) (.nil _)
  have hu : ∀ p ∈ [(some (⟨false⟩ : SessionUser), AppearanceRequest.deleteLogo),
      (some ⟨false⟩, .getAppearance)], p.1 ≠ some ⟨true⟩ := by decide
  ⟨h, Nat.zero_le _, hu, serves_nonAdmin h (Nat.zero_le _) hu⟩

/-- From the empty table, an admin deletes the logo and a member reads the appearance. -/
theorem serves_refines_delete_then_get :
    let deleted : OrganizationRow := { defaultOrganization with logoType := some "default", logo := none }
    let requests : List (Option SessionUser × AppearanceRequest) :=
      [(some ⟨true⟩, .deleteLogo), (some ⟨false⟩, .getAppearance)]
    let replies : List AppearanceReply := [.success, .settings ⟨"cosmic-night", "lato", "default", none⟩]
    Serves [] requests replies [deleted] ∧ ([] : List OrganizationRow).length ≤ 1 ∧
      (replies, appearanceOf [deleted]) = AppearanceSpec.run (appearanceOf []) requests ∧ [deleted].length ≤ 1 :=
  have h : Serves [] [(some ⟨true⟩, .deleteLogo), (some ⟨false⟩, .getAppearance)]
      [.success, .settings ⟨"cosmic-night", "lato", "default", none⟩]
      [{ defaultOrganization with logoType := some "default", logo := none }] :=
    @Serves.cons [] _ _ none _ _ _ (List.mem_singleton_self _) <|
      @Serves.cons _ _ _ (some { defaultOrganization with logoType := some "default", logo := none }) _ _ _
        (List.mem_singleton_self _) (.nil _)
  ⟨h, Nat.zero_le _, serves_refines h (Nat.zero_le _)⟩

/-! ### Reading back a `PATCH` -/

/-- What `patch` returns when it does not throw: the `UPDATE` of the body's columns. -/
theorem patch_eq_ok {rows : List OrganizationRow} {id : String} {data : UpdateOrganization}
    {r : Option OrganizationRow × List OrganizationRow} (h : patch rows id data = .ok r) :
    r = updateWhereId rows id data.toSet := by
  unfold patch at h
  repeat' split at h
  all_goals first | exact updateReturning_eq_ok h | cases h

/-- The rows an `UPDATE ... WHERE id = id` leaves hold, first for that id, the row it returned. -/
theorem getById_updateWhereId (rows : List OrganizationRow) (id : String) (d : OrganizationSet) :
    getById (updateWhereId rows id d).2 id = (updateWhereId rows id d).1 := by
  induction rows with
  | nil => rfl
  | cons r rows ih =>
    by_cases hr : r.id = id
    · simp [getById, updateWhereId, hr]
    · simpa [getById, updateWhereId, hr] using ih

/-- `GET /api/organization` reads back, for the same caller, the organization a `PATCH` answered, on every table and
for every body. -/
theorem getOrganization_patchOrganization (rows : List OrganizationRow) (organizationId : String)
    (body : UpdateOrganization) {org : OrganizationRow} {rows' : List OrganizationRow}
    (h : patchOrganization rows organizationId body = (.organization org, rows')) :
    getOrganization rows' organizationId = .organization org := by
  unfold patchOrganization at h
  split at h
  · cases h
  · cases h
  · next hp =>
    simp only [Prod.mk.injEq, OrganizationReply.organization.injEq] at h
    obtain ⟨rfl, rfl⟩ := h
    have hu := patch_eq_ok hp
    rw [Prod.ext_iff] at hu
    dsimp only at hu
    rw [getOrganization, hu.2, getById_updateWhereId, ← hu.1]

/-- One organization `org-a`, patched to the theme `ocean`. -/
theorem getOrganization_patchOrganization_theme :
    let org : OrganizationRow := ⟨"org-a", "A", "a", none, none, none, none, none⟩
    patchOrganization [org] "org-a" ⟨some (some "ocean"), none, none, none⟩ =
        (.organization { org with theme := some "ocean" }, [{ org with theme := some "ocean" }]) ∧
      getOrganization [{ org with theme := some "ocean" }] "org-a" = .organization { org with theme := some "ocean" } :=
  have h : patchOrganization [⟨"org-a", "A", "a", none, none, none, none, none⟩] "org-a"
      ⟨some (some "ocean"), none, none, none⟩ =
      (.organization ⟨"org-a", "A", "a", some "ocean", none, none, none, none⟩,
        [⟨"org-a", "A", "a", some "ocean", none, none, none, none⟩]) := rfl
  ⟨h, getOrganization_patchOrganization _ _ _ h⟩

end OrganizationRoutes

end Archestra
