import Archestra.Routes.Appearance

/-!
# The appearance settings page against the appearance routes

`AppearanceSettingsPage` keeps the selected theme and font in state, initialised to the defaults while the
appearance query has no data.  Two effects keep them in step with the query: on a new `appearance` the first takes
the selection from it, and on every change of the selection or of `appearance` the second sets `hasChanges` to
whether the selection differs from `appearance?.theme || "cosmic-night"` and `appearance?.customFont || "lato"`.
The Save and Cancel buttons are rendered only with `hasChanges`, disabled while the update is pending.  `handleSave`
awaits the `PUT` of the selection it was rendered with, invalidates the query, and sets `hasChanges` to `false`;
`handleReset` takes the selection back from `appearance`.

The page runs against the appearance the routes stand for (`AppearanceSpec`), written by the page's `PUT` and by other
admins, and read by the query's refetches.  An event is taken together with the effects it sets off, run until none
is left: the states of the model are the page once its effects have settled, and the results speak of those.  The
commits in between are not states of the model: when new data arrives, the second effect first runs with the
selection of the render that saw the data, so one commit can show `hasChanges` with the selection equal to the data,
until the first effect's new selection runs the second effect again.  The query keeps the same object for the same
data, so an equal refetch runs no effect.

* `noFalseAlarm_run`, `noFalseAlarm_from_mount`: in every run, once the effects have settled, the Save button is
  shown only when the selection differs from the query's data;
* `exact_run`: in every run without a successful save, it is shown exactly then;
* `save_then_select_discarded`: a theme selected while a save is pending hides the Save button when the save
  resolves, although it differs from what was saved, and the refetch that follows replaces it by the saved theme.
-/

namespace Archestra

namespace AppearanceSettingsPage

/-- `appearance?.theme || "cosmic-night"` and `appearance?.customFont || "lato"`. -/
def stored (appearance : Option AppearanceSettings) : String × String :=
  (((appearance.map (·.theme)).filter (· ≠ "")).getD "cosmic-night",
    ((appearance.map (·.customFont)).filter (· ≠ "")).getD "lato")

/-- The page's state: the query's data, the selection, `hasChanges`, and the body of the pending update. -/
structure Page where
  appearance : Option AppearanceSettings
  selectedTheme : String
  selectedFont : String
  hasChanges : Bool
  pending : Option (String × String)
  deriving DecidableEq, Repr

namespace Page

/-- The state at mount, while the query has no data. -/
def init : Page := ⟨none, "cosmic-night", "lato", false, none⟩

/-- The second effect: `setHasChanges(themeChanged || fontChanged)`. -/
def recompute (p : Page) : Page :=
  { p with hasChanges := decide (p.selectedTheme ≠ (stored p.appearance).1) ||
      decide (p.selectedFont ≠ (stored p.appearance).2) }

/-- The query delivers `data`.  A new object runs the first effect, which takes the selection from it, and the
second; equal data keeps its object and runs neither. -/
def receive (p : Page) (data : AppearanceSettings) : Page :=
  if p.appearance = some data then p
  else
    { p with
      appearance := some data
      selectedTheme := (stored (some data)).1
      selectedFont := (stored (some data)).2 }.recompute

/-- `setSelectedTheme(theme)`: the same value renders nothing; another runs the second effect. -/
def selectTheme (p : Page) (theme : String) : Page :=
  if theme = p.selectedTheme then p else { p with selectedTheme := theme }.recompute

/-- `setSelectedFont(font)`. -/
def selectFont (p : Page) (font : String) : Page :=
  if font = p.selectedFont then p else { p with selectedFont := font }.recompute

/-- Whether the Save and Cancel buttons can be clicked: rendered with `hasChanges`, enabled unless pending. -/
def canClick (p : Page) : Bool := p.hasChanges && p.pending.isNone

/-- A click on Save Changes: `mutateAsync` of the selection. -/
def save (p : Page) : Page :=
  if p.canClick then { p with pending := some (p.selectedTheme, p.selectedFont) } else p

/-- `handleReset`: the selection taken back from `appearance`, and `setHasChanges(false)`. -/
def reset (p : Page) : Page :=
  { p with
    selectedTheme := (stored p.appearance).1
    selectedFont := (stored p.appearance).2
    hasChanges := false }

/-- A click on Cancel: `handleReset`, and the second effect when the selection changed. -/
def cancel (p : Page) : Page :=
  if p.canClick then
    if (p.reset.selectedTheme, p.reset.selectedFont) = (p.selectedTheme, p.selectedFont) then p.reset
    else p.reset.recompute
  else p

/-- `mutateAsync` resolves: the query is invalidated, and `setHasChanges(false)` changes no dependency of the
effects. -/
def resolve (p : Page) : Page := { p with pending := none, hasChanges := false }

/-- `mutateAsync` rejects, and `handleSave` with it, before `setHasChanges(false)`. -/
def reject (p : Page) : Page := { p with pending := none }

end Page

/-- The body `{ theme: selectedTheme, customFont: selectedFont }` of the update. -/
def saveBody (theme font : String) : OrganizationSet := ⟨some (some theme), some (some font), none, none, none⟩

/-- The page and the appearance on the server. -/
structure Sys where
  page : Page
  server : Appearance
  deriving DecidableEq, Repr

/-- What can happen: the user selects or clicks, the page's update resolves (the server having written it) or
rejects, the query refetches the `GET`, or another admin's `PUT` is served. -/
inductive Event where
  | selectTheme (theme : String)
  | selectFont (font : String)
  | save
  | cancel
  | saveResolved
  | saveRejected
  | refetch
  | otherWrite (body : OrganizationSet)
  deriving DecidableEq, Repr

/-- An admin, as the page's user and the other writers are. -/
def admin : SessionUser := ⟨true⟩

namespace Sys

/-- One event.  A refetch delivers the settings the `GET` answers, `AppearanceSpec.settings` of the server's
appearance. -/
def step (s : Sys) : Event → Sys
  | .selectTheme theme => { s with page := s.page.selectTheme theme }
  | .selectFont font => { s with page := s.page.selectFont font }
  | .save => { s with page := s.page.save }
  | .cancel => { s with page := s.page.cancel }
  | .saveResolved =>
    match s.page.pending with
    | some (theme, font) =>
      ⟨s.page.resolve, (AppearanceSpec.step s.server (some admin) (.updateAppearance (saveBody theme font))).2⟩
    | none => s
  | .saveRejected => if s.page.pending.isSome then { s with page := s.page.reject } else s
  | .refetch => { s with page := s.page.receive (AppearanceSpec.settings s.server) }
  | .otherWrite body => { s with server := (AppearanceSpec.step s.server (some admin) (.updateAppearance body)).2 }

/-- Events one after another. -/
def run (s : Sys) : List Event → Sys
  | [] => s
  | e :: es => (s.step e).run es

end Sys

/-! ## `hasChanges` -/

namespace Page

/-- The Save button is shown only when the selection differs from the query's data. -/
def NoFalseAlarm (p : Page) : Prop := p.hasChanges = true → (p.selectedTheme, p.selectedFont) ≠ stored p.appearance

/-- The Save button is shown exactly when the selection differs from the query's data. -/
def Exact (p : Page) : Prop := p.hasChanges = decide ((p.selectedTheme, p.selectedFont) ≠ stored p.appearance)

theorem recompute_exact (p : Page) : p.recompute.Exact := by
  simp only [Exact, recompute, ne_eq, Prod.ext_iff, not_and_or, Bool.decide_or]

theorem Exact.noFalseAlarm {p : Page} (h : p.Exact) : p.NoFalseAlarm := fun hc => by
  rw [h] at hc
  exact of_decide_eq_true hc

theorem noFalseAlarm_of_hasChanges_false {p : Page} (h : p.hasChanges = false) : p.NoFalseAlarm := fun hc => by
  rw [h] at hc
  cases hc

/-- Keeping the page, or recomputing `hasChanges`, keeps it exact. -/
theorem exact_ite {c : Prop} [Decidable c] {p q : Page} (h : p.Exact) : (if c then p else q.recompute).Exact := by
  split
  · exact h
  · exact recompute_exact q

/-- Keeping the page, or recomputing `hasChanges`, raises no false alarm. -/
theorem noFalseAlarm_ite {c : Prop} [Decidable c] {p q : Page} (h : p.NoFalseAlarm) :
    (if c then p else q.recompute).NoFalseAlarm := by
  split
  · exact h
  · exact (recompute_exact q).noFalseAlarm

theorem reset_exact (p : Page) : p.reset.Exact := by
  simp only [Exact, reset, ne_eq, not_true_eq_false, decide_False]

theorem cancel_exact (p : Page) (h : p.Exact) : p.cancel.Exact := by
  unfold cancel
  split
  · exact exact_ite (reset_exact p)
  · exact h

end Page

namespace Sys

/-- A selection or a refetch recomputes `hasChanges`, a click or a rejection leaves it, and every other step clears
it: none raises a false alarm. -/
theorem step_noFalseAlarm (s : Sys) (e : Event) (h : s.page.NoFalseAlarm) : (s.step e).page.NoFalseAlarm := by
  cases e with
  | selectTheme theme => exact Page.noFalseAlarm_ite (p := s.page) h
  | selectFont font => exact Page.noFalseAlarm_ite (p := s.page) h
  | save =>
    show s.page.save.NoFalseAlarm
    unfold Page.save
    split <;> exact h
  | cancel =>
    show s.page.cancel.NoFalseAlarm
    unfold Page.cancel
    split
    · exact Page.noFalseAlarm_ite (Page.reset_exact _).noFalseAlarm
    · exact h
  | saveResolved =>
    rcases hp : s.page.pending with _ | ⟨theme, font⟩
    · simp only [step, hp]
      exact h
    · simp only [step, hp]
      exact Page.noFalseAlarm_of_hasChanges_false rfl
  | saveRejected =>
    show (if s.page.pending.isSome then { s with page := s.page.reject } else s).page.NoFalseAlarm
    split <;> exact h
  | refetch => exact Page.noFalseAlarm_ite (p := s.page) h
  | otherWrite body => exact h

/-- Every event but a successful save keeps `hasChanges` exact. -/
theorem step_exact (s : Sys) (e : Event) (he : e ≠ .saveResolved) (h : s.page.Exact) : (s.step e).page.Exact := by
  cases e with
  | selectTheme theme => exact Page.exact_ite (p := s.page) h
  | selectFont font => exact Page.exact_ite (p := s.page) h
  | save =>
    show s.page.save.Exact
    unfold Page.save
    split <;> exact h
  | cancel => exact Page.cancel_exact _ h
  | saveResolved => exact absurd rfl he
  | saveRejected =>
    show (if s.page.pending.isSome then { s with page := s.page.reject } else s).page.Exact
    split <;> exact h
  | refetch => exact Page.exact_ite (p := s.page) h
  | otherWrite body => exact h

end Sys

/-- In every run from a page that raises no false alarm, the mounted page among them, the Save button is shown only
when the selection differs from the query's data. -/
theorem noFalseAlarm_run (evs : List Event) : ∀ s : Sys, s.page.NoFalseAlarm → (s.run evs).page.NoFalseAlarm := by
  induction evs with
  | nil => exact fun _ h => h
  | cons e es ih => exact fun s h => ih _ (s.step_noFalseAlarm e h)

/-- From mount, whatever the server holds and whatever happens, once the effects have settled the Save button is
shown only when the selection differs from the query's data. -/
theorem noFalseAlarm_from_mount (server : Appearance) (evs : List Event) :
    ((⟨Page.init, server⟩ : Sys).run evs).page.NoFalseAlarm :=
  noFalseAlarm_run evs _ (Page.noFalseAlarm_of_hasChanges_false rfl)

/-- In every run without a successful save from a page where `hasChanges` is exact, the mounted page among them, the
Save button is shown exactly when the selection differs from the query's data. -/
theorem exact_run (evs : List Event) (hevs : Event.saveResolved ∉ evs) :
    ∀ s : Sys, s.page.Exact → (s.run evs).page.Exact := by
  induction evs with
  | nil => exact fun _ h => h
  | cons e es ih =>
    intro s h
    have hne : e ≠ .saveResolved := fun he => hevs (he ▸ List.mem_cons_self _ _)
    exact ih (fun hm => hevs (List.mem_cons_of_mem _ hm)) _ (s.step_exact e hne h)

/-- The page's update written by an admin: the selection's theme and font, the logo as it was. -/
theorem server_saveBody (server : Appearance) (theme font : String) :
    (AppearanceSpec.step server (some admin) (.updateAppearance (saveBody theme font))).2 =
      ⟨some theme, some font, server.logoType, server.logo⟩ :=
  rfl

/-- From every page that raises no false alarm, a click on Save, a theme `y` selected while the update is pending,
and the update resolving: the Save button is hidden although `y` is not the theme saved; the refetch then replaces
`y` by the saved theme, which the server holds, so `y` is neither saved nor shown. -/
theorem save_then_select_discarded (s : Sys) (hs : s.page.NoFalseAlarm) (hc : s.page.canClick = true)
    (hx : s.page.selectedTheme ≠ "") (hf : s.page.selectedFont ≠ "") (y : String) (hy : y ≠ s.page.selectedTheme) :
    let s₃ := s.run [.save, .selectTheme y, .saveResolved]
    let s₄ := s₃.step .refetch
    s₃.page.hasChanges = false ∧ s₃.page.selectedTheme = y ∧
      s₄.server.theme = some s.page.selectedTheme ∧ s₄.page.selectedTheme = s.page.selectedTheme := by
  intro s₃ s₄
  have hch : s.page.hasChanges = true := by simp only [Page.canClick, Bool.and_eq_true] at hc; exact hc.1
  have h₃ : s₃ = ⟨{ s.page with selectedTheme := y, hasChanges := false, pending := none },
      ⟨some s.page.selectedTheme, some s.page.selectedFont, s.server.logoType, s.server.logo⟩⟩ := by
    simp only [s₃, Sys.run, Sys.step, Page.save, hc, if_true, Page.selectTheme, hy, if_false, Page.resolve,
      server_saveBody]
    rfl
  have hset : (AppearanceSpec.settings s₃.server).theme = s.page.selectedTheme ∧
      (AppearanceSpec.settings s₃.server).customFont = s.page.selectedFont := by
    rw [h₃]
    simp only [AppearanceSpec.settings, Option.filter_some, hx, hf, ne_eq, not_false_eq_true, decide_True, if_true,
      Option.getD_some, and_self]
  have hnew : s₃.page.appearance ≠ some (AppearanceSpec.settings s₃.server) := fun h => by
    apply hs hch
    rw [show s₃.page.appearance = s.page.appearance by rw [h₃]] at h
    simp only [stored, h, Option.map_some', hset.1, hset.2, Option.filter_some, hx, hf, ne_eq, not_false_eq_true,
      decide_True, if_true, Option.getD_some]
  refine ⟨by rw [h₃], by rw [h₃], show (s₃.step .refetch).server.theme = _ by rw [h₃]; rfl, ?_⟩
  show (s₃.page.receive _).selectedTheme = _
  rw [Page.receive, if_neg hnew]
  simp only [Page.recompute, stored, Option.map_some', hset.1, Option.filter_some, hx, ne_eq, not_false_eq_true,
    decide_True, if_true, Option.getD_some]

/-- The page shows the default appearance, `aubergine` is selected and saved, and `jade` is selected meanwhile. -/
theorem save_then_select_discarded_jade :
    let s : Sys := ⟨⟨some ⟨"cosmic-night", "lato", "default", none⟩, "aubergine", "lato", true, none⟩,
      ⟨none, none, none, none⟩⟩
    s.page.NoFalseAlarm ∧ s.page.canClick = true ∧ s.page.selectedTheme ≠ "" ∧ s.page.selectedFont ≠ "" ∧
      "jade" ≠ s.page.selectedTheme ∧
      (let s₃ := s.run [.save, .selectTheme "jade", .saveResolved]
      let s₄ := s₃.step .refetch
      s₃.page.hasChanges = false ∧ s₃.page.selectedTheme = "jade" ∧
        s₄.server.theme = some s.page.selectedTheme ∧ s₄.page.selectedTheme = s.page.selectedTheme) :=
  have hs : Page.NoFalseAlarm ⟨some ⟨"cosmic-night", "lato", "default", none⟩, "aubergine", "lato", true, none⟩ :=
    fun _ => by decide
  ⟨hs, rfl, by decide, by decide, by decide,
    save_then_select_discarded ⟨⟨some ⟨"cosmic-night", "lato", "default", none⟩, "aubergine", "lato", true, none⟩,
      ⟨none, none, none, none⟩⟩ hs rfl (by decide) (by decide) _ (by decide)⟩

end AppearanceSettingsPage

end Archestra
