import Mathlib.Data.List.Basic

/-!
# The default organization, under concurrent calls

`OrganizationModel.getOrCreateDefaultOrganization` runs two autocommit statements: `SELECT ... LIMIT 1`, and when
that finds nothing, `INSERT` of the row `default-org`.  A `SELECT` without `ORDER BY` may return any row first, so
the scheduler picks the row.  Organization updates (the appearance `PUT`) rewrite the appearance columns of a row
between the statements of the calls.

* `getOrCreateDefaultOrganization_race`: with two rows two calls may return different organizations, and on an
  empty table two calls that both find it empty race on the primary key: one of them throws;
* `getOrCreateDefaultOrganization_concurrent`: under every interleaving, at most the one row `default-org` is
  created, and only on an empty table; a call returns a row of the table, or throws a unique violation after it
  found the table empty; and from a table of at most one row, all calls that return give the same organization.
-/

namespace Archestra

/-- A row of `organization`: its key, the columns of the default row, the appearance columns, and
`limit_cleanup_interval`.  `created_at` and `metadata` are read by no modelled function. -/
structure OrganizationRow where
  id : String
  name : String
  slug : String
  theme : Option String
  customFont : Option String
  logoType : Option String
  logo : Option String
  limitCleanupInterval : Option String
  deriving DecidableEq, Repr

/-- The appearance settings an update writes. -/
structure Appearance where
  theme : Option String
  customFont : Option String
  logoType : Option String
  logo : Option String
  deriving DecidableEq, Repr

/-- The row with the appearance columns set. -/
def Appearance.applyTo (a : Appearance) (r : OrganizationRow) : OrganizationRow :=
  { r with theme := a.theme, customFont := a.customFont, logoType := a.logoType, logo := a.logo }

@[simp] theorem Appearance.applyTo_id (a : Appearance) (r : OrganizationRow) : (a.applyTo r).id = r.id := rfl

/-- What a statement throws: the primary key `id` of `organization`. -/
inductive OrganizationError where
  | uniqueViolation
  deriving DecidableEq, Repr

/-- Code awaiting statements on `organization`: it has returned or thrown, awaits the first row of a
`SELECT ... LIMIT 1`, or awaits an `INSERT ... RETURNING` of a row. -/
inductive OrganizationProg (α : Type) where
  | ret (a : α)
  | fail (e : OrganizationError)
  | selectFirst (k : Option OrganizationRow → OrganizationProg α)
  | insertReturning (row : OrganizationRow) (k : OrganizationRow → OrganizationProg α)

namespace OrganizationProg

variable {α : Type}

def result? : OrganizationProg α → Option α
  | .ret a => some a
  | _ => none

def failure? : OrganizationProg α → Option OrganizationError
  | .fail e => some e
  | _ => none

end OrganizationProg

namespace OrganizationModel

/-- The row the call creates: `id: "default-org"`, `name: "Default Organization"`, `slug: "default"`, and
`limit_cleanup_interval` its column default `1h`. -/
def defaultOrganization : OrganizationRow :=
  ⟨"default-org", "Default Organization", "default", none, none, none, none, some "1h"⟩

def getOrCreateDefaultOrganization : OrganizationProg OrganizationRow :=
  .selectFirst fun
    | some existingOrg => .ret existingOrg
    | none => .insertReturning defaultOrganization .ret

end OrganizationModel

/-! ### The scheduler -/

/-- The table and the remaining code of each call. -/
structure OrganizationSys where
  rows : List OrganizationRow
  calls : List (OrganizationProg OrganizationRow)

/-- Call `i` runs its statement, the `SELECT` returning row `k` first; or an update writes the appearance of the
row with id `id`. -/
inductive OrganizationEvent where
  | run (i k : Nat)
  | update (id : String) (a : Appearance)

namespace OrganizationSys

/-- One event; `none` when it cannot happen (call `i` has finished, or has no row `k` to read). -/
def step (s : OrganizationSys) : OrganizationEvent → Option OrganizationSys
  | .run i k =>
    match s.calls[i]? with
    | some (.selectFirst c) =>
      match s.rows with
      | [] => some { s with calls := s.calls.set i (c none) }
      | _ => s.rows[k]?.map fun org => { s with calls := s.calls.set i (c (some org)) }
    | some (.insertReturning row c) =>
      if s.rows.any (·.id == row.id) then some { s with calls := s.calls.set i (.fail .uniqueViolation) }
      else some ⟨s.rows ++ [row], s.calls.set i (c row)⟩
    | _ => none
  | .update id a => some { s with rows := s.rows.map fun r => if r.id = id then a.applyTo r else r }

/-- A schedule, skipping the events that cannot happen. -/
def run (s : OrganizationSys) : List OrganizationEvent → OrganizationSys
  | [] => s
  | e :: es => ((s.step e).getD s).run es

/-- `n` calls of `getOrCreateDefaultOrganization` on a table. -/
def start (rows : List OrganizationRow) (n : Nat) : OrganizationSys :=
  ⟨rows, List.replicate n OrganizationModel.getOrCreateDefaultOrganization⟩

end OrganizationSys

/-! ### The invariant -/

namespace OrganizationSys

open OrganizationModel

/-- Where a call can be, for a run from the table `init` whose rows now have the ids `ids`: not started, about to
insert after it found the table empty, returned a row of the table, or thrown after it found the table empty. -/
inductive CallOk (init : List OrganizationRow) (ids : List String) : OrganizationProg OrganizationRow → Prop
  | start : CallOk init ids getOrCreateDefaultOrganization
  | inserting (h : init = []) : CallOk init ids (.insertReturning defaultOrganization .ret)
  | returned {org : OrganizationRow} (h : org.id ∈ ids) : CallOk init ids (.ret org)
  | threw (h : init = []) : CallOk init ids (.fail .uniqueViolation)

theorem CallOk.mono {init : List OrganizationRow} {ids ids' : List String} {p : OrganizationProg OrganizationRow}
    (h : CallOk init ids p) (hsub : ∀ x ∈ ids, x ∈ ids') : CallOk init ids' p := by
  cases h with
  | start => exact .start
  | inserting h => exact .inserting h
  | returned h => exact .returned (hsub _ h)
  | threw h => exact .threw h

theorem CallOk.result_mem {init : List OrganizationRow} {ids : List String} {p : OrganizationProg OrganizationRow}
    (h : CallOk init ids p) {org : OrganizationRow} (horg : org ∈ p.result?) : org.id ∈ ids := by
  cases h with
  | returned h => cases horg; exact h
  | _ => cases horg

theorem CallOk.failure_mem {init : List OrganizationRow} {ids : List String} {p : OrganizationProg OrganizationRow}
    (h : CallOk init ids p) {e : OrganizationError} (he : e ∈ p.failure?) : init = [] ∧ e = .uniqueViolation := by
  cases h with
  | threw h => cases he; exact ⟨h, rfl⟩
  | _ => cases he

/-- The ids of the table: those of `init`, or only `default-org` when `init` was empty. -/
def IdsOk (init : List OrganizationRow) (ids : List String) : Prop :=
  ids = init.map (·.id) ∨ (init = [] ∧ ids = [defaultOrganization.id])

structure Inv (init : List OrganizationRow) (s : OrganizationSys) : Prop where
  ids : IdsOk init (s.rows.map (·.id))
  calls : ∀ p ∈ s.calls, CallOk init (s.rows.map (·.id)) p

theorem inv_start (init : List OrganizationRow) (n : Nat) : Inv init (start init n) :=
  ⟨Or.inl rfl, fun p hp => by rw [List.eq_of_mem_replicate hp]; exact .start⟩

theorem Inv.set {init : List OrganizationRow} {s : OrganizationSys} (h : Inv init s) (i : Nat)
    {p : OrganizationProg OrganizationRow} (hp : CallOk init (s.rows.map (·.id)) p) :
    Inv init { s with calls := s.calls.set i p } :=
  ⟨h.ids, fun q hq => (List.mem_or_eq_of_mem_set hq).elim (h.calls q) fun e => e ▸ hp⟩

theorem IdsOk.eq_nil {init : List OrganizationRow} {ids : List String} (h : IdsOk init ids) (hd : defaultOrganization.id ∉ ids) :
    init = [] → ids = [] := by
  rintro rfl
  rcases h with h | ⟨-, h⟩
  · exact h
  · simp [h] at hd

theorem update_ids (rows : List OrganizationRow) (id : String) (a : Appearance) :
    (rows.map fun r => if r.id = id then a.applyTo r else r).map (·.id) = rows.map (·.id) := by
  simp only [List.map_map]
  congr 1
  funext r
  by_cases hr : r.id = id <;> simp [hr]

/-- Every event keeps the invariant. -/
theorem inv_step {init : List OrganizationRow} {s s' : OrganizationSys} (h : Inv init s) (e : OrganizationEvent)
    (hs : s.step e = some s') : Inv init s' := by
  cases e with
  | update id a =>
    cases hs
    exact ⟨(update_ids s.rows id a).symm ▸ h.ids, (update_ids s.rows id a).symm ▸ h.calls⟩
  | run i k =>
    simp only [step] at hs
    split at hs
    · next c hc =>
      cases h.calls _ (List.getElem?_mem hc)
      split at hs
      · next hrows =>
        cases hs
        have hinit : init = [] := by
          rcases h.ids with h' | ⟨h', -⟩
          · simpa [hrows] using h'
          · exact h'
        exact h.set i (.inserting hinit)
      · obtain ⟨org, hk, rfl⟩ := Option.map_eq_some'.1 hs
        exact h.set i (.returned (List.mem_map_of_mem _ (List.getElem?_mem hk)))
    · next row c hc =>
      cases h.calls _ (List.getElem?_mem hc) with
      | inserting hinit =>
        split at hs
        · cases hs
          exact h.set i (.threw hinit)
        · next hany =>
          cases hs
          have hnil : s.rows.map (·.id) = [] := h.ids.eq_nil (by simpa using hany) hinit
          have hids : (s.rows ++ [defaultOrganization]).map (·.id) = [defaultOrganization.id] := by simp [hnil]
          refine ⟨hids ▸ Or.inr ⟨hinit, rfl⟩, fun q hq => ?_⟩
          rw [hids]
          rcases List.mem_or_eq_of_mem_set hq with hq | rfl
          · exact (h.calls q hq).mono (by simp [hnil])
          · exact .returned (List.mem_singleton_self _)
    · cases hs

/-- Every schedule keeps the invariant. -/
theorem inv_run {init : List OrganizationRow} {s : OrganizationSys} (h : Inv init s) :
    ∀ events : List OrganizationEvent, Inv init (s.run events)
  | [] => h
  | e :: es => by
    cases hs : s.step e with
    | none => simpa [run, hs] using inv_run h es
    | some s' => simpa [run, hs] using inv_run (inv_step h e hs) es

end OrganizationSys

/-- Two organizations `org-a` and `org-b`. -/
def twoOrganizations : List OrganizationRow :=
  [⟨"org-a", "A", "a", none, none, none, none, none⟩, ⟨"org-b", "B", "b", none, none, none, none, none⟩]

/-- Under every interleaving of `n` calls and updates, from any table: the ids of the table are those it started
with, or `default-org` alone when it started empty; a call that returned gave a row of the table; a call that threw
found the table empty and lost the race on the primary key; and from a table of at most one row all calls that
returned gave the same organization. -/
theorem getOrCreateDefaultOrganization_concurrent (init : List OrganizationRow) (n : Nat)
    (events : List OrganizationEvent) :
    let s := (OrganizationSys.start init n).run events
    (s.rows.map (·.id) = init.map (·.id) ∨ (init = [] ∧ s.rows.map (·.id) = ["default-org"])) ∧
      (∀ p ∈ s.calls, ∀ org ∈ p.result?, org.id ∈ s.rows.map (·.id)) ∧
      (∀ p ∈ s.calls, ∀ e ∈ p.failure?, init = [] ∧ e = .uniqueViolation) ∧
      (init.length ≤ 1 → ∀ p ∈ s.calls, ∀ q ∈ s.calls, ∀ a ∈ p.result?, ∀ b ∈ q.result?, a.id = b.id) := by
  intro s
  have hinv : OrganizationSys.Inv init s := OrganizationSys.inv_run (OrganizationSys.inv_start init n) events
  have hret : ∀ p ∈ s.calls, ∀ org ∈ p.result?, org.id ∈ s.rows.map (·.id) :=
    fun p hp _ horg => (hinv.calls p hp).result_mem horg
  refine ⟨hinv.ids, hret, fun p hp e he => (hinv.calls p hp).failure_mem he, fun hlen p hp q hq a ha b hb => ?_⟩
  · have hsub : (s.rows.map (·.id)).length ≤ 1 := by
      rcases hinv.ids with h | ⟨-, h⟩ <;> simp [h, hlen]
    have ha' := hret p hp a ha
    have hb' := hret q hq b hb
    generalize s.rows.map (·.id) = ids at hsub ha' hb'
    rcases ids with _ | ⟨x, _ | ⟨y, t⟩⟩
    · simp at ha'
    · simp only [List.mem_singleton] at ha' hb'
      rw [ha', hb']
    · simp at hsub

/-- Two calls may return different organizations, and two calls on an empty table may race: the second `INSERT`
violates the primary key. -/
theorem getOrCreateDefaultOrganization_race :
    ((OrganizationSys.start twoOrganizations 2).run [.run 0 0, .run 1 1]).calls.map OrganizationProg.result? =
        twoOrganizations.map some ∧
      ((OrganizationSys.start [] 2).run [.run 0 0, .run 1 0, .run 0 0, .run 1 0]).calls.map
        OrganizationProg.failure? = [none, some .uniqueViolation] := by
  decide

end Archestra
