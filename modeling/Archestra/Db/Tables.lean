import Archestra.Db.Heap

/-!
# The label and team tables and their statements

The tables `AgentLabelModel` and `AgentTeamModel` work on, and what each SQL statement they issue does when a
transaction `t` runs it now: it answers (with the new database), fails, or waits on a transaction in progress.

The table declarations are not among the sources.  The unique constraints used are those the code relies on:
`label_keys.key` and `label_values.value`, the `ON CONFLICT` targets of `getOrCreateKey` and `getOrCreateValue`.
The primary keys `(agent_id, key_id)` of `agent_labels` and `(agent_id, team_id)` of `agent_teams` are modelled
from the spec (one value per key of an agent; an idempotent team assignment).  Foreign keys are not modelled.
Row ids (UUIDs in the code) are drawn from a counter.
-/

namespace Archestra

/-- A row of `label_keys` (`name` is the `key` column) or of `label_values` (the `value` column). -/
structure DictRow where
  id : Nat
  name : String
  deriving DecidableEq, Repr

/-- A row of `agent_labels`. -/
structure AgentLabelRow where
  agentId : String
  keyId : Nat
  valueId : Nat
  deriving DecidableEq, Repr

/-- A row of `mcp_catalog_labels`, which no modelled function writes. -/
structure CatalogLabelRow where
  catalogId : String
  keyId : Nat
  valueId : Nat
  deriving DecidableEq, Repr

/-- A row of `agent_teams`. -/
structure AgentTeamRow where
  agentId : String
  teamId : String
  deriving DecidableEq, Repr

/-- The two label dictionaries. -/
inductive Dict where
  | keys
  | values
  deriving DecidableEq, Repr

/-- The database: transaction status, the heaps, and the counter ids are drawn from. -/
structure Db where
  status : TxStatus
  labelKeys : List (Tuple DictRow)
  labelValues : List (Tuple DictRow)
  agentLabels : List (Tuple AgentLabelRow)
  mcpCatalogLabels : List CatalogLabelRow
  agentTeams : List (Tuple AgentTeamRow)
  nextId : Nat
  deriving DecidableEq, Repr

/-- Why a statement or a client fails. -/
inductive Failure where
  /-- SQLSTATE 23505. -/
  | uniqueViolation
  /-- SQLSTATE 40P01: the deadlock detector chose this transaction. -/
  | deadlockDetected
  /-- `result.id` where the `SELECT` returned no row. -/
  | typeError
  deriving DecidableEq, Repr

/-- The SQL statements of the label and team models.  A `DELETE` is two steps: `scan*` takes its snapshot,
`delete*` locks and deletes the scanned rows once no transaction in progress holds them. -/
inductive Stmt where
  /-- `INSERT INTO label_keys (key) VALUES (s) ON CONFLICT (key) DO NOTHING` (or `label_values`). -/
  | insertIgnore (d : Dict) (s : String)
  /-- `SELECT id FROM label_keys WHERE key = s LIMIT 1`. -/
  | selectId (d : Dict) (s : String)
  /-- The `LEFT JOIN ... IS NULL` query of `pruneKeysAndValues`: unreferenced dictionary ids. -/
  | selectOrphans (d : Dict)
  | scanDict (d : Dict) (ids : List Nat)
  | deleteDict (d : Dict) (tids : List Nat)
  | scanAgentLabels (agentId : String)
  | deleteAgentLabels (tids : List Nat)
  | insertAgentLabels (rows : List AgentLabelRow)
  | scanAgentTeams (agentId : String)
  | deleteAgentTeams (tids : List Nat)
  | insertAgentTeams (rows : List AgentTeamRow)
  | commit
  deriving DecidableEq, Repr

/-- The outcome of running a statement now. -/
inductive Exec where
  | wait (u : Nat)
  | error (e : Failure)
  | ok (db : Db) (ans : List Nat)
  deriving DecidableEq, Repr

namespace Db

/-- The heap of a dictionary. -/
def dict (db : Db) : Dict → List (Tuple DictRow)
  | .keys => db.labelKeys
  | .values => db.labelValues

/-- Replace the heap of a dictionary. -/
def setDict (db : Db) : Dict → List (Tuple DictRow) → Db
  | .keys, xs => { db with labelKeys := xs }
  | .values, xs => { db with labelValues := xs }

@[simp] theorem dict_setDict_self (db : Db) (d : Dict) (xs : List (Tuple DictRow)) :
    (db.setDict d xs).dict d = xs := by cases d <;> rfl

@[simp] theorem setDict_status (db : Db) (d : Dict) (xs : List (Tuple DictRow)) :
    (db.setDict d xs).status = db.status := by cases d <;> rfl

@[simp] theorem setDict_nextId (db : Db) (d : Dict) (xs : List (Tuple DictRow)) :
    (db.setDict d xs).nextId = db.nextId := by cases d <;> rfl

@[simp] theorem setDict_agentLabels (db : Db) (d : Dict) (xs : List (Tuple DictRow)) :
    (db.setDict d xs).agentLabels = db.agentLabels := by cases d <;> rfl

@[simp] theorem setDict_agentTeams (db : Db) (d : Dict) (xs : List (Tuple DictRow)) :
    (db.setDict d xs).agentTeams = db.agentTeams := by cases d <;> rfl

@[simp] theorem setDict_dict (db : Db) (d : Dict) : db.setDict d (db.dict d) = db := by cases d <;> rfl

/-- Append a new tuple of `t` holding `s` to a dictionary, its id and tuple id drawn from the counter. -/
def insertDict (db : Db) (d : Dict) (t : Nat) (s : String) : Db :=
  { db.setDict d (db.dict d ++ [Heap.fresh t db.nextId ⟨db.nextId, s⟩]) with nextId := db.nextId + 1 }

@[simp] theorem insertDict_dict (db : Db) (d : Dict) (t : Nat) (s : String) :
    (db.insertDict d t s).dict d = db.dict d ++ [Heap.fresh t db.nextId ⟨db.nextId, s⟩] := by cases d <;> rfl

@[simp] theorem insertDict_status (db : Db) (d : Dict) (t : Nat) (s : String) :
    (db.insertDict d t s).status = db.status := by cases d <;> rfl

/-- The id a dictionary or junction row is referenced by in the junction tables. -/
def refId : Dict → AgentLabelRow → Nat
  | .keys, r => r.keyId
  | .values, r => r.valueId

/-- The same for `mcp_catalog_labels`. -/
def catalogRefId : Dict → CatalogLabelRow → Nat
  | .keys, r => r.keyId
  | .values, r => r.valueId

/-- The ids the orphan query of `pruneKeysAndValues` returns for `t`: dictionary rows of its snapshot referenced
neither by an `agent_labels` row of its snapshot nor by an `mcp_catalog_labels` row. -/
def orphans (db : Db) (t : Nat) (d : Dict) : List Nat :=
  let labels := Heap.select db.status t (fun _ => true) db.agentLabels
  ((Heap.select db.status t (fun _ => true) (db.dict d)).filter fun r =>
    !(labels.any fun l => refId d l == r.id) && !(db.mcpCatalogLabels.any fun c => catalogRefId d c == r.id)).map
    (·.id)

/-- On settled tuples, the orphan query reads the rows as they are. -/
theorem orphans_settled {db : Db} {t : Nat} {d : Dict} (h : ∀ x ∈ db.dict d, x.Settled db.status)
    (hl : ∀ x ∈ db.agentLabels, x.Settled db.status) :
    db.orphans t d = (((db.dict d).map (·.row)).filter fun r =>
      !((db.agentLabels.map (·.row)).any fun l => refId d l == r.id) &&
        !(db.mcpCatalogLabels.any fun c => catalogRefId d c == r.id)).map (·.id) := by
  simp only [orphans, Heap.select_settled h, Heap.select_settled hl, List.filter_true]

/-- Tuple ids of the scanned tuples a `DELETE` of `t` deletes now. -/
def deleted {α : Type} (st : TxStatus) (t : Nat) (tids : List Nat) (xs : List (Tuple α)) : List Nat :=
  (xs.filter (Heap.deletes st t tids)).map (·.tid)

/-- Run statement `s` of transaction `t` now. -/
def exec (db : Db) (t : Nat) : Stmt → Exec
  | .insertIgnore d s =>
    match Heap.conflictWait db.status t DictRow.name s (db.dict d) with
    | some u => .wait u
    | none =>
      if Heap.holdsKey db.status t DictRow.name s (db.dict d) then .ok db []
      else .ok (db.insertDict d t s) []
  | .selectId d s => .ok db (((Heap.select db.status t (·.name == s) (db.dict d)).map (·.id)).take 1)
  | .selectOrphans d => .ok db (db.orphans t d)
  | .scanDict d ids => .ok db (Heap.scan db.status t (fun r => decide (r.id ∈ ids)) (db.dict d))
  | .deleteDict d tids =>
    match Heap.lockWait db.status t tids (db.dict d) with
    | some u => .wait u
    | none => .ok (db.setDict d (Heap.markDeleted db.status t tids (db.dict d))) (deleted db.status t tids (db.dict d))
  | .scanAgentLabels a => .ok db (Heap.scan db.status t (·.agentId == a) db.agentLabels)
  | .deleteAgentLabels tids =>
    match Heap.lockWait db.status t tids db.agentLabels with
    | some u => .wait u
    | none =>
      .ok { db with agentLabels := Heap.markDeleted db.status t tids db.agentLabels }
        (deleted db.status t tids db.agentLabels)
  | .insertAgentLabels rows =>
    let key := fun r : AgentLabelRow => (r.agentId, r.keyId)
    match Heap.insertWait db.status t key rows db.agentLabels with
    | some u => .wait u
    | none =>
      match Heap.insertRows db.status t key db.nextId rows db.agentLabels with
      | none => .error .uniqueViolation
      | some xs => .ok { db with agentLabels := xs, nextId := db.nextId + rows.length } []
  | .scanAgentTeams a => .ok db (Heap.scan db.status t (·.agentId == a) db.agentTeams)
  | .deleteAgentTeams tids =>
    match Heap.lockWait db.status t tids db.agentTeams with
    | some u => .wait u
    | none =>
      .ok { db with agentTeams := Heap.markDeleted db.status t tids db.agentTeams }
        (deleted db.status t tids db.agentTeams)
  | .insertAgentTeams rows =>
    let key := fun r : AgentTeamRow => (r.agentId, r.teamId)
    match Heap.insertWait db.status t key rows db.agentTeams with
    | some u => .wait u
    | none =>
      match Heap.insertRows db.status t key db.nextId rows db.agentTeams with
      | none => .error .uniqueViolation
      | some xs => .ok { db with agentTeams := xs, nextId := db.nextId + rows.length } []
  | .commit => .ok { db with status := db.status.commit t } []

/-- The committed rows of a dictionary. -/
def dictRows (db : Db) (d : Dict) : List DictRow := Heap.rows db.status (db.dict d)

section Own

variable {db : Db} {d : Dict} (t : Nat) (s : String)

theorem exec_insertIgnore_own (h : ∀ x ∈ db.dict d, x.Own db.status t) :
    db.exec t (.insertIgnore d s) =
      .ok (if (db.dict d).any (fun x => decide (x.row.name = s)) then db else db.insertDict d t s) [] := by
  simp only [exec, Heap.conflictWait_own h, Heap.holdsKey_own h]
  split <;> rfl

theorem exec_selectId_own (h : ∀ x ∈ db.dict d, x.Own db.status t) :
    db.exec t (.selectId d s) = .ok db (List.take 1 ((((db.dict d).map (·.row)).filter (·.name == s)).map (·.id))) := by
  simp only [exec, Heap.select_own h]

theorem exec_insertIgnore_settled (h : ∀ x ∈ db.dict d, x.Settled db.status) :
    db.exec t (.insertIgnore d s) =
      .ok (if (db.dict d).any (fun x => decide (x.row.name = s)) then db else db.insertDict d t s) [] :=
  exec_insertIgnore_own t s fun x hx => (h x hx).own t

theorem exec_selectId_settled (h : ∀ x ∈ db.dict d, x.Settled db.status) :
    db.exec t (.selectId d s) = .ok db (List.take 1 ((((db.dict d).map (·.row)).filter (·.name == s)).map (·.id))) :=
  exec_selectId_own t s fun x hx => (h x hx).own t

end Own

/-- Commit `t`. -/
def commit (db : Db) (t : Nat) : Db := { db with status := db.status.commit t }

@[simp] theorem commit_dict (db : Db) (t : Nat) (d : Dict) : (db.commit t).dict d = db.dict d := by cases d <;> rfl

@[simp] theorem commit_status (db : Db) (t : Nat) : (db.commit t).status = db.status.commit t := rfl

/-- Roll back `t` (nothing happens to a transaction that has committed). -/
def abort (db : Db) (t : Nat) : Db := { db with status := db.status.abort t }

/-- A database whose rows were all committed before the run, with tuple ids and a fresh-id counter above every id. -/
def ofRows (keys values : List DictRow) (labels : List AgentLabelRow) (catalog : List CatalogLabelRow)
    (teams : List AgentTeamRow) : Db :=
  let ids := keys.map (·.id) ++ values.map (·.id) ++ labels.map (·.keyId) ++ labels.map (·.valueId)
  { status := ⟨[], []⟩, labelKeys := Heap.ofRows keys, labelValues := Heap.ofRows values,
    agentLabels := Heap.ofRows labels, mcpCatalogLabels := catalog, agentTeams := Heap.ofRows teams,
    nextId := ids.foldr max 0 + keys.length + values.length + labels.length + teams.length + 1 }

end Db

end Archestra
