import Archestra.Db.Prog

/-!
# `AgentLabelModel`

The functions of `AgentLabelModel` (`models/agent-team.ts`) that write the label tables, as programs of SQL
statements: `getOrCreateKey`, `getOrCreateValue`, `syncAgentLabels` and `pruneKeysAndValues`.
-/

namespace Archestra

/-- The fields of an `AgentLabelWithDetails` that `syncAgentLabels` reads. -/
structure Label where
  key : String
  value : String
  deriving DecidableEq, Repr

namespace AgentLabelModel

/-- The body shared by `getOrCreateKey` and `getOrCreateValue`: `INSERT ... ON CONFLICT DO NOTHING`, then
`SELECT id ... LIMIT 1`; `result.id` throws when the `SELECT` returns no row. -/
def getOrCreate (txOrDb : Conn) (d : Dict) (s : String) : Prog Nat := do
  let _ ← txOrDb.query (.insertIgnore d s)
  let rows ← txOrDb.query (.selectId d s)
  match rows with
  | id :: _ => pure id
  | [] => .fail .typeError

def getOrCreateKey (key : String) (txOrDb : Conn := .db) : Prog Nat := getOrCreate txOrDb .keys key

def getOrCreateValue (value : String) (txOrDb : Conn := .db) : Prog Nat := getOrCreate txOrDb .values value

/-- The loop of `syncAgentLabels` that builds `labelInserts`. -/
def labelInserts (agentId : String) : List Label → Prog (List AgentLabelRow)
  | [] => pure []
  | label :: labels => do
    let keyId ← getOrCreateKey label.key .tx
    let valueId ← getOrCreateValue label.value .tx
    let rest ← labelInserts agentId labels
    pure ({ agentId, keyId, valueId } :: rest)

def syncAgentLabels (agentId : String) (labels : List Label) : Prog Unit := do
  transaction do
    let _ ← Conn.tx.delete (.scanAgentLabels agentId) .deleteAgentLabels
    if labels.length > 0 then
      let rows ← labelInserts agentId labels
      let _ ← Conn.tx.query (.insertAgentLabels rows)
  .firePrune (pure ())

/-- The orphan query and the `DELETE` of one dictionary, answering `result.rowCount || 0`. -/
def pruneDict (d : Dict) (orphaned : List Nat) : Prog Nat :=
  if orphaned.length > 0 then (·.length) <$> Conn.tx.delete (.scanDict d orphaned) (.deleteDict d) else pure 0

def pruneKeysAndValues : Prog (Nat × Nat) := transaction do
  let orphanedKeys ← Conn.tx.query (.selectOrphans .keys)
  let orphanedValues ← Conn.tx.query (.selectOrphans .values)
  let deletedKeys ← pruneDict .keys orphanedKeys
  let deletedValues ← pruneDict .values orphanedValues
  pure (deletedKeys, deletedValues)

end AgentLabelModel

end Archestra
