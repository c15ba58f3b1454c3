import Archestra.Db.Prog

/-!
# `AgentTeamModel`

The team assignment functions of `AgentTeamModel` (`models/agent-team.ts`) as programs of SQL statements.
-/

namespace Archestra

namespace AgentTeamModel

def syncAgentTeams (agentId : String) (teamIds : List String) : Prog Nat := do
  transaction do
    let _ ← Conn.tx.delete (.scanAgentTeams agentId) .deleteAgentTeams
    if teamIds.length > 0 then
      let _ ← Conn.tx.query (.insertAgentTeams (teamIds.map fun teamId => { agentId, teamId }))
  pure teamIds.length

end AgentTeamModel

end Archestra
