import Archestra.Db.Tables

/-!
# `AgentTeamModel`, one call at a time

The functions of `AgentTeamModel` (`models/agent-team.ts`) run alone: each reads and writes the committed rows of
the tables it names, and a transaction that throws leaves them as they were.  The tables are `agents` (its ids),
`team_members`, `agent_teams` with its primary key `(agent_id, team_id)`, and `mcp_server_teams`.  Foreign keys are
not modelled, as in `Archestra.Db`.

* `insertAgentTeams_eq`: a plain `INSERT` adds its rows when none repeats a key of the table or of the batch, and
  throws otherwise; `mem_insertAgentTeamsOnConflictDoNothing`: with `ON CONFLICT DO NOTHING` it never throws;
* `syncAgentTeams_eq`: the sync throws exactly when its team ids repeat, and otherwise replaces the agent's rows;
* `exec_frame`: a call writes `agent_teams` only.
-/

namespace Archestra

/-- A row of `team_members`: the columns the model reads. -/
structure TeamMemberRow where
  teamId : String
  userId : String
  deriving DecidableEq, Repr

/-- A row of `mcp_server_teams`. -/
structure McpServerTeamRow where
  mcpServerId : String
  teamId : String
  deriving DecidableEq, Repr

/-- The committed rows of the tables `AgentTeamModel` reads. -/
structure TeamTables where
  agents : List String
  teamMembers : List TeamMemberRow
  agentTeams : List AgentTeamRow
  mcpServerTeams : List McpServerTeamRow
  deriving DecidableEq, Repr

namespace AgentTeamModel

namespace Serial

/-- `INSERT INTO agent_teams VALUES rows`: each row is checked against the primary key of the rows before it; a
repeated key throws. -/
def insertAgentTeams : List AgentTeamRow → List AgentTeamRow → Option (List AgentTeamRow)
  | table, [] => some table
  | table, r :: rows => if r ∈ table then none else insertAgentTeams (table ++ [r]) rows

/-- The same with `ON CONFLICT DO NOTHING`: a row whose key is taken is skipped. -/
def insertAgentTeamsOnConflictDoNothing (table rows : List AgentTeamRow) : List AgentTeamRow :=
  rows.foldl (fun table r => if r ∈ table then table else table ++ [r]) table

/-- `DELETE FROM agent_teams WHERE p`: the rows left and the `rowCount`. -/
def deleteAgentTeams (table : List AgentTeamRow) (p : AgentTeamRow → Bool) : List AgentTeamRow × Nat :=
  (table.filter (!p ·), (table.filter p).length)

/-- `userTeams.map((t) => t.teamId)`: the teams `userId` is a member of. -/
def userTeamIds (tb : TeamTables) (userId : String) : List String :=
  (tb.teamMembers.filter (·.userId == userId)).map (·.teamId)

/-- `getUserAccessibleAgentIds(userId, isAgentAdmin)`. -/
def getUserAccessibleAgentIds (tb : TeamTables) (userId : String) (isAgentAdmin : Bool) : List String :=
  if isAgentAdmin then tb.agents
  else
    let teamIds := userTeamIds tb userId
    if teamIds.length = 0 then []
    else (tb.agentTeams.filter fun r => decide (r.teamId ∈ teamIds)).map (·.agentId)

/-- `userHasAgentAccess(userId, agentId, isAgentAdmin)`. -/
def userHasAgentAccess (tb : TeamTables) (userId agentId : String) (isAgentAdmin : Bool) : Bool :=
  if isAgentAdmin then true
  else
    let teamIds := userTeamIds tb userId
    if teamIds.length = 0 then false
    else ((tb.agentTeams.filter fun r => r.agentId == agentId && decide (r.teamId ∈ teamIds)).take 1).length > 0

/-- `getTeamsForAgent(agentId)`. -/
def getTeamsForAgent (tb : TeamTables) (agentId : String) : List String :=
  (tb.agentTeams.filter (·.agentId == agentId)).map (·.teamId)

/-- `syncAgentTeams(agentId, teamIds)`: its transaction deletes the agent's rows, then inserts the new ones. -/
def syncAgentTeams (tb : TeamTables) (agentId : String) (teamIds : List String) : Except Failure Nat × TeamTables :=
  let table := (deleteAgentTeams tb.agentTeams (·.agentId == agentId)).1
  let inserted :=
    if teamIds.length > 0 then insertAgentTeams table (teamIds.map fun teamId => { agentId, teamId }) else some table
  match inserted with
  | none => (.error .uniqueViolation, tb)
  | some table => (.ok teamIds.length, { tb with agentTeams := table })

/-- `assignTeamsToAgent(agentId, teamIds)`. -/
def assignTeamsToAgent (tb : TeamTables) (agentId : String) (teamIds : List String) : TeamTables :=
  if teamIds.length = 0 then tb
  else
    { tb with agentTeams :=
        insertAgentTeamsOnConflictDoNothing tb.agentTeams (teamIds.map fun teamId => { agentId, teamId }) }

/-- `removeTeamFromAgent(agentId, teamId)`: `rowCount !== null && rowCount > 0`. -/
def removeTeamFromAgent (tb : TeamTables) (agentId teamId : String) : Bool × TeamTables :=
  let (table, rowCount) := deleteAgentTeams tb.agentTeams fun r => r.agentId == agentId && r.teamId == teamId
  (rowCount > 0, { tb with agentTeams := table })

/-- `agentAndMcpServerShareTeam(agentId, mcpServerId)`: the inner join on the team id, filtered, `LIMIT 1`. -/
def agentAndMcpServerShareTeam (tb : TeamTables) (agentId mcpServerId : String) : Bool :=
  let joined := tb.agentTeams.flatMap fun r => (tb.mcpServerTeams.filter (r.teamId == ·.teamId)).map (r, ·)
  (((joined.filter fun (r, m) => r.agentId == agentId && m.mcpServerId == mcpServerId).map (·.1.teamId)).take 1).length
    > 0

/-- A call that writes `agent_teams`. -/
inductive Call where
  | syncAgentTeams (agentId : String) (teamIds : List String)
  | assignTeamsToAgent (agentId : String) (teamIds : List String)
  | removeTeamFromAgent (agentId teamId : String)
  deriving DecidableEq, Repr

/-- What a call resolves with: the count `syncAgentTeams` returns, nothing, or whether a row was removed. -/
inductive Answer where
  | count (n : Nat)
  | done
  | removed (b : Bool)
  deriving DecidableEq, Repr

/-- Run one call alone. -/
def exec (tb : TeamTables) : Call → Except Failure Answer × TeamTables
  | .syncAgentTeams a T => ((syncAgentTeams tb a T).1.map .count, (syncAgentTeams tb a T).2)
  | .assignTeamsToAgent a T => (.ok .done, assignTeamsToAgent tb a T)
  | .removeTeamFromAgent a t => (.ok (.removed (removeTeamFromAgent tb a t).1), (removeTeamFromAgent tb a t).2)

/-- Run calls one after another: what each resolves or rejects with, and the tables after them. -/
def runCalls (tb : TeamTables) : List Call → List (Except Failure Answer) × TeamTables
  | [] => ([], tb)
  | c :: cs => ((exec tb c).1 :: (runCalls (exec tb c).2 cs).1, (runCalls (exec tb c).2 cs).2)

theorem insertAgentTeams_eq (rows : List AgentTeamRow) : ∀ table : List AgentTeamRow,
    insertAgentTeams table rows = if rows.Nodup ∧ ∀ r ∈ rows, r ∉ table then some (table ++ rows) else none := by
  induction rows with
  | nil => simp [insertAgentTeams]
  | cons r rows ih =>
    intro table
    by_cases hr : r ∈ table
    · rw [insertAgentTeams, if_pos hr, if_neg fun h => h.2 r (List.mem_cons_self _ _) hr]
    · rw [insertAgentTeams, if_neg hr, ih, List.append_assoc, List.singleton_append]
      refine if_congr ?_ rfl rfl
      simp only [List.mem_append, List.mem_singleton, not_or, List.nodup_cons, List.mem_cons, forall_eq_or_imp, List.not_mem_nil, or_false]
      constructor
      · rintro ⟨hnd, h⟩
        exact ⟨⟨fun hm => (h r hm).2 rfl, hnd⟩, hr, fun x hx => (h x hx).1⟩
      · rintro ⟨⟨hm, hnd⟩, -, h⟩
        exact ⟨hnd, fun x hx => ⟨h x hx, fun hxr => hm (hxr ▸ hx)⟩⟩

theorem mem_insertAgentTeamsOnConflictDoNothing (rows : List AgentTeamRow) : ∀ (table : List AgentTeamRow)
    (x : AgentTeamRow), x ∈ insertAgentTeamsOnConflictDoNothing table rows ↔ x ∈ table ∨ x ∈ rows := by
  induction rows with
  | nil => simp [insertAgentTeamsOnConflictDoNothing]
  | cons r rows ih =>
    intro table x
    rw [insertAgentTeamsOnConflictDoNothing, List.foldl_cons, ← insertAgentTeamsOnConflictDoNothing, ih]
    by_cases hr : r ∈ table
    · simp only [hr, if_true, List.mem_cons]
      constructor
      · rintro (h | h)
        exacts [.inl h, .inr (.inr h)]
      · rintro (h | rfl | h)
        exacts [.inl h, .inl hr, .inr h]
    · simp only [hr, if_false, List.mem_append, List.mem_singleton, List.mem_cons, or_assoc]
      simp

/-- The sync, run alone: when its team ids repeat, the insert violates the primary key and the transaction leaves
the tables as they were; otherwise the agent's rows are those of its team ids, after the other agents' rows. -/
theorem syncAgentTeams_eq (tb : TeamTables) (a : String) (T : List String) :
    syncAgentTeams tb a T = if T.Nodup then
      (.ok T.length, { tb with agentTeams := tb.agentTeams.filter (·.agentId != a) ++ T.map fun t => ⟨a, t⟩ })
      else (.error .uniqueViolation, tb) := by
  have hinj : Function.Injective fun t : String => (⟨a, t⟩ : AgentTeamRow) := fun _ _ h => congrArg (·.teamId) h
  -- the new rows are the agent's, and the kept rows are the other agents'
  have hfresh : ∀ r ∈ T.map (fun t => (⟨a, t⟩ : AgentTeamRow)), r ∉ tb.agentTeams.filter (·.agentId != a) := by
    simp only [List.mem_map, List.mem_filter]
    rintro _ ⟨_, -, rfl⟩ ⟨-, h⟩
    exact absurd h (by simp only [bne_self_eq_false, Bool.false_eq_true, not_false_eq_true])
  cases T with
  | nil =>
    rw [if_pos List.nodup_nil, List.map_nil, List.append_nil]
    rfl
  | cons t T =>
    simp only [syncAgentTeams, deleteAgentTeams, List.length_cons, Nat.zero_lt_succ, if_true, insertAgentTeams_eq,
      List.nodup_map_iff hinj]
    by_cases hnd : (t :: T).Nodup
    · rw [if_pos ⟨hnd, hfresh⟩, if_pos hnd]
      rfl
    · rw [if_neg fun h => hnd h.1, if_neg hnd]

/-- A sync whose team ids repeat keeps the agent's old team. -/
example : (syncAgentTeams ⟨["a"], [], [⟨"a", "t0"⟩], []⟩ "a" ["t", "t"]).2.agentTeams = [⟨"a", "t0"⟩] := by decide

/-- A call writes `agent_teams` and nothing else. -/
theorem exec_frame (tb : TeamTables) (c : Call) :
    (exec tb c).2 = { tb with agentTeams := (exec tb c).2.agentTeams } := by
  cases c with
  | syncAgentTeams a T =>
    simp only [exec, syncAgentTeams_eq]
    split_ifs <;> rfl
  | assignTeamsToAgent a T =>
    simp only [exec, assignTeamsToAgent]
    split_ifs <;> rfl
  | removeTeamFromAgent a t => rfl

end Serial

end AgentTeamModel

end Archestra
