import Archestra.Teams.Serial
import Mathlib.Data.Finset.Image

/-!
# Team access, refined to a set of pairs

What `agent_teams` stands for: a set `R` of `(agent, team)` pairs (`pairs`).  `syncAgentTeams(a, T)` replaces the
pairs of `a` by `{a} × T`, `assignTeamsToAgent(a, T)` adds `{a} × T`, `removeTeamFromAgent(a, t)` removes `(a, t)`
and answers whether it was there; a sync whose team ids repeat throws and leaves `R` as it was (`Call.step`).

* `exec_refines`, `runCalls_refines`: every call run alone, and every sequence of them, answers as the calls on the
  set do, and leaves rows that stand for the set they leave;
* `mem_getTeamsForAgent`, `agentAndMcpServerShareTeam_iff`, `mem_getUserAccessibleAgentIds`,
  `userHasAgentAccess_iff`: what the queries answer, in terms of the rows;
* `agentTeam_queries_agree`: after any sequence of calls from any tables, the queries agree with the set and with
  each other.
-/

namespace Archestra

namespace AgentTeamModel

namespace Serial

/-- The pairs `(agent_id, team_id)` of the rows of `agent_teams`. -/
def pairs (tb : TeamTables) : Finset (String × String) := (tb.agentTeams.map fun r => (r.agentId, r.teamId)).toFinset

@[simp] theorem mk_mem_pairs {tb : TeamTables} {a t : String} : (a, t) ∈ pairs tb ↔ ⟨a, t⟩ ∈ tb.agentTeams := by
  simp only [pairs, List.mem_toFinset, List.mem_map, Prod.mk.injEq]
  constructor
  · rintro ⟨⟨a', t'⟩, h, rfl, rfl⟩
    exact h
  · exact fun h => ⟨_, h, rfl, rfl⟩

/-- The calls on the set of pairs: what each answers, and the set after it. -/
def Call.step : Call → Finset (String × String) → Except Failure Answer × Finset (String × String)
  | .syncAgentTeams a T, R =>
    if T.Nodup then (.ok (.count T.length), R.filter (·.1 ≠ a) ∪ T.toFinset.image (a, ·))
    else (.error .uniqueViolation, R)
  | .assignTeamsToAgent a T, R => (.ok .done, R ∪ T.toFinset.image (a, ·))
  | .removeTeamFromAgent a t, R => (.ok (.removed (decide ((a, t) ∈ R))), R.erase (a, t))

/-- Calls one after another on the set of pairs. -/
def absRun (R : Finset (String × String)) : List Call → List (Except Failure Answer) × Finset (String × String)
  | [] => ([], R)
  | c :: cs => ((c.step R).1 :: (absRun (c.step R).2 cs).1, (absRun (c.step R).2 cs).2)

/-- One call run alone answers as the call on the set of pairs, and leaves rows standing for the set it leaves. -/
theorem exec_refines (tb : TeamTables) (c : Call) : ((exec tb c).1, pairs (exec tb c).2) = c.step (pairs tb) := by
  cases c with
  | syncAgentTeams a T =>
    rw [exec, syncAgentTeams_eq, Call.step]
    by_cases hnd : T.Nodup
    · simp only [hnd, if_true, Except.map, Prod.mk.injEq, true_and]
      ext ⟨x, t⟩
      simp only [mk_mem_pairs, List.mem_append, List.mem_filter, List.mem_map, Finset.mem_union, Finset.mem_filter,
        Finset.mem_image, List.mem_toFinset, Prod.mk.injEq, bne_iff_ne, ne_eq, AgentTeamRow.mk.injEq]
    · simp only [hnd, if_false]
      rfl
  | assignTeamsToAgent a T =>
    simp only [exec, Call.step, assignTeamsToAgent, Prod.mk.injEq, true_and]
    split_ifs with hT
    · simp [List.length_eq_zero.1 hT]
    · ext ⟨x, t⟩
      simp only [mk_mem_pairs, mem_insertAgentTeamsOnConflictDoNothing, List.mem_map, Finset.mem_union,
        Finset.mem_image, List.mem_toFinset, Prod.mk.injEq, AgentTeamRow.mk.injEq]
  | removeTeamFromAgent a t =>
    simp only [exec, Call.step, removeTeamFromAgent, deleteAgentTeams, Prod.mk.injEq, Except.ok.injEq,
      Answer.removed.injEq]
    constructor
    · rw [decide_eq_decide, mk_mem_pairs, gt_iff_lt, List.length_pos, Ne, List.filter_eq_nil_iff]
      simp only [Bool.and_eq_true, beq_iff_eq, not_and, not_forall, exists_prop, Classical.not_imp, not_not]
      constructor
      · rintro ⟨⟨a', t'⟩, h, rfl, rfl⟩
        exact h
      · exact fun h => ⟨_, h, rfl, rfl⟩
    · ext ⟨x, s⟩
      simp only [mk_mem_pairs, List.mem_filter, Finset.mem_erase, ne_eq, Prod.mk.injEq, Bool.not_eq_true',
        Bool.and_eq_false_iff, beq_eq_false_iff_ne, not_and_or]
      tauto

/-- Calls run one after another answer as the calls on the set of pairs, and leave rows standing for its set. -/
theorem runCalls_refines (calls : List Call) : ∀ tb : TeamTables,
    ((runCalls tb calls).1, pairs (runCalls tb calls).2) = absRun (pairs tb) calls := by
  induction calls with
  | nil => intro tb; rfl
  | cons c cs ih =>
    intro tb
    have hstep := exec_refines tb c
    simp only [runCalls, absRun, ← hstep, ← ih]

/-- Calls write `agent_teams` and nothing else. -/
theorem runCalls_frame (calls : List Call) : ∀ tb : TeamTables,
    (runCalls tb calls).2 = { tb with agentTeams := (runCalls tb calls).2.agentTeams } := by
  induction calls with
  | nil => intro tb; rfl
  | cons c cs ih =>
    intro tb
    simp only [runCalls]
    rw [ih, exec_frame]

theorem mem_getTeamsForAgent (tb : TeamTables) (a t : String) : t ∈ getTeamsForAgent tb a ↔ (a, t) ∈ pairs tb := by
  simp only [getTeamsForAgent, List.mem_map, List.mem_filter, beq_iff_eq, mk_mem_pairs]
  constructor
  · rintro ⟨⟨a', t'⟩, ⟨h, rfl⟩, rfl⟩
    exact h
  · exact fun h => ⟨_, ⟨h, rfl⟩, rfl⟩

theorem mem_userTeamIds (tb : TeamTables) (u t : String) : t ∈ userTeamIds tb u ↔ ⟨t, u⟩ ∈ tb.teamMembers := by
  simp only [userTeamIds, List.mem_map, List.mem_filter, beq_iff_eq]
  constructor
  · rintro ⟨⟨t', u'⟩, ⟨h, rfl⟩, rfl⟩
    exact h
  · exact fun h => ⟨_, ⟨h, rfl⟩, rfl⟩

theorem length_take_one_pos {α : Type} (l : List α) : 0 < (l.take 1).length ↔ l ≠ [] := by
  cases l <;> simp

/-- The list query for a user who is not an agent admin: the agents of the user's teams. -/
theorem mem_getUserAccessibleAgentIds (tb : TeamTables) (u a : String) :
    a ∈ getUserAccessibleAgentIds tb u false ↔ ∃ t, (a, t) ∈ pairs tb ∧ ⟨t, u⟩ ∈ tb.teamMembers := by
  simp only [getUserAccessibleAgentIds, Bool.false_eq_true, if_false, mk_mem_pairs, ← mem_userTeamIds]
  split_ifs with h
  · simp [List.length_eq_zero.1 h]
  · simp only [List.mem_map, List.mem_filter, decide_eq_true_eq]
    constructor
    · rintro ⟨⟨a', t⟩, ⟨h, ht⟩, rfl⟩
      exact ⟨t, h, ht⟩
    · exact fun ⟨t, h, ht⟩ => ⟨_, ⟨h, ht⟩, rfl⟩

/-- The single-agent check for a user who is not an agent admin: the agent is assigned to one of the user's
teams. -/
theorem userHasAgentAccess_false (tb : TeamTables) (u a : String) :
    userHasAgentAccess tb u a false = true ↔ ∃ t, (a, t) ∈ pairs tb ∧ ⟨t, u⟩ ∈ tb.teamMembers := by
  simp only [userHasAgentAccess, Bool.false_eq_true, if_false, mk_mem_pairs, ← mem_userTeamIds]
  split_ifs with h
  · simp [List.length_eq_zero.1 h]
  · rw [decide_eq_true_iff, gt_iff_lt, length_take_one_pos, Ne, List.filter_eq_nil_iff]
    simp only [Bool.and_eq_true, beq_iff_eq, decide_eq_true_eq, not_forall, not_and, exists_prop, Classical.not_imp, not_not]
    constructor
    · rintro ⟨⟨a', t⟩, h, rfl, ht⟩
      exact ⟨t, h, ht⟩
    · exact fun ⟨t, h, ht⟩ => ⟨_, h, rfl, ht⟩

/-- For an existing agent, the single-agent check and the list query give the same answer. -/
theorem userHasAgentAccess_iff (tb : TeamTables) (u a : String) (isAgentAdmin : Bool) (ha : a ∈ tb.agents) :
    userHasAgentAccess tb u a isAgentAdmin = true ↔ a ∈ getUserAccessibleAgentIds tb u isAgentAdmin := by
  cases isAgentAdmin with
  | false => rw [userHasAgentAccess_false, mem_getUserAccessibleAgentIds]
  | true => simp [userHasAgentAccess, getUserAccessibleAgentIds, ha]

theorem agentAndMcpServerShareTeam_iff (tb : TeamTables) (a s : String) :
    agentAndMcpServerShareTeam tb a s = true ↔ ∃ t, (a, t) ∈ pairs tb ∧ ⟨s, t⟩ ∈ tb.mcpServerTeams := by
  rw [agentAndMcpServerShareTeam, decide_eq_true_iff, gt_iff_lt, length_take_one_pos, Ne, List.map_eq_nil_iff,
    List.filter_eq_nil_iff]
  simp only [List.mem_flatMap, List.mem_map, List.mem_filter, beq_iff_eq, Bool.and_eq_true, not_forall, not_not,
    exists_prop, mk_mem_pairs]
  constructor
  · rintro ⟨_, ⟨⟨a', t⟩, h, ⟨s', t'⟩, ⟨hm, rfl⟩, rfl⟩, rfl, rfl⟩
    exact ⟨t, h, hm⟩
  · exact fun ⟨t, h, hm⟩ => ⟨_, ⟨_, h, _, ⟨hm, rfl⟩, rfl⟩, rfl, rfl⟩

/-- For every tables and every sequence of calls, each run alone: the calls answer as the calls on the set of pairs
do, and, with `R` the set they leave, `getTeamsForAgent(a)` lists the teams of `a` in `R`;
`agentAndMcpServerShareTeam(a, s)` holds exactly when `a` has in `R` a team of `s`; for an existing agent,
`userHasAgentAccess` holds exactly when the agent is in `getUserAccessibleAgentIds`, which for a user who is not
an agent admin lists the agents having in `R` a team of the user. -/
theorem agentTeam_queries_agree (tb : TeamTables) (calls : List Call) :
    (runCalls tb calls).1 = (absRun (pairs tb) calls).1 ∧
      (∀ a t, t ∈ getTeamsForAgent (runCalls tb calls).2 a ↔ (a, t) ∈ (absRun (pairs tb) calls).2) ∧
      (∀ a s, agentAndMcpServerShareTeam (runCalls tb calls).2 a s = true ↔
        ∃ t, (a, t) ∈ (absRun (pairs tb) calls).2 ∧ ⟨s, t⟩ ∈ tb.mcpServerTeams) ∧
      (∀ u a isAgentAdmin, a ∈ tb.agents → (userHasAgentAccess (runCalls tb calls).2 u a isAgentAdmin = true ↔
        a ∈ getUserAccessibleAgentIds (runCalls tb calls).2 u isAgentAdmin)) ∧
      (∀ u a, a ∈ getUserAccessibleAgentIds (runCalls tb calls).2 u false ↔
        ∃ t, (a, t) ∈ (absRun (pairs tb) calls).2 ∧ ⟨t, u⟩ ∈ tb.teamMembers) := by
  have href := runCalls_refines calls tb
  have hframe := runCalls_frame calls tb
  rw [Prod.ext_iff] at href
  refine ⟨href.1, fun a t => ?_, fun a s => ?_, fun u a admin ha => ?_, fun u a => ?_⟩
  · rw [mem_getTeamsForAgent, ← href.2]
  · rw [agentAndMcpServerShareTeam_iff, ← href.2, hframe]
  · exact userHasAgentAccess_iff _ u a admin (by rw [hframe]; exact ha)
  · rw [mem_getUserAccessibleAgentIds, ← href.2, hframe]

end Serial

end AgentTeamModel

end Archestra
