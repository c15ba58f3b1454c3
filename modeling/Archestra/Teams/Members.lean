import Archestra.Teams.Access

/-!
# Team membership, and the agents it opens

`TeamModel` (`models/team.ts`) writes `team_members`: `addMember(teamId, userId, role)` inserts a row under a fresh
`crypto.randomUUID()`, and `removeMember(teamId, userId)` deletes every row of the pair, answering whether there was
one.  Nothing in this snapshot makes the pair unique, so a user added twice to a team has two rows.  What
`team_members` stands for is a set of `(team, user)` pairs (`memberPairs`); together with the `(agent, team)` pairs
of `agent_teams`, it decides which agents a user who is not an agent admin may use.  The calls of both models run
alone, one after another (`TeamCall`, `runTeamCalls`), each `addMember` with an id no row has.

* `execTeam_refines`: each call answers as the same call on the two sets, and leaves rows that stand for the sets
  it leaves;
* `runTeamCalls_refines`: so does every sequence of calls;
* `access_after_teamCalls`: after every sequence of calls, `getUserAccessibleAgentIds` and `userHasAgentAccess`
  give a user who is not an agent admin exactly the agents sharing a team with the user in the two sets.  Since the
  sets forget how often a pair was added, one `removeMember` revokes what the team gave, however many times the
  user was added to it (`removeMember_revokes`).
-/

namespace Archestra

/-- A row of `team_members`: its key, the pair, and the role. -/
structure TeamMember where
  id : String
  teamId : String
  userId : String
  role : String
  deriving DecidableEq, Repr

/-- The columns of a row the agent-access queries read. -/
def TeamMember.toRow (m : TeamMember) : TeamMemberRow := ⟨m.teamId, m.userId⟩

/-- The tables of both models: `team_members` with all its columns, and the tables `AgentTeamModel` reads, whose
`team_members` are its columns `(team_id, user_id)`. -/
structure TeamState where
  members : List TeamMember
  tables : TeamTables
  consistent : tables.teamMembers = members.map TeamMember.toRow

namespace TeamModel

/-- `addMember(teamId, userId, role)`, `crypto.randomUUID()` giving `memberId`: the inserted row, or a violation of
the primary key when a row has that id. -/
def addMember (members : List TeamMember) (teamId userId role memberId : String) :
    Except Failure TeamMember × List TeamMember :=
  if members.any (·.id == memberId) then (.error .uniqueViolation, members)
  else (.ok ⟨memberId, teamId, userId, role⟩, members ++ [⟨memberId, teamId, userId, role⟩])

/-- `removeMember(teamId, userId)`: every row of the pair deleted, `rowCount !== null && rowCount > 0`. -/
def removeMember (members : List TeamMember) (teamId userId : String) : Bool × List TeamMember :=
  ((members.filter fun m => m.teamId == teamId && m.userId == userId).length > 0,
    members.filter fun m => !(m.teamId == teamId && m.userId == userId))

/-- `getTeamMembers(teamId)`. -/
def getTeamMembers (members : List TeamMember) (teamId : String) : List TeamMember :=
  members.filter (·.teamId == teamId)

/-- `isUserInTeam(teamId, userId)`: `LIMIT 1`, `!!membership`. -/
def isUserInTeam (members : List TeamMember) (teamId userId : String) : Bool :=
  ((members.filter fun m => m.teamId == teamId && m.userId == userId).take 1).length > 0

/-- `getUserTeamIds(userId)`. -/
def getUserTeamIds (members : List TeamMember) (userId : String) : List String :=
  (members.filter (·.userId == userId)).map (·.teamId)

end TeamModel

/-! ### The calls of both models -/

open AgentTeamModel.Serial

/-- A membership call of `TeamModel`, with the id `crypto.randomUUID()` gives an added row, or a call of
`AgentTeamModel` that writes `agent_teams`. -/
inductive TeamCall where
  | addMember (teamId userId role memberId : String)
  | removeMember (teamId userId : String)
  | agentTeams (c : Call)
  deriving DecidableEq, Repr

/-- What a call resolves with. -/
inductive TeamAnswer where
  | member (m : TeamMember)
  | removed (b : Bool)
  | agentTeams (a : Answer)
  deriving DecidableEq, Repr

namespace TeamState

/-- The state with new member rows. -/
def setMembers (s : TeamState) (members : List TeamMember) : TeamState :=
  ⟨members, { s.tables with teamMembers := members.map TeamMember.toRow }, rfl⟩

/-- The state with the tables an agent-team call left, which it only writes in `agent_teams`. -/
def setTables (s : TeamState) (c : Call) : TeamState :=
  ⟨s.members, (exec s.tables c).2, by rw [exec_frame]; exact s.consistent⟩

@[simp] theorem setMembers_members (s : TeamState) (members : List TeamMember) :
    (s.setMembers members).members = members := rfl

@[simp] theorem setMembers_agentTeams (s : TeamState) (members : List TeamMember) :
    (s.setMembers members).tables.agentTeams = s.tables.agentTeams := rfl

@[simp] theorem pairs_setMembers (s : TeamState) (members : List TeamMember) :
    pairs (s.setMembers members).tables = pairs s.tables := rfl

@[simp] theorem setTables_members (s : TeamState) (c : Call) : (s.setTables c).members = s.members := rfl

@[simp] theorem setTables_tables (s : TeamState) (c : Call) : (s.setTables c).tables = (exec s.tables c).2 := rfl

end TeamState

/-- Run one call alone. -/
def execTeam (s : TeamState) : TeamCall → Except Failure TeamAnswer × TeamState
  | .addMember t u role id =>
    ((TeamModel.addMember s.members t u role id).1.map .member,
      s.setMembers (TeamModel.addMember s.members t u role id).2)
  | .removeMember t u =>
    (.ok (.removed (TeamModel.removeMember s.members t u).1), s.setMembers (TeamModel.removeMember s.members t u).2)
  | .agentTeams c => ((exec s.tables c).1.map .agentTeams, s.setTables c)

/-- Run calls one after another. -/
def runTeamCalls (s : TeamState) : List TeamCall → List (Except Failure TeamAnswer) × TeamState
  | [] => ([], s)
  | c :: cs => ((execTeam s c).1 :: (runTeamCalls (execTeam s c).2 cs).1, (runTeamCalls (execTeam s c).2 cs).2)

/-! ### The two sets -/

/-- The `(team, user)` pairs of the rows of `team_members`. -/
def memberPairs (members : List TeamMember) : Finset (String × String) :=
  (members.map fun m => (m.teamId, m.userId)).toFinset

@[simp] theorem mem_memberPairs {members : List TeamMember} {t u : String} :
    (t, u) ∈ memberPairs members ↔ ∃ m ∈ members, m.teamId = t ∧ m.userId = u := by
  simp [memberPairs]

/-- The calls on the two sets, `(team, user)` and `(agent, team)` pairs; an added row's id is fresh. -/
def TeamCall.step : TeamCall → Finset (String × String) × Finset (String × String) →
    Except Failure TeamAnswer × (Finset (String × String) × Finset (String × String))
  | .addMember t u role id, (M, R) => (.ok (.member ⟨id, t, u, role⟩), (insert (t, u) M, R))
  | .removeMember t u, (M, R) => (.ok (.removed (decide ((t, u) ∈ M))), (M.erase (t, u), R))
  | .agentTeams c, (M, R) => ((c.step R).1.map .agentTeams, (M, (c.step R).2))

/-- Calls one after another on the two sets. -/
def absRunTeam (MR : Finset (String × String) × Finset (String × String)) :
    List TeamCall → List (Except Failure TeamAnswer) × (Finset (String × String) × Finset (String × String))
  | [] => ([], MR)
  | c :: cs => ((c.step MR).1 :: (absRunTeam (c.step MR).2 cs).1, (absRunTeam (c.step MR).2 cs).2)

/-- The two sets the state stands for. -/
def TeamState.sets (s : TeamState) : Finset (String × String) × Finset (String × String) :=
  (memberPairs s.members, pairs s.tables)

/-- The id of an added row, when the call adds one. -/
def TeamCall.newId : TeamCall → Option String
  | .addMember _ _ _ id => some id
  | _ => none

/-- Every added row gets an id no row has: none of the table's, and none of another call's. -/
def FreshIds (s : TeamState) (calls : List TeamCall) : Prop :=
  (s.members.map (·.id) ++ calls.filterMap TeamCall.newId).Nodup

instance (s : TeamState) (calls : List TeamCall) : Decidable (FreshIds s calls) :=
  inferInstanceAs (Decidable (List.Nodup _))

/-! ### Refinement -/

theorem memberPairs_append_singleton (members : List TeamMember) (m : TeamMember) :
    memberPairs (members ++ [m]) = insert (m.teamId, m.userId) (memberPairs members) := by
  ext p
  simp only [memberPairs, List.map_append, List.map_singleton, List.toFinset_append, List.toFinset_cons,
    List.toFinset_nil, Finset.mem_union, Finset.mem_insert, Finset.not_mem_empty, or_false]
  exact or_comm

theorem memberPairs_removeMember (members : List TeamMember) (t u : String) :
    memberPairs (TeamModel.removeMember members t u).2 = (memberPairs members).erase (t, u) := by
  ext ⟨x, y⟩
  simp only [TeamModel.removeMember, mem_memberPairs, List.mem_filter, Finset.mem_erase, ne_eq, Prod.mk.injEq,
    Bool.not_eq_true', Bool.and_eq_false_iff, beq_eq_false_iff_ne]
  constructor
  · rintro ⟨m, ⟨hm, hne⟩, rfl, rfl⟩
    exact ⟨fun ⟨h1, h2⟩ => hne.elim (· h1) (· h2), m, hm, rfl, rfl⟩
  · rintro ⟨hne, m, hm, rfl, rfl⟩
    exact ⟨m, ⟨hm, not_and_or.1 hne⟩, rfl, rfl⟩

theorem removeMember_answer (members : List TeamMember) (t u : String) :
    (TeamModel.removeMember members t u).1 = decide ((t, u) ∈ memberPairs members) := by
  simp only [TeamModel.removeMember, mem_memberPairs, decide_eq_decide, gt_iff_lt, List.length_pos, ne_eq,
    List.filter_eq_nil_iff, Bool.and_eq_true, beq_iff_eq, not_forall, not_and, Classical.not_imp, not_not,
    exists_prop]

theorem mk_mem_teamMembers (s : TeamState) (t u : String) :
    (⟨t, u⟩ : TeamMemberRow) ∈ s.tables.teamMembers ↔ (t, u) ∈ memberPairs s.members := by
  rw [s.consistent, mem_memberPairs, List.mem_map]
  simp only [TeamMember.toRow, TeamMemberRow.mk.injEq]

/-- One call alone, whose added row's id no row has, answers as the call on the two sets and leaves rows that stand
for the sets it leaves. -/
theorem execTeam_refines (s : TeamState) (c : TeamCall) (hfresh : ∀ id, c.newId = some id → id ∉ s.members.map (·.id)) :
    ((execTeam s c).1, (execTeam s c).2.sets) = c.step s.sets := by
  cases c with
  | addMember t u role id =>
    have hany : s.members.any (·.id == id) = false := by
      simpa [List.any_eq_false] using hfresh id rfl
    simp only [execTeam, TeamModel.addMember, hany, TeamState.sets, TeamCall.step, Except.map, Bool.false_eq_true,
      if_false, TeamState.setMembers_members, TeamState.pairs_setMembers, memberPairs_append_singleton]
  | removeMember t u =>
    simp only [execTeam, TeamState.sets, TeamCall.step, removeMember_answer, TeamState.setMembers_members,
      TeamState.pairs_setMembers, memberPairs_removeMember]
  | agentTeams c =>
    have h := exec_refines s.tables c
    rw [Prod.ext_iff] at h
    simp only [execTeam, TeamState.sets, TeamCall.step, ← h.1, ← h.2]
    rfl

theorem FreshIds.head {s : TeamState} {c : TeamCall} {cs : List TeamCall} (h : FreshIds s (c :: cs)) :
    ∀ id, c.newId = some id → id ∉ s.members.map (·.id) := by
  intro id hc hm
  exact List.disjoint_of_nodup_append h hm (by simp [hc])

/-- Fresh ids for calls stay fresh for the calls after the first: the first call adds at most its own id, and
removes only rows. -/
theorem FreshIds.tail {s : TeamState} {c : TeamCall} {cs : List TeamCall} (h : FreshIds s (c :: cs)) :
    FreshIds (execTeam s c).2 cs := by
  cases c with
  | addMember t u role id =>
    have hid := h.head id rfl
    have hany : s.members.any (·.id == id) = false := by simpa [List.any_eq_false] using hid
    simpa [FreshIds, execTeam, TeamModel.addMember, hany] using h
  | removeMember t u =>
    exact (((List.filter_sublist _).map _).append_right _).nodup h
  | agentTeams c => exact h

/-- Every sequence of calls run alone, whose added rows get fresh ids, answers as the calls on the two sets, and
leaves rows that stand for the sets they leave. -/
theorem runTeamCalls_refines (calls : List TeamCall) :
    ∀ s : TeamState, FreshIds s calls →
      ((runTeamCalls s calls).1, (runTeamCalls s calls).2.sets) = absRunTeam s.sets calls := by
  induction calls with
  | nil => intro s _; rfl
  | cons c cs ih =>
    intro s h
    have hstep := execTeam_refines s c h.head
    rw [Prod.ext_iff] at hstep
    simp only [runTeamCalls, absRunTeam, ← hstep.1, ← hstep.2, ← ih _ h.tail]

/-- For every tables and every sequence of calls whose added rows get fresh ids: the calls answer as the calls on the
two sets, and afterwards a user who is not an agent admin is given by `getUserAccessibleAgentIds`, and by
`userHasAgentAccess`, exactly the agents that share a team with the user in the two sets the calls leave. -/
theorem access_after_teamCalls (s : TeamState) (calls : List TeamCall) (hfresh : FreshIds s calls) :
    let s' := (runTeamCalls s calls).2
    let MR := (absRunTeam s.sets calls).2
    (runTeamCalls s calls).1 = (absRunTeam s.sets calls).1 ∧
      ∀ u a, (a ∈ getUserAccessibleAgentIds s'.tables u false ↔ ∃ t, (a, t) ∈ MR.2 ∧ (t, u) ∈ MR.1) ∧
        (userHasAgentAccess s'.tables u a false = true ↔ ∃ t, (a, t) ∈ MR.2 ∧ (t, u) ∈ MR.1) := by
  intro s' MR
  have href := runTeamCalls_refines calls s hfresh
  rw [Prod.ext_iff] at href
  have hsets : MR = s'.sets := href.2.symm
  refine ⟨href.1, fun u a => ⟨?_, ?_⟩⟩
  · rw [mem_getUserAccessibleAgentIds, hsets]
    simp only [TeamState.sets, mk_mem_teamMembers]
  · rw [userHasAgentAccess_false, hsets]
    simp only [TeamState.sets, mk_mem_teamMembers]

/-- A user with a row in `t1` is added to it a second time, under a fresh id, and `a1` is given to `t1`. -/
theorem access_after_teamCalls_readd :
    let s : TeamState := ⟨[⟨"m0", "t1", "u1", "member"⟩], ⟨["a1"], [⟨"t1", "u1"⟩], [], []⟩, rfl⟩
    let calls := [.addMember "t1" "u1" "admin" "m1", .agentTeams (.assignTeamsToAgent "a1" ["t1"])]
    FreshIds s calls ∧
      (let s' := (runTeamCalls s calls).2
      let MR := (absRunTeam s.sets calls).2
      (runTeamCalls s calls).1 = (absRunTeam s.sets calls).1 ∧
        ∀ u a, (a ∈ getUserAccessibleAgentIds s'.tables u false ↔ ∃ t, (a, t) ∈ MR.2 ∧ (t, u) ∈ MR.1) ∧
          (userHasAgentAccess s'.tables u a false = true ↔ ∃ t, (a, t) ∈ MR.2 ∧ (t, u) ∈ MR.1)) :=
  ⟨by decide, access_after_teamCalls _ _ (by decide)⟩

theorem isUserInTeam_iff (members : List TeamMember) (t u : String) :
    TeamModel.isUserInTeam members t u = true ↔ (t, u) ∈ memberPairs members := by
  simp only [TeamModel.isUserInTeam, decide_eq_true_eq, gt_iff_lt, length_take_one_pos, ne_eq,
    List.filter_eq_nil_iff, Bool.and_eq_true, beq_iff_eq, not_forall, not_and, Classical.not_imp, not_not,
    exists_prop, mem_memberPairs]

theorem absRunTeam_append (MR : Finset (String × String) × Finset (String × String)) (pre post : List TeamCall) :
    (absRunTeam MR (pre ++ post)).2 = (absRunTeam (absRunTeam MR pre).2 post).2 := by
  induction pre generalizing MR with
  | nil => rfl
  | cons c cs ih => exact ih _

/-- A pair out of the members stays out along calls none of which adds it. -/
theorem not_mem_absRunTeam {t u : String} (rest : List TeamCall)
    (hrest : ∀ c ∈ rest, ∀ role id, c ≠ .addMember t u role id) :
    ∀ MR : Finset (String × String) × Finset (String × String), (t, u) ∉ MR.1 → (t, u) ∉ (absRunTeam MR rest).2.1 := by
  induction rest with
  | nil => exact fun _ h => h
  | cons c cs ih =>
    intro ⟨M, R⟩ h
    refine ih (fun c' hc' => hrest c' (List.mem_cons_of_mem _ hc')) _ ?_
    cases c with
    | addMember t' u' role id =>
      have hne : (t', u') ≠ (t, u) := by
        rintro ⟨⟩
        exact hrest _ (List.mem_cons_self _ _) role id rfl
      exact fun hm => h ((Finset.mem_insert.1 hm).resolve_left hne.symm)
    | removeMember t' u' => exact fun hm => h (Finset.mem_of_mem_erase hm)
    | agentTeams c => exact h

/-- After `removeMember(t, u)` and calls none of which adds `u` to `t` again, `u` is not in `t`, however many rows
the pair had, and every agent `u` may use it may use through another team. -/
theorem removeMember_revokes (s : TeamState) (pre rest : List TeamCall) (t u : String)
    (hfresh : FreshIds s (pre ++ .removeMember t u :: rest))
    (hrest : ∀ c ∈ rest, ∀ role id, c ≠ .addMember t u role id) :
    let s' := (runTeamCalls s (pre ++ .removeMember t u :: rest)).2
    TeamModel.isUserInTeam s'.members t u = false ∧
      ∀ a ∈ getUserAccessibleAgentIds s'.tables u false,
        ∃ t' ≠ t, (a, t') ∈ pairs s'.tables ∧ (⟨t', u⟩ : TeamMemberRow) ∈ s'.tables.teamMembers := by
  intro s'
  have hsets := (Prod.ext_iff.1 (runTeamCalls_refines _ s hfresh)).2
  have hout : (t, u) ∉ memberPairs s'.members := by
    have h := congrArg Prod.fst hsets
    simp only [TeamState.sets] at h
    rw [h, absRunTeam_append]
    exact not_mem_absRunTeam rest hrest _ (Finset.not_mem_erase _ _)
  refine ⟨Bool.eq_false_iff.2 fun h => hout ((isUserInTeam_iff _ _ _).1 h), fun a ha => ?_⟩
  obtain ⟨t', hp, hm⟩ := (mem_getUserAccessibleAgentIds _ _ _).1 ha
  exact ⟨t', fun h => hout (h ▸ (mk_mem_teamMembers s' t' u).1 hm), hp, hm⟩

/-- A user in `t1` twice, once before the calls and once by them, and one `removeMember`. -/
theorem removeMember_revokes_twice_added :
    let s : TeamState := ⟨[⟨"m0", "t1", "u1", "member"⟩], ⟨["a1"], [⟨"t1", "u1"⟩], [], []⟩, rfl⟩
    let pre := [.addMember "t1" "u1" "admin" "m1", .agentTeams (.assignTeamsToAgent "a1" ["t1"])]
    let rest := [.agentTeams (.syncAgentTeams "a1" ["t1", "t2"])]
    FreshIds s (pre ++ .removeMember "t1" "u1" :: rest) ∧ (∀ c ∈ rest, ∀ role id, c ≠ .addMember "t1" "u1" role id) ∧
      (let s' := (runTeamCalls s (pre ++ .removeMember "t1" "u1" :: rest)).2
      TeamModel.isUserInTeam s'.members "t1" "u1" = false ∧
        ∀ a ∈ getUserAccessibleAgentIds s'.tables "u1" false,
          ∃ t' ≠ "t1", (a, t') ∈ pairs s'.tables ∧ (⟨t', "u1"⟩ : TeamMemberRow) ∈ s'.tables.teamMembers) :=
  have hrest : ∀ c ∈ [TeamCall.agentTeams (.syncAgentTeams "a1" ["t1", "t2"])], ∀ role id,
      c ≠ .addMember "t1" "u1" role id := by simp
  ⟨by decide, hrest, removeMember_revokes _ _ _ "t1" "u1" (by decide) hrest⟩

end Archestra
