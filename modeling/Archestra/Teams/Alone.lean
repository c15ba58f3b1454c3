import Archestra.Teams.Serial
import Archestra.Db.Sched
import Archestra.Models.AgentTeam

/-!
# `syncAgentTeams` run alone, statement by statement

The sync as statements (`Archestra.AgentTeamModel.syncAgentTeams`) run alone from a database of committed rows: its
scan, its `DELETE`, its `INSERT` and its `COMMIT` leave the committed rows of `agent_teams` that the serial model of
`Archestra.Teams.Serial` leaves, and the client returns or throws as that model answers.  The serial model is the
statement-level one with no other client interleaved.

* `exec_deleteAgentTeams_settled`, `exec_insertAgentTeams_replaced`: the `DELETE` and the `INSERT` of one sync;
* `syncAgentTeams_alone`: the whole sync, from any committed tables.
-/

namespace Archestra

namespace AgentTeamModel

/-- The client of `syncAgentTeams`: the scan, the `DELETE`, the `INSERT` of the new rows when there are any, and the
`COMMIT`. -/
theorem syncAgentTeams_client (a : String) (T : List String) :
    ((fun n => [n]) <$> syncAgentTeams a T : Client) = .exec false (.scanAgentTeams a) fun tids =>
      .exec false (.deleteAgentTeams tids) fun _ =>
        if T.length > 0 then
          .exec false (.insertAgentTeams (T.map fun teamId => { agentId := a, teamId })) fun _ =>
            .exec false .commit fun _ => .ret [T.length]
        else .exec false .commit fun _ => .ret [T.length] := by
  cases T with
  | nil => rfl
  | cons t T =>
    simp only [syncAgentTeams, transaction, Conn.delete, Conn.query, Prog.map_eq, Prog.bind_eq, Prog.bind_assoc,
      Prog.exec_bind, Prog.ret_bind, show (Conn.tx == Conn.db) = false from rfl, List.length_cons, Nat.zero_lt_succ,
      if_true, Prog.pure_eq]

section Replace

variable {db : Db} (a : String) (h : ∀ x ∈ db.agentTeams, x.Settled db.status)
include h

/-- On settled tuples with distinct tuple ids, the sync's `DELETE` of the scanned rows of the agent marks exactly
those rows. -/
theorem exec_deleteAgentTeams_settled (hnd : (db.agentTeams.map (·.tid)).Nodup) :
    db.exec 0 (.deleteAgentTeams (Heap.scan db.status 0 (·.agentId == a) db.agentTeams)) =
      .ok { db with agentTeams := db.agentTeams.map fun x => if x.row.agentId == a then { x with xmax := some 0 } else x }
        (Db.deleted db.status 0 (Heap.scan db.status 0 (·.agentId == a) db.agentTeams) db.agentTeams) := by
  simp only [Db.exec, Heap.lockWait_settled h, Heap.markDeleted_scan_settled h hnd]

/-- After that `DELETE`, the sync's `INSERT` of the rows of the team ids `T` appends them when the ids are distinct,
and is a unique violation otherwise. -/
theorem exec_insertAgentTeams_replaced (T : List String) :
    ({ db with agentTeams := db.agentTeams.map fun x => if x.row.agentId == a then { x with xmax := some 0 } else x } :
        Db).exec 0 (.insertAgentTeams (T.map fun teamId => { agentId := a, teamId })) =
      if T.Nodup then
        .ok { db with
          agentTeams := db.agentTeams.map (fun x => if x.row.agentId == a then { x with xmax := some 0 } else x) ++
            Heap.freshRows 0 db.nextId (T.map fun teamId => { agentId := a, teamId }),
          nextId := db.nextId + (T.map fun teamId => ({ agentId := a, teamId } : AgentTeamRow)).length } []
      else .error .uniqueViolation := by
  have hkey : ∀ r r' : AgentTeamRow, (r.agentId, r.teamId) = (r'.agentId, r'.teamId) →
      (r.agentId == a) = (r'.agentId == a) := fun r r' he => by rw [(Prod.mk.inj he).1]
  have hrs : ∀ r ∈ T.map fun teamId => ({ agentId := a, teamId } : AgentTeamRow), (r.agentId == a) = true := by
    simp only [List.mem_map]
    rintro _ ⟨_, -, rfl⟩
    exact beq_self_eq_true a
  obtain ⟨hwait, hins⟩ := @Heap.insert_deleteWhere _ _ _ db.status 0 _ h _ _ hkey _ hrs db.nextId
  -- the keys of the new rows are distinct exactly when the team ids are
  have hnd : ((T.map fun teamId => ({ agentId := a, teamId } : AgentTeamRow)).map
      fun r => (r.agentId, r.teamId)).Nodup ↔ T.Nodup := by
    rw [List.map_map]
    exact List.nodup_map_iff fun _ _ he => (Prod.mk.inj he).2
  by_cases hT : T.Nodup <;> simp only [Db.exec, hwait, hins, hnd, hT, if_true, if_false]

end Replace

/-- `syncAgentTeams(a, T)` run alone from committed tables, to its end: the committed rows of `agent_teams` are those
the serial model leaves, and the client returns the count, or throws, as the serial model answers. -/
theorem syncAgentTeams_alone (keys values : List DictRow) (labels : List AgentLabelRow)
    (catalog : List CatalogLabelRow) (tb : TeamTables) (a : String) (T : List String) :
    let s := (⟨Db.ofRows keys values labels catalog tb.agentTeams, [(fun n => [n]) <$> syncAgentTeams a T]⟩ : Sys).run
      (List.replicate 4 (.run 0))
    Heap.rows s.db.status s.db.agentTeams = (Serial.syncAgentTeams tb a T).2.agentTeams ∧
      s.clients = [match (Serial.syncAgentTeams tb a T).1 with | .ok n => .ret [n] | .error e => .fail e] := by
  intro s
  let db0 := Db.ofRows keys values labels catalog tb.agentTeams
  have hsettled : ∀ (st : TxStatus), ∀ x ∈ db0.agentTeams, x.Settled st := fun _ => Heap.settled_ofRows _
  have hnd : (db0.agentTeams.map (·.tid)).Nodup := Heap.nodup_tid_ofRows tb.agentTeams
  let ys := db0.agentTeams.map fun x => if x.row.agentId == a then { x with xmax := some 0 } else x
  have hrows0 : db0.agentTeams.map (·.row) = tb.agentTeams := Heap.ofRows_row _
  have hkept : Heap.rows (db0.status.commit 0) ys = tb.agentTeams.filter (·.agentId != a) := by
    rw [Heap.rows_deleteWhere (by simp) (hsettled _) (·.agentId == a), hrows0]
    rfl
  simp only [s, syncAgentTeams_client, List.replicate_succ, List.replicate_zero]
  rw [Sys.run_alone_tx (show db0.exec 0 (.scanAgentTeams a) = .ok db0 _ from rfl) (by rfl),
    Sys.run_alone_tx (exec_deleteAgentTeams_settled a (hsettled _) hnd) (by split <;> rfl), Serial.syncAgentTeams_eq]
  by_cases hT : T.length > 0
  · have hins := exec_insertAgentTeams_replaced a (hsettled _) T
    rw [if_pos hT]
    by_cases hTnd : T.Nodup
    · rw [if_pos hTnd] at hins
      rw [Sys.run_alone_tx hins (by rfl), Sys.run_alone_tx (show Db.exec _ 0 .commit = _ from rfl) (by rfl),
        Sys.run_nil, if_pos hTnd]
      refine ⟨?_, rfl⟩
      rw [Heap.rows_append, hkept, Heap.rows_freshRows (by simp)]
    · rw [if_neg hTnd] at hins
      rw [Sys.run_alone_tx_error hins, show [Event.run 0] = List.replicate 1 (.run 0) from rfl,
        Sys.run_alone_finished (show Prog.finished (.fail _ : Client) = true from rfl), if_neg hTnd]
      refine ⟨?_, rfl⟩
      show Heap.rows (db0.status.abort 0) ys = tb.agentTeams
      rw [Heap.rows_deleteWhere_of_not_committed (by simp [db0, Db.ofRows]) (hsettled _) (·.agentId == a), hrows0]
  · obtain rfl : T = [] := List.eq_nil_of_length_eq_zero (by omega)
    rw [if_neg hT, Sys.run_alone_tx (show Db.exec _ 0 .commit = _ from rfl) (by rfl),
      show [Event.run 0] = List.replicate 1 (.run 0) from rfl,
      Sys.run_alone_finished (show Prog.finished (.ret _ : Client) = true from rfl), if_pos List.nodup_nil]
    exact ⟨hkept.trans (List.append_nil _).symm, rfl⟩

end AgentTeamModel

end Archestra
