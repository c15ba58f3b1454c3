import Archestra.Db.Sched

/-!
# Pruning against `getOrCreateKey`

`INSERT ... ON CONFLICT DO NOTHING` on a key that a committed row already holds changes nothing and takes no lock
(`exec_insertIgnore_of_live`), so a prune transaction that found the row unreferenced can delete it and commit
before the caller's `SELECT`, which then returns no row (`exec_selectId_of_invisible`): `result.id` throws.  Running
the get-or-create inside the transaction of `syncAgentLabels` does not help under READ COMMITTED: the `SELECT`
takes a new snapshot.  `prune_race_fails_getOrCreateKey` replays the race on both call sites.

Run alone, the prune does what it is for (`pruneKeysAndValues_alone`): from any state of the tables it deletes
exactly the keys and values no junction row references, and answers how many.
-/

namespace Archestra

namespace Db

variable {db : Db} {t : Nat} {d : Dict} {s : String}

/-- On a key held by a live row, `INSERT ... ON CONFLICT DO NOTHING` changes nothing: no new row, no lock. -/
theorem exec_insertIgnore_of_live (hw : Heap.conflictWait db.status t DictRow.name s (db.dict d) = none)
    (hlive : ∃ x ∈ db.dict d, x.row.name = s ∧ x.fate db.status t = .live) :
    db.exec t (.insertIgnore d s) = .ok db [] := by
  obtain ⟨x, hx, hname, hfate⟩ := hlive
  have : Heap.holdsKey db.status t DictRow.name s (db.dict d) = true :=
    List.any_eq_true.2 ⟨x, hx, by simp [hname, hfate]⟩
  simp [exec, hw, this]

/-- When no row named `s` is in the snapshot of `t`, `SELECT id ... LIMIT 1` returns no row. -/
theorem exec_selectId_of_invisible (h : ∀ x ∈ db.dict d, x.row.name = s → x.visible db.status t = false) :
    db.exec t (.selectId d s) = .ok db [] := by
  simp only [exec, Heap.select, List.filter_filter]
  rw [List.filter_eq_nil_iff.2 fun x hx => by
    simpa using fun hv hn => absurd hv (by simp [h x hx hn])]
  rfl

/-- On settled tuples with distinct tuple ids, the `DELETE` of the rows whose id is in `ids` marks exactly those rows
and answers their tuple ids. -/
theorem exec_deleteDict_settled (h : ∀ x ∈ db.dict d, x.Settled db.status) (hnd : ((db.dict d).map (·.tid)).Nodup)
    (ids : List Nat) :
    db.exec t (.deleteDict d (Heap.scan db.status t (fun r => decide (r.id ∈ ids)) (db.dict d))) =
      .ok (db.setDict d ((db.dict d).map fun x => if decide (x.row.id ∈ ids) then { x with xmax := some t } else x))
        (((db.dict d).filter fun x => decide (x.row.id ∈ ids)).map (·.tid)) := by
  have hdel : ∀ x ∈ db.dict d,
      Heap.deletes db.status t (Heap.scan db.status t (fun r => decide (r.id ∈ ids)) (db.dict d)) x =
        decide (x.row.id ∈ ids) := fun x hx => Heap.deletes_scan_settled h hnd _ hx
  simp only [exec, Heap.lockWait_settled h, deleted, Heap.markDeleted, List.filter_congr hdel]
  congr 2
  exact List.map_congr_left fun x hx => by simp only [hdel x hx]

end Db

/-- Keys `env` and value `prod`, once the label of `agent-a` and now orphaned by its sync; `agent-b` syncs the same
label, and a standalone `getOrCreateKey("env")` runs beside it. -/
def pruneRace : Sys :=
  { db := Db.ofRows [⟨1, "env"⟩] [⟨2, "prod"⟩] [⟨"agent-a", 1, 2⟩] [] []
    clients := [(fun _ => []) <$> AgentLabelModel.syncAgentLabels "agent-a" [],
      (fun _ => []) <$> AgentLabelModel.syncAgentLabels "agent-b" [⟨"env", "prod"⟩],
      (fun id => [id]) <$> AgentLabelModel.getOrCreateKey "env"] }

/-- `syncAgentLabels("agent-a", [])` commits and fires its prune (client 3); `agent-b`'s sync and the standalone call
run their `INSERT ... ON CONFLICT DO NOTHING`; the prune deletes `env` and `prod` and commits; both `SELECT`s find
nothing: the sync (rolled back) and the standalone call throw. -/
theorem prune_race_fails_getOrCreateKey :
    ((pruneRace.run ([.run 0, .run 0, .run 0, .run 0, .run 1, .run 1, .run 1, .run 2] ++ List.replicate 7 (.run 3) ++
        [.run 1, .run 2])).clients.map Prog.failure?) = [none, some .typeError, some .typeError, none] := by
  decide

/-! ### `pruneKeysAndValues` run alone -/

theorem failure?_pruneDict_bind (d : Dict) (orphaned : List Nat) {g : Nat → Client}
    (hg : ∀ n, (g n).failure? = none) : ((AgentLabelModel.pruneDict d orphaned).bind g).failure? = none := by
  unfold AgentLabelModel.pruneDict
  split
  · rfl
  · exact hg 0

/-- `pruneDict` alone on a dictionary of settled tuples with distinct tuple ids: two statements when there are
orphans and none otherwise; it deletes the rows with an orphaned id and answers their number. -/
theorem run_alone_pruneDict {db : Db} {d : Dict} (h : ∀ x ∈ db.dict d, x.Settled db.status)
    (hnd : ((db.dict d).map (·.tid)).Nodup) (orphaned : List Nat) {g : Nat → Client}
    (hg : ∀ n, (g n).failure? = none) (es : List Event) :
    (⟨db, [(AgentLabelModel.pruneDict d orphaned).bind g]⟩ : Sys).run
        (List.replicate (if orphaned.length > 0 then 2 else 0) (.run 0) ++ es) =
      (⟨db.setDict d ((db.dict d).map fun x => if decide (x.row.id ∈ orphaned) then { x with xmax := some 0 } else x),
        [g ((db.dict d).filter fun x => decide (x.row.id ∈ orphaned)).length]⟩ : Sys).run es := by
  by_cases ho : orphaned.length > 0
  · simp only [AgentLabelModel.pruneDict, ho, if_true, Conn.delete, Conn.query, Prog.map_eq, Prog.bind_eq,
      Prog.bind_assoc, Prog.exec_bind, Prog.ret_bind, List.replicate_succ, List.replicate_zero, List.cons_append,
      List.nil_append, show (Conn.tx == Conn.db) = false from rfl]
    rw [Sys.run_alone_tx (show db.exec 0 (.scanDict d orphaned) = .ok db _ from rfl) (by rfl),
      Sys.run_alone_tx (Db.exec_deleteDict_settled h hnd orphaned) (hg _), List.length_map]
  · obtain rfl : orphaned = [] := List.eq_nil_of_length_eq_zero (by omega)
    simp [AgentLabelModel.pruneDict]

/-- The id of a row is among the ids of the rows whose id satisfies `q` exactly when its own does. -/
theorem mem_ids_filter {rows : List DictRow} {q : Nat → Bool} {r : DictRow} (hr : r ∈ rows) :
    r.id ∈ (rows.filter fun r => q r.id).map (·.id) ↔ q r.id = true := by
  simp only [List.mem_map, List.mem_filter]
  exact ⟨fun ⟨r', ⟨_, hq⟩, he⟩ => he ▸ hq, fun hq => ⟨r, ⟨hr, hq⟩, rfl⟩⟩

/-- On settled tuples, a dictionary row is orphaned exactly when no `agent_labels` row and no `mcp_catalog_labels`
row references it. -/
theorem mem_orphans_settled {db : Db} {d : Dict} (hd : ∀ x ∈ db.dict d, x.Settled db.status)
    (hl : ∀ x ∈ db.agentLabels, x.Settled db.status) {r : DictRow} (hr : r ∈ (db.dict d).map (·.row)) :
    decide (r.id ∈ db.orphans 0 d) = !((db.agentLabels.map (·.row)).any (Db.refId d · == r.id) ||
      db.mcpCatalogLabels.any (Db.catalogRefId d · == r.id)) := by
  rw [Bool.eq_iff_iff, decide_eq_true_iff, Bool.not_or, Db.orphans_settled hd hl]
  exact @mem_ids_filter _ (fun id => !((db.agentLabels.map (·.row)).any (Db.refId d · == id)) &&
    !(db.mcpCatalogLabels.any (Db.catalogRefId d · == id))) r hr

section Dictionary

variable {rows : List DictRow} {orphaned : List Nat} {q : Nat → Bool}
  (hq : ∀ r ∈ rows, decide (r.id ∈ orphaned) = !q r.id)
include hq

/-- Deleting, on a dictionary committed before the run, the rows whose id is orphaned keeps, once the prune has
committed, the rows whose id satisfies `q`. -/
theorem rows_prune_ofRows {st : TxStatus} (ht : 0 ∈ st.committed) :
    Heap.rows st ((Heap.ofRows rows).map fun x => if decide (x.row.id ∈ orphaned) then { x with xmax := some 0 } else x) =
      rows.filter (fun r => q r.id) := by
  rw [Heap.rows_deleteWhere ht (Heap.settled_ofRows rows) (fun r => decide (r.id ∈ orphaned)), Heap.ofRows_row]
  exact List.filter_congr fun r hr => by simp [hq r hr]

/-- The same deletion removes as many rows as fail `q`. -/
theorem length_prune_ofRows :
    ((Heap.ofRows rows).filter fun x => decide (x.row.id ∈ orphaned)).length = (rows.filter fun r => !q r.id).length := by
  have hmap : ((Heap.ofRows rows).map (·.row)).filter (fun r => decide (r.id ∈ orphaned)) =
      ((Heap.ofRows rows).filter fun x => decide (x.row.id ∈ orphaned)).map (·.row) := List.filter_map _ _
  rw [← List.length_map _ (·.row), ← hmap, Heap.ofRows_row]
  exact congrArg List.length (List.filter_congr fun r hr => hq r hr)

end Dictionary

/-- `pruneKeysAndValues()` run alone from any state of the tables: it deletes exactly the keys and the values that
neither an `agent_labels` row nor an `mcp_catalog_labels` row references, changes no junction row, and answers the
numbers of rows it deleted. -/
theorem pruneKeysAndValues_alone (keys values : List DictRow) (labels : List AgentLabelRow)
    (catalog : List CatalogLabelRow) (teams : List AgentTeamRow) :
    let s := (⟨Db.ofRows keys values labels catalog teams, [Sys.pruneClient]⟩ : Sys).run (List.replicate 7 (.run 0))
    s.db.dictRows .keys = keys.filter (fun r => labels.any (·.keyId == r.id) || catalog.any (·.keyId == r.id)) ∧
      s.db.dictRows .values =
        values.filter (fun r => labels.any (·.valueId == r.id) || catalog.any (·.valueId == r.id)) ∧
      Heap.rows s.db.status s.db.agentLabels = labels ∧ s.db.mcpCatalogLabels = catalog ∧
      Heap.rows s.db.status s.db.agentTeams = teams ∧
      s.clients = [.ret [(keys.filter fun r => !(labels.any (·.keyId == r.id) || catalog.any (·.keyId == r.id))).length,
        (values.filter fun r => !(labels.any (·.valueId == r.id) || catalog.any (·.valueId == r.id))).length]] := by
  intro s
  set db := Db.ofRows keys values labels catalog teams
  set K := db.orphans 0 .keys
  set V := db.orphans 0 .values
  have hclient : Sys.pruneClient = .exec false (.selectOrphans .keys) fun K => .exec false (.selectOrphans .values)
      fun V => (AgentLabelModel.pruneDict .keys K).bind fun dk => (AgentLabelModel.pruneDict .values V).bind
        fun dv => .exec false .commit fun _ => .ret [dk, dv] := by
    simp only [Sys.pruneClient, AgentLabelModel.pruneKeysAndValues, transaction, Conn.query, Prog.map_eq,
      Prog.bind_eq, Prog.pure_eq, Prog.bind_assoc, Prog.exec_bind, Prog.ret_bind]
    rfl
  -- the two orphan queries, the deletes, the commit, and events after the client has returned
  have hev : List.replicate 7 (Event.run 0) = .run 0 :: .run 0 ::
      (List.replicate (if K.length > 0 then 2 else 0) (.run 0) ++
        (List.replicate (if V.length > 0 then 2 else 0) (.run 0) ++
          (.run 0 :: List.replicate (4 - (if K.length > 0 then 2 else 0) - (if V.length > 0 then 2 else 0))
            (.run 0)))) := by
    split_ifs <;> rfl
  have hK : ∀ x ∈ db.dict .keys, x.Settled db.status := Heap.settled_ofRows keys
  have hV : ∀ x ∈ db.dict .values, x.Settled db.status := Heap.settled_ofRows values
  have hKnd : ((db.dict .keys).map (·.tid)).Nodup := Heap.nodup_tid_ofRows keys
  have hVnd : ((db.dict .values).map (·.tid)).Nodup := Heap.nodup_tid_ofRows values
  simp only [s, hev, hclient]
  have hg : ∀ n, ((AgentLabelModel.pruneDict .values V).bind fun dv =>
      (.exec false .commit fun _ => .ret [n, dv] : Client)).failure? = none :=
    fun _ => failure?_pruneDict_bind _ _ fun _ => rfl
  rw [Sys.run_alone_tx (show db.exec 0 (.selectOrphans .keys) = .ok db K from rfl) (by rfl),
    Sys.run_alone_tx (show db.exec 0 (.selectOrphans .values) = .ok db V from rfl) (failure?_pruneDict_bind _ _ hg),
    run_alone_pruneDict hK hKnd K hg]
  set keys' := (db.dict .keys).map fun x => if decide (x.row.id ∈ K) then { x with xmax := some 0 } else x
  rw [@run_alone_pruneDict (db.setDict .keys keys') .values hV hVnd V _ (fun _ => by rfl)]
  set values' := (db.dict .values).map fun x => if decide (x.row.id ∈ V) then { x with xmax := some 0 } else x
  rw [Sys.run_alone_tx (by rfl) (by rfl), Sys.run_alone_finished (by rfl)]
  -- the orphans are the rows that no junction row references
  have hL : ∀ x ∈ db.agentLabels, x.Settled db.status := Heap.settled_ofRows labels
  have hKq : ∀ r ∈ keys, decide (r.id ∈ K) = !(labels.any (·.keyId == r.id) || catalog.any (·.keyId == r.id)) :=
    fun r hr => by simpa only [db, Db.ofRows, Db.dict, Heap.ofRows_row, Db.refId, Db.catalogRefId] using
      @mem_orphans_settled db .keys hK hL r (by simpa only [db, Db.ofRows, Db.dict, Heap.ofRows_row] using hr)
  have hVq : ∀ r ∈ values, decide (r.id ∈ V) =
      !(labels.any (·.valueId == r.id) || catalog.any (·.valueId == r.id)) :=
    fun r hr => by simpa only [db, Db.ofRows, Db.dict, Heap.ofRows_row, Db.refId, Db.catalogRefId] using
      @mem_orphans_settled db .values hV hL r (by simpa only [db, Db.ofRows, Db.dict, Heap.ofRows_row] using hr)
  let qK := fun id => labels.any (·.keyId == id) || catalog.any (·.keyId == id)
  let qV := fun id => labels.any (·.valueId == id) || catalog.any (·.valueId == id)
  refine ⟨@rows_prune_ofRows keys K qK hKq _ (by simp), @rows_prune_ofRows values V qV hVq _ (by simp),
    (Heap.rows_settled (Heap.settled_ofRows labels)).trans (Heap.ofRows_row labels), rfl,
    (Heap.rows_settled (Heap.settled_ofRows teams)).trans (Heap.ofRows_row teams), ?_⟩
  simp only [List.cons.injEq, Prog.ret.injEq, and_true]
  exact ⟨@length_prune_ofRows keys K qK hKq, @length_prune_ofRows values V qV hVq⟩

end Archestra
