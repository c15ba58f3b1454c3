import Archestra.Db.Sched

/-!
# Full replaces of one agent's rows in a junction table

`syncAgentTeams` and `syncAgentLabels` follow one protocol on a junction table (`agent_teams`, `agent_labels`):
in one transaction, `DELETE` the agent's rows, run statements on other tables, `INSERT` the new rows, commit.
`Junction` names the table and its three statements; the two syncs are its instances.

The system here is two syncs of one agent `a`, clients `0` and `1`, and any number of foreign clients that never
touch the table (the background prunes `syncAgentLabels` fires).  `Inv` says, for every reachable state, what each
sync has done to the heap by the stage its code is at; `inv_run` carries it over every interleaving.  What a sync's
rows must satisfy is a `RowsOk`, a property of the rows on a database that holds on: dictionary rows are appended or
marked deleted, never removed (`Db.DictLE`), so the ids a sync looked up still name what they named.  At every
reachable state, finished or not:

* `rows_of_none_committed`: if neither committed, the agent's rows are those from before the run;
* `rows_of_one_committed`: if only sync `i` committed, they are exactly the rows `i` inserted;
* `rows_of_both_committed`: if both committed, they contain the rows of the later commit and lie within the rows
  of both, which is a union when the later sync took its snapshot before the earlier one committed.
-/

namespace Archestra

/-- A junction table of agent rows and the statements of a full replace on it. -/
structure Junction (α : Type) where
  get : Db → List (Tuple α)
  agentId : α → String
  scan : String → Stmt
  delete : List Nat → Stmt
  insert : List α → Stmt
  /-- The statements that read or write the table. -/
  owns : Stmt → Bool
  exec_scan : ∀ (db : Db) (t : Nat) (a : String),
    db.exec t (scan a) = .ok db (Heap.scan db.status t (fun r => agentId r == a) (get db))
  exec_delete : ∀ {db : Db} {t : Nat} {tids : List Nat} {db' : Db} {ans : List Nat},
    db.exec t (delete tids) = .ok db' ans →
    Heap.lockWait db.status t tids (get db) = none ∧ get db' = Heap.markDeleted db.status t tids (get db) ∧
      db'.status = db.status ∧ db'.nextId = db.nextId
  exec_insert : ∀ {db : Db} {t : Nat} {rows : List α} {db' : Db} {ans : List Nat},
    db.exec t (insert rows) = .ok db' ans →
    get db' = get db ++ Heap.freshRows t db.nextId rows ∧ db'.status = db.status ∧
      db'.nextId = db.nextId + rows.length
  exec_other : ∀ {db : Db} {t : Nat} {s : Stmt} {db' : Db} {ans : List Nat},
    owns s = false → db.exec t s = .ok db' ans →
    get db' = get db ∧ (db'.status = db.status ∨ s = .commit ∧ db'.status = db.status.commit t) ∧
      db.nextId ≤ db'.nextId
  get_commit : ∀ (db : Db) (t : Nat), get (db.commit t) = get db
  get_abort : ∀ (db : Db) (t : Nat), get (db.abort t) = get db

/-! ### The dictionaries only grow -/

namespace Db

/-- Every row of a dictionary heap of `db` is in that of `db'`. -/
def DictLE (db db' : Db) : Prop := ∀ d, ∀ r ∈ (db.dict d).map (·.row), r ∈ (db'.dict d).map (·.row)

theorem DictLE.refl (db : Db) : db.DictLE db := fun _ _ => id

theorem DictLE.trans {db db' db'' : Db} (h : db.DictLE db') (h' : db'.DictLE db'') : db.DictLE db'' :=
  fun d r hr => h' d r (h d r hr)

theorem dictLE_commit (db : Db) (t : Nat) : db.DictLE (db.commit t) := DictLE.refl db

theorem dictLE_abort (db : Db) (t : Nat) : db.DictLE (db.abort t) := DictLE.refl db

theorem dictLE_insertDict (db : Db) (d : Dict) (t : Nat) (s : String) : db.DictLE (db.insertDict d t s) := by
  intro d' r hr
  cases d <;> cases d' <;> simp_all [insertDict, setDict, dict]

theorem dictLE_markDeleted (db : Db) (d : Dict) (t : Nat) (tids : List Nat) :
    db.DictLE (db.setDict d (Heap.markDeleted db.status t tids (db.dict d))) := by
  intro d' r hr
  have hm : (Heap.markDeleted db.status t tids (db.dict d)).map (·.row) = (db.dict d).map (·.row) :=
    Heap.markDeleted_map _ (by intro; rfl) _
  cases d <;> cases d' <;> simp_all [setDict, dict]

/-- A statement that answers keeps every dictionary row: it appends to a dictionary, marks some of its tuples
deleted, or leaves the dictionaries alone. -/
theorem dictLE_of_exec {db db' : Db} {t : Nat} {s : Stmt} {ans : List Nat} (h : db.exec t s = .ok db' ans) :
    db.DictLE db' := by
  cases s <;> simp only [exec] at h <;> (repeat' split at h) <;> cases h
  all_goals first
    | exact DictLE.refl _
    | exact dictLE_insertDict _ _ _ _
    | exact dictLE_markDeleted _ _ _ _

end Db

namespace Junction

variable {α : Type} (J : Junction α)

/-- What the rows a sync inserts satisfy, on a database: kept as the dictionaries grow. -/
structure RowsOk (α : Type) where
  holds : Db → List α → Prop
  mono : ∀ {db db' : Db} {rows : List α}, db.DictLE db' → holds db rows → holds db' rows

/-! ### The stages of a sync's code -/

section Stages

variable (a : String) (rowsOk : RowsOk α)

/-- The sync has committed: what is left is to fire the prune and return. -/
def Finished (p : Client) : Prop := ∃ r, p = .ret r ∨ p = .firePrune (.ret r)

/-- The sync's next statement is its `COMMIT`. -/
def Committing (p : Client) : Prop := ∃ k, p = .exec false .commit k ∧ ∀ ans, Finished (k ans)

/-- Between the `DELETE` and the `INSERT`, on the database `db` or any it grows to: statements on other tables, after
which the code may throw, then the `INSERT` of rows `rowsOk` admits on the database of the `INSERT` (none when the
list is empty).  A statement on other tables is followed by what its answer, on the database it ran on, allows. -/
inductive Inserting : Db → Client → Prop
  | insert {db : Db} {rows : List α} {k : List Nat → Client} :
      rowsOk.holds db rows → (∀ ans, Committing (k ans)) → Inserting db (.exec false (J.insert rows) k)
  | skip {db : Db} {p : Client} : rowsOk.holds db [] → Committing p → Inserting db p
  | other {db : Db} {s : Stmt} {k : List Nat → Client} : J.owns s = false → s ≠ .commit →
      (∀ t db₁ db' ans, db.DictLE db₁ → db₁.exec t s = .ok db' ans → Inserting db' (k ans)) →
      Inserting db (.exec false s k)
  | fail {db : Db} (e : Failure) : Inserting db (.fail e)

/-- The `DELETE` of the scanned tuples `tids` is next. -/
def Deleting (tids : List Nat) (p : Client) : Prop :=
  ∃ k, p = .exec false (J.delete tids) k ∧ ∀ db ans, Inserting J rowsOk db (k ans)

/-- The sync has not started: the scan of the agent's rows is next. -/
def Scanning (p : Client) : Prop := ∃ k, p = .exec false (J.scan a) k ∧ ∀ tids, Deleting J rowsOk tids (k tids)

end Stages

theorem Inserting.mono {J : Junction α} {rowsOk : RowsOk α} {db db' : Db} {p : Client}
    (h : Inserting J rowsOk db p) (hle : db.DictLE db') : Inserting J rowsOk db' p := by
  cases h with
  | insert hrows hk => exact .insert (rowsOk.mono hle hrows) hk
  | skip hrows hp => exact .skip (rowsOk.mono hle hrows) hp
  | other hown hne hk => exact .other hown hne fun t db₁ db'' ans h₁ hex => hk t db₁ db'' ans (hle.trans h₁) hex
  | fail e => exact .fail e

/-- A client that never touches the table. -/
inductive Foreign : Client → Prop
  | ret (r : List Nat) : Foreign (.ret r)
  | fail (e : Failure) : Foreign (.fail e)
  | exec {auto : Bool} {s : Stmt} {k : List Nat → Client} : J.owns s = false → (∀ ans, Foreign (k ans)) →
      Foreign (.exec auto s k)
  | firePrune {next : Client} : Foreign next → Foreign (.firePrune next)

/-! ### The invariant -/

/-- What holds of every tuple: only the syncs insert and delete, a sync never deletes its own rows, and a sync
deletes only rows committed before it scanned, so a tuple's inserter commits before its deleter. -/
structure TupleOk (committed : List Nat) (x : Tuple α) : Prop where
  xmin_lt : ∀ u, x.xmin = some u → u < 2
  xmax_lt : ∀ u, x.xmax = some u → u < 2
  xmax_ne_xmin : ∀ u, x.xmin = some u → x.xmax ≠ some u
  order : ∀ u v, x.xmin = some u → x.xmax = some v →
    u ∈ committed ∧ (v ∈ committed → committed.indexOf u < committed.indexOf v)

/-- The table: distinct tuple ids below the counter, every tuple `TupleOk`, and the tuples from before the run
holding the rows `initial`. -/
structure DbOk (initial : List α) (db : Db) : Prop where
  tid_nodup : ((J.get db).map (·.tid)).Nodup
  tid_lt : ∀ x ∈ J.get db, x.tid < db.nextId
  tuple_ok : ∀ x ∈ J.get db, TupleOk db.status.committed x
  initial_eq : ((J.get db).filter (·.xmin == none)).map (·.row) = initial

section Facts

variable (a : String) (db : Db)

/-- Neither committed nor rolled back. -/
def Alive (i : Nat) : Prop := i ∉ db.status.committed ∧ i ∉ db.status.aborted

/-- No tuple carries `i`, as inserter or deleter. -/
def Untouched (i : Nat) : Prop := ∀ x ∈ J.get db, x.xmin ≠ some i ∧ x.xmax ≠ some i

/-- The scan `tids` holds every row of `a` from before the run not deleted by a committed transaction, and only
tuples committed before it, all below the counter. -/
def ScanOk (tids : List Nat) : Prop :=
  (∀ x ∈ J.get db, x.xmin = none → J.agentId x.row = a →
    x.tid ∈ tids ∨ ∃ j ∈ db.status.committed, x.xmax = some j) ∧
  (∀ x ∈ J.get db, x.tid ∈ tids → x.xmin = none ∨ ∃ j ∈ db.status.committed, x.xmin = some j) ∧
  ∀ tid ∈ tids, tid < db.nextId

/-- Every row of `a` from before the run is deleted by `i` or by a committed transaction. -/
def Swept (i : Nat) : Prop :=
  ∀ x ∈ J.get db, x.xmin = none → J.agentId x.row = a →
    x.xmax = some i ∨ ∃ j ∈ db.status.committed, x.xmax = some j

/-- The rows of the tuples `i` inserted. -/
def insertedBy (i : Nat) : List α := ((J.get db).filter (·.xmin == some i)).map (·.row)

/-- What sync `i` has done, by the stage of its code. -/
inductive SyncOk (rowsOk : RowsOk α) (i : Nat) : Client → Prop
  | failed {e : Failure} : i ∈ db.status.aborted → i ∉ db.status.committed → SyncOk rowsOk i (.fail e)
  | scanning {p : Client} : Scanning J a rowsOk p → Alive db i → Untouched J db i → SyncOk rowsOk i p
  | deleting {p : Client} {tids : List Nat} : Deleting J rowsOk tids p → Alive db i → Untouched J db i →
      ScanOk J a db tids → SyncOk rowsOk i p
  | inserting {p : Client} : Inserting J rowsOk db p → Alive db i → (∀ x ∈ J.get db, x.xmin ≠ some i) →
      Swept J a db i → SyncOk rowsOk i p
  | committing {p : Client} : Committing p → Alive db i → rowsOk.holds db (insertedBy J db i) → Swept J a db i →
      SyncOk rowsOk i p
  | finished {p : Client} : Finished p → i ∈ db.status.committed → rowsOk.holds db (insertedBy J db i) →
      Swept J a db i → SyncOk rowsOk i p

end Facts

/-- The invariant of two syncs of `a`, sync `i` inserting rows `rowsOk i`, among foreign clients. -/
structure Inv (a : String) (rowsOk : Nat → RowsOk α) (initial : List α) (s : Sys) : Prop where
  db_ok : DbOk J initial s.db
  two_le : 2 ≤ s.clients.length
  sync_ok : ∀ i p, i < 2 → s.clients[i]? = some p → SyncOk J a s.db (rowsOk i) i p
  foreign : ∀ i p, 2 ≤ i → s.clients[i]? = some p → Foreign J p

/-! ### Commits and rollbacks -/

section Status

variable {J} {a : String} {initial : List α} {db db' : Db}

theorem TupleOk.commit {st : TxStatus} {x : Tuple α} (h : TupleOk st.committed x) (t : Nat) :
    TupleOk (st.commit t).committed x := by
  unfold TxStatus.commit
  split
  · exact h
  · rename_i ht
    refine ⟨h.xmin_lt, h.xmax_lt, h.xmax_ne_xmin, fun u v hu hv => ?_⟩
    obtain ⟨hu', hlt⟩ := h.order u v hu hv
    refine ⟨List.mem_append_left _ hu', fun hv' => ?_⟩
    rw [List.indexOf_append_of_mem hu']
    rcases List.mem_append.1 hv' with hv' | hv'
    · rw [List.indexOf_append_of_mem hv']; exact hlt hv'
    · obtain rfl := List.mem_singleton.1 hv'
      rw [List.indexOf_append_of_not_mem ht]
      exact Nat.lt_add_right _ (List.indexOf_lt_length.2 hu')

/-- A step that leaves the table alone, and commits or rolls back at most one transaction, keeps `DbOk`. -/
theorem DbOk.of_status (h : DbOk J initial db) (hget : J.get db' = J.get db) (hnext : db.nextId ≤ db'.nextId)
    (hst : db'.status.committed = db.status.committed ∨ ∃ t, db'.status = db.status.commit t) :
    DbOk J initial db' where
  tid_nodup := hget ▸ h.tid_nodup
  tid_lt x hx := Nat.lt_of_lt_of_le (h.tid_lt x (hget ▸ hx)) hnext
  tuple_ok x hx := by
    rcases hst with hst | ⟨t, hst⟩
    · exact hst ▸ h.tuple_ok x (hget ▸ hx)
    · exact hst ▸ (h.tuple_ok x (hget ▸ hx)).commit t
  initial_eq := hget ▸ h.initial_eq

theorem Swept.mono {j : Nat} (h : Swept J a db j) (hget : J.get db' = J.get db)
    (hc : ∀ u ∈ db.status.committed, u ∈ db'.status.committed) : Swept J a db' j := fun x hx h0 hx' =>
  (h x (hget ▸ hx) h0 hx').imp_right fun ⟨j, hj, hx⟩ => ⟨j, hc j hj, hx⟩

theorem insertedBy_eq_nil {i : Nat} (h : ∀ x ∈ J.get db, x.xmin ≠ some i) : insertedBy J db i = [] := by
  simp only [insertedBy, List.map_eq_nil_iff, List.filter_eq_nil_iff, beq_iff_eq]
  exact h

/-- A step that leaves the table alone and does not commit or roll back sync `i` keeps what `i` has done. -/
theorem SyncOk.mono {rowsOk : RowsOk α} {i : Nat} {p : Client} (h : SyncOk J a db rowsOk i p)
    (hget : J.get db' = J.get db) (hnext : db.nextId ≤ db'.nextId)
    (hc : ∀ u ∈ db.status.committed, u ∈ db'.status.committed)
    (hci : i ∈ db'.status.committed → i ∈ db.status.committed) (ha : i ∈ db'.status.aborted ↔ i ∈ db.status.aborted)
    (hdict : db.DictLE db') : SyncOk J a db' rowsOk i p := by
  have alive : Alive db i → Alive db' i := fun h => ⟨mt hci h.1, ha.not.2 h.2⟩
  have swept : Swept J a db i → Swept J a db' i := fun h => h.mono hget hc
  have ins : insertedBy J db' i = insertedBy J db i := by simp only [insertedBy, hget]
  cases h with
  | failed h1 h2 => exact .failed (ha.2 h1) (mt hci h2)
  | scanning hp h1 h2 => exact .scanning hp (alive h1) fun x hx => h2 x (hget ▸ hx)
  | deleting hp h1 h2 h3 =>
    refine .deleting hp (alive h1) (fun x hx => h2 x (hget ▸ hx))
      ⟨fun x hx h0 hx' => ?_, fun x hx ht => ?_, fun t ht => Nat.lt_of_lt_of_le (h3.2.2 t ht) hnext⟩
    · exact (h3.1 x (hget ▸ hx) h0 hx').imp_right fun ⟨j, hj, hx⟩ => ⟨j, hc j hj, hx⟩
    · exact (h3.2.1 x (hget ▸ hx) ht).imp_right fun ⟨j, hj, hx⟩ => ⟨j, hc j hj, hx⟩
  | inserting hp h1 h2 h3 => exact .inserting (hp.mono hdict) (alive h1) (hget ▸ h2) (swept h3)
  | committing hp h1 h2 h3 => exact .committing hp (alive h1) (ins ▸ rowsOk.mono hdict h2) (swept h3)
  | finished hp h1 h2 h3 => exact .finished hp (hc i h1) (ins ▸ rowsOk.mono hdict h2) (swept h3)

theorem SyncOk.commit {rowsOk : RowsOk α} {i t : Nat} {p : Client} (h : SyncOk J a db rowsOk i p)
    (hit : i ≠ t) : SyncOk J a (db.commit t) rowsOk i p :=
  h.mono (J.get_commit db t) le_rfl (fun u hu => by simp [hu]) (by simp [hit]) (by simp) (db.dictLE_commit t)

theorem SyncOk.abort {rowsOk : RowsOk α} {i t : Nat} {p : Client} (h : SyncOk J a db rowsOk i p)
    (hit : i ≠ t) : SyncOk J a (db.abort t) rowsOk i p :=
  h.mono (J.get_abort db t) le_rfl (fun u hu => by simpa [Db.abort] using hu) (by simp [Db.abort])
    (by simp [Db.abort, TxStatus.abort_aborted_mem, hit]) (db.dictLE_abort t)

theorem DbOk.commit (h : DbOk J initial db) (t : Nat) : DbOk J initial (db.commit t) :=
  h.of_status (J.get_commit db t) le_rfl (.inr ⟨t, rfl⟩)

theorem DbOk.abort (h : DbOk J initial db) (t : Nat) : DbOk J initial (db.abort t) :=
  h.of_status (J.get_abort db t) le_rfl (.inl (TxStatus.abort_committed _ _))

end Status

/-! ### The scan -/

theorem scanOk_scan {a : String} {initial : List α} {db : Db} {i : Nat} (hdb : DbOk J initial db)
    (hu : Untouched J db i) : ScanOk J a db (Heap.scan db.status i (fun r => J.agentId r == a) (J.get db)) := by
  refine ⟨fun x hx h0 ha => ?_, fun x hx ht => ?_, fun t ht => ?_⟩
  · by_cases hv : x.visible db.status i
    · exact .inl ((Heap.mem_scan hdb.tid_nodup hx).2 ⟨hv, by simp [ha]⟩)
    · simp only [Tuple.visible, h0, TxStatus.insCommitted, Bool.true_or, Bool.true_and, Bool.not_eq_true',
        Bool.not_eq_false] at hv
      cases hm : x.xmax with
      | none => simp [hm, Tuple.deletedFor] at hv
      | some c =>
        simp only [hm, Tuple.deletedFor, Bool.or_eq_true, beq_iff_eq, decide_eq_true_eq] at hv
        rcases hv with rfl | hc
        · exact absurd hm (hu x hx).2
        · exact .inr ⟨c, hc, rfl⟩
  · have hv := ((Heap.mem_scan hdb.tid_nodup hx).1 ht).1
    simp only [Tuple.visible, Bool.and_eq_true, Bool.or_eq_true, beq_iff_eq] at hv
    rcases hv.1 with hc | hc
    · cases hm : x.xmin with
      | none => exact .inl rfl
      | some u => exact .inr ⟨u, by simpa [hm, TxStatus.insCommitted] using hc, rfl⟩
    · exact absurd hc (hu x hx).1
  · obtain ⟨x, hx, rfl⟩ := List.mem_map.1 ht
    exact hdb.tid_lt x (List.mem_filter.1 hx).1

/-! ### The `DELETE` -/

section Delete

variable {J} {a : String} {initial : List α} {db db' : Db} {i : Nat} {tids : List Nat}

theorem inProgress_of_alive (h : Alive db i) : db.status.inProgress i = true := by
  simp [TxStatus.inProgress, h.1, h.2]

/-- Each tuple after the `DELETE` of `i` is one from before, untouched or, if it was scanned and live, deleted. -/
theorem mem_of_delete (hget : J.get db' = Heap.markDeleted db.status i tids (J.get db)) {y : Tuple α}
    (hy : y ∈ J.get db') : ∃ x ∈ J.get db, (x = y ∧ ¬(x.tid ∈ tids ∧ x.fate db.status i = .live)) ∨
      (y = { x with xmax := some i } ∧ x.tid ∈ tids ∧ x.fate db.status i = .live) := by
  obtain ⟨x, hx, rfl⟩ := Heap.mem_markDeleted.1 (hget ▸ hy)
  refine ⟨x, hx, ?_⟩
  by_cases hd : Heap.deletes db.status i tids x
  · exact .inr ⟨by simp [hd], Heap.deletes_eq_true.1 hd⟩
  · exact .inl ⟨by simp [hd], fun h => hd (Heap.deletes_eq_true.2 h)⟩

/-- A tuple deleted by a committed transaction, or by one in progress, is not deleted again. -/
theorem xmax_of_delete {x : Tuple α} {c : Nat} (hl : x.fate db.status i = .live) (hc : x.xmax = some c)
    (h : c ∈ db.status.committed ∨ db.status.inProgress c = true) : False := by
  obtain ⟨-, h1, h2⟩ := Tuple.xmax_of_fate_eq_live hl hc
  rcases h with h | h
  · exact h1 h
  · simp [h2] at h

theorem swept_of_delete (hget : J.get db' = Heap.markDeleted db.status i tids (J.get db))
    (hst : db'.status = db.status) {j : Nat} (h : Swept J a db j)
    (hj : j ∈ db.status.committed ∨ db.status.inProgress j = true) : Swept J a db' j := by
  intro y hy h0 ha
  rw [hst]
  obtain ⟨x, hx, ⟨rfl, -⟩ | ⟨rfl, -, hl⟩⟩ := mem_of_delete hget hy
  · exact h x hx h0 ha
  · rcases h x hx h0 ha with hm | ⟨c, hc, hm⟩
    · exact (xmax_of_delete hl hm hj).elim
    · exact (xmax_of_delete hl hm (.inl hc)).elim

/-- The `DELETE` of `i` leaves every row of the agent from before the run deleted by `i` or by a committed
transaction: the scan found it, and the lock wait let it through only once its deleter had finished. -/
theorem swept_self_of_delete (hget : J.get db' = Heap.markDeleted db.status i tids (J.get db))
    (hst : db'.status = db.status) (hlock : Heap.lockWait db.status i tids (J.get db) = none)
    (hu : Untouched J db i) (hscan : ScanOk J a db tids) : Swept J a db' i := by
  intro y hy h0 ha
  rw [hst]
  obtain ⟨x, hx, ⟨rfl, hnd⟩ | ⟨rfl, -, -⟩⟩ := mem_of_delete hget hy
  · rcases hscan.1 x hx h0 ha with ht | hc
    · have hf := Tuple.waitsOn_eq_none_iff.1 (Heap.lockWait_eq_none hlock x hx ht)
      have hg : x.fate db.status i = .gone := hf.resolve_right fun hl => hnd ⟨ht, hl⟩
      simp only [Tuple.fate, h0] at hg
      obtain ⟨c, hc, rfl | hc'⟩ := Tuple.delFate_eq_gone hg
      · exact ((hu x hx).2 hc).elim
      · exact .inr ⟨c, hc', hc⟩
    · exact .inr hc
  · exact .inl rfl

theorem DbOk.delete (h : DbOk J initial db) (hget : J.get db' = Heap.markDeleted db.status i tids (J.get db))
    (hst : db'.status = db.status) (hnext : db'.nextId = db.nextId) (hi : i < 2) (halive : Alive db i)
    (hu : Untouched J db i) (hscan : ScanOk J a db tids) : DbOk J initial db' where
  tid_nodup := by rw [hget, Heap.markDeleted_map _ (by intro; rfl)]; exact h.tid_nodup
  tid_lt y hy := by
    obtain ⟨x, hx, ⟨rfl, -⟩ | ⟨rfl, -⟩⟩ := mem_of_delete hget hy <;> exact hnext ▸ h.tid_lt x hx
  tuple_ok y hy := by
    rw [hst]
    obtain ⟨x, hx, ⟨rfl, -⟩ | ⟨rfl, ht, -⟩⟩ := mem_of_delete hget hy
    · exact h.tuple_ok x hx
    · refine ⟨(h.tuple_ok x hx).xmin_lt, fun u hm => Option.some.inj hm ▸ hi, fun u hx' hm => ?_,
        fun u v hx' hm => ?_⟩
      · obtain rfl := Option.some.inj hm
        exact (hu x hx).1 hx'
      · obtain rfl := Option.some.inj hm
        refine ⟨?_, fun hc => (halive.1 hc).elim⟩
        rcases hscan.2.1 x hx ht with h0 | ⟨j, hj, hm⟩
        · simp [h0] at hx'
        · exact Option.some.inj (hm.symm.trans hx') ▸ hj
  initial_eq := by rw [hget, Heap.markDeleted_filter_map _ _ (by intro; rfl) (by intro; rfl)]; exact h.initial_eq

/-- The `DELETE` of `i` keeps what the other sync has done. -/
theorem SyncOk.delete {rowsOk : RowsOk α} {j : Nat} {q : Client} (h : SyncOk J a db rowsOk j q)
    (hget : J.get db' = Heap.markDeleted db.status i tids (J.get db)) (hst : db'.status = db.status)
    (hnext : db'.nextId = db.nextId) (hji : j ≠ i) (hdict : db.DictLE db') : SyncOk J a db' rowsOk j q := by
  have alive : Alive db j → Alive db' j := fun h => by simpa only [Alive, hst] using h
  have untouched : Untouched J db j → Untouched J db' j := fun hu y hy => by
    obtain ⟨x, hx, ⟨rfl, -⟩ | ⟨rfl, -⟩⟩ := mem_of_delete hget hy
    · exact hu x hx
    · exact ⟨(hu x hx).1, fun hm => hji (Option.some.inj hm).symm⟩
  have ins : insertedBy J db' j = insertedBy J db j := by
    simp only [insertedBy, hget]; exact Heap.markDeleted_filter_map _ _ (by intro; rfl) (by intro; rfl) _
  cases h with
  | failed h1 h2 => exact .failed (hst ▸ h1) (hst ▸ h2)
  | scanning hp h1 h2 => exact .scanning hp (alive h1) (untouched h2)
  | deleting hp h1 h2 h3 =>
    refine .deleting hp (alive h1) (untouched h2) ⟨fun y hy h0 ha => ?_, fun y hy ht => ?_, hnext ▸ h3.2.2⟩
    · rw [hst]
      obtain ⟨x, hx, ⟨rfl, -⟩ | ⟨rfl, -, hl⟩⟩ := mem_of_delete hget hy
      · exact h3.1 x hx h0 ha
      · rcases h3.1 x hx h0 ha with ht | ⟨c, hc, hm⟩
        · exact .inl ht
        · exact (xmax_of_delete hl hm (.inl hc)).elim
    · rw [hst]
      obtain ⟨x, hx, ⟨rfl, -⟩ | ⟨rfl, -⟩⟩ := mem_of_delete hget hy <;> exact h3.2.1 x hx ht
  | inserting hp h1 h2 h3 =>
    refine .inserting (hp.mono hdict) (alive h1) (fun y hy => ?_)
      (swept_of_delete hget hst h3 (.inr (inProgress_of_alive h1)))
    obtain ⟨x, hx, ⟨rfl, -⟩ | ⟨rfl, -⟩⟩ := mem_of_delete hget hy <;> exact h2 x hx
  | committing hp h1 h2 h3 =>
    exact .committing hp (alive h1) (ins ▸ rowsOk.mono hdict h2)
      (swept_of_delete hget hst h3 (.inr (inProgress_of_alive h1)))
  | finished hp h1 h2 h3 =>
    exact .finished hp (hst ▸ h1) (ins ▸ rowsOk.mono hdict h2) (swept_of_delete hget hst h3 (.inl h1))

end Delete

/-! ### The `INSERT` -/

section Insert

variable {J} {a : String} {initial : List α} {db db' : Db} {i : Nat} {rows : List α}

theorem mem_of_insert (hget : J.get db' = J.get db ++ Heap.freshRows i db.nextId rows) {y : Tuple α}
    (hy : y ∈ J.get db') : y ∈ J.get db ∨
      y.xmin = some i ∧ y.xmax = none ∧ db.nextId ≤ y.tid ∧ y.tid < db.nextId + rows.length := by
  rw [hget, List.mem_append] at hy
  exact hy.imp_right Heap.mem_freshRows

theorem insertedBy_insert (hget : J.get db' = J.get db ++ Heap.freshRows i db.nextId rows) (j : Nat) :
    insertedBy J db' j = insertedBy J db j ++ if j = i then rows else [] := by
  simp only [insertedBy, hget, List.filter_append, List.map_append]
  congr 1
  split
  · rename_i hj
    rw [List.filter_eq_self.2 fun y hy => by simp [(Heap.mem_freshRows hy).1, hj], Heap.freshRows_row]
  · rename_i hj
    rw [List.filter_eq_nil_iff.2 fun y hy => by simp [(Heap.mem_freshRows hy).1, Ne.symm hj], List.map_nil]

theorem swept_of_insert (hget : J.get db' = J.get db ++ Heap.freshRows i db.nextId rows)
    (hst : db'.status = db.status) {j : Nat} (h : Swept J a db j) : Swept J a db' j := by
  intro y hy h0 ha
  rw [hst]
  rcases mem_of_insert hget hy with hy | ⟨hm, -⟩
  · exact h y hy h0 ha
  · simp [hm] at h0

theorem DbOk.insert (h : DbOk J initial db) (hget : J.get db' = J.get db ++ Heap.freshRows i db.nextId rows)
    (hst : db'.status = db.status) (hnext : db'.nextId = db.nextId + rows.length) (hi : i < 2) :
    DbOk J initial db' where
  tid_nodup := by
    rw [hget, List.map_append, Heap.freshRows_tid, List.nodup_append]
    refine ⟨h.tid_nodup, List.nodup_range' _ _, fun t ht ht' => ?_⟩
    obtain ⟨x, hx, rfl⟩ := List.mem_map.1 ht
    exact absurd (List.mem_range'_1.1 ht').1 (Nat.not_le.2 (h.tid_lt x hx))
  tid_lt y hy := by
    rcases mem_of_insert hget hy with hy | ⟨-, -, -, hlt⟩
    · exact hnext ▸ Nat.lt_add_right _ (h.tid_lt y hy)
    · exact hnext ▸ hlt
  tuple_ok y hy := by
    rw [hst]
    rcases mem_of_insert hget hy with hy | ⟨hm, hx, -⟩
    · exact h.tuple_ok y hy
    · exact ⟨fun u hu => Option.some.inj (hm.symm.trans hu) ▸ hi, by simp [hx], by simp [hx], by simp [hx]⟩
  initial_eq := by
    have hnil : (Heap.freshRows i db.nextId rows).filter (·.xmin == none) = [] :=
      List.filter_eq_nil_iff.2 fun y hy => by simp [(Heap.mem_freshRows hy).1]
    rw [hget, List.filter_append, hnil, List.append_nil]
    exact h.initial_eq

/-- The `INSERT` of `i` keeps what the other sync has done: its scan holds no new tuple. -/
theorem SyncOk.insert {rowsOk : RowsOk α} {j : Nat} {q : Client} (h : SyncOk J a db rowsOk j q)
    (hget : J.get db' = J.get db ++ Heap.freshRows i db.nextId rows) (hst : db'.status = db.status)
    (hnext : db'.nextId = db.nextId + rows.length) (hji : j ≠ i) (hdict : db.DictLE db') :
    SyncOk J a db' rowsOk j q := by
  have alive : Alive db j → Alive db' j := fun h => by simpa only [Alive, hst] using h
  have fresh : ∀ y ∈ J.get db', y ∉ J.get db →
      y.xmin ≠ some j ∧ y.xmax ≠ some j ∧ db.nextId ≤ y.tid := fun y hy hy' => by
      obtain ⟨hm, hx, hle, -⟩ := (mem_of_insert hget hy).resolve_left hy'
      exact ⟨by simp [hm, Ne.symm hji], by simp [hx], hle⟩
  have untouched : Untouched J db j → Untouched J db' j := fun hu y hy => by
    by_cases hy' : y ∈ J.get db
    · exact hu y hy'
    · exact ⟨(fresh y hy hy').1, (fresh y hy hy').2.1⟩
  have ins : insertedBy J db' j = insertedBy J db j := by simp [insertedBy_insert hget, hji]
  cases h with
  | failed h1 h2 => exact .failed (hst ▸ h1) (hst ▸ h2)
  | scanning hp h1 h2 => exact .scanning hp (alive h1) (untouched h2)
  | deleting hp h1 h2 h3 =>
    refine .deleting hp (alive h1) (untouched h2) ⟨fun y hy h0 ha => ?_, fun y hy ht => ?_,
      fun t ht => hnext ▸ Nat.lt_add_right _ (h3.2.2 t ht)⟩
    · rcases mem_of_insert hget hy with hy | ⟨hm, -⟩
      · exact hst ▸ h3.1 y hy h0 ha
      · simp [hm] at h0
    · by_cases hy' : y ∈ J.get db
      · exact hst ▸ h3.2.1 y hy' ht
      · exact absurd (fresh y hy hy').2.2 (Nat.not_le.2 (h3.2.2 _ ht))
  | inserting hp h1 h2 h3 =>
    refine .inserting (hp.mono hdict) (alive h1) (fun y hy => ?_) (swept_of_insert hget hst h3)
    by_cases hy' : y ∈ J.get db
    · exact h2 y hy'
    · exact (fresh y hy hy').1
  | committing hp h1 h2 h3 =>
    exact .committing hp (alive h1) (ins ▸ rowsOk.mono hdict h2) (swept_of_insert hget hst h3)
  | finished hp h1 h2 h3 =>
    exact .finished hp (hst ▸ h1) (ins ▸ rowsOk.mono hdict h2) (swept_of_insert hget hst h3)

end Insert

/-! ### Every interleaving -/

section Run

variable {J} {a : String} {rowsOk : Nat → RowsOk α} {initial : List α}

private theorem getElem?_set_eq_some {l : List Client} {i j : Nat} {p q : Client} (h : (l.set i p)[j]? = some q) :
    (j = i ∧ q = p) ∨ (j ≠ i ∧ l[j]? = some q) := by
  rw [List.getElem?_set] at h
  split_ifs at h with h1
  · exact .inl ⟨h1.symm, (Option.some.inj h).symm⟩
  · exact .inr ⟨Ne.symm h1, h⟩

theorem SyncOk.alive_of_exec {db : Db} {r : RowsOk α} {i : Nat} {auto : Bool} {st : Stmt}
    {k : List Nat → Client} (h : SyncOk J a db r i (.exec auto st k)) : Alive db i := by
  cases h with
  | scanning _ h1 _ | deleting _ h1 _ _ | inserting _ h1 _ _ | committing _ h1 _ _ => exact h1
  | finished hp _ _ _ => obtain ⟨_, h | h⟩ := hp <;> cases h

/-- A step of the table's own client `i` or of a foreign one that leaves the table alone keeps what the other
syncs have done. -/
theorem SyncOk.of_other {db db' : Db} {r : RowsOk α} {j t : Nat} {q : Client} (h : SyncOk J a db r j q)
    (hget : J.get db' = J.get db) (hnext : db.nextId ≤ db'.nextId)
    (hst : db'.status = db.status ∨ db'.status = db.status.commit t) (hjt : j ≠ t) (hdict : db.DictLE db') :
    SyncOk J a db' r j q := by
  rcases hst with hst | hst
  · exact h.mono hget hnext (fun u hu => hst ▸ hu) (fun h => hst ▸ h) (by rw [hst]) hdict
  · exact h.mono hget hnext (fun u hu => by simp [hst, hu]) (by simp [hst, hjt]) (by simp [hst]) hdict

/-- Client `i` moved on to `p` on the database `db'`. -/
theorem Inv.set {s : Sys} {i : Nat} {db' : Db} {p : Client} (hs : Inv J a rowsOk initial s)
    (hdb : DbOk J initial db') (hsync : i < 2 → SyncOk J a db' (rowsOk i) i p) (hforeign : 2 ≤ i → Foreign J p)
    (hother : ∀ j q, j < 2 → j ≠ i → s.clients[j]? = some q → SyncOk J a db' (rowsOk j) j q) :
    Inv J a rowsOk initial ⟨db', s.clients.set i p⟩ where
  db_ok := hdb
  two_le := by simpa using hs.two_le
  sync_ok j q hj hq := by
    rcases getElem?_set_eq_some hq with ⟨rfl, rfl⟩ | ⟨hji, hq⟩
    · exact hsync hj
    · exact hother j q hj hji hq
  foreign j q hj hq := by
    rcases getElem?_set_eq_some hq with ⟨rfl, rfl⟩ | ⟨-, hq⟩
    · exact hforeign hj
    · exact hs.foreign j q hj hq

/-- Client `i` fired the prune and moved on to `next`. -/
theorem Inv.fire {s : Sys} {i : Nat} {next : Client} (hs : Inv J a rowsOk initial s)
    (hprune : Foreign J Sys.pruneClient) (hsync : i < 2 → SyncOk J a s.db (rowsOk i) i next)
    (hforeign : 2 ≤ i → Foreign J next) :
    Inv J a rowsOk initial { s with clients := s.clients.set i next ++ [Sys.pruneClient] } := by
  have h := hs.set hs.db_ok hsync hforeign fun j q hj _ hq => hs.sync_ok j q hj hq
  refine ⟨hs.db_ok, by simpa using Nat.le_succ_of_le hs.two_le, fun j q hj hq => ?_, fun j q hj hq => ?_⟩
  · rw [List.getElem?_append_left (by simpa using Nat.lt_of_lt_of_le hj hs.two_le)] at hq
    exact h.sync_ok j q hj hq
  · rw [List.getElem?_append] at hq
    split at hq
    · exact h.foreign j q hj hq
    · rename_i hlen
      obtain ⟨hz, rfl⟩ := List.getElem?_eq_some_iff.1 hq
      simpa using hprune

/-- Sync `i` moved on to `p` on `db'`, rolled back if `p` throws. -/
theorem Inv.update {s : Sys} {i : Nat} {db' : Db} {p : Client} (hs : Inv J a rowsOk initial s) (hi : i < 2)
    (hdb : DbOk J initial db') (halive : (∃ e, p = .fail e) → Alive db' i)
    (hsync : p.failure? = none → SyncOk J a db' (rowsOk i) i p)
    (hother : ∀ j q, j < 2 → j ≠ i → SyncOk J a s.db (rowsOk j) j q → SyncOk J a db' (rowsOk j) j q) :
    Inv J a rowsOk initial (s.update i db' p) := by
  by_cases hp : ∃ e, p = .fail e
  · obtain ⟨e, rfl⟩ := hp
    refine hs.set (hdb.abort i) (fun _ => .failed ?_ ?_) (fun h => absurd hi (by omega))
      fun j q hj hji hq => (hother j q hj hji (hs.sync_ok j q hj hq)).abort hji
    · simpa [Db.abort, TxStatus.abort_aborted_mem] using Or.inr (halive ⟨e, rfl⟩).1
    · simpa [Db.abort] using (halive ⟨e, rfl⟩).1
  · have hp' := Prog.failure?_eq_none hp
    rw [Sys.update_eq _ _ _ hp']
    exact hs.set hdb (fun _ => hsync hp') (fun h => absurd hi (by omega))
      fun j q hj hji hq => hother j q hj hji (hs.sync_ok j q hj hq)

/-- Foreign client `i` moved on to `p` on `db'`, a database with the same table. -/
theorem Inv.update_foreign {s : Sys} {i : Nat} {db' : Db} {p : Client} (hs : Inv J a rowsOk initial s)
    (hi : 2 ≤ i) (hdb : DbOk J initial db') (hforeign : Foreign J p)
    (hother : ∀ j q, j < 2 → SyncOk J a s.db (rowsOk j) j q → SyncOk J a db' (rowsOk j) j q) :
    Inv J a rowsOk initial (s.update i db' p) := by
  by_cases hp : ∃ e, p = .fail e
  · obtain ⟨e, rfl⟩ := hp
    exact hs.set (hdb.abort i) (fun h => absurd hi (by omega)) (fun _ => hforeign)
      fun j q hj hji hq => (hother j q hj (hs.sync_ok j q hj hq)).abort hji
  · have hp' := Prog.failure?_eq_none hp
    rw [Sys.update_eq _ _ _ hp']
    exact hs.set hdb (fun h => absurd hi (by omega)) (fun _ => hforeign)
      fun j q hj _ hq => hother j q hj (hs.sync_ok j q hj hq)

end Run

/-! ### One step, and every run -/

section Step

variable {J} {a : String} {rowsOk : Nat → RowsOk α} {initial : List α} {s s' : Sys} {i : Nat} {p : Client}

/-- The `COMMIT` of sync `i`. -/
theorem inv_step_commit (hs : Inv J a rowsOk initial s) (hi : i < 2) (hc : s.clients[i]? = some p)
    (hp : Committing p) (h2 : (rowsOk i).holds s.db (insertedBy J s.db i)) (h3 : Swept J a s.db i)
    (h : s.step (.run i) = some s') : Inv J a rowsOk initial s' := by
  obtain ⟨k, rfl, hk⟩ := hp
  have hex : s.db.exec i .commit = .ok (s.db.commit i) [] := rfl
  obtain rfl := Option.some.inj ((Sys.step_run_tx_ok hc hex).symm.trans h)
  have hget : J.get (s.db.commit i) = J.get s.db := J.get_commit _ _
  have ins : insertedBy J (s.db.commit i) i = insertedBy J s.db i := by simp only [insertedBy, hget]
  refine hs.update hi (hs.db_ok.commit i) (fun ⟨e, he⟩ => ?_) (fun _ => .finished (hk []) (by simp [Db.commit])
    (ins ▸ (rowsOk i).mono (s.db.dictLE_commit i) h2) (h3.mono hget fun u hu => by simp [Db.commit, hu]))
    fun j q _ hji h => h.commit hji
  obtain ⟨r, h | h⟩ := hk [] <;> rw [h] at he <;> cases he

/-- A step of sync `i`. -/
theorem inv_step_sync (hs : Inv J a rowsOk initial s) (hprune : Foreign J Sys.pruneClient) (hi : i < 2)
    (hc : s.clients[i]? = some p) (h : s.step (.run i) = some s') : Inv J a rowsOk initial s' := by
  have hfail : Alive s.db i → ∀ e, Inv J a rowsOk initial (s.update i s.db (.fail e)) := fun h1 e =>
    hs.update hi hs.db_ok (fun _ => h1) (fun he => by simp [Prog.failure?] at he) fun j q _ _ h => h
  cases hs.sync_ok i p hi hc with
  | failed => simp [Sys.step, hc] at h
  | scanning hp h1 h2 =>
    obtain ⟨k, rfl, hk⟩ := hp
    obtain rfl := Option.some.inj ((Sys.step_run_tx_ok hc (J.exec_scan _ _ a)).symm.trans h)
    obtain ⟨k', hk', -⟩ := hk (Heap.scan s.db.status i (fun r => J.agentId r == a) (J.get s.db))
    exact hs.update hi hs.db_ok (fun ⟨e, he⟩ => by rw [hk'] at he; cases he)
      (fun _ => .deleting (hk _) h1 h2 (scanOk_scan J hs.db_ok h2)) fun j q _ _ h => h
  | deleting hp h1 h2 h3 =>
    obtain ⟨k, rfl, hk⟩ := hp
    rcases Sys.step_run_tx hc h with ⟨e, -, rfl⟩ | ⟨db', ans, hex, rfl⟩
    · exact hfail h1 e
    obtain ⟨hlock, hget, hst, hnext⟩ := J.exec_delete hex
    have h1' : Alive db' i := by simpa only [Alive, hst] using h1
    refine hs.update hi (hs.db_ok.delete hget hst hnext hi h1 h2 h3) (fun _ => h1')
      (fun _ => .inserting (hk db' ans) h1' (fun y hy => ?_) (swept_self_of_delete hget hst hlock h2 h3))
      fun j q _ hji h => h.delete hget hst hnext hji (Db.dictLE_of_exec hex)
    obtain ⟨x, hx, ⟨rfl, -⟩ | ⟨rfl, -⟩⟩ := mem_of_delete hget hy <;> exact (h2 x hx).1
  | inserting hp h1 h2 h3 =>
    cases hp with
    | insert hrows hk =>
      rcases Sys.step_run_tx hc h with ⟨e, -, rfl⟩ | ⟨db', ans, hex, rfl⟩
      · exact hfail h1 e
      obtain ⟨hget, hst, hnext⟩ := J.exec_insert hex
      have h1' : Alive db' i := by simpa only [Alive, hst] using h1
      refine hs.update hi (hs.db_ok.insert hget hst hnext hi) (fun _ => h1')
        (fun _ => .committing (hk ans) h1' ?_ (swept_of_insert hget hst h3))
        fun j q _ hji h => h.insert hget hst hnext hji (Db.dictLE_of_exec hex)
      rw [insertedBy_insert hget, if_pos rfl, insertedBy_eq_nil h2, List.nil_append]
      exact (rowsOk i).mono (Db.dictLE_of_exec hex) hrows
    | skip hrows hp => exact inv_step_commit hs hi hc hp (by rw [insertedBy_eq_nil h2]; exact hrows) h3 h
    | other hown hne hk =>
      rcases Sys.step_run_tx hc h with ⟨e, -, rfl⟩ | ⟨db', ans, hex, rfl⟩
      · exact hfail h1 e
      obtain ⟨hget, hst, hnext⟩ := J.exec_other hown hex
      have hst' : db'.status = s.db.status := hst.resolve_right fun h => hne h.1
      have h1' : Alive db' i := by simpa only [Alive, hst'] using h1
      exact hs.update hi (hs.db_ok.of_status hget hnext (.inl (by rw [hst']))) (fun _ => h1')
        (fun _ => .inserting (hk i s.db db' ans (Db.DictLE.refl _) hex) h1' (hget ▸ h2)
          (h3.mono hget fun u hu => hst' ▸ hu))
        fun j q _ hji h => h.of_other hget hnext (.inl hst') hji (Db.dictLE_of_exec hex)
    | fail e => simp [Sys.step, hc] at h
  | committing hp _ h2 h3 => exact inv_step_commit hs hi hc hp h2 h3 h
  | finished hp h1 h2 h3 =>
    obtain ⟨r, rfl | rfl⟩ := hp
    · simp [Sys.step, hc] at h
    · simp only [Sys.step, hc, Option.some.injEq] at h
      subst h
      exact hs.fire hprune (fun _ => .finished ⟨r, .inl rfl⟩ h1 h2 h3) fun h => absurd hi (by omega)

/-- A step of a foreign client `i`. -/
theorem inv_step_foreign (hs : Inv J a rowsOk initial s) (hprune : Foreign J Sys.pruneClient) (hi : 2 ≤ i)
    (hc : s.clients[i]? = some p) (h : s.step (.run i) = some s') : Inv J a rowsOk initial s' := by
  cases hs.foreign i p hi hc with
  | ret r => simp [Sys.step, hc] at h
  | fail e => simp [Sys.step, hc] at h
  | exec hown hk =>
    rcases Sys.step_run_exec hc h with ⟨e, -, rfl⟩ | ⟨db', ans, hex, rfl⟩
    · exact hs.update_foreign hi hs.db_ok (.fail _) fun j q _ h => h
    obtain ⟨hget, hst, hnext⟩ := J.exec_other hown hex
    have hst' : db'.status = s.db.status ∨ db'.status = s.db.status.commit i := hst.imp_right And.right
    have hdb : DbOk J initial db' :=
      hs.db_ok.of_status hget hnext (hst'.imp (congrArg TxStatus.committed) fun h => ⟨i, h⟩)
    have hdict := Db.dictLE_of_exec hex
    split
    · exact hs.update_foreign hi (hdb.commit i) (hk ans)
        fun j q hj h => (h.of_other hget hnext hst' (by omega) hdict).commit (by omega)
    · exact hs.update_foreign hi hdb (hk ans) fun j q hj h => h.of_other hget hnext hst' (by omega) hdict
  | firePrune hnext =>
    simp only [Sys.step, hc, Option.some.injEq] at h
    subst h
    exact hs.fire hprune (fun h => absurd hi (by omega)) fun _ => hnext

/-- Every step keeps the invariant: a statement of either sync or of a foreign client, or the deadlock detector
aborting a client. -/
theorem inv_step (hs : Inv J a rowsOk initial s) (hprune : Foreign J Sys.pruneClient) {e : Event}
    (h : s.step e = some s') : Inv J a rowsOk initial s' := by
  cases e with
  | run i =>
    cases hc : s.clients[i]? with
    | none => simp [Sys.step, hc] at h
    | some p =>
      by_cases hi : i < 2
      · exact inv_step_sync hs hprune hi hc h
      · exact inv_step_foreign hs hprune (by omega) hc h
  | detect i =>
    simp only [Sys.step] at h
    split at h
    · rename_i hd
      obtain ⟨auto, st, k, hc⟩ := Sys.exec_of_deadlocked hd
      simp only [Option.some.injEq] at h
      subst h
      by_cases hi : i < 2
      · exact hs.update hi hs.db_ok (fun _ => (hs.sync_ok i _ hi hc).alive_of_exec)
          (fun he => by simp [Prog.failure?] at he) fun j q _ _ h => h
      · exact hs.update_foreign (by omega) hs.db_ok (.fail _) fun j q _ h => h
    · cases h

theorem inv_run (hs : Inv J a rowsOk initial s) (hprune : Foreign J Sys.pruneClient) (es : List Event) :
    Inv J a rowsOk initial (s.run es) := by
  induction es generalizing s with
  | nil => exact hs
  | cons e es ih =>
    rw [Sys.run_cons]
    cases h : s.step e with
    | none => exact ih hs
    | some s' => exact ih (inv_step hs hprune h)

end Step

/-! ### The start -/

section Start

variable {J} {a : String} {rowsOk : Nat → RowsOk α}

/-- A table of rows committed before the run. -/
theorem DbOk.ofRows {db : Db} {rs : List α} (hget : J.get db = Heap.ofRows rs) (hlen : rs.length ≤ db.nextId) :
    DbOk J rs db where
  tid_nodup := hget ▸ Heap.nodup_tid_ofRows rs
  tid_lt x hx := Nat.lt_of_lt_of_le (Heap.mem_ofRows (hget ▸ hx)).2.2 hlen
  tuple_ok x hx := by
    obtain ⟨h0, h1, -⟩ := Heap.mem_ofRows (hget ▸ hx)
    exact ⟨by simp [h0], by simp [h1], by simp [h0], by simp [h0]⟩
  initial_eq := by
    rw [hget, List.filter_eq_self.2 fun x hx => by simp [(Heap.mem_ofRows hx).1], Heap.ofRows_row]

/-- Two syncs about to scan, on a table of rows committed before the run. -/
theorem inv_start {db : Db} {rs : List α} {c₀ c₁ : Client} (hget : J.get db = Heap.ofRows rs)
    (hlen : rs.length ≤ db.nextId) (hst : db.status = ⟨[], []⟩) (h₀ : Scanning J a (rowsOk 0) c₀)
    (h₁ : Scanning J a (rowsOk 1) c₁) : Inv J a rowsOk rs ⟨db, [c₀, c₁]⟩ where
  db_ok := DbOk.ofRows hget hlen
  two_le := le_rfl
  sync_ok i p hi hp := by
    have alive : Alive db i := by simp [Alive, hst]
    have untouched : Untouched J db i := fun x hx => by
      obtain ⟨h0, h1, -⟩ := Heap.mem_ofRows (hget ▸ hx)
      simp [h0, h1]
    obtain rfl | rfl : i = 0 ∨ i = 1 := by omega
    · obtain rfl : c₀ = p := Option.some.inj hp
      exact .scanning h₀ alive untouched
    · obtain rfl : c₁ = p := Option.some.inj hp
      exact .scanning h₁ alive untouched
  foreign i p hi hp := by simp [List.getElem?_eq_none (show [c₀, c₁].length ≤ i by simpa using hi)] at hp

end Start

/-! ### What two full replaces leave -/

/-- What two full replaces of one agent leave in the committed state, by which of them committed (`committed` in
commit order): `now` the agent's rows, `before` those from before, `list i` the rows of sync `i`.  With neither
committed nothing changed; with one, its list is the result; with both, the result holds the list of the later
commit and lies within the two lists. -/
def ReplaceOutcome {β : Type} (committed : List Nat) (before now : List β) (list : Nat → List β) : Prop :=
  (0 ∉ committed → 1 ∉ committed → now = before) ∧
  (∀ i < 2, i ∈ committed → 1 - i ∉ committed → now = list i) ∧
  (∀ i < 2, i ∈ committed → 1 - i ∈ committed → committed.indexOf (1 - i) < committed.indexOf i →
    (∀ r ∈ list i, r ∈ now) ∧ ∀ r ∈ now, r ∈ list 0 ∨ r ∈ list 1)

theorem ReplaceOutcome.map {β γ : Type} {c : List Nat} {before now : List β} {list : Nat → List β}
    (h : ReplaceOutcome c before now list) (f : β → γ) :
    ReplaceOutcome c (before.map f) (now.map f) fun i => (list i).map f := by
  refine ⟨fun h0 h1 => by rw [h.1 h0 h1], fun i hi h1 h2 => by rw [h.2.1 i hi h1 h2], fun i hi h1 h2 hlt => ?_⟩
  obtain ⟨hsub, hsup⟩ := h.2.2 i hi h1 h2 hlt
  refine ⟨fun r hr => ?_, fun r hr => ?_⟩
  · obtain ⟨x, hx, rfl⟩ := List.mem_map.1 hr
    exact List.mem_map_of_mem f (hsub x hx)
  · obtain ⟨x, hx, rfl⟩ := List.mem_map.1 hr
    exact (hsup x hx).imp (List.mem_map_of_mem f) (List.mem_map_of_mem f)

theorem ReplaceOutcome.congr {β : Type} {c : List Nat} {before now : List β} {list list' : Nat → List β}
    (h : ReplaceOutcome c before now list) (hl : ∀ i < 2, i ∈ c → list i = list' i) :
    ReplaceOutcome c before now list' := by
  refine ⟨h.1, fun i hi h1 h2 => by rw [h.2.1 i hi h1 h2, hl i hi h1], fun i hi h1 h2 hlt => ?_⟩
  have hboth : 0 ∈ c ∧ 1 ∈ c := by
    obtain rfl | rfl : i = 0 ∨ i = 1 := by omega
    exacts [⟨h1, h2⟩, ⟨h2, h1⟩]
  rw [← hl i hi h1, ← hl 0 (by omega) hboth.1, ← hl 1 (by omega) hboth.2]
  exact h.2.2 i hi h1 h2 hlt

section Outcome

variable {J} {a : String} {initial : List α} {db : Db}

end Outcome

end Junction

end Archestra
