import Archestra.Labels.Query
import Archestra.Db.Sched
import Mathlib.Data.List.MinMax

/-!
# `syncAgentLabels` run alone

The sync as statements (`Archestra.AgentLabelModel.syncAgentLabels`) run alone from committed tables: its scan and
`DELETE` of the agent's rows, the get-or-create of each label's key and value, the `INSERT` of the new rows and the
`COMMIT`.  The dictionaries start with their constraints: distinct ids (the primary key) and distinct strings (the
unique index the `ON CONFLICT` targets).

* `run_getOrCreate`, `run_labelInserts`: the loop appends to each dictionary, as tuples of the sync's own transaction
  with ids from the counter on, the strings it lacks, and goes on with the rows of the ids the strings have at its
  end (`Grows`);
* `DictOk.afterLabelInserts`: the dictionaries keep distinct ids and strings through the loop;
* `syncAgentLabels_alone`: the sync returns exactly when the keys of the labels are distinct, and then the agent's
  labels, read by `getLabelsForAgent`, are those of the list, each string has one dictionary row, and every other
  agent's labels and the catalog's rows are unchanged (`Synced`); otherwise its `INSERT` throws and the tables are
  as before (`RolledBack`).
-/

namespace Archestra

namespace Db

/-- The database after `getOrCreate(d, s)` of `t` runs alone: a row holding `s` appended when the dictionary has
none. -/
def afterGetOrCreate (db : Db) (d : Dict) (t : Nat) (s : String) : Db :=
  if (db.dict d).any (fun x => decide (x.row.name = s)) then db else db.insertDict d t s

/-- The database after the loop of `syncAgentLabels` of `t` runs alone: each label's key, then its value, got or
created. -/
def afterLabelInserts (t : Nat) : Db → List Label → Db
  | db, [] => db
  | db, l :: ls => afterLabelInserts t ((db.afterGetOrCreate .keys t l.key).afterGetOrCreate .values t l.value) ls

/-- The id of the first row of a dictionary holding `s`: what `SELECT id ... WHERE key = s LIMIT 1` answers to the
transaction whose rows they all are. -/
def idOf (db : Db) (d : Dict) (s : String) : Option Nat := (((db.dict d).map (·.row)).find? (·.name == s)).map (·.id)

/-- The rows the loop of `syncAgentLabels` builds: the agent, and the ids of each label's key and value. -/
def labelRows (db : Db) (a : String) (L : List Label) : List AgentLabelRow :=
  L.map fun l => ⟨a, (db.idOf .keys l.key).getD 0, (db.idOf .values l.value).getD 0⟩

theorem insertDict_dict_of_ne (db : Db) {d d' : Dict} (h : d' ≠ d) (t : Nat) (s : String) :
    (db.insertDict d t s).dict d' = db.dict d' := by
  cases d <;> cases d' <;> first | rfl | exact absurd rfl h

/-- `db'` is `db` with tuples of `t` appended to the dictionaries, never deleted, their ids from the counter on: the
frame of the get-or-create loop. -/
structure Grows (t : Nat) (db db' : Db) : Prop where
  status : db'.status = db.status
  agentLabels : db'.agentLabels = db.agentLabels
  catalog : db'.mcpCatalogLabels = db.mcpCatalogLabels
  nextId_le : db.nextId ≤ db'.nextId
  dict : ∀ d, ∃ new, db'.dict d = db.dict d ++ new ∧
    ∀ x ∈ new, x.xmin = some t ∧ x.xmax = none ∧ db.nextId ≤ x.row.id

theorem Grows.refl (t : Nat) (db : Db) : Grows t db db :=
  ⟨rfl, rfl, rfl, le_refl _, fun _ => ⟨[], (List.append_nil _).symm, nofun⟩⟩

theorem Grows.trans {t : Nat} {db db' db'' : Db} (h₁ : Grows t db db') (h₂ : Grows t db' db'') : Grows t db db'' where
  status := h₂.status.trans h₁.status
  agentLabels := h₂.agentLabels.trans h₁.agentLabels
  catalog := h₂.catalog.trans h₁.catalog
  nextId_le := h₁.nextId_le.trans h₂.nextId_le
  dict d := by
    obtain ⟨new₁, he₁, hn₁⟩ := h₁.dict d
    obtain ⟨new₂, he₂, hn₂⟩ := h₂.dict d
    refine ⟨new₁ ++ new₂, by rw [he₂, he₁, List.append_assoc], fun x hx => ?_⟩
    rcases List.mem_append.1 hx with hx | hx
    · exact hn₁ x hx
    · obtain ⟨h1, h2, h3⟩ := hn₂ x hx
      exact ⟨h1, h2, h₁.nextId_le.trans h3⟩

theorem grows_afterGetOrCreate (db : Db) (d : Dict) (t : Nat) (s : String) :
    Grows t db (db.afterGetOrCreate d t s) := by
  unfold afterGetOrCreate
  split
  · exact Grows.refl t db
  · refine ⟨by simp, by cases d <;> rfl, by cases d <;> rfl, by simp [insertDict], fun d' => ?_⟩
    by_cases hd : d' = d
    · subst hd
      exact ⟨_, insertDict_dict _ _ _ _, by simp [Heap.fresh]⟩
    · exact ⟨[], by rw [insertDict_dict_of_ne _ hd, List.append_nil], nofun⟩

theorem grows_afterLabelInserts (t : Nat) : ∀ (db : Db) (L : List Label), Grows t db (db.afterLabelInserts t L)
  | db, [] => Grows.refl t db
  | _, _ :: L => ((grows_afterGetOrCreate _ _ _ _).trans (grows_afterGetOrCreate _ _ _ _)).trans
      (grows_afterLabelInserts t _ L)

/-- The tuples appended are the transaction's own. -/
theorem Grows.own {t : Nat} {db db' : Db} (hg : Grows t db db') (h : ∀ d, ∀ x ∈ db.dict d, x.Own db.status t) :
    ∀ d, ∀ x ∈ db'.dict d, x.Own db'.status t := by
  intro d x hx
  obtain ⟨new, he, hn⟩ := hg.dict d
  rw [he] at hx
  rw [hg.status]
  rcases List.mem_append.1 hx with hx | hx
  · exact h d x hx
  · exact ⟨(hn x hx).2.1, .inr (hn x hx).1⟩

/-- A string found keeps its id. -/
theorem Grows.idOf {t : Nat} {db db' : Db} (hg : Grows t db db') {d : Dict} {s : String} {i : Nat}
    (h : db.idOf d s = some i) : db'.idOf d s = some i := by
  obtain ⟨new, he, -⟩ := hg.dict d
  obtain ⟨r, hr, rfl⟩ := Option.map_eq_some'.1 h
  simp [Db.idOf, he, hr]

theorem idOf_afterGetOrCreate_isSome (db : Db) (d : Dict) (t : Nat) (s : String) :
    ((db.afterGetOrCreate d t s).idOf d s).isSome := by
  have hmem : ∃ x ∈ (db.afterGetOrCreate d t s).dict d, x.row.name = s := by
    unfold afterGetOrCreate
    split
    · next h => simpa using h
    · exact ⟨Heap.fresh t db.nextId ⟨db.nextId, s⟩, by simp, rfl⟩
  obtain ⟨x, hx, hs⟩ := hmem
  simp only [idOf, Option.isSome_map', List.find?_isSome]
  exact ⟨x.row, List.mem_map_of_mem _ hx, by simpa using hs⟩

theorem mem_of_idOf {db : Db} {d : Dict} {s : String} {i : Nat} (h : db.idOf d s = some i) :
    ∃ r ∈ (db.dict d).map (·.row), r.name = s ∧ r.id = i := by
  obtain ⟨r, hr, rfl⟩ := Option.map_eq_some'.1 h
  exact ⟨r, List.mem_of_find?_eq_some hr, by simpa using List.find?_some hr, rfl⟩

/-! ### The dictionaries through the loop -/

/-- A dictionary during the loop of `syncAgentLabels` of `t`, alone: every tuple is `t`'s own live row, ids and
strings are distinct, ids lie below the counter. -/
structure DictOk (t : Nat) (db : Db) (d : Dict) : Prop where
  own : ∀ x ∈ db.dict d, x.Own db.status t
  id_nodup : ((db.dict d).map fun x => x.row.id).Nodup
  name_nodup : ((db.dict d).map fun x => x.row.name).Nodup
  id_lt : ∀ x ∈ db.dict d, x.row.id < db.nextId

theorem DictOk.afterGetOrCreate {t : Nat} {db : Db} (h : ∀ d, DictOk t db d) (d : Dict) (s : String) :
    ∀ d', DictOk t (db.afterGetOrCreate d t s) d' := by
  unfold Db.afterGetOrCreate
  split
  · exact h
  · next habsent =>
    intro d'
    have hnext : (db.insertDict d t s).nextId = db.nextId + 1 := rfl
    by_cases hd : d' = d
    · subst hd
      obtain ⟨hown, hid, hname, hlt⟩ := h d'
      simp only [List.any_eq_true, decide_eq_true_eq, not_exists, not_and] at habsent
      refine ⟨fun x hx => ?_, ?_, ?_, fun x hx => ?_⟩ <;> simp only [insertDict_dict, insertDict_status, hnext,
        List.map_append, List.map_singleton, List.mem_append, List.mem_singleton] at *
      · exact hx.elim (hown x) fun hx => hx ▸ Heap.fresh_own _ _
      · exact hid.append (List.nodup_singleton _) (List.disjoint_singleton.2 fun hm => by
          obtain ⟨x, hx, he⟩ := List.mem_map.1 hm
          exact absurd (hlt x hx) (by simp [Heap.fresh, he]))
      · exact hname.append (List.nodup_singleton _) (List.disjoint_singleton.2 fun hm => by
          obtain ⟨x, hx, he⟩ := List.mem_map.1 hm
          exact habsent x hx he)
      · rcases hx with hx | rfl
        · exact Nat.lt_succ_of_lt (hlt x hx)
        · exact Nat.lt_succ_self _
    · obtain ⟨hown, hid, hname, hlt⟩ := h d'
      refine ⟨fun x hx => ?_, ?_, ?_, fun x hx => ?_⟩ <;>
        simp only [insertDict_dict_of_ne _ hd, insertDict_status, hnext] at *
      · exact hown x hx
      · exact hid
      · exact hname
      · exact Nat.lt_succ_of_lt (hlt x hx)

theorem DictOk.afterLabelInserts {t : Nat} : ∀ {db : Db} (L : List Label), (∀ d, DictOk t db d) →
    ∀ d, DictOk t (db.afterLabelInserts t L) d
  | _, [], h => h
  | _, l :: L, h =>
    DictOk.afterLabelInserts L (DictOk.afterGetOrCreate (DictOk.afterGetOrCreate h .keys l.key) .values l.value)

/-- The tables once `t` has deleted the `agent_labels` rows of agent `a`. -/
def afterDeleteAgentLabels (db : Db) (t : Nat) (a : String) : Db :=
  { db with agentLabels := db.agentLabels.map fun x => if x.row.agentId == a then { x with xmax := some t } else x }

@[simp] theorem afterDeleteAgentLabels_dict (db : Db) (t : Nat) (a : String) (d : Dict) :
    (db.afterDeleteAgentLabels t a).dict d = db.dict d := by
  cases d <;> rfl

@[simp] theorem afterDeleteAgentLabels_nextId (db : Db) (t : Nat) (a : String) :
    (db.afterDeleteAgentLabels t a).nextId = db.nextId := rfl

@[simp] theorem abort_dict (db : Db) (t : Nat) (d : Dict) : (db.abort t).dict d = db.dict d := by cases d <;> rfl

end Db

/-- The constraints of a dictionary table: the primary key `id` and the unique `key` (`value`) column. -/
def DictWf (rows : List DictRow) : Prop := (rows.map (·.id)).Nodup ∧ (rows.map (·.name)).Nodup

instance : DecidablePred DictWf := fun _ => inferInstanceAs (Decidable (_ ∧ _))

namespace Db

theorem lt_nextId_ofRows {keys values : List DictRow} {labels : List AgentLabelRow} {catalog : List CatalogLabelRow}
    {teams : List AgentTeamRow} {id : Nat}
    (h : id ∈ keys.map (·.id) ++ values.map (·.id) ++ labels.map (·.keyId) ++ labels.map (·.valueId)) :
    id < (ofRows keys values labels catalog teams).nextId := by
  have hle : id ≤ (keys.map (·.id) ++ values.map (·.id) ++ labels.map (·.keyId) ++ labels.map (·.valueId)).foldr
      max 0 := List.le_max_of_le h le_rfl
  simp only [ofRows]
  omega

/-- A dictionary of committed rows keeping its constraints, ids below the counter, is one the loop starts from. -/
theorem dictOk_of_ofRows {db : Db} {d : Dict} {rows : List DictRow} (hd : db.dict d = Heap.ofRows rows)
    (hwf : DictWf rows) (hlt : ∀ r ∈ rows, r.id < db.nextId) : DictOk 0 db d := by
  have hrow : (db.dict d).map (·.row) = rows := hd ▸ Heap.ofRows_row rows
  have hid : (db.dict d).map (fun x => x.row.id) = ((db.dict d).map (·.row)).map (·.id) := (List.map_map _ _ _).symm
  have hname : (db.dict d).map (fun x => x.row.name) = ((db.dict d).map (·.row)).map (·.name) :=
    (List.map_map _ _ _).symm
  refine ⟨fun x hx => (Heap.settled_ofRows rows x (hd ▸ hx)).own 0, ?_, ?_,
    fun x hx => hlt _ (hrow ▸ List.mem_map_of_mem _ hx)⟩
  · rw [hid, hrow]; exact hwf.1
  · rw [hname, hrow]; exact hwf.2

theorem idOf_afterLabelInserts_isSome (t : Nat) : ∀ (db : Db) (L : List Label), ∀ l ∈ L,
    ((db.afterLabelInserts t L).idOf .keys l.key).isSome ∧ ((db.afterLabelInserts t L).idOf .values l.value).isSome
  | _, [], _, h => absurd h (List.not_mem_nil _)
  | db, l :: L, l', h => by
    rcases List.mem_cons.1 h with rfl | h
    · obtain ⟨k, hk⟩ := Option.isSome_iff_exists.1 (idOf_afterGetOrCreate_isSome db .keys t l'.key)
      obtain ⟨v, hv⟩ := Option.isSome_iff_exists.1
        (idOf_afterGetOrCreate_isSome (db.afterGetOrCreate .keys t l'.key) .values t l'.value)
      have g := grows_afterLabelInserts t ((db.afterGetOrCreate .keys t l'.key).afterGetOrCreate .values t l'.value) L
      rw [afterLabelInserts, ((grows_afterGetOrCreate _ _ _ _).trans g).idOf hk, g.idOf hv]
      exact ⟨rfl, rfl⟩
    · exact idOf_afterLabelInserts_isSome t _ L l' h

/-- The rows of the loop repeat a key exactly when the labels do: distinct strings have distinct ids. -/
theorem nodup_labelRows_iff {t : Nat} {db : Db} (hok : DictOk t db .keys) (a : String) {L : List Label}
    (hL : ∀ l ∈ L, (db.idOf .keys l.key).isSome) :
    ((db.labelRows a L).map fun r => (r.agentId, r.keyId)).Nodup ↔ (L.map (·.key)).Nodup := by
  have hmap : (db.labelRows a L).map (fun r => (r.agentId, r.keyId)) =
      (L.map (·.key)).map fun s => (a, (db.idOf .keys s).getD 0) := by
    simp [labelRows]
  have hid : (((db.dict .keys).map (·.row)).map (·.id)).Nodup := by
    rw [List.map_map]
    exact hok.id_nodup
  rw [hmap]
  refine ⟨List.Nodup.of_map _, List.Nodup.map_on fun s hs s' hs' he => ?_⟩
  obtain ⟨l, hl, rfl⟩ := List.mem_map.1 hs
  obtain ⟨l', hl', rfl⟩ := List.mem_map.1 hs'
  obtain ⟨i, hi⟩ := Option.isSome_iff_exists.1 (hL l hl)
  obtain ⟨i', hi'⟩ := Option.isSome_iff_exists.1 (hL l' hl')
  obtain ⟨r, hr, hrn, hri⟩ := mem_of_idOf hi
  obtain ⟨r', hr', hrn', hri'⟩ := mem_of_idOf hi'
  have hii : i = i' := by simpa [hi, hi'] using (Prod.mk.inj he).2
  rw [← hrn, ← hrn', List.inj_on_of_nodup_map hid hr hr' (hri.trans (hii.trans hri'.symm))]

end Db

namespace AgentLabelModel

/-! ### The statements of the sync, alone -/

theorem getOrCreate_bind {α : Type} (d : Dict) (s : String) (g : Nat → Prog α) :
    (getOrCreate .tx d s).bind g = .exec false (.insertIgnore d s) fun _ => .exec false (.selectId d s) fun rows =>
      (match rows with
        | id :: _ => pure id
        | [] => .fail .typeError : Prog Nat).bind g :=
  rfl

theorem labelInserts_cons_bind {α : Type} (a : String) (l : Label) (L : List Label) (f : List AgentLabelRow → Prog α) :
    (labelInserts a (l :: L)).bind f = (getOrCreate .tx .keys l.key).bind fun keyId =>
      (getOrCreate .tx .values l.value).bind fun valueId =>
        (labelInserts a L).bind fun rest => f ({ agentId := a, keyId, valueId } :: rest) := by
  simp only [labelInserts, getOrCreateKey, getOrCreateValue, Prog.bind_eq, Prog.bind_assoc, Prog.pure_eq,
    Prog.ret_bind]

theorem failure?_labelInserts_bind {α : Type} (a : String) {f : List AgentLabelRow → Prog α}
    (hf : ∀ rows, (f rows).failure? = none) : ∀ L : List Label, ((labelInserts a L).bind f).failure? = none
  | [] => hf []
  | _ :: _ => by rw [labelInserts_cons_bind]; rfl

/-- `getOrCreate(d, s)` on `tx`, alone, on dictionaries of the transaction's own rows: its `INSERT ... ON CONFLICT
DO NOTHING` and its `SELECT` run, and the code goes on with the id `s` has then. -/
theorem run_getOrCreate {db : Db} (h : ∀ d, ∀ x ∈ db.dict d, x.Own db.status 0) (d : Dict) (s : String)
    {g : Nat → Client} (hg : ∀ id, (g id).failure? = none) (es : List Event) :
    (⟨db, [(getOrCreate .tx d s).bind g]⟩ : Sys).run (.run 0 :: .run 0 :: es) =
      (⟨db.afterGetOrCreate d 0 s, [g (((db.afterGetOrCreate d 0 s).idOf d s).getD 0)]⟩ : Sys).run es := by
  obtain ⟨i, hi⟩ := Option.isSome_iff_exists.1 (Db.idOf_afterGetOrCreate_isSome db d 0 s)
  have hins : db.exec 0 (.insertIgnore d s) = .ok (db.afterGetOrCreate d 0 s) [] := Db.exec_insertIgnore_own 0 s (h d)
  have hsel : (db.afterGetOrCreate d 0 s).exec 0 (.selectId d s) = .ok (db.afterGetOrCreate d 0 s) [i] := by
    rw [Db.exec_selectId_own 0 s ((Db.grows_afterGetOrCreate db d 0 s).own h d), List.take_one, List.head?_map,
      List.filter_head?]
    rw [Db.idOf] at hi
    rw [hi]
    rfl
  rw [getOrCreate_bind, Sys.run_alone_tx hins, Sys.run_alone_tx hsel (hg i), hi] <;> rfl

/-- The loop of `syncAgentLabels`, alone, four statements a label, on dictionaries of the transaction's own rows: it
leaves each string got or created, and the code goes on with the rows of the ids the strings have at its end. -/
theorem run_labelInserts (a : String) : ∀ (L : List Label) {f : List AgentLabelRow → Client},
    (∀ rows, (f rows).failure? = none) → ∀ (db : Db), (∀ d, ∀ x ∈ db.dict d, x.Own db.status 0) → ∀ es : List Event,
      (⟨db, [(labelInserts a L).bind f]⟩ : Sys).run (List.replicate (4 * L.length) (.run 0) ++ es) =
        (⟨db.afterLabelInserts 0 L, [f ((db.afterLabelInserts 0 L).labelRows a L)]⟩ : Sys).run es
  | [], _, _, _, _, _ => rfl
  | l :: L, f, hf, db, h, es => by
    have g₁ := Db.grows_afterGetOrCreate db .keys 0 l.key
    have g₂ := Db.grows_afterGetOrCreate (db.afterGetOrCreate .keys 0 l.key) .values 0 l.value
    have g₃ := Db.grows_afterLabelInserts 0
      ((db.afterGetOrCreate .keys 0 l.key).afterGetOrCreate .values 0 l.value) L
    obtain ⟨k, hk⟩ := Option.isSome_iff_exists.1 (Db.idOf_afterGetOrCreate_isSome db .keys 0 l.key)
    obtain ⟨v, hv⟩ := Option.isSome_iff_exists.1
      (Db.idOf_afterGetOrCreate_isSome (db.afterGetOrCreate .keys 0 l.key) .values 0 l.value)
    have hev : List.replicate (4 * (l :: L).length) (Event.run 0) ++ es =
        .run 0 :: .run 0 :: .run 0 :: .run 0 :: (List.replicate (4 * L.length) (.run 0) ++ es) := by
      rw [List.length_cons, Nat.mul_succ, Nat.add_comm, List.replicate_add]
      rfl
    rw [hev, labelInserts_cons_bind, run_getOrCreate h .keys l.key, hk, Option.getD_some,
      run_getOrCreate (g₁.own h) .values l.value, hv, Option.getD_some,
      @run_labelInserts a L (fun rest => f (⟨a, k, v⟩ :: rest)) (fun _ => hf _) _ ((g₁.trans g₂).own h) es]
    · simp only [Db.afterLabelInserts, Db.labelRows, List.map_cons, (g₂.trans g₃).idOf hk, g₃.idOf hv,
        Option.getD_some]
    · exact fun _ => failure?_labelInserts_bind a (fun _ => hf _) L
    · exact fun _ => rfl

/-- The client of `syncAgentLabels`: the scan and the `DELETE`, then, for a non-empty list, the loop and the
`INSERT` of its rows, the `COMMIT`, and the background prune. -/
theorem syncAgentLabels_client (a : String) (L : List Label) :
    ((fun _ => []) <$> syncAgentLabels a L : Client) = .exec false (.scanAgentLabels a) fun tids =>
      .exec false (.deleteAgentLabels tids) fun _ =>
        if L.length > 0 then
          (labelInserts a L).bind fun rows =>
            .exec false (.insertAgentLabels rows) fun _ => .exec false .commit fun _ => .firePrune (.ret [])
        else .exec false .commit fun _ => .firePrune (.ret []) := by
  cases L with
  | nil => rfl
  | cons l L =>
    simp only [syncAgentLabels, transaction, Conn.delete, Conn.query, Prog.map_eq, Prog.bind_eq, Prog.bind_assoc,
      Prog.exec_bind, Prog.ret_bind, show (Conn.tx == Conn.db) = false from rfl, List.length_cons, Nat.zero_lt_succ,
      if_true, Prog.pure_eq]
    rfl

/-- On settled tuples with distinct tuple ids, the sync's `DELETE` of the scanned rows of the agent marks exactly
those rows. -/
theorem exec_deleteAgentLabels_settled {db : Db} (t : Nat) (a : String) (h : ∀ x ∈ db.agentLabels, x.Settled db.status)
    (hnd : (db.agentLabels.map (·.tid)).Nodup) :
    db.exec t (.deleteAgentLabels (Heap.scan db.status t (·.agentId == a) db.agentLabels)) =
      .ok (db.afterDeleteAgentLabels t a)
        (Db.deleted db.status t (Heap.scan db.status t (·.agentId == a) db.agentLabels) db.agentLabels) := by
  simp only [Db.exec, Heap.lockWait_settled h, Heap.markDeleted_scan_settled h hnd]
  rfl

/-- The scan and the `DELETE` of a sync from committed tables: the agent's rows are marked deleted, and the client
goes on to the get-or-create loop, or to the `COMMIT` when there are no labels. -/
theorem run_syncAgentLabels_delete (keys values : List DictRow) (labels : List AgentLabelRow)
    (catalog : List CatalogLabelRow) (teams : List AgentTeamRow) (a : String) (L : List Label) (es : List Event) :
    (⟨Db.ofRows keys values labels catalog teams, [(fun _ => []) <$> syncAgentLabels a L]⟩ : Sys).run
        (.run 0 :: .run 0 :: es) =
      (⟨(Db.ofRows keys values labels catalog teams).afterDeleteAgentLabels 0 a, [if L.length > 0 then
        (labelInserts a L).bind fun rows =>
          .exec false (.insertAgentLabels rows) fun _ => .exec false .commit fun _ => .firePrune (.ret [])
        else .exec false .commit fun _ => .firePrune (.ret [])]⟩ : Sys).run es := by
  rw [syncAgentLabels_client, Sys.run_alone_tx (show (Db.ofRows keys values labels catalog teams).exec 0
      (.scanAgentLabels a) = .ok _ _ from rfl),
    Sys.run_alone_tx (exec_deleteAgentLabels_settled 0 a (Heap.settled_ofRows labels) (Heap.nodup_tid_ofRows labels))]
  · split
    · apply failure?_labelInserts_bind
      exact fun _ => rfl
    · rfl
  · rfl

/-- After that `DELETE`, the sync's `INSERT` of rows of the agent appends them when their key ids are distinct, and is
a unique violation otherwise. -/
theorem exec_insertAgentLabels_replaced {db₀ db : Db} {t : Nat} {a : String}
    (h : ∀ x ∈ db₀.agentLabels, x.Settled db.status) (hdb : db.agentLabels = (db₀.afterDeleteAgentLabels t a).agentLabels)
    {rows : List AgentLabelRow} (hrows : ∀ r ∈ rows, r.agentId = a) :
    db.exec t (.insertAgentLabels rows) =
      if (rows.map fun r => (r.agentId, r.keyId)).Nodup then
        .ok { db with
          agentLabels := db.agentLabels ++ Heap.freshRows t db.nextId rows,
          nextId := db.nextId + rows.length } []
      else .error .uniqueViolation := by
  have hkey : ∀ r r' : AgentLabelRow, (r.agentId, r.keyId) = (r'.agentId, r'.keyId) →
      (r.agentId == a) = (r'.agentId == a) := fun r r' he => by rw [(Prod.mk.inj he).1]
  have hrs : ∀ r ∈ rows, (r.agentId == a) = true := fun r hr => by simp [hrows r hr]
  obtain ⟨hwait, hins⟩ := @Heap.insert_deleteWhere _ _ _ db.status t _ h _ _ hkey rows hrs db.nextId
  rw [Db.afterDeleteAgentLabels] at hdb
  by_cases hn : (rows.map fun r => (r.agentId, r.keyId)).Nodup <;>
    simp only [Db.exec, hdb, hwait, hins, hn, if_true, if_false]

/-! ### The outcome -/

/-- The rows a `WHERE key = k` (`id = k`) filter keeps of rows whose `k` column is distinct: the one row holding it. -/
theorem filter_eq_singleton {α β : Type} [DecidableEq β] (f : α → β) {rows : List α} (hnd : (rows.map f).Nodup)
    {r : α} (hr : r ∈ rows) : rows.filter (fun x => f x == f r) = [r] := by
  induction rows with
  | nil => cases hr
  | cons x xs ih =>
    rw [List.map_cons, List.nodup_cons] at hnd
    rcases List.mem_cons.1 hr with rfl | hr
    · rw [List.filter_cons_of_pos (by simp), List.filter_eq_nil_iff.2 fun y hy he =>
        hnd.1 (by rw [← beq_iff_eq.1 he]; exact List.mem_map_of_mem f hy)]
    · rw [List.filter_cons_of_neg fun he => hnd.1 (by rw [beq_iff_eq.1 he]; exact List.mem_map_of_mem f hr),
        ih hnd.2 hr]

/-- The join of a row of distinct ids with the id of one of them: its name. -/
theorem leftJoinName_of_mem {rows : List DictRow} (hnd : (rows.map (·.id)).Nodup) {r : DictRow} (hr : r ∈ rows) :
    leftJoinName rows r.id = [some r.name] := by
  rw [leftJoinName, filter_eq_singleton (·.id) hnd hr]
  rfl

/-- Rows appended under other ids leave the join of an id as it was. -/
theorem leftJoinName_append {rows new : List DictRow} {id : Nat} (h : ∀ r ∈ new, r.id ≠ id) :
    leftJoinName (rows ++ new) id = leftJoinName rows id := by
  rw [leftJoinName, leftJoinName, List.filter_append,
    List.filter_eq_nil_iff.2 fun r hr he => h r hr (beq_iff_eq.1 he), List.append_nil]

/-- What holds once a sync of agent `a` to the labels `L` has returned, from committed label tables `keys`, `values`,
`labels` and catalog rows `catalog`, in the state `db` it leaves. -/
structure Synced (keys values : List DictRow) (labels : List AgentLabelRow) (catalog : List CatalogLabelRow)
    (a : String) (L : List Label) (db : Db) : Prop where
  /-- `getLabelsForAgent(a)`, for every collation and every answer the database may give: the pairs of `L`, ordered
  by key. -/
  labels_eq : ∀ {κ : Type} [LinearOrder κ] (collate : String → κ) (rowsA : List LabelJoinRow),
    OrderedByKey collate (labelJoin (db.dictRows .keys) (db.dictRows .values) (Heap.rows db.status db.agentLabels)
      (· == a)) rowsA →
    ((getLabelsForAgent rowsA).map fun d => (d.key, d.value)).Perm (L.map fun l => (l.key, l.value)) ∧
      ((getLabelsForAgent rowsA).map (·.key)).Sorted fun k k' => collate k ≤ collate k'
  /-- Each key and value string of `L` has one dictionary row. -/
  one_row : ∀ l ∈ L, ((db.dictRows .keys).filter (·.name == l.key)).length = 1 ∧
    ((db.dictRows .values).filter (·.name == l.value)).length = 1
  /-- The labels of every other agent are unchanged. -/
  others : ∀ b, b ≠ a → labelJoin (db.dictRows .keys) (db.dictRows .values) (Heap.rows db.status db.agentLabels)
    (· == b) = labelJoin keys values labels (· == b)
  /-- The catalog's rows are unchanged, and so is the string of every dictionary id they may reference. -/
  catalog_eq : db.mcpCatalogLabels = catalog
  keys_kept : ∀ id ∈ keys.map (·.id), leftJoinName (db.dictRows .keys) id = leftJoinName keys id
  values_kept : ∀ id ∈ values.map (·.id), leftJoinName (db.dictRows .values) id = leftJoinName values id

/-- The committed label tables and catalog rows of `db` are `keys`, `values`, `labels` and `catalog`. -/
structure RolledBack (keys values : List DictRow) (labels : List AgentLabelRow) (catalog : List CatalogLabelRow)
    (db : Db) : Prop where
  agentLabels_eq : Heap.rows db.status db.agentLabels = labels
  keys_eq : db.dictRows .keys = keys
  values_eq : db.dictRows .values = values
  catalog_eq : db.mcpCatalogLabels = catalog

section Outcome

variable {keys values : List DictRow} {labels : List AgentLabelRow} {catalog : List CatalogLabelRow}
  {teams : List AgentTeamRow} {a : String} {L : List Label} {db₀ db₁ db₂ : Db}
  (h₀ : db₀ = Db.ofRows keys values labels catalog teams) (h₁ : db₁ = db₀.afterDeleteAgentLabels 0 a)
  (h₂ : db₂ = db₁.afterLabelInserts 0 L)
include h₀ h₁ h₂

/-- The dictionaries after the loop: the committed rows of `db₀`, then rows under new ids, all the transaction's own,
keeping the constraints; `agent_labels`, the catalog and the status are as the `DELETE` left them. -/
theorem afterLoop (hkeys : DictWf keys) (hvalues : DictWf values) :
    (∀ d, Db.DictOk 0 db₁ d) ∧ (∀ d, Db.DictOk 0 db₂ d) ∧ Db.Grows 0 db₁ db₂ ∧ db₂.status = ⟨[], []⟩ ∧
      ∀ d, ∃ new, (db₂.dict d).map (·.row) = (db₀.dict d).map (·.row) ++ new ∧ ∀ r ∈ new, db₀.nextId ≤ r.id := by
  have hlt : ∀ (rows : List DictRow), (∀ r ∈ rows, r.id ∈ keys.map (·.id) ++ values.map (·.id) ++
      labels.map (·.keyId) ++ labels.map (·.valueId)) → ∀ r ∈ rows, r.id < db₁.nextId :=
    fun _ hmem r hr => by rw [h₁, h₀, Db.afterDeleteAgentLabels_nextId]; exact Db.lt_nextId_ofRows (hmem r hr)
  have hok₁ : ∀ d, Db.DictOk 0 db₁ d
    | .keys => Db.dictOk_of_ofRows (by rw [h₁, h₀]; rfl) hkeys (hlt keys fun r hr => by
        simp only [List.mem_append]; exact .inl (.inl (.inl (List.mem_map_of_mem _ hr))))
    | .values => Db.dictOk_of_ofRows (by rw [h₁, h₀]; rfl) hvalues (hlt values fun r hr => by
        simp only [List.mem_append]; exact .inl (.inl (.inr (List.mem_map_of_mem _ hr))))
  have hg : Db.Grows 0 db₁ db₂ := h₂ ▸ Db.grows_afterLabelInserts 0 db₁ L
  refine ⟨hok₁, h₂ ▸ Db.DictOk.afterLabelInserts L hok₁, hg, by rw [hg.status, h₁, h₀]; rfl, fun d => ?_⟩
  obtain ⟨new, he, hn⟩ := hg.dict d
  refine ⟨new.map (·.row), by rw [he, List.map_append, h₁, Db.afterDeleteAgentLabels_dict], fun r hr => ?_⟩
  obtain ⟨x, hx, rfl⟩ := List.mem_map.1 hr
  exact (hn x hx).2.2.trans' (by rw [h₁]; rfl)

/-- The state a sync that committed leaves is `Synced`. -/
theorem synced_of_commit (hkeys : DictWf keys) (hvalues : DictWf values) {db : Db} {n : Nat}
    (hst : db.status = ⟨[0], []⟩) (hal : db.agentLabels = db₁.agentLabels ++ Heap.freshRows 0 n (db₂.labelRows a L))
    (hdict : ∀ d, db.dict d = db₂.dict d) (hcat : db.mcpCatalogLabels = catalog) :
    Synced keys values labels catalog a L db := by
  obtain ⟨-, hok, hg, hst₂, hnew⟩ := afterLoop h₀ h₁ h₂ hkeys hvalues
  have hrows₀ : ∀ d, db.dictRows d = (db₂.dict d).map (·.row) := fun d => by
    rw [Db.dictRows, hdict, hst, Heap.rows, List.filter_eq_self.2 fun x hx =>
      ((hok d).own x hx).current_of_committed (by simp [hst₂]) (by simp)]
  have hids : ∀ d, ((db.dictRows d).map (·.id)).Nodup := fun d => by
    rw [hrows₀, List.map_map]
    exact (hok d).id_nodup
  -- a string of the list names the row its id is the id of
  have hrow : ∀ d s, (db₂.idOf d s).isSome → ∃ r ∈ db.dictRows d, r.name = s ∧ r.id = (db₂.idOf d s).getD 0 :=
    fun d s hs => by
      obtain ⟨i, hi⟩ := Option.isSome_iff_exists.1 hs
      rw [hrows₀, hi]
      exact Db.mem_of_idOf hi
  -- an id the counter had passed keeps its string
  have hkept : ∀ d, ∀ id < db₀.nextId, leftJoinName (db.dictRows d) id = leftJoinName ((db₀.dict d).map (·.row)) id :=
    fun d id hid => by
      obtain ⟨new, he, hn⟩ := hnew d
      rw [hrows₀, he, leftJoinName_append fun r hr => by have := hn r hr; omega]
  have hpresent := Db.idOf_afterLabelInserts_isSome 0 db₁ L
  rw [← h₂] at hpresent
  -- the committed `agent_labels`: the other agents' rows, then the new ones
  have hAL : Heap.rows db.status db.agentLabels = labels.filter (fun r => !(r.agentId == a)) ++ db₂.labelRows a L := by
    rw [hal, hst, Heap.rows_append, Heap.rows_freshRows (List.mem_singleton_self 0), h₁, h₀]
    simp only [Db.afterDeleteAgentLabels, Db.ofRows]
    rw [Heap.rows_deleteWhere (List.mem_singleton_self 0) (Heap.settled_ofRows labels) (·.agentId == a),
      Heap.ofRows_row]
  have hmine : ∀ r ∈ db₂.labelRows a L, r.agentId = a := fun r hr => by
    obtain ⟨l, -, rfl⟩ := List.mem_map.1 hr
    rfl
  refine ⟨fun collate rowsA ⟨hperm, hsorted⟩ => ?_, fun l hl => ?_, fun b hb => ?_, hcat,
    fun id hid => ?_, fun id hid => ?_⟩
  · -- the agent's join: one row per label, with its strings
    have hjoin : labelJoin (db.dictRows .keys) (db.dictRows .values) (Heap.rows db.status db.agentLabels) (· == a) =
        L.map fun l => ⟨a, (db₂.idOf .keys l.key).getD 0, (db₂.idOf .values l.value).getD 0, some l.key,
          some l.value⟩ := by
      rw [labelJoin, hAL, List.filter_append, List.filter_eq_nil_iff.2 fun r hr => by
          simpa using (List.mem_filter.1 hr).2,
        List.filter_eq_self.2 fun r hr => by simp [hmine r hr], List.nil_append, Db.labelRows, List.flatMap_map,
        ← List.flatMap_pure_eq_map]
      refine List.flatMap_congr fun l hl => ?_
      obtain ⟨rk, hrk, hrkn, hrki⟩ := hrow .keys l.key (hpresent l hl).1
      obtain ⟨rv, hrv, hrvn, hrvi⟩ := hrow .values l.value (hpresent l hl).2
      show joinRows _ _ ⟨a, (db₂.idOf .keys l.key).getD 0, (db₂.idOf .values l.value).getD 0⟩ =
        [⟨a, (db₂.idOf .keys l.key).getD 0, (db₂.idOf .values l.value).getD 0, some l.key, some l.value⟩]
      rw [joinRows, ← hrki, ← hrvi, leftJoinName_of_mem (hids _) hrk, leftJoinName_of_mem (hids _) hrv, hrkn, hrvn]
      rfl
    have hsome : ∀ r ∈ rowsA, ∃ k, r.key = some k := fun r hr => by
      obtain ⟨l, -, rfl⟩ := List.mem_map.1 (hjoin ▸ hperm.subset hr)
      exact ⟨l.key, rfl⟩
    refine ⟨?_, ?_⟩
    · rw [getLabelsForAgent, List.map_map]
      refine (hperm.map _).trans (List.Perm.of_eq ?_)
      rw [hjoin, List.map_map]
      rfl
    · simp only [getLabelsForAgent, List.map_map]
      refine List.pairwise_map.2 (hsorted.imp_of_mem fun {r s} hr hs hle => ?_)
      obtain ⟨k, hk⟩ := hsome r hr
      obtain ⟨k', hk'⟩ := hsome s hs
      rw [hk, hk'] at hle
      show collate (r.key.getD "") ≤ collate (s.key.getD "")
      rw [hk, hk']
      exact WithTop.coe_le_coe.1 hle
  · -- one dictionary row per string of the list
    have hone : ∀ d s, (db₂.idOf d s).isSome → ((db.dictRows d).filter (·.name == s)).length = 1 := fun d s hs => by
      obtain ⟨r, hr, hrn, -⟩ := hrow d s hs
      have hnames : ((db.dictRows d).map (·.name)).Nodup := by
        rw [hrows₀, List.map_map]
        exact (hok d).name_nodup
      rw [← hrn, filter_eq_singleton (·.name) hnames hr]
      rfl
    exact ⟨hone .keys l.key (hpresent l hl).1, hone .values l.value (hpresent l hl).2⟩
  · -- another agent: its rows and the strings of their ids are as they were
    have hnew : (db₂.labelRows a L).filter (·.agentId == b) = [] :=
      List.filter_eq_nil_iff.2 fun r hr he => hb (by simpa [hmine r hr] using (beq_iff_eq.1 he).symm)
    rw [labelJoin, labelJoin, hAL, List.filter_append, hnew, List.append_nil, List.filter_filter]
    have hfilter : labels.filter (fun r => (r.agentId == b) && !(r.agentId == a)) = labels.filter (·.agentId == b) :=
      List.filter_congr fun r _ => by by_cases h : r.agentId = b <;> simp [h, hb]
    rw [hfilter]
    refine List.flatMap_congr fun l hl => ?_
    have hl' := (List.mem_filter.1 hl).1
    have hk : l.keyId < db₀.nextId := by
      rw [h₀]; exact Db.lt_nextId_ofRows (List.mem_append_left _ (List.mem_append_right _ (List.mem_map_of_mem _ hl')))
    have hv : l.valueId < db₀.nextId := by
      rw [h₀]; exact Db.lt_nextId_ofRows (List.mem_append_right _ (List.mem_map_of_mem _ hl'))
    rw [joinRows, joinRows, hkept .keys _ hk, hkept .values _ hv, h₀]
    simp only [Db.dict, Db.ofRows, Heap.ofRows_row]
  · rw [hkept .keys id (by
      rw [h₀]; exact Db.lt_nextId_ofRows (List.mem_append_left _ (List.mem_append_left _ (List.mem_append_left _ hid)))),
      h₀]
    simp only [Db.dict, Db.ofRows, Heap.ofRows_row]
  · rw [hkept .values id (by
      rw [h₀]; exact Db.lt_nextId_ofRows (List.mem_append_left _ (List.mem_append_left _ (List.mem_append_right _ hid)))),
      h₀]
    simp only [Db.dict, Db.ofRows, Heap.ofRows_row]

/-- The state a sync that rolled back leaves is `RolledBack`. -/
theorem rolledBack_of_abort {db : Db} (hst : db.status = ⟨[], [0]⟩) (hal : db.agentLabels = db₁.agentLabels)
    (hdict : ∀ d, db.dict d = db₂.dict d) (hcat : db.mcpCatalogLabels = catalog) :
    RolledBack keys values labels catalog db := by
  have hg : Db.Grows 0 db₁ db₂ := h₂ ▸ Db.grows_afterLabelInserts 0 db₁ L
  have hdictRows : ∀ d rows, db₀.dict d = Heap.ofRows rows → db.dictRows d = rows := fun d rows hd => by
    obtain ⟨new, he, hn⟩ := hg.dict d
    have hnil : Heap.rows db.status new = [] := by
      rw [Heap.rows, List.filter_eq_nil_iff.2 fun (x : Tuple DictRow) hx => by
        simp [hst, Tuple.current, TxStatus.insCommitted, (hn x hx).1]]
      rfl
    rw [Db.dictRows, hdict, he, h₁, Db.afterDeleteAgentLabels_dict, hd, Heap.rows_append, hnil, List.append_nil,
      Heap.rows_settled (Heap.settled_ofRows rows), Heap.ofRows_row]
  refine ⟨?_, hdictRows .keys keys (by rw [h₀]; rfl), hdictRows .values values (by rw [h₀]; rfl), hcat⟩
  rw [hal, hst, h₁, h₀]
  simp only [Db.afterDeleteAgentLabels, Db.ofRows]
  rw [Heap.rows_deleteWhere_of_not_committed (List.not_mem_nil 0) (Heap.settled_ofRows labels) (·.agentId == a),
    Heap.ofRows_row]

end Outcome

/-- `syncAgentLabels(a, L)` run alone from committed tables whose dictionaries keep their constraints, for every list
of labels, to its end: it returns exactly when the keys of `L` are distinct, and leaves the state `Synced` describes;
otherwise its `INSERT` is a unique violation, it throws, and the tables are as before. -/
theorem syncAgentLabels_alone (keys values : List DictRow) (labels : List AgentLabelRow)
    (catalog : List CatalogLabelRow) (teams : List AgentTeamRow) (hkeys : DictWf keys) (hvalues : DictWf values)
    (a : String) (L : List Label) :
    let s := (⟨Db.ofRows keys values labels catalog teams, [(fun _ => []) <$> syncAgentLabels a L]⟩ : Sys).run
      (List.replicate (4 * L.length + 5) (.run 0))
    (L.map (·.key)).Nodup ∧ s.clients.head? = some (.ret []) ∧ Synced keys values labels catalog a L s.db ∨
      ¬(L.map (·.key)).Nodup ∧ s.clients.head? = some (.fail .uniqueViolation) ∧
        RolledBack keys values labels catalog s.db := by
  intro s
  obtain ⟨db₀, h₀⟩ : ∃ db₀, db₀ = Db.ofRows keys values labels catalog teams := ⟨_, rfl⟩
  obtain ⟨db₁, h₁⟩ : ∃ db₁, db₁ = db₀.afterDeleteAgentLabels 0 a := ⟨_, rfl⟩
  obtain ⟨db₂, h₂⟩ : ∃ db₂, db₂ = db₁.afterLabelInserts 0 L := ⟨_, rfl⟩
  obtain ⟨hok₁, hok, hg, hst₂, -⟩ := afterLoop h₀ h₁ h₂ hkeys hvalues
  have hset : ∀ st, ∀ x ∈ db₀.agentLabels, x.Settled st := fun _ => by rw [h₀]; exact Heap.settled_ofRows labels
  have hcat : db₂.mcpCatalogLabels = catalog := by rw [hg.catalog, h₁, h₀]; rfl
  have hdict : ∀ (db : Db) (st : TxStatus), ({ db with status := st } : Db).dict = db.dict := fun _ _ => by
    funext d; cases d <;> rfl
  rw [show s = _ from run_syncAgentLabels_delete keys values labels catalog teams a L _, ← h₀, ← h₁]
  cases L with
  | nil =>
    -- the `COMMIT`, the prune fired, and an event with nothing left to run
    have hrun : (⟨db₁, [.exec false .commit fun _ => .firePrune (.ret [])]⟩ : Sys).run
        (List.replicate (4 * ([] : List Label).length + 3) (.run 0)) =
          ⟨{ db₁ with status := db₁.status.commit 0 }, [.ret [], Sys.pruneClient]⟩ := by
      show (⟨db₁, _⟩ : Sys).run [.run 0, .run 0, .run 0] = _
      rw [Sys.run_alone_tx (show db₁.exec 0 .commit = .ok { db₁ with status := db₁.status.commit 0 } [] from rfl),
        Sys.run_alone_firePrune] <;> rfl
    rw [if_neg (show ¬([] : List Label).length > 0 from Nat.lt_irrefl 0), hrun]
    refine .inl ⟨List.nodup_nil, rfl, synced_of_commit h₀ h₁ h₂ hkeys hvalues
      (by rw [← hg.status, hst₂]; rfl) (show _ = db₁.agentLabels ++ Heap.freshRows 0 0 (db₂.labelRows a []) from (List.append_nil _).symm)
      (fun d => by rw [hdict, h₂]; rfl) (by rw [← hcat, h₂]; rfl)⟩
  | cons l L =>
    have hmine : ∀ r ∈ db₂.labelRows a (l :: L), r.agentId = a := fun r hr => by
      obtain ⟨_, -, rfl⟩ := List.mem_map.1 hr
      rfl
    have hins := exec_insertAgentLabels_replaced (hset db₂.status) (by rw [hg.agentLabels, h₁]) hmine
    have hpresent : ∀ l' ∈ l :: L, (db₂.idOf .keys l'.key).isSome := fun l' hl' => by
      rw [h₂]
      exact (Db.idOf_afterLabelInserts_isSome 0 db₁ _ l' hl').1
    -- the loop, four statements a label
    have hloop : (⟨db₁, [(labelInserts a (l :: L)).bind fun rows =>
          .exec false (.insertAgentLabels rows) fun _ => .exec false .commit fun _ => .firePrune (.ret [])]⟩ : Sys).run
        (List.replicate (4 * (l :: L).length + 3) (.run 0)) =
          (⟨db₂, [.exec false (.insertAgentLabels (db₂.labelRows a (l :: L))) fun _ =>
            .exec false .commit fun _ => .firePrune (.ret [])]⟩ : Sys).run [.run 0, .run 0, .run 0] := by
      rw [List.replicate_add, @run_labelInserts a (l :: L) (fun rows => .exec false (.insertAgentLabels rows) fun _ =>
        .exec false .commit fun _ => .firePrune (.ret [])) (fun _ => rfl) db₁ (fun d => (hok₁ d).own), ← h₂]
      rfl
    rw [if_pos (show (l :: L).length > 0 from Nat.succ_pos _), hloop]
    by_cases hn : ((db₂.labelRows a (l :: L)).map fun r => (r.agentId, r.keyId)).Nodup
    · -- the `INSERT`, the `COMMIT` and the prune fired
      rw [if_pos hn] at hins
      rw [Sys.run_alone_tx hins, Sys.run_alone_tx (show Db.exec _ 0 .commit = .ok _ [] from rfl),
        Sys.run_alone_firePrune, Sys.run_nil]
      · refine .inl ⟨(Db.nodup_labelRows_iff (hok .keys) a hpresent).1 hn, rfl,
          synced_of_commit h₀ h₁ h₂ hkeys hvalues (by show db₂.status.commit 0 = _; rw [hst₂]; rfl)
            (by show db₂.agentLabels ++ _ = _; rw [hg.agentLabels]) (fun d => by cases d <;> rfl) hcat⟩
      all_goals rfl
    · -- the `INSERT` is a unique violation: the transaction rolls back
      rw [if_neg hn] at hins
      rw [Sys.run_alone_tx_error hins, show [Event.run 0, .run 0] = List.replicate 2 (.run 0) from rfl,
        Sys.run_alone_finished (show Prog.finished (.fail _ : Client) = true from rfl)]
      refine .inr ⟨mt (Db.nodup_labelRows_iff (hok .keys) a hpresent).2 hn, rfl,
        rolledBack_of_abort h₀ h₁ h₂ (by show db₂.status.abort 0 = _; rw [hst₂]; rfl) hg.agentLabels
          (Db.abort_dict db₂ 0) hcat⟩

/-- `agent-a` synced to `env: prod` and `region: eu`, `env` and `prod` already in the dictionaries and used by
`agent-b`. -/
theorem syncAgentLabels_alone_two_labels :
    DictWf [⟨0, "env"⟩] ∧ DictWf [⟨1, "prod"⟩] ∧
      let s := (⟨Db.ofRows [⟨0, "env"⟩] [⟨1, "prod"⟩] [⟨"agent-b", 0, 1⟩] [] [],
        [(fun _ => []) <$> syncAgentLabels "agent-a" [⟨"env", "prod"⟩, ⟨"region", "eu"⟩]]⟩ : Sys).run
          (List.replicate (4 * [(⟨"env", "prod"⟩ : Label), ⟨"region", "eu"⟩].length + 5) (.run 0))
      ([(⟨"env", "prod"⟩ : Label), ⟨"region", "eu"⟩].map (·.key)).Nodup ∧ s.clients.head? = some (.ret []) ∧
          Synced [⟨0, "env"⟩] [⟨1, "prod"⟩] [⟨"agent-b", 0, 1⟩] [] "agent-a" [⟨"env", "prod"⟩, ⟨"region", "eu"⟩] s.db ∨
        ¬([(⟨"env", "prod"⟩ : Label), ⟨"region", "eu"⟩].map (·.key)).Nodup ∧
          s.clients.head? = some (.fail .uniqueViolation) ∧
          RolledBack [⟨0, "env"⟩] [⟨1, "prod"⟩] [⟨"agent-b", 0, 1⟩] [] s.db :=
  ⟨by decide, by decide, syncAgentLabels_alone _ _ _ _ _ (by decide) (by decide) _ _⟩

end AgentLabelModel

end Archestra
