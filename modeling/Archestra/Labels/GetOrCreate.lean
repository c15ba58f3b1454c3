import Archestra.Db.Sched

/-!
# Concurrent `getOrCreateKey`

Any number of standalone `getOrCreateKey(s)` calls, each two autocommit statements, interleaved in any order with
no pruning, all return the id of the one `label_keys` row that holds `s` (`getOrCreateKey_concurrent`); the same for
`getOrCreateValue` and `label_values`.  The invariant (`Inv`): the dictionary stays settled (every tuple committed,
none deleted, so no statement ever waits), it holds at most one tuple named `s`, and every call that has run its
`INSERT` has left that tuple behind.
-/

namespace Archestra

namespace GetOrCreate

variable (d : Dict) (s : String)

/-- A standalone `getOrCreate` call on `db` as a client. -/
def client : Client := (fun id => [id]) <$> AgentLabelModel.getOrCreate .db d s

/-- What the call does with the rows of its `SELECT`. -/
def answer : List Nat → Client
  | id :: _ => .ret [id]
  | [] => .fail .typeError

/-- The call after its `INSERT`. -/
def selecting : Client := .exec true (.selectId d s) answer

theorem client_eq : client d s = .exec true (.insertIgnore d s) fun _ => selecting d s := by
  show Prog.exec _ _ _ = _
  congr 1
  funext _
  show Prog.exec _ _ _ = _
  congr 1
  funext rows
  cases rows <;> rfl

/-- The ids of the tuples named `s`. -/
def ids (db : Db) : List Nat := (((db.dict d).map (·.row)).filter (·.name == s)).map (·.id)

/-- What a call has left after `k` of its events, its `SELECT` having found `id`. -/
def stage (id : Nat) : Nat → Client
  | 0 => client d s
  | 1 => selecting d s
  | _ => .ret [id]

/-- Events of client `j` counted so far. -/
def tick (c : Nat → Nat) (e : Event) (j : Nat) : Nat := c j + if e == .run j then 1 else 0

/-- The invariant of `n` calls, call `i` having had `c i` events. -/
structure Inv (n : Nat) (sys : Sys) (c : Nat → Nat) : Prop where
  length : sys.clients.length = n
  settled : ∀ x ∈ sys.db.dict d, x.Settled sys.db.status
  unique : (ids d s sys.db).length ≤ 1
  client : ∀ i < n, sys.clients[i]? = some (stage d s ((ids d s sys.db).headD 0) (c i))
  found : ∀ i < n, 0 < c i → ids d s sys.db ≠ []

variable {d s}

@[simp] theorem ids_insertDict (db : Db) (t : Nat) : ids d s (db.insertDict d t s) = ids d s db ++ [db.nextId] := by
  simp [ids, Heap.fresh]

@[simp] theorem ids_commit (db : Db) (t : Nat) : ids d s (db.commit t) = ids d s db := by
  simp [ids]

theorem stage_of_two_le (id : Nat) {k : Nat} (h : 2 ≤ k) : stage d s id k = .ret [id] := by
  match k, h with
  | _ + 2, _ => rfl

theorem tick_run_self (c : Nat → Nat) (i : Nat) : tick c (.run i) i = c i + 1 := by simp [tick]

theorem tick_run_ne (c : Nat → Nat) {i j : Nat} (h : j ≠ i) : tick c (.run i) j = c j := by
  simp [tick, Ne.symm h]

theorem settled_commit {db : Db} (h : ∀ x ∈ db.dict d, x.Settled db.status) (t : Nat) :
    ∀ x ∈ (db.commit t).dict d, x.Settled (db.commit t).status := fun x hx =>
  (h x (by simpa using hx)).mono fun u hu => by simp [hu]

theorem any_name_iff (db : Db) : ((db.dict d).any fun x => decide (x.row.name = s)) = true ↔ ids d s db ≠ [] := by
  simp [ids, List.any_eq, List.filter_eq_nil_iff]

variable {n : Nat} {sys : Sys} {c : Nat → Nat}

/-- The invariant after call `i` continues with `p` on the database `db`. -/
theorem Inv.set (hinv : Inv d s n sys c) {i : Nat} (hi : i < n) {db : Db} {p : Client} {c' : Nat → Nat}
    (hsettled : ∀ x ∈ db.dict d, x.Settled db.status) (hunique : (ids d s db).length ≤ 1)
    (hp : p = stage d s ((ids d s db).headD 0) (c' i))
    (hother : ∀ j < n, j ≠ i → stage d s ((ids d s sys.db).headD 0) (c j) = stage d s ((ids d s db).headD 0) (c' j))
    (hfound : ∀ j < n, 0 < c' j → ids d s db ≠ []) :
    Inv d s n ⟨db, sys.clients.set i p⟩ c' := by
  refine ⟨by simp [hinv.length], hsettled, hunique, fun j hj => ?_, hfound⟩
  by_cases hji : j = i
  · subst hji; simp [List.getElem?_set_self, hinv.length, hj, hp]
  · rw [List.getElem?_set_ne (Ne.symm hji), hinv.client j hj, hother j hj hji]

/-- Call `i` runs its `INSERT`. -/
theorem inv_run_insert (hinv : Inv d s n sys c) {i : Nat} (hi : i < n) (hc : c i = 0) :
    Inv d s n ((sys.step (.run i)).getD sys) (tick c (.run i)) := by
  have hcl : sys.clients[i]? = some (.exec true (.insertIgnore d s) fun _ => selecting d s) := by
    rw [hinv.client i hi, hc, ← client_eq]; rfl
  rw [Sys.step_run_ok hcl (Db.exec_insertIgnore_settled i s hinv.settled), Option.getD_some, if_pos rfl,
    Sys.update_eq _ _ _ (p := selecting d s) rfl]
  have hc' : tick c (.run i) i = 1 := by rw [tick_run_self, hc]
  by_cases hids : ids d s sys.db = []
  · have hany : ((sys.db.dict d).any fun x => decide (x.row.name = s)) = false :=
      Bool.eq_false_iff.2 fun h => (any_name_iff _).1 h hids
    have hzero : ∀ j < n, c j = 0 := fun j hj => by
      by_contra h; exact hinv.found j hj (Nat.pos_of_ne_zero h) hids
    rw [hany, if_neg Bool.false_ne_true]
    refine hinv.set hi (fun x hx => ?_) (by simp [hids]) (by rw [hc']; rfl)
      (fun j hj hji => by rw [tick_run_ne c hji, hzero j hj]; rfl) (fun _ _ _ => by simp)
    simp only [Db.commit_dict, Db.insertDict_dict, List.mem_append, List.mem_singleton] at hx
    rcases hx with hx | rfl
    · exact (hinv.settled x hx).mono fun u hu => by simp [hu]
    · exact ⟨by simp [Heap.fresh, TxStatus.insCommitted], rfl⟩
  · rw [(any_name_iff _).2 hids, if_pos rfl]
    exact hinv.set hi (settled_commit hinv.settled i) (by simpa using hinv.unique) (by rw [hc']; rfl)
      (fun j _ hji => by rw [tick_run_ne c hji, ids_commit]) (fun _ _ _ => by simpa using hids)

theorem ids_eq_singleton (hinv : Inv d s n sys c) {i : Nat} (hi : i < n) (hc : 0 < c i) :
    ids d s sys.db = [(ids d s sys.db).headD 0] := by
  have h1 := hinv.unique
  have h2 := hinv.found i hi hc
  match h : ids d s sys.db, h1, h2 with
  | [_], _, _ => rfl
  | _ :: _ :: _, h1, _ => simp at h1

/-- Call `i` runs its `SELECT`, which finds the tuple its `INSERT` left. -/
theorem inv_run_select (hinv : Inv d s n sys c) {i : Nat} (hi : i < n) (hc : c i = 1) :
    Inv d s n ((sys.step (.run i)).getD sys) (tick c (.run i)) := by
  have hcl : sys.clients[i]? = some (selecting d s) := by rw [hinv.client i hi, hc]; rfl
  have hk : answer (List.take 1 ((((sys.db.dict d).map (·.row)).filter (·.name == s)).map (·.id))) =
      .ret [(ids d s sys.db).headD 0] := by
    change answer (List.take 1 (ids d s sys.db)) = _
    rw [ids_eq_singleton hinv hi (by omega)]; rfl
  rw [Sys.step_run_ok hcl (Db.exec_selectId_settled i s hinv.settled), Option.getD_some, if_pos rfl, hk,
    Sys.update_eq _ _ _ (p := .ret _) rfl]
  exact hinv.set hi (settled_commit hinv.settled i) (by simpa using hinv.unique)
    (by rw [ids_commit, tick_run_self, hc]; rfl) (fun j _ hji => by rw [tick_run_ne c hji, ids_commit])
    (fun j hj _ => by simpa using hinv.found i hi (by omega))

/-- No call ever waits. -/
theorem waitsOn_eq_none (hinv : Inv d s n sys c) (j : Nat) : sys.waitsOn j = none := by
  by_cases hj : j < n
  · have hcl := hinv.client j hj
    match h : c j with
    | 0 => rw [h, stage, client_eq] at hcl; simp [Sys.waitsOn, hcl, Db.exec_insertIgnore_settled j s hinv.settled]
    | 1 => rw [h] at hcl; simp [Sys.waitsOn, hcl, stage, selecting, Db.exec_selectId_settled j s hinv.settled]
    | k + 2 => rw [h] at hcl; simp [Sys.waitsOn, hcl, stage]
  · simp [Sys.waitsOn, List.getElem?_eq_none (by rw [hinv.length]; omega : sys.clients.length ≤ j)]

/-- An event that leaves the system unchanged keeps the invariant, with the event counted. -/
theorem Inv.skip (hinv : Inv d s n sys c) (e : Event)
    (hdone : ∀ i < n, e = .run i → 2 ≤ c i) : Inv d s n sys (tick c e) := by
  refine ⟨hinv.length, hinv.settled, hinv.unique, fun j hj => ?_, fun j hj hpos => ?_⟩
  · by_cases he : e = .run j
    · rw [hinv.client j hj, GetOrCreate.tick, if_pos (by simp [he]), stage_of_two_le _ (hdone j hj he),
        stage_of_two_le _ (by have := hdone j hj he; omega)]
    · rw [hinv.client j hj, GetOrCreate.tick, if_neg (by simpa using he), Nat.add_zero]
  · by_cases he : e = .run j
    · exact hinv.found j hj (by have := hdone j hj he; omega)
    · exact hinv.found j hj (by simpa [GetOrCreate.tick, he] using hpos)

/-- One event keeps the invariant. -/
theorem inv_step (hinv : Inv d s n sys c) (e : Event) : Inv d s n ((sys.step e).getD sys) (tick c e) := by
  cases e with
  | detect i =>
    rw [Sys.step_detect_eq_none (waitsOn_eq_none hinv) i, Option.getD_none]
    exact hinv.skip _ fun _ _ h => by cases h
  | run i =>
    by_cases hi : i < n
    · match h : c i with
      | 0 => exact inv_run_insert hinv hi h
      | 1 => exact inv_run_select hinv hi h
      | k + 2 =>
        have hcl := hinv.client i hi
        rw [h] at hcl
        rw [Sys.step_run_finished hcl rfl, Option.getD_none]
        exact hinv.skip _ fun j _ hij => by cases hij; omega
    · rw [Sys.step_run_none (List.getElem?_eq_none (by rw [hinv.length]; omega)), Option.getD_none]
      exact hinv.skip _ fun j hj hij => by cases hij; omega

/-- A whole interleaving keeps the invariant; each call has had as many events as the schedule gives it. -/
theorem inv_run (hinv : Inv d s n sys c) (es : List Event) :
    Inv d s n (sys.run es) fun j => c j + es.count (.run j) := by
  induction es generalizing sys c with
  | nil => simpa using hinv
  | cons e es ih =>
    rw [Sys.run_cons]
    convert ih (inv_step hinv e) using 2 with j
    simp only [GetOrCreate.tick, List.count_cons, beq_iff_eq]
    split <;> omega

/-- `n ≥ 1` standalone calls `getOrCreate(s)` on a dictionary whose tuples are settled and hold `s` at most once,
interleaved in any order in which every call runs: all return the id of the one row that holds `s`. -/
theorem concurrent_calls (db : Db) (hset : ∀ x ∈ db.dict d, x.Settled db.status) (huniq : (ids d s db).length ≤ 1)
    {n : Nat} (hn : 0 < n) (sched : List Event) (hsched : ∀ i < n, 2 ≤ sched.count (.run i)) :
    ∃ id, (∀ i < n, ((Sys.mk db (List.replicate n (client d s))).run sched).clients[i]?.bind Prog.result? = some [id]) ∧
      (((Sys.mk db (List.replicate n (client d s))).run sched).db.dictRows d |>.filter (·.name == s) |>.map (·.id)) =
        [id] := by
  have hinit : Inv d s n (Sys.mk db (List.replicate n (client d s))) fun _ => 0 :=
    ⟨by simp, hset, huniq, fun i hi => by simp [hi, stage], fun _ _ h => absurd h (Nat.lt_irrefl 0)⟩
  have hfin := inv_run hinit sched
  refine ⟨(ids d s ((Sys.mk db (List.replicate n (client d s))).run sched).db).headD 0, fun i hi => ?_, ?_⟩
  · rw [hfin.client i hi, stage_of_two_le _ (by have := hsched i hi; omega)]; rfl
  · rw [Db.dictRows, Heap.rows_settled hfin.settled]
    exact ids_eq_singleton hfin hn (by have := hsched 0 hn; omega)

end GetOrCreate

/-- `n ≥ 1` concurrent standalone `getOrCreateKey(s)` calls, in any interleaving that runs them all and with no
pruning, all return the same id, and afterwards `label_keys` holds exactly one row with key `s`, the one with that
id; the same for `getOrCreateValue` and `label_values`.  The dictionary starts committed, with `s` at most once (its
unique index). -/
theorem getOrCreateKey_concurrent (db : Db) (s : String) {n : Nat} (hn : 0 < n) (sched : List Event)
    (hsched : ∀ i < n, 2 ≤ sched.count (.run i)) :
    ((∀ x ∈ db.labelKeys, x.Settled db.status) → ((db.labelKeys.map (·.row)).filter (·.name == s)).length ≤ 1 →
      ∃ id, (∀ i < n, ((Sys.mk db (List.replicate n ((fun id => [id]) <$> AgentLabelModel.getOrCreateKey s))).run
          sched).clients[i]?.bind Prog.result? = some [id]) ∧
        (((Sys.mk db (List.replicate n ((fun id => [id]) <$> AgentLabelModel.getOrCreateKey s))).run sched).db.dictRows
          .keys |>.filter (·.name == s) |>.map (·.id)) = [id]) ∧
    ((∀ x ∈ db.labelValues, x.Settled db.status) → ((db.labelValues.map (·.row)).filter (·.name == s)).length ≤ 1 →
      ∃ id, (∀ i < n, ((Sys.mk db (List.replicate n ((fun id => [id]) <$> AgentLabelModel.getOrCreateValue s))).run
          sched).clients[i]?.bind Prog.result? = some [id]) ∧
        (((Sys.mk db (List.replicate n ((fun id => [id]) <$> AgentLabelModel.getOrCreateValue s))).run sched).db.dictRows
          .values |>.filter (·.name == s) |>.map (·.id)) = [id]) :=
  ⟨fun hset huniq => GetOrCreate.concurrent_calls (d := .keys) (s := s) db hset (by simpa [GetOrCreate.ids] using huniq)
      hn sched hsched,
    fun hset huniq => GetOrCreate.concurrent_calls (d := .values) (s := s) db hset
      (by simpa [GetOrCreate.ids] using huniq) hn sched hsched⟩

/-- Two calls on an empty dictionary, each run to completion in an interleaved order. -/
theorem getOrCreateKey_concurrent_two_calls :
    ∃ id, (∀ i < 2, ((Sys.mk (Db.ofRows [] [] [] [] []) (List.replicate 2
        ((fun id => [id]) <$> AgentLabelModel.getOrCreateKey "region"))).run [.run 0, .run 1, .run 0, .run 1]).clients[i]?.bind
          Prog.result? = some [id]) ∧
      (((Sys.mk (Db.ofRows [] [] [] [] []) (List.replicate 2
        ((fun id => [id]) <$> AgentLabelModel.getOrCreateKey "region"))).run [.run 0, .run 1, .run 0, .run 1]).db.dictRows
          .keys |>.filter (·.name == "region") |>.map (·.id)) = [id] :=
  (getOrCreateKey_concurrent (Db.ofRows [] [] [] [] []) "region" (n := 2) (by decide) _ (by decide)).1
    (Heap.settled_ofRows _) (by decide)

end Archestra
