import Archestra.Models.AgentLabel

/-!
# Interleaving clients at statement granularity

A system is the database and its clients, client `i` running as transaction `i`.  An event runs the next statement
of one client, when the statement does not wait on a transaction in progress; or it is the deadlock detector
aborting a client whose wait closes a cycle of the waits-for graph (PostgreSQL aborts the transaction whose check
finds the cycle).  A client that throws has its transaction rolled back; a statement on `db` commits at once.
`run` is a whole interleaving: events that cannot happen are skipped, so every list of events is a run.
-/

namespace Archestra

/-- A client's code, answering the ids it returns. -/
abbrev Client := Prog (List Nat)

/-- The database and the clients; client `i` is transaction `i`. -/
structure Sys where
  db : Db
  clients : List Client

/-- A scheduling event. -/
inductive Event where
  /-- Client `i` runs its next statement. -/
  | run (i : Nat)
  /-- The deadlock detector aborts client `i`. -/
  | detect (i : Nat)
  deriving DecidableEq, Repr

namespace Sys

/-- The background client of `AgentLabelModel.pruneKeysAndValues().catch(() => {})`. -/
def pruneClient : Client := (fun r : Nat × Nat => [r.1, r.2]) <$> AgentLabelModel.pruneKeysAndValues

/-- Client `i` continues with `p` on the database `db`; a client that has thrown is rolled back. -/
def update (s : Sys) (i : Nat) (db : Db) (p : Client) : Sys :=
  { db := (match p with | .fail _ => db.abort i | _ => db), clients := s.clients.set i p }

/-- The transaction client `i` waits on. -/
def waitsOn (s : Sys) (i : Nat) : Option Nat :=
  match s.clients[i]? with
  | some (.exec _ st _) =>
    match s.db.exec i st with
    | .wait u => some u
    | _ => none
  | _ => none

/-- Whether at most `n` waits-for edges lead from client `j` to client `i`. -/
def waitReaches (s : Sys) : Nat → Nat → Nat → Bool
  | 0, _, _ => false
  | n + 1, j, i =>
    match s.waitsOn j with
    | some u => u == i || s.waitReaches n u i
    | none => false

/-- Client `i` waits on a cycle of the waits-for graph. -/
def deadlocked (s : Sys) (i : Nat) : Bool := s.waitReaches s.clients.length i i

/-- One event. -/
def step (s : Sys) : Event → Option Sys
  | .run i =>
    match s.clients[i]? with
    | some (.exec auto st k) =>
      match s.db.exec i st with
      | .wait _ => none
      | .error e => some (s.update i s.db (.fail e))
      | .ok db ans => some (s.update i (if auto then db.commit i else db) (k ans))
    | some (.firePrune next) => some { s with clients := s.clients.set i next ++ [pruneClient] }
    | _ => none
  | .detect i => if s.deadlocked i then some (s.update i s.db (.fail .deadlockDetected)) else none

/-- An interleaving: the events in order, those that cannot happen skipped. -/
def run (s : Sys) : List Event → Sys
  | [] => s
  | e :: es => ((s.step e).getD s).run es

@[simp] theorem run_nil (s : Sys) : s.run [] = s := rfl

theorem run_cons (s : Sys) (e : Event) (es : List Event) : s.run (e :: es) = ((s.step e).getD s).run es := rfl

@[simp] theorem update_clients (s : Sys) (i : Nat) (db : Db) (p : Client) :
    (s.update i db p).clients = s.clients.set i p := rfl

theorem update_eq (s : Sys) (i : Nat) (db : Db) {p : Client} (hp : p.failure? = none) :
    s.update i db p = ⟨db, s.clients.set i p⟩ := by
  cases p <;> simp_all [update, Prog.failure?]

theorem step_run_ok {s : Sys} {i : Nat} {auto : Bool} {st : Stmt} {k : List Nat → Client} {db : Db}
    {ans : List Nat} (hi : s.clients[i]? = some (.exec auto st k)) (h : s.db.exec i st = .ok db ans) :
    s.step (.run i) = some (s.update i (if auto then db.commit i else db) (k ans)) := by
  simp [step, hi, h]

/-- A step of a client awaiting a statement: the statement threw, or the client moves on with its answer. -/
theorem step_run_exec {s s' : Sys} {i : Nat} {auto : Bool} {st : Stmt} {k : List Nat → Client}
    (hi : s.clients[i]? = some (.exec auto st k)) (h : s.step (.run i) = some s') :
    (∃ e, s.db.exec i st = .error e ∧ s' = s.update i s.db (.fail e)) ∨
      ∃ db ans, s.db.exec i st = .ok db ans ∧ s' = s.update i (if auto then db.commit i else db) (k ans) := by
  simp only [step, hi] at h
  split at h
  · cases h
  · exact .inl ⟨_, ‹_›, (Option.some.inj h).symm⟩
  · exact .inr ⟨_, _, ‹_›, (Option.some.inj h).symm⟩

/-- The same for a statement on the client's transaction, which does not commit by itself. -/
theorem step_run_tx {s s' : Sys} {i : Nat} {st : Stmt} {k : List Nat → Client}
    (hi : s.clients[i]? = some (.exec false st k)) (h : s.step (.run i) = some s') :
    (∃ e, s.db.exec i st = .error e ∧ s' = s.update i s.db (.fail e)) ∨
      ∃ db ans, s.db.exec i st = .ok db ans ∧ s' = s.update i db (k ans) := by
  simpa only [Bool.false_eq_true, if_false] using step_run_exec hi h

theorem step_run_tx_ok {s : Sys} {i : Nat} {st : Stmt} {k : List Nat → Client} {db : Db} {ans : List Nat}
    (hi : s.clients[i]? = some (.exec false st k)) (h : s.db.exec i st = .ok db ans) :
    s.step (.run i) = some (s.update i db (k ans)) := by
  simp [step, hi, h]

/-- A client alone in the system, awaiting a statement on its transaction that answers, moves on with the answer. -/
theorem run_alone_tx {db db' : Db} {st : Stmt} {k : List Nat → Client} {ans : List Nat}
    (h : db.exec 0 st = .ok db' ans) (hk : (k ans).failure? = none) (es : List Event) :
    (⟨db, [.exec false st k]⟩ : Sys).run (.run 0 :: es) = (⟨db', [k ans]⟩ : Sys).run es := by
  rw [run_cons, step_run_tx_ok (show (⟨db, [.exec false st k]⟩ : Sys).clients[0]? = some _ from rfl) h,
    Option.getD_some, update_eq _ _ _ hk]
  rfl

/-- A client alone in the system, awaiting a statement on its transaction that throws, has it rolled back. -/
theorem run_alone_tx_error {db : Db} {st : Stmt} {k : List Nat → Client} {e : Failure}
    (h : db.exec 0 st = .error e) (es : List Event) :
    (⟨db, [.exec false st k]⟩ : Sys).run (.run 0 :: es) = (⟨db.abort 0, [.fail e]⟩ : Sys).run es := by
  rw [run_cons]
  simp only [step, List.getElem?_cons_zero, h, Option.getD_some]
  rfl

theorem step_run_finished {s : Sys} {i : Nat} {p : Client} (hi : s.clients[i]? = some p) (hp : p.finished = true) :
    s.step (.run i) = none := by
  cases p <;> simp_all [step, Prog.finished]

/-- Once a client has finished, running it changes nothing. -/
theorem run_finished {s : Sys} {i : Nat} {p : Client} (hi : s.clients[i]? = some p) (hp : p.finished = true)
    (n : Nat) : s.run (List.replicate n (.run i)) = s := by
  induction n with
  | zero => rfl
  | succ n ih => rw [List.replicate_succ, run_cons, step_run_finished hi hp, Option.getD_none, ih]

theorem run_alone_finished {db : Db} {p : Client} (hp : p.finished = true) (n : Nat) :
    (⟨db, [p]⟩ : Sys).run (List.replicate n (.run 0)) = ⟨db, [p]⟩ :=
  run_finished rfl hp n

/-- A client alone in the system that fires the background prune moves on, the prune client beside it. -/
theorem run_alone_firePrune {db : Db} (next : Client) (es : List Event) :
    (⟨db, [.firePrune next]⟩ : Sys).run (.run 0 :: es) = (⟨db, [next, pruneClient]⟩ : Sys).run es :=
  rfl

theorem step_run_none {s : Sys} {i : Nat} (hi : s.clients[i]? = none) : s.step (.run i) = none := by
  simp [step, hi]

/-- A client whose statement waits cannot run. -/
theorem step_run_eq_none_of_waitsOn {s : Sys} {i u : Nat} (h : s.waitsOn i = some u) : s.step (.run i) = none := by
  unfold waitsOn at h
  unfold step
  split at h
  · split at h <;> simp_all
  · cases h

/-- Two clients waiting on each other are deadlocked. -/
theorem deadlocked_of_waitsOn_pair {s : Sys} {i j : Nat} (hij : s.waitsOn i = some j) (hji : s.waitsOn j = some i)
    (hlen : 2 ≤ s.clients.length) : s.deadlocked i = true := by
  obtain ⟨n, hn⟩ : ∃ n, s.clients.length = n + 2 := ⟨s.clients.length - 2, by omega⟩
  simp [deadlocked, hn, waitReaches, hij, hji]

/-- Only a client awaiting a statement can be deadlocked. -/
theorem exec_of_deadlocked {s : Sys} {i : Nat} (h : s.deadlocked i = true) :
    ∃ auto st k, s.clients[i]? = some (.exec auto st k) := by
  unfold deadlocked at h
  cases hn : s.clients.length with
  | zero => simp [hn, waitReaches] at h
  | succ n =>
    rw [hn] at h
    simp only [waitReaches] at h
    split at h
    · rename_i u hu
      unfold waitsOn at hu
      split at hu
      · exact ⟨_, _, _, ‹_›⟩
      · cases hu
    · cases h

theorem waitReaches_eq_false {s : Sys} (h : ∀ j, s.waitsOn j = none) (n j i : Nat) : s.waitReaches n j i = false := by
  cases n <;> simp [waitReaches, h]

/-- No deadlock is detected while no client waits. -/
theorem step_detect_eq_none {s : Sys} (h : ∀ j, s.waitsOn j = none) (i : Nat) : s.step (.detect i) = none := by
  simp [step, deadlocked, waitReaches_eq_false h]

theorem run_append (s : Sys) (es es' : List Event) : s.run (es ++ es') = (s.run es).run es' := by
  induction es generalizing s with
  | nil => rfl
  | cons e es ih => exact ih _

end Sys

end Archestra
