import Archestra.Db.Tables

/-!
# Client code as programs of SQL statements

A model function is translated to a `Prog`: the code between two `await`s of a statement is pure, so a program is a
statement to run together with what the code does with each possible answer.  A scheduler (`Archestra.Sys`) runs
the statements of several clients in any interleaving.  `Conn` is the source's `txOrDb` argument: a statement on
`db` is its own transaction, a statement on `tx` belongs to the surrounding `db.transaction`.
-/

namespace Archestra

/-- The rest of a client's code: it has returned, has thrown, awaits a statement (on its own autocommit
transaction when `auto`), or fires the background `pruneKeysAndValues` of `syncAgentLabels`. -/
inductive Prog (α : Type) where
  | ret (a : α)
  | fail (e : Failure)
  | exec (auto : Bool) (s : Stmt) (k : List Nat → Prog α)
  | firePrune (next : Prog α)

namespace Prog

variable {α β : Type}

/-- Sequencing: run `p`, then `f` on what it returns; a throw skips `f`. -/
def bind : Prog α → (α → Prog β) → Prog β
  | .ret a, f => f a
  | .fail e, _ => .fail e
  | .exec auto s k, f => .exec auto s fun r => (k r).bind f
  | .firePrune next, f => .firePrune (next.bind f)

instance : Monad Prog where
  pure := .ret
  bind := bind

@[simp] theorem pure_eq (a : α) : (pure a : Prog α) = .ret a := rfl

@[simp] theorem bind_eq (p : Prog α) (f : α → Prog β) : p >>= f = p.bind f := rfl

@[simp] theorem ret_bind (a : α) (f : α → Prog β) : (Prog.ret a).bind f = f a := rfl

@[simp] theorem fail_bind (e : Failure) (f : α → Prog β) : (Prog.fail e).bind f = .fail e := rfl

@[simp] theorem exec_bind (auto : Bool) (s : Stmt) (k : List Nat → Prog α) (f : α → Prog β) :
    (Prog.exec auto s k).bind f = .exec auto s fun r => (k r).bind f := rfl

theorem bind_assoc {γ : Type} (p : Prog α) (f : α → Prog β) (g : β → Prog γ) :
    (p.bind f).bind g = p.bind fun a => (f a).bind g := by
  induction p with
  | ret a => rfl
  | fail e => rfl
  | exec auto s k ih => exact congrArg (Prog.exec auto s) (funext ih)
  | firePrune next ih => exact congrArg Prog.firePrune ih

@[simp] theorem map_eq (f : α → β) (p : Prog α) : f <$> p = p.bind fun a => .ret (f a) := rfl

/-- Whether the client has returned or thrown. -/
def finished : Prog α → Bool
  | .ret _ | .fail _ => true
  | _ => false

/-- What the client returned. -/
def result? : Prog α → Option α
  | .ret a => some a
  | _ => none

/-- What the client threw. -/
def failure? : Prog α → Option Failure
  | .fail e => some e
  | _ => none

theorem failure?_eq_none {p : Prog α} (h : ¬∃ e, p = .fail e) : p.failure? = none := by
  cases p with
  | fail e => exact absurd ⟨e, rfl⟩ h
  | _ => rfl

end Prog

/-- Where a statement runs: on the pool `db` (its own transaction) or on the transaction `tx`. -/
inductive Conn where
  | db
  | tx
  deriving DecidableEq, Repr

namespace Conn

/-- Await a statement and its rows. -/
def query (c : Conn) (s : Stmt) : Prog (List Nat) := .exec (c == .db) s .ret

/-- Await a `DELETE`: its scan, then the deletion of the scanned rows; answers the deleted tuple ids. -/
def delete (c : Conn) (scan : Stmt) (del : List Nat → Stmt) : Prog (List Nat) := do
  let tids ← c.query scan
  c.query (del tids)

end Conn

/-- `db.transaction(body)`: the body's statements on `tx`, then `COMMIT`.  A throw in the body rolls the
transaction back; the scheduler does that when a client throws. -/
def transaction {α : Type} (body : Prog α) : Prog α := do
  let r ← body
  let _ ← Conn.tx.query .commit
  pure r

end Archestra
