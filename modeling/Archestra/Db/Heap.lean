import Mathlib.Data.List.Nodup

/-!
# Heap tuples under READ COMMITTED

A table is an append-only heap of tuples.  A tuple records the transaction that inserted it (`xmin`, `none` for a
row committed before any modelled client ran) and the last transaction that deleted it (`xmax`).  Whether a
statement sees a tuple is decided by the commit status of those transactions when the statement runs: under
PostgreSQL's default READ COMMITTED every statement takes a fresh snapshot.

Two views of a tuple are used by the statements of the models:
* `visible`: the statement's snapshot (plain `SELECT`, and the row set a `DELETE` scans);
* `fate`: the check that `INSERT ... ON CONFLICT`, a unique index and a row lock make against the newest version,
  which waits on a transaction still in progress that inserted or is deleting the tuple.
-/

namespace Archestra

/-- Commit status of the transactions: the committed ones in commit order, and the aborted ones. -/
structure TxStatus where
  committed : List Nat
  aborted : List Nat
  deriving DecidableEq, Repr

namespace TxStatus

/-- A transaction that has neither committed nor aborted. -/
def inProgress (st : TxStatus) (u : Nat) : Bool := !(decide (u ∈ st.committed)) && !(decide (u ∈ st.aborted))

/-- Whether the inserting transaction recorded in a tuple has committed (`none`: committed before the run). -/
def insCommitted (st : TxStatus) : Option Nat → Bool
  | none => true
  | some u => decide (u ∈ st.committed)

/-- Commit `t`: it is appended to the commit order (once). -/
def commit (st : TxStatus) (t : Nat) : TxStatus :=
  if t ∈ st.committed then st else { st with committed := st.committed ++ [t] }

/-- Abort `t`, unless it has already committed. -/
def abort (st : TxStatus) (t : Nat) : TxStatus :=
  if t ∈ st.committed then st else { st with aborted := t :: st.aborted }

@[simp] theorem commit_committed_mem (st : TxStatus) (t u : Nat) :
    u ∈ (st.commit t).committed ↔ u ∈ st.committed ∨ u = t := by
  unfold commit; split <;> simp_all [or_iff_left_of_imp]

@[simp] theorem commit_aborted (st : TxStatus) (t : Nat) : (st.commit t).aborted = st.aborted := by
  unfold commit; split <;> rfl

@[simp] theorem abort_committed (st : TxStatus) (t : Nat) : (st.abort t).committed = st.committed := by
  unfold abort; split <;> rfl

theorem abort_aborted_mem (st : TxStatus) (t u : Nat) :
    u ∈ (st.abort t).aborted ↔ u ∈ st.aborted ∨ (u = t ∧ t ∉ st.committed) := by
  unfold abort; split <;> simp_all [or_comm]

end TxStatus

/-- A heap tuple: the row, its tuple id, and the transactions that inserted and deleted it. -/
structure Tuple (α : Type) where
  tid : Nat
  row : α
  xmin : Option Nat
  xmax : Option Nat
  deriving DecidableEq, Repr

/-- What a check against the newest version finds: the tuple is gone, it is live, or its fate waits on a
transaction still in progress. -/
inductive Fate where
  | gone
  | live
  | waitOn (u : Nat)
  deriving DecidableEq, Repr

namespace Tuple

variable {α : Type}

/-- Whether a deleting transaction hides the tuple from `t`: `t` itself, or a committed transaction. -/
def deletedFor (st : TxStatus) (t : Nat) : Option Nat → Bool
  | none => false
  | some u => u == t || decide (u ∈ st.committed)

/-- The tuple is in the snapshot that a statement of transaction `t` takes now. -/
def visible (st : TxStatus) (t : Nat) (x : Tuple α) : Bool :=
  (st.insCommitted x.xmin || x.xmin == some t) && !deletedFor st t x.xmax

/-- The fate of a tuple whose insertion `t` sees, decided by its deleter. -/
def delFate (st : TxStatus) (t : Nat) : Option Nat → Fate
  | none => .live
  | some u => if u = t ∨ u ∈ st.committed then .gone else if st.inProgress u then .waitOn u else .live

/-- The fate of a tuple for a statement of `t` that must not miss a concurrent change. -/
def fate (st : TxStatus) (t : Nat) (x : Tuple α) : Fate :=
  match x.xmin with
  | none => delFate st t x.xmax
  | some u =>
    if u = t ∨ u ∈ st.committed then delFate st t x.xmax
    else if st.inProgress u then .waitOn u
    else .gone

/-- The transaction the check of `x` waits on, if any. -/
def waitsOn (st : TxStatus) (t : Nat) (x : Tuple α) : Option Nat :=
  match fate st t x with
  | .waitOn u => some u
  | _ => none

theorem waitsOn_eq_none_iff {st : TxStatus} {t : Nat} {x : Tuple α} :
    waitsOn st t x = none ↔ fate st t x = .gone ∨ fate st t x = .live := by
  unfold waitsOn; cases fate st t x <;> simp

/-- The tuple is in the committed state of the table: inserted by a committed transaction, not deleted by one. -/
def current (st : TxStatus) (x : Tuple α) : Bool :=
  st.insCommitted x.xmin && !(x.xmax.any fun u => decide (u ∈ st.committed))

/-- A tuple inserted by a committed transaction and never deleted: no statement waits on it. -/
def Settled (st : TxStatus) (x : Tuple α) : Prop := st.insCommitted x.xmin = true ∧ x.xmax = none

theorem Settled.mono {st st' : TxStatus} {x : Tuple α} (h : Settled st x) (hst : ∀ u, u ∈ st.committed → u ∈ st'.committed) :
    Settled st' x := by
  obtain ⟨h1, h2⟩ := h
  refine ⟨?_, h2⟩
  cases hx : x.xmin <;> simp_all [TxStatus.insCommitted]

theorem Settled.current_eq {st : TxStatus} {x : Tuple α} (h : Settled st x) : current st x = true := by
  simp [current, h.1, h.2]

/-- A tuple that `t` sees and finds live with no wait: never deleted, and inserted before the run, by a committed
transaction, or by `t` itself. -/
structure Own (st : TxStatus) (t : Nat) (x : Tuple α) : Prop where
  xmax_eq : x.xmax = none
  xmin_eq : st.insCommitted x.xmin = true ∨ x.xmin = some t

theorem Settled.own {st : TxStatus} {x : Tuple α} (h : Settled st x) (t : Nat) : Own st t x := ⟨h.2, .inl h.1⟩

theorem Own.fate_eq {st : TxStatus} {t : Nat} {x : Tuple α} (h : Own st t x) : fate st t x = .live := by
  obtain ⟨h2, h1⟩ := h
  unfold fate
  cases hx : x.xmin with
  | none => simp [delFate, h2]
  | some u =>
    have hu : u = t ∨ u ∈ st.committed := by
      rw [hx] at h1
      exact h1.elim (fun h => .inr (by simpa [TxStatus.insCommitted] using h)) fun h => .inl (Option.some.inj h)
    simp [hu, delFate, h2]

theorem Own.visible_eq {st : TxStatus} {t : Nat} {x : Tuple α} (h : Own st t x) : visible st t x = true := by
  rcases h.2 with h1 | h1 <;> simp [visible, h1, h.1, deletedFor]

theorem Own.waitsOn_eq {st : TxStatus} {t : Nat} {x : Tuple α} (h : Own st t x) : waitsOn st t x = none := by
  simp [waitsOn, h.fate_eq]

/-- Once `t` has committed, a tuple it saw as its own is in the committed state. -/
theorem Own.current_of_committed {st st' : TxStatus} {t : Nat} {x : Tuple α} (h : Own st t x)
    (hst : ∀ u, u ∈ st.committed → u ∈ st'.committed) (ht : t ∈ st'.committed) : current st' x = true := by
  rcases h.2 with h1 | h1
  · exact (Settled.mono ⟨h1, h.1⟩ hst).current_eq
  · simp [current, TxStatus.insCommitted, h1, h.1, ht]

theorem Settled.fate_eq {st : TxStatus} {x : Tuple α} (h : Settled st x) (t : Nat) : fate st t x = .live :=
  (h.own t).fate_eq

theorem Settled.visible_eq {st : TxStatus} {x : Tuple α} (h : Settled st x) (t : Nat) : visible st t x = true :=
  (h.own t).visible_eq

theorem Settled.waitsOn_eq {st : TxStatus} {x : Tuple α} (h : Settled st x) (t : Nat) : waitsOn st t x = none :=
  (h.own t).waitsOn_eq

/-- A check finds a tuple live only through its deleter: none, or one that is not `t` and has aborted. -/
theorem delFate_of_fate_eq_live {st : TxStatus} {t : Nat} {x : Tuple α} (h : fate st t x = .live) :
    delFate st t x.xmax = .live := by
  unfold fate at h
  split at h
  · exact h
  · split at h
    · exact h
    · split at h <;> cases h

theorem delFate_eq_live {st : TxStatus} {t c : Nat} (h : delFate st t (some c) = .live) :
    c ≠ t ∧ c ∉ st.committed ∧ st.inProgress c = false := by
  simp only [delFate] at h
  split_ifs at h with h1 h2
  simp only [not_or] at h1
  exact ⟨h1.1, h1.2, by simpa using h2⟩

theorem xmax_of_fate_eq_live {st : TxStatus} {t c : Nat} {x : Tuple α} (h : fate st t x = .live)
    (hc : x.xmax = some c) : c ≠ t ∧ c ∉ st.committed ∧ st.inProgress c = false :=
  delFate_eq_live (hc ▸ delFate_of_fate_eq_live h)

theorem delFate_eq_gone {st : TxStatus} {t : Nat} {m : Option Nat} (h : delFate st t m = .gone) :
    ∃ c, m = some c ∧ (c = t ∨ c ∈ st.committed) := by
  cases m with
  | none => cases h
  | some c =>
    simp only [delFate] at h
    split_ifs at h with h1
    exact ⟨c, rfl, h1⟩

end Tuple

/-! ### Statements on one heap -/

namespace Heap

variable {α κ : Type} [DecidableEq κ]

/-- A heap of rows committed before the run, the tuple id of each its position. -/
def ofRows (rs : List α) : List (Tuple α) :=
  rs.enum.map fun (i, r) => { tid := i, row := r, xmin := none, xmax := none }

/-- The rows of a `SELECT ... WHERE p` of transaction `t`, in heap order. -/
def select (st : TxStatus) (t : Nat) (p : α → Bool) (xs : List (Tuple α)) : List α :=
  (xs.filter fun x => x.visible st t && p x.row).map (·.row)

/-- The tuple ids a `DELETE ... WHERE p` of `t` scans: those of its snapshot. -/
def scan (st : TxStatus) (t : Nat) (p : α → Bool) (xs : List (Tuple α)) : List Nat :=
  (xs.filter fun x => x.visible st t && p x.row).map (·.tid)

/-- The first transaction in progress that locking the scanned tuples `tids` waits on. -/
def lockWait (st : TxStatus) (t : Nat) (tids : List Nat) (xs : List (Tuple α)) : Option Nat :=
  xs.findSome? fun x => if x.tid ∈ tids then x.waitsOn st t else none

/-- Whether `t` deletes the tuple when its `DELETE` reaches it: scanned, and still live. -/
def deletes (st : TxStatus) (t : Nat) (tids : List Nat) (x : Tuple α) : Bool :=
  decide (x.tid ∈ tids) && x.fate st t == .live

/-- A `DELETE` of `t` once it holds the locks: the scanned tuples still live get `xmax = t`; those deleted meanwhile
by a committed transaction are skipped. -/
def markDeleted (st : TxStatus) (t : Nat) (tids : List Nat) (xs : List (Tuple α)) : List (Tuple α) :=
  xs.map fun x => if deletes st t tids x then { x with xmax := some t } else x

/-- The first transaction in progress whose row with unique key `k` an insert of `t` waits on. -/
def conflictWait (st : TxStatus) (t : Nat) (key : α → κ) (k : κ) (xs : List (Tuple α)) : Option Nat :=
  xs.findSome? fun x => if key x.row = k then x.waitsOn st t else none

/-- Whether a live tuple holds the unique key `k`, for `t`. -/
def holdsKey (st : TxStatus) (t : Nat) (key : α → κ) (k : κ) (xs : List (Tuple α)) : Bool :=
  xs.any fun x => decide (key x.row = k) && x.fate st t == .live

/-- A new tuple of `t`. -/
def fresh (t tid : Nat) (r : α) : Tuple α := { tid, row := r, xmin := some t, xmax := none }

/-- The rows of a multi-row `INSERT` of `t` into a table with unique key `key`, one tuple id each from `tid` on:
a row whose key is held by a live tuple (also one inserted earlier in the same statement) is a unique violation. -/
def insertRows (st : TxStatus) (t : Nat) (key : α → κ) : Nat → List α → List (Tuple α) → Option (List (Tuple α))
  | _, [], xs => some xs
  | tid, r :: rs, xs =>
    if holdsKey st t key (key r) xs then none else insertRows st t key (tid + 1) rs (xs ++ [fresh t tid r])

/-- The first transaction in progress that a multi-row insert waits on. -/
def insertWait (st : TxStatus) (t : Nat) (key : α → κ) (rs : List α) (xs : List (Tuple α)) : Option Nat :=
  rs.findSome? fun r => conflictWait st t key (key r) xs

/-- The rows of the committed state of the heap. -/
def rows (st : TxStatus) (xs : List (Tuple α)) : List α := (xs.filter (·.current st)).map (·.row)

/-- The tuples of `t` that an insert of `rows` appends, tuple ids from `tid` on. -/
def freshRows (t : Nat) : Nat → List α → List (Tuple α)
  | _, [] => []
  | tid, r :: rs => fresh t tid r :: freshRows t (tid + 1) rs

/-! ### What the statements do to a heap -/

section Effects

variable {st : TxStatus} {t : Nat}

theorem insertRows_eq_some {key : α → κ} :
    ∀ {tid : Nat} {rs : List α} {xs xs' : List (Tuple α)}, insertRows st t key tid rs xs = some xs' →
      xs' = xs ++ freshRows t tid rs
  | _, [], _, _, h => by simpa [insertRows, freshRows] using h.symm
  | tid, r :: rs, xs, xs', h => by
    simp only [insertRows] at h
    split at h
    · cases h
    · rw [insertRows_eq_some h, List.append_assoc]; rfl

theorem mem_freshRows {tid : Nat} {rs : List α} {y : Tuple α} (h : y ∈ freshRows t tid rs) :
    y.xmin = some t ∧ y.xmax = none ∧ tid ≤ y.tid ∧ y.tid < tid + rs.length := by
  induction rs generalizing tid with
  | nil => cases h
  | cons r rs ih =>
    rcases List.mem_cons.1 h with rfl | h
    · exact ⟨rfl, rfl, le_refl _, by simp only [fresh, List.length_cons]; omega⟩
    · obtain ⟨h1, h2, h3, h4⟩ := ih h
      exact ⟨h1, h2, by omega, by simp; omega⟩

theorem freshRows_row (tid : Nat) (rs : List α) : (freshRows t tid rs).map (·.row) = rs := by
  induction rs generalizing tid with
  | nil => rfl
  | cons r rs ih => exact congrArg (r :: ·) (ih _)

theorem freshRows_tid (tid : Nat) (rs : List α) : (freshRows t tid rs).map (·.tid) = List.range' tid rs.length := by
  induction rs generalizing tid with
  | nil => rfl
  | cons r rs ih => exact congrArg (tid :: ·) (ih _)

theorem lockWait_eq_none {tids : List Nat} {xs : List (Tuple α)} (h : lockWait st t tids xs = none) :
    ∀ x ∈ xs, x.tid ∈ tids → x.waitsOn st t = none := by
  intro x hx hmem
  have := List.findSome?_eq_none_iff.1 h x hx
  simpa [hmem] using this

theorem deletes_eq_true {tids : List Nat} {x : Tuple α} :
    deletes st t tids x = true ↔ x.tid ∈ tids ∧ x.fate st t = .live := by
  simp [deletes]

theorem mem_markDeleted {tids : List Nat} {xs : List (Tuple α)} {y : Tuple α} :
    y ∈ markDeleted st t tids xs ↔
      ∃ x ∈ xs, y = if deletes st t tids x then { x with xmax := some t } else x :=
  List.mem_map.trans (exists_congr fun _ => and_congr_right fun _ => eq_comm)

theorem markDeleted_map {β : Type} {tids : List Nat} (f : Tuple α → β)
    (hf : ∀ x : Tuple α, f { x with xmax := some t } = f x) (xs : List (Tuple α)) :
    (markDeleted st t tids xs).map f = xs.map f := by
  simp only [markDeleted, List.map_map]
  exact List.map_congr_left fun x _ => by by_cases hd : deletes st t tids x <;> simp [hd, hf]

/-- A `DELETE` keeps every view of the heap that does not read `xmax`. -/
theorem markDeleted_filter_map {β : Type} {tids : List Nat} (q : Tuple α → Bool) (f : Tuple α → β)
    (hq : ∀ x : Tuple α, q { x with xmax := some t } = q x)
    (hf : ∀ x : Tuple α, f { x with xmax := some t } = f x)
    (xs : List (Tuple α)) : ((markDeleted st t tids xs).filter q).map f = (xs.filter q).map f := by
  induction xs with
  | nil => rfl
  | cons x xs ih =>
    by_cases hd : deletes st t tids x <;> by_cases hx : q x <;>
      simp only [markDeleted, List.map_cons, List.filter_cons, hd, hx, hq, hf, if_true, if_false,
        Bool.false_eq_true] at ih ⊢ <;> simp only [ih]

theorem mem_scan {p : α → Bool} {xs : List (Tuple α)} (hnd : (xs.map (·.tid)).Nodup) {x : Tuple α}
    (hx : x ∈ xs) :
    x.tid ∈ scan st t p xs ↔ x.visible st t = true ∧ p x.row = true := by
  constructor
  · intro h
    obtain ⟨y, hy, hyx⟩ := List.mem_map.1 h
    obtain ⟨hyxs, hyp⟩ := List.mem_filter.1 hy
    rw [List.inj_on_of_nodup_map hnd hyxs hx hyx] at hyp
    simpa using hyp
  · rintro ⟨hv, hp⟩
    exact List.mem_map_of_mem _ (List.mem_filter.2 ⟨hx, by simp [hv, hp]⟩)

theorem fate_fresh (tid : Nat) (r : α) : (fresh t tid r).fate st t = .live := by
  simp [fresh, Tuple.fate, Tuple.delFate]

/-- An insert whose row meets a live tuple holding its key is a unique violation. -/
theorem insertRows_eq_none {key : α → κ} : ∀ {tid : Nat} {rs : List α} {xs : List (Tuple α)},
    (∃ x ∈ xs, x.fate st t = .live ∧ key x.row ∈ rs.map key) → insertRows st t key tid rs xs = none
  | _, [], _, ⟨_, _, _, hk⟩ => by simp at hk
  | tid, r :: rs, xs, ⟨x, hx, hl, hk⟩ => by
    rw [insertRows]
    split_ifs with hhold
    · rfl
    · rcases List.mem_cons.1 (List.map_cons key r rs ▸ hk) with hk | hk
      · exact absurd (List.any_eq_true.2 ⟨x, hx, by simp [hk, hl]⟩) hhold
      · exact insertRows_eq_none ⟨x, List.mem_append_left _ hx, hl, hk⟩

/-- An insert none of whose rows meets a live tuple holding its key appends its rows exactly when their keys are
distinct; otherwise a row meets one inserted before it by the same statement. -/
theorem insertRows_eq {key : α → κ} : ∀ {tid : Nat} {rs : List α} {xs : List (Tuple α)},
    (∀ x ∈ xs, x.fate st t = .live → key x.row ∉ rs.map key) →
      insertRows st t key tid rs xs = if (rs.map key).Nodup then some (xs ++ freshRows t tid rs) else none
  | _, [], _, _ => by simp [insertRows, freshRows]
  | tid, r :: rs, xs, h => by
    have hhold : holdsKey st t key (key r) xs = false := by
      simp only [holdsKey, List.any_eq_false, Bool.and_eq_true, decide_eq_true_eq, beq_iff_eq, not_and]
      exact fun x hx hk hl => h x hx hl (hk ▸ List.mem_map_of_mem key (List.mem_cons_self r rs))
    rw [insertRows, hhold, if_neg Bool.false_ne_true]
    by_cases hr : key r ∈ rs.map key
    · rw [insertRows_eq_none ⟨_, List.mem_append_right _ (List.mem_singleton_self _), fate_fresh tid r, hr⟩]
      simp [hr]
    · rw [insertRows_eq fun x hx hl => ?_]
      · simp [hr, freshRows]
      · rcases List.mem_append.1 hx with hx | hx
        · exact fun hk => h x hx hl (List.mem_cons_of_mem _ hk)
        · obtain rfl := List.mem_singleton.1 hx
          exact hr

theorem insertWait_eq_none {key : α → κ} {rs : List α} {xs : List (Tuple α)}
    (h : ∀ x ∈ xs, x.waitsOn st t = none) : insertWait st t key rs xs = none := by
  simp only [insertWait, conflictWait, List.findSome?_eq_none_iff]
  intro _ _ x hx
  simp [h x hx]

theorem rows_append (xs ys : List (Tuple α)) : rows st (xs ++ ys) = rows st xs ++ rows st ys := by
  simp [rows]

theorem rows_freshRows (ht : t ∈ st.committed) (tid : Nat) (rs : List α) : rows st (freshRows t tid rs) = rs := by
  rw [rows, List.filter_eq_self.2 fun x hx => ?_, freshRows_row]
  obtain ⟨h1, h2, -⟩ := mem_freshRows hx
  simp [Tuple.current, TxStatus.insCommitted, h1, h2, ht]

end Effects

/-! ### A heap a transaction sees as its own rows -/

section Own

variable {st : TxStatus} {t : Nat} {xs : List (Tuple α)}

theorem fresh_own (tid : Nat) (r : α) : (fresh t tid r).Own st t := ⟨rfl, .inr rfl⟩

theorem conflictWait_own (h : ∀ x ∈ xs, x.Own st t) (key : α → κ) (k : κ) : conflictWait st t key k xs = none := by
  simp only [conflictWait, List.findSome?_eq_none_iff]
  intro x hx
  simp [(h x hx).waitsOn_eq]

theorem holdsKey_own (h : ∀ x ∈ xs, x.Own st t) (key : α → κ) (k : κ) :
    holdsKey st t key k xs = xs.any fun x => decide (key x.row = k) := by
  simp only [holdsKey, List.any_eq, decide_eq_decide]
  exact exists_congr fun x => and_congr_right fun hx => by simp [(h x hx).fate_eq]

theorem select_own (h : ∀ x ∈ xs, x.Own st t) (p : α → Bool) : select st t p xs = (xs.map (·.row)).filter p := by
  rw [select, List.filter_map]
  exact congrArg _ (List.filter_congr fun x hx => by simp [(h x hx).visible_eq])

end Own

/-! ### A heap of settled tuples -/

section Settled

variable {st : TxStatus} {t : Nat} {xs : List (Tuple α)}

theorem conflictWait_settled (h : ∀ x ∈ xs, x.Settled st) (key : α → κ) (k : κ) :
    conflictWait st t key k xs = none :=
  conflictWait_own (fun x hx => (h x hx).own t) key k

theorem holdsKey_settled (h : ∀ x ∈ xs, x.Settled st) (key : α → κ) (k : κ) :
    holdsKey st t key k xs = xs.any fun x => decide (key x.row = k) :=
  holdsKey_own (fun x hx => (h x hx).own t) key k

theorem select_settled (h : ∀ x ∈ xs, x.Settled st) (p : α → Bool) :
    select st t p xs = (xs.map (·.row)).filter p :=
  select_own (fun x hx => (h x hx).own t) p

theorem rows_settled (h : ∀ x ∈ xs, x.Settled st) : rows st xs = xs.map (·.row) := by
  rw [rows, List.filter_eq_self.2 fun x hx => (h x hx).current_eq]

theorem lockWait_settled (h : ∀ x ∈ xs, x.Settled st) (tids : List Nat) : lockWait st t tids xs = none := by
  simp only [lockWait, List.findSome?_eq_none_iff]
  intro x hx
  simp [(h x hx).waitsOn_eq t]

/-- On settled tuples with distinct tuple ids, a `DELETE ... WHERE p` deletes exactly the tuples whose row
satisfies `p`. -/
theorem deletes_scan_settled (h : ∀ x ∈ xs, x.Settled st) (hnd : (xs.map (·.tid)).Nodup) (p : α → Bool)
    {x : Tuple α} (hx : x ∈ xs) : deletes st t (scan st t p xs) x = p x.row := by
  rw [Bool.eq_iff_iff, deletes_eq_true, mem_scan hnd hx]
  simp [(h x hx).visible_eq t, (h x hx).fate_eq t]

/-- The same for the whole heap: the `DELETE` marks exactly the tuples whose row satisfies `p`. -/
theorem markDeleted_scan_settled (h : ∀ x ∈ xs, x.Settled st) (hnd : (xs.map (·.tid)).Nodup) (p : α → Bool) :
    markDeleted st t (scan st t p xs) xs = xs.map fun x => if p x.row then { x with xmax := some t } else x :=
  List.map_congr_left fun x hx => by rw [deletes_scan_settled h hnd p hx]

/-- The committed rows of a heap rewritten tuple by tuple, each new tuple keeping its row and being current exactly
when its row passes `q`. -/
theorem rows_map_of_current {f : Tuple α → Tuple α} {q : α → Bool} :
    ∀ {xs : List (Tuple α)}, (∀ x ∈ xs, (f x).row = x.row) → (∀ x ∈ xs, (f x).current st = q x.row) →
      rows st (xs.map f) = (xs.map (·.row)).filter q
  | [], _, _ => rfl
  | x :: xs, hrow, hcur => by
    have ih := rows_map_of_current (fun y hy => hrow y (.tail _ hy)) fun y hy => hcur y (.tail _ hy)
    simp only [rows, List.map_cons, List.filter_cons, hcur x (.head _)] at ih ⊢
    split <;> simp only [List.map_cons, hrow x (.head _), ih]

/-- Once `t` has committed, the committed state of settled tuples of which `t` deleted those whose row satisfies
`p` holds the other rows. -/
theorem rows_deleteWhere (ht : t ∈ st.committed) (h : ∀ x ∈ xs, x.Settled st) (p : α → Bool) :
    rows st (xs.map fun x => if p x.row then { x with xmax := some t } else x) = (xs.map (·.row)).filter (!p ·) :=
  rows_map_of_current (fun x _ => by split <;> rfl) fun x hx => by
    by_cases hp : p x.row
    · simp [hp, Tuple.current, (h x hx).1, ht]
    · simp [hp, (h x hx).current_eq]

/-- A settled tuple that `t` itself has deleted is gone for `t`, and nothing waits on it. -/
theorem fate_deleted_self {x : Tuple α} (h : x.Settled st) : ({ x with xmax := some t } : Tuple α).fate st t = .gone := by
  obtain ⟨h1, -⟩ := h
  unfold Tuple.fate
  cases hx : x.xmin with
  | none => simp [Tuple.delFate]
  | some u => simp_all [TxStatus.insCommitted, Tuple.delFate]

/-- After `t` deleted the settled tuples whose row satisfies `p`, an insert by `t` of rows satisfying `p`, under a
unique key that only rows agreeing on `p` share, waits on nothing, and appends its rows exactly when their keys are
distinct. -/
theorem insert_deleteWhere (h : ∀ x ∈ xs, x.Settled st) {p : α → Bool} {key : α → κ}
    (hkey : ∀ r r', key r = key r' → p r = p r') {rs : List α} (hrs : ∀ r ∈ rs, p r = true) (tid : Nat) :
    insertWait st t key rs (xs.map fun x => if p x.row then { x with xmax := some t } else x) = none ∧
      insertRows st t key tid rs (xs.map fun x => if p x.row then { x with xmax := some t } else x) =
        if (rs.map key).Nodup then
          some ((xs.map fun x => if p x.row then { x with xmax := some t } else x) ++ freshRows t tid rs)
        else none := by
  refine ⟨insertWait_eq_none fun y hy => ?_, insertRows_eq fun y hy hl hk => ?_⟩
  · obtain ⟨x, hx, rfl⟩ := List.mem_map.1 hy
    by_cases hp : p x.row
    · simp [hp, Tuple.waitsOn, fate_deleted_self (h x hx)]
    · simpa [hp] using (h x hx).waitsOn_eq t
  · obtain ⟨x, hx, rfl⟩ := List.mem_map.1 hy
    by_cases hp : p x.row
    · simp [hp, fate_deleted_self (h x hx)] at hl
    · obtain ⟨r, hr, hkr⟩ := List.mem_map.1 hk
      exact hp (by simpa [hp] using (hkey _ _ hkr).symm.trans (hrs r hr))

/-- While `t` has not committed, the committed state of settled tuples of which `t` deleted some holds every row. -/
theorem rows_deleteWhere_of_not_committed (ht : t ∉ st.committed) (h : ∀ x ∈ xs, x.Settled st) (p : α → Bool) :
    rows st (xs.map fun x => if p x.row then { x with xmax := some t } else x) = xs.map (·.row) := by
  rw [← List.filter_true (xs.map (·.row))]
  refine rows_map_of_current (fun x _ => by split <;> rfl) fun x hx => ?_
  by_cases hp : p x.row
  · simp [hp, Tuple.current, (h x hx).1, ht]
  · simp [hp, (h x hx).current_eq]

theorem settled_ofRows (rs : List α) : ∀ x ∈ ofRows rs, x.Settled st := by
  simp only [ofRows, List.mem_map]
  rintro _ ⟨⟨i, r⟩, -, rfl⟩
  exact ⟨rfl, rfl⟩

end Settled

theorem ofRows_tid (rs : List α) : (ofRows rs).map (·.tid) = List.range rs.length := by
  simp [ofRows, Function.comp_def]

theorem nodup_tid_ofRows (rs : List α) : ((ofRows rs).map (·.tid)).Nodup := by
  rw [ofRows_tid]
  exact List.nodup_range _

theorem ofRows_row (rs : List α) : (ofRows rs).map (·.row) = rs := by
  simp [ofRows, Function.comp_def]

theorem mem_ofRows {rs : List α} {x : Tuple α} (hx : x ∈ ofRows rs) :
    x.xmin = none ∧ x.xmax = none ∧ x.tid < rs.length := by
  refine ⟨?_, ?_, List.mem_range.1 (ofRows_tid rs ▸ List.mem_map_of_mem _ hx)⟩ <;>
    · simp only [ofRows, List.mem_map] at hx
      obtain ⟨_, -, rfl⟩ := hx
      rfl

end Heap

end Archestra
