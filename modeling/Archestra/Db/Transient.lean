import Archestra.Db.Retry

/-!
# `isTransientDbError` along the cause chain

The model's `isTransientDbError` recurses on the levels of the chain left before `depth > MAX_CAUSE_DEPTH`.  The
source recurses on `depth` itself; `isTransientDbErrorWithin` runs that recursion under a budget of invocations and
answers `none` when the budget runs out before the call returns.

* `isTransientDbErrorWithin_eq`: from `depth`, a budget of `MAX_CAUSE_DEPTH + 2 - depth` invocations (and at least
  one) gives the model's answer, for every value, also when its cause chain is cyclic;
* `go_eq_true_iff`: the levels of the chain the model reads, stated along `c₀ = error`, `cᵢ₊₁ = cᵢ.cause`;
* `isTransientDbError_cause_chain`: from the first call, `isTransientDbError` returns within seven invocations, and
  it returns `true` exactly when, for some `k ≤ MAX_CAUSE_DEPTH`, the links `c₀, ..., cₖ` are `Error`s, those before
  `cₖ` are not transient by themselves and have a truthy cause, and `cₖ` is.
-/

namespace Archestra

section Chain

variable (heap : List ErrorObj)

/-- The `Error` object a thrown value is, if it is one (`error instanceof Error`): an object of the heap, or one
`new Error(message)` created, which has no `code` and no `cause`. -/
def errorObj? : JsValue → Option ErrorObj
  | .error ref => heap[ref]?
  | .newError message => some ⟨none, message, .other false⟩
  | .other _ => none

/-- `error.cause`, `undefined` for a value that is not an `Error`. -/
def causeOf (error : JsValue) : JsValue := (errorObj? heap error).elim (.other false) (·.cause)

/-- The link `cᵢ` of the cause chain: `c₀ = error`, `cᵢ₊₁ = cᵢ.cause`. -/
def causeAt : Nat → JsValue → JsValue
  | 0, error => error
  | i + 1, error => causeAt i (causeOf heap error)

/-- The `Error` object at link `i` of the chain, if that link is one. -/
def errorAt (error : JsValue) (i : Nat) : Option ErrorObj := errorObj? heap (causeAt heap i error)

@[simp] theorem errorAt_zero (error : JsValue) : errorAt heap error 0 = errorObj? heap error := rfl

theorem errorAt_succ (error : JsValue) (i : Nat) : errorAt heap error (i + 1) = errorAt heap (causeOf heap error) i :=
  rfl

theorem errorAt_succ_of_errorObj {error : JsValue} {e : ErrorObj} (h : errorObj? heap error = some e) (i : Nat) :
    errorAt heap error (i + 1) = errorAt heap e.cause i := by
  simp [errorAt_succ, causeOf, h]

/-- One level of the model: a value that is not an `Error` is not transient; an `Error` is transient by its own code
or message, or by its truthy cause one level deeper. -/
theorem go_succ (levels : Nat) (error : JsValue) :
    isTransientDbError.go heap (levels + 1) error =
      match errorObj? heap error with
      | none => false
      | some e => locallyTransient e || (e.cause.truthy && isTransientDbError.go heap levels e.cause) := by
  cases error with
  | error ref => rfl
  | newError message => simp [isTransientDbError.go, errorObj?, locallyTransient, JsValue.truthy]
  | other b => simp [isTransientDbError.go, errorObj?]

/-- The recursion of `isTransientDbError(error, depth)` as the source writes it, each invocation spending one unit of
the budget `calls`; `none` when the budget runs out before the call returns. -/
def isTransientDbErrorWithin : Nat → JsValue → Nat → Option Bool
  | 0, _, _ => none
  | calls + 1, error, depth =>
    match errorObj? heap error with
    | none => some false
    | some e =>
      if depth > MAX_CAUSE_DEPTH then some false
      else if e.code.any fun c => decide (c ∈ TRANSIENT_PG_CODES) then some true
      else if TRANSIENT_ERROR_PATTERNS.any (includes e.message) then some true
      else if e.cause.truthy then isTransientDbErrorWithin calls e.cause (depth + 1)
      else some false

/-- From `depth`, `MAX_CAUSE_DEPTH + 2 - depth` invocations, and at least one, are enough: the source's recursion
returns the model's answer. -/
theorem isTransientDbErrorWithin_eq (calls : Nat) :
    ∀ (error : JsValue) (depth : Nat), MAX_CAUSE_DEPTH + 1 - depth < calls →
      isTransientDbErrorWithin heap calls error depth = some (isTransientDbError heap error depth) := by
  induction calls with
  | zero => intro _ _ h; omega
  | succ calls ih =>
    intro error depth h
    by_cases hd : depth > MAX_CAUSE_DEPTH
    · rw [isTransientDbError_of_lt heap error hd, isTransientDbErrorWithin]
      split <;> simp [hd]
    · have hl : MAX_CAUSE_DEPTH + 1 - depth = MAX_CAUSE_DEPTH - depth + 1 := by omega
      have hl' : MAX_CAUSE_DEPTH + 1 - (depth + 1) = MAX_CAUSE_DEPTH - depth := by omega
      rw [isTransientDbError, hl, go_succ, isTransientDbErrorWithin]
      split
      · rfl
      · rename_i e _
        have hrec := ih e.cause (depth + 1) (by omega)
        rw [isTransientDbError, hl'] at hrec
        simp only [if_neg hd, locallyTransient, Bool.or_assoc]
        cases e.code.any fun c => decide (c ∈ TRANSIENT_PG_CODES) <;>
          cases TRANSIENT_ERROR_PATTERNS.any (includes e.message) <;> cases e.cause.truthy <;> simp [hrec]

/-- The model reads `levels` links of the chain: it answers `true` exactly when, for some `k < levels`, the links
before `cₖ` are `Error`s that are not transient by themselves and have a truthy cause, and `cₖ` is a transient
`Error`. -/
theorem go_eq_true_iff (levels : Nat) :
    ∀ error : JsValue, isTransientDbError.go heap levels error = true ↔
      ∃ k < levels, (∀ j < k, ∃ e, errorAt heap error j = some e ∧ locallyTransient e = false ∧ e.cause.truthy = true) ∧
        ∃ e, errorAt heap error k = some e ∧ locallyTransient e = true := by
  induction levels with
  | zero => intro error; cases error <;> simp [isTransientDbError.go]
  | succ levels ih =>
    intro error
    rw [go_succ]
    cases he : errorObj? heap error with
    | none =>
      simp only [Bool.false_eq_true, false_iff, not_exists, not_and]
      intro k _ hbefore e hk
      cases k with
      | zero => simp [he] at hk
      | succ k => simpa [he] using hbefore 0 (Nat.succ_pos k)
    | some e =>
      simp only [Bool.or_eq_true, Bool.and_eq_true, ih]
      constructor
      · intro h
        by_cases hl : locallyTransient e = true
        · exact ⟨0, Nat.succ_pos _, fun j hj => absurd hj (Nat.not_lt_zero j), e, by simp [he], hl⟩
        · obtain ⟨ht, k, hk, hbefore, hat⟩ := h.resolve_left hl
          refine ⟨k + 1, by omega, fun j hj => ?_, errorAt_succ_of_errorObj heap he k ▸ hat⟩
          cases j with
          | zero => exact ⟨e, by simp [he], by simpa using hl, ht⟩
          | succ j => exact errorAt_succ_of_errorObj heap he j ▸ hbefore j (by omega)
      · rintro ⟨k, hk, hbefore, hat⟩
        cases k with
        | zero =>
          obtain ⟨e', he', hl⟩ := hat
          simp only [errorAt_zero, he, Option.some.injEq] at he'
          exact .inl (he' ▸ hl)
        | succ k =>
          obtain ⟨e', he', -, ht⟩ := hbefore 0 (Nat.succ_pos k)
          simp only [errorAt_zero, he, Option.some.injEq] at he'
          exact .inr ⟨he' ▸ ht, k, by omega, fun j hj => errorAt_succ_of_errorObj heap he j ▸ hbefore (j + 1) (by omega),
            errorAt_succ_of_errorObj heap he k ▸ hat⟩

/-- `isTransientDbError(error)` on every value, its cause chain cyclic or not: the source's recursion returns within
seven invocations, with the model's answer, and the answer is `true` exactly when some link `cₖ`,
`k ≤ MAX_CAUSE_DEPTH`, is a transient `Error` reached through `Error`s that are not transient by themselves and have
a truthy cause. -/
theorem isTransientDbError_cause_chain (error : JsValue) :
    isTransientDbErrorWithin heap 7 error 0 = some (isTransientDbError heap error) ∧
      (isTransientDbError heap error = true ↔
        ∃ k ≤ MAX_CAUSE_DEPTH, (∀ j < k, ∃ e, errorAt heap error j = some e ∧ locallyTransient e = false ∧
            e.cause.truthy = true) ∧
          ∃ e, errorAt heap error k = some e ∧ locallyTransient e = true) :=
  ⟨isTransientDbErrorWithin_eq heap 7 error 0 (by decide),
    (go_eq_true_iff heap _ error).trans (by simp only [Nat.sub_zero, Nat.lt_succ_iff])⟩

/-- An `Error` that is its own cause is read six times, then rejected at depth six. -/
example : isTransientDbErrorWithin [⟨none, "wrapper", .error 0⟩] 7 (.error 0) 0 = some false := by decide

end Chain

end Archestra
