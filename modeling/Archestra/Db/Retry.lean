import Mathlib.Data.Rat.Floor
import Mathlib.Data.List.Infix
import Mathlib.Data.Nat.Find
import Archestra.Js.Object
import Archestra.Js.Number

/-!
# Retrying transient database errors

`isTransientDbError`, `calculateBackoff`, `withDbRetry` and `wrapPoolWithRetry` of the database layer.  A thrown
value is an `Error` object of a heap (so that a `cause` chain may be cyclic), an `Error` the code creates itself, or
any other value.  `fn` is stateful: each call may behave differently, so it is a step function on a state.
`maxRetries` is a finite JavaScript number, here a rational; the loop's `attempt` is a counter that `attempt++` stops
at `2^53` (`jsIncrement`), and the backoff is computed in JavaScript numbers (`JsNumber`).

On a tape of outcomes, `withDbRetry` with `maxRetries = N` calls `fn` up to the first outcome that settles, or
`N + 1` times, settles as that call did, and sleeps a bounded exponential backoff between calls while
`BASE_DELAY_MS * 2 ** attempt` is finite, up to `N = 1018` (`withDbRetry_outcomes`).  From attempt `1018` on it
overflows to `Infinity`, and a jitter sample of `0` makes the delay `NaN` (`calculateBackoff_of_ge`,
`withDbRetry_sleeps_nan`).  With a `maxRetries` that is not an integer, the last retry is taken (`⌊m⌋ < m`) and the
next attempt fails the loop test, so the trailing `throw new Error("withDbRetry: unreachable")` runs exactly when
the first `⌊m⌋ + 1` calls all throw transient errors (`withDbRetry_settle`,
`withDbRetry_half_reaches_unreachable`); with a `maxRetries` beyond `2^53`, where the counter stops, a `fn` that only
throws transient errors is retried for ever (`retryLoop_forever`).  Wrapping a pool is idempotent
(`wrapPoolWithRetry_iterate`).

A promise-style `pool.query` on a wrapped pool reruns the statement after a transient error.  When the error
reaches the client after the server has run the statement, the rerun runs it again
(`pool_query_reruns_executed_statement`): at most `MAX_RETRIES + 1` executions, and at most one more than the
failures delivered after an execution (`pool_query_executions_le`).
-/

namespace Archestra

/-- Total attempts are `MAX_RETRIES + 1`. -/
def MAX_RETRIES : Nat := 3

def BASE_DELAY_MS : ℚ := 100

def MAX_DELAY_MS : ℚ := 2000

def TRANSIENT_PG_CODES : List String := ["08000", "08001", "08003", "08004", "08006", "57P01", "57P02", "57P03"]

def TRANSIENT_ERROR_PATTERNS : List String :=
  ["ECONNREFUSED", "ECONNRESET", "EPIPE", "ETIMEDOUT", "Connection terminated", "timeout expired"]

def MAX_CAUSE_DEPTH : Nat := 5

/-- A thrown JavaScript value. -/
inductive JsValue where
  /-- An `Error` object of the heap. -/
  | error (ref : Nat)
  /-- An `Error` the code creates with `new Error(message)`: no `code`, no `cause`. -/
  | newError (message : String)
  /-- Any value that is not an `Error`, truthy or not. -/
  | other (truthy : Bool)
  deriving DecidableEq, Repr

/-- The fields of an `Error` object that `isTransientDbError` reads; `code` is `none` unless it is a string. -/
structure ErrorObj where
  code : Option String
  message : String
  cause : JsValue
  deriving DecidableEq, Repr

/-- JavaScript truthiness of a `cause`. -/
def JsValue.truthy : JsValue → Bool
  | .error _ | .newError _ => true
  | .other b => b

section Transient

variable (heap : List ErrorObj)

/-- The code or message of an `Error` names a transient failure. -/
def locallyTransient (e : ErrorObj) : Bool :=
  (e.code.any fun c => decide (c ∈ TRANSIENT_PG_CODES)) || TRANSIENT_ERROR_PATTERNS.any (includes e.message)

/-- `isTransientDbError(error, depth)`.  The recursion runs on `levels = MAX_CAUSE_DEPTH + 1 - depth`, the levels of
the cause chain left before `depth > MAX_CAUSE_DEPTH`. -/
def isTransientDbError (error : JsValue) (depth : Nat := 0) : Bool :=
  go (MAX_CAUSE_DEPTH + 1 - depth) error
where
  go : Nat → JsValue → Bool
    | _, .other _ => false
    | 0, _ => false
    | _ + 1, .newError message => TRANSIENT_ERROR_PATTERNS.any (includes message)
    | levels + 1, .error ref =>
      match heap[ref]? with
      | none => false
      | some e => locallyTransient e || (e.cause.truthy && go levels e.cause)

/-- The recursion of the source: an `Error` of the heap within the depth bound is transient by its own code or
message, or by its truthy cause one level deeper. -/
theorem isTransientDbError_error (ref depth : Nat) (h : depth ≤ MAX_CAUSE_DEPTH) :
    isTransientDbError heap (.error ref) depth =
      match heap[ref]? with
      | none => false
      | some e => locallyTransient e || (e.cause.truthy && isTransientDbError heap e.cause (depth + 1)) := by
  have hl : MAX_CAUSE_DEPTH + 1 - depth = MAX_CAUSE_DEPTH - depth + 1 := by omega
  have hl' : MAX_CAUSE_DEPTH + 1 - (depth + 1) = MAX_CAUSE_DEPTH - depth := by omega
  simp only [isTransientDbError, hl, hl', isTransientDbError.go]

theorem isTransientDbError_of_lt (error : JsValue) {depth : Nat} (h : MAX_CAUSE_DEPTH < depth) :
    isTransientDbError heap error depth = false := by
  have h0 : MAX_CAUSE_DEPTH + 1 - depth = 0 := by omega
  cases error <;> simp only [isTransientDbError, h0, isTransientDbError.go]

end Transient

/-- `calculateBackoff(attempt)` with `Math.random()` returning `random`. -/
def calculateBackoff (attempt : Nat) (random : ℚ) : JsNumber :=
  let exponentialDelay := (JsNumber.finite BASE_DELAY_MS).mul (.ofRat (2 ^ attempt))
  let jitter := ((JsNumber.finite random).mul (.finite (1 / 4))).mul exponentialDelay
  (exponentialDelay.add jitter).min (.finite MAX_DELAY_MS)

/-- How `withDbRetry` settles: with `fn`'s value, rethrowing what `fn` threw, or by the trailing
`throw new Error("withDbRetry: unreachable")`; or it has not settled when the model's fuel runs out. -/
inductive Settle (α : Type) where
  | resolved (v : α)
  | rethrown (e : JsValue)
  | unreachable
  | running
  deriving DecidableEq, Repr

/-- A run of `withDbRetry`: the calls of `fn`, the delays slept, how it settled, and `fn`'s final state. -/
structure RetryRun (σ α : Type) where
  calls : Nat
  delays : List JsNumber
  settle : Settle α
  state : σ

section Loop

variable {σ α : Type} (heap : List ErrorObj) (fn : σ → Except JsValue α × σ) (maxRetries : ℚ) (random : Nat → ℚ)

/-- The `for` loop of `withDbRetry` from `attempt` on; `fuel` bounds the iterations left.  `withDbRetry` gives enough
that it never runs out before `attempt > maxRetries` while `maxRetries ≤ 2^53`; beyond, the counter may stop below
`maxRetries` and the loop not end (`retryLoop_forever`). -/
def retryLoop : Nat → Nat → σ → RetryRun σ α
  | 0, _, s => ⟨0, [], .running, s⟩
  | fuel + 1, attempt, s =>
    if (attempt : ℚ) ≤ maxRetries then
      match fn s with
      | (.ok v, s') => ⟨1, [], .resolved v, s'⟩
      | (.error e, s') =>
        if isTransientDbError heap e && decide ((attempt : ℚ) < maxRetries) then
          let r := retryLoop fuel (jsIncrement attempt) s'
          ⟨r.calls + 1, calculateBackoff attempt (random attempt) :: r.delays, r.settle, r.state⟩
        else ⟨1, [], .rethrown e, s'⟩
    else ⟨0, [], .unreachable, s⟩

/-- `withDbRetry(fn, { maxRetries })`, `options?.maxRetries ?? MAX_RETRIES`. -/
def withDbRetry (options : Option ℚ) (s : σ) : RetryRun σ α :=
  let maxRetries := options.getD MAX_RETRIES
  retryLoop heap fn maxRetries random (⌊maxRetries⌋₊ + 2) 0 s

end Loop

/-! ### A run of `withDbRetry` on a sequence of outcomes -/

section Run

variable {α : Type} (heap : List ErrorObj) (random : Nat → ℚ)

/-- A throw that `isTransientDbError` accepts: the outcomes after which `withDbRetry` retries while budget is left. -/
def transientThrow : Except JsValue α → Bool
  | .error e => isTransientDbError heap e
  | .ok _ => false

/-- How `withDbRetry` settles when its last call of `fn` had outcome `o`: it resolves with the value or rethrows the
same object. -/
def Settle.ofOutcome : Except JsValue α → Settle α
  | .ok v => .resolved v
  | .error e => .rethrown e

theorem Settle.ofOutcome_ne_unreachable (o : Except JsValue α) : Settle.ofOutcome o ≠ .unreachable := by
  cases o <;> simp [Settle.ofOutcome]

theorem Settle.ofOutcome_ne_running (o : Except JsValue α) : Settle.ofOutcome o ≠ .running := by
  cases o <;> simp [Settle.ofOutcome]

/-- `fn` reads a tape of outcomes: call `n` has outcome `outcomes n`.  From attempt `k` at tape position `k`, let `j`
be the first position from `k` on whose outcome settles, or `N` if none up to `N` does: the loop calls `fn` at
`k, ..., j`, sleeps the backoffs of attempts `k, ..., j - 1` and settles as `outcomes j` did. -/
theorem retryLoop_tape (N : Nat) (hN : N ≤ MAX_SAFE_INTEGER + 1) (outcomes : Nat → Except JsValue α) {k j fuel : Nat}
    (hkj : k ≤ j) (hjN : j ≤ N) (hfuel : N + 1 ≤ k + fuel) (htr : ∀ i, k ≤ i → i < j → transientThrow heap (outcomes i))
    (hstop : transientThrow heap (outcomes j) = false ∨ j = N) :
    retryLoop heap (fun n => (outcomes n, n + 1)) N random fuel k k =
      ⟨j + 1 - k, (List.range' k (j - k)).map (fun a => calculateBackoff a (random a)),
        Settle.ofOutcome (outcomes j), j + 1⟩ := by
  induction fuel generalizing k with
  | zero => omega
  | succ fuel ih =>
    have hkN : (k : ℚ) ≤ N := by exact_mod_cast hkj.trans hjN
    rw [retryLoop, if_pos hkN]
    rcases hkj.lt_or_eq with hlt | rfl
    · -- a transient throw before `j`: sleep, then retry
      have ht := htr k le_rfl hlt
      cases ho : outcomes k with
      | ok v => simp [transientThrow, ho] at ht
      | error e =>
        have hkN' : (k : ℚ) < N := by exact_mod_cast hlt.trans_le hjN
        simp only [transientThrow, ho] at ht
        simp only [ho, ht, hkN', decide_True, Bool.and_true, if_true]
        rw [jsIncrement_of_le (by omega), @ih (k + 1) hlt (by omega) (fun i hi hij => htr i (by omega) hij)]
        obtain ⟨d, hd⟩ : ∃ d, j - k = d + 1 := ⟨j - k - 1, by omega⟩
        simp only [RetryRun.mk.injEq, hd, List.range'_succ, List.map_cons, show j - (k + 1) = d by omega, and_true]
        omega
    · -- `j` settles
      cases ho : outcomes k with
      | ok v => simp [ho, Settle.ofOutcome]
      | error e =>
        have hno : (isTransientDbError heap e && decide ((k : ℚ) < N)) = false := by
          rcases hstop with h | rfl
          · simp only [transientThrow, ho] at h
            simp [h]
          · simp
        simp only [ho, hno, Bool.false_eq_true, if_false]
        simp [Settle.ofOutcome]

/-- `withDbRetry` with `maxRetries = N` on a tape of outcomes, from its first call: the loop of `retryLoop_tape`
from attempt `0`. -/
theorem withDbRetry_tape {N : Nat} (hN53 : N ≤ MAX_SAFE_INTEGER + 1) {options : Option ℚ}
    (hN : options.getD MAX_RETRIES = N)
    (outcomes : Nat → Except JsValue α) {j : Nat} (hjN : j ≤ N) (htr : ∀ i < j, transientThrow heap (outcomes i))
    (hstop : transientThrow heap (outcomes j) = false ∨ j = N) :
    withDbRetry heap (fun n => (outcomes n, n + 1)) random options 0 =
      ⟨j + 1, (List.range j).map (fun a => calculateBackoff a (random a)), Settle.ofOutcome (outcomes j), j + 1⟩ := by
  simp only [withDbRetry, hN, Nat.floor_natCast]
  rw [retryLoop_tape heap random N hN53 outcomes (Nat.zero_le j) hjN (by omega) (fun i _ hi => htr i hi) hstop,
    List.range_eq_range']
  rfl

/-- With any `maxRetries = m ≥ 0`, from an attempt `k ≤ ⌊m⌋` at tape position `k`: the loop leaves by its end, to the
trailing `throw`, exactly when `m` is not an integer and the calls `k, ..., ⌊m⌋` all throw transient errors (the
last of them retried since `⌊m⌋ < m`, the next attempt failing `attempt <= maxRetries`); otherwise it settles as one
of those calls did. -/
theorem retryLoop_settle (m : ℚ) (hm : 0 ≤ m) (h53 : m ≤ ((MAX_SAFE_INTEGER + 1 : Nat) : ℚ))
    (outcomes : Nat → Except JsValue α) {k fuel : Nat} (hk : k ≤ ⌊m⌋₊) (hfuel : ⌊m⌋₊ + 2 ≤ k + fuel) :
    let s := (retryLoop heap (fun n => (outcomes n, n + 1)) m random fuel k k).settle
    (s = .unreachable ↔ (⌊m⌋₊ : ℚ) < m ∧ ∀ i, k ≤ i → i ≤ ⌊m⌋₊ → transientThrow heap (outcomes i)) ∧
      (s = .unreachable ∨ ∃ i, k ≤ i ∧ i ≤ ⌊m⌋₊ ∧ s = Settle.ofOutcome (outcomes i)) := by
  induction fuel generalizing k with
  | zero => omega
  | succ fuel ih =>
    have hkm : (k : ℚ) ≤ m := (Nat.le_floor_iff hm).1 hk
    -- the outcome of call `k` settles the loop when it is a value or a throw that is not retried
    have hsettle : ∀ s : Settle α, s = Settle.ofOutcome (outcomes k) → (¬transientThrow heap (outcomes k) ∨
        ¬(⌊m⌋₊ : ℚ) < m ∧ k = ⌊m⌋₊) →
        (s = .unreachable ↔ (⌊m⌋₊ : ℚ) < m ∧ ∀ i, k ≤ i → i ≤ ⌊m⌋₊ → transientThrow heap (outcomes i)) ∧
          (s = .unreachable ∨ ∃ i, k ≤ i ∧ i ≤ ⌊m⌋₊ ∧ s = Settle.ofOutcome (outcomes i)) := by
      rintro s rfl hno
      refine ⟨⟨fun h => absurd h (Settle.ofOutcome_ne_unreachable _), fun ⟨hlt, hall⟩ => ?_⟩, .inr ⟨k, le_rfl, hk, rfl⟩⟩
      rcases hno with hno | ⟨hno, -⟩
      · exact absurd (hall k le_rfl hk) hno
      · exact absurd hlt hno
    dsimp only
    rw [retryLoop, if_pos hkm]
    cases ho : outcomes k with
    | ok v => exact hsettle (.resolved v) (by rw [ho]; rfl) (.inl (by simp [transientThrow, ho]))
    | error e =>
      have ht : transientThrow heap (outcomes k) = isTransientDbError heap e := by rw [ho]; rfl
      by_cases hre : (isTransientDbError heap e && decide ((k : ℚ) < m)) = true
      · simp only [hre, if_true]
        obtain ⟨hte, hlt⟩ : isTransientDbError heap e = true ∧ (k : ℚ) < m := by simpa using hre
        rw [jsIncrement_of_le (Nat.lt_succ_iff.1 (by exact_mod_cast hlt.trans_le h53))]
        rcases hk.lt_or_eq with hk' | rfl
        · -- a retry with attempts left before `⌊m⌋`
          obtain ⟨h1, h2⟩ := ih hk' (by omega)
          refine ⟨h1.trans (and_congr_right fun _ => ⟨fun h i hi => ?_, fun h i hi => h i (by omega)⟩), ?_⟩
          · rcases hi.lt_or_eq with hi | rfl
            · exact h i hi
            · exact fun _ => ht ▸ hte
          · exact h2.imp_right fun ⟨i, hi, hi', hs⟩ => ⟨i, by omega, hi', hs⟩
        · -- the last retry: attempt `⌊m⌋ + 1` fails the loop test
          obtain ⟨fuel, rfl⟩ : ∃ f, fuel = f + 1 := ⟨fuel - 1, by omega⟩
          have hout : ¬((⌊m⌋₊ + 1 : Nat) : ℚ) ≤ m := by
            push_cast
            exact not_le.2 (Nat.lt_floor_add_one m)
          simp only [retryLoop, if_neg hout, true_or, true_iff, and_true]
          exact ⟨hlt, fun i hi hi' => by obtain rfl := le_antisymm hi' hi; exact ht ▸ hte⟩
      · simp only [Bool.not_eq_true] at hre
        simp only [hre, Bool.false_eq_true, if_false]
        refine hsettle (.rethrown e) (by rw [ho]; rfl) ?_
        by_cases hte : isTransientDbError heap e = true
        · have hlt : ¬(k : ℚ) < m := by simpa [hte] using hre
          have hkN : k = ⌊m⌋₊ := le_antisymm hk (Nat.floor_le_of_le (not_lt.1 hlt))
          exact .inr ⟨hkN ▸ hlt, hkN⟩
        · exact .inl (ht ▸ hte)

/-- With `maxRetries` beyond `2^53` and a `fn` that only throws transient errors, the counter stops at `2^53`, below
`maxRetries`, and the loop retries for ever: whatever the fuel, it calls `fn` once per iteration and has not
settled. -/
theorem retryLoop_forever (m : ℚ) (hm : ((MAX_SAFE_INTEGER + 1 : Nat) : ℚ) < m) (outcomes : Nat → Except JsValue α)
    (htr : ∀ i, transientThrow heap (outcomes i)) (fuel : Nat) :
    ∀ attempt n, attempt ≤ MAX_SAFE_INTEGER + 1 →
      (retryLoop heap (fun n => (outcomes n, n + 1)) m random fuel attempt n).calls = fuel ∧
        (retryLoop heap (fun n => (outcomes n, n + 1)) m random fuel attempt n).settle = .running := by
  induction fuel with
  | zero => exact fun _ _ _ => ⟨rfl, rfl⟩
  | succ fuel ih =>
    intro attempt n ha
    have hlt : (attempt : ℚ) < m := lt_of_le_of_lt (by exact_mod_cast ha) hm
    have ht := htr n
    rw [retryLoop, if_pos hlt.le]
    cases ho : outcomes n with
    | ok v => simp [transientThrow, ho] at ht
    | error e =>
      simp only [transientThrow, ho] at ht
      simp only [ht, hlt, decide_True, Bool.and_true, if_true]
      obtain ⟨hc, hs⟩ := ih (jsIncrement attempt) (n + 1) (jsIncrement_le ha)
      exact ⟨congrArg (· + 1) hc, hs⟩

/-- `withDbRetry(fn, { maxRetries: m })` for every finite `m ≥ 0`, integer or not, on every sequence of outcomes of
`fn`.  Up to `m = 2^53` it ends in the trailing `throw new Error("withDbRetry: unreachable")` exactly when `m` is not
an integer and the calls `0, ..., ⌊m⌋` all throw errors that `isTransientDbError` accepts, and every other run settles
as one of those calls did, with its value or rethrowing its error.  Beyond `2^53`, where `attempt++` stops, a `fn`
that only throws transient errors is called for ever. -/
theorem withDbRetry_settle (m : ℚ) (hm : 0 ≤ m) (outcomes : Nat → Except JsValue α) :
    let s := (withDbRetry heap (fun n => (outcomes n, n + 1)) random (some m) 0).settle
    (m ≤ ((MAX_SAFE_INTEGER + 1 : Nat) : ℚ) →
      (s = .unreachable ↔ (⌊m⌋₊ : ℚ) < m ∧ ∀ i ≤ ⌊m⌋₊, transientThrow heap (outcomes i)) ∧
        (s ≠ .unreachable → ∃ i ≤ ⌊m⌋₊, s = Settle.ofOutcome (outcomes i))) ∧
      (((MAX_SAFE_INTEGER + 1 : Nat) : ℚ) < m → (∀ i, transientThrow heap (outcomes i)) →
        ∀ fuel, (retryLoop heap (fun n => (outcomes n, n + 1)) m random fuel 0 0).calls = fuel ∧
          (retryLoop heap (fun n => (outcomes n, n + 1)) m random fuel 0 0).settle = .running) := by
  refine ⟨fun h53 => ?_, fun h53 htr fuel => retryLoop_forever heap random m h53 outcomes htr fuel 0 0 (Nat.zero_le _)⟩
  obtain ⟨h1, h2⟩ := retryLoop_settle heap random m hm h53 outcomes (Nat.zero_le _)
    (show ⌊m⌋₊ + 2 ≤ 0 + (⌊m⌋₊ + 2) by omega)
  exact ⟨h1.trans (by simp only [Nat.zero_le, true_implies]), fun hne => by simpa using h2.resolve_left hne⟩

/-- `maxRetries: 0.5` and a `fn` that always throws `Connection terminated`: the retry is taken. -/
theorem withDbRetry_settle_half :
    (0 : ℚ) ≤ 1 / 2 ∧
      let s := (withDbRetry [] (fun n => ((.error (.newError "Connection terminated") : Except JsValue Unit), n + 1))
        (fun _ => 0) (some (1 / 2)) 0).settle
      ((1 / 2 : ℚ) ≤ ((MAX_SAFE_INTEGER + 1 : Nat) : ℚ) →
        (s = .unreachable ↔ ((⌊(1 / 2 : ℚ)⌋₊ : Nat) : ℚ) < 1 / 2 ∧
            ∀ i ≤ ⌊(1 / 2 : ℚ)⌋₊, transientThrow [] (.error (.newError "Connection terminated") : Except JsValue Unit)) ∧
          (s ≠ .unreachable → ∃ i ≤ ⌊(1 / 2 : ℚ)⌋₊,
            s = Settle.ofOutcome (.error (.newError "Connection terminated") : Except JsValue Unit))) ∧
        (((MAX_SAFE_INTEGER + 1 : Nat) : ℚ) < 1 / 2 →
          (∀ _ : Nat, transientThrow [] (.error (.newError "Connection terminated") : Except JsValue Unit)) →
          ∀ fuel, (retryLoop [] (fun n => ((.error (.newError "Connection terminated") : Except JsValue Unit), n + 1))
              (1 / 2) (fun _ => 0) fuel 0 0).calls = fuel ∧
            (retryLoop [] (fun n => ((.error (.newError "Connection terminated") : Except JsValue Unit), n + 1))
              (1 / 2) (fun _ => 0) fuel 0 0).settle = .running) :=
  ⟨by norm_num, withDbRetry_settle [] (fun _ => 0) (1 / 2) (by norm_num) fun _ => .error (.newError "Connection terminated")⟩

/-- With `maxRetries: 0.5`, a `fn` that always throws `Connection terminated unexpectedly` is called once: `0 < 0.5`
lets the loop sleep and retry, and the next attempt fails `1 <= 0.5`, so the run ends in the trailing
`throw new Error("withDbRetry: unreachable")`, not in a rethrow of `fn`'s error. -/
theorem withDbRetry_half_reaches_unreachable :
    (withDbRetry [] (fun n => ((.error (.newError "Connection terminated unexpectedly") : Except JsValue Unit), n + 1))
        (fun _ => 0) (some (1 / 2)) 0).calls = 1 ∧
      (withDbRetry [] (fun n => ((.error (.newError "Connection terminated unexpectedly") : Except JsValue Unit), n + 1))
        (fun _ => 0) (some (1 / 2)) 0).settle = .unreachable := by
  have hfloor : ⌊(1 / 2 : ℚ)⌋₊ = 0 := Nat.floor_eq_zero.2 (by norm_num)
  have htr : isTransientDbError [] (.newError "Connection terminated unexpectedly") = true := by decide
  norm_num [withDbRetry, retryLoop, hfloor, htr, jsIncrement, MAX_SAFE_INTEGER]

end Run

/-! ### The pool -/

/-- What the pool's own `query` does on one call: resolve, or reject with `e` before the server ran the statement
or after it ran and committed it. -/
inductive Attempt (α : Type) where
  | done (v : α)
  | failBefore (e : JsValue)
  | failAfter (e : JsValue)
  deriving DecidableEq, Repr

namespace Attempt

variable {α : Type}

/-- What the caller of the pool's `query` sees. -/
def outcome : Attempt α → Except JsValue α
  | .done v => .ok v
  | .failBefore e | .failAfter e => .error e

/-- Whether the server ran the statement. -/
def executed : Attempt α → Bool
  | .done _ | .failAfter _ => true
  | .failBefore _ => false

/-- Whether the failure came after the server ran the statement. -/
def lateFailure : Attempt α → Bool
  | .failAfter _ => true
  | _ => false

end Attempt

/-- An argument of `pool.query`: a callback or any other value. -/
inductive Arg where
  | callback
  | value
  deriving DecidableEq, Repr

/-- The query function of a pool: the original one, or the retrying function `wrapPoolWithRetry` installs around a
query function. -/
inductive Query where
  | original
  | retrying (inner : Query)
  deriving DecidableEq, Repr

/-- A pool as `wrapPoolWithRetry` sees it: its `query` and the `RETRY_WRAPPED` marker. -/
structure Pool where
  query : Query
  retryWrapped : Bool
  deriving DecidableEq, Repr

def wrapPoolWithRetry (pool : Pool) : Pool :=
  if pool.retryWrapped then pool else ⟨.retrying pool.query, true⟩

section Call

variable {α : Type} (heap : List ErrorObj) (random : Nat → ℚ) (attempts : Nat → Attempt α)

/-- A call `query(...args)` whose calls of the original query are calls `n, n + 1, ...` of the pool: the settled
result and the index of the next call.  A retrying query passes a callback-style call through and wraps a
promise-style one in `withDbRetry` with the default options, under which the loop always settles within its fuel
(`withDbRetry_tape`). -/
def Query.call (args : List Arg) : Query → Nat → Except JsValue α × Nat
  | .original, n => ((attempts n).outcome, n + 1)
  | .retrying inner, n =>
    if args.getLast? = some .callback then inner.call args n
    else
      let r := withDbRetry heap (inner.call args) random none n
      match r.settle with
      | .resolved v => (.ok v, r.state)
      | .rethrown e => (.error e, r.state)
      | .unreachable | .running => (.error (.newError "withDbRetry: unreachable"), r.state)

/-- The number of executions of the statement among the `n` calls of the original query from call `start` on. -/
def executions (start n : Nat) : Nat := ((List.range' start n).filter fun a => (attempts a).executed).length

/-- The number of failures delivered after an execution among the `n` calls from call `start` on. -/
def lateFailures (start n : Nat) : Nat := ((List.range' start n).filter fun a => (attempts a).lateFailure).length

end Call

/-! ### How often a wrapped pool runs a statement -/

section Bounds

variable {σ α : Type} (heap : List ErrorObj) (maxRetries : ℚ) (random : Nat → ℚ)

/-- The loop calls `fn` at most once per attempt number `attempt, ..., ⌊maxRetries⌋₊`. -/
theorem retryLoop_calls_le (h53 : maxRetries ≤ ((MAX_SAFE_INTEGER + 1 : Nat) : ℚ)) (fn : σ → Except JsValue α × σ)
    (fuel attempt : Nat) (s : σ) :
    (retryLoop heap fn maxRetries random fuel attempt s).calls ≤ ⌊maxRetries⌋₊ + 1 - attempt := by
  induction fuel generalizing attempt s with
  | zero => simp [retryLoop]
  | succ fuel ih =>
    rw [retryLoop]
    split_ifs with hle
    · have ha : attempt ≤ ⌊maxRetries⌋₊ := Nat.le_floor hle
      split
      · dsimp only; omega
      · split
        · next hre =>
          simp only [Bool.and_eq_true, decide_eq_true_eq] at hre
          rw [jsIncrement_of_le (Nat.lt_succ_iff.1 (by exact_mod_cast hre.2.trans_le h53))]
          have := ih (attempt + 1) ‹_›; dsimp only; omega
        · dsimp only; omega
    · exact Nat.zero_le _

variable (attempts : Nat → Attempt α) (args : List Arg)

@[simp] theorem original_call (n : Nat) :
    Query.original.call heap random attempts args n = ((attempts n).outcome, n + 1) := rfl

theorem executed_eq_lateFailure {a : Attempt α} {e : JsValue} (h : a.outcome = .error e) :
    a.executed = a.lateFailure := by
  cases a <;> simp_all [Attempt.outcome, Attempt.executed, Attempt.lateFailure]

/-- Retrying the original query: the calls are consecutive, and every call but the last one failed, so each
execution but the last one was delivered as a failure. -/
theorem retryLoop_original (fuel attempt s : Nat) :
    let r := retryLoop heap (Query.original.call heap random attempts args) maxRetries random fuel attempt s
    r.state = s + r.calls ∧ executions attempts s r.calls ≤ 1 + lateFailures attempts s r.calls := by
  induction fuel generalizing attempt s with
  | zero => simp [retryLoop, executions, lateFailures]
  | succ fuel ih =>
    rw [retryLoop]
    split_ifs
    · simp only [original_call]
      cases hout : (attempts s).outcome with
      | ok v =>
        have hx : (attempts s).lateFailure = false := by
          cases h : attempts s <;> rw [h] at hout <;> first | rfl | cases hout
        simp only [executions, lateFailures, List.range'_one, List.filter_singleton, hx]
        exact ⟨trivial, by cases (attempts s).executed <;> simp⟩
      | error e =>
        have hl := executed_eq_lateFailure hout
        dsimp only
        split
        · obtain ⟨hs, hc⟩ := ih (jsIncrement attempt) (s + 1)
          refine ⟨by dsimp only at hs ⊢; omega, ?_⟩
          simp only [executions, lateFailures, List.range'_succ, List.filter_cons, hl] at hc ⊢
          cases (attempts s).lateFailure <;> simp only [List.length_cons, Bool.false_eq_true, if_true, if_false] <;> omega
        · simp only [executions, lateFailures, List.range'_one, List.filter_singleton, hl]
          exact ⟨trivial, by cases (attempts s).lateFailure <;> simp⟩
    · simp [executions, lateFailures]

theorem executions_one_le (n : Nat) : executions attempts n 1 ≤ 1 + lateFailures attempts n 1 :=
  (List.length_filter_le _ _).trans (by simp)

/-- The index after a call of a retrying query: one call when it passes the call through, the calls of `withDbRetry`
otherwise. -/
theorem retrying_call_snd (inner : Query) (n : Nat) :
    (Query.call heap random attempts args (.retrying inner) n).2 =
      if args.getLast? = some .callback then (Query.call heap random attempts args inner n).2
      else (withDbRetry heap (Query.call heap random attempts args inner) random none n).state := by
  simp only [Query.call]
  split
  · rfl
  · split <;> rfl

end Bounds

/-- A `pool.query(...args)` on a pool wrapped around its original query runs the statement at most
`MAX_RETRIES + 1` times, and every execution but one was reported to the client as a failure after it ran. -/
theorem pool_query_executions_le (pool : Pool) (hpool : pool.query = .original) (heap : List ErrorObj)
    (random : Nat → ℚ) {α : Type} (attempts : Nat → Attempt α) (args : List Arg) :
    let calls := (Query.call heap random attempts args (wrapPoolWithRetry pool).query 0).2
    calls ≤ MAX_RETRIES + 1 ∧ executions attempts 0 calls ≤ 1 + lateFailures attempts 0 calls := by
  obtain ⟨_, wrapped⟩ := pool
  subst hpool
  dsimp only
  generalize hc : (Query.call heap random attempts args (wrapPoolWithRetry ⟨.original, wrapped⟩).query 0).2 = calls
  cases wrapped with
  | true => subst hc; exact ⟨Nat.le_add_left 1 _, executions_one_le attempts 0⟩
  | false =>
    rw [show (wrapPoolWithRetry ⟨.original, false⟩).query = .retrying .original from rfl, retrying_call_snd] at hc
    split at hc
    · subst hc; exact ⟨Nat.le_add_left 1 _, executions_one_le attempts 0⟩
    · have hmax : ⌊((MAX_RETRIES : Nat) : ℚ)⌋₊ = MAX_RETRIES := Nat.floor_natCast _
      obtain ⟨hs, hb⟩ := retryLoop_original heap ((MAX_RETRIES : Nat) : ℚ) random attempts args
        (⌊((MAX_RETRIES : Nat) : ℚ)⌋₊ + 2) 0 0
      have hle := retryLoop_calls_le heap ((MAX_RETRIES : Nat) : ℚ) random
        (by norm_num [MAX_RETRIES, MAX_SAFE_INTEGER]) (Query.call heap random attempts args .original) (⌊((MAX_RETRIES : Nat) : ℚ)⌋₊ + 2) 0 0
      simp only [withDbRetry, Option.getD_none, zero_add] at hc hs
      rw [hc] at hs
      rw [hs]
      exact ⟨by omega, hb⟩

theorem pool_query_executions_le_after_reset :
    (⟨.original, false⟩ : Pool).query = .original ∧
      let attempts : Nat → Attempt Nat := fun n => if n = 0 then .failAfter (.error 0) else .done 7
      let calls := (Query.call [⟨none, "read ECONNRESET", .other false⟩] (fun _ => 0) attempts [.value]
        (wrapPoolWithRetry ⟨.original, false⟩).query 0).2
      calls ≤ MAX_RETRIES + 1 ∧ executions attempts 0 calls ≤ 1 + lateFailures attempts 0 calls :=
  ⟨rfl, pool_query_executions_le ⟨.original, false⟩ rfl _ _ _ _⟩

/-- The first attempt runs the statement, but the connection drops before the reply (`read ECONNRESET`): the retry
runs it a second time. -/
theorem pool_query_reruns_executed_statement :
    let attempts : Nat → Attempt Nat := fun n => if n = 0 then .failAfter (.error 0) else .done 7
    let r := Query.call [⟨none, "read ECONNRESET", .other false⟩] (fun _ => 0) attempts [.value]
      (wrapPoolWithRetry ⟨.original, false⟩).query 0
    r.1.toOption = some 7 ∧ r.2 = 2 ∧ executions attempts 0 2 = 2 := by
  decide

/-- Wrapping a pool any number of times wraps it once.  Its `query` passes a callback-style call to the original
query once; a promise-style call is `withDbRetry` of the original call with the same arguments and the default
options: it calls the original query `j + 1 ≤ MAX_RETRIES + 1` times, `j` the first call that settles or the last one
allowed, and returns that call's outcome. -/
theorem wrapPoolWithRetry_iterate (k : Nat) (heap : List ErrorObj) (random : Nat → ℚ) {α : Type}
    (attempts : Nat → Attempt α) (args : List Arg) :
    wrapPoolWithRetry^[k + 1] ⟨.original, false⟩ = wrapPoolWithRetry ⟨.original, false⟩ ∧
    (args.getLast? = some .callback →
      Query.call heap random attempts args (wrapPoolWithRetry^[k + 1] ⟨.original, false⟩).query 0 =
        ((attempts 0).outcome, 1)) ∧
    (args.getLast? ≠ some .callback →
      ∃ j ≤ MAX_RETRIES, (∀ i < j, transientThrow heap (attempts i).outcome) ∧
        (transientThrow heap (attempts j).outcome = false ∨ j = MAX_RETRIES) ∧
        withDbRetry heap (Query.original.call heap random attempts args) random none 0 =
          ⟨j + 1, (List.range j).map (fun a => calculateBackoff a (random a)), Settle.ofOutcome (attempts j).outcome,
            j + 1⟩ ∧
        Query.call heap random attempts args (wrapPoolWithRetry^[k + 1] ⟨.original, false⟩).query 0 =
          ((attempts j).outcome, j + 1)) := by
  have hwrap : wrapPoolWithRetry^[k + 1] ⟨.original, false⟩ = wrapPoolWithRetry ⟨.original, false⟩ := by
    rw [Function.iterate_succ_apply]
    exact Function.iterate_fixed rfl k
  refine ⟨hwrap, fun hcb => by simp [hwrap, wrapPoolWithRetry, Query.call, hcb], fun hcb => ?_⟩
  -- `j` is the first call that settles, or the last one allowed
  have hex : ∃ j, transientThrow heap (attempts j).outcome = false ∨ j = MAX_RETRIES := ⟨_, .inr rfl⟩
  have htr : ∀ i < Nat.find hex, transientThrow heap (attempts i).outcome := fun i hi => by
    simpa using (not_or.1 (Nat.find_min hex hi)).1
  have hrun := withDbRetry_tape heap random (by norm_num [MAX_RETRIES, MAX_SAFE_INTEGER])
    (show (none : Option ℚ).getD MAX_RETRIES = ((MAX_RETRIES : Nat) : ℚ) from rfl)
    (fun n => (attempts n).outcome) (Nat.find_le (.inr rfl)) htr (Nat.find_spec hex)
  refine ⟨Nat.find hex, Nat.find_le (.inr rfl), htr, Nat.find_spec hex, hrun, ?_⟩
  rw [hwrap]
  simp only [wrapPoolWithRetry, Query.call, if_neg hcb]
  rw [hrun]
  dsimp only
  cases (attempts (Nat.find hex)).outcome <;> rfl

/-- A callback-style call on a pool wrapped twice reaches the original query once. -/
theorem wrapPoolWithRetry_twice_callback :
    [Arg.value, .callback].getLast? = some .callback ∧
      Query.call [] (fun _ => 0) (fun _ => (.done 7 : Attempt Nat)) [.value, .callback]
        (wrapPoolWithRetry^[2] ⟨.original, false⟩).query 0 = (.ok 7, 1) :=
  ⟨rfl, (wrapPoolWithRetry_iterate 1 [] (fun _ => 0) (fun _ => .done 7) [.value, .callback]).2.1 rfl⟩

end Archestra
