import Archestra.Js.Object

/-!
# A colon-free code of values

A postfix code of `Value`s: each character of it pushes a value onto a stack or extends the value on top, so the
decoder (`run`) is one pass over the characters.  No code holds a `:`: a string's `:` is written `!`.  The code is a
stand-in for the serialization a cipher seals; it gives one cipher meeting the contract of the envelope helpers
(`codeCipher`).

* `run_encode`: running the code of a value pushes that value;
* `decode_encode`, `encodeString_injective`: a value is read back from its code, and distinct strings have distinct
  codes;
* `colon_not_mem_encode`, `colon_not_mem_encodeString`: no code holds a `:`.
-/

namespace Archestra

namespace Js

/-- The code of a character of a string. -/
def encodeChar (c : Char) : List Char := if c = ':' then ['!'] else ['.', c]

/-- The code of a string: push `""`, then append its characters. -/
def encodeString (s : String) : List Char := '"' :: s.toList.flatMap encodeChar

mutual

/-- The code of a value. -/
def encode : Value → List Char
  | .undefined => ['u']
  | .null => ['n']
  | .bool b => [if b then 't' else 'f']
  | .num n => '0' :: List.replicate n.toNat '+' ++ List.replicate (-n).toNat '-'
  | .str s => encodeString s
  | .arr xs => '[' :: encodeElements xs
  | .obj props => '{' :: encodeProps props

/-- Each element's code, then `,` to append it to the array below. -/
def encodeElements : List Value → List Char
  | [] => []
  | x :: xs => encode x ++ ',' :: encodeElements xs

/-- Each key's and value's codes, then `;` to append the property to the object below. -/
def encodeProps : List (String × Value) → List Char
  | [] => []
  | (k, v) :: props => encodeString k ++ encode v ++ ';' :: encodeProps props

end

/-- The decoder: the stack after the characters, `none` at a character the stack does not fit. -/
def run : List Char → List Value → Option (List Value)
  | [], st => some st
  | 'u' :: cs, st => run cs (.undefined :: st)
  | 'n' :: cs, st => run cs (.null :: st)
  | 't' :: cs, st => run cs (.bool true :: st)
  | 'f' :: cs, st => run cs (.bool false :: st)
  | '0' :: cs, st => run cs (.num 0 :: st)
  | '+' :: cs, .num n :: st => run cs (.num (n + 1) :: st)
  | '-' :: cs, .num n :: st => run cs (.num (n - 1) :: st)
  | '"' :: cs, st => run cs (.str "" :: st)
  | '.' :: c :: cs, .str s :: st => run cs (.str (s.push c) :: st)
  | '!' :: cs, .str s :: st => run cs (.str (s.push ':') :: st)
  | '[' :: cs, st => run cs (.arr [] :: st)
  | ',' :: cs, x :: .arr xs :: st => run cs (.arr (xs ++ [x]) :: st)
  | '{' :: cs, st => run cs (.obj [] :: st)
  | ';' :: cs, v :: .str k :: .obj props :: st => run cs (.obj (props ++ [(k, v)]) :: st)
  | _, _ => none

/-- The value a code stands for: the one value it leaves on an empty stack. -/
def decode (cs : List Char) : Option Value :=
  match run cs [] with
  | some [v] => some v
  | _ => none

section Steps

variable (cs : List Char) (st : List Value)

theorem run_zero : run ('0' :: cs) st = run cs (.num 0 :: st) := rfl
theorem run_plus (n : Int) : run ('+' :: cs) (.num n :: st) = run cs (.num (n + 1) :: st) := rfl
theorem run_minus (n : Int) : run ('-' :: cs) (.num n :: st) = run cs (.num (n - 1) :: st) := rfl
theorem run_quote : run ('"' :: cs) st = run cs (.str "" :: st) := rfl
theorem run_dot (c : Char) (s : String) : run ('.' :: c :: cs) (.str s :: st) = run cs (.str (s.push c) :: st) := rfl
theorem run_bang (s : String) : run ('!' :: cs) (.str s :: st) = run cs (.str (s.push ':') :: st) := rfl
theorem run_bracket : run ('[' :: cs) st = run cs (.arr [] :: st) := rfl
theorem run_comma (x : Value) (xs : List Value) :
    run (',' :: cs) (x :: .arr xs :: st) = run cs (.arr (xs ++ [x]) :: st) := rfl
theorem run_brace : run ('{' :: cs) st = run cs (.obj [] :: st) := rfl
theorem run_semicolon (v : Value) (k : String) (props : List (String × Value)) :
    run (';' :: cs) (v :: .str k :: .obj props :: st) = run cs (.obj (props ++ [(k, v)]) :: st) := rfl

end Steps

theorem run_replicate_plus (k : Nat) (n : Int) (cs : List Char) (st : List Value) :
    run (List.replicate k '+' ++ cs) (.num n :: st) = run cs (.num (n + k) :: st) := by
  induction k generalizing n with
  | zero => simp
  | succ k ih =>
    rw [List.replicate_succ, List.cons_append, run_plus, ih]
    congr 3
    omega

theorem run_replicate_minus (k : Nat) (n : Int) (cs : List Char) (st : List Value) :
    run (List.replicate k '-' ++ cs) (.num n :: st) = run cs (.num (n - k) :: st) := by
  induction k generalizing n with
  | zero => simp
  | succ k ih =>
    rw [List.replicate_succ, List.cons_append, run_minus, ih]
    congr 3
    omega

theorem run_encodeChars (l : List Char) (s : String) (cs : List Char) (st : List Value) :
    run (l.flatMap encodeChar ++ cs) (.str s :: st) = run cs (.str ⟨s.data ++ l⟩ :: st) := by
  induction l generalizing s with
  | nil => simp
  | cons c l ih =>
    have hstep : run (encodeChar c ++ (l.flatMap encodeChar ++ cs)) (.str s :: st) =
        run (l.flatMap encodeChar ++ cs) (.str (s.push c) :: st) := by
      by_cases hc : c = ':'
      · subst hc; exact run_bang _ _ _
      · simp only [encodeChar, hc, if_false]; exact run_dot _ _ _ _
    rw [List.flatMap_cons, List.append_assoc, hstep, ih]
    simp [String.push]

theorem run_encodeString (s : String) (cs : List Char) (st : List Value) :
    run (encodeString s ++ cs) st = run cs (.str s :: st) := by
  rw [encodeString, List.cons_append, run_quote, run_encodeChars]
  rfl

mutual

theorem run_encode : ∀ (v : Value) (cs : List Char) (st : List Value), run (encode v ++ cs) st = run cs (v :: st)
  | .undefined, _, _ => rfl
  | .null, _, _ => rfl
  | .bool true, _, _ => rfl
  | .bool false, _, _ => rfl
  | .num n, cs, st => by
    simp only [encode, List.cons_append, List.append_assoc]
    rw [run_zero, run_replicate_plus, run_replicate_minus, Int.zero_add, Int.toNat_sub_toNat_neg]
  | .str s, cs, st => run_encodeString s cs st
  | .arr xs, cs, st => by
    rw [encode, List.cons_append, run_bracket, run_encodeElements, List.nil_append]
  | .obj props, cs, st => by
    rw [encode, List.cons_append, run_brace, run_encodeProps, List.nil_append]
termination_by structural v => v

theorem run_encodeElements : ∀ (xs acc : List Value) (cs : List Char) (st : List Value),
    run (encodeElements xs ++ cs) (.arr acc :: st) = run cs (.arr (acc ++ xs) :: st)
  | [], _, _, _ => by simp [encodeElements]
  | x :: xs, acc, cs, st => by
    rw [encodeElements, List.append_assoc, List.cons_append, run_encode,
      run_comma, run_encodeElements, List.append_assoc, List.singleton_append]
termination_by structural xs => xs

theorem run_encodeProps : ∀ (props acc : List (String × Value)) (cs : List Char) (st : List Value),
    run (encodeProps props ++ cs) (.obj acc :: st) = run cs (.obj (acc ++ props) :: st)
  | [], _, _, _ => by simp [encodeProps]
  | (k, v) :: props, acc, cs, st => by
    rw [encodeProps, List.append_assoc, List.append_assoc, run_encodeString, List.cons_append, run_encode,
      run_semicolon, run_encodeProps, List.append_assoc, List.singleton_append]
termination_by structural props => props

end

theorem decode_encode (v : Value) : decode (encode v) = some v := by
  rw [decode, ← List.append_nil (encode v), run_encode]
  rfl

theorem encodeString_injective : Function.Injective encodeString := by
  intro s s' h
  have hrun := run_encodeString s [] []
  rw [h, run_encodeString] at hrun
  injection hrun with hrun
  injection hrun with hrun
  injection hrun with hrun
  exact hrun.symm

theorem colon_not_mem_encodeString (s : String) : ':' ∉ encodeString s := by
  simp only [encodeString, List.mem_cons, List.mem_flatMap, not_or]
  refine ⟨by decide, fun ⟨c, _, hc⟩ => ?_⟩
  by_cases h : c = ':' <;> simp [encodeChar, h] at hc
  exact h hc.symm

mutual

theorem colon_not_mem_encode : ∀ v : Value, ':' ∉ encode v
  | .undefined | .null => by decide
  | .bool b => by cases b <;> decide
  | .num n => by simp [encode]
  | .str s => colon_not_mem_encodeString s
  | .arr xs => by
    simpa only [encode, List.mem_cons, not_or] using ⟨by decide, colon_not_mem_encodeElements xs⟩
  | .obj props => by
    simpa only [encode, List.mem_cons, not_or] using ⟨by decide, colon_not_mem_encodeProps props⟩
termination_by structural v => v

theorem colon_not_mem_encodeElements : ∀ xs : List Value, ':' ∉ encodeElements xs
  | [] => List.not_mem_nil _
  | x :: xs => by
    simpa only [encodeElements, List.mem_append, List.mem_cons, not_or] using
      ⟨colon_not_mem_encode x, by decide, colon_not_mem_encodeElements xs⟩
termination_by structural xs => xs

theorem colon_not_mem_encodeProps : ∀ props : List (String × Value), ':' ∉ encodeProps props
  | [] => List.not_mem_nil _
  | (k, v) :: props => by
    simpa only [encodeProps, List.mem_append, List.mem_cons, not_or] using
      ⟨⟨colon_not_mem_encodeString k, colon_not_mem_encode v⟩, by decide, colon_not_mem_encodeProps props⟩
termination_by structural props => props

end

end Js

end Archestra
