import Mathlib.Data.List.Infix

/-!
# JavaScript objects and values

An object is the list of its own enumerable properties in insertion order.  Assigning a property (`setProp`)
replaces the value of a key it has in place and appends a new key; a spread `{ ...a, ...b }` assigns the
properties of `b`, in order, over those of `a` (`spread`).  `Value` is a JSON value, with `undefined` for a property
an object holds without a value; numbers are integers here, as nothing modelled reads more of them.

* `lookup_setProp`, `lookup_spread`: what reading a property finds after an assignment and after a spread.

`includes` and `startsWith` are the string methods the models call, on the characters of the strings.
-/

namespace Archestra

/-- `s.includes(pattern)`. -/
def includes (s pattern : String) : Bool := decide (pattern.toList <:+: s.toList)

/-- `s.startsWith(pre)`. -/
def startsWith (s pre : String) : Bool := decide (pre.toList <+: s.toList)

namespace Js

/-- A JavaScript value built from JSON, or `undefined`. -/
inductive Value where
  | undefined
  | null
  | bool (b : Bool)
  | num (n : Int)
  | str (s : String)
  | arr (xs : List Value)
  | obj (props : List (String × Value))
  deriving Repr

variable {β : Type}

/-- `o[key] = value`. -/
def setProp : List (String × β) → String → β → List (String × β)
  | [], key, value => [(key, value)]
  | p :: ps, key, value => if p.1 = key then (key, value) :: ps else p :: setProp ps key value

/-- `{ ...a, ...b }`: the properties of `b` assigned, in order, over those of `a`. -/
def spread (a b : List (String × β)) : List (String × β) := b.foldl (fun acc p => setProp acc p.1 p.2) a

namespace Value

/-- JavaScript truthiness. -/
def truthy : Value → Bool
  | .undefined | .null => false
  | .bool b => b
  | .num n => n ≠ 0
  | .str s => s ≠ ""
  | .arr _ | .obj _ => true

/-- `v[key]`: a property of an object, `undefined` when it has none or is no object. -/
def get (v : Value) (key : String) : Value :=
  match v with
  | .obj props => (props.lookup key).getD .undefined
  | _ => .undefined

/-- `a || b`. -/
def or (a b : Value) : Value := if a.truthy then a else b

/-- The properties `...v` spreads: an object's own, the indexed characters of a string or elements of an array,
none of any other value. -/
def spreadProps : Value → List (String × Value)
  | .obj props => props
  | .str s => s.toList.enum.map fun (i, c) => (toString i, .str (String.singleton c))
  | .arr xs => xs.enum.map fun (i, x) => (toString i, x)
  | _ => []

end Value

theorem lookup_setProp (ps : List (String × β)) (key k : String) (value : β) :
    (setProp ps key value).lookup k = if k = key then some value else ps.lookup k := by
  induction ps with
  | nil => by_cases hk : k = key <;> simp [setProp, List.lookup_cons, hk, beq_false_of_ne]
  | cons p ps ih =>
    obtain ⟨k', v⟩ := p
    by_cases hk' : k = k'
    · subst hk'
      by_cases hk : k = key <;> simp [setProp, List.lookup_cons, hk, beq_false_of_ne]
    · by_cases hkey : k' = key
      · subst hkey
        simp [setProp, List.lookup_cons, hk', beq_false_of_ne hk']
      · simp [setProp, List.lookup_cons, hkey, ih, beq_false_of_ne hk']

/-- After `{ ...a, ...b }`, a key of `b` reads its value in `b`, any other key its value in `a`: `b`'s keys are
distinct, as an object's are. -/
theorem lookup_spread (a b : List (String × β)) (hb : (b.map (·.1)).Nodup) (k : String) :
    (spread a b).lookup k = (b.lookup k).or (a.lookup k) := by
  induction b generalizing a with
  | nil => rfl
  | cons p ps ih =>
    obtain ⟨k', v⟩ := p
    simp only [List.map_cons, List.nodup_cons, List.mem_map] at hb
    rw [spread, List.foldl_cons, ← spread, ih _ hb.2, lookup_setProp, List.lookup_cons]
    by_cases hk : k = k'
    · subst hk
      have hnone : ps.lookup k = none := by
        rw [List.lookup_eq_none_iff]
        intro p hp
        simp only [bne_iff_ne, ne_eq]
        rintro rfl
        exact hb.1 ⟨p, hp, rfl⟩
      simp [hnone]
    · simp [hk, beq_false_of_ne hk]

end Js

end Archestra
