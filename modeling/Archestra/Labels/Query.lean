import Archestra.Db.Tables
import Archestra.Js.Object
import Mathlib.Data.List.Sort
import Mathlib.Data.String.Basic
import Mathlib.Order.WithBot

/-!
# The label queries

`getLabelsForAgent(agentId)` and `getLabelsForAgents(agentIds)` (`models/agent-team.ts`) read `agent_labels`
left-joined with `label_keys` and `label_values` on the ids, `ORDER BY label_keys.key ASC`.  SQL leaves the order of
rows with equal keys open, so the database's answer is any list of the joined rows sorted by key (`OrderedByKey`):
under a collation `collate`, an injective map of the text into a linear order (a deterministic collation), `NULL`
last.  The functions post-process that answer; the batch builds a `Map`, here an association list updated as a `Map`
is (`Js.setProp`).

* `filter_labelJoin`: restricting the batch's join to one agent gives that agent's join;
* `lookup_getLabelsForAgents`, `mem_keys_getLabelsForAgents`: the entries of the batch's map;
* `keys_eq_of_orderedByKey`: two answers over the same rows have the same sequence of keys;
* `getLabelsForAgents_agree`: the batch's map has exactly the ids asked for as keys, once each, and the entry of each
  is the single query's answer up to the order of labels of equal keys.
-/

namespace Archestra

/-- An `AgentLabelWithDetails`. -/
structure AgentLabelWithDetails where
  keyId : Nat
  valueId : Nat
  key : String
  value : String
  deriving DecidableEq, Repr

/-- A row of the join: the columns of `agent_labels` and the joined `key` and `value`, `NULL` where no dictionary row
has the id. -/
structure LabelJoinRow where
  agentId : String
  keyId : Nat
  valueId : Nat
  key : Option String
  value : Option String
  deriving DecidableEq, Repr

/-- `{keyId, valueId, key: row.key || "", value: row.value || ""}`. -/
def LabelJoinRow.details (r : LabelJoinRow) : AgentLabelWithDetails :=
  ⟨r.keyId, r.valueId, r.key.getD "", r.value.getD ""⟩

namespace AgentLabelModel

/-- `LEFT JOIN dict ON dict.id = id`: the names of the dictionary rows with the id, or one `NULL`. -/
def leftJoinName (dict : List DictRow) (id : Nat) : List (Option String) :=
  match (dict.filter (·.id == id)).map fun r => some r.name with
  | [] => [none]
  | names => names

/-- The joined rows of one `agent_labels` row. -/
def joinRows (keys values : List DictRow) (l : AgentLabelRow) : List LabelJoinRow :=
  (leftJoinName keys l.keyId).flatMap fun key =>
    (leftJoinName values l.valueId).map fun value => ⟨l.agentId, l.keyId, l.valueId, key, value⟩

/-- The join under `WHERE p(agent_labels.agent_id)`, in table order. -/
def labelJoin (keys values : List DictRow) (labels : List AgentLabelRow) (p : String → Bool) : List LabelJoinRow :=
  (labels.filter fun l => p l.agentId).flatMap (joinRows keys values)

section Order

variable {κ : Type} (collate : String → κ)

/-- The sort key of `ORDER BY key ASC`: the collation of the text, `NULL` last. -/
def sortKey : Option String → WithTop κ
  | some s => (collate s : WithTop κ)
  | none => ⊤

theorem sortKey_injective (hc : Function.Injective collate) : Function.Injective (sortKey collate) := by
  rintro (_ | a) (_ | b) h
  · rfl
  · exact absurd h (WithTop.coe_ne_top).symm
  · exact absurd h WithTop.coe_ne_top
  · exact congrArg some (hc (WithTop.coe_injective h))

variable [LinearOrder κ]

/-- The answers the database may give to a query over the joined rows `join`: those rows, sorted by key, rows of
equal keys in any order. -/
def OrderedByKey (join rows : List LabelJoinRow) : Prop :=
  rows.Perm join ∧ rows.Sorted fun r s => sortKey collate r.key ≤ sortKey collate s.key

instance (join rows : List LabelJoinRow) : Decidable (OrderedByKey collate join rows) := by
  unfold OrderedByKey List.Sorted; infer_instance

/-- Two answers over the same rows have the same sequence of keys: they differ only among rows of equal keys. -/
theorem keys_eq_of_orderedByKey (hc : Function.Injective collate) {rows₁ rows₂ : List LabelJoinRow}
    (hp : rows₁.Perm rows₂) (hs₁ : rows₁.Sorted fun r s => sortKey collate r.key ≤ sortKey collate s.key)
    (hs₂ : rows₂.Sorted fun r s => sortKey collate r.key ≤ sortKey collate s.key) :
    rows₁.map (·.key) = rows₂.map (·.key) := by
  have hmap : (rows₁.map (·.key)).map (sortKey collate) = (rows₂.map (·.key)).map (sortKey collate) := by
    simp only [List.map_map]
    exact List.eq_of_perm_of_sorted (hp.map _) (List.pairwise_map.2 hs₁) (List.pairwise_map.2 hs₂)
  exact (List.map_injective_iff.2 (sortKey_injective collate hc)) hmap

end Order

/-- `getLabelsForAgent(agentId)` on the rows the query answered. -/
def getLabelsForAgent (rows : List LabelJoinRow) : List AgentLabelWithDetails := rows.map (·.details)

/-- The keys of the labels are those of the rows, `NULL` read as `""`. -/
theorem keys_getLabelsForAgent (rows : List LabelJoinRow) :
    (getLabelsForAgent rows).map (·.key) = (rows.map (·.key)).map (·.getD "") := by
  simp [getLabelsForAgent, LabelJoinRow.details]

/-- `labels.push(details)` on the list of the row's agent, then `labelsMap.set(row.agentId, labels)`. -/
def pushLabel (labelsMap : List (String × List AgentLabelWithDetails)) (row : LabelJoinRow) :
    List (String × List AgentLabelWithDetails) :=
  Js.setProp labelsMap row.agentId ((labelsMap.lookup row.agentId).getD [] ++ [row.details])

/-- `getLabelsForAgents(agentIds)` on the rows the query answered: `new Map()` for no ids; otherwise every id set to
`[]`, then each row pushed onto its agent's list. -/
def getLabelsForAgents (agentIds : List String) (rows : List LabelJoinRow) :
    List (String × List AgentLabelWithDetails) :=
  if agentIds.length = 0 then []
  else rows.foldl pushLabel (agentIds.foldl (fun labelsMap agentId => Js.setProp labelsMap agentId []) [])

/-! ### The join -/

theorem agentId_of_mem_joinRows {keys values : List DictRow} {l : AgentLabelRow} {r : LabelJoinRow}
    (hr : r ∈ joinRows keys values l) : r.agentId = l.agentId := by
  simp only [joinRows, List.mem_flatMap, List.mem_map] at hr
  obtain ⟨_, _, _, _, rfl⟩ := hr
  rfl

/-- Restricting the join under `p` to one agent gives the join under `p` and that agent. -/
theorem filter_labelJoin (keys values : List DictRow) (labels : List AgentLabelRow) (p : String → Bool) (a : String) :
    (labelJoin keys values labels p).filter (·.agentId == a) = labelJoin keys values labels fun x => p x && x == a := by
  induction labels with
  | nil => rfl
  | cons l labels ih =>
    have hrows : (joinRows keys values l).filter (·.agentId == a) =
        if l.agentId == a then joinRows keys values l else [] := by
      split
      next h => exact List.filter_eq_self.2 fun r hr => by simpa [agentId_of_mem_joinRows hr] using h
      next h => exact List.filter_eq_nil_iff.2 fun r hr => by simpa [agentId_of_mem_joinRows hr] using h
    simp only [labelJoin, List.filter_cons] at ih ⊢
    by_cases hp : p l.agentId <;> by_cases ha : l.agentId == a <;>
      simp only [hp, ha, hrows, ih, if_true, if_false, Bool.true_and, Bool.false_and, Bool.false_eq_true,
        List.flatMap_cons, List.filter_append, List.nil_append]

/-! ### The map of `getLabelsForAgents` -/

section Map

variable {β : Type}

theorem keys_setProp (m : List (String × β)) (k : String) (v : β) :
    (Js.setProp m k v).map (·.1) = if k ∈ m.map (·.1) then m.map (·.1) else m.map (·.1) ++ [k] := by
  induction m with
  | nil => rfl
  | cons p m ih =>
    by_cases hp : p.1 = k
    · simp only [Js.setProp, hp, if_true, List.map_cons, List.mem_cons, true_or]
    · by_cases hk : k ∈ m.map (·.1) <;>
        simp only [Js.setProp, hp, if_false, List.map_cons, ih, hk, List.mem_cons, Ne.symm hp, false_or, if_true,
          List.cons_append]

theorem mem_keys_setProp (m : List (String × β)) (k k' : String) (v : β) :
    k' ∈ (Js.setProp m k v).map (·.1) ↔ k' = k ∨ k' ∈ m.map (·.1) := by
  rw [keys_setProp]
  split
  · exact ⟨.inr, fun h => h.elim (· ▸ ‹_›) id⟩
  · rw [List.mem_append, List.mem_singleton, or_comm]

theorem nodup_keys_setProp {m : List (String × β)} (h : (m.map (·.1)).Nodup) (k : String) (v : β) :
    ((Js.setProp m k v).map (·.1)).Nodup := by
  rw [keys_setProp]
  split
  · exact h
  next hk => exact h.append (List.nodup_singleton k) (List.disjoint_singleton.2 hk)

end Map

/-- Setting every id to `[]`. -/
theorem lookup_foldl_setNil (agentIds : List String) (a : String) :
    ∀ m : List (String × List AgentLabelWithDetails),
      (agentIds.foldl (fun labelsMap agentId => Js.setProp labelsMap agentId []) m).lookup a =
        if a ∈ agentIds then some [] else m.lookup a := by
  induction agentIds with
  | nil => intro m; simp
  | cons x xs ih =>
    intro m
    rw [List.foldl_cons, ih, Js.lookup_setProp]
    by_cases ha : a ∈ xs <;> by_cases hx : a = x <;> simp [ha, hx]

theorem keys_foldl_setNil (agentIds : List String) :
    ∀ m : List (String × List AgentLabelWithDetails), (m.map (·.1)).Nodup →
      let m' := agentIds.foldl (fun labelsMap agentId => Js.setProp labelsMap agentId []) m
      (∀ a, a ∈ m'.map (·.1) ↔ a ∈ agentIds ∨ a ∈ m.map (·.1)) ∧ (m'.map (·.1)).Nodup := by
  induction agentIds with
  | nil => exact fun m h => ⟨fun a => (or_iff_right (List.not_mem_nil a)).symm, h⟩
  | cons x xs ih =>
    intro m h
    obtain ⟨hmem, hnd⟩ := ih _ (nodup_keys_setProp h x [])
    refine ⟨fun a => ?_, hnd⟩
    rw [List.foldl_cons, hmem, mem_keys_setProp, List.mem_cons]
    exact or_left_comm.trans or_assoc.symm

/-- Pushing the rows onto the lists of their agents: an agent's list gains its rows, in order. -/
theorem lookup_foldl_pushLabel (rows : List LabelJoinRow) (a : String) :
    ∀ (m : List (String × List AgentLabelWithDetails)) (l : List AgentLabelWithDetails), m.lookup a = some l →
      (rows.foldl pushLabel m).lookup a = some (l ++ (rows.filter (·.agentId == a)).map (·.details)) := by
  induction rows with
  | nil => intro m l h; simpa using h
  | cons r rows ih =>
    intro m l h
    rw [List.foldl_cons]
    by_cases hr : r.agentId = a
    · rw [ih _ (l ++ [r.details]) (by simp [pushLabel, Js.lookup_setProp, hr, h])]
      simp [hr]
    · rw [ih _ l (by simp [pushLabel, Js.lookup_setProp, Ne.symm hr, h])]
      simp [hr]

theorem keys_foldl_pushLabel (rows : List LabelJoinRow) :
    ∀ m : List (String × List AgentLabelWithDetails), (m.map (·.1)).Nodup →
      (∀ a, a ∈ (rows.foldl pushLabel m).map (·.1) ↔ a ∈ m.map (·.1) ∨ ∃ r ∈ rows, r.agentId = a) ∧
        ((rows.foldl pushLabel m).map (·.1)).Nodup := by
  induction rows with
  | nil => exact fun m h => ⟨fun a => (or_iff_left fun ⟨_, hr, _⟩ => List.not_mem_nil _ hr).symm, h⟩
  | cons r rows ih =>
    intro m h
    obtain ⟨hmem, hnd⟩ := ih _ (nodup_keys_setProp h r.agentId _)
    refine ⟨fun a => ?_, hnd⟩
    rw [List.foldl_cons, pushLabel, hmem, mem_keys_setProp]
    simp only [List.mem_cons, exists_eq_or_imp, @eq_comm _ a]
    exact or_assoc.trans or_left_comm

/-- The entry of an agent asked for: its rows of the answer, in order. -/
theorem lookup_getLabelsForAgents {agentIds : List String} {a : String} (ha : a ∈ agentIds)
    (rows : List LabelJoinRow) :
    (getLabelsForAgents agentIds rows).lookup a = some ((rows.filter (·.agentId == a)).map (·.details)) := by
  have hlen : agentIds.length ≠ 0 := List.length_pos_of_mem ha |>.ne'
  rw [getLabelsForAgents, if_neg hlen, lookup_foldl_pushLabel rows a _ [] (by rw [lookup_foldl_setNil]; simp [ha]),
    List.nil_append]

/-- The keys of the map: the ids asked for, once each, when every row of the answer is of one of them. -/
theorem mem_keys_getLabelsForAgents (agentIds : List String) {rows : List LabelJoinRow}
    (hrows : ∀ r ∈ rows, r.agentId ∈ agentIds) :
    (∀ a, a ∈ (getLabelsForAgents agentIds rows).map (·.1) ↔ a ∈ agentIds) ∧
      ((getLabelsForAgents agentIds rows).map (·.1)).Nodup := by
  rw [getLabelsForAgents]
  split
  · rename_i h
    simp [List.length_eq_zero.1 h]
  · obtain ⟨hmem₀, hnd₀⟩ := keys_foldl_setNil agentIds [] List.nodup_nil
    obtain ⟨hmem, hnd⟩ := keys_foldl_pushLabel rows _ hnd₀
    refine ⟨fun a => ?_, hnd⟩
    rw [hmem, hmem₀]
    simp only [List.map_nil, List.not_mem_nil, or_false]
    exact ⟨fun h => h.elim id fun ⟨r, hr, hra⟩ => hra ▸ hrows r hr, .inl⟩

/-- An id asked for twice is one key, at its first place. -/
example : (getLabelsForAgents ["a", "b", "a"] [⟨"a", 0, 2, some "env", some "prod"⟩]).map (·.1) = ["a", "b"] := by
  decide

/-- `getLabelsForAgents(agentIds)` against `getLabelsForAgent(a)`, for every state of the label tables, every list of
ids (repeated, unknown, or without labels) and every answer the database may give to each query: the map has each
id of the list as a key once, and nothing else; and the entry of an id `a` of the list holds the labels the single
query answers, in the same order of keys, up to the order of labels of equal keys. -/
theorem getLabelsForAgents_agree {κ : Type} [LinearOrder κ] (collate : String → κ) (hc : Function.Injective collate)
    (keys values : List DictRow) (labels : List AgentLabelRow) (agentIds : List String) (rows : List LabelJoinRow)
    (hrows : OrderedByKey collate (labelJoin keys values labels fun x => decide (x ∈ agentIds)) rows) :
    (∀ a, a ∈ (getLabelsForAgents agentIds rows).map (·.1) ↔ a ∈ agentIds) ∧
      ((getLabelsForAgents agentIds rows).map (·.1)).Nodup ∧
      ∀ a ∈ agentIds, ∀ rowsA, OrderedByKey collate (labelJoin keys values labels (· == a)) rowsA →
        ∃ entry, (getLabelsForAgents agentIds rows).lookup a = some entry ∧
          entry.Perm (getLabelsForAgent rowsA) ∧ entry.map (·.key) = (getLabelsForAgent rowsA).map (·.key) := by
  obtain ⟨hperm, hsorted⟩ := hrows
  have hin : ∀ r ∈ rows, r.agentId ∈ agentIds := by
    intro r hr
    obtain ⟨l, hl, hrl⟩ := List.mem_flatMap.1 (hperm.subset hr)
    rw [agentId_of_mem_joinRows hrl]
    simpa using (List.mem_filter.1 hl).2
  refine ⟨(mem_keys_getLabelsForAgents agentIds hin).1, (mem_keys_getLabelsForAgents agentIds hin).2,
    fun a ha rowsA ⟨hpermA, hsortedA⟩ => ⟨_, lookup_getLabelsForAgents ha rows, ?_⟩⟩
  -- the batch's rows of `a` are a sorted answer over `a`'s join, as `rowsA` is
  have hjoin : labelJoin keys values labels (fun x => decide (x ∈ agentIds) && x == a) =
      labelJoin keys values labels (· == a) := by
    simp only [labelJoin]
    congr 1
    exact List.filter_congr fun l _ => by by_cases h : l.agentId = a <;> simp [h, ha]
  have hp : (rows.filter (·.agentId == a)).Perm rowsA :=
    ((hperm.filter _).trans (by rw [filter_labelJoin, hjoin])).trans hpermA.symm
  have hkeys := keys_eq_of_orderedByKey collate hc hp (hsorted.filter _) hsortedA
  refine ⟨hp.map _, ?_⟩
  rw [← getLabelsForAgent, keys_getLabelsForAgent, keys_getLabelsForAgent, hkeys]

/-- Agent `a` has two labels stored out of key order, and is asked for with an agent `b` that has none; the answer is
sorted under the binary collation. -/
theorem getLabelsForAgents_agree_two_labels :
    Function.Injective (id : String → String) ∧
      OrderedByKey id (labelJoin [⟨0, "env"⟩, ⟨1, "team"⟩] [⟨2, "prod"⟩, ⟨3, "core"⟩] [⟨"a", 1, 3⟩, ⟨"a", 0, 2⟩]
          fun x => decide (x ∈ ["a", "b"]))
        [⟨"a", 0, 2, some "env", some "prod"⟩, ⟨"a", 1, 3, some "team", some "core"⟩] ∧
      (∀ x, x ∈ (getLabelsForAgents ["a", "b"]
          [⟨"a", 0, 2, some "env", some "prod"⟩, ⟨"a", 1, 3, some "team", some "core"⟩]).map (·.1) ↔ x ∈ ["a", "b"]) ∧
      ((getLabelsForAgents ["a", "b"]
          [⟨"a", 0, 2, some "env", some "prod"⟩, ⟨"a", 1, 3, some "team", some "core"⟩]).map (·.1)).Nodup ∧
      ∀ x ∈ ["a", "b"], ∀ rowsA, OrderedByKey id (labelJoin [⟨0, "env"⟩, ⟨1, "team"⟩] [⟨2, "prod"⟩, ⟨3, "core"⟩]
          [⟨"a", 1, 3⟩, ⟨"a", 0, 2⟩] (· == x)) rowsA →
        ∃ entry, (getLabelsForAgents ["a", "b"]
            [⟨"a", 0, 2, some "env", some "prod"⟩, ⟨"a", 1, 3, some "team", some "core"⟩]).lookup x = some entry ∧
          entry.Perm (getLabelsForAgent rowsA) ∧ entry.map (·.key) = (getLabelsForAgent rowsA).map (·.key) := by
  have hrows : OrderedByKey id (labelJoin [⟨0, "env"⟩, ⟨1, "team"⟩] [⟨2, "prod"⟩, ⟨3, "core"⟩]
      [⟨"a", 1, 3⟩, ⟨"a", 0, 2⟩] fun x => decide (x ∈ ["a", "b"]))
      [⟨"a", 0, 2, some "env", some "prod"⟩, ⟨"a", 1, 3, some "team", some "core"⟩] :=
    ⟨by decide, by simp [sortKey, String.le_iff_toList_le]; decide⟩
  exact ⟨Function.injective_id, hrows, getLabelsForAgents_agree id Function.injective_id _ _ _ _ _ hrows⟩

end AgentLabelModel

end Archestra
