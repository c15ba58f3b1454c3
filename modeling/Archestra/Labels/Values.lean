import Archestra.Labels.Alone

/-!
# The values of a key

`getValuesByKey(key)` (`models/agent-team.ts`) finds a row of `label_keys` holding the key (`LIMIT 1`, no `ORDER BY`)
and answers `[]` when there is none; otherwise the values of the `agent_labels` rows under its id, `INNER JOIN
label_values`, once each and in the collation's order (`GROUP BY value ORDER BY value ASC`).  The database's answers
to the two queries are parameters constrained by what SQL allows of them (`KeyAnswer`, `GroupedByValue`), as the
answers of `getLabelsForAgent` are (`OrderedByKey`).

* `joinRows_of_refs`: a label whose key and value ids have their dictionary rows joins to one row, with both strings;
* `getValuesByKey_shown`: on label tables with their constraints, the values `getValuesByKey(key)` offers are exactly
  those `getLabelsForAgent` shows under that key on some agent.
-/

namespace Archestra

namespace AgentLabelModel

/-- The answers `SELECT * FROM label_keys WHERE key = k LIMIT 1` may give: any row holding `k`, and none only when no
row does. -/
def KeyAnswer (keys : List DictRow) (key : String) : Option DictRow → Prop
  | none => ∀ r ∈ keys, r.name ≠ key
  | some r => r ∈ keys ∧ r.name = key

/-- `agent_labels INNER JOIN label_values ON agent_labels.value_id = label_values.id WHERE agent_labels.key_id = keyId`:
the value of each label under the key id, once per value row of its id. -/
def valuesOfKey (values : List DictRow) (labels : List AgentLabelRow) (keyId : Nat) : List String :=
  (labels.filter (·.keyId == keyId)).flatMap fun l => (values.filter (·.id == l.valueId)).map (·.name)

/-- The answers `GROUP BY label_values.value ORDER BY label_values.value ASC` may give over the joined values: each
value once, in the collation's order. -/
def GroupedByValue {κ : Type} [LinearOrder κ] (collate : String → κ) (joined vals : List String) : Prop :=
  vals.Nodup ∧ (∀ v, v ∈ vals ↔ v ∈ joined) ∧ vals.Sorted fun v w => collate v ≤ collate w

/-- `getValuesByKey(key)` on the answers of its two queries: `[]` without a key row, else the grouped values. -/
def getValuesByKey (keyRecord : Option DictRow) (vals : List String) : List String :=
  match keyRecord with
  | none => []
  | some _ => vals

/-- A label whose key and value ids have their rows in dictionaries with distinct ids joins to one row, with the
key and value strings. -/
theorem joinRows_of_refs {keys values : List DictRow} (hkeys : (keys.map (·.id)).Nodup)
    (hvalues : (values.map (·.id)).Nodup) {l : AgentLabelRow} {kr vr : DictRow} (hk : kr ∈ keys) (hkid : kr.id = l.keyId)
    (hv : vr ∈ values) (hvid : vr.id = l.valueId) :
    joinRows keys values l = [⟨l.agentId, l.keyId, l.valueId, some kr.name, some vr.name⟩] := by
  rw [joinRows, ← hkid, ← hvid, leftJoinName_of_mem hkeys hk, leftJoinName_of_mem hvalues hv]
  rfl

theorem mem_labelJoin {keys values : List DictRow} {labels : List AgentLabelRow} {a : String} {r : LabelJoinRow} :
    r ∈ labelJoin keys values labels (· == a) ↔ ∃ l ∈ labels, l.agentId = a ∧ r ∈ joinRows keys values l := by
  simp only [labelJoin, List.mem_flatMap, List.mem_filter, beq_iff_eq, and_assoc]

theorem mem_valuesOfKey {values : List DictRow} {labels : List AgentLabelRow} {keyId : Nat} {v : String} :
    v ∈ valuesOfKey values labels keyId ↔
      ∃ l ∈ labels, l.keyId = keyId ∧ ∃ vr ∈ values, vr.id = l.valueId ∧ vr.name = v := by
  simp only [valuesOfKey, List.mem_flatMap, List.mem_filter, List.mem_map, beq_iff_eq, and_assoc]

/-- On label tables with distinct ids and strings in the dictionaries and every label's key and value id present
there, for every collation and every answer the database may give to each query: `getValuesByKey(key)` offers a
value exactly when `getLabelsForAgent` shows it under `key` on some agent. -/
theorem getValuesByKey_shown {κ : Type} [LinearOrder κ] (collate : String → κ) (keys values : List DictRow)
    (labels : List AgentLabelRow) (hkeys : DictWf keys) (hvalues : DictWf values)
    (hrefs : ∀ l ∈ labels, l.keyId ∈ keys.map (·.id) ∧ l.valueId ∈ values.map (·.id)) (key : String)
    (keyRecord : Option DictRow) (hkey : KeyAnswer keys key keyRecord) (vals : List String)
    (hvals : ∀ kr, keyRecord = some kr → GroupedByValue collate (valuesOfKey values labels kr.id) vals)
    (answer : String → List LabelJoinRow)
    (hanswer : ∀ a, OrderedByKey collate (labelJoin keys values labels (· == a)) (answer a)) (v : String) :
    v ∈ getValuesByKey keyRecord vals ↔ ∃ a, ∃ d ∈ getLabelsForAgent (answer a), d.key = key ∧ d.value = v := by
  constructor
  · intro hv
    cases keyRecord with
    | none => cases hv
    | some kr =>
      obtain ⟨l, hl, hkid, vr, hvr, hvid, rfl⟩ := mem_valuesOfKey.1 (((hvals kr rfl).2.1 v).1 hv)
      have hr : (⟨l.agentId, l.keyId, l.valueId, some kr.name, some vr.name⟩ : LabelJoinRow) ∈
          labelJoin keys values labels (· == l.agentId) :=
        mem_labelJoin.2 ⟨l, hl, rfl, by
          rw [joinRows_of_refs hkeys.1 hvalues.1 hkey.1 hkid.symm hvr hvid]
          exact List.mem_singleton.2 rfl⟩
      exact ⟨l.agentId, _, List.mem_map_of_mem _ ((hanswer l.agentId).1.mem_iff.2 hr), hkey.2, rfl⟩
  · rintro ⟨a, d, hd, hdkey, rfl⟩
    obtain ⟨r, hr, rfl⟩ := List.mem_map.1 hd
    obtain ⟨l, hl, -, hrl⟩ := mem_labelJoin.1 ((hanswer a).1.mem_iff.1 hr)
    -- the label joins to the row of its two strings
    obtain ⟨⟨kr, hk, hkid⟩, ⟨vr, hvr, hvid⟩⟩ := And.imp List.mem_map.1 List.mem_map.1 (hrefs l hl)
    rw [joinRows_of_refs hkeys.1 hvalues.1 hk hkid hvr hvid, List.mem_singleton] at hrl
    subst hrl
    cases keyRecord with
    | none => exact absurd hdkey (hkey kr hk)
    | some kr' =>
      have hkr : kr = kr' := List.inj_on_of_nodup_map hkeys.2 hk hkey.1 (hdkey.trans hkey.2.symm)
      exact ((hvals kr' rfl).2.1 _).2 (mem_valuesOfKey.2 ⟨l, hl, hkr ▸ hkid.symm, vr, hvr, hvid, rfl⟩)

/-- Two agents labelled `env`, one `prod` and one `dev`: the values of `env` are both, `dev` first. -/
theorem getValuesByKey_shown_env :
    let keys : List DictRow := [⟨0, "env"⟩]
    let values : List DictRow := [⟨1, "prod"⟩, ⟨2, "dev"⟩]
    let labels : List AgentLabelRow := [⟨"a", 0, 1⟩, ⟨"b", 0, 2⟩]
    DictWf keys ∧ DictWf values ∧ (∀ l ∈ labels, l.keyId ∈ keys.map (·.id) ∧ l.valueId ∈ values.map (·.id)) ∧
      KeyAnswer keys "env" (some ⟨0, "env"⟩) ∧
      (∀ kr : DictRow, some ⟨0, "env"⟩ = some kr → GroupedByValue id (valuesOfKey values labels kr.id) ["dev", "prod"]) ∧
      (∀ a, OrderedByKey id (labelJoin keys values labels (· == a)) (labelJoin keys values labels (· == a))) ∧
      ("dev" ∈ getValuesByKey (some ⟨0, "env"⟩) ["dev", "prod"] ↔
        ∃ a, ∃ d ∈ getLabelsForAgent (labelJoin keys values labels (· == a)), d.key = "env" ∧ d.value = "dev") :=
  have hvals : ∀ kr : DictRow, some ⟨0, "env"⟩ = some kr →
      GroupedByValue id (valuesOfKey [⟨1, "prod"⟩, ⟨2, "dev"⟩] [⟨"a", 0, 1⟩, ⟨"b", 0, 2⟩] kr.id) ["dev", "prod"] := by
    rintro kr ⟨⟩
    refine ⟨by decide, fun v => ?_, by simp [String.le_iff_toList_le]; decide⟩
    rw [show valuesOfKey [⟨1, "prod"⟩, ⟨2, "dev"⟩] [⟨"a", 0, 1⟩, ⟨"b", 0, 2⟩] 0 = ["prod", "dev"] by decide]
    simp only [List.mem_cons, List.mem_singleton, List.not_mem_nil, or_false]
    exact or_comm
  have hanswer : ∀ a, OrderedByKey id (labelJoin [⟨0, "env"⟩] [⟨1, "prod"⟩, ⟨2, "dev"⟩] [⟨"a", 0, 1⟩, ⟨"b", 0, 2⟩]
      (· == a)) (labelJoin [⟨0, "env"⟩] [⟨1, "prod"⟩, ⟨2, "dev"⟩] [⟨"a", 0, 1⟩, ⟨"b", 0, 2⟩] (· == a)) := fun a =>
    have hkey : ∀ l ∈ ([⟨"a", 0, 1⟩, ⟨"b", 0, 2⟩] : List AgentLabelRow),
        ∀ r ∈ joinRows [⟨0, "env"⟩] [⟨1, "prod"⟩, ⟨2, "dev"⟩] l, r.key = some "env" := by decide
    ⟨List.Perm.refl _, List.pairwise_of_forall_mem_list fun r hr s hs => by
      obtain ⟨l, hl, -, hrl⟩ := mem_labelJoin.1 hr
      obtain ⟨l', hl', -, hsl⟩ := mem_labelJoin.1 hs
      rw [hkey l hl r hrl, hkey l' hl' s hsl]⟩
  ⟨by decide, by decide, by decide, ⟨by decide, rfl⟩, hvals, hanswer,
    getValuesByKey_shown id _ _ _ (by decide) (by decide) (by decide) "env" (some ⟨0, "env"⟩) ⟨by decide, rfl⟩ _ hvals _
      hanswer "dev"⟩

end AgentLabelModel

end Archestra
