import Mathlib.Data.List.Basic

/-!
# `MemberModel.deleteByMemberOrUserId`

The `member` table as a list of rows, and the `DELETE ... RETURNING` statements of `deleteByMemberOrUserId`: first by
member id, with no organization filter; only when that deletes nothing, and `organizationId` is truthy, by user id
within the organization.

* `deleteByMemberOrUserId_deleted`: every row it deletes has the given member id, or the given user id and
  organization; it answers `undefined` exactly when it deleted nothing;
* `deleteByMemberOrUserId_deletes_other_organization`: the member id of a member of another organization deletes that
  member.
-/

namespace Archestra

/-- A row of `member`: the columns `deleteByMemberOrUserId` reads and returns. -/
structure Member where
  id : String
  organizationId : String
  userId : String
  role : String
  deriving DecidableEq, Repr

namespace MemberModel

/-- `db.delete(membersTable).where(p).returning()`: the rows left and the rows deleted. -/
def deleteWhere (table : List Member) (p : Member → Bool) : List Member × List Member :=
  (table.filter (!p ·), table.filter p)

/-- `deleteByMemberOrUserId(memberIdOrUserId, organizationId)`: the table after it and `deleted[0]`. -/
def deleteByMemberOrUserId (table : List Member) (memberIdOrUserId organizationId : String) :
    List Member × Option Member :=
  let (table, deleted) := deleteWhere table (·.id == memberIdOrUserId)
  if deleted.head?.isNone && organizationId ≠ "" then
    let (table, deleted) := deleteWhere table fun m => m.userId == memberIdOrUserId && m.organizationId == organizationId
    (table, deleted.head?)
  else (table, deleted.head?)

/-- A `DELETE` keeps the rows that fail its condition and answers no row exactly when it kept them all. -/
theorem deleteWhere_spec (table : List Member) (p : Member → Bool) :
    (∀ m ∈ table, m ∉ (deleteWhere table p).1 → p m = true) ∧
      ((deleteWhere table p).2.head? = none ↔ (deleteWhere table p).1 = table) := by
  refine ⟨fun m hm hdel => by simpa [deleteWhere, hm] using hdel, ?_⟩
  simp [deleteWhere, List.filter_eq_nil_iff, List.filter_eq_self]

/-- Every row `deleteByMemberOrUserId(x, o)` deletes has member id `x`, or user id `x` and organization `o`; it
answers `undefined` exactly when it deleted nothing. -/
theorem deleteByMemberOrUserId_deleted (table : List Member) (x o : String) :
    (∀ m ∈ table, m ∉ (deleteByMemberOrUserId table x o).1 → m.id = x ∨ m.userId = x ∧ m.organizationId = o) ∧
      ((deleteByMemberOrUserId table x o).2 = none ↔ (deleteByMemberOrUserId table x o).1 = table) := by
  obtain ⟨hid, hid0⟩ := deleteWhere_spec table (·.id == x)
  simp only [deleteByMemberOrUserId]
  split_ifs with h
  · simp only [Bool.and_eq_true, Option.isNone_iff_eq_none, decide_eq_true_eq] at h
    have htable := hid0.1 h.1
    obtain ⟨hu, hu0⟩ := deleteWhere_spec (deleteWhere table (·.id == x)).1
      fun m => m.userId == x && m.organizationId == o
    rw [htable] at hu hu0 ⊢
    exact ⟨fun m hm hdel => .inr (by simpa using hu m hm hdel), hu0⟩
  · exact ⟨fun m hm hdel => .inl (by simpa using hid m hm hdel), hid0⟩

/-- The member `m-b` of organization `org-b`, deleted by its member id on behalf of organization `org-a`. -/
theorem deleteByMemberOrUserId_deletes_other_organization :
    deleteByMemberOrUserId [⟨"m-b", "org-b", "u-b", "member"⟩] "m-b" "org-a" =
      ([], some ⟨"m-b", "org-b", "u-b", "member"⟩) := by
  decide

end MemberModel

end Archestra
