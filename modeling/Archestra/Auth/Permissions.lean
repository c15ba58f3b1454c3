import Archestra.Js.Object

/-!
# `useHasPermissions` and `WithPermissions`

The frontend hook folds the permission strings `resource:action` into the map it sends to
`authClient.organization.hasPermission`, and `WithPermission`/`WithPermissions` render their children when the
hook answers `true`.  The fold sets `acc[resource] = [action]`, so a later permission on a resource replaces an
earlier one.  What the server answers is a parameter: `result.data?.success`, `none` when the request fails.

* `lookup_permissionMap`: the map sends each resource to the action of its last permission;
* `withPermissions_renders_without_read`: a user granted `agent:delete` alone sees children guarded by
  `["agent:read", "agent:delete"]`.
-/

namespace Archestra

/-- A `Record<Resource, Action[]>`: its entries in insertion order; an action is `undefined` (`none`) when the
permission string has no colon. -/
abbrev PermissionMap := List (String × List (Option String))

/-- `permission.split(":")` destructured as `[resource, action]`. -/
def splitPermission (permission : String) : String × Option String :=
  match (permission.toList.splitOn ':').map String.mk with
  | resource :: action :: _ => (resource, some action)
  | [resource] => (resource, none)
  | [] => ("", none)

/-- The `reduce` of `useHasPermissions`. -/
def permissionMap (permissions : List String) : PermissionMap :=
  permissions.foldl (fun acc permission =>
    let (resource, action) := splitPermission permission
    Js.setProp acc resource [action]) []

/-- `useHasPermissions(permissions)` once its effect has run: `result.data?.success ?? false`. -/
def useHasPermissions (hasPermission : PermissionMap → Option Bool) (permissions : List String) : Bool :=
  (hasPermission (permissionMap permissions)).getD false

/-- `WithPermissions`: the children, or `null`. -/
def WithPermissions {α : Type} (hasPermission : PermissionMap → Option Bool) (permissions : List String)
    (children : α) : Option α :=
  if useHasPermissions hasPermission permissions then some children else none

/-- `WithPermission` has the body of `WithPermissions`. -/
def WithPermission {α : Type} (hasPermission : PermissionMap → Option Bool) (permissions : List String)
    (children : α) : Option α :=
  WithPermissions hasPermission permissions children

/-- A server whose answer to a map is whether the user holds every action it lists for each resource. -/
def grants (holds : String → Option String → Bool) (permissions : PermissionMap) : Option Bool :=
  some (permissions.all fun e => e.2.all (holds e.1))

/-- The map sends a resource to the action of the last permission on it, and has no entry for a resource no
permission names. -/
theorem lookup_permissionMap (permissions : List String) (r : String) :
    (permissionMap permissions).lookup r =
      (((permissions.map splitPermission).reverse.find? (·.1 == r)).map fun p => [p.2]) := by
  induction permissions using List.reverseRecOn with
  | nil => rfl
  | append_singleton ps p ih =>
    rw [permissionMap, List.foldl_append, ← permissionMap, List.foldl_cons, List.foldl_nil, Js.lookup_setProp, ih]
    simp only [List.map_append, List.map_singleton, List.reverse_append, List.reverse_singleton,
      List.singleton_append, List.find?_cons]
    by_cases hr : r = (splitPermission p).1
    · simp [hr]
    · simp [hr, beq_false_of_ne (Ne.symm hr)]

/-- A user granted `agent:delete` alone: the map holds only `agent: [delete]`, and the children are rendered. -/
theorem withPermissions_renders_without_read :
    permissionMap ["agent:read", "agent:delete"] = [("agent", [some "delete"])] ∧
      WithPermissions (grants fun r a => r == "agent" && a == some "delete") ["agent:read", "agent:delete"] () =
        some () := by
  decide

end Archestra
