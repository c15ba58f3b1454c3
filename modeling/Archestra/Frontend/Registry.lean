import Mathlib.Data.String.Basic
import Mathlib.Data.List.Basic
import Mathlib.Tactic.Ring

/-!
# The external registry list

`McpCatalogPage` (`ExternalMCPRegistry.tsx`) flattens the pages of `useMcpRegistryServersInfinite` into one list of
servers, giving each the id `${baseId}-${globalIndex++}`, where `baseId` is `name:version`, the name, or
`unknown`, and the counter runs on across the pages.  The ids are the React keys of the cards.  The list then hides
the servers whose name is in the organization's catalog, and keeps, when a category is selected, those listing it.

* `listPages_eq`: the loops with their counter give each entry its position in the concatenated pages;
* `index_eq_of_id_eq`: an id determines its index, whatever the names and versions, since the index is written
  after the last `-` and has no `-` in it;
* `filteredServers_ids_nodup`: the shown servers have pairwise distinct ids, none of them is in the catalog, and
  they keep the order of the pages.

`transformMcpServer`, which `useMcpRegistryServers` applies, names each entry after its server alone, so two
versions of one server share an id there.
-/

namespace Archestra

namespace McpRegistry

/-! ### Decimal digits -/

/-- The number a list of decimal digits stands for, most significant first. -/
def digitsValue : List Char → Nat
  | [] => 0
  | c :: cs => (c.toNat - '0'.toNat) * 10 ^ cs.length + digitsValue cs

theorem digitChar_value {k : Nat} (hk : k < 10) : (Nat.digitChar k).toNat - '0'.toNat = k := by
  have h : ∀ k : Fin 10, (Nat.digitChar k).toNat - '0'.toNat = k := by decide
  exact h ⟨k, hk⟩

theorem digitChar_ne_dash {k : Nat} (hk : k < 10) : Nat.digitChar k ≠ '-' := by
  have h : ∀ k : Fin 10, Nat.digitChar k ≠ '-' := by decide
  exact h ⟨k, hk⟩

/-- With enough fuel, `toDigitsCore` puts the digits of `n` in front of `ds`. -/
theorem digitsValue_toDigitsCore (fuel n : Nat) (ds : List Char) (hn : n < fuel) :
    digitsValue (Nat.toDigitsCore 10 fuel n ds) = n * 10 ^ ds.length + digitsValue ds := by
  induction fuel generalizing n ds with
  | zero => omega
  | succ fuel ih =>
    have hd := digitChar_value (Nat.mod_lt n (by omega : 10 > 0))
    have hnm := Nat.div_add_mod n 10
    show digitsValue (if n / 10 = 0 then Nat.digitChar (n % 10) :: ds
      else Nat.toDigitsCore 10 fuel (n / 10) (Nat.digitChar (n % 10) :: ds)) = _
    split
    · next h0 =>
      rw [digitsValue, hd, Nat.mod_eq_of_lt (by omega : n < 10)]
    · next h0 =>
      rw [ih (n / 10) _ (by omega), digitsValue, hd, List.length_cons, pow_succ]
      calc n / 10 * (10 ^ ds.length * 10) + (n % 10 * 10 ^ ds.length + digitsValue ds)
          = (10 * (n / 10) + n % 10) * 10 ^ ds.length + digitsValue ds := by ring
        _ = n * 10 ^ ds.length + digitsValue ds := by rw [hnm]

theorem dash_not_mem_toDigitsCore (fuel n : Nat) {ds : List Char} (hds : '-' ∉ ds) :
    '-' ∉ Nat.toDigitsCore 10 fuel n ds := by
  induction fuel generalizing n ds with
  | zero => exact hds
  | succ fuel ih =>
    have hd := digitChar_ne_dash (Nat.mod_lt n (by omega : 10 > 0))
    show '-' ∉ if n / 10 = 0 then Nat.digitChar (n % 10) :: ds
      else Nat.toDigitsCore 10 fuel (n / 10) (Nat.digitChar (n % 10) :: ds)
    split
    · exact List.not_mem_cons_of_ne_of_not_mem hd.symm hds
    · exact ih _ (List.not_mem_cons_of_ne_of_not_mem hd.symm hds)

/-- `toString n` stands for `n`. -/
theorem digitsValue_toString (n : Nat) : digitsValue (toString n).data = n := by
  show digitsValue (Nat.toDigitsCore 10 (n + 1) n []) = n
  rw [digitsValue_toDigitsCore _ _ _ (Nat.lt_succ_self n), List.length_nil, pow_zero, mul_one]
  rfl

theorem dash_not_mem_toString (n : Nat) : '-' ∉ (toString n).data :=
  dash_not_mem_toDigitsCore _ _ (List.not_mem_nil _)

/-! ### Ids -/

/-- What follows the last occurrence of a separator is determined by the list. -/
theorem eq_of_append_cons {c : Char} {l₁ l₂ s₁ s₂ : List Char} (h : l₁ ++ c :: s₁ = l₂ ++ c :: s₂)
    (h₁ : c ∉ s₁) (h₂ : c ∉ s₂) : s₁ = s₂ := by
  induction l₁ generalizing l₂ with
  | nil =>
    cases l₂ with
    | nil => exact (List.cons.inj h).2
    | cons x l₂ =>
      obtain ⟨rfl, rfl⟩ := List.cons.inj h
      exact absurd (List.mem_append_right _ (List.mem_cons_self _ _)) h₁
  | cons x l₁ ih =>
    cases l₂ with
    | nil =>
      obtain ⟨rfl, h⟩ := List.cons.inj h
      exact absurd (h ▸ List.mem_append_right _ (List.mem_cons_self _ _)) h₂
    | cons y l₂ => exact ih (List.cons.inj h).2

/-- An id `${baseId}-${index}` determines its index. -/
theorem index_eq_of_id_eq {b₁ b₂ : String} {k₁ k₂ : Nat} (h : b₁ ++ "-" ++ toString k₁ = b₂ ++ "-" ++ toString k₂) :
    k₁ = k₂ := by
  have hd := congrArg String.data h
  simp only [String.data_append, List.append_assoc, show "-".data = ['-'] from rfl, List.singleton_append] at hd
  have hs := eq_of_append_cons hd (dash_not_mem_toString k₁) (dash_not_mem_toString k₂)
  rw [← digitsValue_toString k₁, ← digitsValue_toString k₂, hs]

/-! ### The list -/

/-- `server.repository` of a registry entry: the `url` the list reads. -/
structure Repository where
  url : Option String
  deriving DecidableEq, Repr

/-- The `server` of a registry entry, as `McpServerApiResponse` declares it. -/
structure ServerInfo where
  name : String
  description : Option String
  repository : Option Repository
  version : Option String
  vendor : Option String
  homepage : Option String
  deriving DecidableEq, Repr

/-- `_meta["io.modelcontextprotocol.registry/official"]`: the two dates the list reads. -/
structure OfficialMeta where
  publishedAt : Option String
  updatedAt : Option String
  deriving DecidableEq, Repr

/-- An entry of a registry page: the server, and its official metadata (`item._meta?.[...]`). -/
structure McpServerApiResponse where
  server : ServerInfo
  official : Option OfficialMeta
  deriving DecidableEq, Repr

/-- A page of `useMcpRegistryServersInfinite`: its `servers` and `metadata.nextCursor`. -/
structure McpRegistryApiResponse where
  servers : List McpServerApiResponse
  nextCursor : Option String
  deriving DecidableEq, Repr

/-- The `McpServer` interface; `categories` and `tags` are `undefined` (`none`) when not set. -/
structure McpServer where
  id : String
  name : String
  description : Option String
  author : Option String
  homepage : Option String
  repository : Option String
  categories : Option (List String)
  tags : Option (List String)
  version : Option String
  createdAt : Option String
  updatedAt : Option String
  sourceUrl : Option String
  vendor : Option String
  deriving DecidableEq, Repr

/-- `server.version ? `${server.name}:${server.version}` : server.name || "unknown"`. -/
def baseId (server : ServerInfo) : String :=
  match server.version.filter (· ≠ "") with
  | some version => server.name ++ ":" ++ version
  | none => if server.name ≠ "" then server.name else "unknown"

/-- The entry the list makes of the registry item `item` when the counter is at `globalIndex`. -/
def listedServer (item : McpServerApiResponse) (globalIndex : Nat) : McpServer :=
  let server := item.server
  let meta := item.official
  { id := baseId server ++ "-" ++ toString globalIndex, name := server.name, description := server.description,
    author := server.vendor, homepage := server.homepage, repository := server.repository.bind (·.url),
    categories := some [], tags := some [], version := server.version, createdAt := meta.bind (·.publishedAt),
    updatedAt := meta.bind (·.updatedAt), vendor := server.vendor, sourceUrl := server.repository.bind (·.url) }

/-- `page.servers.map(...)` from the counter `globalIndex`: the entries, and the counter after them. -/
def listPage : List McpServerApiResponse → Nat → List McpServer × Nat
  | [], globalIndex => ([], globalIndex)
  | item :: items, globalIndex =>
    (listedServer item globalIndex :: (listPage items (globalIndex + 1)).1, (listPage items (globalIndex + 1)).2)

/-- `data.pages.flatMap(...)`, the counter running on from one page to the next. -/
def listPages : List McpRegistryApiResponse → Nat → List McpServer
  | [], _ => []
  | page :: pages, globalIndex =>
    (listPage page.servers globalIndex).1 ++ listPages pages (listPage page.servers globalIndex).2

/-- The `servers` memo: no entries before the first page has arrived, the counter starting at `0`. -/
def servers (data : Option (List McpRegistryApiResponse)) : List McpServer :=
  match data with
  | none => []
  | some pages => listPages pages 0

/-- The `filteredServers` memo, `catalogNames` being `catalogItems?.map((item) => item.name) || []`. -/
def filteredServers (servers : List McpServer) (catalogNames : List String) (selectedCategory : Option String) :
    List McpServer :=
  let filtered := servers.filter fun server => !catalogNames.contains server.name
  match selectedCategory.filter (· ≠ "") with
  | some category => filtered.filter fun server => (server.categories.map (·.contains category)).getD false
  | none => filtered

/-- The entries of one page are its items at their positions from the counter, which moves past them. -/
theorem listPage_eq (items : List McpServerApiResponse) (globalIndex : Nat) :
    listPage items globalIndex =
      ((items.enumFrom globalIndex).map fun p => listedServer p.2 p.1, globalIndex + items.length) := by
  induction items generalizing globalIndex with
  | nil => rfl
  | cons item items ih =>
    rw [listPage, ih, List.enumFrom_cons, List.map_cons, List.length_cons, Nat.add_assoc, Nat.add_comm 1]

/-- The flattened list gives each item its position in the concatenated pages, from the counter's start. -/
theorem listPages_eq (pages : List McpRegistryApiResponse) (globalIndex : Nat) :
    listPages pages globalIndex =
      ((pages.flatMap (·.servers)).enumFrom globalIndex).map fun p => listedServer p.2 p.1 := by
  induction pages generalizing globalIndex with
  | nil => rfl
  | cons page pages ih =>
    rw [listPages, listPage_eq, ih, List.flatMap_cons, List.enumFrom_append, List.map_append]

/-- The ids of the entries are pairwise distinct, for every pages. -/
theorem servers_ids_nodup (data : Option (List McpRegistryApiResponse)) :
    ((servers data).map (·.id)).Nodup := by
  cases data with
  | none => exact List.nodup_nil
  | some pages =>
    rw [servers, listPages_eq, List.map_map, List.Nodup, List.pairwise_map]
    have hlt := List.pairwise_map.1 ((List.enumFrom_map_fst 0 (pages.flatMap (·.servers))).symm ▸
      List.pairwise_lt_range' 0 _)
    refine hlt.imp ?_
    intro p q hpq hid
    exact Nat.ne_of_lt hpq (index_eq_of_id_eq hid)

theorem filteredServers_sublist (servers : List McpServer) (catalogNames : List String)
    (selectedCategory : Option String) : (filteredServers servers catalogNames selectedCategory).Sublist servers := by
  unfold filteredServers
  split
  · exact (List.filter_sublist _).trans (List.filter_sublist _)
  · exact List.filter_sublist _

theorem name_not_mem_of_mem_filteredServers {servers : List McpServer} {catalogNames : List String}
    {selectedCategory : Option String} {server : McpServer}
    (h : server ∈ filteredServers servers catalogNames selectedCategory) : server.name ∉ catalogNames := by
  unfold filteredServers at h
  split at h
  · simpa using (List.mem_filter.1 (List.mem_filter.1 h).1).2
  · simpa using (List.mem_filter.1 h).2

/-- For every pages, catalog and selected category, the servers shown have pairwise distinct ids, none is in the
catalog, and they come in the order of the pages. -/
theorem filteredServers_ids_nodup (data : Option (List McpRegistryApiResponse)) (catalogNames : List String)
    (selectedCategory : Option String) :
    let shown := filteredServers (servers data) catalogNames selectedCategory
    (shown.map (·.id)).Nodup ∧ (∀ server ∈ shown, server.name ∉ catalogNames) ∧ shown.Sublist (servers data) :=
  have hsub := filteredServers_sublist (servers data) catalogNames selectedCategory
  ⟨(servers_ids_nodup data).sublist (hsub.map _), fun _ => name_not_mem_of_mem_filteredServers, hsub⟩

/-- `transformMcpServer` of `useMcpRegistryServers`: the id is the name, or `server-${index}` without one. -/
def transformMcpServer (item : McpServerApiResponse) (index : Nat) : McpServer :=
  let server := item.server
  let meta := item.official
  { id := if server.name ≠ "" then server.name else "server-" ++ toString index, name := server.name,
    description := server.description, author := server.vendor, homepage := server.homepage,
    repository := server.repository.bind (·.url), categories := none, tags := none, version := server.version,
    createdAt := meta.bind (·.publishedAt), updatedAt := meta.bind (·.updatedAt), vendor := server.vendor,
    sourceUrl := server.repository.bind (·.url) }

/-- `data.servers.map(transformMcpServer)`, each item with its index in the page. -/
def useMcpRegistryServers (page : McpRegistryApiResponse) : List McpServer :=
  (page.servers.enum).map fun p => transformMcpServer p.2 p.1

/-- Two versions of one server: the same id from `transformMcpServer`, two ids in the list. -/
example :
    let item (version : String) : McpServerApiResponse :=
      ⟨⟨"io.github/fs", none, none, some version, none, none⟩, none⟩
    let page : McpRegistryApiResponse := ⟨[item "1.0.0", item "1.1.0"], none⟩
    (useMcpRegistryServers page).map (·.id) = ["io.github/fs", "io.github/fs"] ∧
      (servers (some [page])).map (·.id) = ["io.github/fs:1.0.0-0", "io.github/fs:1.1.0-1"] := by
  decide

end McpRegistry

end Archestra
