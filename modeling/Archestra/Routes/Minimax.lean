import Archestra.Js.Object

/-!
# The MiniMax reverse proxy's `preHandler`

The `preHandler` of the raw proxy that `minimaxProxyRoutesV2` registers under `API_PREFIX`.  It signals the internal
`skip` for a `POST` whose URL contains `/chat/completions` anywhere, and otherwise lets the request through, first
rewriting `request.raw.url` when the rest of the URL after `API_PREFIX` matches
`/^\/([0-9a-f]{8}-[0-9a-f]{4}-[0-9a-f]{4}-[0-9a-f]{4}-[0-9a-f]{12})(\/.*)?$/i`.

The regular expression is anchored at both ends and its groups have fixed lengths, so it matches in one way or not
at all: `/`, a UUID, then nothing, or `/` and characters that are not line terminators (what `.` accepts) up to the
end (`uuidMatch`).  A UUID followed by `?` is not matched, and `.*` runs into the query string.

* `replaceFirst_prefix`: `url.replace(API_PREFIX, "")` removes the prefix of a URL that starts with it;
* `uuidMatch_eq_some_iff`: the strings the regular expression matches, and its groups;
* `preHandler_url`: for every method and every URL `API_PREFIX + s`, when the handler skips, and what it forwards;
* `preHandler_keeps_uuid_before_query`: a UUID segment followed by a query string is forwarded upstream.
-/

namespace Archestra

namespace Minimax

def CHAT_COMPLETIONS_SUFFIX : String := "/chat/completions"

/-- `${PROXY_API_PREFIX}/minimax`.  `PROXY_API_PREFIX` comes from `../common`, which is not among the sources: it is
a parameter. -/
def API_PREFIX (PROXY_API_PREFIX : String) : String := PROXY_API_PREFIX ++ "/minimax"

/-- `s.replace(pattern, replacement)` with a string pattern: its first occurrence replaced, `s` itself when there is
none. -/
def replaceFirst (pattern replacement : List Char) : List Char → List Char
  | [] => if pattern = [] then replacement else []
  | c :: s =>
    if pattern <+: c :: s then replacement ++ (c :: s).drop pattern.length
    else c :: replaceFirst pattern replacement s

theorem replaceFirst_prefix (pattern replacement rest : List Char) :
    replaceFirst pattern replacement (pattern ++ rest) = replacement ++ rest := by
  cases h : pattern ++ rest with
  | nil =>
    obtain ⟨rfl, rfl⟩ := List.append_eq_nil.1 h
    simp [replaceFirst]
  | cons c s =>
    rw [replaceFirst, if_pos (h ▸ List.prefix_append pattern rest), ← h, List.drop_left]

/-- `[0-9a-f]` under the `i` flag. -/
def isHexDigit (c : Char) : Bool :=
  (decide ('0' ≤ c) && decide (c ≤ '9')) || (decide ('a' ≤ c) && decide (c ≤ 'f')) ||
    (decide ('A' ≤ c) && decide (c ≤ 'F'))

/-- The line terminators, which `.` does not match. -/
def isLineTerminator (c : Char) : Bool := c == '\n' || c == '\r' || c == '\u2028' || c == '\u2029'

/-- `[0-9a-f]{8}-[0-9a-f]{4}-[0-9a-f]{4}-[0-9a-f]{4}-[0-9a-f]{12}` under the `i` flag. -/
def isUuid (u : List Char) : Bool :=
  u.length == 36 && u.enum.all fun (i, c) => if i = 8 ∨ i = 13 ∨ i = 18 ∨ i = 23 then c == '-' else isHexDigit c

theorem length_of_isUuid {u : List Char} (h : isUuid u = true) : u.length = 36 := by
  simp only [isUuid, Bool.and_eq_true, beq_iff_eq] at h
  exact h.1

/-- `pathAfterPrefix.match(...)`: the UUID (group 1) and group 2, `undefined` when the UUID ends the string. -/
def uuidMatch : List Char → Option (List Char × Option (List Char))
  | [] => none
  | c :: rest =>
    if c = '/' ∧ isUuid (rest.take 36) then
      match rest.drop 36 with
      | [] => some (rest.take 36, none)
      | d :: t => if d = '/' ∧ t.all (!isLineTerminator ·) then some (rest.take 36, some (d :: t)) else none
    else none

/-- The regular expression matches `/` and a UUID `u`, followed by nothing (group 2 `undefined`) or by `/` and
characters none of which is a line terminator (group 2 that rest). -/
theorem uuidMatch_eq_some_iff (s u : List Char) (g : Option (List Char)) :
    uuidMatch s = some (u, g) ↔ isUuid u = true ∧
      ((g = none ∧ s = '/' :: u) ∨
        ∃ t, g = some ('/' :: t) ∧ (∀ c ∈ t, isLineTerminator c = false) ∧ s = '/' :: (u ++ '/' :: t)) := by
  constructor
  · intro h
    cases s with
    | nil => cases h
    | cons c rest =>
      simp only [uuidMatch] at h
      split_ifs at h with hc
      obtain ⟨rfl, hu⟩ := hc
      have hs := (List.take_append_drop 36 rest).symm
      split at h
      · next hd =>
        obtain ⟨rfl, rfl⟩ := Prod.mk.inj (Option.some.inj h)
        exact ⟨hu, .inl ⟨rfl, congrArg ('/' :: ·) (by simpa [hd] using hs)⟩⟩
      · next d t hd =>
        split_ifs at h with ht
        obtain ⟨rfl, rfl⟩ := Prod.mk.inj (Option.some.inj h)
        obtain ⟨rfl, ht⟩ := ht
        exact ⟨hu, .inr ⟨t, rfl, fun c hc => by simpa using List.all_eq_true.1 ht c hc,
          congrArg ('/' :: ·) (hd ▸ hs)⟩⟩
  · rintro ⟨hu, ⟨rfl, rfl⟩ | ⟨t, rfl, ht, rfl⟩⟩
    · have htake : u.take 36 = u := List.take_of_length_le (length_of_isUuid hu).le
      have hdrop : u.drop 36 = [] := List.drop_of_length_le (length_of_isUuid hu).le
      simp [uuidMatch, htake, hdrop, hu]
    · have htake : (u ++ '/' :: t).take 36 = u := by
        rw [List.take_append_of_le_length (length_of_isUuid hu).ge, List.take_of_length_le (length_of_isUuid hu).le]
      have hdrop : (u ++ '/' :: t).drop 36 = '/' :: t := by
        rw [← length_of_isUuid hu, List.drop_left]
      simpa [uuidMatch, htake, hdrop, hu] using ht

/-- What the `preHandler` does: `next(new Error("skip"))`, or `next()` with `request.raw.url` as it leaves it. -/
inductive PreHandlerResult where
  | skip
  | forward (rawUrl : String)
  deriving DecidableEq, Repr

/-- The `preHandler` on a request with `method` and `url` (`request.url`, which is `request.raw.url`). -/
def preHandler (PROXY_API_PREFIX : String) (method url : String) : PreHandlerResult :=
  if decide (method = "POST") && includes url CHAT_COMPLETIONS_SUFFIX then .skip
  else
    let pathAfterPrefix := replaceFirst (API_PREFIX PROXY_API_PREFIX).toList [] url.toList
    match uuidMatch pathAfterPrefix with
    | some (_, remainingPath) => .forward (API_PREFIX PROXY_API_PREFIX ++ ⟨remainingPath.getD []⟩)
    | none => .forward url

/-- For every method and every URL `API_PREFIX + s`: the handler skips exactly for a `POST` whose URL contains
`/chat/completions`, anywhere in its path or its query.  Otherwise, when `s` is `/`, a UUID, and a rest that is empty
or a `/` followed by no line terminator, it forwards `API_PREFIX + rest`; for any other `s` (a UUID followed by `?`
among them) it forwards the URL as it came. -/
theorem preHandler_url (PROXY_API_PREFIX method : String) (s : List Char) :
    (preHandler PROXY_API_PREFIX method (API_PREFIX PROXY_API_PREFIX ++ ⟨s⟩) = .skip ↔
      method = "POST" ∧ includes (API_PREFIX PROXY_API_PREFIX ++ ⟨s⟩) CHAT_COMPLETIONS_SUFFIX = true) ∧
    (¬(method = "POST" ∧ includes (API_PREFIX PROXY_API_PREFIX ++ ⟨s⟩) CHAT_COMPLETIONS_SUFFIX = true) →
      (∀ u rest, s = '/' :: (u ++ rest) → isUuid u = true →
          (rest = [] ∨ ∃ t, rest = '/' :: t ∧ ∀ c ∈ t, isLineTerminator c = false) →
        preHandler PROXY_API_PREFIX method (API_PREFIX PROXY_API_PREFIX ++ ⟨s⟩) =
          .forward (API_PREFIX PROXY_API_PREFIX ++ ⟨rest⟩)) ∧
      ((¬∃ u rest, s = '/' :: (u ++ rest) ∧ isUuid u = true ∧
          (rest = [] ∨ ∃ t, rest = '/' :: t ∧ ∀ c ∈ t, isLineTerminator c = false)) →
        preHandler PROXY_API_PREFIX method (API_PREFIX PROXY_API_PREFIX ++ ⟨s⟩) =
          .forward (API_PREFIX PROXY_API_PREFIX ++ ⟨s⟩))) := by
  generalize hurl : API_PREFIX PROXY_API_PREFIX ++ ⟨s⟩ = url
  have hpath : replaceFirst (API_PREFIX PROXY_API_PREFIX).toList [] url.toList = s := by
    rw [← hurl, show (API_PREFIX PROXY_API_PREFIX ++ ⟨s⟩).toList = (API_PREFIX PROXY_API_PREFIX).toList ++ s from
      String.data_append _ _, replaceFirst_prefix, List.nil_append]
  by_cases hskip : method = "POST" ∧ includes url CHAT_COMPLETIONS_SUFFIX = true
  · refine ⟨iff_of_true (by simp [preHandler, hskip.1, hskip.2]) hskip, fun h => absurd hskip h⟩
  · have hno : (decide (method = "POST") && includes url CHAT_COMPLETIONS_SUFFIX) = false := by
      simpa [Bool.and_eq_true, not_and] using hskip
    have hfwd : preHandler PROXY_API_PREFIX method url = match uuidMatch s with
        | some (_, remainingPath) => .forward (API_PREFIX PROXY_API_PREFIX ++ ⟨remainingPath.getD []⟩)
        | none => .forward url := by
      simp only [preHandler, hno, Bool.false_eq_true, if_false, hpath]
    refine ⟨iff_of_false (by rw [hfwd]; split <;> simp) hskip, fun _ => ⟨?_, fun hnot => ?_⟩⟩
    · intro u rest hs hu hrest
      rcases hrest with rfl | ⟨t, rfl, ht⟩
      · rw [hfwd, (uuidMatch_eq_some_iff s u none).2 ⟨hu, .inl ⟨rfl, by simpa using hs⟩⟩]
        rfl
      · rw [hfwd, (uuidMatch_eq_some_iff s u (some ('/' :: t))).2 ⟨hu, .inr ⟨t, rfl, ht, hs⟩⟩]
        rfl
    · rw [hfwd]
      cases hm : uuidMatch s with
      | none => rfl
      | some p =>
        obtain ⟨u, g⟩ := p
        obtain ⟨hu, ⟨rfl, rfl⟩ | ⟨t, rfl, ht, rfl⟩⟩ := (uuidMatch_eq_some_iff s u g).1 hm
        · exact absurd ⟨u, [], by simp, hu, .inl rfl⟩ hnot
        · exact absurd ⟨u, '/' :: t, rfl, hu, .inr ⟨t, rfl, ht⟩⟩ hnot

/-- A UUID followed by a path is stripped. -/
example : preHandler "/api/proxy-v2" "GET" "/api/proxy-v2/minimax/0b5c1a3e-7d2f-4e8a-9c6b-1f2e3d4c5b6a/v1/models?x=1" =
    .forward "/api/proxy-v2/minimax/v1/models?x=1" := by
  decide

/-- A `POST` to `/v1/chat/completions` is skipped, though its path is not `/chat/completions`. -/
example : preHandler "/api/proxy-v2" "POST" "/api/proxy-v2/minimax/v1/chat/completions" = .skip := by
  decide

/-- Under `/api/proxy-v2`, the prefix of the spec's route table, the same UUID segment is stripped when it ends the
URL and kept when a query string follows it: the regular expression is anchored at the end and admits after the UUID
only nothing or `/...`, so the upstream URL keeps the segment that only identified the calling agent. -/
theorem preHandler_keeps_uuid_before_query :
    preHandler "/api/proxy-v2" "GET" "/api/proxy-v2/minimax/0b5c1a3e-7d2f-4e8a-9c6b-1f2e3d4c5b6a" =
        .forward "/api/proxy-v2/minimax" ∧
      preHandler "/api/proxy-v2" "GET" "/api/proxy-v2/minimax/0b5c1a3e-7d2f-4e8a-9c6b-1f2e3d4c5b6a?x=1" =
        .forward "/api/proxy-v2/minimax/0b5c1a3e-7d2f-4e8a-9c6b-1f2e3d4c5b6a?x=1" := by
  decide

end Minimax

end Archestra
