import Mathlib.Data.List.Basic

/-!
# The README dialog of the MCP registry

`ReadmeDialog` fetches the README of its `server` prop from the raw content host, in an effect on `[server]`: the
effect's `fetchReadme` is an async function that tries the branch `main`, then `master`, and that nothing cancels.
The dialog's state is its `server` prop, its `content`, `loading` and `error`, and the calls of `fetchReadme` in
progress, each suspended at one of its `await`s.  A run is any sequence of prop changes and settlements of those
awaits, in any order.  What the network answers is a parameter: the response of `fetch(url)`, the same for a URL
whenever it is asked.  A change of the `server` prop is taken together with the effect it sets off: the states of
the model are the dialog once its effects have run, and the results speak of those.  The render in between, which
shows the new server's title over the previous `content`, `loading` and `error`, is not a state of the model.

* `remaining_resume`: settling an await keeps the outcome the call will end with, and `fetchReadme_cases`: a call
  that starts waits for the outcome `outcomeOf` its server, what `fetchReadme` ends with when nothing else runs;
* `Inv.step`, `Inv.run`: while the server prop changes only when no call is in progress, the dialog is idle and
  shows what belongs to its server, or is fetching for its server with the spinner on;
* `shown_belongs_of_quiet`: in every such run, whatever the order the awaits settle in, once the effects have run the
  README or the error the dialog shows is the one `fetchReadme` gives for its current server;
* `spinner_stops`: in every run the spinner is on only while a call is in progress, no schedule settles more awaits
  than the calls have left, and settling the oldest call's awaits ends every call with the spinner off;
* `run_stale_last`: without that condition a call for a server selected earlier that ends last writes its outcome
  over the dialog of the server selected later, for every network and every two servers with GitHub repositories;
* `fetchReadme_stale_overwrite`: so selecting `alpha` then `beta`, with `beta`'s README arriving first, leaves the
  dialog showing `alpha`'s README while `beta` is selected.
-/

namespace Archestra

namespace ReadmeDialog

/-- The fields of an `McpServer` the dialog reads: its `name` for the title, and its `repository` URL. -/
structure McpServer where
  name : String
  repository : Option String
  deriving DecidableEq, Repr

/-- A string as `if` and JSX test it: absent, `null` and `""` are falsy. -/
def truthy (s : Option String) : Option String := s.filter (· != "")

/-! ## The repository URL -/

/-- `[^/]+`, greedy: the longest non-empty run of characters other than `/` at the start of `s`, and the rest. -/
def nonSlashRun (s : List Char) : Option (List Char × List Char) :=
  match s.span (· != '/') with
  | ([], _) => none
  | run => some run

/-- The pattern `github\.com\/([^/]+)\/([^/]+)` matched at the start of `s`: its two groups.  A greedy `[^/]+`
followed by `\/` can only match its longest run, so no backtracking is needed. -/
def matchGithubAt (s : List Char) : Option (List Char × List Char) :=
  if "github.com/".toList.isPrefixOf s then
    match nonSlashRun (s.drop 11) with
    | some (owner, '/' :: rest) => (nonSlashRun rest).map fun run => (owner, run.1)
    | _ => none
  else none

/-- `server.repository.match(/github\.com\/([^/]+)\/([^/]+)/)`: the groups of the leftmost match. -/
def githubMatch : List Char → Option (List Char × List Char)
  | [] => none
  | c :: cs => (matchGithubAt (c :: cs)).orElse fun _ => githubMatch cs

/-- `repo.replace(/\.git$/, "")`. -/
def cleanRepo (repo : List Char) : List Char :=
  if ".git".toList.isSuffixOf repo then repo.take (repo.length - 4) else repo

/-- The template `https://raw.githubusercontent.com/${owner}/${cleanRepo}/${branch}/README.md`. -/
def rawUrl (owner repo : List Char) (branch : String) : String :=
  "https://raw.githubusercontent.com/" ++ String.mk owner ++ "/" ++ String.mk repo ++ "/" ++ branch ++ "/README.md"

/-! ## Calls of `fetchReadme` -/

/-- How `fetch(url)` settles: it rejects, or it resolves to a response with `response.ok`, whose `text()` resolves
to `some body` or rejects (`none`). -/
inductive Response where
  | rejected
  | resolved (ok : Bool) (text : Option String)
  deriving DecidableEq, Repr

/-- A host holding `files`, by URL: it answers each with `200` and the file, every other URL with `404`. -/
def servedAt (files : List (String × String)) (url : String) : Response :=
  match files.lookup url with
  | some body => .resolved true (some body)
  | none => .resolved false (some "404: Not Found")

/-- How a call of `fetchReadme` ends: `setContent(readmeContent)`, or `setError(err.message)`; each with
`setLoading(false)`. -/
inductive Outcome where
  | content (readme : String)
  | error (message : String)
  deriving DecidableEq, Repr

/-- The code after the branch loop: `if (!readmeContent) throw new Error("README.md not found")`, then
`setContent(readmeContent)`. -/
def readmeOutcome (readmeContent : String) : Outcome :=
  if readmeContent = "" then .error "README.md not found" else .content readmeContent

/-- The branch loop run to its end with nothing in between: the `readmeContent` it leaves, `""` when no branch
answered `ok` with a body. -/
def firstReadme (net : String → Response) (owner repo : List Char) : List String → String
  | [] => ""
  | branch :: rest =>
    match net (rawUrl owner repo branch) with
    | .resolved true (some body) => body
    | _ => firstReadme net owner repo rest

/-- What `fetchReadme` for `server` ends with when nothing else runs: the checks before the loop, the loop over
`["main", "master"]`, and the code after it. -/
def outcomeOf (net : String → Response) (server : McpServer) : Outcome :=
  match truthy server.repository with
  | none => .error "No repository URL available"
  | some repository =>
    match githubMatch repository.toList with
    | none => .error "Not a GitHub repository"
    | some (owner, repo) => readmeOutcome (firstReadme net owner (cleanRepo repo) ["main", "master"])

/-- Where a call of `fetchReadme` is suspended in its branch loop: at `await fetch(rawUrl)` for `branch`, or at
`await response.text()` of a response that was `ok`, whose text settles as `text`; `rest` are the branches after
the current one. -/
inductive Await where
  | fetch (branch : String) (rest : List String)
  | text (text : Option String) (rest : List String)
  deriving DecidableEq, Repr

/-- A call of `fetchReadme` in progress: the `server` its closure captured, the `owner` and clean `repo` it
computed, and the await it is suspended at. -/
structure Task where
  server : McpServer
  owner : List Char
  repo : List Char
  await : Await
  deriving DecidableEq, Repr

/-- The loop goes on after the branch it was at: to `await fetch` of the next branch, or, with none left, out of
the loop with `readmeContent` still `""`. -/
def nextBranch : List String → Await ⊕ Outcome
  | [] => .inr (readmeOutcome "")
  | branch :: rest => .inl (.fetch branch rest)

/-- The await a call is suspended at settles, and the call runs on to its next await or to its end.  A rejected
`fetch` or `text()` is caught in the loop (`catch {}`), as a response that is not `ok` is skipped, and the loop
goes on; a text that resolves is `readmeContent`, and the loop breaks. -/
def Task.resume (net : String → Response) (t : Task) : Await ⊕ Outcome :=
  match t.await with
  | .fetch branch rest =>
    match net (rawUrl t.owner t.repo branch) with
    | .resolved true text => .inl (.text text rest)
    | _ => nextBranch rest
  | .text (some body) _ => .inr (readmeOutcome body)
  | .text none rest => nextBranch rest

/-- The outcome a call in progress ends with, whatever runs in between. -/
def remaining (net : String → Response) (t : Task) : Outcome :=
  match t.await with
  | .fetch branch rest => readmeOutcome (firstReadme net t.owner t.repo (branch :: rest))
  | .text (some body) _ => readmeOutcome body
  | .text none rest => readmeOutcome (firstReadme net t.owner t.repo rest)

/-- Settling an await keeps the outcome the call ends with: the call goes on to an await with the same outcome, or
ends with it. -/
theorem remaining_resume (net : String → Response) (t : Task) :
    (t.resume net).elim (fun a => remaining net { t with await := a }) id = remaining net t := by
  obtain ⟨server, owner, repo, await⟩ := t
  have next : ∀ rest, (nextBranch rest).elim (fun a => remaining net ⟨server, owner, repo, a⟩) id =
      readmeOutcome (firstReadme net owner repo rest) := by
    rintro (_ | _) <;> rfl
  cases await with
  | fetch branch rest =>
    simp only [Task.resume, remaining, firstReadme]
    rcases net (rawUrl owner repo branch) with _ | ⟨_ | _, _ | _⟩ <;> first | rfl | exact next rest
  | text text rest => cases text <;> first | rfl | exact next rest

theorem remaining_of_resume_inl {net : String → Response} {t : Task} {a : Await} (h : t.resume net = .inl a) :
    remaining net { t with await := a } = remaining net t := by
  rw [← remaining_resume net t, h]
  rfl

theorem remaining_of_resume_inr {net : String → Response} {t : Task} {o : Outcome} (h : t.resume net = .inr o) :
    remaining net t = o := by
  rw [← remaining_resume net t, h]
  rfl

/-! ## The dialog -/

/-- The dialog: its `server` prop, its state `content`, `loading` and `error`, and the calls of `fetchReadme` in
progress, in the order they started. -/
structure Dialog where
  server : Option McpServer
  content : String
  loading : Bool
  error : Option String
  tasks : List Task
  deriving DecidableEq, Repr

/-- The dialog as it mounts with no server: `useState("")`, `useState(false)`, `useState<string | null>(null)`. -/
def Dialog.init : Dialog := ⟨none, "", false, none, []⟩

/-- The state updates a call of `fetchReadme` ends with. -/
def Dialog.finish (d : Dialog) : Outcome → Dialog
  | .content readme => { d with content := readme, loading := false }
  | .error message => { d with error := some message, loading := false }

@[simp] theorem Dialog.finish_server (d : Dialog) (o : Outcome) : (d.finish o).server = d.server := by
  cases o <;> rfl

@[simp] theorem Dialog.finish_tasks (d : Dialog) (o : Outcome) : (d.finish o).tasks = d.tasks := by
  cases o <;> rfl

/-- `fetchReadme()` as the effect calls it, up to its first `await`: the checks before the loop, and then the call
suspended at the `fetch` of `main`, the first of `branches = ["main", "master"]`. -/
def fetchReadme (d : Dialog) (server : McpServer) : Dialog :=
  match truthy server.repository with
  | none => d.finish (.error "No repository URL available")
  | some repository =>
    let d := { d with loading := true, error := none }
    match githubMatch repository.toList with
    | none => d.finish (.error "Not a GitHub repository")
    | some (owner, repo) =>
      { d with tasks := d.tasks ++ [⟨server, owner, cleanRepo repo, .fetch "main" ["master"]⟩] }

/-- The effect on `[server]`, run when the dialog renders with a changed `server` prop. -/
def effect (d : Dialog) : Option McpServer → Dialog
  | none => { d with server := none, content := "", error := none, loading := false }
  | some server => fetchReadme { d with server := some server } server

/-- What can happen next: the parent renders the dialog with a changed `server` prop, or the await of the call at
position `i` of those in progress settles. -/
inductive Event where
  | select (server : Option McpServer)
  | settle (i : Nat)
  deriving DecidableEq, Repr

/-- One event. -/
def step (net : String → Response) (d : Dialog) : Event → Dialog
  | .select server => effect d server
  | .settle i =>
    match d.tasks[i]? with
    | none => d
    | some t =>
      match t.resume net with
      | .inl await => { d with tasks := d.tasks.set i { t with await } }
      | .inr outcome => { d with tasks := d.tasks.eraseIdx i }.finish outcome

/-- A run: the events in order. -/
def run (net : String → Response) (d : Dialog) (es : List Event) : Dialog := es.foldl (step net) d

/-- The title `{server?.name || "Server"} README`. -/
def Dialog.title (d : Dialog) : String :=
  ((d.server.bind fun s => truthy (some s.name)).getD "Server") ++ " README"

/-- The README the open dialog renders: `!loading && !error && content`. -/
def Dialog.shownReadme (d : Dialog) : Option String :=
  if d.server.isSome && !d.loading && (truthy d.error).isNone && d.content != "" then some d.content else none

/-- The message of the error panel the open dialog renders: `error && ...`. -/
def Dialog.shownError (d : Dialog) : Option String :=
  if d.server.isSome then truthy d.error else none

/-- What the dialog shows belongs to its current server: a README it shows is the one `fetchReadme` for that server
ends with, and so is an error it shows. -/
def Belongs (net : String → Response) (d : Dialog) : Prop :=
  (∀ readme, d.shownReadme = some readme → ∃ s, d.server = some s ∧ outcomeOf net s = .content readme) ∧
    ∀ message, d.shownError = some message → ∃ s, d.server = some s ∧ outcomeOf net s = .error message

/-! ## What one call gives -/

/-- A call of `fetchReadme` ends before its first await, with an error and the outcome it has alone, or starts a
call for `server`, with the spinner on and no error, whose outcome is that one. -/
theorem fetchReadme_cases (net : String → Response) (d : Dialog) (server : McpServer) :
    (∃ message, outcomeOf net server = .error message ∧ fetchReadme d server = d.finish (.error message)) ∨
      ∃ t, t.server = server ∧ remaining net t = outcomeOf net server ∧
        fetchReadme d server = { d with loading := true, error := none, tasks := d.tasks ++ [t] } := by
  unfold fetchReadme outcomeOf
  rcases truthy server.repository with _ | repository
  · exact .inl ⟨_, rfl, rfl⟩
  · dsimp only
    rcases githubMatch repository.toList with _ | ⟨owner, repo⟩
    · exact .inl ⟨_, rfl, rfl⟩
    · exact .inr ⟨⟨server, owner, cleanRepo repo, .fetch "main" ["master"]⟩, rfl, rfl, rfl⟩

/-- Every error `fetchReadme` ends with has a message, so the error panel shows it. -/
theorem outcomeOf_error_ne {net : String → Response} {server : McpServer} {message : String}
    (h : outcomeOf net server = .error message) : message ≠ "" := by
  unfold outcomeOf readmeOutcome at h
  repeat' split at h
  all_goals (cases h; try decide)

/-- A closed dialog shows nothing. -/
theorem belongs_of_closed {net : String → Response} {d : Dialog} (h : d.server = none) : Belongs net d := by
  refine ⟨fun _ h' => ?_, fun _ h' => ?_⟩ <;> simp [Dialog.shownReadme, Dialog.shownError, h] at h'

/-- A dialog that is loading with no error shows only the spinner. -/
theorem belongs_of_loading {net : String → Response} {d : Dialog} (hl : d.loading = true) (he : d.error = none) :
    Belongs net d := by
  refine ⟨fun _ h => ?_, fun _ h => ?_⟩ <;> simp [Dialog.shownReadme, Dialog.shownError, hl, he, truthy] at h

/-- A call of the current server that ends with its outcome leaves the dialog showing what belongs to the server,
when no error was set before it (a README that arrives does not clear `error`). -/
theorem belongs_finish {net : String → Response} {d : Dialog} {s : McpServer} (hs : d.server = some s)
    (he : d.error = none ∨ ∃ message, outcomeOf net s = .error message) : Belongs net (d.finish (outcomeOf net s)) := by
  rcases ho : outcomeOf net s with readme | message
  · have he : d.error = none := he.resolve_right fun ⟨_, h⟩ => nomatch ho.symm.trans h
    simp only [Belongs, Dialog.finish, Dialog.shownReadme, Dialog.shownError, hs, he, truthy]
    refine ⟨fun _ h => ⟨s, rfl, ?_⟩, fun _ h => by simp at h⟩
    by_cases hr : readme = "" <;> simp_all
  · have hm := outcomeOf_error_ne ho
    simp only [Belongs, Dialog.finish, Dialog.shownReadme, Dialog.shownError, hs, truthy, Option.filter,
      bne_iff_ne, ne_eq, hm, not_false_eq_true, if_true]
    exact ⟨fun _ h => by simp at h, fun _ h => ⟨s, rfl, by cases h; exact ho⟩⟩

/-! ## Runs that change the server only between calls -/

/-- What `Quiet` asks of an event: the server prop changes only when no call is in progress. -/
def Dialog.quietFor (d : Dialog) : Event → Bool
  | .select _ => d.tasks.isEmpty
  | .settle _ => true

/-- Every change of the server prop in the run waits for the calls in progress to end. -/
def Quiet (net : String → Response) : Dialog → List Event → Bool
  | _, [] => true
  | d, e :: es => d.quietFor e && Quiet net (step net d e) es

/-- The dialog in a quiet run: idle, showing what belongs to its server; or fetching for its current server, one
call in progress, with the spinner on and no error. -/
inductive Inv (net : String → Response) : Dialog → Prop
  | idle {d : Dialog} : d.tasks = [] → Belongs net d → Inv net d
  | fetching {d : Dialog} {t : Task} : d.tasks = [t] → d.server = some t.server →
      remaining net t = outcomeOf net t.server → d.loading = true → d.error = none → Inv net d

section Quiet

variable {net : String → Response} {d : Dialog}

theorem Inv.init : Inv net .init := .idle rfl (belongs_of_closed rfl)

theorem Inv.belongs (hi : Inv net d) : Belongs net d := by
  cases hi with
  | idle _ hb => exact hb
  | fetching _ _ _ hl he => exact belongs_of_loading hl he

/-- With no call in progress, a change of the server prop leaves the dialog idle or fetching for its new server. -/
theorem inv_effect (hq : d.tasks = []) : ∀ server, Inv net (effect d server)
  | none => .idle hq (belongs_of_closed rfl)
  | some server => by
    dsimp only [effect]
    rcases fetchReadme_cases net { d with server := some server } server with ⟨m, hm, h⟩ | ⟨t, rfl, hr, h⟩
    · rw [h, ← hm]
      exact .idle (by simpa using hq) (belongs_finish rfl (.inr ⟨m, hm⟩))
    · rw [h]
      exact .fetching (by simp [hq]) rfl hr rfl rfl

/-- A settling await of a quiet run moves the call on, or ends it with its server's outcome. -/
theorem Inv.settle (hi : Inv net d) (i : Nat) : Inv net (step net d (.settle i)) := by
  cases hi with
  | idle ht hb => simpa only [step, ht, List.getElem?_nil] using Inv.idle ht hb
  | @fetching t ht hs hr hl he =>
    rcases i with _ | i
    · simp only [step, ht, List.getElem?_cons_zero, List.set_cons_zero, List.eraseIdx_cons_zero]
      rcases hres : t.resume net with a | o
      · exact .fetching rfl hs ((remaining_of_resume_inl hres).trans hr) hl he
      · rw [(remaining_of_resume_inr hres).symm.trans hr]
        exact .idle (Dialog.finish_tasks _ _) (belongs_finish hs (.inl he))
    · simpa only [step, ht, List.getElem?_cons_succ, List.getElem?_nil] using Inv.fetching ht hs hr hl he

theorem Inv.step (hi : Inv net d) {e : Event} (hq : d.quietFor e = true) : Inv net (step net d e) := by
  cases e with
  | select server => exact inv_effect (List.isEmpty_iff.1 hq) server
  | settle i => exact hi.settle i

theorem Inv.run (hi : Inv net d) {es : List Event} (hq : Quiet net d es = true) : Inv net (run net d es) := by
  induction es generalizing d with
  | nil => exact hi
  | cons e es ih =>
    simp only [Quiet, Bool.and_eq_true] at hq
    exact ih (hi.step hq.1) hq.2

end Quiet

/-- When the server prop changes only while no call of `fetchReadme` is in progress, then in every order the awaits
settle in, once the effects have run, the README or the error the dialog shows is the one `fetchReadme` gives for its
current server. -/
theorem shown_belongs_of_quiet (net : String → Response) (es : List Event) (hq : Quiet net .init es = true) :
    Belongs net (run net .init es) :=
  (Inv.init.run hq).belongs

theorem shown_belongs_of_quiet_fallback :
    Quiet (servedAt [("https://raw.githubusercontent.com/acme/alpha/main/README.md", "# alpha"),
        ("https://raw.githubusercontent.com/acme/beta/master/README.md", "# beta")]) .init
      [.select (some ⟨"alpha", some "https://github.com/acme/alpha"⟩), .settle 0, .settle 0,
        .select (some ⟨"beta", some "https://github.com/acme/beta.git"⟩), .settle 0, .settle 0, .settle 0] = true ∧
    Belongs (servedAt [("https://raw.githubusercontent.com/acme/alpha/main/README.md", "# alpha"),
        ("https://raw.githubusercontent.com/acme/beta/master/README.md", "# beta")])
      (run (servedAt [("https://raw.githubusercontent.com/acme/alpha/main/README.md", "# alpha"),
          ("https://raw.githubusercontent.com/acme/beta/master/README.md", "# beta")]) .init
        [.select (some ⟨"alpha", some "https://github.com/acme/alpha"⟩), .settle 0, .settle 0,
          .select (some ⟨"beta", some "https://github.com/acme/beta.git"⟩), .settle 0, .settle 0, .settle 0]) :=
  ⟨by rfl, shown_belongs_of_quiet _ _ (by rfl)⟩

/-! ## Calls that end late -/

/-- `fetchReadme` for `server` gets to its first `await`: the server has a GitHub repository URL. -/
def startsFetch (server : McpServer) : Bool :=
  match truthy server.repository with
  | none => false
  | some repository => (githubMatch repository.toList).isSome

/-- How many more awaits a call can settle before it ends: each branch left costs a `fetch` and a `text()`. -/
def Await.bound : Await → Nat
  | .fetch _ rest => 2 * rest.length + 2
  | .text _ rest => 2 * rest.length + 1

theorem Await.bound_pos (a : Await) : 0 < a.bound := by
  cases a <;> simp only [Await.bound] <;> omega

theorem bound_lt_of_resume {net : String → Response} {t : Task} {a : Await} (h : t.resume net = .inl a) :
    a.bound < t.await.bound := by
  have next : ∀ rest, nextBranch rest = .inl a → a.bound < 2 * rest.length + 1 := by
    rintro (_ | ⟨b, rest⟩) h <;> cases h
    simp only [Await.bound, List.length_cons]
    omega
  obtain ⟨server, owner, repo, await⟩ := t
  cases await with
  | fetch branch rest =>
    simp only [Task.resume] at h
    split at h
    · cases h
      simp only [Await.bound]
      omega
    · exact (next rest h).trans (by simp only [Await.bound]; omega)
  | text text rest =>
    cases text with
    | some => cases h
    | none => exact next rest h

/-- A call for a server with a GitHub repository starts at the `fetch` of `main`, with the outcome the server has. -/
theorem fetchReadme_of_startsFetch (net : String → Response) {server : McpServer} (h : startsFetch server = true) :
    ∃ t : Task, t.server = server ∧ t.await = .fetch "main" ["master"] ∧ remaining net t = outcomeOf net server ∧
      ∀ d, fetchReadme d server = { d with loading := true, error := none, tasks := d.tasks ++ [t] } := by
  revert h
  unfold startsFetch fetchReadme outcomeOf
  rcases truthy server.repository with _ | repository
  · exact fun h => nomatch h
  · dsimp only
    rcases githubMatch repository.toList with _ | ⟨owner, repo⟩
    · exact fun h => nomatch h
    · exact fun _ => ⟨⟨server, owner, cleanRepo repo, .fetch "main" ["master"]⟩, rfl, rfl, rfl, fun _ => rfl⟩

theorem run_append (net : String → Response) (d : Dialog) (es es' : List Event) :
    run net d (es ++ es') = run net (run net d es) es' :=
  List.foldl_append _ _ _ _

/-- Settling a position past the calls in progress changes nothing. -/
theorem run_settle_past {net : String → Response} {d : Dialog} {i : Nat} (h : d.tasks.length ≤ i) (n : Nat) :
    run net d (List.replicate n (.settle i)) = d := by
  induction n with
  | zero => rfl
  | succ n ih =>
    rw [List.replicate_succ, run, List.foldl_cons, step, List.getElem?_eq_none h]
    exact ih

theorem finish_with_tasks (d : Dialog) (o : Outcome) (tasks : List Task) :
    { d.finish o with tasks } = { d with tasks }.finish o := by
  cases o <;> rfl

/-- Settling the last call in progress as often as it has awaits left runs it to its end: it writes its outcome. -/
theorem run_drain_last (net : String → Response) (pre : List Task) :
    ∀ n (d : Dialog) (t : Task), d.tasks = pre ++ [t] → t.await.bound ≤ n →
      run net d (List.replicate n (.settle pre.length)) = { d with tasks := pre }.finish (remaining net t)
  | 0, _, t, _, hn => absurd hn (Nat.not_le.2 t.await.bound_pos)
  | n + 1, d, t, ht, hn => by
    have hget : d.tasks[pre.length]? = some t := by simp [ht]
    show run net (step net d (.settle pre.length)) _ = _
    simp only [step, hget]
    rcases hres : t.resume net with a | o
    · refine (run_drain_last net pre n _ { t with await := a } (by simp [ht])
        (show a.bound ≤ n by have := bound_lt_of_resume hres; omega)).trans ?_
      rw [remaining_of_resume_inl hres]
    · have hpre : d.tasks.eraseIdx pre.length = pre := by
        rw [ht, List.eraseIdx_append_of_length_le le_rfl, Nat.sub_self, List.eraseIdx_cons_zero, List.append_nil]
      rw [run_settle_past (by simp [hpre]), hpre, remaining_of_resume_inr hres]

/-- A call of a server selected earlier that ends last writes its outcome over the dialog of the server selected
after it: selecting `A` then `B`, both with GitHub repositories, and running `B`'s call to its end and then `A`'s
leaves `B` selected with `B`'s outcome written over by `A`'s. -/
theorem run_stale_last (net : String → Response) {A B : McpServer} (hA : startsFetch A = true)
    (hB : startsFetch B = true) :
    run net .init ([.select (some A), .select (some B)] ++ List.replicate 4 (.settle 1) ++
        List.replicate 4 (.settle 0)) =
      ((⟨some B, "", true, none, []⟩ : Dialog).finish (outcomeOf net B)).finish (outcomeOf net A) := by
  obtain ⟨tA, -, hA₁, hA₂, hA₃⟩ := fetchReadme_of_startsFetch net hA
  obtain ⟨tB, -, hB₁, hB₂, hB₃⟩ := fetchReadme_of_startsFetch net hB
  have h₁ : run net .init [.select (some A), .select (some B)] = ⟨some B, "", true, none, [tA, tB]⟩ := by
    simp only [run, List.foldl_cons, List.foldl_nil, step, effect, hA₃, hB₃]
    rfl
  have h₂ : run net ⟨some B, "", true, none, [tA, tB]⟩ (List.replicate 4 (.settle 1)) =
      (⟨some B, "", true, none, [tA]⟩ : Dialog).finish (outcomeOf net B) := by
    rw [← hB₂]
    exact run_drain_last net [tA] 4 _ tB rfl (by simp [hB₁, Await.bound])
  have h₃ : run net ((⟨some B, "", true, none, [tA]⟩ : Dialog).finish (outcomeOf net B))
      (List.replicate 4 (.settle 0)) =
        ((⟨some B, "", true, none, []⟩ : Dialog).finish (outcomeOf net B)).finish (outcomeOf net A) := by
    rw [← hA₂]
    refine (run_drain_last net [] 4 _ tA (by rw [Dialog.finish_tasks]; rfl) (by simp [hA₁, Await.bound])).trans ?_
    rw [finish_with_tasks]
  rw [run_append, run_append, h₁, h₂, h₃]


/-! ## The spinner stops -/

/-- How many awaits calls can still settle, at most. -/
def awaitsOf : List Task → Nat
  | [] => 0
  | t :: ts => t.await.bound + awaitsOf ts

/-- How many awaits the calls in progress can still settle, at most. -/
def Dialog.awaitsLeft (d : Dialog) : Nat := awaitsOf d.tasks

/-- Settlements of awaits one after another, each of a call in progress. -/
def Effective (net : String → Response) : Dialog → List Nat → Prop
  | _, [] => True
  | d, i :: is => i < d.tasks.length ∧ Effective net (step net d (.settle i)) is

theorem awaitsOf_set_add (ts : List Task) (i : Nat) (t : Task) (h : i < ts.length) :
    awaitsOf (ts.set i t) + ts[i].await.bound = awaitsOf ts + t.await.bound := by
  induction ts generalizing i with
  | nil => cases h
  | cons a ts ih =>
    cases i with
    | zero => simp only [List.set_cons_zero, awaitsOf, List.getElem_cons_zero]; omega
    | succ i =>
      have := ih i (Nat.lt_of_succ_lt_succ h)
      simp only [List.set_cons_succ, awaitsOf, List.getElem_cons_succ]
      omega

theorem awaitsOf_eraseIdx_add (ts : List Task) (i : Nat) (h : i < ts.length) :
    awaitsOf (ts.eraseIdx i) + ts[i].await.bound = awaitsOf ts := by
  induction ts generalizing i with
  | nil => cases h
  | cons a ts ih =>
    cases i with
    | zero => simp only [List.eraseIdx_cons_zero, awaitsOf, List.getElem_cons_zero]; omega
    | succ i =>
      have := ih i (Nat.lt_of_succ_lt_succ h)
      simp only [List.eraseIdx_cons_succ, awaitsOf, List.getElem_cons_succ]
      omega

/-- Settling an await of a call in progress lowers the awaits left: the call moves to a later await, or ends. -/
theorem awaitsLeft_settle (net : String → Response) {d : Dialog} {i : Nat} (h : i < d.tasks.length) :
    (step net d (.settle i)).awaitsLeft < d.awaitsLeft := by
  have hget : d.tasks[i]? = some d.tasks[i] := List.getElem?_eq_getElem h
  simp only [step, hget]
  rcases hres : d.tasks[i].resume net with a | o
  · have hsum := awaitsOf_set_add d.tasks i { d.tasks[i] with await := a } h
    have hlt := bound_lt_of_resume hres
    simp only [Dialog.awaitsLeft] at hsum ⊢
    omega
  · have hsum := awaitsOf_eraseIdx_add d.tasks i h
    have hpos := d.tasks[i].await.bound_pos
    simp only [Dialog.awaitsLeft, Dialog.finish_tasks] at hsum ⊢
    omega

/-- Whatever the order, no more settlements hit a call in progress than there are awaits left. -/
theorem effective_length_le (net : String → Response) (is : List Nat) :
    ∀ d : Dialog, Effective net d is → is.length ≤ d.awaitsLeft := by
  induction is with
  | nil => exact fun _ _ => Nat.zero_le _
  | cons i is ih =>
    rintro d ⟨hi, hrest⟩
    have := ih _ hrest
    have := awaitsLeft_settle net hi
    simp only [List.length_cons]
    omega

/-- Settling the oldest call's await as often as awaits are left ends every call. -/
theorem tasks_drain_oldest (net : String → Response) (n : Nat) :
    ∀ d : Dialog, d.awaitsLeft ≤ n → (run net d (List.replicate n (.settle 0))).tasks = [] := by
  induction n with
  | zero =>
    intro d hd
    cases ht : d.tasks with
    | nil => exact ht
    | cons t _ =>
      have := t.await.bound_pos
      simp only [Dialog.awaitsLeft, ht, awaitsOf] at hd
      omega
  | succ n ih =>
    intro d hd
    rw [List.replicate_succ, run, List.foldl_cons]
    cases ht : d.tasks with
    | nil =>
      have hstep : step net d (.settle 0) = d := by simp only [step, ht, List.getElem?_nil]
      rw [hstep, ← run, run_settle_past (by simp [ht]) n]
      exact ht
    | cons t ts =>
      have := awaitsLeft_settle net (i := 0) (d := d) (by simp [ht])
      exact ih _ (by omega)

/-- The spinner is on only while a call is in progress: a change of the server prop turns it on with the call it
starts, or off, and a call that ends turns it off. -/
theorem spinnerOk_step (net : String → Response) {d : Dialog} (hd : d.loading = true → d.tasks ≠ []) (e : Event) :
    (step net d e).loading = true → (step net d e).tasks ≠ [] := by
  cases e with
  | select server =>
    cases server with
    | none => simp [step, effect]
    | some server =>
      simp only [step, effect]
      rcases fetchReadme_cases net { d with server := some server } server with ⟨m, -, h⟩ | ⟨t, -, -, h⟩ <;>
        rw [h] <;> simp [Dialog.finish]
  | settle i =>
    simp only [step]
    split
    · exact hd
    · split
      · simpa using hd
      · rename_i o _
        cases o <;> simp [Dialog.finish]

/-- In every run from mount, whatever the server changes and the order the awaits settle in: the spinner is on only
while a call of `fetchReadme` is in progress; no sequence of settlements of calls in progress is longer than the
awaits left; and settling the oldest call's await as often as awaits are left ends every call, with the spinner
off. -/
theorem spinner_stops (net : String → Response) (es : List Event) :
    let d := run net .init es
    (d.loading = true → d.tasks ≠ []) ∧ (∀ is, Effective net d is → is.length ≤ d.awaitsLeft) ∧
      (run net d (List.replicate d.awaitsLeft (.settle 0))).tasks = [] ∧
      (run net d (List.replicate d.awaitsLeft (.settle 0))).loading = false := by
  have hok : ∀ es, (run net .init es).loading = true → (run net .init es).tasks ≠ [] := fun es => by
    induction es using List.reverseRecOn with
    | nil => exact fun h => nomatch h
    | append_singleton es e ih =>
      rw [run_append]
      exact spinnerOk_step net ih e
  intro d
  have hdrain := tasks_drain_oldest net d.awaitsLeft d le_rfl
  refine ⟨hok es, fun is => effective_length_le net is d, hdrain, ?_⟩
  have := hok (es ++ List.replicate d.awaitsLeft (.settle 0))
  rw [run_append] at this
  cases hl : (run net d (List.replicate d.awaitsLeft (.settle 0))).loading
  · rfl
  · exact absurd hdrain (this hl)

/-- Selecting `alpha`, then `beta`, whose README arrives first: `alpha`'s README arrives after it and is shown while
`beta` is selected, not loading and with no error. -/
theorem fetchReadme_stale_overwrite :
    run (servedAt [("https://raw.githubusercontent.com/acme/alpha/main/README.md", "# alpha"),
        ("https://raw.githubusercontent.com/acme/beta/main/README.md", "# beta")]) .init
      [.select (some ⟨"alpha", some "https://github.com/acme/alpha"⟩),
        .select (some ⟨"beta", some "https://github.com/acme/beta"⟩), .settle 1, .settle 1, .settle 0, .settle 0] =
      ⟨some ⟨"beta", some "https://github.com/acme/beta"⟩, "# alpha", false, none, []⟩ ∧
    outcomeOf (servedAt [("https://raw.githubusercontent.com/acme/alpha/main/README.md", "# alpha"),
        ("https://raw.githubusercontent.com/acme/beta/main/README.md", "# beta")])
      ⟨"beta", some "https://github.com/acme/beta"⟩ = .content "# beta" :=
  ⟨by rfl, by rfl⟩

end ReadmeDialog

end Archestra
