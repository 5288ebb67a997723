import RateLimit.Py

/-!
# The ledger store: the tracking issue and the day key

The rate limiter keeps no storage of its own. Its ledger is the comment thread of one
open issue labelled `claude:rate-limit-tracker`, found (or created) by
`_get_rate_limit_issue`, appended to by `create_comment` and read back in arrival
order by `get_comments`. Records are dated with `_get_today_key`.

* `Repo` lists the repository's issues in the order `get_issues` returns them; an
  issue is addressed by its position.
* `getRateLimitIssue_trackerAt` — after the lookup there is an open tracker at the
  returned position; `getRateLimitIssue_of_trackerAt` — once there is one, the lookup
  returns it and creates nothing (the store's `ensure` is idempotent).
* `trackerAt_createComment`, `getComments_createComment` — appending a comment moves no
  tracker and changes only the thread it is appended to.
* `getTodayKey_eq_cons`, `pipe_not_mem_getTodayKey` — the day key begins with a digit and
  holds no `|`, the two facts the record encoding needs of it.
-/

namespace RateLimit

/-- An issue comment: the account that posted it, and its text. -/
structure Comment where
  author : Py.Str
  body : Py.Str
  deriving DecidableEq, Repr

/-- The fields of an issue that `_get_rate_limit_issue` and the ledger touch. -/
structure Issue where
  title : Py.Str
  body : Py.Str
  labels : List Py.Str
  isOpen : Bool
  comments : List Comment
  deriving DecidableEq, Repr

/-- The repository's issues, in the order `get_issues` lists them. -/
structure Repo where
  issues : List Issue
  deriving DecidableEq, Repr

/-- The label that marks the tracking issue. -/
def trackerLabel : Py.Str := "claude:rate-limit-tracker".toList

/-- The filter `get_issues(state="open", labels=["claude:rate-limit-tracker"])`. -/
def Issue.isTracker (issue : Issue) : Bool := issue.isOpen && issue.labels.contains trackerLabel

/-- The issue `_get_rate_limit_issue` creates when it finds none. -/
def trackerIssue : Issue where
  title := "[Internal] Claude Rate Limit Tracker".toList
  body := "This issue tracks rate limits for Claude automation. Do not close.".toList
  labels := [trackerLabel]
  isOpen := true
  comments := []

/-- `issue.get_comments()`: the thread, oldest first. -/
def Repo.getComments (repo : Repo) (issue : Nat) : List Comment :=
  (repo.issues[issue]?.map Issue.comments).getD []

/-- `issue.create_comment(body)`, posted by `author`. -/
def Repo.createComment (repo : Repo) (issue : Nat) (author body : Py.Str) : Repo :=
  ⟨repo.issues.modify (fun i => { i with comments := i.comments ++ [⟨author, body⟩] }) issue⟩

/-- `_get_rate_limit_issue`: the first open tracker `get_issues` lists, else a new one.
The new issue is the only open tracker, so where the listing puts it does not matter to
later lookups. -/
def getRateLimitIssue (repo : Repo) : Repo × Nat :=
  match repo.issues.findIdx? Issue.isTracker with
  | some k => (repo, k)
  | none => (⟨repo.issues ++ [trackerIssue]⟩, repo.issues.length)

/-- The tracker `_get_rate_limit_issue` finds in `repo` is the issue at `k`. -/
def Repo.TrackerAt (repo : Repo) (k : Nat) : Prop := repo.issues.findIdx? Issue.isTracker = some k

theorem getRateLimitIssue_of_trackerAt {repo : Repo} {k : Nat} (h : repo.TrackerAt k) :
    getRateLimitIssue repo = (repo, k) := by
  unfold getRateLimitIssue
  rw [show repo.issues.findIdx? Issue.isTracker = some k from h]

/-- After the lookup, the returned position holds the open tracker it will find again. -/
theorem getRateLimitIssue_trackerAt (repo : Repo) :
    (getRateLimitIssue repo).1.TrackerAt (getRateLimitIssue repo).2 := by
  unfold getRateLimitIssue Repo.TrackerAt
  split
  · assumption
  · rename_i h
    simp [h, trackerIssue, Issue.isTracker]

/-- The store's `ensure` is idempotent: a second lookup creates nothing and returns the
same tracker. -/
theorem getRateLimitIssue_idem (repo : Repo) :
    getRateLimitIssue (getRateLimitIssue repo).1 = getRateLimitIssue repo :=
  getRateLimitIssue_of_trackerAt (getRateLimitIssue_trackerAt repo)

theorem map_isTracker_createComment (repo : Repo) (j : Nat) (author body : Py.Str) :
    (repo.createComment j author body).issues.map Issue.isTracker =
      repo.issues.map Issue.isTracker := by
  apply List.ext_getElem?
  intro m
  simp only [Repo.createComment, List.getElem?_map, List.getElem?_modify]
  split <;> cases repo.issues[m]? <;> rfl

/-- Appending a comment moves no tracker. -/
theorem trackerAt_createComment {repo : Repo} {k : Nat} (j : Nat) (author body : Py.Str)
    (h : repo.TrackerAt k) : (repo.createComment j author body).TrackerAt k := by
  unfold Repo.TrackerAt at h ⊢
  have hmap := congrArg (List.findIdx? id) (map_isTracker_createComment repo j author body)
  simpa [List.findIdx?_map, h] using hmap

/-- A new comment lands at the end of its own thread and nowhere else. -/
theorem getComments_createComment (repo : Repo) (j k : Nat) (author body : Py.Str)
    (hk : k < repo.issues.length) :
    (repo.createComment j author body).getComments k =
      if k = j then repo.getComments k ++ [⟨author, body⟩] else repo.getComments k := by
  simp only [Repo.getComments, Repo.createComment, List.getElem?_modify,
    List.getElem?_eq_getElem hk]
  by_cases hjk : j = k
  · simp [hjk]
  · simp [hjk, Ne.symm hjk]

theorem Repo.TrackerAt.lt_length {repo : Repo} {k : Nat} (h : repo.TrackerAt k) :
    k < repo.issues.length :=
  (List.findIdx?_eq_some_iff_getElem.mp h).1

/-! ## The day key -/

/-- A UTC date as `strftime` prints it: a four-digit year and two-digit month and day.
This is wider than the calendar, so every string of the form `YYYY-MM-DD` is the key of
some `UtcDate`. -/
structure UtcDate where
  year : Fin 10000
  month : Fin 100
  day : Fin 100
  deriving DecidableEq, Repr

/-- `n` zero-padded to `width` digits, as `%Y`, `%m` and `%d` print it. -/
def zeroPad (width n : Nat) : Py.Str :=
  List.replicate (width - (Nat.toDigits 10 n).length) '0' ++ Nat.toDigits 10 n

/-- `_get_today_key`: `datetime.utcnow().strftime("%Y-%m-%d")`. -/
def getTodayKey (now : UtcDate) : Py.Str :=
  zeroPad 4 now.year ++ '-' :: zeroPad 2 now.month ++ '-' :: zeroPad 2 now.day

theorem zeroPad_digitChar (width n : Nat) : ∀ c ∈ zeroPad width n, ∃ d < 10, Nat.digitChar d = c := by
  intro c hc
  rcases List.mem_append.mp hc with hc | hc
  · exact ⟨0, by omega, (List.eq_of_mem_replicate hc).symm⟩
  · exact Py.toDigitsCore_digitChar _ n c hc

theorem pipe_not_mem_getTodayKey (now : UtcDate) : '|' ∉ getTodayKey now := by
  have hpad : ∀ w n, '|' ∉ zeroPad w n := fun w n h => by
    obtain ⟨d, hd, heq⟩ := zeroPad_digitChar w n '|' h
    exact (Py.digitChar_spec d hd).2.2.2.2.2.2.2 heq
  simp [getTodayKey, hpad]

theorem zeroPad_ne_nil (width n : Nat) : zeroPad width n ≠ [] := by
  simp [zeroPad, Nat.toDigits, Py.toDigitsCore_ne_nil]

/-- The day key begins with a digit, which `strip` keeps. -/
theorem getTodayKey_eq_cons (now : UtcDate) :
    ∃ c rest, getTodayKey now = c :: rest ∧ Py.isspace c = false := by
  obtain ⟨c, rest, hcr⟩ := List.exists_cons_of_ne_nil (zeroPad_ne_nil 4 now.year)
  obtain ⟨d, hd, rfl⟩ := zeroPad_digitChar 4 _ c (hcr ▸ List.mem_cons_self c rest)
  exact ⟨_, rest ++ '-' :: zeroPad 2 now.month ++ '-' :: zeroPad 2 now.day,
    by rw [getTodayKey, hcr]; simp, (Py.digitChar_spec d hd).2.2.2.2.1⟩

end RateLimit
