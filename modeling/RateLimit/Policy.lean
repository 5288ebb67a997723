import RateLimit.Parse

/-!
# The policy evaluator

`check_issue_evaluation`, `check_mention_response` and `check_code_review` each run
the same machine: the exemption test, the limit lookup (`0` is unlimited), the tracker
lookup, the snapshot read, the comparison `current >= limit`, and on admission
`_increment_usage`, which reads the snapshot again and posts `current + 1`.

The two per-user checks differ only in their limit key, its default, the operation name
and the noun of the denial message: they are `checkUserOperation` applied to their own
values. `check_code_review` keeps its own body: it is never exempt, reads the sum of
every user's review count, and records under the synthetic user `system`.

A check reads the clock three times, each through `_get_today_key`: for the snapshot it
decides on, for the snapshot `_increment_usage` reads again, and for the date of the record
it posts (`Readings`). `checkUserOperationAt`, `checkCodeReviewAt` and `callAt` take the
three readings; `checkUserOperation`, `checkCodeReview` and `call` are the checks during
which the clock shows one date throughout (`Readings.at`); `Days.lean` lets the three differ.

* `checkUserOperation_of_trackerAt`, `checkCodeReview_of_trackerAt` — once the tracker
  exists, what each check returns and appends, with `_increment_usage` unfolded;
* `RateLimiter.call`, `RateLimiter.callAt` — the three checks as one step over a `Call`.
-/

namespace RateLimit

open Py

/-- `config["rate_limits"]`: each key absent (`none`) or an integer. -/
structure RateLimitsConfig where
  issuesPerUserPerDay : Option Int := none
  mentionsPerUserPerDay : Option Int := none
  reviewsPerDay : Option Int := none
  deriving DecidableEq, Repr

/-- `config["issue_evaluation"]`. -/
structure IssueEvaluationConfig where
  autoImplementTeamMemberIssues : Option Bool := none
  autoImplementExternalIssues : Option Bool := none
  deriving DecidableEq, Repr

/-- `config["code_review"]`, as `get_review_config` hands it to the review workflow. -/
structure CodeReviewConfig where
  skipDraftPrs : Option Bool := none
  allowSkipLabel : Option Bool := none
  minFilesChanged : Option Int := none
  maxFilesChanged : Option Int := none
  deriving DecidableEq, Repr

/-- `.github/claude-config.yml` as `_load_config` returns it; a missing file is `{}`. -/
structure Config where
  rateLimits : RateLimitsConfig := {}
  exemptTeamMembers : Option Bool := none
  issueEvaluation : IssueEvaluationConfig := {}
  codeReview : CodeReviewConfig := {}
  deriving DecidableEq, Repr

/-- `_load_config`: the parsed file, or `{}` when it is missing. -/
def loadConfig (file : Option Config) : Config := file.getD {}

/-- A `RateLimiter`: its configuration, and the account its token posts comments as. -/
structure RateLimiter where
  config : Config
  account : Py.Str

/-- The clock as one check reads it, each time through `_get_today_key`: for the snapshot it
decides on, for the snapshot `_increment_usage` reads again, and for the date of the record
it posts. -/
structure Readings where
  decision : UtcDate
  reread : UtcDate
  post : UtcDate
  deriving DecidableEq, Repr

/-- The readings of a check during which the clock shows `now` throughout. -/
def Readings.at (now : UtcDate) : Readings := ⟨now, now, now⟩

namespace RateLimiter

/-- `_is_team_member`. -/
def isTeamMember (authorAssociation : Py.Str) : Bool :=
  ["OWNER".toList, "MEMBER".toList, "COLLABORATOR".toList].contains authorAssociation

/-- `self.config.get("exempt_team_members", True) and self._is_team_member(...)`. -/
def exempt (limiter : RateLimiter) (authorAssociation : Py.Str) : Bool :=
  limiter.config.exemptTeamMembers.getD true && isTeamMember authorAssociation

/-- `_increment_usage`: read the snapshot again and post `current + 1`. It reads the clock
twice: for the snapshot (`reread`) and for the date of the post (`post`). -/
def incrementUsage (limiter : RateLimiter) (reread post : UtcDate) (repo : Repo) (tracker : Nat)
    (user operation : Py.Str) : Repo :=
  let usage := parseUsageFromComments reread (repo.getComments tracker)
  let today := getTodayKey post
  let current := usage.current user operation
  let newCount := current + 1
  repo.createComment tracker limiter.account (usageRecord today user operation newCount)

/-- The body `check_issue_evaluation` and `check_mention_response` share, over the limit
key, its default, the operation recorded and the noun of the denial message, with the clock
as it reads it. -/
def checkUserOperationAt (limiter : RateLimiter) (clock : Readings) (repo : Repo)
    (limitKey : RateLimitsConfig → Option Int) (default : Int) (operation noun : Py.Str)
    (user authorAssociation : Py.Str) : (Bool × Py.Str) × Repo :=
  if limiter.exempt authorAssociation then ((true, "Team member - no limits".toList), repo)
  else
    let limit := (limitKey limiter.config.rateLimits).getD default
    if limit = 0 then ((true, "No limit configured".toList), repo)
    else
      let (repo, tracker) := getRateLimitIssue repo
      let usage := parseUsageFromComments clock.decision (repo.getComments tracker)
      let current := usage.current user operation
      if current ≥ limit then
        ((false, "Rate limit exceeded: ".toList ++ str current ++ '/' :: str limit ++
          ' ' :: noun ++ " today".toList), repo)
      else
        ((true, "Usage: ".toList ++ str (current + 1) ++ '/' :: str limit),
          limiter.incrementUsage clock.reread clock.post repo tracker user operation)

/-- The shared body, within one day: every reading is `now`. -/
def checkUserOperation (limiter : RateLimiter) (now : UtcDate) (repo : Repo)
    (limitKey : RateLimitsConfig → Option Int) (default : Int) (operation noun : Py.Str)
    (user authorAssociation : Py.Str) : (Bool × Py.Str) × Repo :=
  limiter.checkUserOperationAt (.at now) repo limitKey default operation noun user
    authorAssociation

/-- `check_issue_evaluation(user, author_association)`. -/
def checkIssueEvaluation (limiter : RateLimiter) (now : UtcDate) (repo : Repo)
    (user authorAssociation : Py.Str) : (Bool × Py.Str) × Repo :=
  limiter.checkUserOperation now repo RateLimitsConfig.issuesPerUserPerDay 3
    "issue_eval".toList "issue evaluations".toList user authorAssociation

/-- `check_mention_response(user, author_association)`. -/
def checkMentionResponse (limiter : RateLimiter) (now : UtcDate) (repo : Repo)
    (user authorAssociation : Py.Str) : (Bool × Py.Str) × Repo :=
  limiter.checkUserOperation now repo RateLimitsConfig.mentionsPerUserPerDay 10
    "mention".toList "@claude mentions".toList user authorAssociation

/-- `check_code_review()`: one global counter, never exempt, recorded under `system`, with
the clock as it reads it. -/
def checkCodeReviewAt (limiter : RateLimiter) (clock : Readings) (repo : Repo) :
    (Bool × Py.Str) × Repo :=
  let limit := limiter.config.rateLimits.reviewsPerDay.getD 20
  if limit = 0 then ((true, "No limit configured".toList), repo)
  else
    let (repo, tracker) := getRateLimitIssue repo
    let usage := parseUsageFromComments clock.decision (repo.getComments tracker)
    let total := usage.reviewTotal
    if total ≥ limit then
      ((false, "Daily review limit exceeded: ".toList ++ str total ++ '/' :: str limit ++
        " reviews today".toList), repo)
    else
      ((true, "Usage: ".toList ++ str (total + 1) ++ '/' :: str limit),
        limiter.incrementUsage clock.reread clock.post repo tracker "system".toList
          "review".toList)

/-- `check_code_review()` within one day. -/
def checkCodeReview (limiter : RateLimiter) (now : UtcDate) (repo : Repo) :
    (Bool × Py.Str) × Repo :=
  limiter.checkCodeReviewAt (.at now) repo

/-- `should_auto_implement(author_association)`. -/
def shouldAutoImplement (limiter : RateLimiter) (authorAssociation : Py.Str) : Bool :=
  if isTeamMember authorAssociation then
    limiter.config.issueEvaluation.autoImplementTeamMemberIssues.getD true
  else limiter.config.issueEvaluation.autoImplementExternalIssues.getD false

/-- `get_review_config()`. -/
def getReviewConfig (limiter : RateLimiter) : CodeReviewConfig := limiter.config.codeReview

end RateLimiter

/-- A call of one of the three checks. -/
inductive Call
  | issueEvaluation (user authorAssociation : Py.Str)
  | mentionResponse (user authorAssociation : Py.Str)
  | codeReview
  deriving DecidableEq, Repr

/-- The check a `Call` runs. -/
def RateLimiter.call (limiter : RateLimiter) (now : UtcDate) (repo : Repo) :
    Call → (Bool × Py.Str) × Repo
  | .issueEvaluation user authorAssociation =>
    limiter.checkIssueEvaluation now repo user authorAssociation
  | .mentionResponse user authorAssociation =>
    limiter.checkMentionResponse now repo user authorAssociation
  | .codeReview => limiter.checkCodeReview now repo

/-- The check a `Call` runs, with the clock as it reads it. -/
def RateLimiter.callAt (limiter : RateLimiter) (clock : Readings) (repo : Repo) :
    Call → (Bool × Py.Str) × Repo
  | .issueEvaluation user authorAssociation =>
    limiter.checkUserOperationAt clock repo RateLimitsConfig.issuesPerUserPerDay 3
      "issue_eval".toList "issue evaluations".toList user authorAssociation
  | .mentionResponse user authorAssociation =>
    limiter.checkUserOperationAt clock repo RateLimitsConfig.mentionsPerUserPerDay 10
      "mention".toList "@claude mentions".toList user authorAssociation
  | .codeReview => limiter.checkCodeReviewAt clock repo

/-- With the clock at one time, a check is the check of that time. -/
theorem RateLimiter.callAt_at (limiter : RateLimiter) (now : UtcDate) :
    limiter.callAt (.at now) = limiter.call now := by
  funext repo c
  cases c <;> rfl

namespace RateLimiter

variable (limiter : RateLimiter) (now : UtcDate) {repo : Repo} {tracker : Nat}

/-- `_increment_usage` on a ledger it reads last: it posts the snapshot's count plus one. -/
theorem incrementUsage_eq (user operation : Py.Str) :
    limiter.incrementUsage now now repo tracker user operation =
      repo.createComment tracker limiter.account (usageRecord (getTodayKey now) user operation
        ((parseUsageFromComments now (repo.getComments tracker)).current user operation + 1)) :=
  rfl

/-- **The per-user checks, once the tracker exists.** Exempt and unlimited calls change
nothing; a metered call is denied at `current >= limit` and otherwise posts one record
carrying `current + 1`. -/
theorem checkUserOperation_of_trackerAt (htr : repo.TrackerAt tracker)
    (limitKey : RateLimitsConfig → Option Int) (default : Int) (operation noun : Py.Str)
    (user authorAssociation : Py.Str) :
    limiter.checkUserOperation now repo limitKey default operation noun user authorAssociation =
      let limit := (limitKey limiter.config.rateLimits).getD default
      let current := (parseUsageFromComments now (repo.getComments tracker)).current user operation
      if limiter.exempt authorAssociation then ((true, "Team member - no limits".toList), repo)
      else if limit = 0 then ((true, "No limit configured".toList), repo)
      else if current ≥ limit then
        ((false, "Rate limit exceeded: ".toList ++ str current ++ '/' :: str limit ++
          ' ' :: noun ++ " today".toList), repo)
      else
        ((true, "Usage: ".toList ++ str (current + 1) ++ '/' :: str limit),
          repo.createComment tracker limiter.account
            (usageRecord (getTodayKey now) user operation (current + 1))) := by
  simp only [checkUserOperation, checkUserOperationAt, Readings.at, getRateLimitIssue_of_trackerAt htr,
    incrementUsage_eq]

/-- **`check_code_review`, once the tracker exists.** -/
theorem checkCodeReview_of_trackerAt (htr : repo.TrackerAt tracker) :
    limiter.checkCodeReview now repo =
      let limit := limiter.config.rateLimits.reviewsPerDay.getD 20
      let usage := parseUsageFromComments now (repo.getComments tracker)
      if limit = 0 then ((true, "No limit configured".toList), repo)
      else if usage.reviewTotal ≥ limit then
        ((false, "Daily review limit exceeded: ".toList ++ str usage.reviewTotal ++ '/' ::
          str limit ++ " reviews today".toList), repo)
      else
        ((true, "Usage: ".toList ++ str (usage.reviewTotal + 1) ++ '/' :: str limit),
          repo.createComment tracker limiter.account (usageRecord (getTodayKey now)
            "system".toList "review".toList (usage.current "system".toList "review".toList + 1))) := by
  simp only [checkCodeReview, checkCodeReviewAt, Readings.at, getRateLimitIssue_of_trackerAt htr,
    incrementUsage_eq]

/-- **A refused per-user check writes nothing and gives its numbers:** the count it read and
the limit, in the denial's text. -/
theorem checkUserOperation_of_refused (htr : repo.TrackerAt tracker)
    (limitKey : RateLimitsConfig → Option Int) (default : Int) (operation noun : Py.Str)
    (user authorAssociation : Py.Str)
    (hrefused : (limiter.checkUserOperation now repo limitKey default operation noun user
      authorAssociation).1.1 = false) :
    limiter.checkUserOperation now repo limitKey default operation noun user authorAssociation =
      ((false, "Rate limit exceeded: ".toList ++
        str ((parseUsageFromComments now (repo.getComments tracker)).current user operation) ++
        '/' :: str ((limitKey limiter.config.rateLimits).getD default) ++
        ' ' :: noun ++ " today".toList), repo) := by
  rw [checkUserOperation_of_trackerAt limiter now htr] at hrefused ⊢
  dsimp only at hrefused ⊢
  split_ifs at hrefused ⊢
  rfl

/-- **A refused `check_code_review` writes nothing and gives its numbers:** the day's review
total and the limit. -/
theorem checkCodeReview_of_refused (htr : repo.TrackerAt tracker)
    (hrefused : (limiter.checkCodeReview now repo).1.1 = false) :
    limiter.checkCodeReview now repo =
      ((false, "Daily review limit exceeded: ".toList ++
        str (parseUsageFromComments now (repo.getComments tracker)).reviewTotal ++
        '/' :: str (limiter.config.rateLimits.reviewsPerDay.getD 20) ++
        " reviews today".toList), repo) := by
  rw [checkCodeReview_of_trackerAt limiter now htr] at hrefused ⊢
  dsimp only at hrefused ⊢
  split_ifs at hrefused ⊢
  rfl

end RateLimiter

end RateLimit
