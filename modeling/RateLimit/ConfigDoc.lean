import RateLimit.Policy
import RateLimit.Value

/-!
# The configuration document

`_load_config` hands the checks whatever `yaml.safe_load` read from
`.github/claude-config.yml`, and the checks read it with `dict.get`, `==`, `>=` and truth
tests. The typed `Config` of `Policy.lean` is what a document of the expected shape says.
Here the document is a Python value (`PyValue`), and the checks run over it (`DocLimiter`)
with the exceptions Python raises on a value of another kind, and the repository as the
exception leaves it.

* `Config.ofDoc?` — the typed reading of a document: a mapping whose sections are absent or
  mappings, and whose keys are absent or of the kind the typed model gives them;
* `docChecks_eq_typed` — on such a document the checks compute what the typed model
  computes, so every result about `RateLimiter` holds of them;
* `bool_limits_as_numbers` — a limit written `true` or `false`, which `Config.ofDoc?` does
  not read, acts as the typed limit `1` or `0`, all but the number the message shows;
* `checkUserOperation_error`, `checkCodeReview_error` — every exception a check raises
  leaves the repository untouched (an `AttributeError` of a `.get`) or as the tracker lookup
  left it (the `TypeError` of `current >= limit`): a failed check posts no record;
* `checks_raise_of_rateLimits_not_dict` — a `rate_limits` key present but not a mapping (an
  empty section reads as `None`) makes every check that reaches its limit raise
  `AttributeError`;
* `checkUserOperation_raises_of_limit_not_number` — a limit that is neither an `int` nor a
  `bool` passes `limit == 0` and raises `TypeError` at `current >= limit`, after the tracker
  lookup, which has created the tracker if there was none.

`PyValue` has no floats, so a limit written `2.5`, which the code compares as a number, is
outside this model.
-/

namespace RateLimit

open Py

/-- `_load_config`: `yaml.safe_load(f) or {}`, and `{}` when the file is missing (`none`);
an empty file reads as `None`. -/
def loadConfigDoc (file : Option PyValue) : PyValue :=
  match file with
  | some doc => if doc.truthy then doc else .dict []
  | none => .dict []

/-- A `RateLimiter` with its configuration as Python holds it. -/
structure DocLimiter where
  config : PyValue
  account : Py.Str

namespace DocLimiter

/-- `_increment_usage`, which reads no configuration. -/
def incrementUsage (limiter : DocLimiter) (now : UtcDate) (repo : Repo) (tracker : Nat)
    (user operation : Py.Str) : Repo :=
  RateLimiter.incrementUsage ⟨{}, limiter.account⟩ now now repo tracker user operation

/-- The body `check_issue_evaluation` and `check_mention_response` share, over the limit
key, its default, the operation recorded and the noun of the denial message: the result or
the exception, and the repository as either leaves it. -/
def checkUserOperation (limiter : DocLimiter) (now : UtcDate) (repo : Repo) (limitKey : Py.Str)
    (default : Int) (operation noun user authorAssociation : Py.Str) :
    Except PyError (Bool × Py.Str) × Repo :=
  match limiter.config.get "rate_limits".toList (.dict []) with
  | .error e => (.error e, repo)
  | .ok config =>
    match limiter.config.get "exempt_team_members".toList (.bool true) with
    | .error e => (.error e, repo)
    | .ok exemptTeamMembers =>
      if exemptTeamMembers.truthy && RateLimiter.isTeamMember authorAssociation then
        (.ok (true, "Team member - no limits".toList), repo)
      else
        match config.get limitKey (.int default) with
        | .error e => (.error e, repo)
        | .ok limit =>
          if limit.eqZero then (.ok (true, "No limit configured".toList), repo)
          else
            let (repo, tracker) := getRateLimitIssue repo
            let usage := parseUsageFromComments now (repo.getComments tracker)
            let current := usage.current user operation
            match limit.asNumber with
            | .error e => (.error e, repo)
            | .ok (limit, shown) =>
              if current ≥ limit then
                (.ok (false, "Rate limit exceeded: ".toList ++ str current ++ '/' :: shown ++
                  ' ' :: noun ++ " today".toList), repo)
              else
                (.ok (true, "Usage: ".toList ++ str (current + 1) ++ '/' :: shown),
                  limiter.incrementUsage now repo tracker user operation)

/-- `check_issue_evaluation(user, author_association)`. -/
def checkIssueEvaluation (limiter : DocLimiter) (now : UtcDate) (repo : Repo)
    (user authorAssociation : Py.Str) : Except PyError (Bool × Py.Str) × Repo :=
  limiter.checkUserOperation now repo "issues_per_user_per_day".toList 3 "issue_eval".toList
    "issue evaluations".toList user authorAssociation

/-- `check_mention_response(user, author_association)`. -/
def checkMentionResponse (limiter : DocLimiter) (now : UtcDate) (repo : Repo)
    (user authorAssociation : Py.Str) : Except PyError (Bool × Py.Str) × Repo :=
  limiter.checkUserOperation now repo "mentions_per_user_per_day".toList 10 "mention".toList
    "@claude mentions".toList user authorAssociation

/-- `check_code_review()`. -/
def checkCodeReview (limiter : DocLimiter) (now : UtcDate) (repo : Repo) :
    Except PyError (Bool × Py.Str) × Repo :=
  match limiter.config.get "rate_limits".toList (.dict []) with
  | .error e => (.error e, repo)
  | .ok config =>
    match config.get "reviews_per_day".toList (.int 20) with
    | .error e => (.error e, repo)
    | .ok limit =>
      if limit.eqZero then (.ok (true, "No limit configured".toList), repo)
      else
        let (repo, tracker) := getRateLimitIssue repo
        let usage := parseUsageFromComments now (repo.getComments tracker)
        let total := usage.reviewTotal
        match limit.asNumber with
        | .error e => (.error e, repo)
        | .ok (limit, shown) =>
          if total ≥ limit then
            (.ok (false, "Daily review limit exceeded: ".toList ++ str total ++ '/' :: shown ++
              " reviews today".toList), repo)
          else
            (.ok (true, "Usage: ".toList ++ str (total + 1) ++ '/' :: shown),
              limiter.incrementUsage now repo tracker "system".toList "review".toList)

/-- `should_auto_implement(author_association)`: the configured value itself, which the
caller tests for truth. -/
def shouldAutoImplement (limiter : DocLimiter) (authorAssociation : Py.Str) :
    Except PyError PyValue :=
  match limiter.config.get "issue_evaluation".toList (.dict []) with
  | .error e => .error e
  | .ok config =>
    if RateLimiter.isTeamMember authorAssociation then
      config.get "auto_implement_team_member_issues".toList (.bool true)
    else config.get "auto_implement_external_issues".toList (.bool false)

end DocLimiter

namespace Config

/-- An integer key of a mapping in the typed model: absent, or an `int`. -/
def readInt (items : List (Py.Str × PyValue)) (key : Py.Str) : Option (Option Int) :=
  match PyValue.lookup items key with
  | none => some none
  | some (.int n) => some (some n)
  | some _ => none

/-- A boolean key of a mapping in the typed model: absent, or a `bool`. -/
def readBool (items : List (Py.Str × PyValue)) (key : Py.Str) : Option (Option Bool) :=
  match PyValue.lookup items key with
  | none => some none
  | some (.bool b) => some (some b)
  | some _ => none

/-- A section of the document: absent, or a mapping. -/
def readSection (items : List (Py.Str × PyValue)) (key : Py.Str) :
    Option (List (Py.Str × PyValue)) :=
  match PyValue.lookup items key with
  | none => some []
  | some (.dict fields) => some fields
  | some _ => none

/-- The `rate_limits` section in the typed model. -/
def readRateLimits (fields : List (Py.Str × PyValue)) : Option RateLimitsConfig := do
  return {
    issuesPerUserPerDay := ← readInt fields "issues_per_user_per_day".toList
    mentionsPerUserPerDay := ← readInt fields "mentions_per_user_per_day".toList
    reviewsPerDay := ← readInt fields "reviews_per_day".toList }

/-- The `issue_evaluation` section in the typed model. -/
def readIssueEvaluation (fields : List (Py.Str × PyValue)) : Option IssueEvaluationConfig := do
  return {
    autoImplementTeamMemberIssues := ← readBool fields "auto_implement_team_member_issues".toList
    autoImplementExternalIssues := ← readBool fields "auto_implement_external_issues".toList }

/-- The `code_review` section in the typed model. -/
def readCodeReview (fields : List (Py.Str × PyValue)) : Option CodeReviewConfig := do
  return {
    skipDraftPrs := ← readBool fields "skip_draft_prs".toList
    allowSkipLabel := ← readBool fields "allow_skip_label".toList
    minFilesChanged := ← readInt fields "min_files_changed".toList
    maxFilesChanged := ← readInt fields "max_files_changed".toList }

/-- The typed reading of a document: a mapping whose sections are absent or mappings, and
whose keys are absent or of the kind the typed model gives them; `none` for any other
document. -/
def ofDoc? : PyValue → Option Config
  | .dict items => do
    return {
      rateLimits := ← readRateLimits (← readSection items "rate_limits".toList)
      exemptTeamMembers := ← readBool items "exempt_team_members".toList
      issueEvaluation := ← readIssueEvaluation (← readSection items "issue_evaluation".toList)
      codeReview := ← readCodeReview (← readSection items "code_review".toList) }
  | _ => none

section

variable {items fields : List (Py.Str × PyValue)} {key : Py.Str}

theorem get_of_readInt {o : Option Int} (h : readInt items key = some o) (default : Int) :
    (PyValue.dict items).get key (.int default) = .ok (.int (o.getD default)) := by
  unfold readInt at h
  simp only [PyValue.get]
  split at h <;> cases h <;> simp only [*, Option.getD_none, Option.getD_some]

theorem get_of_readBool {o : Option Bool} (h : readBool items key = some o) (default : Bool) :
    (PyValue.dict items).get key (.bool default) = .ok (.bool (o.getD default)) := by
  unfold readBool at h
  simp only [PyValue.get]
  split at h <;> cases h <;> simp only [*, Option.getD_none, Option.getD_some]

theorem get_of_readSection (h : readSection items key = some fields) :
    (PyValue.dict items).get key (.dict []) = .ok (.dict fields) := by
  unfold readSection at h
  simp only [PyValue.get]
  split at h <;> cases h <;> simp only [*, Option.getD_none, Option.getD_some]

theorem readRateLimits_eq_some {rateLimits : RateLimitsConfig}
    (h : readRateLimits fields = some rateLimits) :
    readInt fields "issues_per_user_per_day".toList = some rateLimits.issuesPerUserPerDay ∧
    readInt fields "mentions_per_user_per_day".toList = some rateLimits.mentionsPerUserPerDay ∧
    readInt fields "reviews_per_day".toList = some rateLimits.reviewsPerDay := by
  simp only [readRateLimits, Option.bind_eq_bind, Option.bind_eq_some, Option.pure_def,
    Option.some.injEq] at h
  obtain ⟨_, h₁, _, h₂, _, h₃, rfl⟩ := h
  exact ⟨h₁, h₂, h₃⟩

theorem readIssueEvaluation_eq_some {issueEvaluation : IssueEvaluationConfig}
    (h : readIssueEvaluation fields = some issueEvaluation) :
    readBool fields "auto_implement_team_member_issues".toList =
      some issueEvaluation.autoImplementTeamMemberIssues ∧
    readBool fields "auto_implement_external_issues".toList =
      some issueEvaluation.autoImplementExternalIssues := by
  simp only [readIssueEvaluation, Option.bind_eq_bind, Option.bind_eq_some, Option.pure_def,
    Option.some.injEq] at h
  obtain ⟨_, h₁, _, h₂, rfl⟩ := h
  exact ⟨h₁, h₂⟩

end

/-- What the checks read of a document with a typed reading. -/
theorem ofDoc?_eq_some {doc : PyValue} {config : Config} (h : ofDoc? doc = some config) :
    ∃ items rateLimits issueEvaluation, doc = .dict items ∧
      readSection items "rate_limits".toList = some rateLimits ∧
      readRateLimits rateLimits = some config.rateLimits ∧
      readBool items "exempt_team_members".toList = some config.exemptTeamMembers ∧
      readSection items "issue_evaluation".toList = some issueEvaluation ∧
      readIssueEvaluation issueEvaluation = some config.issueEvaluation := by
  cases doc with
  | dict items =>
    simp only [ofDoc?, Option.bind_eq_bind, Option.bind_eq_some, Option.pure_def,
      Option.some.injEq] at h
    obtain ⟨rateLimits, hr, _, hr', _, he, issueEvaluation, hi, _, hi', _, _, _, _, rfl⟩ := h
    exact ⟨items, rateLimits, issueEvaluation, rfl, hr, hr', he, hi, hi'⟩
  | _ => cases h

end Config

/-! ## The typed model refines the checks over the document -/

namespace DocLimiter

variable {doc : PyValue} {config : Config} {account : Py.Str} (now : UtcDate) (repo : Repo)

/-- The shared body of the per-user checks, on a document whose `rate_limits` section,
`exempt_team_members` key and limit key read as the typed configuration's. -/
theorem checkUserOperation_eq_typed {rateLimits : List (Py.Str × PyValue)}
    (hsection : doc.get "rate_limits".toList (.dict []) = .ok (.dict rateLimits))
    (hexempt : doc.get "exempt_team_members".toList (.bool true) =
      .ok (.bool (config.exemptTeamMembers.getD true)))
    (limitKey : Py.Str) (limitField : RateLimitsConfig → Option Int)
    (hlimit : Config.readInt rateLimits limitKey = some (limitField config.rateLimits))
    (default : Int) (operation noun user authorAssociation : Py.Str) :
    checkUserOperation ⟨doc, account⟩ now repo limitKey default operation noun user
        authorAssociation =
      (.ok (RateLimiter.checkUserOperation ⟨config, account⟩ now repo limitField default operation
          noun user authorAssociation).1,
        (RateLimiter.checkUserOperation ⟨config, account⟩ now repo limitField default operation
          noun user authorAssociation).2) := by
  rcases hg : getRateLimitIssue repo with ⟨repo', tracker⟩
  simp only [checkUserOperation, RateLimiter.checkUserOperation, RateLimiter.checkUserOperationAt,
    Readings.at, RateLimiter.exempt, hsection,
    hexempt, Config.get_of_readInt hlimit, PyValue.truthy, PyValue.eqZero, PyValue.asNumber,
    beq_iff_eq, hg]
  split_ifs <;> rfl

/-- `check_code_review`, on a document whose `rate_limits` section and `reviews_per_day` key
read as the typed configuration's. -/
theorem checkCodeReview_eq_typed {rateLimits : List (Py.Str × PyValue)}
    (hsection : doc.get "rate_limits".toList (.dict []) = .ok (.dict rateLimits))
    (hlimit : Config.readInt rateLimits "reviews_per_day".toList = some config.rateLimits.reviewsPerDay) :
    checkCodeReview ⟨doc, account⟩ now repo =
      (.ok (RateLimiter.checkCodeReview ⟨config, account⟩ now repo).1,
        (RateLimiter.checkCodeReview ⟨config, account⟩ now repo).2) := by
  rcases hg : getRateLimitIssue repo with ⟨repo', tracker⟩
  simp only [checkCodeReview, RateLimiter.checkCodeReview, RateLimiter.checkCodeReviewAt, Readings.at,
    hsection, Config.get_of_readInt hlimit,
    PyValue.eqZero, PyValue.asNumber, beq_iff_eq, hg]
  split_ifs <;> rfl

/-- `should_auto_implement`, on a document whose `issue_evaluation` section reads as the
typed configuration's: the value's truth is the typed answer. -/
theorem shouldAutoImplement_eq_typed {issueEvaluation : List (Py.Str × PyValue)}
    (hsection : doc.get "issue_evaluation".toList (.dict []) = .ok (.dict issueEvaluation))
    (hfields : Config.readIssueEvaluation issueEvaluation = some config.issueEvaluation)
    (authorAssociation : Py.Str) :
    (shouldAutoImplement ⟨doc, account⟩ authorAssociation).map PyValue.truthy =
      .ok (RateLimiter.shouldAutoImplement ⟨config, account⟩ authorAssociation) := by
  obtain ⟨hteam, hexternal⟩ := Config.readIssueEvaluation_eq_some hfields
  simp only [shouldAutoImplement, RateLimiter.shouldAutoImplement, hsection]
  split_ifs
  · rw [Config.get_of_readBool hteam]; rfl
  · rw [Config.get_of_readBool hexternal]; rfl

/-! ## Limits written as booleans -/

/-- The shared per-user body with a `bool` limit decides, and leaves the repository, as the
typed check with the limit `0` or `1`. -/
theorem checkUserOperation_bool_limit {rateLimits : List (Py.Str × PyValue)}
    (hsection : doc.get "rate_limits".toList (.dict []) = .ok (.dict rateLimits))
    (hexempt : doc.get "exempt_team_members".toList (.bool true) =
      .ok (.bool (config.exemptTeamMembers.getD true)))
    (limitKey : Py.Str) (b : Bool) (hlimit : PyValue.lookup rateLimits limitKey = some (.bool b))
    (default : Int) (operation noun user authorAssociation : Py.Str) :
    let onDoc := checkUserOperation ⟨doc, account⟩ now repo limitKey default operation noun user
      authorAssociation
    let typed := RateLimiter.checkUserOperation ⟨config, account⟩ now repo
      (fun _ => some (if b then 1 else 0)) default operation noun user authorAssociation
    onDoc.1.map Prod.fst = .ok typed.1.1 ∧ onDoc.2 = typed.2 := by
  have hget : (PyValue.dict rateLimits).get limitKey (.int default) = .ok (.bool b) := by
    simp only [PyValue.get, hlimit, Option.getD_some]
  rcases hg : getRateLimitIssue repo with ⟨repo', tracker⟩
  simp only [checkUserOperation, RateLimiter.checkUserOperation, RateLimiter.checkUserOperationAt,
    Readings.at, RateLimiter.exempt, hsection,
    hexempt, hget, PyValue.truthy, hg, Option.getD_some]
  cases b <;> simp only [PyValue.eqZero, PyValue.asNumber, Bool.not_false, Bool.not_true,
    Bool.false_eq_true, if_true, if_false, one_ne_zero] <;> split_ifs <;> exact ⟨rfl, rfl⟩

/-- `check_code_review` with a `bool` limit decides, and leaves the repository, as the typed
check with the limit `0` or `1`. -/
theorem checkCodeReview_bool_limit {rateLimits : List (Py.Str × PyValue)}
    (hsection : doc.get "rate_limits".toList (.dict []) = .ok (.dict rateLimits)) (b : Bool)
    (hlimit : PyValue.lookup rateLimits "reviews_per_day".toList = some (.bool b)) :
    let onDoc := checkCodeReview ⟨doc, account⟩ now repo
    let typed := RateLimiter.checkCodeReview
      ⟨{ config with rateLimits := { reviewsPerDay := some (if b then 1 else 0) } }, account⟩ now repo
    onDoc.1.map Prod.fst = .ok typed.1.1 ∧ onDoc.2 = typed.2 := by
  have hget : (PyValue.dict rateLimits).get "reviews_per_day".toList (.int 20) = .ok (.bool b) := by
    simp only [PyValue.get, hlimit, Option.getD_some]
  rcases hg : getRateLimitIssue repo with ⟨repo', tracker⟩
  simp only [checkCodeReview, RateLimiter.checkCodeReview, RateLimiter.checkCodeReviewAt, Readings.at,
    hsection, hget, hg, Option.getD_some]
  cases b
  case false => exact ⟨rfl, rfl⟩
  case true =>
    simp only [PyValue.eqZero, PyValue.asNumber, Bool.not_true, Bool.false_eq_true, if_true,
      if_false, one_ne_zero]
    split_ifs <;> exact ⟨rfl, rfl⟩

end DocLimiter

/-- **A limit written as a boolean counts as `0` or `1`.** In `rate_limits`, a limit key
whose value is a YAML boolean raises nothing. `false` equals `0`, so the check is unlimited:
it admits every call and writes nothing. `true` compares as `1`, so the check admits one
call a day. Decisions and repository are those of the typed checks with that number; only the
message shows `True` where the typed one shows `1`. This holds for the body the two per-user
checks share, and for `check_code_review`. -/
theorem bool_limits_as_numbers {doc : PyValue} {config : Config} {account : Py.Str}
    (now : UtcDate) (repo : Repo) {rateLimits : List (Py.Str × PyValue)}
    (hsection : doc.get "rate_limits".toList (.dict []) = .ok (.dict rateLimits))
    (hexempt : doc.get "exempt_team_members".toList (.bool true) =
      .ok (.bool (config.exemptTeamMembers.getD true))) (b : Bool) :
    (∀ limitKey, PyValue.lookup rateLimits limitKey = some (.bool b) →
      ∀ default operation noun user authorAssociation,
      let onDoc := DocLimiter.checkUserOperation ⟨doc, account⟩ now repo limitKey default operation
        noun user authorAssociation
      let typed := RateLimiter.checkUserOperation ⟨config, account⟩ now repo
        (fun _ => some (if b then 1 else 0)) default operation noun user authorAssociation
      onDoc.1.map Prod.fst = .ok typed.1.1 ∧ onDoc.2 = typed.2) ∧
    (PyValue.lookup rateLimits "reviews_per_day".toList = some (.bool b) →
      let onDoc := DocLimiter.checkCodeReview ⟨doc, account⟩ now repo
      let typed := RateLimiter.checkCodeReview
        ⟨{ config with rateLimits := { reviewsPerDay := some (if b then 1 else 0) } }, account⟩ now repo
      onDoc.1.map Prod.fst = .ok typed.1.1 ∧ onDoc.2 = typed.2) :=
  ⟨fun limitKey hlimit => DocLimiter.checkUserOperation_bool_limit now repo hsection hexempt limitKey
      b hlimit,
    DocLimiter.checkCodeReview_bool_limit now repo hsection b⟩

/-- `rate_limits: {mentions_per_user_per_day: true}`, with no `exempt_team_members` key. -/
theorem bool_limits_as_numbers_mentions_true :
    let doc : PyValue := .dict [("rate_limits".toList,
      .dict [("mentions_per_user_per_day".toList, .bool true)])]
    doc.get "rate_limits".toList (.dict []) =
        .ok (.dict [("mentions_per_user_per_day".toList, .bool true)]) ∧
    doc.get "exempt_team_members".toList (.bool true) =
      .ok (.bool ((({} : Config).exemptTeamMembers).getD true)) ∧
    ((∀ limitKey, PyValue.lookup [("mentions_per_user_per_day".toList, .bool true)] limitKey =
        some (.bool true) →
      ∀ default operation noun user authorAssociation,
      let onDoc := DocLimiter.checkUserOperation ⟨doc, "github-actions[bot]".toList⟩ ⟨2025, 1, 1⟩
        ⟨[]⟩ limitKey default operation noun user authorAssociation
      let typed := RateLimiter.checkUserOperation ⟨{}, "github-actions[bot]".toList⟩ ⟨2025, 1, 1⟩
        ⟨[]⟩ (fun _ => some (if true then 1 else 0)) default operation noun user authorAssociation
      onDoc.1.map Prod.fst = .ok typed.1.1 ∧ onDoc.2 = typed.2) ∧
    (PyValue.lookup [("mentions_per_user_per_day".toList, .bool true)] "reviews_per_day".toList =
        some (.bool true) →
      let onDoc := DocLimiter.checkCodeReview ⟨doc, "github-actions[bot]".toList⟩ ⟨2025, 1, 1⟩ ⟨[]⟩
      let typed := RateLimiter.checkCodeReview
        ⟨{ ({} : Config) with rateLimits := { reviewsPerDay := some (if true then 1 else 0) } },
          "github-actions[bot]".toList⟩ ⟨2025, 1, 1⟩ ⟨[]⟩
      onDoc.1.map Prod.fst = .ok typed.1.1 ∧ onDoc.2 = typed.2)) := by
  intro doc
  have hsection : doc.get "rate_limits".toList (.dict []) =
      .ok (.dict [("mentions_per_user_per_day".toList, .bool true)]) := rfl
  have hexempt : doc.get "exempt_team_members".toList (.bool true) =
      .ok (.bool ((({} : Config).exemptTeamMembers).getD true)) := rfl
  exact ⟨hsection, hexempt, bool_limits_as_numbers ⟨2025, 1, 1⟩ ⟨[]⟩ hsection hexempt true⟩

/-- **The typed model is the code's reading of a well-formed configuration.** On any
document with a typed reading, the three checks over the document return no exception,
and the result and repository of the typed model; `should_auto_implement` returns a value
whose truth is the typed answer. -/
theorem docChecks_eq_typed {doc : PyValue} {config : Config} (hdoc : Config.ofDoc? doc = some config)
    (account : Py.Str) (now : UtcDate) (repo : Repo) (user authorAssociation : Py.Str) :
    let typed : RateLimiter := ⟨config, account⟩
    let limiter : DocLimiter := ⟨doc, account⟩
    limiter.checkIssueEvaluation now repo user authorAssociation =
      (.ok (typed.checkIssueEvaluation now repo user authorAssociation).1,
        (typed.checkIssueEvaluation now repo user authorAssociation).2) ∧
    limiter.checkMentionResponse now repo user authorAssociation =
      (.ok (typed.checkMentionResponse now repo user authorAssociation).1,
        (typed.checkMentionResponse now repo user authorAssociation).2) ∧
    limiter.checkCodeReview now repo =
      (.ok (typed.checkCodeReview now repo).1, (typed.checkCodeReview now repo).2) ∧
    (limiter.shouldAutoImplement authorAssociation).map PyValue.truthy =
      .ok (typed.shouldAutoImplement authorAssociation) := by
  obtain ⟨items, rateLimits, issueEvaluation, rfl, hr, hr', he, hi, hi'⟩ := Config.ofDoc?_eq_some hdoc
  obtain ⟨hissues, hmentions, hreviews⟩ := Config.readRateLimits_eq_some hr'
  have hsection := Config.get_of_readSection hr
  have hexempt := Config.get_of_readBool he true
  exact ⟨DocLimiter.checkUserOperation_eq_typed now repo hsection hexempt _ _ hissues _ _ _ _ _,
    DocLimiter.checkUserOperation_eq_typed now repo hsection hexempt _ _ hmentions _ _ _ _ _,
    DocLimiter.checkCodeReview_eq_typed now repo hsection hreviews,
    DocLimiter.shouldAutoImplement_eq_typed (Config.get_of_readSection hi) hi' _⟩

/-- The scenario configuration of the design notes, `rate_limits: {mentions_per_user_per_day: 2}`
with `exempt_team_members: true`, read by the code as by the typed model. -/
theorem docChecks_eq_typed_scenario :
    let doc : PyValue := .dict [("rate_limits".toList,
        .dict [("mentions_per_user_per_day".toList, .int 2)]),
      ("exempt_team_members".toList, .bool true)]
    let config : Config :=
      { rateLimits := { mentionsPerUserPerDay := some 2 }, exemptTeamMembers := some true }
    Config.ofDoc? doc = some config ∧
    let typed : RateLimiter := ⟨config, "github-actions[bot]".toList⟩
    let limiter : DocLimiter := ⟨doc, "github-actions[bot]".toList⟩
    limiter.checkIssueEvaluation ⟨2025, 1, 1⟩ ⟨[]⟩ "alice".toList "NONE".toList =
      (.ok (typed.checkIssueEvaluation ⟨2025, 1, 1⟩ ⟨[]⟩ "alice".toList "NONE".toList).1,
        (typed.checkIssueEvaluation ⟨2025, 1, 1⟩ ⟨[]⟩ "alice".toList "NONE".toList).2) ∧
    limiter.checkMentionResponse ⟨2025, 1, 1⟩ ⟨[]⟩ "alice".toList "NONE".toList =
      (.ok (typed.checkMentionResponse ⟨2025, 1, 1⟩ ⟨[]⟩ "alice".toList "NONE".toList).1,
        (typed.checkMentionResponse ⟨2025, 1, 1⟩ ⟨[]⟩ "alice".toList "NONE".toList).2) ∧
    limiter.checkCodeReview ⟨2025, 1, 1⟩ ⟨[]⟩ =
      (.ok (typed.checkCodeReview ⟨2025, 1, 1⟩ ⟨[]⟩).1, (typed.checkCodeReview ⟨2025, 1, 1⟩ ⟨[]⟩).2) ∧
    (limiter.shouldAutoImplement "NONE".toList).map PyValue.truthy =
      .ok (typed.shouldAutoImplement "NONE".toList) := by
  intro doc config
  have hdoc : Config.ofDoc? doc = some config := by decide
  exact ⟨hdoc, docChecks_eq_typed hdoc _ _ _ _ _⟩

/-- A missing configuration file is the all-defaults configuration. -/
example : Config.ofDoc? (loadConfigDoc none) = some {} := by decide

/-! ## Documents of another shape -/

namespace DocLimiter

variable (limiter : DocLimiter) (now : UtcDate) (repo : Repo)

/-- **A failed check posts no record.** Every exception of the shared per-user body is an
`AttributeError` of a `.get`, raised with the repository untouched, or the `TypeError` of
`current >= limit`, raised with the repository as the tracker lookup left it. -/
theorem checkUserOperation_error (limitKey : Py.Str) (default : Int)
    (operation noun user authorAssociation : Py.Str) {e : PyError}
    (h : (limiter.checkUserOperation now repo limitKey default operation noun user
      authorAssociation).1 = .error e) :
    e = .attributeError ∧ (limiter.checkUserOperation now repo limitKey default operation noun
        user authorAssociation).2 = repo ∨
      e = .typeError ∧ (limiter.checkUserOperation now repo limitKey default operation noun
        user authorAssociation).2 = (getRateLimitIssue repo).1 := by
  rcases hg : getRateLimitIssue repo with ⟨repo', tracker⟩
  revert h
  simp only [checkUserOperation, hg]
  split
  · next hget => rintro ⟨⟩; exact .inl ⟨PyValue.eq_attributeError_of_get hget, rfl⟩
  split
  · next hget => rintro ⟨⟩; exact .inl ⟨PyValue.eq_attributeError_of_get hget, rfl⟩
  split
  · rintro ⟨⟩
  split
  · next hget => rintro ⟨⟩; exact .inl ⟨PyValue.eq_attributeError_of_get hget, rfl⟩
  split
  · rintro ⟨⟩
  split
  · next hnum => rintro ⟨⟩; exact .inr ⟨PyValue.eq_typeError_of_asNumber hnum, rfl⟩
  split <;> rintro ⟨⟩

/-- **A failed review check posts no record**, as `checkUserOperation_error` says of the
per-user checks. -/
theorem checkCodeReview_error {e : PyError} (h : (limiter.checkCodeReview now repo).1 = .error e) :
    e = .attributeError ∧ (limiter.checkCodeReview now repo).2 = repo ∨
      e = .typeError ∧ (limiter.checkCodeReview now repo).2 = (getRateLimitIssue repo).1 := by
  rcases hg : getRateLimitIssue repo with ⟨repo', tracker⟩
  revert h
  simp only [checkCodeReview, hg]
  split
  · next hget => rintro ⟨⟩; exact .inl ⟨PyValue.eq_attributeError_of_get hget, rfl⟩
  split
  · next hget => rintro ⟨⟩; exact .inl ⟨PyValue.eq_attributeError_of_get hget, rfl⟩
  split
  · rintro ⟨⟩
  split
  · next hnum => rintro ⟨⟩; exact .inr ⟨PyValue.eq_typeError_of_asNumber hnum, rfl⟩
  split <;> rintro ⟨⟩

/-- With a `rate_limits` value that is no mapping, the shared per-user body raises at the
limit lookup for every caller who is not a team member. -/
theorem checkUserOperation_raises_of_rateLimits_not_dict {rateLimits : PyValue}
    (hsection : limiter.config.get "rate_limits".toList (.dict []) = .ok rateLimits)
    (hnot : rateLimits.isDict = false) (limitKey : Py.Str) (default : Int)
    (operation noun user authorAssociation : Py.Str)
    (hrole : RateLimiter.isTeamMember authorAssociation = false) :
    limiter.checkUserOperation now repo limitKey default operation noun user authorAssociation =
      (.error .attributeError, repo) := by
  obtain ⟨items, hdoc⟩ := PyValue.exists_dict_of_get_ok hsection
  have hexempt : limiter.config.get "exempt_team_members".toList (.bool true) =
      .ok ((PyValue.lookup items "exempt_team_members".toList).getD (.bool true)) := by
    rw [hdoc]; rfl
  simp only [checkUserOperation, hsection, hexempt, hrole, Bool.and_false, Bool.false_eq_true,
    if_false, PyValue.get_of_isDict_false hnot]

/-- **An empty `rate_limits` section fails the checks.** When the document's `rate_limits`
key holds anything but a mapping (an empty section, its keys all commented out, reads as
`None`), `check_code_review` raises `AttributeError` on every repository, and so do both
per-user checks for every caller who is not a team member. -/
theorem checks_raise_of_rateLimits_not_dict {rateLimits : PyValue}
    (hsection : limiter.config.get "rate_limits".toList (.dict []) = .ok rateLimits)
    (hnot : rateLimits.isDict = false) (user authorAssociation : Py.Str)
    (hrole : RateLimiter.isTeamMember authorAssociation = false) :
    limiter.checkCodeReview now repo = (.error .attributeError, repo) ∧
    limiter.checkIssueEvaluation now repo user authorAssociation = (.error .attributeError, repo) ∧
    limiter.checkMentionResponse now repo user authorAssociation =
      (.error .attributeError, repo) := by
  refine ⟨?_, limiter.checkUserOperation_raises_of_rateLimits_not_dict now repo hsection hnot
      _ _ _ _ _ _ hrole,
    limiter.checkUserOperation_raises_of_rateLimits_not_dict now repo hsection hnot _ _ _ _ _ _ hrole⟩
  simp only [checkCodeReview, hsection]
  rw [PyValue.get_of_isDict_false hnot]

/-- `rate_limits:` with nothing under it: every review check fails. -/
example : DocLimiter.checkCodeReview ⟨.dict [("rate_limits".toList, .none)],
    "github-actions[bot]".toList⟩ ⟨2025, 1, 1⟩ ⟨[trackerIssue]⟩ =
      (.error .attributeError, ⟨[trackerIssue]⟩) :=
  (checks_raise_of_rateLimits_not_dict _ _ _ (by rfl) (by rfl) [] [] (by decide)).1

/-- **A limit that is not a number fails the check after the tracker lookup.** When the
limit key holds a value the model has that is neither an `int` nor a `bool` (a key left empty
reads as `None`, a quoted number as a string; a float, which `>=` would compare, is not
modelled), `limit == 0` is false, so the per-user check looks the tracker up, creating it if
there is none, and then `current >= limit` raises `TypeError`, for every caller who is not a
team member. -/
theorem checkUserOperation_raises_of_limit_not_number
    {rateLimits : List (Py.Str × PyValue)} {limit : PyValue}
    (hsection : limiter.config.get "rate_limits".toList (.dict []) = .ok (.dict rateLimits))
    (limitKey : Py.Str) (hlimit : PyValue.lookup rateLimits limitKey = some limit)
    (hnum : limit.isNumber = false) (default : Int)
    (operation noun user authorAssociation : Py.Str)
    (hrole : RateLimiter.isTeamMember authorAssociation = false) :
    limiter.checkUserOperation now repo limitKey default operation noun user authorAssociation =
      (.error .typeError, (getRateLimitIssue repo).1) := by
  obtain ⟨items, hdoc⟩ := PyValue.exists_dict_of_get_ok hsection
  have hexempt : limiter.config.get "exempt_team_members".toList (.bool true) =
      .ok ((PyValue.lookup items "exempt_team_members".toList).getD (.bool true)) := by
    rw [hdoc]; rfl
  have hget : (PyValue.dict rateLimits).get limitKey (.int default) = .ok limit := by
    simp only [PyValue.get, hlimit, Option.getD_some]
  rcases hg : getRateLimitIssue repo with ⟨repo', tracker⟩
  simp only [checkUserOperation, hsection, hexempt, hrole, Bool.and_false,
    Bool.false_eq_true, if_false, hget, PyValue.eqZero_of_isNumber_false hnum,
    PyValue.asNumber_of_isNumber_false hnum, hg]

/-- `mentions_per_user_per_day:` left empty, on a repository with no tracker yet: the
mention check of an outside contributor creates the tracker, then raises. -/
example : DocLimiter.checkMentionResponse ⟨.dict [("rate_limits".toList,
    .dict [("mentions_per_user_per_day".toList, .none)])], "github-actions[bot]".toList⟩
      ⟨2025, 1, 1⟩ ⟨[]⟩ "alice".toList "CONTRIBUTOR".toList =
      (.error .typeError, ⟨[trackerIssue]⟩) :=
  checkUserOperation_raises_of_limit_not_number _ _ _ (by rfl) _ (by rfl) (by rfl) _ _ _ _ _
    (by decide)

end DocLimiter

end RateLimit
