import RateLimit.Mention
import RateLimit.Review
import RateLimit.Evaluator

/-!
# The three workflows on one repository

The repository runs three workflows, each on its own events: the issue evaluator on an opened
issue, the mention handler on a comment or review, the code review on a pull request. Each one
makes at most one check before it acts. Run one after another on one repository, they share
the tracking issue, and each key's budget holds across all of them.

* `Workflow.run`, `Workflow.call` — a run of any of the three up to its rate check, and the
  check it makes;
* `workflow_gated` — every workflow is gated by its check;
* `workflows_first_admissions` — on a fresh day, in any sequence of runs of the three
  workflows, the runs metered under one key get past their check exactly for the first
  `limit` of them: `issues_per_user_per_day` issues per author, `mentions_per_user_per_day`
  mentions per commenter, and `reviews_per_day` pull requests in all, counting the pull
  requests then skipped for their size;
* `workflows_admitted_count` — hence exactly `min n limit` of a key's `n` metered runs get
  past their check;
* `refusal_notices` — what each workflow tells an actor it refuses.
-/

namespace RateLimit

open Py

/-- One run of one of the repository's workflows, with what its gate reads. -/
inductive Workflow
  /-- `claude_issue_evaluator.py` on an opened issue. -/
  | issueOpened (issueAuthor authorAssociation : Py.Str)
  /-- `claude_mention_handler.py` on an event. -/
  | mentioned (eventName : Py.Str) (event : MentionEvent)
  /-- `claude_code_review.py` on a pull request, with the files `get_changed_files` lists. -/
  | pullRequest (pr : PullRequest) (changedFiles : List Py.Str)
  deriving DecidableEq, Repr

/-- A run up to its rate check: whether it got past the check, and the repository. -/
def Workflow.run (limiter : RateLimiter) (now : UtcDate) (repo : Repo) : Workflow → Bool × Repo
  | .issueOpened issueAuthor authorAssociation =>
    let r := evaluateIssueGate limiter now repo issueAuthor authorAssociation
    (r.1.1, r.2)
  | .mentioned eventName event =>
    let r := MentionHandler.main limiter now repo eventName event
    (r.1.answered, r.2)
  | .pullRequest pr changedFiles =>
    let r := reviewGate limiter now repo pr changedFiles
    (r.1.1.pastRateCheck, r.2)

/-- The check a run makes, if it gets to one. -/
def Workflow.call (limiter : RateLimiter) : Workflow → Option Call
  | .issueOpened issueAuthor authorAssociation => some (.issueEvaluation issueAuthor authorAssociation)
  | .mentioned eventName event => (mentionActor eventName event).map EventActor.call
  | .pullRequest pr _ => if ReviewGate.skipped limiter pr then none else some .codeReview

/-- The workflows run one after another on one repository. -/
def runWorkflows (limiter : RateLimiter) (now : UtcDate) :
    Repo → List Workflow → List Bool × Repo :=
  runGates (Workflow.run limiter now)

/-- Each workflow is gated by the check it makes. -/
theorem workflow_gated (limiter : RateLimiter) (now : UtcDate) :
    Gated limiter now (Workflow.run limiter now) id (Workflow.call limiter) where
  skip repo w h := by
    cases w with
    | issueOpened => cases h
    | mentioned eventName event => exact (mention_gated limiter now).skip repo (eventName, event) h
    | pullRequest pr changedFiles =>
      have hskip : ReviewGate.skipped limiter pr = true := by
        by_contra hs
        simp [Workflow.call, hs] at h
      refine ⟨?_, ?_⟩
      · simp only [Workflow.run, id, reviewGate_pastRateCheck, hskip, Bool.not_true, Bool.false_and]
      · simp only [Workflow.run, reviewGate_snd, hskip, if_true]
  check repo w c h := by
    cases w with
    | issueOpened issueAuthor authorAssociation =>
      cases h
      exact evaluateIssueGate_eq limiter now repo issueAuthor authorAssociation
    | mentioned eventName event => exact (mention_gated limiter now).check repo (eventName, event) c h
    | pullRequest pr changedFiles =>
      have hskip : ReviewGate.skipped limiter pr = false := by
        by_contra hs
        simp [Workflow.call, hs] at h
      simp only [Workflow.call, hskip, Bool.false_eq_true, if_false, Option.some.injEq] at h
      subst h
      exact ⟨by simp only [Workflow.run, id, reviewGate_pastRateCheck, hskip, Bool.not_false,
          Bool.true_and]; rfl,
        by simp only [Workflow.run, reviewGate_snd, hskip, Bool.false_eq_true, if_false]; rfl⟩

/-- **Each budget holds across the three workflows.** On a day whose tracker has no record
yet, run the three workflows one after another on any events: issues opened by any authors,
mention events of any names and payloads, pull requests of any kind (logins without `|`).
Fix a check `c₀`. Of the runs metered under its key (they make a check of that key, under a
role that is not exempt), the `i`-th gets past its check iff the key's limit is `0` or `i` is
below it. For the review key these runs are every pull request that is neither a skipped
draft nor labelled `skip-claude-review`, including those then skipped for their size. -/
theorem workflows_first_admissions (limiter : RateLimiter) (now : UtcDate) {repo : Repo}
    {tracker : Nat} (htr : repo.TrackerAt tracker)
    (hfresh : dayRecords (getTodayKey now) (repo.getComments tracker) = [])
    (runs : List Workflow) (hlogins : ∀ w ∈ runs, ∀ c ∈ w.call limiter, '|' ∉ c.key.1)
    (c₀ : Call) :
    let byKey := (runs.zip (runWorkflows limiter now repo runs).1).filter fun p =>
      meteredUnder limiter (Workflow.call limiter) c₀.key p.1
    byKey.map Prod.snd = firstAdmissions (c₀.limit limiter.config) 0 byKey.length :=
  runGates_first (workflow_gated limiter now) runs (agrees_fresh htr hfresh)
    (fun w hw c hc => hlogins w hw c hc) c₀

/-- A day with one review: `alice` opens an issue and mentions the bot, then two pull
requests come, the first with no changed file (`git diff` failed); the second is refused,
the first having used the day's review. -/
theorem workflows_first_admissions_reviews :
    let limiter : RateLimiter :=
      ⟨{ rateLimits := { reviewsPerDay := some 1 } }, "github-actions[bot]".toList⟩
    let runs : List Workflow :=
      [.issueOpened "alice".toList "NONE".toList,
        .mentioned "issue_comment".toList { comment := ⟨some "alice".toList, none⟩ },
        .pullRequest ⟨false, []⟩ [],
        .pullRequest ⟨false, []⟩ ["README.md".toList]]
    (∀ w ∈ runs, ∀ c ∈ w.call limiter, '|' ∉ c.key.1) ∧
    let byKey := (runs.zip (runWorkflows limiter ⟨2025, 1, 1⟩ ⟨[trackerIssue]⟩ runs).1).filter
      fun p => meteredUnder limiter (Workflow.call limiter) Call.codeReview.key p.1
    byKey.map Prod.snd = firstAdmissions (Call.codeReview.limit limiter.config) 0 byKey.length := by
  intro limiter runs
  have hlogins : ∀ w ∈ runs, ∀ c ∈ w.call limiter, '|' ∉ c.key.1 := by decide
  exact ⟨hlogins, @workflows_first_admissions limiter ⟨2025, 1, 1⟩ ⟨[trackerIssue]⟩ 0 rfl rfl runs
    hlogins _⟩

/-- The same day run to the end: the issue and the mention are answered under their own
keys, and only the first pull request gets past the review check. -/
example :
    (runWorkflows ⟨{ rateLimits := { reviewsPerDay := some 1 } }, "github-actions[bot]".toList⟩
      ⟨2025, 1, 1⟩ ⟨[trackerIssue]⟩
      [.issueOpened "alice".toList "NONE".toList,
        .mentioned "issue_comment".toList { comment := ⟨some "alice".toList, none⟩ },
        .pullRequest ⟨false, []⟩ [],
        .pullRequest ⟨false, []⟩ ["README.md".toList]]).1 = [true, true, true, false] := by
  decide

/-- **No budget is exceeded, and none is left unused.** On a fresh day, of the runs metered
under one key in any sequence of runs of the three workflows, exactly `min n limit` get past
their check, `n` being the number of those runs (all `n` when the limit is `0`, none when it
is negative). -/
theorem workflows_admitted_count (limiter : RateLimiter) (now : UtcDate) {repo : Repo}
    {tracker : Nat} (htr : repo.TrackerAt tracker)
    (hfresh : dayRecords (getTodayKey now) (repo.getComments tracker) = [])
    (runs : List Workflow) (hlogins : ∀ w ∈ runs, ∀ c ∈ w.call limiter, '|' ∉ c.key.1)
    (c₀ : Call) :
    let byKey := (runs.zip (runWorkflows limiter now repo runs).1).filter fun p =>
      meteredUnder limiter (Workflow.call limiter) c₀.key p.1
    (byKey.map Prod.snd).count true = if c₀.limit limiter.config = 0 then byKey.length
      else min byKey.length (c₀.limit limiter.config).toNat := by
  intro byKey
  calc (byKey.map Prod.snd).count true
      = (firstAdmissions (c₀.limit limiter.config) 0 byKey.length).count true :=
        congrArg _ (runGates_first (workflow_gated limiter now) runs (agrees_fresh htr hfresh)
          (fun w hw c hc => hlogins w hw c hc) c₀)
    _ = _ := count_firstAdmissions _ _

/-- Three pull requests under `reviews_per_day = 2`, one of them a draft: of the two metered
ones both are reviewed, and `alice`'s issue and mention count under their own keys. -/
theorem workflows_admitted_count_reviews :
    let limiter : RateLimiter :=
      ⟨{ rateLimits := { reviewsPerDay := some 2 } }, "github-actions[bot]".toList⟩
    let runs : List Workflow :=
      [.pullRequest ⟨true, []⟩ ["a.go".toList],
        .issueOpened "alice".toList "NONE".toList,
        .pullRequest ⟨false, []⟩ ["a.go".toList],
        .mentioned "issue_comment".toList { comment := ⟨some "alice".toList, none⟩ },
        .pullRequest ⟨false, []⟩ ["b.go".toList]]
    (∀ w ∈ runs, ∀ c ∈ w.call limiter, '|' ∉ c.key.1) ∧
    let byKey := (runs.zip (runWorkflows limiter ⟨2025, 1, 1⟩ ⟨[trackerIssue]⟩ runs).1).filter
      fun p => meteredUnder limiter (Workflow.call limiter) Call.codeReview.key p.1
    (byKey.map Prod.snd).count true = if Call.codeReview.limit limiter.config = 0 then
      byKey.length else min byKey.length (Call.codeReview.limit limiter.config).toNat := by
  intro limiter runs
  have hlogins : ∀ w ∈ runs, ∀ c ∈ w.call limiter, '|' ∉ c.key.1 := by decide
  exact ⟨hlogins, @workflows_admitted_count limiter ⟨2025, 1, 1⟩ ⟨[trackerIssue]⟩ 0 rfl rfl runs
    hlogins _⟩

/-- **What a refused actor is told.** Once the tracker exists, a run refused at its check
writes nothing, and the three workflows tell the actor three different things: the issue
evaluator answers the author on the issue with the check's reason, which gives the count it
read and the limit; the mention handler exits without a word; the code review posts one fixed
text, without the count or the limit. -/
theorem refusal_notices (limiter : RateLimiter) (now : UtcDate) {repo : Repo} {tracker : Nat}
    (htr : repo.TrackerAt tracker) :
    let usage := parseUsageFromComments now (repo.getComments tracker)
    (∀ issueAuthor authorAssociation,
      (limiter.checkIssueEvaluation now repo issueAuthor authorAssociation).1.1 = false →
      evaluateIssueGate limiter now repo issueAuthor authorAssociation =
        ((false, some ('@' :: issueAuthor ++ (" Thank you for your issue! I've reached my daily " ++
          "limit for issue evaluations. A team member will review this soon, or you can try " ++
          "again tomorrow.\n\n_").toList ++ ("Rate limit exceeded: ".toList ++
          str (usage.current issueAuthor "issue_eval".toList) ++ '/' ::
          str (limiter.config.rateLimits.issuesPerUserPerDay.getD 3) ++
          ' ' :: "issue evaluations".toList ++ " today".toList) ++ "_".toList)), repo)) ∧
    (∀ eventName event actor, mentionActor eventName event = some actor →
      (limiter.checkMentionResponse now repo actor.user actor.association).1.1 = false →
      MentionHandler.main limiter now repo eventName event = (.rateLimited, repo)) ∧
    (∀ pr changedFiles, ReviewGate.skipped limiter pr = false →
      (limiter.checkCodeReview now repo).1.1 = false →
      reviewGate limiter now repo pr changedFiles = ((.limitReached,
        some "⚠️ Daily code review limit reached. A team member will review this PR.".toList),
        repo)) := by
  refine ⟨fun issueAuthor authorAssociation hrefused => ?issue,
    fun eventName event actor hactor hrefused => ?mention,
    fun pr changedFiles hskip hrefused => ?review⟩
  case issue =>
    rw [evaluateIssueGate, RateLimiter.checkIssueEvaluation,
      RateLimiter.checkUserOperation_of_refused limiter now htr _ _ _ _ _ _ hrefused]
    rfl
  case mention =>
    have hcheck := RateLimiter.checkUserOperation_of_refused limiter now htr _ _ _ _ _ _ hrefused
    unfold mentionActor at hactor
    unfold MentionHandler.main
    split_ifs at hactor ⊢ <;> cases hactor <;>
      simp only [MentionHandler.checkThenHandle, RateLimiter.checkMentionResponse, hcheck] <;> rfl
  case review =>
    obtain ⟨hdraft, hlabel⟩ := Bool.or_eq_false_iff.mp hskip
    simp only [reviewGate, hdraft, hlabel, Bool.false_eq_true, if_false,
      RateLimiter.checkCodeReview_of_refused limiter now htr hrefused]
    rfl

/-- `alice` has used the day's three issue evaluations: the fourth issue is answered
with the numbers, and nothing is written. -/
example :
    let limiter : RateLimiter := ⟨{}, "github-actions[bot]".toList⟩
    let repo : Repo := ⟨[{ trackerIssue with comments :=
      [⟨"github-actions[bot]".toList, "USAGE: 2025-01-01|alice|issue_eval|3".toList⟩] }]⟩
    evaluateIssueGate limiter ⟨2025, 1, 1⟩ repo "alice".toList "NONE".toList =
      ((false, some ("@alice Thank you for your issue! I've reached my daily limit for issue " ++
        "evaluations. A team member will review this soon, or you can try again tomorrow." ++
        "\n\n_Rate limit exceeded: 3/3 issue evaluations today_").toList), repo) := by
  intro limiter repo
  rw [(@refusal_notices limiter ⟨2025, 1, 1⟩ repo 0 rfl).1 _ _ (by decide)]
  rfl

end RateLimit
