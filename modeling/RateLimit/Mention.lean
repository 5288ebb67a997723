import RateLimit.Gates

/-!
# The mention workflow

`claude_mention_handler.py` runs once per GitHub event. Its `main` reads the commenter's
login and role from the event payload (`"unknown"` and `"NONE"` when absent), calls
`check_mention_response`, stops with status 0 on a denial, and otherwise hands the
mention to `handle_pr_mention` or `handle_issue_mention`. Other event names exit with
status 1 before any check.

* `MentionHandler.main` — one run, with `checkThenHandle` for the three branches that
  handle an event;
* `main_of_mentionActor`, `main_of_unsupported` — a run is the mention check of the
  event's actor, and answers iff the check admits;
* `mention_gated` — the workflow is gated by the mention check of the event's actor, so runs
  one after another answer as `runGates_first` says;
* `mentions_answered_first` — on a fresh day, each login is answered for its first
  `mentions_per_user_per_day` mentions, and no more. Payloads without a login all count
  against the one login `unknown`.
-/

namespace RateLimit

open Py

/-- The fields `main` reads of the event's `comment` or `review` object. -/
structure EventActor where
  /-- `user.login`; `none` when the payload has no user or the user no login. -/
  login : Option Py.Str := none
  authorAssociation : Option Py.Str := none
  deriving DecidableEq, Repr

/-- The event payload `main` loads from `GITHUB_EVENT_PATH`, as far as it reads it; an
absent object reads as `{}`. -/
structure MentionEvent where
  comment : EventActor := {}
  review : EventActor := {}
  /-- `"pull_request" in event.get("issue", {})`. -/
  onPullRequest : Bool := false
  deriving DecidableEq, Repr

/-- Where `main` ends. -/
inductive MentionOutcome
  /-- `sys.exit(0)` after "Rate limit exceeded". -/
  | rateLimited
  /-- `handle_pr_mention`. -/
  | prMention
  /-- `handle_issue_mention`. -/
  | issueMention
  /-- `sys.exit(1)` after "Unsupported event type". -/
  | unsupported
  deriving DecidableEq, Repr

/-- The runs that go on to answer the mention. -/
def MentionOutcome.answered : MentionOutcome → Bool
  | .prMention | .issueMention => true
  | _ => false

/-- `comment.get("user", {}).get("login", "unknown")`. -/
def EventActor.user (actor : EventActor) : Py.Str := actor.login.getD "unknown".toList

/-- `comment.get("author_association", "NONE")`. -/
def EventActor.association (actor : EventActor) : Py.Str :=
  actor.authorAssociation.getD "NONE".toList

namespace MentionHandler

/-- A branch of `main` that handles its event: `check_mention_response` for the actor,
exit on a denial, else the handler. -/
def checkThenHandle (limiter : RateLimiter) (now : UtcDate) (repo : Repo) (actor : EventActor)
    (handler : MentionOutcome) : MentionOutcome × Repo :=
  let ((allowed, _), repo) := limiter.checkMentionResponse now repo actor.user actor.association
  if !allowed then (.rateLimited, repo) else (handler, repo)

/-- `main`: the branch of the event name, on the repository; the handlers' replies go to
the mentioning thread and are not modelled. -/
def main (limiter : RateLimiter) (now : UtcDate) (repo : Repo) (eventName : Py.Str)
    (event : MentionEvent) : MentionOutcome × Repo :=
  if eventName = "issue_comment".toList then
    checkThenHandle limiter now repo event.comment
      (if event.onPullRequest then .prMention else .issueMention)
  else if eventName = "pull_request_review".toList then
    checkThenHandle limiter now repo event.review .prMention
  else if eventName = "pull_request_review_comment".toList then
    checkThenHandle limiter now repo event.comment .prMention
  else (.unsupported, repo)

end MentionHandler

/-- The actor whose mention budget a run of `main` checks, for the event names it handles. -/
def mentionActor (eventName : Py.Str) (event : MentionEvent) : Option EventActor :=
  if eventName = "issue_comment".toList then some event.comment
  else if eventName = "pull_request_review".toList then some event.review
  else if eventName = "pull_request_review_comment".toList then some event.comment
  else none

/-- The check a handled event makes. -/
def EventActor.call (actor : EventActor) : Call := .mentionResponse actor.user actor.association

/-- Whether a run of `main` on the event meters `user`'s mentions: it is handled, made by
`user`, under a role that is not exempt. -/
def MentionEvent.meteredFor (limiter : RateLimiter) (user eventName : Py.Str)
    (event : MentionEvent) : Bool :=
  match mentionActor eventName event with
  | some actor => actor.user == user && !limiter.exempt actor.association
  | none => false

/-- The mention workflow run once per event, one run after another. -/
def runMentions (limiter : RateLimiter) (now : UtcDate) :
    Repo → List (Py.Str × MentionEvent) → List MentionOutcome × Repo :=
  runGates fun repo run => MentionHandler.main limiter now repo run.1 run.2

section

variable {limiter : RateLimiter} {now : UtcDate} {repo : Repo} {eventName : Py.Str}
  {event : MentionEvent}

theorem checkThenHandle_eq (actor : EventActor) {handler : MentionOutcome}
    (hhandler : handler.answered) :
    (MentionHandler.checkThenHandle limiter now repo actor handler).1.answered =
      (limiter.call now repo actor.call).1.1 ∧
    (MentionHandler.checkThenHandle limiter now repo actor handler).2 =
      (limiter.call now repo actor.call).2 := by
  rcases h : limiter.checkMentionResponse now repo actor.user actor.association with
    ⟨⟨allowed, reason⟩, repo'⟩
  simp only [MentionHandler.checkThenHandle, EventActor.call, RateLimiter.call, h]
  cases allowed
  · exact ⟨rfl, rfl⟩
  · exact ⟨hhandler, rfl⟩

/-- **A handled event.** A run of `main` on an event it handles makes the mention check
of the event's actor and nothing else, and answers iff the check admits. -/
theorem main_of_mentionActor {actor : EventActor} (h : mentionActor eventName event = some actor) :
    (MentionHandler.main limiter now repo eventName event).1.answered =
      (limiter.call now repo actor.call).1.1 ∧
    (MentionHandler.main limiter now repo eventName event).2 =
      (limiter.call now repo actor.call).2 := by
  unfold mentionActor at h
  unfold MentionHandler.main
  split_ifs at h ⊢ <;> cases h <;> exact checkThenHandle_eq _ rfl

/-- Other event names end the run before any check. -/
theorem main_of_unsupported (h : mentionActor eventName event = none) :
    MentionHandler.main limiter now repo eventName event = (.unsupported, repo) := by
  unfold mentionActor at h
  unfold MentionHandler.main
  split_ifs at h ⊢
  rfl

end

/-! ## Runs of the workflow -/

/-- The mention workflow is gated by the mention check of the event's actor. -/
theorem mention_gated (limiter : RateLimiter) (now : UtcDate) :
    Gated limiter now (fun repo (run : Py.Str × MentionEvent) =>
      MentionHandler.main limiter now repo run.1 run.2) MentionOutcome.answered
      fun run => (mentionActor run.1 run.2).map EventActor.call where
  skip repo run h := by
    rw [main_of_unsupported (Option.map_eq_none'.mp h)]
    exact ⟨rfl, rfl⟩
  check repo run c h := by
    obtain ⟨actor, hactor, rfl⟩ := Option.map_eq_some'.mp h
    exact main_of_mentionActor hactor

/-- A run meters `u`'s mentions iff it is metered under the key of `u`'s mentions. -/
theorem meteredFor_eq_meteredUnder (limiter : RateLimiter) (u authorAssociation : Py.Str)
    (run : Py.Str × MentionEvent) :
    run.2.meteredFor limiter u run.1 =
      meteredUnder limiter (fun run : Py.Str × MentionEvent => (mentionActor run.1 run.2).map
        EventActor.call) (Call.mentionResponse u authorAssociation).key run := by
  unfold MentionEvent.meteredFor meteredUnder
  dsimp only
  cases mentionActor run.1 run.2 with
  | none => rfl
  | some actor =>
    simp only [Option.map_some', EventActor.call, Call.key, Call.exempt, Prod.mk.injEq, and_true,
      Bool.beq_eq_decide_eq]

/-- **Each login is answered for its first mentions of the day.** On a day whose tracker
has no record yet, run the mention workflow once per event, one run after another, on any
events (any names and payloads, logins without `|`). Of the runs that meter a login `u`
(handled events by `u`, or with no login when `u` is `unknown`, under a role that is not
exempt), the `i`-th is answered iff `mentions_per_user_per_day` is `0` or `i` is below it. -/
theorem mentions_answered_first (limiter : RateLimiter) (now : UtcDate) {repo : Repo}
    {tracker : Nat} (htr : repo.TrackerAt tracker)
    (hfresh : dayRecords (getTodayKey now) (repo.getComments tracker) = [])
    (runs : List (Py.Str × MentionEvent))
    (hlogins : ∀ run ∈ runs, '|' ∉ run.2.comment.user ∧ '|' ∉ run.2.review.user) (u : Py.Str) :
    let byU := (runs.zip (runMentions limiter now repo runs).1).filter fun p =>
      p.1.2.meteredFor limiter u p.1.1
    byU.map (fun p => p.2.answered) =
      firstAdmissions (limiter.config.rateLimits.mentionsPerUserPerDay.getD 10) 0 byU.length := by
  have hcalls : ∀ run ∈ runs, ∀ c, (mentionActor run.1 run.2).map EventActor.call = some c →
      '|' ∉ c.key.1 := by
    intro run hrun c hc
    obtain ⟨actor, hactor, rfl⟩ := Option.map_eq_some'.mp hc
    unfold mentionActor at hactor
    split_ifs at hactor <;> cases hactor
    exacts [(hlogins run hrun).1, (hlogins run hrun).2, (hlogins run hrun).1]
  have hfirst := runGates_first (mention_gated limiter now) runs (agrees_fresh htr hfresh) hcalls
    (.mentionResponse u "NONE".toList)
  simp only [← meteredFor_eq_meteredUnder] at hfirst
  exact hfirst

/-- One mention a day: `alice` is answered on an issue, then refused on a review that
carries no role; an event without a login counts for `unknown`, a push is not handled. -/
theorem mentions_answered_first_alice :
    let limiter : RateLimiter :=
      ⟨{ rateLimits := { mentionsPerUserPerDay := some 1 } }, "github-actions[bot]".toList⟩
    let runs : List (Py.Str × MentionEvent) :=
      [("issue_comment".toList, { comment := ⟨some "alice".toList, some "NONE".toList⟩ }),
        ("pull_request_review".toList, { review := ⟨some "alice".toList, none⟩ }),
        ("issue_comment".toList, {}),
        ("push".toList, {})]
    (∀ run ∈ runs, '|' ∉ run.2.comment.user ∧ '|' ∉ run.2.review.user) ∧
    let byU := (runs.zip (runMentions limiter ⟨2025, 1, 1⟩ ⟨[trackerIssue]⟩ runs).1).filter
      fun p => p.1.2.meteredFor limiter "alice".toList p.1.1
    byU.map (fun p => p.2.answered) =
      firstAdmissions (limiter.config.rateLimits.mentionsPerUserPerDay.getD 10) 0 byU.length := by
  intro limiter runs
  have hlogins : ∀ run ∈ runs, '|' ∉ run.2.comment.user ∧ '|' ∉ run.2.review.user := by decide
  exact ⟨hlogins, @mentions_answered_first limiter ⟨2025, 1, 1⟩ ⟨[trackerIssue]⟩ 0 rfl rfl runs
    hlogins "alice".toList⟩

end RateLimit
