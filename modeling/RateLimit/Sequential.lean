import RateLimit.Policy

/-!
# Sequential runs: the ledger is an exact per-key counter

Within one UTC day, let the checks run one after another on one tracking issue, with any
other comments in between that are not well-formed records of the day. The abstract
limiter of that day (`specCall`) counts, per key, the calls admitted through the metered
path and admits a metered call iff its key's count is below the limit. A key is
`(user, "issue_eval")`, `(user, "mention")`, or the global `("system", "review")`.

* `Agrees` — the invariant: the tracker stays where it is, the snapshot's entry for each
  key is the abstract count (absent at zero), and only `system` has review counts;
* `call_agrees`, `agrees_comment` — one check, one foreign comment;
* `sequential_exact_counter` — along every run, the checks decide as the abstract
  limiter does, the thread grows by exactly the records it predicts (one per metered
  admission, carrying `n + 1`), and the snapshot is the abstract count.
-/

namespace RateLimit

open Py

/-- The key a call is metered under. -/
def Call.key : Call → Py.Str × Py.Str
  | .issueEvaluation user _ => (user, "issue_eval".toList)
  | .mentionResponse user _ => (user, "mention".toList)
  | .codeReview => ("system".toList, "review".toList)

/-- The limit a call is checked against, with the defaults of the code. -/
def Call.limit (config : Config) : Call → Int
  | .issueEvaluation .. => config.rateLimits.issuesPerUserPerDay.getD 3
  | .mentionResponse .. => config.rateLimits.mentionsPerUserPerDay.getD 10
  | .codeReview => config.rateLimits.reviewsPerDay.getD 20

/-- Whether a call takes the exemption; the review check never does. -/
def Call.exempt (limiter : RateLimiter) : Call → Bool
  | .issueEvaluation _ authorAssociation => limiter.exempt authorAssociation
  | .mentionResponse _ authorAssociation => limiter.exempt authorAssociation
  | .codeReview => false

/-- A call goes through the ledger when it is not exempt and its limit is not `0`. -/
def Call.metered (limiter : RateLimiter) (c : Call) : Bool :=
  !c.exempt limiter && c.limit limiter.config != 0

/-- The abstract limiter's state: admitted metered calls per key. -/
abbrev Admitted := Py.Str → Py.Str → Nat

/-- One more admission for `key`. -/
def Admitted.bump (admitted : Admitted) (key : Py.Str × Py.Str) : Admitted :=
  fun u op => if (u, op) = key then admitted u op + 1 else admitted u op

/-- The abstract limiter: a metered call is admitted iff fewer than `limit` calls of its
key were admitted before it. -/
def specCall (limiter : RateLimiter) (admitted : Admitted) (c : Call) : Bool × Admitted :=
  if c.metered limiter then
    if (admitted c.key.1 c.key.2 : Int) < c.limit limiter.config then
      (true, admitted.bump c.key)
    else (false, admitted)
  else (true, admitted)

/-- The record the abstract limiter expects a call to post: one, carrying the new count,
for a metered admission, and none otherwise. -/
def specRecord (limiter : RateLimiter) (today : Py.Str) (admitted : Admitted) (c : Call) :
    List Comment :=
  if c.metered limiter && (specCall limiter admitted c).1 then
    [⟨limiter.account, usageRecord today c.key.1 c.key.2 (admitted c.key.1 c.key.2 + 1)⟩]
  else []

/-- What happens on the tracker: a check, or some other comment. -/
inductive Event
  | call (c : Call)
  | comment (author body : Py.Str)

/-- A sequential run on the repository: the decisions, and the final repository. -/
def runEvents (limiter : RateLimiter) (now : UtcDate) (tracker : Nat) :
    Repo → List Event → List Bool × Repo
  | repo, [] => ([], repo)
  | repo, .call c :: events =>
    let step := limiter.call now repo c
    let rest := runEvents limiter now tracker step.2 events
    (step.1.1 :: rest.1, rest.2)
  | repo, .comment author body :: events =>
    runEvents limiter now tracker (repo.createComment tracker author body) events

/-- The abstract run: decisions, final counts, and the comments the thread gains. -/
def specRun (limiter : RateLimiter) (today : Py.Str) :
    Admitted → List Event → List Bool × Admitted × List Comment
  | admitted, [] => ([], admitted, [])
  | admitted, .call c :: events =>
    let step := specCall limiter admitted c
    let rest := specRun limiter today step.2 events
    (step.1 :: rest.1, rest.2.1, specRecord limiter today admitted c ++ rest.2.2)
  | admitted, .comment author body :: events =>
    let rest := specRun limiter today admitted events
    (rest.1, rest.2.1, ⟨author, body⟩ :: rest.2.2)

/-- The snapshot agrees with the abstract counts. -/
structure Agrees (now : UtcDate) (tracker : Nat) (repo : Repo) (admitted : Admitted) : Prop where
  trackerAt : repo.TrackerAt tracker
  count : ∀ u op, (parseUsageFromComments now (repo.getComments tracker)).count? u op =
    if admitted u op = 0 then none else some (admitted u op : Int)
  review : ∀ u, u ≠ "system".toList → admitted u "review".toList = 0

section

variable {limiter : RateLimiter} {now : UtcDate} {tracker : Nat} {repo : Repo}
  {admitted : Admitted}

theorem parseUsage_append (now : UtcDate) (comments : List Comment) (c : Comment) (u op : Py.Str) :
    (parseUsageFromComments now (comments ++ [c])).count? u op =
      match dayRecord (getTodayKey now) c.body with
      | some (user, opType, n) =>
        if u = user ∧ op = opType then some n else (parseUsageFromComments now comments).count? u op
      | none => (parseUsageFromComments now comments).count? u op := by
  rw [parseUsageFromComments, List.foldl_append, ← parseUsageFromComments]
  exact count?_parseComment _ _ _ u op

theorem Agrees.current (h : Agrees now tracker repo admitted) (u op : Py.Str) :
    (parseUsageFromComments now (repo.getComments tracker)).current u op = admitted u op := by
  rw [current_eq_count?, h.count]
  split <;> simp_all

theorem Agrees.reviewTotal (h : Agrees now tracker repo admitted) :
    (parseUsageFromComments now (repo.getComments tracker)).reviewTotal =
      admitted "system".toList "review".toList := by
  rw [reviewTotal_of_single _ "system".toList fun u hu => by rw [h.count, h.review u hu, if_pos rfl],
    ← current_eq_count?, h.current]

/-- A tracker with no record of the day agrees with no admission at all. -/
theorem agrees_fresh (htr : repo.TrackerAt tracker)
    (hfresh : dayRecords (getTodayKey now) (repo.getComments tracker) = []) :
    Agrees now tracker repo fun _ _ => 0 :=
  ⟨htr, fun u op => by simp [count?_parseUsageFromComments, hfresh, lastCount], fun _ _ => rfl⟩

/-- A foreign comment that is no record of the day changes no count. -/
theorem agrees_comment (h : Agrees now tracker repo admitted) (author body : Py.Str)
    (hbody : dayRecord (getTodayKey now) body = none) :
    Agrees now tracker (repo.createComment tracker author body) admitted where
  trackerAt := trackerAt_createComment _ _ _ h.trackerAt
  count u op := by
    rw [getComments_createComment _ _ _ _ _ h.trackerAt.lt_length, if_pos rfl,
      parseUsage_append, hbody]
    exact h.count u op
  review := h.review

/-- A record carrying a key's count plus one is one more admission of that key. -/
theorem agrees_record (h : Agrees now tracker repo admitted) {user op : Py.Str}
    (huser : '|' ∉ user) (hop : '|' ∉ op)
    (hreview : op = "review".toList → user = "system".toList) :
    Agrees now tracker (repo.createComment tracker limiter.account
      (usageRecord (getTodayKey now) user op (admitted user op + 1))) (admitted.bump (user, op)) where
  trackerAt := trackerAt_createComment _ _ _ h.trackerAt
  count u o := by
    rw [getComments_createComment _ _ _ _ _ h.trackerAt.lt_length, if_pos rfl,
      parseUsage_append, dayRecord_usageRecord now _ huser hop]
    by_cases hkey : u = user ∧ o = op
    · obtain ⟨rfl, rfl⟩ := hkey
      simp [Admitted.bump]
    · simp only [hkey, if_false, Admitted.bump, Prod.mk.injEq]
      exact h.count u o
  review u hu := by
    unfold Admitted.bump
    rw [if_neg fun h' => by obtain ⟨rfl, hop'⟩ := Prod.mk.inj h'; exact hu (hreview hop'.symm)]
    exact h.review u hu

theorem Call.key_op (c : Call) :
    '|' ∉ c.key.2 ∧ (c.key.2 = "review".toList → c.key.1 = "system".toList) := by
  cases c <;> simp only [Call.key]
  · exact ⟨by decide, fun h => absurd h (by decide)⟩
  · exact ⟨by decide, fun h => absurd h (by decide)⟩
  · exact ⟨by decide, fun _ => trivial⟩

/-- **One check, read through the counts.** A check admits iff it is unmetered or its
key's count is below the limit, and it posts the key's count plus one exactly when it
admits a metered call. -/
theorem call_eq (h : Agrees now tracker repo admitted) (c : Call) :
    (limiter.call now repo c).1.1 =
      (!c.metered limiter || decide ((admitted c.key.1 c.key.2 : Int) < c.limit limiter.config)) ∧
    (limiter.call now repo c).2 =
      if c.metered limiter && decide ((admitted c.key.1 c.key.2 : Int) < c.limit limiter.config)
      then repo.createComment tracker limiter.account
        (usageRecord (getTodayKey now) c.key.1 c.key.2 (admitted c.key.1 c.key.2 + 1))
      else repo := by
  cases c with
  | issueEvaluation user a =>
    simp only [RateLimiter.call, RateLimiter.checkIssueEvaluation,
      RateLimiter.checkUserOperation_of_trackerAt _ _ h.trackerAt, h.current, Call.metered,
      Call.exempt, Call.limit, Call.key]
    split_ifs <;> simp_all
    omega
  | mentionResponse user a =>
    simp only [RateLimiter.call, RateLimiter.checkMentionResponse,
      RateLimiter.checkUserOperation_of_trackerAt _ _ h.trackerAt, h.current, Call.metered,
      Call.exempt, Call.limit, Call.key]
    split_ifs <;> simp_all
    omega
  | codeReview =>
    simp only [RateLimiter.call, RateLimiter.checkCodeReview_of_trackerAt _ _ h.trackerAt,
      h.reviewTotal, h.current, Call.metered, Call.exempt, Call.limit, Call.key]
    split_ifs <;> simp_all
    omega

/-- **One check.** The check decides as the abstract limiter does, the thread gains
exactly the record the abstract limiter predicts, and the snapshot keeps agreeing with
the counts. -/
theorem call_agrees (h : Agrees now tracker repo admitted) (c : Call) (huser : '|' ∉ c.key.1) :
    (limiter.call now repo c).1.1 = (specCall limiter admitted c).1 ∧
    (limiter.call now repo c).2.getComments tracker =
      repo.getComments tracker ++ specRecord limiter (getTodayKey now) admitted c ∧
    Agrees now tracker (limiter.call now repo c).2 (specCall limiter admitted c).2 := by
  obtain ⟨hdecision, hrepo⟩ := call_eq h c
  rw [hdecision, hrepo]
  by_cases hm : c.metered limiter
  · by_cases hlt : (admitted c.key.1 c.key.2 : Int) < c.limit limiter.config
    · have hspec : specCall limiter admitted c = (true, admitted.bump c.key) := by
        simp [specCall, hm, hlt]
      simp only [specRecord, hspec, hm, hlt, decide_True, Bool.not_true, Bool.false_or,
        Bool.and_self, if_true]
      refine ⟨trivial, ?_, agrees_record h huser (Call.key_op c).1 (Call.key_op c).2⟩
      rw [getComments_createComment _ _ _ _ _ h.trackerAt.lt_length, if_pos rfl]
    · have hspec : specCall limiter admitted c = (false, admitted) := by
        simp [specCall, hm, hlt]
      simp [specRecord, hspec, hm, hlt, h]
  · have hspec : specCall limiter admitted c = (true, admitted) := by simp [specCall, hm]
    simp [specRecord, hspec, hm, h]

/-- **A run.** Along every sequence of checks and foreign comments, the checks decide as
the abstract limiter does, the thread gains exactly the comments the abstract run
predicts, and the snapshot agrees with the abstract counts at the end. -/
theorem runEvents_agrees (events : List Event) (h : Agrees now tracker repo admitted)
    (hlogins : ∀ c, Event.call c ∈ events → '|' ∉ c.key.1)
    (hothers : ∀ author body, Event.comment author body ∈ events →
      dayRecord (getTodayKey now) body = none) :
    (runEvents limiter now tracker repo events).1 =
      (specRun limiter (getTodayKey now) admitted events).1 ∧
    (runEvents limiter now tracker repo events).2.getComments tracker =
      repo.getComments tracker ++ (specRun limiter (getTodayKey now) admitted events).2.2 ∧
    Agrees now tracker (runEvents limiter now tracker repo events).2
      (specRun limiter (getTodayKey now) admitted events).2.1 := by
  induction events generalizing repo admitted with
  | nil => simp [runEvents, specRun, h]
  | cons event events ih =>
    cases event with
    | call c =>
      obtain ⟨hdecision, hthread, hagrees⟩ := @call_agrees limiter _ _ _ _ h c
        (hlogins c (List.mem_cons_self _ _))
      obtain ⟨hrest, hthread', hagrees'⟩ := ih hagrees
        (fun c' hc' => hlogins c' (List.mem_cons_of_mem _ hc'))
        (fun a b hab => hothers a b (List.mem_cons_of_mem _ hab))
      simp only [runEvents, specRun, hdecision, hrest, hthread', hthread, List.append_assoc,
        true_and, hagrees', and_true]
    | comment author body =>
      have hbody := hothers author body (List.mem_cons_self _ _)
      obtain ⟨hrest, hthread', hagrees'⟩ := ih (agrees_comment h author body hbody)
        (fun c' hc' => hlogins c' (List.mem_cons_of_mem _ hc'))
        (fun a b hab => hothers a b (List.mem_cons_of_mem _ hab))
      refine ⟨hrest, ?_, hagrees'⟩
      rw [runEvents, hthread', getComments_createComment _ _ _ _ _ h.trackerAt.lt_length,
        if_pos rfl]
      simp [specRun]

end

/-- **Sequential exact per-key counter.** Fix a day, a configuration, and a tracking issue
with no well-formed record of the day. Along any sequence of the three checks (any
logins without `|`, any roles) and of other comments that are not well-formed records of
the day: each check decides as the abstract limiter does (a metered call is admitted iff
fewer than `limit` calls of its key were admitted before it), the thread gains exactly
one record per metered admission, carrying the key's count plus one, and nothing for an
exempt or unlimited call, and the snapshot holds each key's number of admissions, with
no entry at zero. -/
theorem sequential_exact_counter (limiter : RateLimiter) (now : UtcDate) {repo : Repo}
    {tracker : Nat} (htr : repo.TrackerAt tracker)
    (hfresh : dayRecords (getTodayKey now) (repo.getComments tracker) = [])
    (events : List Event) (hlogins : ∀ c, Event.call c ∈ events → '|' ∉ c.key.1)
    (hothers : ∀ author body, Event.comment author body ∈ events →
      dayRecord (getTodayKey now) body = none) :
    (runEvents limiter now tracker repo events).1 =
      (specRun limiter (getTodayKey now) (fun _ _ => 0) events).1 ∧
    (runEvents limiter now tracker repo events).2.getComments tracker =
      repo.getComments tracker ++ (specRun limiter (getTodayKey now) (fun _ _ => 0) events).2.2 ∧
    ∀ u op, (parseUsageFromComments now
        ((runEvents limiter now tracker repo events).2.getComments tracker)).count? u op =
      let n := (specRun limiter (getTodayKey now) (fun _ _ => 0) events).2.1 u op
      if n = 0 then none else some (n : Int) := by
  obtain ⟨hdecisions, hthread, hagrees⟩ :=
    runEvents_agrees events (agrees_fresh htr hfresh) hlogins hothers
  exact ⟨hdecisions, hthread, hagrees.count⟩

/-- The scenario of the design notes: with two mentions a day, `alice` (no role) is
admitted twice and then denied, and `bob` (an owner) is exempt. Between the checks,
`mallory` posts a record for `alice` whose count is no number, and someone thanks the bot. -/
theorem sequential_exact_counter_mentions :
    let limiter : RateLimiter :=
      ⟨{ rateLimits := { mentionsPerUserPerDay := some 2 } }, "github-actions[bot]".toList⟩
    let events := [Event.call (.mentionResponse "alice".toList "NONE".toList),
      .comment "mallory".toList "USAGE: 2025-01-01|alice|mention|zero".toList,
      .call (.mentionResponse "alice".toList "NONE".toList),
      .comment "carol".toList "Thanks!".toList,
      .call (.mentionResponse "alice".toList "NONE".toList),
      .call (.mentionResponse "bob".toList "OWNER".toList)]
    (runEvents limiter ⟨2025, 1, 1⟩ 0 ⟨[trackerIssue]⟩ events).1 =
      (specRun limiter (getTodayKey ⟨2025, 1, 1⟩) (fun _ _ => 0) events).1 ∧
    (runEvents limiter ⟨2025, 1, 1⟩ 0 ⟨[trackerIssue]⟩ events).2.getComments 0 =
      Repo.getComments ⟨[trackerIssue]⟩ 0 ++
        (specRun limiter (getTodayKey ⟨2025, 1, 1⟩) (fun _ _ => 0) events).2.2 ∧
    ∀ u op, (parseUsageFromComments ⟨2025, 1, 1⟩
        ((runEvents limiter ⟨2025, 1, 1⟩ 0 ⟨[trackerIssue]⟩ events).2.getComments 0)).count? u op =
      let n := (specRun limiter (getTodayKey ⟨2025, 1, 1⟩) (fun _ _ => 0) events).2.1 u op
      if n = 0 then none else some (n : Int) := by
  intro limiter events
  refine @sequential_exact_counter limiter ⟨2025, 1, 1⟩ ⟨[trackerIssue]⟩ 0 rfl rfl events ?_ ?_
  · intro c hc
    simp only [events, List.mem_cons, Event.call.injEq, List.mem_singleton, List.not_mem_nil,
      reduceCtorEq, false_or, or_false] at hc
    rcases hc with rfl | rfl | rfl | rfl <;> decide
  · intro author body hc
    simp only [events, List.mem_cons, Event.comment.injEq, List.mem_singleton, List.not_mem_nil,
      reduceCtorEq, false_or, or_false] at hc
    rcases hc with ⟨rfl, rfl⟩ | ⟨rfl, rfl⟩ <;> decide

example : (specRun ⟨{ rateLimits := { mentionsPerUserPerDay := some 2 } }, []⟩ []
    (fun _ _ => 0)
    [.call (.mentionResponse "alice".toList "NONE".toList),
      .call (.mentionResponse "alice".toList "NONE".toList),
      .call (.mentionResponse "alice".toList "NONE".toList),
      .call (.mentionResponse "bob".toList "OWNER".toList)]).1 = [true, true, false, true] := by
  decide

end RateLimit
