import RateLimit.Workflows
import RateLimit.Provenance

/-!
# Runs across days

A check reads the clock three times, each through `_get_today_key`: for the snapshot it
decides on, for the snapshot `_increment_usage` reads again, and for the date of the record
it posts (`Readings`). A check whose three readings fall on one day is the check of that day,
and then the days keep apart: a check of another day posts a record that only that day's
checks read, and each day's checks are admitted as on a fresh day, whatever the order of the
days, a clock that goes back included. A check whose readings straddle midnight is not the
check of any one day: it decides on the counts of one day and posts under the next.

* `RateLimiter.callAt_congr_keys` — a check depends on the clock only through the day keys it
  reads, so one whose readings fall on one day is the check of that day (`callAt_of_sameDay`);
* `callAt_snd_eq_or_record` — once the tracker exists, a check leaves the repository as it is
  or posts one record of its key, dated by its last reading;
* `callAt_ensure` — a check on a repository without a tracker acts as on the repository with
  the tracker it would create;
* `timed_gatedOn` — checks run at their own times, seen from one day;
* `days_independent` — from any repository, each day's checks of each key are admitted as on
  a fresh day, when no check straddles midnight;
* `straddle_charges_post_day` — a check that straddles midnight decides on its first day and
  charges the next.
-/

namespace RateLimit

open Py

/-! ## The clock a check reads -/

/-- Whether a check's three readings fall on one day: it does not straddle midnight. -/
def Readings.sameDay (r : Readings) : Bool :=
  getTodayKey r.reread == getTodayKey r.decision && getTodayKey r.post == getTodayKey r.decision

/-- The snapshot depends on the time only through the day key. -/
theorem parseUsageFromComments_congr {t t' : UtcDate} (h : getTodayKey t = getTodayKey t') :
    parseUsageFromComments t = parseUsageFromComments t' := by
  funext comments
  simp only [parseUsageFromComments, h]

/-- A check depends on its readings only through their day keys. -/
theorem RateLimiter.callAt_congr_keys (limiter : RateLimiter) {r r' : Readings}
    (hdecision : getTodayKey r.decision = getTodayKey r'.decision)
    (hreread : getTodayKey r.reread = getTodayKey r'.reread)
    (hpost : getTodayKey r.post = getTodayKey r'.post) :
    limiter.callAt r = limiter.callAt r' := by
  funext repo c
  cases c <;> simp only [RateLimiter.callAt, RateLimiter.checkUserOperationAt,
    RateLimiter.checkCodeReviewAt, RateLimiter.incrementUsage,
    parseUsageFromComments_congr hdecision, parseUsageFromComments_congr hreread, hpost]

/-- Two times of one day key run the same check. -/
theorem RateLimiter.call_congr_todayKey (limiter : RateLimiter) {t now : UtcDate}
    (h : getTodayKey t = getTodayKey now) : limiter.call t = limiter.call now := by
  rw [← limiter.callAt_at, ← limiter.callAt_at]
  exact limiter.callAt_congr_keys h h h

/-- A check whose readings fall on one day is the check of that day. -/
theorem RateLimiter.callAt_of_sameDay (limiter : RateLimiter) {r : Readings}
    (h : r.sameDay = true) : limiter.callAt r = limiter.call r.decision := by
  obtain ⟨hreread, hpost⟩ : getTodayKey r.reread = getTodayKey r.decision ∧
      getTodayKey r.post = getTodayKey r.decision := by
    simpa [Readings.sameDay] using h
  rw [← limiter.callAt_at]
  exact limiter.callAt_congr_keys rfl hreread hpost

/-- The shared per-user body decides on its first reading alone. -/
theorem RateLimiter.checkUserOperationAt_fst (limiter : RateLimiter) (clock : Readings)
    (repo : Repo) (limitKey : RateLimitsConfig → Option Int) (default : Int)
    (operation noun user authorAssociation : Py.Str) :
    (limiter.checkUserOperationAt clock repo limitKey default operation noun user
      authorAssociation).1 = (limiter.checkUserOperation clock.decision repo limitKey default
        operation noun user authorAssociation).1 := by
  simp only [RateLimiter.checkUserOperation, RateLimiter.checkUserOperationAt, Readings.at]
  split_ifs <;> rfl

/-- `check_code_review` decides on its first reading alone. -/
theorem RateLimiter.checkCodeReviewAt_fst (limiter : RateLimiter) (clock : Readings)
    (repo : Repo) :
    (limiter.checkCodeReviewAt clock repo).1 = (limiter.checkCodeReview clock.decision repo).1 := by
  simp only [RateLimiter.checkCodeReview, RateLimiter.checkCodeReviewAt, Readings.at]
  split_ifs <;> rfl

/-- A check decides on its first reading alone. -/
theorem RateLimiter.callAt_fst (limiter : RateLimiter) (r : Readings) (repo : Repo) (c : Call) :
    (limiter.callAt r repo c).1 = (limiter.call r.decision repo c).1 := by
  cases c with
  | codeReview => exact limiter.checkCodeReviewAt_fst r repo
  | _ => exact limiter.checkUserOperationAt_fst r repo _ _ _ _ _ _

section

variable (limiter : RateLimiter) {repo : Repo} {tracker : Nat}

/-- Once the tracker exists, the shared per-user body leaves the repository as it is, or
posts one record of its user and operation, dated by its last reading. -/
theorem checkUserOperationAt_snd_eq_or_record (htr : repo.TrackerAt tracker) (clock : Readings)
    (limitKey : RateLimitsConfig → Option Int) (default : Int)
    (operation noun user authorAssociation : Py.Str) :
    (limiter.checkUserOperationAt clock repo limitKey default operation noun user
      authorAssociation).2 = repo ∨
      ∃ n, (limiter.checkUserOperationAt clock repo limitKey default operation noun user
        authorAssociation).2 = repo.createComment tracker limiter.account
        (usageRecord (getTodayKey clock.post) user operation n) := by
  simp only [RateLimiter.checkUserOperationAt, getRateLimitIssue_of_trackerAt htr,
    RateLimiter.incrementUsage]
  split_ifs
  · exact .inl rfl
  · exact .inl rfl
  · exact .inl rfl
  · exact .inr ⟨_, rfl⟩

/-- Once the tracker exists, `check_code_review` leaves the repository as it is, or posts one
record of `system`'s reviews, dated by its last reading. -/
theorem checkCodeReviewAt_snd_eq_or_record (htr : repo.TrackerAt tracker) (clock : Readings) :
    (limiter.checkCodeReviewAt clock repo).2 = repo ∨
      ∃ n, (limiter.checkCodeReviewAt clock repo).2 = repo.createComment tracker limiter.account
        (usageRecord (getTodayKey clock.post) "system".toList "review".toList n) := by
  simp only [RateLimiter.checkCodeReviewAt, getRateLimitIssue_of_trackerAt htr,
    RateLimiter.incrementUsage]
  split_ifs
  · exact .inl rfl
  · exact .inl rfl
  · exact .inr ⟨_, rfl⟩

/-- Once the tracker exists, a check leaves the repository as it is, or posts one record of
its key, dated by its last reading. -/
theorem callAt_snd_eq_or_record (htr : repo.TrackerAt tracker) (r : Readings) (c : Call) :
    (limiter.callAt r repo c).2 = repo ∨
      ∃ n, (limiter.callAt r repo c).2 = repo.createComment tracker limiter.account
        (usageRecord (getTodayKey r.post) c.key.1 c.key.2 n) := by
  cases c with
  | codeReview => exact checkCodeReviewAt_snd_eq_or_record limiter htr r
  | _ => exact checkUserOperationAt_snd_eq_or_record limiter htr r _ _ _ _ _ _

/-- A check of another day keeps the day's counts. -/
theorem agrees_call_other_day {now : UtcDate} {admitted : Admitted}
    (h : Agrees now tracker repo admitted) {t : UtcDate} (ht : getTodayKey t ≠ getTodayKey now)
    (c : Call) (huser : '|' ∉ c.key.1) : Agrees now tracker (limiter.call t repo c).2 admitted := by
  rw [← limiter.callAt_at]
  rcases callAt_snd_eq_or_record limiter h.trackerAt (.at t) c with hrepo | ⟨n, hrepo⟩
  · rwa [hrepo]
  · rw [hrepo]
    exact agrees_comment h _ _ (dayRecord_usageRecord_other_day ht huser (Call.key_op c).1 n)

end

/-! ## Before the tracker exists -/

/-- The per-user checks look the tracker up only past the exemption and the unlimited test. -/
theorem checkUserOperationAt_getRateLimitIssue (limiter : RateLimiter) (clock : Readings)
    (repo : Repo) (limitKey : RateLimitsConfig → Option Int) (default : Int)
    (operation noun user authorAssociation : Py.Str) :
    limiter.checkUserOperationAt clock repo limitKey default operation noun user
        authorAssociation =
      if !limiter.exempt authorAssociation && (limitKey limiter.config.rateLimits).getD default != 0
      then limiter.checkUserOperationAt clock (getRateLimitIssue repo).1 limitKey default operation
        noun user authorAssociation
      else ((limiter.checkUserOperationAt clock (getRateLimitIssue repo).1 limitKey default
        operation noun user authorAssociation).1, repo) := by
  unfold RateLimiter.checkUserOperationAt
  by_cases he : limiter.exempt authorAssociation
  · simp only [he, if_true, Bool.not_true, Bool.false_and, Bool.false_eq_true, if_false]
  · by_cases hl : (limitKey limiter.config.rateLimits).getD default = 0
    · simp only [he, hl, Bool.not_false, Bool.true_and, bne_self_eq_false, Bool.false_eq_true,
        if_true, if_false]
    · simp only [he, hl, Bool.not_false, Bool.true_and, bne_iff_ne, ne_eq, not_false_eq_true,
        if_true, if_false, Bool.false_eq_true, getRateLimitIssue_idem]

/-- `check_code_review` looks the tracker up only past the unlimited test. -/
theorem checkCodeReviewAt_getRateLimitIssue (limiter : RateLimiter) (clock : Readings)
    (repo : Repo) :
    limiter.checkCodeReviewAt clock repo =
      if limiter.config.rateLimits.reviewsPerDay.getD 20 != 0 then
        limiter.checkCodeReviewAt clock (getRateLimitIssue repo).1
      else ((limiter.checkCodeReviewAt clock (getRateLimitIssue repo).1).1, repo) := by
  unfold RateLimiter.checkCodeReviewAt
  by_cases hl : limiter.config.rateLimits.reviewsPerDay.getD 20 = 0
  · simp only [hl, bne_self_eq_false, Bool.false_eq_true, if_true, if_false]
  · simp only [hl, bne_iff_ne, ne_eq, not_false_eq_true, if_true, if_false, getRateLimitIssue_idem]

/-- A check runs as on the repository with its tracker ensured; one that does not go through
the ledger leaves the repository it was given. -/
theorem callAt_getRateLimitIssue (limiter : RateLimiter) (clock : Readings) (repo : Repo)
    (c : Call) :
    limiter.callAt clock repo c =
      if c.metered limiter then limiter.callAt clock (getRateLimitIssue repo).1 c
      else ((limiter.callAt clock (getRateLimitIssue repo).1 c).1, repo) := by
  cases c with
  | codeReview => exact checkCodeReviewAt_getRateLimitIssue ..
  | _ => exact checkUserOperationAt_getRateLimitIssue ..

/-- Ensuring the tracker before a check gives the same decision, and the repository that
ensuring it after the check gives. -/
theorem callAt_ensure (limiter : RateLimiter) (clock : Readings) (repo : Repo) (c : Call) :
    (limiter.callAt clock repo c).1 = (limiter.callAt clock (getRateLimitIssue repo).1 c).1 ∧
    (getRateLimitIssue (limiter.callAt clock repo c).2).1 =
      (limiter.callAt clock (getRateLimitIssue repo).1 c).2 := by
  have hensured := callAt_getRateLimitIssue limiter clock (getRateLimitIssue repo).1 c
  rw [getRateLimitIssue_idem] at hensured
  rw [callAt_getRateLimitIssue limiter clock repo c]
  split_ifs with hm
  · refine ⟨rfl, ?_⟩
    have htr := getRateLimitIssue_trackerAt repo
    rcases callAt_snd_eq_or_record limiter htr clock c with h | ⟨n, h⟩ <;> rw [h]
    · exact congrArg Prod.fst (getRateLimitIssue_idem repo)
    · exact congrArg Prod.fst (getRateLimitIssue_of_trackerAt (trackerAt_createComment _ _ _ htr))
  · rw [if_neg hm] at hensured
    exact ⟨rfl, (congrArg Prod.snd hensured).symm⟩

/-! ## Runs across days -/

/-- Checks run one after another, each with the clock as it reads it: what each returned,
and the last repository. -/
def runTimed (limiter : RateLimiter) : Repo → List (Readings × Call) → List (Bool × Py.Str) × Repo :=
  runGates fun repo run => limiter.callAt run.1 repo run.2

/-- Whether a check decides on the day of `now`. -/
def onDayOf (now : UtcDate) (run : Readings × Call) : Bool :=
  getTodayKey run.1.decision == getTodayKey now

/-- Seen from one day, checks that do not straddle midnight are gated on the day's checks,
and the checks of other days keep the day's counts. -/
theorem timed_gatedOn (limiter : RateLimiter) (now : UtcDate) (tracker : Nat) :
    GatedOn limiter now tracker (fun repo run => limiter.callAt run.1 repo run.2) Prod.fst
      (fun run => some run.2) (onDayOf now) fun run => run.1.sameDay = true where
  skip _ _ _ _ hc := nomatch hc
  check repo run c hday hsame hc := by
    cases hc
    rw [limiter.callAt_of_sameDay hsame, limiter.call_congr_todayKey (beq_iff_eq.mp hday)]
    exact ⟨rfl, rfl⟩
  frame repo admitted run hday hsame hlogin h := by
    have ht : getTodayKey run.1.decision ≠ getTodayKey now := by simpa [onDayOf] using hday
    rw [limiter.callAt_of_sameDay hsame]
    exact agrees_call_other_day limiter h ht run.2 (hlogin run.2 rfl)

/-- **Each day keeps its own budgets, for checks within one day.** Start from any
repository, with a tracking issue or without one yet, and run checks one after another, each
reading the clock three times, over any number of days and in any order of their times, a
clock that goes back included, as long as no check's readings straddle midnight. Fix a day
whose tracker (the one there, or the one the first check creates) had no record of that day
at the start, and a check `c₀`. Of that day's checks metered under the key of `c₀`, the
`i`-th admits iff the key's limit is `0` or `i` is below it, whatever checks of other days
come before, between or after them. -/
theorem days_independent (limiter : RateLimiter) (now : UtcDate) (repo : Repo)
    (hfresh : dayRecords (getTodayKey now)
      ((getRateLimitIssue repo).1.getComments (getRateLimitIssue repo).2) = [])
    (runs : List (Readings × Call)) (hsameDay : ∀ run ∈ runs, run.1.sameDay = true)
    (hlogins : ∀ run ∈ runs, '|' ∉ run.2.key.1) (c₀ : Call) :
    let byKey := (runs.zip (runTimed limiter repo runs).1).filter fun p =>
      onDayOf now p.1 && meteredUnder limiter (fun run => some run.2) c₀.key p.1
    byKey.map (fun p => p.2.1) = firstAdmissions (c₀.limit limiter.config) 0 byKey.length := by
  have hensure : (runTimed limiter repo runs).1 =
      (runTimed limiter (getRateLimitIssue repo).1 runs).1 :=
    runGates_ensure (fun repo run => callAt_ensure limiter run.1 repo run.2) repo runs
  rw [hensure]
  exact runGates_first_on (timed_gatedOn limiter now _) runs
    (agrees_fresh (getRateLimitIssue_trackerAt repo) hfresh) hsameDay
    (fun run hrun c hc => by cases hc; exact hlogins run hrun) c₀

/-- One review a day, on a repository with no tracking issue yet, and the clock goes back: two
reviews on the 1st, one on the 2nd, then one more dated the 1st. The first check creates the
tracker; the 2nd's review is admitted, the 1st's second and third are refused. -/
theorem days_independent_clock_back :
    let limiter : RateLimiter :=
      ⟨{ rateLimits := { reviewsPerDay := some 1 } }, "github-actions[bot]".toList⟩
    let runs : List (Readings × Call) :=
      [(.at ⟨2025, 1, 1⟩, .codeReview), (.at ⟨2025, 1, 1⟩, .codeReview),
        (.at ⟨2025, 1, 2⟩, .codeReview), (.at ⟨2025, 1, 1⟩, .codeReview)]
    dayRecords (getTodayKey ⟨2025, 1, 1⟩)
      ((getRateLimitIssue ⟨[]⟩).1.getComments (getRateLimitIssue ⟨[]⟩).2) = [] ∧
    (∀ run ∈ runs, run.1.sameDay = true) ∧ (∀ run ∈ runs, '|' ∉ run.2.key.1) ∧
    let byKey := (runs.zip (runTimed limiter ⟨[]⟩ runs).1).filter fun p =>
      onDayOf ⟨2025, 1, 1⟩ p.1 &&
        meteredUnder limiter (fun run => some run.2) Call.codeReview.key p.1
    byKey.map (fun p => p.2.1) = firstAdmissions (Call.codeReview.limit limiter.config) 0
      byKey.length := by
  intro limiter runs
  have hfresh : dayRecords (getTodayKey ⟨2025, 1, 1⟩)
      ((getRateLimitIssue ⟨[]⟩).1.getComments (getRateLimitIssue ⟨[]⟩).2) = [] := rfl
  have hsameDay : ∀ run ∈ runs, run.1.sameDay = true := by decide
  have hlogins : ∀ run ∈ runs, '|' ∉ run.2.key.1 := by decide
  exact ⟨hfresh, hsameDay, hlogins,
    days_independent limiter ⟨2025, 1, 1⟩ ⟨[]⟩ hfresh runs hsameDay hlogins _⟩

/-- The same checks to the end. -/
example :
    (runTimed ⟨{ rateLimits := { reviewsPerDay := some 1 } }, "github-actions[bot]".toList⟩ ⟨[]⟩
      [(.at ⟨2025, 1, 1⟩, .codeReview), (.at ⟨2025, 1, 1⟩, .codeReview),
        (.at ⟨2025, 1, 2⟩, .codeReview), (.at ⟨2025, 1, 1⟩, .codeReview)]).1.map Prod.fst =
      [true, false, true, false] := by
  decide

/-! ## A check across midnight -/

/-- **A check that straddles midnight charges the next day.** Once the tracker exists, let the
clock pass midnight (UTC) between a check's deciding read and its post. The check decides as
the check of its first day, and leaves that day's counts as they were, whether it admits or
not. When it admits a metered call, it posts the count its second read saw plus one, dated
the later day, so that day pays for an admission it never decided. -/
theorem straddle_charges_post_day (limiter : RateLimiter) {r : Readings} {repo : Repo}
    {tracker : Nat} (htr : repo.TrackerAt tracker)
    (hpost : getTodayKey r.post ≠ getTodayKey r.decision) (c : Call) (huser : '|' ∉ c.key.1) :
    (limiter.callAt r repo c).1 = (limiter.call r.decision repo c).1 ∧
    (∀ u op, (parseUsageFromComments r.decision
        ((limiter.callAt r repo c).2.getComments tracker)).count? u op =
      (parseUsageFromComments r.decision (repo.getComments tracker)).count? u op) ∧
    ((limiter.callAt r repo c).1.1 = true → c.metered limiter = true →
      (limiter.callAt r repo c).2 = repo.createComment tracker limiter.account
        (usageRecord (getTodayKey r.post) c.key.1 c.key.2
          ((parseUsageFromComments r.reread (repo.getComments tracker)).current c.key.1 c.key.2
            + 1))) := by
  refine ⟨limiter.callAt_fst r repo c, fun u op => ?_, fun hadmit hm => ?_⟩
  · rcases callAt_snd_eq_or_record limiter htr r c with hrepo | ⟨n, hrepo⟩ <;> rw [hrepo]
    rw [getComments_createComment _ _ _ _ _ htr.lt_length, if_pos rfl, parseUsage_append,
      dayRecord_usageRecord_other_day hpost huser (Call.key_op c).1]
  · simp only [Call.metered, Bool.and_eq_true, Bool.not_eq_true', bne_iff_ne, ne_eq] at hm
    cases c <;>
      simp only [RateLimiter.callAt, RateLimiter.checkUserOperationAt,
        RateLimiter.checkCodeReviewAt, getRateLimitIssue_of_trackerAt htr,
        RateLimiter.incrementUsage, Call.exempt, Call.limit, Call.key] at hadmit hm ⊢ <;>
      simp only [hm.1, hm.2, if_false, Bool.false_eq_true] at hadmit ⊢ <;>
      split_ifs at hadmit ⊢ <;> rfl

/-- One review a day. A review's check reads the 1st, then the 2nd: it admits on the 1st's
count of `0` and posts its record under the 2nd. The 2nd's first check, which decides on the
2nd alone, is then refused: the day's first metered check, under a limit of one. -/
theorem straddle_charges_post_day_review :
    let limiter : RateLimiter :=
      ⟨{ rateLimits := { reviewsPerDay := some 1 } }, "github-actions[bot]".toList⟩
    let straddle : Readings := ⟨⟨2025, 1, 1⟩, ⟨2025, 1, 2⟩, ⟨2025, 1, 2⟩⟩
    let repo : Repo := ⟨[trackerIssue]⟩
    repo.TrackerAt 0 ∧ getTodayKey straddle.post ≠ getTodayKey straddle.decision ∧
    '|' ∉ Call.codeReview.key.1 ∧
    ((limiter.callAt straddle repo .codeReview).1 =
        (limiter.call straddle.decision repo .codeReview).1 ∧
      (∀ u op, (parseUsageFromComments straddle.decision
          ((limiter.callAt straddle repo .codeReview).2.getComments 0)).count? u op =
        (parseUsageFromComments straddle.decision (repo.getComments 0)).count? u op) ∧
      ((limiter.callAt straddle repo .codeReview).1.1 = true →
        Call.codeReview.metered limiter = true →
        (limiter.callAt straddle repo .codeReview).2 = repo.createComment 0 limiter.account
          (usageRecord (getTodayKey straddle.post) Call.codeReview.key.1 Call.codeReview.key.2
            ((parseUsageFromComments straddle.reread (repo.getComments 0)).current
              Call.codeReview.key.1 Call.codeReview.key.2 + 1)))) ∧
    (runTimed limiter repo [(straddle, .codeReview), (.at ⟨2025, 1, 2⟩, .codeReview)]).1.map
      Prod.fst = [true, false] := by
  exact ⟨rfl, by decide, by decide,
    straddle_charges_post_day _ (by rfl) (by decide) .codeReview (by decide), by decide⟩

end RateLimit
