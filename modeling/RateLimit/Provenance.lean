import RateLimit.Sequential

/-!
# What the checks read: the day's records, whoever wrote them

`_parse_usage_from_comments` reads `comment.body` and never `comment.user`, so a check sees
the tracking issue only through the list of well-formed records dated today
(`dayRecords`), in order. Two threads with the same list give the same decision, the same
message, and the same record to post; any account that can comment on the tracker can
therefore raise or lower any count, and records of other days never count.

* `call_congr_dayRecords` — the two-run statement: equal day records, equal results;
* `call_noninterference_own_records` — hence noninterference from other accounts, for
  comments of theirs that are not records of the day;
* `foreign_comment_changes_decision` — a comment by another account resets a count that
  the workflow's own records had exhausted, and exhausts one they had not touched;
* `call_ignores_other_days` — a comment whose date field is not today's changes no result.
-/

namespace RateLimit

open Py

section

variable (limiter : RateLimiter) (now : UtcDate) {repo₁ repo₂ : Repo} {t₁ t₂ : Nat}

/-- Equal day records give equal snapshot reads. -/
theorem current_congr_dayRecords
    (hrecords : dayRecords (getTodayKey now) (repo₁.getComments t₁) =
      dayRecords (getTodayKey now) (repo₂.getComments t₂)) (u op : Py.Str) :
    (parseUsageFromComments now (repo₁.getComments t₁)).count? u op =
      (parseUsageFromComments now (repo₂.getComments t₂)).count? u op := by
  rw [count?_parseUsageFromComments, count?_parseUsageFromComments, hrecords]

/-- **Two runs with the same day records.** Once both trackers exist, a check on either
returns the same decision and message, and either leaves both repositories unchanged or
posts the same body on both trackers. -/
theorem call_congr_dayRecords (h₁ : repo₁.TrackerAt t₁) (h₂ : repo₂.TrackerAt t₂)
    (hrecords : dayRecords (getTodayKey now) (repo₁.getComments t₁) =
      dayRecords (getTodayKey now) (repo₂.getComments t₂)) (c : Call) :
    (limiter.call now repo₁ c).1 = (limiter.call now repo₂ c).1 ∧
    (((limiter.call now repo₁ c).2 = repo₁ ∧ (limiter.call now repo₂ c).2 = repo₂) ∨
      ∃ body, (limiter.call now repo₁ c).2 = repo₁.createComment t₁ limiter.account body ∧
        (limiter.call now repo₂ c).2 = repo₂.createComment t₂ limiter.account body) := by
  have hcount := current_congr_dayRecords now hrecords
  have hcurrent : ∀ u op, (parseUsageFromComments now (repo₁.getComments t₁)).current u op =
      (parseUsageFromComments now (repo₂.getComments t₂)).current u op := fun u op => by
    rw [current_eq_count?, current_eq_count?, hcount]
  have htotal := reviewTotal_congr _ _ fun u => hcount u "review".toList
  cases c <;>
    simp only [RateLimiter.call, RateLimiter.checkIssueEvaluation,
      RateLimiter.checkMentionResponse, RateLimiter.checkUserOperation_of_trackerAt _ _ h₁,
      RateLimiter.checkUserOperation_of_trackerAt _ _ h₂,
      RateLimiter.checkCodeReview_of_trackerAt _ _ h₁,
      RateLimiter.checkCodeReview_of_trackerAt _ _ h₂, hcurrent, htotal] <;>
    split_ifs <;>
    first
    | exact ⟨rfl, .inl ⟨rfl, rfl⟩⟩
    | exact ⟨rfl, .inr ⟨_, rfl, rfl⟩⟩

end

/-- Comments that carry no record of the day can be dropped from the thread. -/
theorem dayRecords_filter (today : Py.Str) (p : Comment → Bool) (comments : List Comment)
    (h : ∀ comment ∈ comments, p comment = false → dayRecord today comment.body = none) :
    dayRecords today (comments.filter p) = dayRecords today comments := by
  induction comments with
  | nil => rfl
  | cons comment rest ih =>
    have ih' := ih fun c hc => h c (List.mem_cons_of_mem _ hc)
    cases hp : p comment
    · rw [List.filter_cons_of_neg (by simp [hp])]
      simpa [dayRecords, h comment (List.mem_cons_self _ _) hp] using ih'
    · rw [List.filter_cons_of_pos hp]
      simp only [dayRecords, List.filterMap_cons] at ih' ⊢
      rw [ih']

/-- **Noninterference, where it holds.** Two trackers with the same comments by the
workflow's own account, whose other comments carry no well-formed record of the day, get
from every check the same decision and message, and gain the same comments. -/
theorem call_noninterference_own_records (limiter : RateLimiter) (now : UtcDate)
    {repo₁ repo₂ : Repo} {t₁ t₂ : Nat} (h₁ : repo₁.TrackerAt t₁) (h₂ : repo₂.TrackerAt t₂)
    (hown : (repo₁.getComments t₁).filter (fun comment => comment.author = limiter.account) =
      (repo₂.getComments t₂).filter (fun comment => comment.author = limiter.account))
    (hforeign₁ : ∀ comment ∈ repo₁.getComments t₁, comment.author ≠ limiter.account →
      dayRecord (getTodayKey now) comment.body = none)
    (hforeign₂ : ∀ comment ∈ repo₂.getComments t₂, comment.author ≠ limiter.account →
      dayRecord (getTodayKey now) comment.body = none) (c : Call) :
    (limiter.call now repo₁ c).1 = (limiter.call now repo₂ c).1 ∧
    ∃ added, (limiter.call now repo₁ c).2.getComments t₁ = repo₁.getComments t₁ ++ added ∧
      (limiter.call now repo₂ c).2.getComments t₂ = repo₂.getComments t₂ ++ added := by
  have hrecords : dayRecords (getTodayKey now) (repo₁.getComments t₁) =
      dayRecords (getTodayKey now) (repo₂.getComments t₂) := by
    have hfilter := dayRecords_filter (getTodayKey now)
      (fun comment : Comment => decide (comment.author = limiter.account))
    rw [← hfilter _ fun comment hc hp => hforeign₁ comment hc (by simpa using hp), hown,
      hfilter _ fun comment hc hp => hforeign₂ comment hc (by simpa using hp)]
  obtain ⟨hresult, hrepo | ⟨body, hbody₁, hbody₂⟩⟩ :=
    call_congr_dayRecords limiter now h₁ h₂ hrecords c
  · exact ⟨hresult, [], by simp [hrepo.1], by simp [hrepo.2]⟩
  · refine ⟨hresult, [⟨limiter.account, body⟩], ?_, ?_⟩
    · rw [hbody₁, getComments_createComment _ _ _ _ _ h₁.lt_length, if_pos rfl]
    · rw [hbody₂, getComments_createComment _ _ _ _ _ h₂.lt_length, if_pos rfl]

/-- The workflow's record among different chatter on each side. -/
theorem call_noninterference_own_records_alice :
    let limiter : RateLimiter := ⟨{}, "github-actions[bot]".toList⟩
    let own : Comment := ⟨"github-actions[bot]".toList,
      "USAGE: 2025-01-01|alice|mention|3".toList⟩
    let repo₁ : Repo := ⟨[{ trackerIssue with comments := [own, ⟨"bob".toList, "thanks!".toList⟩] }]⟩
    let repo₂ : Repo := ⟨[{ trackerIssue with comments :=
      [⟨"carol".toList, "USAGE: soon".toList⟩, own] }]⟩
    let c := Call.mentionResponse "alice".toList "NONE".toList
    (limiter.call ⟨2025, 1, 1⟩ repo₁ c).1 = (limiter.call ⟨2025, 1, 1⟩ repo₂ c).1 ∧
    ∃ added, (limiter.call ⟨2025, 1, 1⟩ repo₁ c).2.getComments 0 = repo₁.getComments 0 ++ added ∧
      (limiter.call ⟨2025, 1, 1⟩ repo₂ c).2.getComments 0 = repo₂.getComments 0 ++ added := by
  intro limiter own repo₁ repo₂ c
  exact @call_noninterference_own_records limiter ⟨2025, 1, 1⟩ repo₁ repo₂ 0 0 rfl rfl
    (by decide) (by decide) (by decide) c

/-- **Other accounts interfere.** The workflow's own comments are the same in each pair of
threads; a comment by `mallory` lowers `alice`'s exhausted count to zero, so `alice` is
admitted again, and raises `bob`'s untouched count to the limit, so `bob` is denied. -/
theorem foreign_comment_changes_decision :
    let limiter : RateLimiter := ⟨{}, "github-actions[bot]".toList⟩
    let own : Comment := ⟨"github-actions[bot]".toList,
      "USAGE: 2025-01-01|alice|mention|10".toList⟩
    let reset : Comment := ⟨"mallory".toList, "USAGE: 2025-01-01|alice|mention|0".toList⟩
    let exhaust : Comment := ⟨"mallory".toList, "USAGE: 2025-01-01|bob|mention|10".toList⟩
    let ownComments := fun (comments : List Comment) =>
      comments.filter fun comment => comment.author = limiter.account
    ownComments [own] = ownComments [own, reset] ∧
    (limiter.checkMentionResponse ⟨2025, 1, 1⟩ ⟨[{ trackerIssue with comments := [own] }]⟩
      "alice".toList "NONE".toList).1.1 = false ∧
    (limiter.checkMentionResponse ⟨2025, 1, 1⟩
      ⟨[{ trackerIssue with comments := [own, reset] }]⟩ "alice".toList "NONE".toList).1.1 = true ∧
    ownComments [own] = ownComments [own, exhaust] ∧
    (limiter.checkMentionResponse ⟨2025, 1, 1⟩ ⟨[{ trackerIssue with comments := [own] }]⟩
      "bob".toList "NONE".toList).1.1 = true ∧
    (limiter.checkMentionResponse ⟨2025, 1, 1⟩
      ⟨[{ trackerIssue with comments := [own, exhaust] }]⟩ "bob".toList "NONE".toList).1.1 = false := by
  decide

/-- A record of another day is not a record of today. -/
theorem dayRecord_usageRecord_other_day {now day : UtcDate}
    (hday : getTodayKey day ≠ getTodayKey now) {user op : Py.Str} (huser : '|' ∉ user)
    (hop : '|' ∉ op) (n : Int) :
    dayRecord (getTodayKey now) (usageRecord (getTodayKey day) user op n) = none := by
  simp [dayRecord, splitUsage_usageRecord day n huser hop, hday]

/-- A comment whose date field, as the parser splits it, is not `today` is no record of
`today`, whatever its other fields hold. -/
theorem dayRecord_of_date_ne {today body : Py.Str}
    (hdate : ∀ fields ∈ splitUsage body, fields.1 ≠ today) : dayRecord today body = none := by
  unfold dayRecord
  split
  · next hsplit => exact if_neg (hdate _ hsplit)
  · rfl

/-- **Day isolation.** A comment whose date field is not today's, posted on the tracker by
anyone, changes no check's decision or message: a record of another day in any spelling the
parser accepts (a signed count, blanks around the fields), or a comment that is no `USAGE:`
line at all. -/
theorem call_ignores_other_days (limiter : RateLimiter) {now : UtcDate} {repo : Repo}
    {tracker : Nat} (htr : repo.TrackerAt tracker) (author body : Py.Str)
    (hdate : ∀ fields ∈ splitUsage body, fields.1 ≠ getTodayKey now) (c : Call) :
    (limiter.call now (repo.createComment tracker author body) c).1 =
      (limiter.call now repo c).1 := by
  refine (call_congr_dayRecords limiter now (trackerAt_createComment _ _ _ htr) htr ?_ c).1
  rw [getComments_createComment _ _ _ _ _ htr.lt_length, if_pos rfl, dayRecords_append]
  simp [dayRecords, dayRecord_of_date_ne hdate]

/-- Yesterday's count, posted by another account with a signed count, does not count today. -/
theorem call_ignores_other_days_alice :
    (∀ fields ∈ splitUsage "USAGE:  2024-12-31 | alice|mention|+10".toList,
      fields.1 ≠ getTodayKey ⟨2025, 1, 1⟩) ∧
    (RateLimiter.call ⟨{}, "github-actions[bot]".toList⟩ ⟨2025, 1, 1⟩
        (Repo.createComment ⟨[trackerIssue]⟩ 0 "mallory".toList
          "USAGE:  2024-12-31 | alice|mention|+10".toList)
        (.mentionResponse "alice".toList "NONE".toList)).1 =
      (RateLimiter.call ⟨{}, "github-actions[bot]".toList⟩ ⟨2025, 1, 1⟩ ⟨[trackerIssue]⟩
        (.mentionResponse "alice".toList "NONE".toList)).1 :=
  ⟨by decide, call_ignores_other_days _ (by rfl) _ _ (by decide) _⟩

end RateLimit
