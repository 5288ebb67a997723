import RateLimit.Sequential

/-!
# Concurrent checks: the interleaving

Several workflows can run at once, and a check reaches the tracking issue three times: the
read that decides (`current >= limit` denies), the second read in `_increment_usage`, and
the post of that second read plus one. Here `n` invocations of one check, all metered under
one key, interleave these steps with any other comments; every read sees every earlier post.

* `raceStep`, `raceRun` — the interleaving: an invocation takes its next step, or someone
  comments; each step reports an `Effect`, and the list of effects is the time line;
* `race_steps_eq_call` — three steps of one invocation with nothing in between are the check;
* `firstRead`, `appendAt`, `Overlap` — an admitted invocation's interval, from its deciding
  read to its post (to the end of the run if it never posts), and when two intervals meet;
* `current_append_record`, `current_append_untouched` — what a comment does to the key's
  count.

What the time line records is in `Race/Trace.lean`, the bound on admissions in
`Race/Quota.lean`, and the bound on the count in `Race/Count.lean`.
-/

namespace RateLimit

open Py

/-- The count the deciding read compares with the limit. -/
def Call.value (c : Call) (usage : Usage) : Int :=
  match c with
  | .codeReview => usage.reviewTotal
  | _ => usage.current c.key.1 c.key.2

/-- A record counts toward `c`'s key: it has the key's operation, and the key's user, or the
operation is `review`, whose counts are summed over users. -/
def Call.Touches (c : Call) (r : Py.Str × Py.Str × Int) : Prop :=
  r.2.1 = c.key.2 ∧ (r.1 = c.key.1 ∨ c.key.2 = "review".toList)

/-- When the key's count is summed over users, only the key's own user has one. -/
def Call.Sole (c : Call) (usage : Usage) : Prop :=
  c.key.2 = "review".toList → ∀ u, u ≠ c.key.1 → usage.count? u c.key.2 = none

/-- Where one invocation of the check is. -/
inductive Phase
  | idle
  | denied
  | admitted
  | reread (current : Int)
  | appended
  deriving DecidableEq, Repr, Inhabited

/-- An invocation that passed its deciding read and has not posted yet. -/
def Phase.inFlight : Phase → Bool
  | .admitted | .reread _ => true
  | _ => false

/-- The tracking issue's thread, and where each of `n` invocations is. -/
structure RaceState (n : Nat) where
  thread : List Comment
  phase : Fin n → Phase

/-- The scheduler's choice: invocation `i` takes its next step, or someone comments. -/
inductive RaceEvent (n : Nat)
  | step (i : Fin n)
  | post (author body : Py.Str)
  deriving DecidableEq

/-- What a step did; `alone` tells that no invocation was in flight at a deciding read. -/
inductive Effect (n : Nat)
  | decided (i : Fin n) (admitted alone : Bool)
  | reread (i : Fin n)
  | appended (i : Fin n)
  | skip
  deriving DecidableEq, Inhabited

section

variable (limiter : RateLimiter) (now : UtcDate) (c : Call) {n : Nat}

/-- One step. Both reads parse the whole thread, as `_parse_usage_from_comments` does on
each call; the post carries the second read plus one. -/
def raceStep (s : RaceState n) : RaceEvent n → RaceState n × Effect n
  | .step i =>
    let usage := parseUsageFromComments now s.thread
    match s.phase i with
    | .idle =>
      let alone := decide (∀ j, (s.phase j).inFlight = false)
      if c.value usage ≥ c.limit limiter.config then
        ({ s with phase := Function.update s.phase i .denied }, .decided i false alone)
      else ({ s with phase := Function.update s.phase i .admitted }, .decided i true alone)
    | .admitted =>
      ({ s with phase := Function.update s.phase i (.reread (usage.current c.key.1 c.key.2)) },
        .reread i)
    | .reread current =>
      ({ thread := s.thread ++
          [⟨limiter.account, usageRecord (getTodayKey now) c.key.1 c.key.2 (current + 1)⟩],
         phase := Function.update s.phase i .appended }, .appended i)
    | .denied | .appended => (s, .skip)
  | .post author body => ({ s with thread := s.thread ++ [⟨author, body⟩] }, .skip)

/-- A schedule's run: the last state, and the effect of each step in order. -/
def raceRun : RaceState n → List (RaceEvent n) → RaceState n × List (Effect n)
  | s, [] => (s, [])
  | s, e :: es =>
    let r := raceStep limiter now c s e
    let rest := raceRun r.1 es
    (rest.1, r.2 :: rest.2)

/-- The invocations before any step. -/
def RaceState.init (thread : List Comment) : RaceState n := ⟨thread, fun _ => .idle⟩

end

/-- A metered check, once the tracker exists: it admits iff the count it reads is below the
limit, and then posts the key's entry plus one. -/
theorem call_metered_eq (limiter : RateLimiter) (now : UtcDate) {repo : Repo} {tracker : Nat}
    (htr : repo.TrackerAt tracker) {c : Call} (hm : c.metered limiter) :
    let usage := parseUsageFromComments now (repo.getComments tracker)
    (limiter.call now repo c).1.1 = decide (c.value usage < c.limit limiter.config) ∧
    (limiter.call now repo c).2 =
      if c.value usage < c.limit limiter.config then
        repo.createComment tracker limiter.account
          (usageRecord (getTodayKey now) c.key.1 c.key.2 (usage.current c.key.1 c.key.2 + 1))
      else repo := by
  dsimp only
  simp only [Call.metered, Bool.and_eq_true, Bool.not_eq_true', bne_iff_ne, ne_eq] at hm
  cases c <;>
    simp only [RateLimiter.call, RateLimiter.checkIssueEvaluation, RateLimiter.checkMentionResponse,
      RateLimiter.checkUserOperation_of_trackerAt _ _ htr, RateLimiter.checkCodeReview_of_trackerAt _ _ htr,
      Call.exempt, Call.limit, Call.value, Call.key] at hm ⊢ <;>
    simp only [hm.1, hm.2, if_false, Bool.false_eq_true] <;>
    split_ifs <;>
    first
    | (exfalso; omega)
    | exact ⟨(decide_eq_false ‹_›).symm, rfl⟩
    | exact ⟨(decide_eq_true ‹_›).symm, rfl⟩

/-- **The interleaving refines the check.** Three steps of one invocation with nothing in
between are `check_*` itself: the same post, and admission iff the check admits. -/
theorem race_steps_eq_call (limiter : RateLimiter) (now : UtcDate) {c : Call}
    (hm : c.metered limiter) {repo : Repo} {tracker : Nat} (htr : repo.TrackerAt tracker) {n : Nat}
    {s : RaceState n} (hthread : s.thread = repo.getComments tracker) {i : Fin n}
    (hi : s.phase i = .idle) :
    let s' := (raceRun limiter now c s [.step i, .step i, .step i]).1
    s'.thread = (limiter.call now repo c).2.getComments tracker ∧
      (s'.phase i = .appended ↔ (limiter.call now repo c).1.1 = true) := by
  obtain ⟨hdecision, hrepo⟩ := call_metered_eq limiter now htr hm
  rw [← hthread] at hdecision hrepo
  rw [hdecision, hrepo]
  by_cases hlt : c.value (parseUsageFromComments now s.thread) < c.limit limiter.config
  · rw [if_pos hlt, getComments_createComment _ _ _ _ _ htr.lt_length, if_pos rfl, ← hthread]
    simp [raceRun, raceStep, hi, not_le.mpr hlt, hlt]
  · rw [if_neg hlt, ← hthread]
    simp [raceRun, raceStep, hi, le_of_not_lt hlt, hlt]

/-- One uncontended mention check, as three steps. -/
theorem race_steps_eq_call_alice :
    let limiter : RateLimiter := ⟨{}, "github-actions[bot]".toList⟩
    let c := Call.mentionResponse "alice".toList "NONE".toList
    let s' := (raceRun limiter ⟨2025, 1, 1⟩ c (RaceState.init [] : RaceState 1)
      [.step 0, .step 0, .step 0]).1
    s'.thread = (limiter.call ⟨2025, 1, 1⟩ ⟨[trackerIssue]⟩ c).2.getComments 0 ∧
      (s'.phase 0 = .appended ↔ (limiter.call ⟨2025, 1, 1⟩ ⟨[trackerIssue]⟩ c).1.1 = true) := by
  intro limiter c s'
  exact @race_steps_eq_call limiter ⟨2025, 1, 1⟩ c (by decide) ⟨[trackerIssue]⟩ 0 rfl 1 (.init [])
    rfl 0 rfl

/-! ## The time line -/

namespace Effect

variable {n : Nat}

/-- The deciding read of `i`, when it admitted. -/
def opens (i : Fin n) : Effect n → Bool
  | .decided j true _ => j == i
  | _ => false

/-- The post of `i`. -/
def closes (i : Fin n) : Effect n → Bool
  | .appended j => j == i
  | _ => false

/-- A post of any invocation. -/
def posted : Effect n → Bool
  | .appended _ => true
  | _ => false

/-- The invocation a deciding read admitted with no other in flight. -/
def aloneOpen : Effect n → Option (Fin n)
  | .decided i true true => some i
  | _ => none

end Effect

section

variable {n : Nat}

/-- The position of `i`'s admitting read among the effects. -/
def firstRead (effects : List (Effect n)) (i : Fin n) : Nat :=
  effects.findIdx (Effect.opens i)

/-- The position of `i`'s post; the end of the run if it never posted. -/
def appendAt (effects : List (Effect n)) (i : Fin n) : Nat :=
  effects.findIdx (Effect.closes i)

/-- The admitted invocations. -/
def admittedCalls (effects : List (Effect n)) : Finset (Fin n) :=
  Finset.univ.filter fun i => effects.any (Effect.opens i)

/-- The invocations admitted with no other in flight. -/
def aloneCalls (effects : List (Effect n)) : Finset (Fin n) :=
  (effects.filterMap Effect.aloneOpen).toFinset

/-- Two admitted invocations whose `[first read, append]` intervals meet. -/
def Overlap (effects : List (Effect n)) (i j : Fin n) : Prop :=
  i ∈ admittedCalls effects ∧ j ∈ admittedCalls effects ∧
    firstRead effects i ≤ appendAt effects j ∧ firstRead effects j ≤ appendAt effects i

end

/-! ## The key's count under comments -/

section

variable {n : Nat} {now : UtcDate} {c : Call}

/-- The key's entry in the snapshot, as the second read sees it. -/
def RaceState.count (now : UtcDate) (c : Call) (s : RaceState n) : Int :=
  (parseUsageFromComments now s.thread).current c.key.1 c.key.2

theorem Call.value_eq_current {usage : Usage} (h : c.Sole usage) :
    c.value usage = usage.current c.key.1 c.key.2 := by
  cases c with
  | codeReview =>
    rw [Call.value, reviewTotal_of_single usage _ (h rfl), ← current_eq_count?]
    rfl
  | _ => rfl

/-- A comment with no record toward the key keeps the key's entry and every entry the
summed count reads. -/
theorem count?_append_untouched (thread : List Comment) (author body : Py.Str)
    (hbody : ∀ r, dayRecord (getTodayKey now) body = some r → ¬c.Touches r) {u op : Py.Str}
    (hkey : op = c.key.2 ∧ (u = c.key.1 ∨ c.key.2 = "review".toList)) :
    (parseUsageFromComments now (thread ++ [⟨author, body⟩])).count? u op =
      (parseUsageFromComments now thread).count? u op := by
  rw [parseUsage_append]
  split
  · next user opType k hr =>
    rw [if_neg]
    rintro ⟨rfl, rfl⟩
    exact hbody _ hr hkey
  · rfl

/-- The key's own record sets the key's entry and no other. -/
theorem count?_append_record (thread : List Comment) (author : Py.Str) (huser : '|' ∉ c.key.1)
    (k : Int) (u op : Py.Str) :
    (parseUsageFromComments now
        (thread ++ [⟨author, usageRecord (getTodayKey now) c.key.1 c.key.2 k⟩])).count? u op =
      if u = c.key.1 ∧ op = c.key.2 then some k
      else (parseUsageFromComments now thread).count? u op := by
  rw [parseUsage_append, dayRecord_usageRecord now k huser (Call.key_op c).1]

/-- After the key's own record, the key's entry is that record's count. -/
theorem current_append_record (thread : List Comment) (author : Py.Str) (huser : '|' ∉ c.key.1)
    (k : Int) :
    (parseUsageFromComments now
        (thread ++ [⟨author, usageRecord (getTodayKey now) c.key.1 c.key.2 k⟩])).current
      c.key.1 c.key.2 = k := by
  rw [current_eq_count?, count?_append_record _ _ huser, if_pos ⟨rfl, rfl⟩]; rfl

/-- A comment with no record toward the key keeps the key's entry. -/
theorem current_append_untouched (thread : List Comment) (author body : Py.Str)
    (hbody : ∀ r, dayRecord (getTodayKey now) body = some r → ¬c.Touches r) :
    (parseUsageFromComments now (thread ++ [⟨author, body⟩])).current c.key.1 c.key.2 =
      (parseUsageFromComments now thread).current c.key.1 c.key.2 := by
  rw [current_eq_count?, current_eq_count?, count?_append_untouched _ _ _ hbody ⟨rfl, .inl rfl⟩]

theorem Phase.update_eq_reread {f : Fin n → Phase} {i j : Fin n} {p : Phase} {r : Int}
    (hj : Function.update f i p j = .reread r) (hp : ∀ r', p ≠ .reread r') : f j = .reread r := by
  by_cases hji : j = i
  · subst hji; rw [Function.update_same] at hj; exact absurd hj (hp r)
  · rwa [Function.update_noteq hji] at hj

end

end RateLimit
