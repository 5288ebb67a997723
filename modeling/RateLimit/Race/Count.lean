import RateLimit.Race.Step

/-!
# Concurrent checks: no overcount

`Ledgered` bounds the key's count, and every second read in flight, by the first count plus
the records posted so far; `ledgered_step` shows that one step keeps it, and `ledgered_run`
that a whole run does. Hence `race_count_le_posts`: races lose admissions from the count,
and never add any.
-/

namespace RateLimit

variable {n : Nat}

section

variable {limiter : RateLimiter} {now : UtcDate} {c : Call} {c0 : Int} {s : RaceState n} {a : Nat}

/-- The key's entry, and every second read in flight, are at most the first count plus the
posts so far. -/
structure Ledgered (now : UtcDate) (c : Call) (c0 : Int) (s : RaceState n) (a : Nat) : Prop where
  count : s.count now c ≤ c0 + a
  reads : ∀ j r, s.phase j = .reread r → r ≤ c0 + a

/-- **One step keeps the bound.** A second read copies the entry, and a post sets the
entry to a second read plus one, with one post more. -/
theorem ledgered_step (h : Ledgered now c c0 s a) (huser : '|' ∉ c.key.1) (e : RaceEvent n)
    (he : ∀ author body, e = .post author body →
      ∀ r, dayRecord (getTodayKey now) body = some r → ¬c.Touches r) :
    Ledgered now c c0 (raceStep limiter now c s e).1
      (a + if (raceStep limiter now c s e).2.posted then 1 else 0) := by
  have hskip : (if (Effect.skip : Effect n).posted then 1 else 0) = 0 := rfl
  cases e with
  | post author body =>
    simp only [raceStep, hskip, Nat.add_zero]
    exact ⟨(current_append_untouched _ _ _ (he author body rfl)).trans_le h.count, h.reads⟩
  | step i =>
    cases hp : s.phase i with
    | idle =>
      simp only [raceStep, hp]
      split <;> exact ⟨h.count, fun j r hj => h.reads j r (Phase.update_eq_reread hj fun _ => nofun)⟩
    | admitted =>
      simp only [raceStep, hp, Effect.posted, Bool.false_eq_true, if_false, Nat.add_zero]
      refine ⟨h.count, fun j r hj => ?_⟩
      by_cases hji : j = i
      · subst hji
        simp only [Function.update_same, Phase.reread.injEq] at hj
        exact hj ▸ h.count
      · simp only [Function.update_noteq hji] at hj
        exact h.reads j r hj
    | reread r =>
      have hr := h.reads i r hp
      simp only [raceStep, hp]
      refine ⟨?_, fun j r' hj => ?_⟩
      · rw [RaceState.count, current_append_record _ _ huser]
        simp only [Effect.posted, if_true]
        omega
      · have := h.reads j r' (Phase.update_eq_reread hj fun _ => nofun)
        simp only [Effect.posted, if_true]
        omega
    | denied => simpa only [raceStep, hp, hskip, Nat.add_zero] using h
    | appended => simpa only [raceStep, hp, hskip, Nat.add_zero] using h

theorem ledgered_run (h : Ledgered now c c0 s a) (huser : '|' ∉ c.key.1)
    (events : List (RaceEvent n))
    (hposts : ∀ author body, RaceEvent.post author body ∈ events →
      ∀ r, dayRecord (getTodayKey now) body = some r → ¬c.Touches r) :
    Ledgered now c c0 (raceRun limiter now c s events).1
      (a + ((raceRun limiter now c s events).2.filter Effect.posted).length) := by
  induction events generalizing s a with
  | nil => simpa [raceRun] using h
  | cons e es ih =>
    have hstep : Ledgered now c c0 (raceStep limiter now c s e).1 _ :=
      ledgered_step h huser e fun a b hab => hposts a b (hab ▸ List.mem_cons_self _ _)
    have h' := ih hstep fun a b hab => hposts a b (List.mem_cons_of_mem _ hab)
    simp only [raceRun, List.filter_cons]
    split
    · next hpost =>
      simp only [hpost, if_true, List.length_cons] at h' ⊢
      simpa only [Nat.add_assoc, Nat.add_comm 1] using h'
    · next hpost => simpa only [hpost, Bool.false_eq_true, if_false, Nat.add_zero] using h'

end

/-- **The ledger never overcounts.** Run `n` invocations of one check whose key's user has
no `|`, each as its three steps, interleaved in any order with any other comments that
carry no record of the day toward the key. The key's entry on the tracker then is at most
its entry before the run plus the number of records the invocations posted: a post carries
a second read plus one, and no read sees more than was posted. Races can only lose
admissions from the count, never add any. -/
theorem race_count_le_posts (limiter : RateLimiter) (now : UtcDate) (c : Call)
    (huser : '|' ∉ c.key.1) {n : Nat} (thread : List Comment) (events : List (RaceEvent n))
    (hposts : ∀ author body, RaceEvent.post author body ∈ events →
      ∀ r, dayRecord (getTodayKey now) body = some r → ¬c.Touches r) :
    let run := raceRun limiter now c (.init thread) events
    (parseUsageFromComments now run.1.thread).current c.key.1 c.key.2 ≤
      (parseUsageFromComments now thread).current c.key.1 c.key.2 +
        (run.2.filter Effect.posted).length := by
  have hinit : Ledgered now c ((parseUsageFromComments now thread).current c.key.1 c.key.2)
      (RaceState.init thread : RaceState n) 0 := ⟨by simp [RaceState.count, RaceState.init], nofun⟩
  simpa using (ledgered_run hinit huser events hposts).count
/-- Two invocations that both read before either posts post the same count: two records,
and the count is one. -/
theorem race_count_le_posts_overlapping :
    let limiter : RateLimiter := ⟨{}, "github-actions[bot]".toList⟩
    let c := Call.mentionResponse "alice".toList "NONE".toList
    let events : List (RaceEvent 2) := [.step 0, .step 1, .step 0, .step 1, .step 0, .step 1]
    let run := raceRun limiter ⟨2025, 1, 1⟩ c (.init []) events
    (run.2.filter Effect.posted).length = 2 ∧
    (parseUsageFromComments ⟨2025, 1, 1⟩ run.1.thread).current c.key.1 c.key.2 = 1 ∧
    (parseUsageFromComments ⟨2025, 1, 1⟩ run.1.thread).current c.key.1 c.key.2 ≤
      (parseUsageFromComments ⟨2025, 1, 1⟩ []).current c.key.1 c.key.2 +
        (run.2.filter Effect.posted).length := by
  intro limiter c events run
  exact ⟨by decide, by decide,
    race_count_le_posts limiter ⟨2025, 1, 1⟩ c (by decide) [] events (by simp [events])⟩

end RateLimit
