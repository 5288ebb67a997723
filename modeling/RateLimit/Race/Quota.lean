import RateLimit.Race.Trace

/-!
# Concurrent checks: admissions over the limit are paid for by races

* `Quota` — the count at each admission made alone is below the limit, and above the count
  at the admission made alone before it; `quota_step` shows that one step keeps it, and
  `quota_run` that a whole run does;
* `race_admissions_le` — the admissions are at most the free slots plus, over the race
  windows (the classes of the overlap relation), each window's size less one.
-/

namespace RateLimit

variable {n : Nat}

/-! ## The count at the admissions made alone -/

section

variable {now : UtcDate} {c : Call}

/-- The count invariant, after `m` admissions made alone, the last of them at count `base`:
each such admission saw a count below the limit and at least one above the one before,
and once every admitted invocation has posted, the count is above `base`. -/
structure Quota (now : UtcDate) (c : Call) (limit c0 : Int) (s : RaceState n) (m : Nat)
    (base : Int) : Prop where
  sole : c.Sole (parseUsageFromComments now s.thread)
  start : m = 0 → s.count now c = c0 ∧ ∀ j, (s.phase j).inFlight = false
  below : 0 < m → base < limit
  climbs : 0 < m → c0 + m ≤ base + 1
  floor : 0 < m → base ≤ s.count now c
  reads : ∀ j r, s.phase j = .reread r → base ≤ r
  settled : 0 < m → (∀ j, (s.phase j).inFlight = false) → base + 1 ≤ s.count now c

variable {limiter : RateLimiter} {limit c0 base : Int} {s : RaceState n} {m : Nat}

/-- A step that keeps the count and every phase's flight and second read keeps the invariant. -/
theorem Quota.frame (h : Quota now c limit c0 s m base) {s' : RaceState n}
    (hsole : c.Sole (parseUsageFromComments now s'.thread)) (hcount : s'.count now c = s.count now c)
    (hflight : ∀ j, (s'.phase j).inFlight = (s.phase j).inFlight)
    (hreads : ∀ j r, s'.phase j = .reread r → s.phase j = .reread r) :
    Quota now c limit c0 s' m base where
  sole := hsole
  start hm := ⟨hcount.trans (h.start hm).1, fun j => (hflight j).trans ((h.start hm).2 j)⟩
  below := h.below
  climbs := h.climbs
  floor hm := hcount ▸ h.floor hm
  reads j r hj := h.reads j r (hreads j r hj)
  settled hm hq := hcount ▸ h.settled hm fun j => (hflight j).symm.trans (hq j)

theorem Quota.pos (h : Quota now c limit c0 s m base) {j : Fin n} (hj : (s.phase j).inFlight) :
    0 < m := by
  rcases Nat.eq_zero_or_pos m with hm | hm
  · simp [(h.start hm).2 j] at hj
  · exact hm

/-- The admissions made alone are at most the free slots. -/
theorem Quota.le (h : Quota now c limit c0 s m base) : (m : Int) ≤ max 0 (limit - c0) := by
  rcases Nat.eq_zero_or_pos m with hm | hm
  · simp [hm]
  · have := h.climbs hm
    have := h.below hm
    omega

theorem filterMap_aloneOpen_snoc (effects : List (Effect n)) (x : Effect n) :
    (effects ++ [x]).filterMap Effect.aloneOpen =
      effects.filterMap Effect.aloneOpen ++ x.aloneOpen.toList := by
  rw [List.filterMap_append]
  cases hx : x.aloneOpen <;> simp only [List.filterMap_cons, List.filterMap_nil, hx] <;> rfl

section

variable {i : Fin n}

theorem not_inFlight_update_admitted (f : Fin n → Phase) (i : Fin n) :
    ¬∀ j, (Function.update f i .admitted j).inFlight = false := fun hq => by
  have := hq i
  rw [Function.update_same] at this
  exact nomatch this

/-- A comment that carries no record of the key changes nothing the invariant reads. -/
theorem Quota.post (h : Quota now c limit c0 s m base) {author body : Py.Str}
    (hcm : ∀ r, dayRecord (getTodayKey now) body = some r → ¬c.Touches r) :
    Quota now c limit c0 { s with thread := s.thread ++ [⟨author, body⟩] } m base :=
  h.frame (fun hrev u hu => by
      rw [count?_append_untouched _ _ _ hcm ⟨rfl, .inr hrev⟩]; exact h.sole hrev u hu)
    (current_append_untouched _ _ _ hcm) (fun _ => rfl) fun _ _ hj => hj

/-- A denial moves no count and no invocation into flight. -/
theorem Quota.deny (h : Quota now c limit c0 s m base) (hp : s.phase i = .idle) :
    Quota now c limit c0 { s with phase := Function.update s.phase i .denied } m base := by
  refine h.frame h.sole rfl (fun j => ?_) fun j r hj => Phase.update_eq_reread hj fun _ => nofun
  by_cases hji : j = i
  · subst hji; simp only [Function.update_same, hp, Phase.inFlight]
  · simp only [Function.update_noteq hji]

/-- An admission made alone opens a window at the current count: below the limit, and at
least one above the last window's base, every earlier admission having posted. -/
theorem Quota.admit_alone (h : Quota now c limit c0 s m base) (hv : s.count now c < limit)
    (halone : ∀ j, (s.phase j).inFlight = false) :
    Quota now c limit c0 { s with phase := Function.update s.phase i .admitted } (m + 1)
      (s.count now c) where
  sole := h.sole
  start hm := absurd hm (Nat.succ_ne_zero _)
  below _ := hv
  climbs _ := by
    rcases Nat.eq_zero_or_pos m with hm | hm
    · have := (h.start hm).1
      push_cast; omega
    · have := h.climbs hm
      have := h.settled hm halone
      push_cast; omega
  floor _ := le_refl _
  reads j r hj := by
    have := halone j
    rw [Phase.update_eq_reread hj fun _ => nofun] at this
    exact nomatch this
  settled _ hq := (not_inFlight_update_admitted _ _ hq).elim

/-- An admission while another invocation is in flight opens no window. -/
theorem Quota.admit_contended (h : Quota now c limit c0 s m base)
    (hbusy : ¬∀ j, (s.phase j).inFlight = false) :
    Quota now c limit c0 { s with phase := Function.update s.phase i .admitted } m base := by
  obtain ⟨j, hj⟩ : ∃ j, (s.phase j).inFlight := by
    simpa only [not_forall, Bool.not_eq_false] using hbusy
  have hm := h.pos hj
  exact ⟨h.sole, fun hm' => absurd hm' hm.ne', h.below, h.climbs, h.floor,
    fun j r hj => h.reads j r (Phase.update_eq_reread hj fun _ => nofun),
    fun _ hq => (not_inFlight_update_admitted _ _ hq).elim⟩

/-- A second read copies the count, which is at least the base. -/
theorem Quota.reread (h : Quota now c limit c0 s m base) (hp : s.phase i = .admitted) :
    Quota now c limit c0
      { s with phase := Function.update s.phase i (.reread (s.count now c)) } m base := by
  have hm := h.pos (j := i) (by rw [hp]; rfl)
  refine ⟨h.sole, fun hm' => absurd hm' hm.ne', h.below, h.climbs, h.floor,
    fun j r hj => ?_, fun _ hq => ?_⟩
  · by_cases hji : j = i
    · subst hji
      simp only [Function.update_same, Phase.reread.injEq] at hj
      rw [← hj]; exact h.floor hm
    · simp only [Function.update_noteq hji] at hj; exact h.reads j r hj
  · have := hq i; simp only [Function.update_same] at this; exact nomatch this

/-- A post carries its second read plus one, so the count reaches the base plus one. -/
theorem Quota.append (h : Quota now c limit c0 s m base) (huser : '|' ∉ c.key.1) {r : Int}
    (hp : s.phase i = .reread r) :
    Quota now c limit c0
      { thread := s.thread ++
          [⟨limiter.account, usageRecord (getTodayKey now) c.key.1 c.key.2 (r + 1)⟩],
        phase := Function.update s.phase i .appended } m base := by
  have hm := h.pos (j := i) (by rw [hp]; rfl)
  have hr := h.reads i r hp
  have hcount := @current_append_record now c s.thread limiter.account huser (r + 1)
  refine ⟨fun hrev u hu => ?_, fun hm' => absurd hm' hm.ne', h.below, h.climbs,
    fun _ => ?_, fun j r' hj => ?_, fun _ _ => ?_⟩
  · rw [count?_append_record _ _ huser, if_neg fun hk => hu hk.1]; exact h.sole hrev u hu
  · rw [RaceState.count, hcount]; omega
  · exact h.reads j r' (Phase.update_eq_reread hj fun _ => nofun)
  · rw [RaceState.count, hcount]; omega

end

/-- **One step keeps the count invariant.** An admission made alone comes at a count below
the limit, at least one above the previous one's, since by then every earlier admitted
invocation had posted a second read taken after that admission. -/
theorem quota_step {effects : List (Effect n)}
    (h : Quota now c (c.limit limiter.config) c0 s (effects.filterMap Effect.aloneOpen).length base)
    (huser : '|' ∉ c.key.1) (e : RaceEvent n)
    (he : ∀ author body, e = .post author body →
      ∀ r, dayRecord (getTodayKey now) body = some r → ¬c.Touches r) :
    ∃ base', Quota now c (c.limit limiter.config) c0 (raceStep limiter now c s e).1
      ((effects ++ [(raceStep limiter now c s e).2]).filterMap Effect.aloneOpen).length base' := by
  set m := (effects.filterMap Effect.aloneOpen).length
  have hsame : ∀ x : Effect n, x.aloneOpen = none →
      ((effects ++ [x]).filterMap Effect.aloneOpen).length = m := fun x hx => by
    rw [filterMap_aloneOpen_snoc, hx, Option.toList, List.append_nil]
  cases e with
  | post author body =>
    refine ⟨base, ?_⟩
    simp only [raceStep, hsame Effect.skip rfl]
    exact h.post (he author body rfl)
  | step i =>
    cases hp : s.phase i with
    | idle =>
      simp only [raceStep, hp]
      split
      · refine ⟨base, ?_⟩
        simp only [hsame (Effect.decided i false _) rfl]
        exact h.deny hp
      · next hlt =>
        have hv : s.count now c < c.limit limiter.config := by
          rw [RaceState.count, ← Call.value_eq_current h.sole]; omega
        by_cases halone : ∀ j, (s.phase j).inFlight = false
        · refine ⟨s.count now c, ?_⟩
          have hlen : ((effects ++ [Effect.decided i true true]).filterMap
              Effect.aloneOpen).length = m + 1 := by
            rw [filterMap_aloneOpen_snoc, List.length_append]; rfl
          rw [decide_eq_true halone]
          dsimp only
          rw [hlen]
          exact h.admit_alone hv halone
        · refine ⟨base, ?_⟩
          rw [decide_eq_false halone]
          simp only [hsame (Effect.decided i true false) rfl]
          exact h.admit_contended halone
    | admitted =>
      exact ⟨base, by simp only [raceStep, hp, hsame (Effect.reread i) rfl]; exact h.reread hp⟩
    | reread r =>
      exact ⟨base, by simp only [raceStep, hp, hsame (Effect.appended i) rfl]; exact h.append huser hp⟩
    | denied => exact ⟨base, by simp only [raceStep, hp, hsame Effect.skip rfl]; exact h⟩
    | appended => exact ⟨base, by simp only [raceStep, hp, hsame Effect.skip rfl]; exact h⟩

theorem quota_run {effects : List (Effect n)}
    (h : Quota now c (c.limit limiter.config) c0 s (effects.filterMap Effect.aloneOpen).length base)
    (huser : '|' ∉ c.key.1) (events : List (RaceEvent n))
    (hposts : ∀ author body, RaceEvent.post author body ∈ events →
      ∀ r, dayRecord (getTodayKey now) body = some r → ¬c.Touches r) :
    ∃ base', Quota now c (c.limit limiter.config) c0 (raceRun limiter now c s events).1
      ((effects ++ (raceRun limiter now c s events).2).filterMap Effect.aloneOpen).length base' := by
  induction events generalizing s effects base with
  | nil => exact ⟨base, by simpa [raceRun] using h⟩
  | cons e es ih =>
    obtain ⟨base', h'⟩ := quota_step h huser e fun a b hab =>
      hposts a b (hab ▸ List.mem_cons_self _ _)
    obtain ⟨base'', h''⟩ := ih h' fun a b hab => hposts a b (List.mem_cons_of_mem _ hab)
    exact ⟨base'', by simpa [raceRun] using h''⟩

end

/-! ## The bound -/

/-- `window` labels the race windows: two admitted invocations share a label iff a chain of
overlapping intervals joins them. -/
def Windows (effects : List (Effect n)) (window : Fin n → Nat) : Prop :=
  ∀ i ∈ admittedCalls effects, ∀ j ∈ admittedCalls effects,
    window i = window j ↔ Relation.ReflTransGen (Overlap effects) i j
theorem quota_init (config : Config) {c : Call} {now : UtcDate} {thread : List Comment}
    (hsole : c.Sole (parseUsageFromComments now thread)) :
    Quota now c (c.limit config) (c.value (parseUsageFromComments now thread))
      (RaceState.init thread : RaceState n) (([] : List (Effect n)).filterMap Effect.aloneOpen).length 0 where
  sole := hsole
  start _ := ⟨(Call.value_eq_current hsole).symm, fun _ => rfl⟩
  below := nofun
  climbs := nofun
  floor := nofun
  reads _ _ h := nomatch h
  settled := nofun

/-- Each window holds an invocation admitted alone, so there are no more windows than
admissions made alone. -/
theorem card_windows_le {effects : List (Effect n)} {s : RaceState n} (h : Trace s effects)
    {window : Fin n → Nat} (hwindow : Windows effects window) :
    ((admittedCalls effects).image window).card ≤ (aloneCalls effects).card := by
  have hsub : (admittedCalls effects).image window ⊆ (aloneCalls effects).image window := by
    intro w hw
    obtain ⟨i, hi, rfl⟩ := Finset.mem_image.mp hw
    obtain ⟨l, hl, hfirst⟩ := ((admittedCalls effects).filter fun j => window j = window i)
      |>.exists_min_image (firstRead effects) ⟨i, Finset.mem_filter.mpr ⟨hi, rfl⟩⟩
    obtain ⟨hl, hli⟩ := Finset.mem_filter.mp hl
    refine Finset.mem_image.mpr ⟨l, mem_aloneCalls h hl fun j hj => hfirst j ?_, hli⟩
    exact Finset.mem_filter.mpr ⟨hj.1, ((hwindow j hj.1 l hl).mpr (.single hj)).trans hli⟩
  exact (Finset.card_le_card hsub).trans Finset.card_image_le

/-- **Admissions under concurrency.** Fix a day, one check whose key's user has no `|`, and a
thread whose snapshot gives the review count to `system` alone when the key is the review
count; let `c0` be the count the check reads before the run and `L` its limit. Run `n`
invocations of the check, each as its three steps, interleaved in any order with any other
comments that carry no record of the day toward the key. Then the invocations admitted are
at most `max 0 (L - c0)` plus, over the race windows (the classes of admitted invocations
joined by chains of overlapping `[first read, post]` intervals), each window's size less one. -/
theorem race_admissions_le (limiter : RateLimiter) (now : UtcDate) (c : Call)
    (huser : '|' ∉ c.key.1) {n : Nat} (thread : List Comment)
    (hsole : c.Sole (parseUsageFromComments now thread)) (events : List (RaceEvent n))
    (hposts : ∀ author body, RaceEvent.post author body ∈ events →
      ∀ r, dayRecord (getTodayKey now) body = some r → ¬c.Touches r)
    (window : Fin n → Nat)
    (hwindow : Windows (raceRun limiter now c (.init thread) events).2 window) :
    let admitted := admittedCalls (raceRun limiter now c (.init thread) events).2
    (admitted.card : Int) ≤
      max 0 (c.limit limiter.config - c.value (parseUsageFromComments now thread)) +
        ∑ w ∈ admitted.image window, (((admitted.filter fun i => window i = w).card : Int) - 1) := by
  intro admitted
  obtain ⟨_, hq⟩ := quota_run (quota_init (limiter.config) hsole) huser events hposts
  have htrace := @trace_run n limiter now c _ _ (trace_init thread) events
  rw [List.nil_append] at hq htrace
  have hwindows : (admitted.image window).card ≤ _ := card_windows_le htrace hwindow
  have halone : ((aloneCalls (raceRun limiter now c (.init thread) events).2).card : Int) ≤
      ((raceRun limiter now c (.init thread) events).2.filterMap Effect.aloneOpen).length :=
    Nat.cast_le.mpr (List.toFinset_card_le _)
  have hsum : ∑ w ∈ admitted.image window, (((admitted.filter fun i => window i = w).card : Int) - 1) =
      admitted.card - (admitted.image window).card := by
    rw [Finset.sum_sub_distrib, Finset.sum_const, ← Nat.cast_sum,
      ← Finset.card_eq_sum_card_image, nsmul_eq_mul, mul_one]
  have := hq.le
  omega

/-- Two code reviews under a limit of two, on a day with one review already counted and
`bob`'s mention count beside it; someone posts `mallory`'s mention record between the
reads. Both reviews read the count `1` before either posts: both are admitted, and the bound
is met exactly, with one free slot and one window of two. -/
theorem race_admissions_le_overlapping :
    let limiter : RateLimiter :=
      ⟨{ rateLimits := { reviewsPerDay := some 2 } }, "github-actions[bot]".toList⟩
    let thread : List Comment :=
      [⟨"github-actions[bot]".toList, "USAGE: 2025-01-01|system|review|1".toList⟩,
        ⟨"github-actions[bot]".toList, "USAGE: 2025-01-01|bob|mention|4".toList⟩]
    let events : List (RaceEvent 2) := [.step 0, .step 1,
      .post "mallory".toList "USAGE: 2025-01-01|mallory|mention|7".toList,
      .step 0, .step 1, .step 0, .step 1]
    let admitted := admittedCalls (raceRun limiter ⟨2025, 1, 1⟩ .codeReview (.init thread) events).2
    admitted.card = 2 ∧
    (admitted.card : Int) ≤
      max 0 (Call.codeReview.limit limiter.config -
        Call.codeReview.value (parseUsageFromComments ⟨2025, 1, 1⟩ thread)) +
        ∑ w ∈ admitted.image (fun _ => 0),
          (((admitted.filter fun i => (fun _ => 0) i = w).card : Int) - 1) := by
  intro limiter thread events admitted
  have hrecords : dayRecords (getTodayKey ⟨2025, 1, 1⟩) thread =
      [("system".toList, "review".toList, 1), ("bob".toList, "mention".toList, 4)] := by decide
  have hsole : Call.codeReview.Sole (parseUsageFromComments ⟨2025, 1, 1⟩ thread) := by
    intro _ u hu
    rw [count?_parseUsageFromComments, hrecords]
    refine lastCount_eq_none fun r hr ⟨hu', hop⟩ => ?_
    rcases List.mem_pair.mp hr with rfl | rfl
    · exact hu hu'.symm
    · exact absurd hop (by decide)
  have hposts : ∀ author body, RaceEvent.post author body ∈ events →
      ∀ r, dayRecord (getTodayKey ⟨2025, 1, 1⟩) body = some r → ¬Call.codeReview.Touches r := by
    intro author body hpost r hr
    simp only [events, List.mem_cons, List.mem_singleton, List.not_mem_nil, reduceCtorEq,
      RaceEvent.post.injEq, false_or, or_false] at hpost
    obtain ⟨rfl, rfl⟩ := hpost
    have hmallory : dayRecord (getTodayKey ⟨2025, 1, 1⟩)
        "USAGE: 2025-01-01|mallory|mention|7".toList =
        some ("mallory".toList, "mention".toList, 7) := by decide
    rw [hmallory, Option.some.injEq] at hr
    subst hr
    exact fun h => absurd h.1 (by decide)
  have hoverlap : ∀ i j : Fin 2,
      Overlap (raceRun limiter ⟨2025, 1, 1⟩ .codeReview (.init thread) events).2 i j := by
    unfold Overlap; decide
  exact ⟨by decide, race_admissions_le limiter ⟨2025, 1, 1⟩ .codeReview (by decide) thread hsole
    events hposts (fun _ => 0) fun i _ j _ => iff_of_true rfl (.single (hoverlap i j))⟩

end RateLimit
