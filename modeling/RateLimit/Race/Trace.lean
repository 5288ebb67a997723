import RateLimit.Race.Step

/-!
# Concurrent checks: what the time line records

`Trace` ties the phases of the invocations to the effects reported so far: an invocation
admitted while another was in flight has an earlier admitted interval that is still open.
`trace_step` shows that one step keeps it, and `trace_run` that a whole run does;
`mem_aloneCalls` draws from it that the first admission of a race window was made alone.
-/

namespace RateLimit

section

variable {α : Type} {p : α → Bool}

theorem findIdx_append_lt {pre : List α} (rest : List α) (h : pre.any p) :
    (pre ++ rest).findIdx p < pre.length := by
  have hlt : pre.findIdx p < pre.length := List.findIdx_lt_length.mpr (List.any_eq_true.mp h)
  rw [List.findIdx_append, if_pos hlt]
  exact hlt

theorem le_findIdx_append {pre : List α} (rest : List α) (h : pre.any p = false) :
    pre.length ≤ (pre ++ rest).findIdx p := by
  have hnone : pre.findIdx p = pre.length := List.findIdx_eq_length.mpr fun x hx =>
    Bool.eq_false_iff.mpr (List.any_eq_false.mp h x hx)
  rw [List.findIdx_append, hnone, if_neg (Nat.lt_irrefl _)]
  exact Nat.le_add_left _ _

theorem findIdx_append_cons {pre : List α} {x : α} (rest : List α) (h : pre.any p = false)
    (hx : p x) : (pre ++ x :: rest).findIdx p = pre.length := by
  have hnone : pre.findIdx p = pre.length := List.findIdx_eq_length.mpr fun x hx =>
    Bool.eq_false_iff.mpr (List.any_eq_false.mp h x hx)
  rw [List.findIdx_append, hnone, if_neg (Nat.lt_irrefl _), List.findIdx_cons, hx, cond_true,
    Nat.zero_add]

/-- A list with an element satisfying `p` splits at the first one. -/
theorem exists_first_split : ∀ {l : List α}, l.any p →
    ∃ pre x post, l = pre ++ x :: post ∧ p x ∧ pre.any p = false
  | x :: xs, h => by
    by_cases hx : p x
    · exact ⟨[], x, xs, rfl, hx, rfl⟩
    · have hx' : p x = false := Bool.eq_false_iff.mpr hx
      rw [List.any_cons, hx', Bool.false_or] at h
      obtain ⟨pre, y, post, rfl, hy, hpre⟩ := @exists_first_split xs h
      exact ⟨x :: pre, y, post, rfl, hy, by rw [List.any_cons, hx', hpre, Bool.false_or]⟩

theorem any_snoc (l : List α) (x : α) : (l ++ [x]).any p = (l.any p || p x) := by
  rw [List.any_append, List.any_cons, List.any_nil, Bool.or_false]

/-- A split of `l ++ [x]` at an element is the split at `x`, or a split of `l`. -/
theorem split_snoc {l pre post : List α} {x y : α} (h : l ++ [x] = pre ++ y :: post) :
    (pre = l ∧ y = x) ∨ ∃ post', l = pre ++ y :: post' := by
  rcases List.eq_nil_or_concat post with rfl | ⟨post', z, rfl⟩
  · obtain ⟨hpre, hy⟩ := List.append_inj' h rfl
    exact .inl ⟨hpre.symm, (List.cons.inj hy).1.symm⟩
  · rw [List.concat_eq_append, ← List.cons_append, ← List.append_assoc] at h
    exact .inr ⟨post', (List.append_inj' h rfl).1⟩

end

variable {n : Nat}

/-- At an admitting read of `i` with prefix `pre`: `i` had not posted, and if another
invocation was in flight, one admitted in `pre` had not posted yet. -/
def DecidedOk (pre : List (Effect n)) (i : Fin n) (alone : Bool) : Prop :=
  pre.any (Effect.closes i) = false ∧
    (alone = false → ∃ j, pre.any (Effect.opens j) ∧ pre.any (Effect.closes j) = false)

/-- The phases agree with the time line so far. -/
structure Trace (s : RaceState n) (effects : List (Effect n)) : Prop where
  closed : ∀ j, effects.any (Effect.closes j) → s.phase j = .appended
  opened : ∀ j, (s.phase j).inFlight → effects.any (Effect.opens j)
  decided : ∀ pre i alone post, effects = pre ++ .decided i true alone :: post →
    DecidedOk pre i alone

section

variable {limiter : RateLimiter} {now : UtcDate} {c : Call} {s : RaceState n}
  {effects : List (Effect n)}

theorem Trace.not_closes (h : Trace s effects) (j : Fin n) (hj : s.phase j ≠ .appended) :
    effects.any (Effect.closes j) = false := by
  cases hc : effects.any (Effect.closes j)
  · rfl
  · exact absurd (h.closed j hc) hj

theorem Trace.decided_snoc (h : Trace s effects) {x : Effect n}
    (hx : ∀ i alone, x = .decided i true alone → DecidedOk effects i alone) :
    ∀ pre i alone post, effects ++ [x] = pre ++ .decided i true alone :: post →
      DecidedOk pre i alone := by
  intro pre i alone post hsplit
  rcases split_snoc hsplit with ⟨rfl, hxi⟩ | ⟨post', hpre⟩
  · exact hx i alone hxi.symm
  · exact h.decided pre i alone post' hpre

/-- A step that changes no phase and reports nothing. -/
theorem Trace.skip (h : Trace s effects) {s' : RaceState n} (hphase : s'.phase = s.phase) :
    Trace s' (effects ++ [.skip]) where
  closed j hj := by
    simp only [any_snoc, Effect.closes, Bool.or_false] at hj
    rw [hphase]; exact h.closed j hj
  opened j hj := by
    rw [hphase] at hj; rw [any_snoc, h.opened j hj, Bool.true_or]
  decided := h.decided_snoc fun _ _ hx => nomatch hx

/-- A step that moves invocation `i` to phase `p` and reports `x`, an effect of `i`. -/
theorem Trace.update (h : Trace s effects) {s' : RaceState n} {i : Fin n} {p : Phase}
    {x : Effect n} (hphase : s'.phase = Function.update s.phase i p)
    (hx : ∀ j, j ≠ i → x.opens j = false ∧ x.closes j = false)
    (hclosed : (effects ++ [x]).any (Effect.closes i) → p = .appended)
    (hopened : p.inFlight → (effects ++ [x]).any (Effect.opens i))
    (hdecided : ∀ i' alone, x = .decided i' true alone → DecidedOk effects i' alone) :
    Trace s' (effects ++ [x]) where
  closed j hj := by
    rw [hphase]
    by_cases hji : j = i
    · subst hji; rw [Function.update_same]; exact hclosed hj
    · rw [Function.update_noteq hji]
      rw [any_snoc, (hx j hji).2, Bool.or_false] at hj
      exact h.closed j hj
  opened j hj := by
    rw [hphase] at hj
    by_cases hji : j = i
    · subst hji; rw [Function.update_same] at hj; exact hopened hj
    · rw [Function.update_noteq hji] at hj; rw [any_snoc, h.opened j hj, Bool.true_or]
  decided := h.decided_snoc hdecided

/-- A step keeps the phases in agreement with the time line. -/
theorem trace_step (h : Trace s effects) (e : RaceEvent n) :
    Trace (raceStep limiter now c s e).1 (effects ++ [(raceStep limiter now c s e).2]) := by
  have hne : ∀ {i j : Fin n}, j ≠ i → (i == j) = false := fun hji => beq_false_of_ne (Ne.symm hji)
  cases e with
  | post author body => exact h.skip rfl
  | step i =>
    cases hp : s.phase i with
    | idle =>
      have hnot := h.not_closes i (by rw [hp]; decide)
      have hclosed : ∀ (a : Bool) (p : Phase),
          (effects ++ [Effect.decided i a (decide (∀ j, (s.phase j).inFlight = false))]).any
            (Effect.closes i) → p = .appended := fun _ _ hc => by
        simp only [any_snoc, hnot, Effect.closes, Bool.false_or, Bool.false_eq_true] at hc
      simp only [raceStep, hp]
      split
      · exact h.update rfl (fun j hji => ⟨rfl, rfl⟩) (hclosed false _)
          (fun hin => nomatch hin) fun _ _ hx => nomatch hx
      · refine h.update rfl (fun j hji => ⟨by rw [Effect.opens, hne hji], rfl⟩) (hclosed true _)
          (fun _ => by rw [any_snoc, Effect.opens, beq_self_eq_true, Bool.or_true]) ?_
        rintro _ alone ⟨⟩
        refine ⟨hnot, fun halone => ?_⟩
        obtain ⟨j, hj⟩ : ∃ j, (s.phase j).inFlight := by
          simpa only [decide_eq_false_iff_not, not_forall, Bool.not_eq_false] using halone
        refine ⟨j, h.opened j hj, h.not_closes j fun hj' => ?_⟩
        rw [hj'] at hj; exact nomatch hj
    | admitted =>
      have hnot := h.not_closes i (by rw [hp]; decide)
      simp only [raceStep, hp]
      exact h.update rfl (fun j hji => ⟨rfl, rfl⟩)
        (fun hc => by
          simp only [any_snoc, hnot, Effect.closes, Bool.false_or, Bool.false_eq_true] at hc)
        (fun _ => by rw [any_snoc, h.opened i (by rw [hp]; rfl), Bool.true_or])
        fun _ _ hx => nomatch hx
    | reread r =>
      simp only [raceStep, hp]
      exact h.update rfl (fun j hji => ⟨rfl, by rw [Effect.closes, hne hji]⟩)
        (fun _ => rfl) (fun hin => nomatch hin) fun _ _ hx => nomatch hx
    | denied => simp only [raceStep, hp]; exact h.skip rfl
    | appended => simp only [raceStep, hp]; exact h.skip rfl

theorem trace_run (h : Trace s effects) (events : List (RaceEvent n)) :
    Trace (raceRun limiter now c s events).1 (effects ++ (raceRun limiter now c s events).2) := by
  induction events generalizing s effects with
  | nil => simpa only [raceRun, List.append_nil] using h
  | cons e es ih =>
    simpa only [raceRun, List.append_assoc, List.singleton_append] using
      ih (@trace_step _ limiter now c _ _ h e)

end

/-- **An uncontended leader.** An admitted invocation such that no overlapping admitted
invocation was admitted before it was admitted with no other in flight. -/
theorem mem_aloneCalls {s : RaceState n} {effects : List (Effect n)} (h : Trace s effects)
    {l : Fin n} (hl : l ∈ admittedCalls effects)
    (hfirst : ∀ j, Overlap effects j l → firstRead effects l ≤ firstRead effects j) :
    l ∈ aloneCalls effects := by
  have hany : effects.any (Effect.opens l) := (Finset.mem_filter.mp hl).2
  obtain ⟨pre, d, post, hsplit, hd, hpre⟩ := exists_first_split hany
  obtain ⟨i, alone, rfl, rfl⟩ : ∃ i alone, d = .decided i true alone ∧ i = l := by
    cases d with
    | decided i a alone =>
      cases a
      · exact absurd hd (by simp only [Effect.opens, Bool.false_eq_true, not_false_eq_true])
      · exact ⟨i, alone, rfl, by simpa only [Effect.opens, beq_iff_eq] using hd⟩
    | _ => exact absurd hd (by simp only [Effect.opens, Bool.false_eq_true, not_false_eq_true])
  obtain ⟨hclosed, hother⟩ := h.decided pre i alone post hsplit
  have hstart : firstRead effects i = pre.length := by
    rw [firstRead, hsplit]; exact findIdx_append_cons post hpre hd
  cases alone
  · obtain ⟨j, hj, hj'⟩ := hother rfl
    have hjstart : firstRead effects j < pre.length := by
      rw [firstRead, hsplit]; exact findIdx_append_lt _ hj
    have hjend : pre.length ≤ appendAt effects j := by
      rw [appendAt, hsplit]; exact le_findIdx_append _ hj'
    have hiend : pre.length ≤ appendAt effects i := by
      rw [appendAt, hsplit]; exact le_findIdx_append _ hclosed
    have hjadm : j ∈ admittedCalls effects := by
      simp only [admittedCalls, Finset.mem_filter, Finset.mem_univ, true_and, hsplit,
        List.any_append, hj, Bool.true_or]
    have := hfirst j ⟨hjadm, hl, by omega, by omega⟩
    omega
  · simp only [aloneCalls, List.mem_toFinset, List.mem_filterMap, hsplit, List.mem_append,
      List.mem_cons]
    exact ⟨.decided i true true, .inr (.inl rfl), rfl⟩
theorem trace_init (thread : List Comment) : Trace (RaceState.init thread : RaceState n) [] where
  closed _ h := by simp at h
  opened _ h := by simp [RaceState.init, Phase.inFlight] at h
  decided pre _ _ _ h := by simp at h

end RateLimit
