import RateLimit.Sequential

/-!
# Workflows gated by one check

Each workflow of the repository makes at most one of the three checks per run, and acts only
when it admits. `Gated` says so of a workflow's step: a run either stops before any check and
changes nothing, or makes one check, acts iff the check admits, and leaves the repository the
check leaves. Runs of such a workflow one after another (`runGates`) act, key by key, as the
abstract limiter of `Sequential.lean` admits.

* `firstAdmissions` — what the abstract limiter answers to the metered calls of one key: the
  `i`-th is admitted iff the limit is `0` or the count before it plus `i` is below it;
* `count_firstAdmissions` — from a count of `0`, `min n limit` of `n` calls are admitted;
* `specCall_of_not_exempt`, `specCall_snd_of_ne` — one call on the abstract limiter, seen
  from one key;
* `runGates_ensure` — runs from a repository without a tracker act as from the repository
  with one, when each step does;
* `GatedOn`, `runGates_first_on` — a workflow seen from one day's ledger, under a premise
  each run meets: the day's runs metered under a key act exactly as `firstAdmissions` says,
  whatever runs of other days come between them;
* `runGates_first` — the same when every run falls on the day.
-/

namespace RateLimit

open Py

/-- The admissions the abstract limiter gives to `n` metered calls of one key, from `count`
admissions on: the `i`-th is admitted iff the limit is `0` or `count + i` is below it. -/
def firstAdmissions (limit : Int) (count n : Nat) : List Bool :=
  (List.range n).map fun i => limit == 0 || decide (((count + i : Nat) : Int) < limit)

/-- The first of the next `n + 1` admissions, and the rest from the count the abstract
limiter moves to: one more after an admission under a limit, the same otherwise. -/
theorem firstAdmissions_succ (limit : Int) (count n : Nat) :
    firstAdmissions limit count (n + 1) =
      (limit == 0 || decide ((count : Int) < limit)) ::
        firstAdmissions limit (if limit ≠ 0 ∧ (count : Int) < limit then count + 1 else count) n := by
  rw [firstAdmissions, List.range_succ_eq_map, List.map_cons, List.map_map, firstAdmissions]
  congr 1
  apply List.map_congr_left
  intro i _
  split_ifs with h
  · simp only [Function.comp, show count + i.succ = count + 1 + i by omega]
  · by_cases hl : limit = 0
    · simp [hl]
    · simp only [Function.comp, decide_eq_false (show ¬((count + i.succ : Nat) : Int) < limit by omega),
        decide_eq_false (show ¬((count + i : Nat) : Int) < limit by omega)]

example : firstAdmissions 2 0 4 = [true, true, false, false] := by decide

/-- From a count of `0`, one more call is answered after the others. -/
theorem firstAdmissions_zero_succ (limit : Int) (n : Nat) :
    firstAdmissions limit 0 (n + 1) =
      firstAdmissions limit 0 n ++ [limit == 0 || decide ((n : Int) < limit)] := by
  simp only [firstAdmissions, List.range_succ, List.map_append, List.map_cons, List.map_nil,
    Nat.zero_add]

/-- **The budget is used exactly.** Of `n` metered calls from a count of `0`, all are
admitted when the limit is `0`, and otherwise the first `limit` (none for a negative limit). -/
theorem count_firstAdmissions (limit : Int) (n : Nat) :
    (firstAdmissions limit 0 n).count true = if limit = 0 then n else min n limit.toNat := by
  by_cases hl : limit = 0
  · simp [hl, firstAdmissions]
  · have hb : (limit == 0) = false := beq_eq_false_iff_ne.mpr hl
    simp only [hl, if_false]
    induction n with
    | zero => simp [firstAdmissions]
    | succ n ih =>
      rw [firstAdmissions_zero_succ, List.count_append, ih, List.count_singleton, hb,
        Bool.false_or]
      by_cases hn : (n : Int) < limit
      · simp only [hn, decide_True, beq_self_eq_true, if_true]
        omega
      · simp only [hn, decide_False]
        rw [if_neg (by decide)]
        omega

/-- Calls of one key are checked against one limit. -/
theorem Call.limit_eq_of_key_eq {c c' : Call} (h : c.key = c'.key) (config : Config) :
    c.limit config = c'.limit config := by
  cases c <;> cases c' <;> simp only [Call.key, Prod.mk.injEq] at h <;>
    first | rfl | exact absurd h.2 (by decide)

section

variable {limiter : RateLimiter} {admitted : Admitted}

/-- A call that is not exempt, on the abstract limiter: admitted iff its limit is `0` or its
key's count is below the limit, and the count grows by one on an admission under a limit. -/
theorem specCall_of_not_exempt (c : Call) (hexempt : c.exempt limiter = false) :
    (specCall limiter admitted c).1 = (c.limit limiter.config == 0 ||
      decide ((admitted c.key.1 c.key.2 : Int) < c.limit limiter.config)) ∧
    (specCall limiter admitted c).2 c.key.1 c.key.2 =
      if c.limit limiter.config ≠ 0 ∧ (admitted c.key.1 c.key.2 : Int) < c.limit limiter.config
      then admitted c.key.1 c.key.2 + 1 else admitted c.key.1 c.key.2 := by
  simp only [specCall, Call.metered, hexempt, Bool.not_false, Bool.true_and, bne_iff_ne, ne_eq]
  split_ifs <;> simp_all [Admitted.bump]

/-- A call leaves every count but its key's, and its key's when it is not metered. -/
theorem specCall_snd_of_ne (c : Call) (u op : Py.Str)
    (h : c.metered limiter = false ∨ c.key ≠ (u, op)) :
    (specCall limiter admitted c).2 u op = admitted u op := by
  rcases h with hm | hkey
  · simp [specCall, hm]
  · unfold specCall
    split_ifs <;> simp [Admitted.bump, Ne.symm hkey]

end

/-- Runs of a workflow one after another, each on the repository the last one left: what
each run did, and the last repository. -/
def runGates {α β : Type} (step : Repo → α → β × Repo) : Repo → List α → List β × Repo
  | repo, [] => ([], repo)
  | repo, x :: xs =>
    let r := step repo x
    let rest := runGates step r.2 xs
    (r.1 :: rest.1, rest.2)

/-- Runs from a repository and from the same repository with its tracker ensured act alike,
when each step does and leaves repositories that agree once the tracker is ensured. -/
theorem runGates_ensure {α β : Type} {step : Repo → α → β × Repo}
    (hstep : ∀ repo x, (step repo x).1 = (step (getRateLimitIssue repo).1 x).1 ∧
      (getRateLimitIssue (step repo x).2).1 = (step (getRateLimitIssue repo).1 x).2)
    (repo : Repo) (xs : List α) :
    (runGates step repo xs).1 = (runGates step (getRateLimitIssue repo).1 xs).1 := by
  induction xs generalizing repo with
  | nil => rfl
  | cons x xs ih =>
    obtain ⟨hfst, hsnd⟩ := hstep repo x
    simp only [runGates, hfst, ih (step repo x).2, hsnd]

/-- A workflow gated by one check: `callOf` names the check a run makes, if any. A run that
makes none does not act and changes nothing; one that makes a check acts iff the check
admits, and leaves the repository the check leaves. -/
structure Gated {α β : Type} (limiter : RateLimiter) (now : UtcDate) (step : Repo → α → β × Repo)
    (acted : β → Bool) (callOf : α → Option Call) : Prop where
  skip : ∀ repo x, callOf x = none → acted (step repo x).1 = false ∧ (step repo x).2 = repo
  check : ∀ repo x c, callOf x = some c →
    acted (step repo x).1 = (limiter.call now repo c).1.1 ∧ (step repo x).2 = (limiter.call now repo c).2

/-- A workflow seen from the ledger of one day: on the runs that fall on the day (`onDay`)
it is gated by one check of the day, and every other run keeps the day's counts, as long as
its check's login has no `|`. Each run is taken under a premise `ok` that the runs at hand
meet. -/
structure GatedOn {α β : Type} (limiter : RateLimiter) (now : UtcDate) (tracker : Nat)
    (step : Repo → α → β × Repo) (acted : β → Bool) (callOf : α → Option Call)
    (onDay : α → Bool) (ok : α → Prop) : Prop where
  skip : ∀ repo x, onDay x → ok x → callOf x = none →
    acted (step repo x).1 = false ∧ (step repo x).2 = repo
  check : ∀ repo x c, onDay x → ok x → callOf x = some c →
    acted (step repo x).1 = (limiter.call now repo c).1.1 ∧ (step repo x).2 = (limiter.call now repo c).2
  frame : ∀ repo admitted x, onDay x = false → ok x → (∀ c, callOf x = some c → '|' ∉ c.key.1) →
    Agrees now tracker repo admitted → Agrees now tracker (step repo x).2 admitted

/-- A workflow gated on every run is gated on the runs of any day that picks them all. -/
theorem Gated.on {α β : Type} {limiter : RateLimiter} {now : UtcDate} {step : Repo → α → β × Repo}
    {acted : β → Bool} {callOf : α → Option Call} (h : Gated limiter now step acted callOf)
    (tracker : Nat) : GatedOn limiter now tracker step acted callOf (fun _ => true) fun _ => True where
  skip repo x _ _ := h.skip repo x
  check repo x c _ _ := h.check repo x c
  frame _ _ _ hday := nomatch hday

/-- Whether a run is metered under `key`: it makes a check of that key, not exempt. -/
def meteredUnder {α : Type} (limiter : RateLimiter) (callOf : α → Option Call)
    (key : Py.Str × Py.Str) (x : α) : Bool :=
  match callOf x with
  | some c => decide (c.key = key) && !c.exempt limiter
  | none => false

/-- A run that makes a check is metered under its key unless it is exempt. -/
theorem meteredUnder_of_some {α : Type} {limiter : RateLimiter} {callOf : α → Option Call}
    {key : Py.Str × Py.Str} {x : α} {c : Call} (hc : callOf x = some c) :
    meteredUnder limiter callOf key x = (decide (c.key = key) && !c.exempt limiter) := by
  simp only [meteredUnder, hc]

/-- A run that makes no check is metered under no key. -/
theorem meteredUnder_of_none {α : Type} {limiter : RateLimiter} {callOf : α → Option Call}
    {key : Py.Str × Py.Str} {x : α} (hc : callOf x = none) :
    meteredUnder limiter callOf key x = false := by
  simp only [meteredUnder, hc]

section

variable {α β : Type} {limiter : RateLimiter} {now : UtcDate} {tracker : Nat}
  {step : Repo → α → β × Repo} {acted : β → Bool} {callOf : α → Option Call}

/-- **Runs of a workflow, seen from one day.** From a ledger that agrees with the day's
counts, the runs of the day metered under the key of `c₀` act exactly as the abstract limiter
admits that key's calls from the key's count on, whatever runs of other days come between
them. -/
theorem runGates_first_on {onDay : α → Bool} {ok : α → Prop}
    (hgated : GatedOn limiter now tracker step acted callOf onDay ok) (xs : List α)
    {repo : Repo} {admitted : Admitted} (h : Agrees now tracker repo admitted)
    (hok : ∀ x ∈ xs, ok x) (hlogins : ∀ x ∈ xs, ∀ c, callOf x = some c → '|' ∉ c.key.1)
    (c₀ : Call) :
    let byKey := (xs.zip (runGates step repo xs).1).filter fun p =>
      onDay p.1 && meteredUnder limiter callOf c₀.key p.1
    byKey.map (fun p => acted p.2) =
      firstAdmissions (c₀.limit limiter.config) (admitted c₀.key.1 c₀.key.2) byKey.length := by
  induction xs generalizing repo admitted with
  | nil => rfl
  | cons x xs ih =>
    have hrest := fun y hy => hlogins y (List.mem_cons_of_mem _ hy)
    have hokrest := fun y hy => hok y (List.mem_cons_of_mem _ hy)
    have hx := hlogins x (List.mem_cons_self _ _)
    have hokx := hok x (List.mem_cons_self _ _)
    cases hday : onDay x with
    | false =>
      -- a run of another day: not counted, and the day's ledger still agrees
      simp only [runGates, List.zip_cons_cons, List.filter_cons, hday, Bool.false_and,
        Bool.false_eq_true, if_false]
      exact ih (hgated.frame repo admitted x hday hokx hx h) hokrest hrest
    | true =>
      cases hc : callOf x with
      | none =>
        simp only [runGates, List.zip_cons_cons, List.filter_cons, hday, Bool.true_and,
          meteredUnder_of_none hc, (hgated.skip repo x hday hokx hc).2, Bool.false_eq_true, if_false]
        exact ih h hokrest hrest
      | some c =>
        obtain ⟨hacted, hrepo⟩ := hgated.check repo x c hday hokx hc
        obtain ⟨hdecision, -, hagrees⟩ := @call_agrees limiter _ _ _ _ h c (hx c hc)
        have ih' := ih hagrees hokrest hrest
        dsimp only at ih'
        simp only [runGates, List.zip_cons_cons, List.filter_cons, hrepo, hday, Bool.true_and]
        by_cases hk : meteredUnder limiter callOf c₀.key x
        · obtain ⟨hkey, hexempt⟩ : c.key = c₀.key ∧ c.exempt limiter = false := by
            simpa only [meteredUnder_of_some hc, Bool.and_eq_true, decide_eq_true_eq,
              Bool.not_eq_true'] using hk
          obtain ⟨hfst, hsnd⟩ := @specCall_of_not_exempt limiter admitted c hexempt
          rw [hkey, Call.limit_eq_of_key_eq hkey] at hfst hsnd
          simp only [hk, if_true, List.map_cons, List.length_cons, firstAdmissions_succ, hacted,
            hdecision, hfst, ← hsnd]
          exact congrArg _ ih'
        · have hcount : (specCall limiter admitted c).2 c₀.key.1 c₀.key.2 =
              admitted c₀.key.1 c₀.key.2 := by
            apply specCall_snd_of_ne
            by_cases hkey : c.key = c₀.key
            · have hexempt : c.exempt limiter = true := by
                simpa only [meteredUnder_of_some hc, hkey, decide_True, Bool.true_and,
                  Bool.not_eq_true, Bool.not_eq_false'] using hk
              exact .inl (by simp only [Call.metered, hexempt, Bool.not_true, Bool.false_and])
            · exact .inr hkey
          simp only [Bool.not_eq_true] at hk
          simp only [hk, Bool.false_eq_true, if_false]
          rwa [hcount] at ih'

/-- **Runs of a gated workflow.** From a ledger that agrees with the counts, the runs metered
under the key of `c₀` act exactly as the abstract limiter admits that key's calls from the
key's count on. -/
theorem runGates_first (hgated : Gated limiter now step acted callOf) (xs : List α)
    {repo : Repo} {admitted : Admitted} (h : Agrees now tracker repo admitted)
    (hlogins : ∀ x ∈ xs, ∀ c, callOf x = some c → '|' ∉ c.key.1) (c₀ : Call) :
    let byKey := (xs.zip (runGates step repo xs).1).filter fun p =>
      meteredUnder limiter callOf c₀.key p.1
    byKey.map (fun p => acted p.2) =
      firstAdmissions (c₀.limit limiter.config) (admitted c₀.key.1 c₀.key.2) byKey.length := by
  simpa only [Bool.true_and] using
    runGates_first_on (hgated.on tracker) xs h (fun _ _ => trivial) hlogins c₀

end

end RateLimit
