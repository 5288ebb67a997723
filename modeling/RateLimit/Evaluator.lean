import RateLimit.Policy
import RateLimit.Value

/-!
# The issue evaluator after the rate check

`evaluate_issue` checks the author's daily budget (`evaluateIssueGate`), reads the model's
answer as JSON, and then answers the issue. Two places of that code behave otherwise than
they read.

* `fencedBlock`, `extractJson` — the JSON text is cut out of a fenced block with
  `str.find` and a slice, from just after the opening fence to the next fence. When the
  closing fence is missing, `find` returns `-1`, and the slice `[json_start:-1]` stops one
  character short of the end (`extractJson_fenced`): the block loses its last character,
  typically its closing brace.
* `respondToEvaluation`, `mainExitCode` — the answer to the parsed evaluation, and the
  exit status `main` gives its exception. `success` is bound only where the issue is
  implemented, but read also where it is not: an implementable issue whose author may not
  have it implemented automatically ends in `UnboundLocalError`, after the plan was posted
  (`posted_of_unboundLocalError`).
  The evaluation is whatever `json.loads` returned, so `.get` raises `AttributeError` on an
  answer that is no object, and `enumerate` raises `TypeError` on questions that are not
  iterable. `respondToEvaluation_exit` says when the run fails.
-/

namespace RateLimit

open Py

/-- `evaluate_issue` up to its rate check: on a denial it posts on the issue the limit notice,
addressed to the issue's author and ending with the check's reason, and exits with status
0. Whether it goes on, the comment it posts, and the repository the check leaves. -/
def evaluateIssueGate (limiter : RateLimiter) (now : UtcDate) (repo : Repo)
    (issueAuthor authorAssociation : Py.Str) : (Bool × Option Py.Str) × Repo :=
  let ((allowed, reason), repo) :=
    limiter.checkIssueEvaluation now repo issueAuthor authorAssociation
  if !allowed then
    ((false, some ('@' :: issueAuthor ++ (" Thank you for your issue! I've reached my daily " ++
      "limit for issue evaluations. A team member will review this soon, or you can try " ++
      "again tomorrow.\n\n_").toList ++ reason ++ "_".toList)), repo)
  else ((true, none), repo)

/-- The gate goes on iff the check admits, and leaves the repository the check leaves. -/
theorem evaluateIssueGate_eq (limiter : RateLimiter) (now : UtcDate) (repo : Repo)
    (issueAuthor authorAssociation : Py.Str) :
    (evaluateIssueGate limiter now repo issueAuthor authorAssociation).1.1 =
      (limiter.checkIssueEvaluation now repo issueAuthor authorAssociation).1.1 ∧
    (evaluateIssueGate limiter now repo issueAuthor authorAssociation).2 =
      (limiter.checkIssueEvaluation now repo issueAuthor authorAssociation).2 := by
  rcases h : limiter.checkIssueEvaluation now repo issueAuthor authorAssociation with
    ⟨⟨allowed, reason⟩, repo'⟩
  simp only [evaluateIssueGate, h]
  cases allowed <;> exact ⟨rfl, rfl⟩

/-- The text between an opening fence, found first, and the next fence; `width` is the
length of the opening fence as the code spells it (`+ 7`, `+ 3`). The code calls it only
when the opening fence occurs, so the start is never negative. -/
def fencedBlock (response opening : Py.Str) (width : Int) : Py.Str :=
  let jsonStart := find response opening 0 + width
  let jsonEnd := find response "```".toList jsonStart.toNat
  strip (slice response jsonStart jsonEnd)

/-- The JSON text `evaluate_issue` hands to `json.loads`. -/
def extractJson (response : Py.Str) : Py.Str :=
  if contains response "```json".toList then fencedBlock response "```json".toList 7
  else if contains response "```".toList then fencedBlock response "```".toList 3
  else strip response

/-- The comments `evaluate_issue` posts on the issue after the evaluation. -/
inductive EvalComment
  /-- "Issue Evaluation" with the plan, `evaluation.get("implementation_plan", "")`, saying
  whether a pull request will follow. -/
  | plan (implementing : Bool) (plan : PyValue)
  /-- "I encountered some difficulties implementing this." -/
  | followUp
  /-- "I need some clarification before implementing this.", with the reasoning, and one
  numbered question for each item `enumerate` yields. -/
  | clarification (reasoning : PyValue) (questions : List PyValue)
  deriving Repr

/-- The evaluation `evaluate_issue` answers: what `json.loads` returned, or, when the text
was no JSON (`none`), the stand-in that asks for more details. -/
def parsedEvaluation : Option PyValue → PyValue
  | some evaluation => evaluation
  | none => .dict [("implementable".toList, .bool false),
      ("reasoning".toList, .str "Unable to parse evaluation".toList),
      ("questions".toList, .list [.str "Could you provide more details about this request?".toList]),
      ("implementation_plan".toList, .str [])]

/-- `evaluate_issue` after `json.loads`: the comments it posts, and the exception it ends
with. `attempt` is what `attempt_implementation` returns. The local `success` is `none`
while unbound. -/
def respondToEvaluation (limiter : RateLimiter) (evaluation : PyValue)
    (authorAssociation : Py.Str) (attempt : Bool) : List EvalComment × Except PyError Unit :=
  match evaluation.get "implementable".toList (.bool false) with
  | .error e => ([], .error e)
  | .ok implementable =>
    if implementable.truthy then
      match evaluation.get "implementation_plan".toList (.str []) with
      | .error e => ([], .error e)
      | .ok plan =>
        let (posted, success) : List EvalComment × Option Bool :=
          if limiter.shouldAutoImplement authorAssociation then ([.plan true plan], some attempt)
          else ([.plan false plan], none)
        match success with
        | none => (posted, .error .unboundLocalError)
        | some success => (if !success then posted ++ [.followUp] else posted, .ok ())
    else
      match evaluation.get "reasoning".toList (.str []),
          evaluation.get "questions".toList (.list []) with
      | .ok reasoning, .ok questions =>
        match questions.iter with
        | .error e => ([], .error e)
        | .ok items => ([.clarification reasoning items], .ok ())
      | .error e, _ => ([], .error e)
      | _, .error e => ([], .error e)

/-- `main`: an exception out of `evaluate_issue` is printed and exits with status 1. -/
def mainExitCode : Except PyError Unit → Nat
  | .ok () => 0
  | .error _ => 1

/-- A fence is found where it first occurs past `a`, when the text between has no backtick. -/
theorem find_fence_after (fence a b rest : Py.Str) (hfence : fence.head? = some '`') (hb : '`' ∉ b)
    (hstarts : fence.isPrefixOf rest) :
    find (a ++ b ++ rest) fence a.length = (a.length + b.length : Nat) := by
  rw [find, if_neg (by simp), List.append_assoc, List.drop_left,
    findFrom_append_of_not_mem hfence _ _ hb, findFrom_of_isPrefixOf _ hstarts]

/-- With no backtick past `a`, no fence is found there. -/
theorem find_fence_none (fence a b : Py.Str) (hfence : fence.head? = some '`') (hb : '`' ∉ b) :
    find (a ++ b) fence a.length = -1 := by
  rw [find, if_neg (by simp), List.drop_left, findFrom_of_not_mem hfence _ hb]

/-- A slice from the end of `a` to the end of `b` is `b`. -/
theorem slice_append (a b rest : Py.Str) :
    slice (a ++ b ++ rest) a.length (a.length + b.length : Nat) = b := by
  simp only [Py.slice, sliceIndex, List.length_append, Nat.cast_nonneg, not_lt.mpr,
    if_false, Int.toNat_natCast, List.append_assoc]
  rw [List.drop_left' (by omega), List.take_left' (by omega)]

/-- A slice from the end of `a` to `-1` is `b` without its last character. -/
theorem slice_append_neg_one (a b : Py.Str) : slice (a ++ b) a.length (-1) = b.dropLast := by
  simp only [Py.slice, sliceIndex, List.length_append, Nat.cast_nonneg, not_lt.mpr, if_false,
    Int.toNat_natCast, if_pos (show (-1 : Int) < 0 by decide)]
  rw [List.drop_left' (by omega), List.dropLast_eq_take]
  congr 1
  omega

/-- On an object, the answer reads `implementable` and, when it is false, `questions`, with
their defaults. -/
theorem respondToEvaluation_dict (limiter : RateLimiter) (items : List (Py.Str × PyValue))
    (authorAssociation : Py.Str) (attempt : Bool) :
    (respondToEvaluation limiter (.dict items) authorAssociation attempt).2 =
      if ((PyValue.lookup items "implementable".toList).getD (.bool false)).truthy then
        if limiter.shouldAutoImplement authorAssociation then .ok () else .error .unboundLocalError
      else
        match ((PyValue.lookup items "questions".toList).getD (.list [])).iter with
        | .error e => .error e
        | .ok _ => .ok () := by
  simp only [respondToEvaluation, PyValue.get]
  split_ifs
  · rfl
  · rfl
  · split <;> rfl

/-- The run that ends in `UnboundLocalError` has posted the plan, saying that no pull request
will follow. -/
theorem posted_of_unboundLocalError {limiter : RateLimiter} {evaluation : PyValue}
    {authorAssociation : Py.Str} {attempt : Bool}
    (h : (respondToEvaluation limiter evaluation authorAssociation attempt).2 =
      .error .unboundLocalError) :
    ∃ plan, (respondToEvaluation limiter evaluation authorAssociation attempt).1 =
      [.plan false plan] := by
  cases evaluation with
  | dict items =>
    rw [respondToEvaluation_dict] at h
    cases himp : ((PyValue.lookup items "implementable".toList).getD (.bool false)).truthy
    · rw [himp, if_neg Bool.false_ne_true] at h
      split at h
      · next e he =>
        cases h
        exact absurd (PyValue.iter_eq_error_iff.mp he).2 nofun
      · cases h
    · cases hshould : limiter.shouldAutoImplement authorAssociation
      · simp only [respondToEvaluation, PyValue.get, himp, hshould, if_true, Bool.false_eq_true,
          if_false]
        exact ⟨_, rfl⟩
      · rw [himp, hshould] at h
        cases h
  | _ => cases h

example : mainExitCode (respondToEvaluation ⟨{}, "github-actions[bot]".toList⟩
    (.dict [("implementable".toList, .bool false), ("questions".toList, .none)])
    "OWNER".toList true).2 = 1 := by decide

example : mainExitCode (respondToEvaluation ⟨{}, "github-actions[bot]".toList⟩
    (parsedEvaluation none) "CONTRIBUTOR".toList true).2 = 0 := by decide

section

variable {pre : Py.Str}

/-- An answer whose first backtick opens a "json" fence is cut from just after that fence
to the next fence. -/
theorem extractJson_of_json_fence (hpre : '`' ∉ pre) (tail : Py.Str) :
    extractJson (pre ++ "```json".toList ++ tail) =
      strip (slice (pre ++ "```json".toList ++ tail) (pre ++ "```json".toList).length
        (find (pre ++ "```json".toList ++ tail) "```".toList (pre ++ "```json".toList).length)) := by
  have hfirst : find (pre ++ "```json".toList ++ tail) "```json".toList 0 = pre.length := by
    simpa using find_fence_after "```json".toList [] pre _ rfl hpre
      (List.isPrefixOf_iff_prefix.mpr (List.prefix_append _ tail))
  have hlen : (pre ++ "```json".toList).length = pre.length + 7 := by
    rw [List.length_append]; rfl
  have hfound : ((pre.length : Int) != -1) = true := bne_iff_ne.mpr (by omega)
  simp only [extractJson, contains, fencedBlock, hfirst, hlen, if_pos hfound, Nat.cast_add]
  rw [show ((pre.length : Int) + 7).toNat = pre.length + 7 by omega]
  rfl

end

/-- **Cutting out a fenced block.** In an answer whose text before the opening "json"
fence and inside the block has no backtick, a closed block is cut out whole, and a block
left open loses its last character. -/
theorem extractJson_fenced (pre body post : Py.Str) (hpre : '`' ∉ pre) (hbody : '`' ∉ body) :
    extractJson (pre ++ "```json".toList ++ body ++ "```".toList ++ post) = strip body ∧
    extractJson (pre ++ "```json".toList ++ body) = strip body.dropLast := by
  constructor
  · have hslice := slice_append (pre ++ "```json".toList) body ("```".toList ++ post)
    rw [← find_fence_after "```".toList _ body _ rfl hbody
      (List.isPrefixOf_iff_prefix.mpr (List.prefix_append _ post))] at hslice
    simp only [List.append_assoc] at hslice ⊢
    have := extractJson_of_json_fence hpre (body ++ ("```".toList ++ post))
    simp only [List.append_assoc] at this
    rw [this, hslice]
  · rw [extractJson_of_json_fence hpre, find_fence_none "```".toList _ body rfl hbody, slice_append_neg_one]

/-- An answer that opens a "json" block and never closes it: the object loses its closing
brace, where the closed block would have been read whole. -/
theorem extractJson_fenced_unclosed :
    let pre := "Evaluation:\n".toList
    let body := "\n\x7b\"implementable\": true\x7d".toList
    ('`' ∉ pre ∧ '`' ∉ body) ∧
    (extractJson (pre ++ "```json".toList ++ body ++ "```".toList ++ []) = strip body ∧
      extractJson (pre ++ "```json".toList ++ body) = strip body.dropLast) ∧
    strip body.dropLast = "\x7b\"implementable\": true".toList := by
  intro pre body
  exact ⟨⟨by decide, by decide⟩, extractJson_fenced pre body [] (by decide) (by decide), by decide⟩

end RateLimit
