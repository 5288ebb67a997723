import RateLimit.Policy

/-!
# The review workflow's gate

`perform_code_review` decides whether to review a pull request in this order: the draft
test, the skip label, `check_code_review`, then the number of changed files. The rate check
comes before the file-count tests, so a pull request skipped for its size, or because
`git diff` failed and listed no file, has used one of the day's reviews.

* `getChangedFiles` — `get_changed_files`: no file at all when `git diff` fails;
* `reviewGate` — `perform_code_review` up to the review itself;
* `reviewGate_ledger` — the gate's only effect on the repository is the record of an
  admitted rate check, whatever the gate decides after it.
-/

namespace RateLimit

open Py

/-- `get_changed_files`: the stripped non-empty lines of `git diff --name-only`, and none
when the command fails. -/
def getChangedFiles (returncode : Int) (stdout : Py.Str) : List Py.Str :=
  if returncode ≠ 0 then [] else ((split stdout '\n').map strip).filter fun f => !f.isEmpty

/-- The fields of a pull request the gate reads. -/
structure PullRequest where
  draft : Bool
  labels : List Py.Str
  deriving DecidableEq, Repr

/-- Where `perform_code_review` stops before the review, or `review` when it goes on. -/
inductive ReviewGate
  | skipDraft
  | skipLabel
  | limitReached
  | tooFewFiles
  | tooManyFiles
  | review
  deriving DecidableEq, Repr

/-- The outcomes reached after `check_code_review` admitted. -/
def ReviewGate.pastRateCheck : ReviewGate → Bool
  | .tooFewFiles | .tooManyFiles | .review => true
  | _ => false

/-- `perform_code_review` up to the review: where it stops, the comment it posts on the pull
request, and the repository `check_code_review` leaves. -/
def reviewGate (limiter : RateLimiter) (now : UtcDate) (repo : Repo) (pr : PullRequest)
    (changedFiles : List Py.Str) : (ReviewGate × Option Py.Str) × Repo :=
  let reviewConfig := limiter.getReviewConfig
  if reviewConfig.skipDraftPrs.getD true && pr.draft then ((.skipDraft, none), repo)
  else if reviewConfig.allowSkipLabel.getD true && pr.labels.contains "skip-claude-review".toList
  then ((.skipLabel, none), repo)
  else
    let ((allowed, _), repo) := limiter.checkCodeReview now repo
    if !allowed then
      ((.limitReached,
        some "⚠️ Daily code review limit reached. A team member will review this PR.".toList), repo)
    else
      let minFiles := reviewConfig.minFilesChanged.getD 1
      let maxFiles := reviewConfig.maxFilesChanged.getD 50
      if (changedFiles.length : Int) < minFiles then ((.tooFewFiles, none), repo)
      else if (changedFiles.length : Int) > maxFiles then
        ((.tooManyFiles, some ("⚠️ This PR changes ".toList ++ str changedFiles.length ++
          " files, which exceeds the automatic review limit of ".toList ++ str maxFiles ++
          " files. A team member will review this manually.".toList)), repo)
      else ((.review, none), repo)

section

variable (limiter : RateLimiter) (now : UtcDate) (repo : Repo) (pr : PullRequest)
  (changedFiles : List Py.Str)

/-- The draft test and the skip label, which come before the rate check. -/
def ReviewGate.skipped (limiter : RateLimiter) (pr : PullRequest) : Bool :=
  limiter.getReviewConfig.skipDraftPrs.getD true && pr.draft ||
    limiter.getReviewConfig.allowSkipLabel.getD true &&
      pr.labels.contains "skip-claude-review".toList

/-- Past the draft and label tests, the gate leaves the repository `check_code_review` leaves. -/
theorem reviewGate_snd :
    (reviewGate limiter now repo pr changedFiles).2 =
      if ReviewGate.skipped limiter pr then repo else (limiter.checkCodeReview now repo).2 := by
  simp only [reviewGate, ReviewGate.skipped]
  by_cases hd : (limiter.getReviewConfig.skipDraftPrs.getD true && pr.draft) = true
  · simp only [hd, if_true, Bool.true_or]
  by_cases hl : (limiter.getReviewConfig.allowSkipLabel.getD true &&
      pr.labels.contains "skip-claude-review".toList) = true
  · simp only [hd, hl, if_true, if_false, Bool.or_true, Bool.false_eq_true]
  simp only [hd, hl, if_false, Bool.or_false, Bool.false_eq_true]
  split_ifs <;> rfl

/-- The gate gets past the rate check exactly when the draft and label tests pass and
`check_code_review` admits. -/
theorem reviewGate_pastRateCheck :
    (reviewGate limiter now repo pr changedFiles).1.1.pastRateCheck =
      (!ReviewGate.skipped limiter pr && (limiter.checkCodeReview now repo).1.1) := by
  simp only [reviewGate, ReviewGate.skipped]
  by_cases hd : (limiter.getReviewConfig.skipDraftPrs.getD true && pr.draft) = true
  · simp only [hd, if_true, Bool.true_or, Bool.not_true, Bool.false_and, ReviewGate.pastRateCheck]
  by_cases hl : (limiter.getReviewConfig.allowSkipLabel.getD true &&
      pr.labels.contains "skip-claude-review".toList) = true
  · simp only [hd, hl, if_true, if_false, Bool.or_true, Bool.not_true, Bool.false_and,
      Bool.false_eq_true, ReviewGate.pastRateCheck]
  simp only [hd, hl, if_false, Bool.or_false, Bool.false_eq_true, Bool.not_false, Bool.true_and]
  cases (limiter.checkCodeReview now repo).1.1 <;> simp only [Bool.not_false, Bool.not_true,
    if_true, if_false, Bool.false_eq_true] <;> first | rfl | split_ifs <;> rfl

end

/-- `cq_lookup` in git's `quote.c`, with `core.quotePath` on (the default): a path holding a
control character, `"`, `\`, DEL or any non-ASCII character is written quoted. -/
def mustQuote (c : Char) : Bool :=
  c.toNat < 0x20 || c.toNat == 0x22 || c.toNat == 0x5c || 0x7f ≤ c.toNat

/-- The letter `quote_c_style` writes after `\` for the bytes `cq_lookup` names. -/
def escapeLetter : Nat → Option Char
  | 7 => some 'a'
  | 8 => some 'b'
  | 9 => some 't'
  | 10 => some 'n'
  | 11 => some 'v'
  | 12 => some 'f'
  | 13 => some 'r'
  | 0x22 => some '"'
  | 0x5c => some '\\'
  | _ => none

/-- `\` and three octal digits, as `quote_c_style` writes a byte with no letter. -/
def octalEscape (b : Nat) : Py.Str :=
  ['\\', Nat.digitChar (b / 64 % 4), Nat.digitChar (b / 8 % 8), Nat.digitChar (b % 8)]

/-- One character of a quoted path: its letter escape, the octal escapes of its UTF-8 bytes,
or the character itself. -/
def quoteChar (c : Char) : Py.Str :=
  if mustQuote c then
    match escapeLetter c.toNat with
    | some l => ['\\', l]
    | none => (String.utf8EncodeChar c).flatMap fun b => octalEscape b.toNat
  else [c]

/-- `quote_c_style`, as `git diff --name-only` writes a path: between double quotes, each
character quoted by `quoteChar`, when one of them must be; as it is otherwise. -/
def quotePath (f : Py.Str) : Py.Str :=
  if f.any mustQuote then '"' :: f.flatMap quoteChar ++ ['"'] else f

/-- What `git diff --name-only` prints for `files`: each path as git quotes it, on a line of
its own. -/
def nameOnlyOutput (files : List Py.Str) : Py.Str :=
  (files.map fun f => quotePath f ++ ['\n']).flatten

/-- A path git prints as it is. -/
def printedRaw (f : Py.Str) : Bool := !f.any mustQuote

/-- A name `get_changed_files` can return: not empty, on one line, and its own `strip()`. -/
def isListedName (f : Py.Str) : Bool := !f.isEmpty && !f.contains '\n' && strip f == f

theorem isListedName_iff {f : Py.Str} :
    isListedName f = true ↔ f ≠ [] ∧ '\n' ∉ f ∧ strip f = f := by
  simp [isListedName, List.isEmpty_iff, and_assoc]

/-- Whatever the command printed, `get_changed_files` returns only names of that kind. -/
theorem mem_getChangedFiles {returncode : Int} {stdout f : Py.Str}
    (hf : f ∈ getChangedFiles returncode stdout) : isListedName f := by
  unfold getChangedFiles at hf
  split_ifs at hf
  · exact absurd hf (List.not_mem_nil _)
  · obtain ⟨hmem, hne⟩ := List.mem_filter.mp hf
    obtain ⟨l, hl, rfl⟩ := List.mem_map.mp hmem
    exact isListedName_iff.mpr ⟨by simpa [List.isEmpty_iff] using hne,
      fun h => not_mem_of_mem_split hl ((strip_sublist l).subset h), strip_strip l⟩

theorem escapeLetter_ne_newline {n : Nat} {l : Char} (h : escapeLetter n = some l) : l ≠ '\n' := by
  unfold escapeLetter at h
  split at h <;> cases h <;> decide

theorem newline_not_mem_octalEscape (b : Nat) : '\n' ∉ octalEscape b := by
  have hdigit : ∀ k < 10, '\n' ≠ Nat.digitChar k := fun k hk h => by
    simpa [← h] using (digitChar_spec k hk).1
  simp only [octalEscape, List.mem_cons, List.mem_singleton, List.not_mem_nil, or_false, not_or]
  exact ⟨by decide, hdigit _ (by omega), hdigit _ (by omega), hdigit _ (by omega)⟩

/-- A quoted character is no line break: git writes `\n` for one. -/
theorem newline_not_mem_quoteChar (c : Char) : '\n' ∉ quoteChar c := by
  unfold quoteChar
  split_ifs with hq
  · split
    · next l hl =>
      simp only [List.mem_cons, List.mem_singleton, List.not_mem_nil, or_false, not_or]
      exact ⟨by decide, (escapeLetter_ne_newline hl).symm⟩
    · simp only [List.mem_flatMap, not_exists, not_and]
      exact fun b _ => newline_not_mem_octalEscape b.toNat
  · rw [List.mem_singleton]
    rintro rfl
    exact hq rfl

/-- A quoted path keeps no line break. -/
theorem newline_not_mem_quotePath (f : Py.Str) : '\n' ∉ quotePath f := by
  unfold quotePath
  split_ifs with hq
  · simp [List.mem_flatMap, newline_not_mem_quoteChar]
  · exact fun hn => hq (List.any_eq_true.mpr ⟨'\n', hn, rfl⟩)

/-- A quoted path is longer than the path: each character gives at least one, and the quotes
two more. -/
theorem quotePath_ne_self {f : Py.Str} (hq : printedRaw f = false) : quotePath f ≠ f := by
  have hchar : ∀ c, 1 ≤ (quoteChar c).length := fun c => by
    unfold quoteChar
    split_ifs
    · split
      · simp
      · obtain ⟨b, bs, hbs⟩ := List.exists_cons_of_length_pos
          ((String.length_utf8EncodeChar c).symm ▸ c.utf8Size_pos)
        simp [hbs, octalEscape]
    · simp
  have hlen : ∀ g : Py.Str, g.length ≤ (g.flatMap quoteChar).length := fun g => by
    induction g with
    | nil => simp
    | cons c cs ih =>
      simp only [List.flatMap_cons, List.length_append, List.length_cons]
      have := hchar c
      omega
  rw [printedRaw, Bool.not_eq_false'] at hq
  rw [quotePath, if_pos hq]
  intro h
  have := congrArg List.length h
  simp only [List.length_cons, List.length_append, List.length_singleton] at this
  have := hlen f
  omega

/-- The output of `git diff --name-only`, as `get_changed_files` reads it: each path as git
quotes it, stripped, and the blank ones dropped. -/
theorem getChangedFiles_nameOnlyOutput (files : List Py.Str) :
    getChangedFiles 0 (nameOnlyOutput files) =
      ((files.map quotePath).map strip).filter fun f => !f.isEmpty := by
  have hsplit := @split_flatten_append_sep '\n' (files.map quotePath) fun f hf => by
    obtain ⟨g, -, rfl⟩ := List.mem_map.mp hf
    exact newline_not_mem_quotePath g
  have hlines : (files.map fun f => quotePath f ++ ['\n']) =
      (files.map quotePath).map fun f => f ++ ['\n'] := by
    rw [List.map_map]; rfl
  rw [getChangedFiles, if_neg (by decide), nameOnlyOutput, hlines, hsplit, List.map_append,
    List.filter_append]
  exact List.append_nil _

/-- Names git prints as they are, and that `get_changed_files` can return, come back exactly,
in order. -/
theorem getChangedFiles_raw {files : List Py.Str} (hfiles : ∀ f ∈ files, isListedName f ∧ printedRaw f) :
    getChangedFiles 0 (nameOnlyOutput files) = files := by
  have hback : ∀ f ∈ files, strip (quotePath f) = f := fun f hf => by
    have hraw : f.any mustQuote = false := by simpa [printedRaw] using (hfiles f hf).2
    rw [quotePath, if_neg (by simp [hraw])]
    exact (isListedName_iff.mp (hfiles f hf).1).2.2
  have hmap : files.map (strip ∘ quotePath) = files :=
    (List.map_congr_left hback).trans (List.map_id _)
  rw [getChangedFiles_nameOnlyOutput, List.map_map, hmap]
  exact List.filter_eq_self.mpr fun f hf => by
    simpa [List.isEmpty_iff] using (isListedName_iff.mp (hfiles f hf).1).1

/-- **`get_changed_files` reads back what git lists, as git lists it.** Whatever the command
printed, each name it returns is non-empty, fits on one line and is its own `strip()`. What
`git diff --name-only` prints comes back as each path quoted as git quotes it, stripped,
blank ones dropped. So a name git prints as it is, of that kind, comes back exactly and in
order; and a name with a control character, `"`, `\` or a non-ASCII character comes back
as git's quoted text, never as the name itself. -/
theorem getChangedFiles_format :
    (∀ returncode stdout, ∀ f ∈ getChangedFiles returncode stdout, isListedName f) ∧
    (∀ files, getChangedFiles 0 (nameOnlyOutput files) =
      ((files.map quotePath).map strip).filter fun f => !f.isEmpty) ∧
    (∀ files, (∀ f ∈ files, isListedName f ∧ printedRaw f) →
      getChangedFiles 0 (nameOnlyOutput files) = files) ∧
    ∀ f, printedRaw f = false → quotePath f ≠ f :=
  ⟨fun _ _ _ hf => mem_getChangedFiles hf, getChangedFiles_nameOnlyOutput,
    fun _ hfiles => getChangedFiles_raw hfiles, fun _ hq => quotePath_ne_self hq⟩

/-- An accented name comes back as git's octal escapes of its UTF-8 bytes; a name with a
space inside comes back as it is. -/
example : getChangedFiles 0 (nameOnlyOutput ["é.txt".toList, "a b.go".toList]) =
    ["\"\\303\\251.txt\"".toList, "a b.go".toList] := by
  decide

/-- `changed_files_list` in `perform_code_review`: the first fifty changed files, one a line,
then how many more there are. -/
def changedFilesList (changedFiles : List Py.Str) : Py.Str :=
  let listed := ['\n'].intercalate ((changedFiles.take 50).map fun f => "  - ".toList ++ f)
  if (changedFiles.length : Int) > 50 then
    listed ++ "\n  ... and ".toList ++ str ((changedFiles.length : Int) - 50) ++
      " more files".toList
  else listed

/-- The lines of the list: one per listed file, then the count of the others if there are
more than fifty. -/
theorem changedFilesList_lines {changedFiles : List Py.Str}
    (hnames : ∀ f ∈ changedFiles, '\n' ∉ f) (hne : changedFiles ≠ []) :
    split (changedFilesList changedFiles) '\n' =
      (changedFiles.take 50).map (fun f => "  - ".toList ++ f) ++
        if (changedFiles.length : Int) > 50 then
          ["  ... and ".toList ++ str ((changedFiles.length : Int) - 50) ++ " more files".toList]
        else [] := by
  have hentries : ∀ l ∈ (changedFiles.take 50).map (fun f => "  - ".toList ++ f), '\n' ∉ l := by
    simp only [List.mem_map]
    rintro _ ⟨f, hf, rfl⟩
    simpa using hnames f (List.mem_of_mem_take hf)
  have hlisted : (changedFiles.take 50).map (fun f => "  - ".toList ++ f) ≠ [] := by
    simpa using hne
  unfold changedFilesList
  split_ifs
  · have hstr : '\n' ∉ str ((changedFiles.length : Int) - 50) := fun h =>
      absurd (str_no_space_pipe _ '\n' h).1 (by decide)
    rw [show "\n  ... and ".toList = '\n' :: "  ... and ".toList from rfl]
    simp only [List.append_assoc, List.cons_append]
    exact split_intercalate_concat hlisted hentries (by simpa using hstr)
  · rw [List.append_nil, split_intercalate hlisted hentries]

/-- A reviewed pull request has a number of changed files between the two bounds. -/
theorem reviewGate_review_bounds {limiter : RateLimiter} {now : UtcDate} {repo : Repo}
    {pr : PullRequest} {changedFiles : List Py.Str}
    (hreview : (reviewGate limiter now repo pr changedFiles).1.1 = .review) :
    limiter.getReviewConfig.minFilesChanged.getD 1 ≤ changedFiles.length ∧
      (changedFiles.length : Int) ≤ limiter.getReviewConfig.maxFilesChanged.getD 50 := by
  rcases hc : limiter.checkCodeReview now repo with ⟨⟨allowed, reason⟩, repo'⟩
  simp only [reviewGate, hc] at hreview
  split_ifs at hreview
  exact ⟨by omega, by omega⟩

/-- **A reviewed pull request's prompt lists every changed file.** Let the file-count bounds
be at least one and at most fifty, as the defaults `1` and `50` are. Then the prompt of a
pull request that the gate lets through to the review lists each file that
`get_changed_files` returned, each on a line of its own, in order, and nothing else. With
`max_files_changed` above fifty, a larger pull request is reviewed from a prompt that names
only its first fifty files (`changedFilesList_lines`). -/
theorem reviewed_prompt_lists_every_file {limiter : RateLimiter} {now : UtcDate} {repo : Repo}
    {pr : PullRequest} {returncode : Int} {stdout : Py.Str}
    (hmin : 1 ≤ limiter.getReviewConfig.minFilesChanged.getD 1)
    (hmax : limiter.getReviewConfig.maxFilesChanged.getD 50 ≤ 50)
    (hreview : (reviewGate limiter now repo pr (getChangedFiles returncode stdout)).1.1 = .review) :
    split (changedFilesList (getChangedFiles returncode stdout)) '\n' =
      (getChangedFiles returncode stdout).map fun f => "  - ".toList ++ f := by
  obtain ⟨hlo, hhi⟩ := reviewGate_review_bounds hreview
  have hne : getChangedFiles returncode stdout ≠ [] := fun h => by
    rw [h, List.length_nil, Nat.cast_zero] at hlo
    omega
  have hnames : ∀ f ∈ getChangedFiles returncode stdout, '\n' ∉ f := fun f hf =>
    (isListedName_iff.mp (mem_getChangedFiles hf)).2.1
  rw [changedFilesList_lines hnames hne, if_neg (by omega), List.append_nil,
    List.take_of_length_le (by omega)]

/-- Two files listed by git, under the default bounds: the prompt lists both. -/
theorem reviewed_prompt_lists_every_file_two :
    let limiter : RateLimiter := ⟨{}, "github-actions[bot]".toList⟩
    1 ≤ limiter.getReviewConfig.minFilesChanged.getD 1 ∧
    limiter.getReviewConfig.maxFilesChanged.getD 50 ≤ 50 ∧
    (reviewGate limiter ⟨2025, 1, 1⟩ ⟨[trackerIssue]⟩ ⟨false, []⟩
      (getChangedFiles 0 "a.go\nb.go\n".toList)).1.1 = .review ∧
    split (changedFilesList (getChangedFiles 0 "a.go\nb.go\n".toList)) '\n' =
      (getChangedFiles 0 "a.go\nb.go\n".toList).map fun f => "  - ".toList ++ f := by
  intro limiter
  have hmin : 1 ≤ limiter.getReviewConfig.minFilesChanged.getD 1 := by decide
  have hmax : limiter.getReviewConfig.maxFilesChanged.getD 50 ≤ 50 := by decide
  have hreview : (reviewGate limiter ⟨2025, 1, 1⟩ ⟨[trackerIssue]⟩ ⟨false, []⟩
      (getChangedFiles 0 "a.go\nb.go\n".toList)).1.1 = .review := by decide
  exact ⟨hmin, hmax, hreview, reviewed_prompt_lists_every_file hmin hmax hreview⟩

end RateLimit
