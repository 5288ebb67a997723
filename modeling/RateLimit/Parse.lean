import RateLimit.Dict
import RateLimit.Ledger

/-!
# `_parse_usage_from_comments`: the day's usage snapshot

Each comment of the tracking issue is decoded on its own: `strip`, the `USAGE:` prefix
test, `split(":", 1)`, `strip`, `split("|")` into exactly four fields, the date test,
then `usage[user][op_type] = int(count)`. Anything that fails is skipped, so parsing
never fails the caller. The snapshot is a `dict` of `dict`s (`Usage`).

The parser is last-write-wins: an assignment overwrites what an earlier record of the
same key wrote. Its abstract meaning is `lastCount` over `dayRecords`, the list of the
day's well-formed records in arrival order:

* `count?_parseUsageFromComments` — the snapshot holds, for every key, the count of the
  last well-formed record of the day for that key, and nothing for a key without one;
* `dayRecord_usageRecord` — the line `_increment_usage` writes reads back as the record
  it encodes, for every day key, every user without `|` and every integer;
* `reviewTotal_parseUsageFromComments` — the review sum of `check_code_review`, over a
  ledger where only one user has review records.
-/

namespace RateLimit

open Py

/-- The snapshot `_parse_usage_from_comments` returns: `user → op_type → count`. -/
abbrev Usage := PyDict Py.Str (PyDict Py.Str Int)

/-- The four fields of a `USAGE:` line, before the date test. `none` is a `continue`
(no prefix) or the caught `ValueError` of an unpacking with the wrong field count. -/
def splitUsage (body : Py.Str) : Option (Py.Str × Py.Str × Py.Str × Py.Str) :=
  let body := strip body
  if !startswith body "USAGE:".toList then none
  else match splitOnce body ':' with
    | [_, data] =>
      match split (strip data) '|' with
      | [date, user, opType, count] => some (date, user, opType, count)
      | _ => none
    | _ => none

/-- One pass of the loop of `_parse_usage_from_comments`. A count `int` rejects leaves
behind the empty `dict` the line before it created. -/
def parseComment (today : Py.Str) (usage : Usage) (body : Py.Str) : Usage :=
  match splitUsage body with
  | none => usage
  | some (date, user, opType, count) =>
    if date ≠ today then usage
    else
      let usage := if usage.contains user then usage else usage.insert user ∅
      match Py.int count with
      | none => usage
      | some n => usage.insert user (((usage.get? user).getD ∅).insert opType n)

/-- `_parse_usage_from_comments(issue)`, with `now` the clock reading. -/
def parseUsageFromComments (now : UtcDate) (comments : List Comment) : Usage :=
  comments.foldl (fun usage comment => parseComment (getTodayKey now) usage comment.body) ∅

/-- `usage.get(user, {}).get(op, 0)`, as the checks and `_increment_usage` read it. -/
def Usage.current (usage : Usage) (user op : Py.Str) : Int :=
  (((usage.get? user).getD ∅).get? op).getD 0

/-- The snapshot's entry for a key, `none` when there is none. -/
def Usage.count? (usage : Usage) (user op : Py.Str) : Option Int :=
  (usage.get? user).bind (·.get? op)

/-- The loop of `check_code_review`: every user's `"review"` count, summed. -/
def Usage.reviewTotal (usage : Usage) : Int :=
  (usage.values.map fun userUsage => (userUsage.get? "review".toList).getD 0).sum

/-- The line `_increment_usage` posts: `f"USAGE: {today}|{user}|{operation}|{new_count}"`. -/
def usageRecord (today user operation : Py.Str) (count : Int) : Py.Str :=
  "USAGE: ".toList ++ today ++ '|' :: user ++ '|' :: operation ++ '|' :: Py.str count

/-! ## The abstract snapshot: the last record of each key -/

/-- The record a comment body contributes to the day `today`, if it is well formed. -/
def dayRecord (today body : Py.Str) : Option (Py.Str × Py.Str × Int) :=
  match splitUsage body with
  | some (date, user, opType, count) =>
    if date = today then (Py.int count).map fun n => (user, opType, n) else none
  | none => none

/-- The day's well-formed records, in arrival order. -/
def dayRecords (today : Py.Str) (comments : List Comment) : List (Py.Str × Py.Str × Int) :=
  comments.filterMap fun comment => dayRecord today comment.body

theorem dayRecords_append (today : Py.Str) (xs ys : List Comment) :
    dayRecords today (xs ++ ys) = dayRecords today xs ++ dayRecords today ys :=
  List.filterMap_append xs ys _

/-- The count of the last record of a key. -/
def lastCount (records : List (Py.Str × Py.Str × Int)) (user op : Py.Str) : Option Int :=
  ((records.filter fun r => r.1 = user ∧ r.2.1 = op).getLast?).map fun r => r.2.2

theorem current_eq_count? (usage : Usage) (user op : Py.Str) :
    usage.current user op = (usage.count? user op).getD 0 := by
  unfold Usage.current Usage.count?
  cases usage.get? user <;> rfl

theorem count?_ensureUser (usage : Usage) (user u op : Py.Str) :
    Usage.count? (if usage.contains user then usage else usage.insert user ∅) u op =
      usage.count? u op := by
  split
  · rfl
  · rename_i h
    unfold Usage.count?
    rw [PyDict.get?_insert]
    split
    · subst u
      simp [PyDict.contains] at h
      simp [h]
    · rfl

theorem count?_setCount (usage : Usage) (user opType u op : Py.Str) (n : Int) :
    Usage.count? (usage.insert user (((usage.get? user).getD ∅).insert opType n)) u op =
      if u = user ∧ op = opType then some n else usage.count? u op := by
  unfold Usage.count?
  rw [PyDict.get?_insert]
  by_cases hu : u = user
  · subst hu
    by_cases hop : op = opType
    · simp [hop]
    · cases usage.get? u <;> simp [hop, PyDict.get?_insert_ne]
  · simp [hu]

/-- **One comment.** A comment sets its key to its count when it is a well-formed record
of the day, and leaves every key alone otherwise. -/
theorem count?_parseComment (today : Py.Str) (usage : Usage) (body u op : Py.Str) :
    (parseComment today usage body).count? u op =
      match dayRecord today body with
      | some (user, opType, n) => if u = user ∧ op = opType then some n else usage.count? u op
      | none => usage.count? u op := by
  unfold parseComment dayRecord
  rcases splitUsage body with _ | ⟨date, user, opType, count⟩
  · rfl
  · by_cases hdate : date = today
    · simp only [hdate, ne_eq, not_true_eq_false, if_false, if_true]
      cases Py.int count with
      | none => exact count?_ensureUser usage user u op
      | some n =>
        simp only [Option.map_some', count?_setCount, count?_ensureUser]
    · simp [hdate]

theorem lastCount_append_record (records : List (Py.Str × Py.Str × Int))
    (r : Py.Str × Py.Str × Int) (u op : Py.Str) :
    lastCount (records ++ [r]) u op =
      if u = r.1 ∧ op = r.2.1 then some r.2.2 else lastCount records u op := by
  unfold lastCount
  by_cases h : u = r.1 ∧ op = r.2.1
  · obtain ⟨rfl, rfl⟩ := h
    simp [List.filter_append]
  · have : ¬(r.1 = u ∧ r.2.1 = op) := fun h' => h ⟨h'.1.symm, h'.2.symm⟩
    simp [List.filter_append, this, h]

/-- **The snapshot is the last record of each key.** For every comment list, the
snapshot's entry for a key is the count of the last well-formed record of the day for
that key, and there is no entry for a key without one. -/
theorem count?_parseUsageFromComments (now : UtcDate) (comments : List Comment)
    (u op : Py.Str) :
    (parseUsageFromComments now comments).count? u op =
      lastCount (dayRecords (getTodayKey now) comments) u op := by
  induction comments using List.reverseRecOn with
  | nil => rfl
  | append_singleton comments c ih =>
    rw [parseUsageFromComments, List.foldl_append, ← parseUsageFromComments]
    simp only [List.foldl_cons, List.foldl_nil, count?_parseComment, ih, dayRecords,
      List.filterMap_append, List.filterMap_cons, List.filterMap_nil]
    cases dayRecord (getTodayKey now) c.body with
    | none => simp
    | some r => simp [lastCount_append_record]

/-! ## The encoder and the parser agree -/

theorem usageRecord_eq (today user operation : Py.Str) (count : Int) :
    usageRecord today user operation count =
      "USAGE".toList ++ ':' :: ' ' :: ['|'].intercalate [today, user, operation, Py.str count] := by
  simp [usageRecord, List.intercalate]

/-- **The record round trip.** The line `_increment_usage` posts splits back into the day
key, the user, the operation and the printed count, for every user and operation
without `|` and every integer. -/
theorem splitUsage_usageRecord (now : UtcDate) {user operation : Py.Str} (count : Int)
    (huser : '|' ∉ user) (hop : '|' ∉ operation) :
    splitUsage (usageRecord (getTodayKey now) user operation count) =
      some (getTodayKey now, user, operation, Py.str count) := by
  obtain ⟨c, rest, hkey, hc⟩ := getTodayKey_eq_cons now
  have hstr := str_no_space_pipe count
  set fields := ['|'].intercalate [getTodayKey now, user, operation, Py.str count]
  have hlast : ∀ l ∈ fields.getLast?, isspace l = false := fun l hl => by
    simp only [fields, List.intercalate, List.intersperse, List.flatten, List.append_nil,
      List.getLast?_append, Option.mem_def] at hl
    rw [List.getLast?_eq_getLast _ (str_ne_nil count)] at hl
    cases hl
    exact (hstr _ (List.getLast_mem _)).1
  have hfields : fields = c :: (rest ++ '|' :: user ++ '|' :: operation ++ '|' :: Py.str count) := by
    simp [fields, List.intercalate, hkey]
  have hbody : strip ("USAGE".toList ++ ':' :: ' ' :: fields) =
      "USAGE".toList ++ ':' :: ' ' :: fields := by
    refine strip_eq_self (by decide) fun l hl => hlast l ?_
    rw [hfields] at hl ⊢
    simpa using hl
  have hdata : strip (' ' :: fields) = fields := by
    rw [strip_cons_of_isspace _ (by decide), hfields, strip_eq_self hc (by rwa [← hfields])]
  have hpipe : '|' ∉ Py.str count := fun h => (hstr '|' h).2 rfl
  have hsplit : split fields '|' = [getTodayKey now, user, operation, Py.str count] :=
    split_intercalate (by simp) (by simp [huser, hop, pipe_not_mem_getTodayKey, hpipe])
  have hpre : startswith ("USAGE".toList ++ ':' :: ' ' :: fields) "USAGE:".toList = true :=
    List.isPrefixOf_iff_prefix.mpr (by simp [List.prefix_append "USAGE:".toList (' ' :: fields)])
  rw [usageRecord_eq]
  unfold splitUsage
  rw [hbody]
  dsimp only
  rw [hpre, Bool.not_true, if_neg (by decide), splitOnce_append _ (by decide)]
  simp only [hdata, hsplit]

theorem dayRecord_usageRecord (now : UtcDate) {user operation : Py.Str} (count : Int)
    (huser : '|' ∉ user) (hop : '|' ∉ operation) :
    dayRecord (getTodayKey now) (usageRecord (getTodayKey now) user operation count) =
      some (user, operation, count) := by
  simp [dayRecord, splitUsage_usageRecord now count huser hop, int_str]

/-! ## Reading the snapshot through the record list -/

theorem lastCount_append (xs ys : List (Py.Str × Py.Str × Int)) (u op : Py.Str) :
    lastCount (xs ++ ys) u op = (lastCount ys u op).or (lastCount xs u op) := by
  unfold lastCount
  rw [List.filter_append, List.getLast?_append]
  cases (ys.filter fun r => r.1 = u ∧ r.2.1 = op).getLast? <;> rfl

theorem lastCount_eq_none {records : List (Py.Str × Py.Str × Int)} {u op : Py.Str}
    (h : ∀ r ∈ records, ¬(r.1 = u ∧ r.2.1 = op)) : lastCount records u op = none := by
  unfold lastCount
  rw [List.filter_eq_nil_iff.mpr fun r hr => by simpa using h r hr]
  rfl

theorem lastCount_cons_record (ys : List (Py.Str × Py.Str × Int)) (u op : Py.Str) (v : Int)
    (h : ∀ r ∈ ys, ¬(r.1 = u ∧ r.2.1 = op)) : lastCount ((u, op, v) :: ys) u op = some v := by
  rw [← List.singleton_append, lastCount_append, lastCount_eq_none h]
  simp [lastCount]

/-- The last record of a key, as a decomposition of the record list. -/
theorem lastCount_eq_some_iff (records : List (Py.Str × Py.Str × Int)) (u op : Py.Str) (v : Int) :
    lastCount records u op = some v ↔
      ∃ xs ys, records = xs ++ (u, op, v) :: ys ∧ ∀ r ∈ ys, ¬(r.1 = u ∧ r.2.1 = op) := by
  constructor
  · induction records using List.reverseRecOn with
    | nil => simp [lastCount]
    | append_singleton rs r ih =>
      rw [lastCount_append_record]
      split
      · rename_i hr
        intro hv
        obtain ⟨u', op', v'⟩ := r
        obtain ⟨rfl, rfl⟩ := hr
        cases hv
        exact ⟨rs, [], rfl, by simp⟩
      · rename_i hr
        intro hv
        obtain ⟨xs, ys, rfl, hys⟩ := ih hv
        refine ⟨xs, ys ++ [r], by simp, fun r' hr' => ?_⟩
        rcases List.mem_append.mp hr' with hr' | hr'
        · exact hys r' hr'
        · rw [List.mem_singleton.mp hr']
          exact fun h => hr ⟨h.1.symm, h.2.symm⟩
  · rintro ⟨xs, ys, rfl, hys⟩
    rw [lastCount_append, lastCount_cons_record ys u op v hys]
    rfl

/-- **Last write wins.** For every comment list and every day, the snapshot has an entry
for a key exactly when the day has a well-formed record of that key, and the entry is
the count of the last such record: the one after which no record of the key follows. -/
theorem parseUsage_last_record (now : UtcDate) (comments : List Comment) (u op : Py.Str) :
    ((parseUsageFromComments now comments).count? u op = none ↔
      ∀ r ∈ dayRecords (getTodayKey now) comments, ¬(r.1 = u ∧ r.2.1 = op)) ∧
    ∀ v, (parseUsageFromComments now comments).count? u op = some v ↔
      ∃ xs ys, dayRecords (getTodayKey now) comments = xs ++ (u, op, v) :: ys ∧
        ∀ r ∈ ys, ¬(r.1 = u ∧ r.2.1 = op) := by
  rw [count?_parseUsageFromComments]
  refine ⟨?_, lastCount_eq_some_iff _ u op⟩
  constructor
  · intro hnone r hr hkey
    obtain ⟨xs, ys, hsplit⟩ := List.append_of_mem hr
    have hlast : ∃ v, lastCount (dayRecords (getTodayKey now) comments) u op = some v := by
      rw [hsplit, lastCount_append]
      obtain ⟨u', op', v'⟩ := r
      obtain ⟨rfl, rfl⟩ := hkey
      cases h : lastCount ys u' op' with
      | some v => exact ⟨v, by rw [← List.singleton_append, lastCount_append, h]; rfl⟩
      | none =>
        exact ⟨v', by rw [← List.singleton_append, lastCount_append, h]; simp [lastCount]⟩
    obtain ⟨v, hv⟩ := hlast
    rw [hnone] at hv
    cases hv
  · exact lastCount_eq_none

/-- The parser is not a max-reducer, and the snapshot depends on arrival order: records
with counts 5 and 2 for one key give 2 in one order and 5 in the other. -/
theorem parseUsage_not_max :
    (parseUsageFromComments ⟨2025, 1, 1⟩
        [⟨"github-actions[bot]".toList, "USAGE: 2025-01-01|alice|mention|5".toList⟩,
         ⟨"github-actions[bot]".toList, "USAGE: 2025-01-01|alice|mention|2".toList⟩]).count?
        "alice".toList "mention".toList = some 2 ∧
    (parseUsageFromComments ⟨2025, 1, 1⟩
        [⟨"github-actions[bot]".toList, "USAGE: 2025-01-01|alice|mention|2".toList⟩,
         ⟨"github-actions[bot]".toList, "USAGE: 2025-01-01|alice|mention|5".toList⟩]).count?
        "alice".toList "mention".toList = some 5 := by
  decide

/-- **Encoder/parser round trip, with frame.** Take any day, any user and operation
without `|`, any integer, and any comments around the record `_increment_usage` posts,
none after it a well-formed record of the day for the same key. The snapshot holds the
record's count at its key, and at every other key what it holds without the record. -/
theorem parseUsage_record_frame (now : UtcDate) {user operation : Py.Str} (count : Int)
    (author : Py.Str) (before after : List Comment) (huser : '|' ∉ user)
    (hop : '|' ∉ operation)
    (hafter : ∀ r ∈ dayRecords (getTodayKey now) after, ¬(r.1 = user ∧ r.2.1 = operation)) :
    (parseUsageFromComments now
        (before ++ ⟨author, usageRecord (getTodayKey now) user operation count⟩ :: after)).count?
        user operation = some count ∧
    ∀ u op, ¬(u = user ∧ op = operation) →
      (parseUsageFromComments now
          (before ++ ⟨author, usageRecord (getTodayKey now) user operation count⟩ :: after)).count?
          u op = (parseUsageFromComments now (before ++ after)).count? u op := by
  have hrecords : dayRecords (getTodayKey now)
      (before ++ ⟨author, usageRecord (getTodayKey now) user operation count⟩ :: after) =
      dayRecords (getTodayKey now) before ++ (user, operation, count) ::
        dayRecords (getTodayKey now) after := by
    simp [dayRecords_append, dayRecords, dayRecord_usageRecord now count huser hop]
  refine ⟨?_, fun u op hkey => ?_⟩
  · rw [count?_parseUsageFromComments, hrecords, lastCount_append,
      lastCount_cons_record _ _ _ _ hafter]
    rfl
  · have hmid : lastCount [(user, operation, count)] u op = none :=
      lastCount_eq_none (by simpa [eq_comm] using hkey)
    rw [count?_parseUsageFromComments, count?_parseUsageFromComments, hrecords,
      dayRecords_append, ← List.singleton_append, lastCount_append, lastCount_append, hmid,
      lastCount_append]
    cases lastCount (dayRecords (getTodayKey now) after) u op <;> rfl

/-- The round trip with a foreign line before the record and another user's record
after it. -/
theorem parseUsage_record_frame_alice :
    (parseUsageFromComments ⟨2025, 1, 1⟩
        ([⟨"bob".toList, "hello".toList⟩] ++
          ⟨"github-actions[bot]".toList,
            usageRecord (getTodayKey ⟨2025, 1, 1⟩) "alice".toList "mention".toList 3⟩ ::
          [⟨"mallory".toList, "USAGE: 2025-01-01|bob|mention|7".toList⟩])).count?
        "alice".toList "mention".toList = some 3 ∧
    ∀ u op, ¬(u = "alice".toList ∧ op = "mention".toList) →
      (parseUsageFromComments ⟨2025, 1, 1⟩
          ([⟨"bob".toList, "hello".toList⟩] ++
            ⟨"github-actions[bot]".toList,
              usageRecord (getTodayKey ⟨2025, 1, 1⟩) "alice".toList "mention".toList 3⟩ ::
            [⟨"mallory".toList, "USAGE: 2025-01-01|bob|mention|7".toList⟩])).count? u op =
        (parseUsageFromComments ⟨2025, 1, 1⟩
          ([⟨"bob".toList, "hello".toList⟩] ++
            [⟨"mallory".toList, "USAGE: 2025-01-01|bob|mention|7".toList⟩])).count? u op :=
  parseUsage_record_frame ⟨2025, 1, 1⟩ 3 _ _ _ (by decide) (by decide) (by decide)

/-- Every count in the snapshot is what `int` made of the count field of one of the day's
lines for that key, and a line whose count field `int` rejects can be deleted without
changing any entry: the count grammar is `int`'s, signs, spaces and underscores
included. -/
theorem parseUsage_count_grammar (now : UtcDate) (comments : List Comment) :
    (∀ u op v, (parseUsageFromComments now comments).count? u op = some v →
      ∃ c ∈ comments, ∃ field, splitUsage c.body = some (getTodayKey now, u, op, field) ∧
        Py.int field = some v) ∧
    (∀ before c after, comments = before ++ c :: after →
      (∃ date user opType field, splitUsage c.body = some (date, user, opType, field) ∧
        Py.int field = none) →
      ∀ u op, (parseUsageFromComments now comments).count? u op =
        (parseUsageFromComments now (before ++ after)).count? u op) := by
  refine ⟨fun u op v hv => ?_, ?_⟩
  · rw [count?_parseUsageFromComments, lastCount_eq_some_iff] at hv
    obtain ⟨xs, ys, hsplit⟩ := hv
    have hmem : (u, op, v) ∈ dayRecords (getTodayKey now) comments := by simp [hsplit]
    obtain ⟨c, hc, hrec⟩ := List.mem_filterMap.mp hmem
    refine ⟨c, hc, ?_⟩
    unfold dayRecord at hrec
    rcases hs : splitUsage c.body with _ | ⟨date, user, opType, field⟩ <;>
      rw [hs] at hrec <;> dsimp only at hrec
    · cases hrec
    · by_cases hdate : date = getTodayKey now
      · rw [if_pos hdate] at hrec
        cases hi : Py.int field with
        | none => simp [hi] at hrec
        | some n =>
          simp only [hi, Option.map_some', Option.some.injEq, Prod.mk.injEq] at hrec
          obtain ⟨rfl, rfl, rfl⟩ := hrec
          exact ⟨field, by rw [hdate], hi⟩
      · simp [hdate] at hrec
  · rintro before c after rfl ⟨date, user, opType, field, hs, hi⟩ u op
    have hnone : dayRecord (getTodayKey now) c.body = none := by
      simp [dayRecord, hs, hi]
    rw [count?_parseUsageFromComments, count?_parseUsageFromComments]
    simp [dayRecords_append, dayRecords, hnone]

/-- `int` accepts a sign, surrounding whitespace and underscores between digits, so a
negative count reaches the snapshot, and `+5` and `1_0` are read as 5 and 10. -/
theorem parseUsage_signed_counts :
    (parseUsageFromComments ⟨2025, 1, 1⟩
        [⟨"mallory".toList, "USAGE: 2025-01-01|alice|mention|-5".toList⟩]).count?
        "alice".toList "mention".toList = some (-5) ∧
    (parseUsageFromComments ⟨2025, 1, 1⟩
        [⟨"mallory".toList, "USAGE: 2025-01-01|alice|mention|+5".toList⟩]).count?
        "alice".toList "mention".toList = some 5 ∧
    (parseUsageFromComments ⟨2025, 1, 1⟩
        [⟨"mallory".toList, "USAGE: 2025-01-01|alice|mention|1_0".toList⟩]).count?
        "alice".toList "mention".toList = some 10 := by
  decide

/-! ## The review sum -/

/-- When only `user` has review entries, the review sum of `check_code_review` is that
user's review count. -/
theorem reviewTotal_of_single (usage : Usage) (user : Py.Str)
    (h : ∀ u, u ≠ user → usage.count? u "review".toList = none) :
    usage.reviewTotal = (usage.count? user "review".toList).getD 0 := by
  unfold Usage.reviewTotal
  rw [PyDict.sum_values_of_single usage user _ fun u v hu hv => by
    simpa [Usage.count?, hv] using congrArg (Option.getD · 0) (h u hu)]
  unfold Usage.count?
  cases usage.get? user <;> rfl

/-- The review sum depends on the snapshot only through its review entries. -/
theorem reviewTotal_congr (usage₁ usage₂ : Usage)
    (h : ∀ u, usage₁.count? u "review".toList = usage₂.count? u "review".toList) :
    usage₁.reviewTotal = usage₂.reviewTotal := by
  have hterm : ∀ (usage : Usage) u, ((usage.get? u).map fun userUsage =>
      (userUsage.get? "review".toList).getD 0).getD 0 = (usage.count? u "review".toList).getD 0 :=
    fun usage u => by unfold Usage.count?; cases usage.get? u <;> rfl
  exact PyDict.sum_values_congr usage₁ usage₂ _ fun u => by rw [hterm, hterm, h]

end RateLimit
