import Mathlib

/-!
# The Python `str` built-ins the usage ledger is written and read with

The rate limiter keeps its counters as free text on an issue, so the whole ledger
rests on a handful of CPython string built-ins. A `str` is its list of code points
(`Py.Str`), and each built-in is the algorithm CPython runs:

* `strip` — `str.strip()`, over the code points `Py_UNICODE_ISSPACE` accepts;
* `startswith`, `split` (a one-character separator) and `splitOnce` (`split(sep, 1)`);
* `str` — `str(n)` of an `int`, printed through core's `Nat.toDigits 10`;
* `int` — `int(s)` of a `str`: `_PyUnicode_TransformDecimalAndSpaceToASCII`, then
  `PyLong_FromString(s, 10)`, which has to consume the whole string;
* `find`, `contains` and `slice` — `str.find(sub, start)`, `sub in s` and `s[a:b]`, with
  Python's negative slice bounds.

The facts the ledger's encoder and parser agree through are proved here: `int_str`
(`int(str(n)) == n` for every integer), `strip_eq_self` (a string with non-space ends
is unchanged), and `split_intercalate` (fields without the separator come back out).
-/

namespace RateLimit.Py

/-- A Python `str`, as its code points. -/
abbrev Str := List Char

/-! ## Whitespace and `strip` -/

/-- `Py_UNICODE_ISSPACE`: the code points `str.isspace()` and `str.strip()` treat as
whitespace. -/
def isspace (c : Char) : Bool :=
  let n := c.toNat
  (9 ≤ n && n ≤ 13) || (28 ≤ n && n ≤ 32) || n == 0x85 || n == 0xA0 || n == 0x1680 ||
    (0x2000 ≤ n && n ≤ 0x200A) || n == 0x2028 || n == 0x2029 || n == 0x202F ||
    n == 0x205F || n == 0x3000

/-- `str.strip()`. -/
def strip (s : Str) : Str := (s.dropWhile isspace).rdropWhile isspace

/-- `str.startswith(prefix)`. -/
def startswith (s pre : Str) : Bool := pre.isPrefixOf s

/-- `str.split(sep)` for a one-character `sep`: every occurrence splits, empty fields
stay. -/
def split (s : Str) (sep : Char) : List Str := s.splitOn sep

/-- `str.split(sep, 1)`: one split, at the first occurrence, if there is one. -/
def splitOnce (s : Str) (sep : Char) : List Str :=
  match s.span (· != sep) with
  | (before, []) => [before]
  | (before, _ :: after) => [before, after]

/-! ## `str(n)` -/

/-- `str(n)` for an `int`. -/
def str : Int → Str
  | .ofNat n => Nat.toDigits 10 n
  | .negSucc n => '-' :: Nat.toDigits 10 (n + 1)

/-! ## `int(s)` -/

/-- `Py_ISSPACE`: the ASCII whitespace `PyLong_FromString` skips. -/
def isAsciiSpace (c : Char) : Bool := c == ' ' || (9 ≤ c.toNat && c.toNat ≤ 13)

/-- The first code points of the runs of ten Unicode `Nd` digits (Unicode 15.0). -/
def decimalZeros : List Nat :=
  [0x30, 0x660, 0x6F0, 0x7C0, 0x966, 0x9E6, 0xA66, 0xAE6, 0xB66, 0xBE6, 0xC66, 0xCE6,
    0xD66, 0xDE6, 0xE50, 0xED0, 0xF20, 0x1040, 0x1090, 0x17E0, 0x1810, 0x1946, 0x19D0,
    0x1A80, 0x1A90, 0x1B50, 0x1BB0, 0x1C40, 0x1C50, 0xA620, 0xA8D0, 0xA900, 0xA9D0,
    0xA9F0, 0xAA50, 0xABF0, 0xFF10, 0x104A0, 0x10D30, 0x11066, 0x110F0, 0x11136,
    0x111D0, 0x112F0, 0x11450, 0x114D0, 0x11650, 0x116C0, 0x11730, 0x118E0, 0x11950,
    0x11C50, 0x11D50, 0x11DA0, 0x11F50, 0x16A60, 0x16AC0, 0x16B50, 0x1D7CE, 0x1D7D8,
    0x1D7E2, 0x1D7EC, 0x1D7F6, 0x1E140, 0x1E2F0, 0x1E4F0, 0x1E950, 0x1FBF0]

/-- `Py_UNICODE_TODECIMAL`: the value of a decimal digit of any script. -/
def todecimal (c : Char) : Option Nat :=
  (decimalZeros.find? fun z => z ≤ c.toNat && c.toNat < z + 10).map (c.toNat - ·)

/-- `_PyUnicode_TransformDecimalAndSpaceToASCII`, one code point: ASCII stays, other
whitespace becomes a space, other digits their ASCII digit, and anything else `?`,
which `PyLong_FromString` never accepts. -/
def toAscii (c : Char) : Char :=
  if c.toNat < 128 then c
  else if isspace c then ' '
  else match todecimal c with
    | some d => Nat.digitChar d
    | none => '?'

/-- The value of an ASCII digit. -/
def digitValue (c : Char) : Nat := c.toNat - '0'.toNat

/-- The digit loop of `PyLong_FromString` after the first digit: digits, each after at
most one underscore. It stops before the first character that does not continue the
numeral and returns the value and what is left. -/
def scanDigits (acc : Nat) : Str → Nat × Str
  | [] => (acc, [])
  | c :: rest =>
    if c.isDigit then scanDigits (10 * acc + digitValue c) rest
    else if c = '_' then
      match rest with
      | d :: rest' =>
        if d.isDigit then scanDigits (10 * acc + digitValue d) rest' else (acc, c :: rest)
      | [] => (acc, [c])
    else (acc, c :: rest)

/-- An unsigned numeral: a digit, the digit loop, then nothing but ASCII spaces. -/
def unsigned : Str → Option Nat
  | [] => none
  | d :: rest =>
    if d.isDigit then
      let scan := scanDigits (digitValue d) rest
      if scan.2.all isAsciiSpace then some scan.1 else none
    else none

/-- `PyLong_FromString(s, 10)` together with `int`'s check that it consumed all of `s`:
spaces, an optional sign, the numeral, spaces. -/
def longFromString (s : Str) : Option Int :=
  match s.dropWhile isAsciiSpace with
  | [] => none
  | c :: rest =>
    if c = '+' then (unsigned rest).map Int.ofNat
    else if c = '-' then (unsigned rest).map fun n => -(n : Int)
    else (unsigned (c :: rest)).map Int.ofNat

/-- `int(s)` for a `str`; `none` is the `ValueError`. -/
def int (s : Str) : Option Int := longFromString (s.map toAscii)


/-! ## `strip`, `split` and `split(sep, 1)` on the shapes the ledger writes -/

theorem strip_cons_of_isspace {c : Char} (s : Str) (h : isspace c = true) :
    strip (c :: s) = strip s := by
  simp [strip, h]

/-- A string whose first and last code points are not whitespace is its own `strip()`. -/
theorem strip_eq_self {c : Char} {s : Str} (hhead : isspace c = false)
    (hlast : ∀ l ∈ (c :: s).getLast?, isspace l = false) : strip (c :: s) = c :: s := by
  have hlast' := hlast _ (List.getLast?_eq_getLast (c :: s) (List.cons_ne_nil c s))
  rw [strip, List.dropWhile_cons_of_neg (by simp [hhead])]
  conv_lhs => rw [← List.dropLast_append_getLast (List.cons_ne_nil c s)]
  rw [List.rdropWhile_concat_neg _ _ _ (by simp [hlast']),
    List.dropLast_append_getLast]

/-- `strip()` keeps a part of the string, in order. -/
theorem strip_sublist (s : Str) : (strip s).Sublist s :=
  (List.rdropWhile_prefix _ _).sublist.trans (List.dropWhile_suffix _).sublist

/-- `strip()` is idempotent: what it returns starts and ends with no whitespace. -/
theorem strip_strip (s : Str) : strip (strip s) = strip s := by
  rcases h : strip s with _ | ⟨c, t⟩
  · rfl
  · have hne : strip s ≠ [] := by rw [h]; exact List.cons_ne_nil _ _
    obtain ⟨u, hu⟩ := List.rdropWhile_prefix isspace (s.dropWhile isspace)
    have hd : s.dropWhile isspace ≠ [] := fun hd => by
      rw [strip, hd] at hne; exact hne rfl
    have hhead := List.head_dropWhile_not isspace s hd
    have hlast := List.rdropWhile_last_not (p := isspace) (l := s.dropWhile isspace) hne
    refine strip_eq_self ?_ ?_
    · change strip s ++ u = _ at hu
      rw [h] at hu
      simp only [← hu] at hhead
      simpa using hhead
    · intro l hl
      rw [← h] at hl
      rw [List.getLast?_eq_getLast _ hne, Option.mem_def, Option.some.injEq] at hl
      rw [← hl]
      simpa using hlast

/-- No field of `split` holds the separator. -/
theorem not_mem_of_mem_split {sep : Char} {s l : Str} (h : l ∈ split s sep) : sep ∉ l := by
  induction s generalizing l with
  | nil =>
    simp only [split, List.splitOn_nil, List.mem_singleton] at h
    simp [h]
  | cons x xs ih =>
    simp only [split, List.splitOn, List.splitOnP_cons] at h ih
    split_ifs at h with hx
    · rcases List.mem_cons.mp h with rfl | hl
      · exact List.not_mem_nil _
      · exact ih hl
    · cases hs : xs.splitOnP (· == sep) with
      | nil => exact absurd hs (List.splitOnP_ne_nil _ _)
      | cons hd tl =>
        rw [hs, List.modifyHead_cons, List.mem_cons] at h
        rcases h with rfl | hl
        · rintro (_ | ⟨_, hmem⟩)
          · simp at hx
          · exact ih (hs ▸ List.mem_cons_self _ _) hmem
        · exact ih (hs ▸ List.mem_cons_of_mem _ hl)

/-- Fields each followed by the separator come back out of `split`, with one empty field
after the last separator. -/
theorem split_flatten_append_sep {sep : Char} {fields : List Str} (hsep : ∀ f ∈ fields, sep ∉ f) :
    split (fields.map fun f => f ++ [sep]).flatten sep = fields ++ [[]] := by
  induction fields with
  | nil => rfl
  | cons f fs ih =>
    have hf : ∀ x ∈ f, ¬(x == sep) = true := fun x hx hxs =>
      hsep f (List.mem_cons_self _ _) (beq_iff_eq.mp hxs ▸ hx)
    rw [List.map_cons, List.flatten_cons, List.append_assoc, List.singleton_append, split,
      List.splitOn, List.splitOnP_first _ _ hf _ (beq_self_eq_true sep), ← List.splitOn, ← split,
      ih fun g hg => hsep g (List.mem_cons_of_mem _ hg), List.cons_append]

theorem intercalate_concat (sep : Str) {fields : List Str} (hne : fields ≠ []) (last : Str) :
    sep.intercalate (fields ++ [last]) = sep.intercalate fields ++ sep ++ last := by
  induction fields with
  | nil => exact absurd rfl hne
  | cons f fs ih =>
    cases fs with
    | nil => simp [List.intercalate]
    | cons g gs =>
      have := ih (List.cons_ne_nil _ _)
      simp only [List.intercalate, List.cons_append, List.intersperse_cons₂,
        List.flatten_cons] at this ⊢
      rw [this]
      simp only [List.append_assoc]

/-- Fields free of the separator come back out of `split`. -/
theorem split_intercalate {sep : Char} {fields : List Str} (hne : fields ≠ [])
    (hsep : ∀ f ∈ fields, sep ∉ f) : split ([sep].intercalate fields) sep = fields :=
  List.splitOn_intercalate fields sep hsep hne

/-- One more field after the separator comes back as one more field. -/
theorem split_intercalate_concat {sep : Char} {fields : List Str} (hne : fields ≠ [])
    (hsep : ∀ f ∈ fields, sep ∉ f) {last : Str} (hlast : sep ∉ last) :
    split ([sep].intercalate fields ++ sep :: last) sep = fields ++ [last] := by
  rw [show [sep].intercalate fields ++ sep :: last = [sep].intercalate fields ++ [sep] ++ last by
      simp, ← intercalate_concat _ hne, split_intercalate (List.append_ne_nil_of_left_ne_nil hne _)]
  simpa [or_imp, forall_and] using ⟨hsep, hlast⟩

theorem splitOnce_append {sep : Char} {pre : Str} (rest : Str) (hpre : sep ∉ pre) :
    splitOnce (pre ++ sep :: rest) sep = [pre, rest] := by
  have hne : ∀ a ∈ pre, (a != sep) = true := fun a ha => by
    simpa using fun h : a = sep => hpre (h ▸ ha)
  simp [splitOnce, List.span_eq_take_drop, List.takeWhile_append_of_pos hne,
    List.dropWhile_append_of_pos hne]

/-! ## `int(str(n)) == n` -/

/-- What the proofs need of the ten ASCII digits `Nat.digitChar` prints. -/
theorem digitChar_spec : ∀ d < 10,
    (Nat.digitChar d).isDigit = true ∧ digitValue (Nat.digitChar d) = d ∧
      toAscii (Nat.digitChar d) = Nat.digitChar d ∧
      isAsciiSpace (Nat.digitChar d) = false ∧ isspace (Nat.digitChar d) = false ∧
      Nat.digitChar d ≠ '+' ∧ Nat.digitChar d ≠ '-' ∧ Nat.digitChar d ≠ '|' := by
  decide

/-- `Nat.toDigitsCore` prepends its digits to the accumulator. -/
theorem toDigitsCore_eq_append (b f n : Nat) (ds : List Char) :
    Nat.toDigitsCore b f n ds = Nat.toDigitsCore b f n [] ++ ds := by
  induction f generalizing n ds with
  | zero => rfl
  | succ f ih =>
    simp only [Nat.toDigitsCore]
    split
    · rfl
    · rw [ih _ (_ :: ds), ih _ [_]]
      simp

theorem toDigitsCore_ne_nil (b f n : Nat) : Nat.toDigitsCore b (f + 1) n [] ≠ [] := by
  simp only [Nat.toDigitsCore]
  split
  · simp
  · rw [toDigitsCore_eq_append]
    simp

/-- Every character of a printed number is one of the ten digits. -/
theorem toDigitsCore_digitChar (f n : Nat) :
    ∀ c ∈ Nat.toDigitsCore 10 f n [], ∃ d < 10, Nat.digitChar d = c := by
  induction f generalizing n with
  | zero => simp [Nat.toDigitsCore]
  | succ f ih =>
    intro c hc
    have hd : ∃ d < 10, Nat.digitChar d = Nat.digitChar (n % 10) :=
      ⟨n % 10, Nat.mod_lt _ (by omega), rfl⟩
    simp only [Nat.toDigitsCore] at hc
    split at hc
    · simpa [List.mem_singleton.mp hc] using hd
    · rw [toDigitsCore_eq_append, List.mem_append, List.mem_singleton] at hc
      rcases hc with hc | rfl
      · exact ih _ c hc
      · exact hd

/-- Reading back the digits `Nat.toDigitsCore` printed gives the number. -/
theorem foldl_toDigitsCore (f n : Nat) (hf : n < f) :
    (Nat.toDigitsCore 10 f n []).foldl (fun a c => 10 * a + digitValue c) 0 = n := by
  induction f generalizing n with
  | zero => omega
  | succ f ih =>
    have hd := (digitChar_spec (n % 10) (Nat.mod_lt _ (by omega))).2.1
    simp only [Nat.toDigitsCore]
    split
    · simp only [List.foldl, hd]
      omega
    · rw [toDigitsCore_eq_append, List.foldl_append, ih (n / 10) (by omega)]
      simp only [List.foldl, hd]
      omega

theorem scanDigits_cons_of_isDigit {c : Char} (acc : Nat) (rest : Str) (h : c.isDigit) :
    scanDigits acc (c :: rest) = scanDigits (10 * acc + digitValue c) rest := by
  rw [scanDigits.eq_def]
  simp [h]

theorem scanDigits_of_isDigit (acc : Nat) (ds : Str) (h : ∀ c ∈ ds, c.isDigit) :
    scanDigits acc ds = (ds.foldl (fun a c => 10 * a + digitValue c) acc, []) := by
  induction ds generalizing acc with
  | nil => rfl
  | cons c ds ih =>
    simp only [List.mem_cons, forall_eq_or_imp] at h
    rw [scanDigits_cons_of_isDigit _ _ h.1, ih _ h.2, List.foldl]

/-- A printed number starts with a digit. -/
theorem toDigits_eq_cons (n : Nat) :
    ∃ d < 10, ∃ ds, Nat.toDigits 10 n = Nat.digitChar d :: ds := by
  obtain ⟨c, ds, hcd⟩ := List.exists_cons_of_ne_nil (toDigitsCore_ne_nil 10 n n)
  obtain ⟨d, hd, rfl⟩ := toDigitsCore_digitChar _ n c (hcd ▸ List.mem_cons_self c ds)
  exact ⟨d, hd, ds, hcd⟩

theorem unsigned_toDigits (n : Nat) : unsigned (Nat.toDigits 10 n) = some n := by
  have hdig := toDigitsCore_digitChar (n + 1) n
  have hval := foldl_toDigitsCore (n + 1) n (by omega)
  obtain ⟨d, hd, ds, hcd⟩ := toDigits_eq_cons n
  unfold Nat.toDigits at hcd ⊢
  rw [hcd] at hdig hval ⊢
  have hds : ∀ c ∈ ds, c.isDigit := fun c hc => by
    obtain ⟨e, he, rfl⟩ := hdig c (List.mem_cons_of_mem _ hc)
    exact (digitChar_spec e he).1
  simp only [unsigned, if_pos (digitChar_spec d hd).1, scanDigits_of_isDigit _ _ hds]
  simpa using hval

/-- `int` reads every printed natural number back. -/
theorem longFromString_toDigits (n : Nat) :
    longFromString (Nat.toDigits 10 n) = some n := by
  obtain ⟨d, hd, ds, hcd⟩ := toDigits_eq_cons n
  obtain ⟨-, -, -, hsp, -, hplus, hminus, -⟩ := digitChar_spec d hd
  have hdrop : (Nat.digitChar d :: ds).dropWhile isAsciiSpace = Nat.digitChar d :: ds :=
    List.dropWhile_cons_of_neg (by simp [hsp])
  rw [longFromString, hcd, hdrop]
  simp only [if_neg hplus, if_neg hminus, ← hcd, unsigned_toDigits, Option.map_some']
  rfl

theorem map_toAscii_toDigits (n : Nat) : (Nat.toDigits 10 n).map toAscii = Nat.toDigits 10 n := by
  refine (List.map_congr_left fun c hc => ?_).trans (List.map_id _)
  obtain ⟨d, hd, rfl⟩ := toDigitsCore_digitChar _ n c hc
  exact (digitChar_spec d hd).2.2.1

/-- **`int(str(n)) == n`** for every Python integer. -/
theorem int_str (n : Int) : int (str n) = some n := by
  cases n with
  | ofNat n => simp [int, str, map_toAscii_toDigits, longFromString_toDigits]
  | negSucc n =>
    simp only [int, str, List.map_cons, map_toAscii_toDigits]
    simp [longFromString, toAscii, isAsciiSpace, unsigned_toDigits, Int.negSucc_eq]

/-- `str(n)` prints a sign and digits, nothing else. -/
theorem str_chars (n : Int) : ∀ c ∈ str n, c = '-' ∨ ∃ d < 10, Nat.digitChar d = c := by
  cases n with
  | ofNat n => exact fun c hc => .inr (toDigitsCore_digitChar _ n c hc)
  | negSucc n =>
    intro c hc
    rcases List.mem_cons.mp hc with rfl | hc
    · exact .inl rfl
    · exact .inr (toDigitsCore_digitChar _ _ c hc)

theorem str_ne_nil (n : Int) : str n ≠ [] := by
  cases n <;> simp [str, Nat.toDigits, toDigitsCore_ne_nil]

/-- A printed integer holds no whitespace and no `|`. -/
theorem str_no_space_pipe (n : Int) : ∀ c ∈ str n, isspace c = false ∧ c ≠ '|' := by
  intro c hc
  rcases str_chars n c hc with rfl | ⟨d, hd, rfl⟩
  · decide
  · exact ⟨(digitChar_spec d hd).2.2.2.2.1, (digitChar_spec d hd).2.2.2.2.2.2.2⟩

/-! ## `find`, `in` and slicing -/

/-- The first position, counting from `i`, at which `sub` starts in `s`. -/
def findFrom (sub : Str) : Str → Nat → Option Nat
  | [], i => if sub.isEmpty then some i else none
  | s@(_ :: rest), i => if sub.isPrefixOf s then some i else findFrom sub rest (i + 1)

/-- `s.find(sub, start)`: the lowest index from `start` on where `sub` occurs, `-1` if none. -/
def find (s sub : Str) (start : Nat) : Int :=
  if s.length < start then -1
  else match findFrom sub (s.drop start) start with
    | some i => i
    | none => -1

/-- `sub in s`. -/
def contains (s sub : Str) : Bool := find s sub 0 != -1

/-- A slice bound: a negative one counts from the end, then it is clamped into the string. -/
def sliceIndex (len : Nat) (i : Int) : Nat :=
  if i < 0 then (len + i).toNat else min i.toNat len

/-- `s[a:b]`. -/
def slice (s : Str) (a b : Int) : Str :=
  let a := sliceIndex s.length a
  let b := sliceIndex s.length b
  (s.drop a).take (b - a)

section

variable {sub : Str} {ch : Char}

theorem findFrom_of_isPrefixOf {s : Str} (i : Nat) (h : sub.isPrefixOf s) :
    findFrom sub s i = some i := by
  cases s with
  | nil => cases sub <;> simp_all [findFrom]
  | cons c rest => simp [findFrom, h]

/-- A string with no occurrence of `sub`'s first character is skipped over. -/
theorem findFrom_append_of_not_mem (hsub : sub.head? = some ch) {pre : Str} (rest : Str)
    (i : Nat) (hpre : ch ∉ pre) : findFrom sub (pre ++ rest) i = findFrom sub rest (i + pre.length) := by
  induction pre generalizing i with
  | nil => rfl
  | cons c pre ih =>
    obtain ⟨t, rfl⟩ : ∃ t, sub = ch :: t := by
      cases sub with
      | nil => cases hsub
      | cons d t => exact ⟨t, by cases hsub; rfl⟩
    have hc : c ≠ ch := fun h => hpre (h ▸ List.mem_cons_self _ _)
    rw [List.cons_append, findFrom, if_neg (by simp [List.isPrefixOf, Ne.symm hc]),
      ih _ fun h => hpre (List.mem_cons_of_mem _ h), List.length_cons]
    congr 1
    omega

theorem findFrom_of_not_mem (hsub : sub.head? = some ch) {s : Str} (i : Nat) (hs : ch ∉ s) :
    findFrom sub s i = none := by
  have := findFrom_append_of_not_mem hsub [] i hs
  rw [List.append_nil] at this
  rw [this, findFrom]
  cases sub <;> simp_all

end

end RateLimit.Py
