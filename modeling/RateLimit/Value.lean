import RateLimit.Py

/-!
# Python values

The scripts read two documents of no fixed shape: the configuration `yaml.safe_load` returns,
and the evaluation `json.loads` returns. Both are Python values, read with `dict.get`,
`== 0`, `>=`, truth tests and iteration, each of which raises on a value of the wrong kind.
`PyValue` has the kinds the modelled code reads; floats, dates and the other scalars of
YAML are not modelled.
-/

namespace RateLimit

/-- A value of a document `yaml.safe_load` or `json.loads` returns, of the kinds the modelled
code reads (floats, dates and the other scalars aside). A mapping keeps its items in order;
when a key repeats, the `dict` holds the last one. -/
inductive PyValue
  | none
  | bool (b : Bool)
  | int (n : Int)
  | str (s : Py.Str)
  | list (items : List PyValue)
  | dict (items : List (Py.Str × PyValue))
  deriving Repr

/-- The exceptions the modelled code raises on a value of the wrong kind, or on a local
variable read before it was bound. -/
inductive PyError
  /-- `.get` on a value that is not a `dict`. -/
  | attributeError
  /-- `>=` between an `int` and a value that is neither an `int` nor a `bool`, or iterating
  over a value that is not iterable. -/
  | typeError
  /-- A local variable read where no assignment to it has run. -/
  | unboundLocalError
  deriving DecidableEq, Repr

namespace PyValue

/-- The value a mapping holds for `key`: its last item with that key. -/
def lookup (items : List (Py.Str × PyValue)) (key : Py.Str) : Option PyValue :=
  items.reverse.lookup key

/-- `v.get(key, default)`. -/
def get (v : PyValue) (key : Py.Str) (default : PyValue) : Except PyError PyValue :=
  match v with
  | .dict items => .ok ((lookup items key).getD default)
  | _ => .error .attributeError

/-- The truth value of `v`. -/
def truthy : PyValue → Bool
  | .none => false
  | .bool b => b
  | .int n => n != 0
  | .str s => !s.isEmpty
  | .list items => !items.isEmpty
  | .dict items => !items.isEmpty

/-- `v == 0`: `False` is `0`, and no value but an `int` or a `bool` equals `0`. -/
def eqZero : PyValue → Bool
  | .bool b => !b
  | .int n => n == 0
  | _ => false

/-- `isinstance(v, dict)`. -/
def isDict : PyValue → Bool
  | .dict _ => true
  | _ => false

/-- Whether `current >= v` compares: `v` is an `int` or a `bool`. -/
def isNumber : PyValue → Bool
  | .bool _ | .int _ => true
  | _ => false

/-- What `current >= v` compares `current` with, and `f"{v}"`: a `bool` counts as `0` or
`1`, and any value but a number raises `TypeError`. -/
def asNumber : PyValue → Except PyError (Int × Py.Str)
  | .bool b => .ok (if b then (1, "True".toList) else (0, "False".toList))
  | .int n => .ok (n, Py.str n)
  | _ => .error .typeError

/-- `for x in v` (here `enumerate(v)`): the items of a `list`, the one-character strings of
a `str`, and the keys of a `dict` in the order they were first inserted; any other value
raises `TypeError`. -/
def iter : PyValue → Except PyError (List PyValue)
  | .list items => .ok items
  | .str s => .ok (s.map fun c => .str [c])
  | .dict items => .ok ((items.map Prod.fst).eraseDups.map .str)
  | _ => .error .typeError

/-- Whether `for x in v` runs: `v` is a `list`, a `str` or a `dict`. -/
def isIterable : PyValue → Bool
  | .list _ | .str _ | .dict _ => true
  | _ => false

end PyValue

namespace PyValue

variable {v : PyValue} {key : Py.Str} {default : PyValue}

theorem get_of_isDict_false (h : v.isDict = false) : v.get key default = .error .attributeError := by
  cases v <;> first | rfl | cases h

theorem exists_dict_of_get_ok {x : PyValue} (h : v.get key default = .ok x) :
    ∃ items, v = .dict items := by
  cases v with
  | dict items => exact ⟨items, rfl⟩
  | _ => cases h

/-- `.get` raises nothing but `AttributeError`. -/
theorem eq_attributeError_of_get {e : PyError} (h : v.get key default = .error e) :
    e = .attributeError := by
  cases v <;> cases h <;> rfl

/-- `current >= v` raises nothing but `TypeError`. -/
theorem eq_typeError_of_asNumber {e : PyError} (h : v.asNumber = .error e) : e = .typeError := by
  cases v <;> cases h <;> rfl

theorem eqZero_of_isNumber_false (h : v.isNumber = false) : v.eqZero = false := by
  cases v <;> first | rfl | cases h

theorem asNumber_of_isNumber_false (h : v.isNumber = false) : v.asNumber = .error .typeError := by
  cases v <;> first | rfl | cases h

/-- Iteration raises exactly on the values that are not iterable. -/
theorem iter_eq_error_iff {e : PyError} : v.iter = .error e ↔ v.isIterable = false ∧ e = .typeError := by
  cases v <;> simp [iter, isIterable, eq_comm]

end PyValue

end RateLimit
