import ArtifactPipeline.Word

/-!
# Configuration values

A configuration is a tree of tables and lists with scalars at its leaves. Tables keep their keys in
ascending order (`insert` puts a key in its place), and a key is looked up by its first occurrence
(`lookup`) and listed once (`keys`), so that every statement about a table holds whether or not it
was built with `insert`.

* `Value.get?` follows one key, `Value.getPath?` a whole path of keys;
* `lookup_insert` says what an insertion does to the view by keys.
-/

namespace ArtifactPipeline.Config

/-- A configuration value. -/
inductive Value where
  | null
  | bool (b : Bool)
  | int (n : Int)
  | float (x : Float)
  | string (s : String)
  | array (items : List Value)
  | object (entries : List (String × Value))
deriving Inhabited

/-- A table's entries. -/
abbrev Entries := List (String × Value)

namespace Entries

/-- The value of a key's first occurrence. -/
def lookup (key : String) : Entries → Option Value
  | [] => none
  | (k, v) :: rest => if key = k then some v else lookup key rest

/-- Give a key a value, at its place in the order. -/
def insert (key : String) (value : Value) : Entries → Entries
  | [] => [(key, value)]
  | (k, v) :: rest =>
    if key = k then (key, value) :: rest
    else if key < k then (key, value) :: (k, v) :: rest
    else (k, v) :: insert key value rest

@[simp] theorem lookup_insert_self (key : String) (value : Value) (entries : Entries) :
    lookup key (insert key value entries) = some value := by
  induction entries with
  | nil => simp [insert, lookup]
  | cons entry rest ih =>
    obtain ⟨k, v⟩ := entry
    rw [insert]
    split
    · simp [lookup]
    · next other =>
      split
      · simp [lookup]
      · simp [lookup, other, ih]

theorem lookup_insert_of_ne {key other : String} (h : other ≠ key) (value : Value)
    (entries : Entries) : lookup other (insert key value entries) = lookup other entries := by
  induction entries with
  | nil => simp [insert, lookup, h]
  | cons entry rest ih =>
    obtain ⟨k, v⟩ := entry
    rw [insert]
    split
    · next same =>
      subst same
      simp [lookup, h]
    · split
      · simp [lookup, h]
      · simp [lookup, ih]

/-- An insertion decides its own key and leaves the others. -/
theorem lookup_insert (key other : String) (value : Value) (entries : Entries) :
    lookup other (insert key value entries)
      = if other = key then some value else lookup other entries := by
  by_cases h : other = key
  · subst h
    simp
  · simp [h, lookup_insert_of_ne h]

/-- Entries in the order of their keys; of equal keys the later value counts. -/
def ofList (entries : List (String × Value)) : Entries :=
  entries.foldl (fun sorted (key, value) => insert key value sorted) []

/-- The keys of a table in ascending order, each once. -/
def keys (entries : Entries) : List String := (ofList entries).map Prod.fst

end Entries

namespace Value

/-- A table of the given entries. -/
def table (entries : List (String × Value)) : Value := .object (Entries.ofList entries)

/-- The value of a key; only tables have keys. -/
def get? (key : String) : Value → Option Value
  | .object entries => Entries.lookup key entries
  | _ => none

/-- A table with an entry put in or replaced; any other value stays. -/
def insert (v : Value) (key : String) (value : Value) : Value :=
  match v with
  | .object entries => .object (Entries.insert key value entries)
  | v => v

/-- The value at the end of a path of keys. -/
def getPath? : List String → Value → Option Value
  | [], v => some v
  | key :: path, v => (v.get? key).bind (getPath? path)

/-- Whether a value is the absent one. -/
def isNull : Value → Bool
  | .null => true
  | _ => false

/-- Whether a value is a table. -/
def isObject : Value → Bool
  | .object _ => true
  | _ => false

/-- Whether a value is a list. -/
def isArray : Value → Bool
  | .array _ => true
  | _ => false

/-- The text that a value is, if it is one. -/
def asString? : Value → Option String
  | .string s => some s
  | _ => none

/-- The natural number that a value is, if it is one and fits into 64 bits. -/
def asNat? : Value → Option Nat
  | .int n => if 0 ≤ n ∧ n < Word.bound then some n.toNat else none
  | _ => none

/-- The whole number that a value is, if it is one that fits into 64 bits with a sign. -/
def asInt64? : Value → Option Int64
  | .int n => if Word.fits n then some (.ofInt n) else none
  | _ => none

/-- The entries of a table. -/
def asEntries? : Value → Option Entries
  | .object entries => some entries
  | _ => none

@[simp] theorem get?_object (key : String) (entries : Entries) :
    (Value.object entries).get? key = Entries.lookup key entries := rfl

@[simp] theorem getPath?_nil (v : Value) : v.getPath? [] = some v := rfl

@[simp] theorem getPath?_cons (key : String) (path : List String) (v : Value) :
    v.getPath? (key :: path) = (v.get? key).bind (getPath? path) := rfl

/-- A path in two parts is followed part by part. -/
theorem getPath?_append (p q : List String) (v : Value) :
    v.getPath? (p ++ q) = (v.getPath? p).bind (getPath? q) := by
  induction p generalizing v with
  | nil => simp
  | cons key p ih =>
    rw [List.cons_append, getPath?_cons, getPath?_cons]
    cases v.get? key with
    | none => rfl
    | some w => simpa using ih w

/-- A value that is no table has nothing below it. -/
theorem get?_eq_none_of_not_object {v : Value} (h : v.isObject = false) (key : String) :
    v.get? key = none := by
  cases v <;> simp_all [isObject, get?]

end Value

end ArtifactPipeline.Config
