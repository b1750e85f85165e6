/-
Values of a configuration file: strings, numbers, truth values, dates and times, arrays and tables.
Tables keep the order of their keys.
-/
namespace RtlAtlas

/-- A value of a configuration file. -/
inductive Toml where
  | string (value : String)
  | integer (value : Int)
  /-- A number with a fraction or an exponent, or one of the words for numbers that are none or
  infinite, as it was written. -/
  | float (text : String)
  | boolean (value : Bool)
  /-- A date, a time or both, as it was written. -/
  | moment (text : String)
  | array (items : List Toml)
  | table (entries : List (String × Toml))
  deriving Repr

namespace Toml

instance : Inhabited Toml := ⟨.table []⟩

/-- The value of a key among the entries of a table. -/
def lookup (key : String) (entries : List (String × Toml)) : Option Toml :=
  (entries.find? fun e => e.1 == key).map (·.2)

/-- Puts a value in the place of the one under a key, or appends the entry. -/
def store (key : String) (value : Toml) : List (String × Toml) → List (String × Toml)
  | [] => [(key, value)]
  | e :: es => if e.1 == key then (key, value) :: es else e :: store key value es

/-- Changes the table at the end of a row of keys, making the tables on the way that are missing.
The last item of an array stands for the array. -/
def atTable (f : List (String × Toml) → Option (List (String × Toml))) :
    List String → List (String × Toml) → Option (List (String × Toml))
  | [], entries => f entries
  | key :: keys, entries =>
    match lookup key entries with
    | none => (atTable f keys []).map fun t => store key (.table t) entries
    | some (.table inner) => (atTable f keys inner).map fun t => store key (.table t) entries
    | some (.array items) =>
      match items.getLast? with
      | some (.table inner) =>
        (atTable f keys inner).map fun t => store key (.array (items.dropLast ++ [.table t])) entries
      | _ => none
    | some _ => none

/-- The same, where arrays are no tables. -/
def atPlainTable (f : List (String × Toml) → Option (List (String × Toml))) :
    List String → List (String × Toml) → Option (List (String × Toml))
  | [], entries => f entries
  | key :: keys, entries =>
    match lookup key entries with
    | none => (atPlainTable f keys []).map fun t => store key (.table t) entries
    | some (.table inner) => (atPlainTable f keys inner).map fun t => store key (.table t) entries
    | some _ => none

/-- Adds an entry under a key that is still free. -/
def addEntry (key : String) (value : Toml) (entries : List (String × Toml)) :
    Option (List (String × Toml)) :=
  if (lookup key entries).isSome then none else some (entries ++ [(key, value)])

/-- Adds a table to the array of tables under a key. -/
def addTable (key : String) (entries : List (String × Toml)) : Option (List (String × Toml)) :=
  match lookup key entries with
  | none => some (entries ++ [(key, .array [.table []])])
  | some (.array items) => some (store key (.array (items ++ [.table []])) entries)
  | some _ => none

end Toml

end RtlAtlas
