/-
Reading the arguments of a command: options that start with one or two hyphens, with or without a
value, and the arguments between them. A long option takes its value after an equals sign or from the
next argument, short ones may share one hyphen, the last of them with its value attached; two hyphens
alone end the options. Anything else is a mistake in usage, for which there is no answer.
-/
import RtlAtlas.Text.Find

namespace RtlAtlas.Command

/-- An option that a command knows. -/
structure Flag where
  /-- The name under which it is looked up. -/
  key : String
  long : String
  short : Option Char := none
  takesValue : Bool := false
  deriving DecidableEq, Repr

/-- Options with their values, in order, and the other arguments. -/
structure Arguments where
  options : List (String × String) := []
  others : List String := []
  deriving DecidableEq, Repr

namespace Arguments

def has (a : Arguments) (key : String) : Bool := a.options.any fun o => o.1 == key

def values (a : Arguments) (key : String) : List String :=
  (a.options.filter fun o => o.1 == key).map (·.2)

/-- The value of an option, the last one given. -/
def value? (a : Arguments) (key : String) : Option String := (a.values key).getLast?

/-- Adds options in front. -/
def prepend (options : List (String × String)) (a : Arguments) : Arguments :=
  { a with options := options ++ a.options }

end Arguments

/-- What one argument gives: options that are complete, and one that waits for its value. -/
structure Reading where
  complete : List (String × String) := []
  waiting : Option String := none
  deriving DecidableEq, Repr

/-- The options of letters that share a hyphen. -/
def readShort (flags : List Flag) : List Char → Option Reading
  | [] => some {}
  | c :: cs => do
    let flag ← flags.find? fun f => f.short == some c
    if flag.takesValue then
      if cs.isEmpty then return { waiting := some flag.key }
      else return { complete := [(flag.key, String.ofList cs)] }
    else
      let rest ← readShort flags cs
      return { rest with complete := (flag.key, "") :: rest.complete }

/-- The option of an argument that has a long name. -/
def readLong (flag : Flag) (attached : Option (List Char)) : Option Reading :=
  match flag.takesValue, attached with
  | true, some value => some { complete := [(flag.key, String.ofList value)] }
  | true, none => some { waiting := some flag.key }
  | false, some _ => none
  | false, none => some { complete := [(flag.key, "")] }

/-- Splits an argument at its first equals sign. -/
def attachedValue (arg : List Char) : List Char × Option (List Char) :=
  match arg.dropWhile (· != '=') with
  | [] => (arg, none)
  | _ :: value => (arg.takeWhile (· != '='), some value)

/-- The options of an argument that starts with a hyphen. -/
def readOption (flags : List Flag) (arg : List Char) : Option Reading :=
  let (name, attached) := attachedValue arg
  match flags.find? fun f => f.long.toList == name with
  | some flag => readLong flag attached
  | none =>
    match arg with
    | '-' :: '-' :: _ => none
    | _ => readShort flags (arg.drop 1)

def isOption (arg : String) : Bool :=
  match arg.toList with
  | '-' :: _ :: _ => true
  | _ => false

/-- Reads arguments; unless options may stand `between` other arguments, the first other argument
ends them. -/
def Arguments.read (flags : List Flag) (between : Bool) : List String → Option Arguments
  | [] => some {}
  | arg :: rest =>
    if arg == "--" then some { others := rest }
    else if isOption arg then
      match readOption flags arg.toList with
      | none => none
      | some ⟨complete, none⟩ => (read flags between rest).map (prepend complete)
      | some ⟨complete, some key⟩ =>
        match rest with
        | [] => none
        | value :: rest' =>
          (read flags between rest').map (prepend (complete ++ [(key, value)]))
    else if between then (read flags between rest).map fun a => { a with others := arg :: a.others }
    else some { others := arg :: rest }

example : Arguments.read [⟨"limit", "--limit", some 'n', true⟩, ⟨"json", "--json", some 'j', false⟩]
    true ["alu", "-jn5", "--limit=-1", "--", "-x"] =
      some ⟨[("json", ""), ("limit", "5"), ("limit", "-1")], ["alu", "-x"]⟩ := by decide +kernel

end RtlAtlas.Command
