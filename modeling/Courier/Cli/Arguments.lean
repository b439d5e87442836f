import Courier.Cli.Options
import Courier.Text.Split

/-!
The arguments of the command line: a method and a target, and options before, between and behind
them.  A long name stands after two hyphens; short names stand after one, several of them together
if only the last takes a value.  A value stands in the same argument, after an equals sign or right
behind a short name, or it is the next argument, which must not begin with a hyphen.  After two
hyphens alone there are no options.

A value is judged only when the next option or the end is reached, so that a name that there is
not is noticed first.
-/

namespace Courier.Cli

/-- Why the arguments are no request. -/
inductive Stop
  | misuse (m : Misuse)
  /-- the help is asked for -/
  | help
  /-- the version is asked for -/
  | version
  deriving DecidableEq, Repr

/-- A field whose value is not judged yet. -/
inductive Pending
  | nothing
  /-- the value is to come -/
  | awaiting (f : Field)
  | filled (f : Field) (value : String)
  deriving DecidableEq, Repr

/-- Arguments as far as they are read. -/
structure Draft where
  options : Options := {}
  /-- the arguments that are no options -/
  plain : List String := []
  pending : Pending := .nothing
  /-- options can still come -/
  optional : Bool := true
  deriving DecidableEq, Repr

namespace Draft

/-- How many arguments there are that are no options. -/
def maxPlain : Nat := 2

def add (d : Draft) (f : Field) (value : String) : Except Stop Draft :=
  match d.options.add f value with
  | .ok options => .ok { d with options, pending := .nothing }
  | .error m => .error (.misuse m)

def settle (d : Draft) : Except Stop Draft :=
  match d.pending with
  | .nothing => .ok d
  | .awaiting _ => .error (.misuse .missingValue)
  | .filled f value => d.add f value

/-- The draft after a field, with its value if it is there. -/
def takeField (d : Draft) (f : Field) (value : Option String) : Except Stop Draft := do
  let d ← d.settle
  match value with
  | some v => d.add f v
  | none => return { d with pending := .awaiting f }

def takeSwitch (d : Draft) (s : Switch) : Except Stop Draft := do
  let d ← d.settle
  match s with
  | .help => .error .help
  | .version => .error .version
  | .verbose =>
    if d.options.verbose then .error (.misuse .repeated)
    else return { d with options := { d.options with verbose := true } }

/-- A long name and its value, if an equals sign stands between them. -/
def splitValue (cs : List Char) : String × Option String :=
  match Text.splitOnce '=' cs with
  | some (name, value) => (String.ofList name, some (String.ofList value))
  | none => (String.ofList cs, none)

/-- The draft after an argument with a long name. -/
def takeLong (d : Draft) (cs : List Char) : Except Stop Draft :=
  match OptionName.long.lookup (splitValue cs).1, (splitValue cs).2 with
  | none, _ => .error (.misuse .unknownArgument)
  | some (.switch _), some _ => .error (.misuse .needlessValue)
  | some (.switch s), none => d.takeSwitch s
  | some (.field f), value => d.takeField f value

/-- The value right behind a short name; an equals sign before it is left out. -/
def behind : List Char → Option String
  | [] => none
  | '=' :: cs => some (String.ofList cs)
  | cs => some (String.ofList cs)

/-- The draft after an argument with short names. -/
def takeShorts (d : Draft) : List Char → Except Stop Draft
  | [] => .ok d
  | c :: cs =>
    match OptionName.short.lookup c with
    | none => .error (.misuse .unknownArgument)
    | some (.field f) => d.takeField f (behind cs)
    | some (.switch s) =>
      match d.takeSwitch s with
      | .error e => .error e
      | .ok d => d.takeShorts cs

/-- The draft after an argument that is no option and no value. -/
def takePlain (d : Draft) (arg : String) : Except Stop Draft :=
  if d.plain.length < maxPlain then
    d.settle.map fun d => { d with plain := d.plain ++ [arg] }
  else .error (.misuse .unknownArgument)

/-- The draft after an argument that does not begin as an option. -/
def takeText (d : Draft) (arg : String) : Except Stop Draft :=
  match d.pending with
  | .awaiting f => .ok { d with pending := .filled f arg }
  | _ => d.takePlain arg

def take (d : Draft) (arg : String) : Except Stop Draft :=
  if d.optional then
    match arg.toList with
    | ['-', '-'] => .ok { d with optional := false }
    | '-' :: '-' :: cs => d.takeLong cs
    | ['-'] => d.takeText arg
    | '-' :: cs => d.takeShorts cs
    | _ => d.takeText arg
  else d.takePlain arg

end Draft

/-- A request asked for on the command line. -/
structure Arguments where
  method : String
  target : String
  options : Options
  deriving DecidableEq, Repr

namespace Arguments

/-- The arguments of a draft to which nothing comes any more. -/
def ofDraft (d : Draft) : Except Stop Arguments :=
  match d.settle with
  | .error e => .error e
  | .ok d =>
    match d.plain with
    | [method, target] => .ok ⟨method, target, d.options⟩
    | _ => .error (.misuse .missingArgument)

def parse (args : List String) : Except Stop Arguments := do
  ofDraft (← args.foldlM Draft.take {})

end Arguments

end Courier.Cli
