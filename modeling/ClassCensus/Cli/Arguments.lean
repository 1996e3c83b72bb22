import ClassCensus.Text.Pieces

/-!
# Arguments of the command line

Arguments are read one after the other. An option takes its value from behind an equals sign or
from the next argument; nothing may be given twice, and there are no arguments besides options.
-/

namespace ClassCensus.Cli

/-- What the arguments say. -/
structure Arguments where
  classPath : String
  outDir : Option String
  /-- The classes to process, with colons between them. -/
  classList : Option String
  preTransform : Bool
  replaceExisting : Bool
  config : Option String
  json : Bool
  /-- The class whose calls are asked for. -/
  invocationsOf : Option String
  /-- The method whose calls are asked for. -/
  method : Option String
  /-- The package prefix of the usage index that is asked for. -/
  usageIndex : Option String
  allSignatures : Bool
  /-- The file and line whose method is asked for. -/
  resolveLine : Option String
deriving DecidableEq, Repr

/-- The options that take a value. -/
inductive ValueOption where
  | classPath
  | outDir
  | classList
  | config
  | invocationsOf
  | method
  | usageIndex
  | resolveLine
deriving DecidableEq, Repr

/-- The options that take no value. -/
inductive Switch where
  | preTransform
  | replaceExisting
  | json
  | allSignatures
deriving DecidableEq, Repr

/-- What an option asks for. -/
inductive OptionName where
  | value (o : ValueOption)
  | switch (s : Switch)
  | help
  | version
deriving DecidableEq, Repr

/-- The option with a long name. -/
def optionNamed? : String → Option OptionName
  | "class-path" => some (.value .classPath)
  | "scp" => some (.value .classPath)
  | "out-dir" => some (.value .outDir)
  | "od" => some (.value .outDir)
  | "class-list" => some (.value .classList)
  | "cl" => some (.value .classList)
  | "config" => some (.value .config)
  | "invocations-of" => some (.value .invocationsOf)
  | "method" => some (.value .method)
  | "usage-index" => some (.value .usageIndex)
  | "resolve-line" => some (.value .resolveLine)
  | "pre-transform" => some (.switch .preTransform)
  | "bpt" => some (.switch .preTransform)
  | "replace-existing" => some (.switch .replaceExisting)
  | "rej" => some (.switch .replaceExisting)
  | "json" => some (.switch .json)
  | "all-signatures" => some (.switch .allSignatures)
  | "help" => some .help
  | "version" => some .version
  | _ => none

/-- What has been given so far. -/
structure Given where
  values : List (ValueOption × String)
  switches : List Switch
deriving Repr

namespace Given

/-- The value of an option. -/
def value? (g : Given) (o : ValueOption) : Option String :=
  (g.values.find? fun row => row.1 = o).map (·.2)

/-- Whether a switch is given. -/
def has (g : Given) (s : Switch) : Bool := g.switches.contains s

end Given

/-- What is to be done. -/
inductive Request where
  | run (arguments : Arguments)
  | help
  | version
  /-- The arguments are not valid. -/
  | invalid (message : String)
deriving Repr

/-- The request of arguments that have all been read. A classpath has to be given, and with a
class whose calls are asked for a method. -/
def Given.request (g : Given) : Request :=
  match g.value? .classPath with
  | none => .invalid "the following required arguments were not provided: --class-path <DIR>"
  | some classPath =>
    if (g.value? .invocationsOf).isSome && (g.value? .method).isNone then
      .invalid "the following required arguments were not provided: --method <ID>"
    else
      .run {
        classPath
        outDir := g.value? .outDir
        classList := g.value? .classList
        preTransform := g.has .preTransform
        replaceExisting := g.has .replaceExisting
        config := g.value? .config
        json := g.has .json
        invocationsOf := g.value? .invocationsOf
        method := g.value? .method
        usageIndex := g.value? .usageIndex
        allSignatures := g.has .allSignatures
        resolveLine := g.value? .resolveLine }

/-- An argument, by its form. -/
inductive ArgumentForm where
  /-- `--name` or `--name=value` -/
  | long (name : String) (value : Option String)
  /-- Letters behind a single hyphen. -/
  | short (letters : List Char)
  /-- `--`, after which there are no options. -/
  | separator
  | plain
deriving DecidableEq, Repr

/-- The form of an argument. A hyphen alone is a plain argument. -/
def formOf (argument : String) : ArgumentForm :=
  match argument.toList with
  | ['-', '-'] => .separator
  | '-' :: '-' :: rest =>
    match Text.cutFirst '=' rest with
    | some (name, value) => .long (String.ofList name) (some (String.ofList value))
    | none => .long (String.ofList rest) none
  | '-' :: c :: rest => .short (c :: rest)
  | _ => .plain

/-- Reads arguments one after the other. -/
def readArguments (g : Given) : List String → Request
  | [] => g.request
  | argument :: rest =>
    match formOf argument with
    | .plain => .invalid "unexpected argument"
    | .separator => if rest = [] then g.request else .invalid "unexpected argument"
    | .short letters =>
      if letters.head? = some 'h' then .help
      else if letters.head? = some 'V' then .version
      else .invalid "unexpected argument"
    | .long name value =>
      match optionNamed? name, value, rest with
      | none, _, _ => .invalid "unexpected argument"
      | some .help, none, _ => .help
      | some .version, none, _ => .version
      | some (.switch s), none, rest =>
        if g.has s then .invalid "the argument cannot be used multiple times"
        else readArguments { g with switches := s :: g.switches } rest
      | some (.value o), some value, rest =>
        if (g.value? o).isSome then .invalid "the argument cannot be used multiple times"
        else readArguments { g with values := (o, value) :: g.values } rest
      | some (.value o), none, value :: rest =>
        if formOf value ≠ .plain then .invalid "a value is required"
        else if (g.value? o).isSome then .invalid "the argument cannot be used multiple times"
        else readArguments { g with values := (o, value) :: g.values } rest
      | some (.value _), none, [] => .invalid "a value is required"
      | _, some _, _ => .invalid "unexpected value"

/-- The request of a list of arguments. -/
def requestOf (arguments : List String) : Request := readArguments ⟨[], []⟩ arguments

end ClassCensus.Cli
