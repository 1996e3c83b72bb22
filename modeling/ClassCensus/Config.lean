import ClassCensus.Pattern.Convention
import ClassCensus.SourceLayout
import ClassCensus.Toml.Parser

/-!
# Configuration

The settings of a configuration file. Every setting may be missing, and settings with unknown
names are ignored. A group of settings is a table, or an array with all of its settings in
order.
-/

namespace ClassCensus

/-- The settings of the group `lines`. -/
structure LineSettings where
  sourceRoots : Option (List String)
  extensions : Option (List String)
deriving DecidableEq, Repr, Inhabited

/-- The settings of a configuration file. The group `classifier` holds the pattern for stack
variables, the group `output` the format of answers. -/
structure Config where
  /-- The classes to generate. -/
  classList : Option (List String)
  /-- Whether line tags are propagated. -/
  preTransform : Option Bool
  /-- Whether the output root is deleted before a generation. -/
  replaceExisting : Option Bool
  classifier : Option (Option String)
  lines : Option LineSettings
  output : Option (Option String)
deriving DecidableEq, Repr

namespace Config

/-- The configuration without settings. -/
def empty : Config := ⟨none, none, none, none, none, none⟩

instance : Inhabited Config := ⟨empty⟩

/-! ### Decoding -/

/-- A string. -/
def text? : Toml → Option String
  | .string s => some s
  | _ => none

/-- A truth value. -/
def bool? : Toml → Option Bool
  | .boolean b => some b
  | _ => none

/-- A list of strings. -/
def texts? : Toml → Option (List String)
  | .array items => items.mapM text?
  | _ => none

/-- A setting that may be missing from a table. -/
def setting? {α : Type} (decode : Toml → Option α) (key : String) (entries : Toml.Entries) :
    Option (Option α) :=
  match Toml.find? key entries with
  | some v => (decode v).map some
  | none => some none

/-- The items of an array under the names of the settings in order; surplus ones are ignored, but
none may be missing. -/
def named? (names : List String) (items : List Toml) : Option Toml.Entries :=
  if names.length ≤ items.length then some (names.zip items) else none

/-- The entries of a group of settings with these names. A date counts as a group without
settings. -/
def group? (names : List String) : Toml → Option Toml.Entries
  | .table _ entries => some entries
  | .array items => named? names items
  | .dateTime _ => some []
  | _ => none

/-- The group `classifier`. -/
def classifier? (v : Toml) : Option (Option String) := do
  setting? text? "stack_variable_pattern" (← group? ["stack_variable_pattern"] v)

/-- The group `lines`. -/
def lines? (v : Toml) : Option LineSettings := do
  let entries ← group? ["source_roots", "extensions"] v
  return {
    sourceRoots := ← setting? texts? "source_roots" entries
    extensions := ← setting? texts? "extensions" entries }

/-- The group `output`. -/
def output? (v : Toml) : Option (Option String) := do
  setting? text? "format" (← group? ["format"] v)

/-- The configuration that the entries of a document describe. -/
def ofEntries? (entries : Toml.Entries) : Option Config := do
  return {
    classList := ← setting? texts? "class_list" entries
    preTransform := ← setting? bool? "pre_transform" entries
    replaceExisting := ← setting? bool? "replace_existing" entries
    classifier := ← setting? classifier? "classifier" entries
    lines := ← setting? lines? "lines" entries
    output := ← setting? output? "output" entries }

/-- The configuration that a text describes. -/
def parse? (text : String) : Option Config := do
  let entries ← Toml.parse? text
  ofEntries? entries

/-! ### What the settings mean -/

/-- The pattern for stack variables. -/
def stackPattern (c : Config) : Option String := c.classifier.join

/-- The naming convention, that of the default engine unless a pattern is set. -/
def convention (c : Config) : Except CensusError NamingConvention := conventionOf c.stackPattern

/-- An extension without the dots before it. -/
def bareExtension (ext : String) : String := String.ofList (ext.toList.dropWhile (· = '.'))

/-- The source layout, with the settings that replace its parts. -/
def sourceLayout (c : Config) : SourceLayout :=
  let roots := c.lines.bind (·.sourceRoots)
  let extensions := c.lines.bind (·.extensions)
  { sourceRoots := roots.getD SourceLayout.default.sourceRoots
    extensions := (extensions.map fun es => es.map bareExtension).getD
      SourceLayout.default.extensions }

/-- The format of answers. -/
def format (c : Config) : Option String := c.output.join

/-- Whether answers are to be JSON; the letters of ASCII count in either case. -/
def wantsJson (c : Config) : Bool :=
  match c.format with
  | some format => format.toList.map Char.toLower = ['j', 's', 'o', 'n']
  | none => false

end Config

end ClassCensus
