import ClassCensus.Cli.Arguments
import ClassCensus.Cli.LineSpec
import ClassCensus.Config
import ClassCensus.Snapshot.Load

/-!
# Settings of a run

What the arguments and the configuration file say together, and what keeps a run from
beginning.
-/

namespace ClassCensus.Cli

/-- What keeps a run from beginning. -/
inductive SetupError where
  | unreadableConfig (path : Path) (fault : DiskFault)
  | invalidConfig (path : Path)
  | missingConfig (path : Path)
  | invalidPattern (error : CensusError)
  | classpathHasNul
  | classpathNotDirectory (path : String)
  | outputHasNul
  | outputNotDirectory (path : String)
  | outputMissing
  | lineSpec (spec : String) (fault : LineSpecFault)
  | analysis (error : CensusError)
deriving DecidableEq, Repr

namespace SetupError

/-- The wording of an error and of its causes. -/
def chain : SetupError → List String
  | .unreadableConfig path fault => ["Failed to read " ++ path.text, fault.message]
  | .invalidConfig path => ["Invalid " ++ path.text, "not a valid configuration"]
  | .missingConfig path => ["Config file not found: " ++ path.text]
  | .invalidPattern error => "Invalid stack_variable_pattern" :: error.chain
  | .classpathHasNul => ["Classpath contains null bytes"]
  | .classpathNotDirectory path => ["Classpath is not a directory: " ++ path]
  | .outputHasNul => ["Output path contains null bytes"]
  | .outputNotDirectory path =>
    ["Output path exists and is not a directory: " ++ path ++ " (use --replace-existing)"]
  | .outputMissing => ["--out-dir is required to generate artifacts"]
  | .lineSpec spec fault => fault.chain spec
  | .analysis error => error.chain

/-- The wording in one line. -/
def message (e : SetupError) : String := Text.joinStrings ": " e.chain

end SetupError

/-- A job that may find that a run cannot begin. -/
abbrev Setup (α : Type) := ExceptT SetupError Job α

/-- The configuration in a file, if the file is there. -/
def loadConfig (path : Path) : Setup (Option Config) := do
  if !(← (pathExists path : Job Bool)) then return none
  match ← (readText path : Job (Except DiskFault String)) with
  | .error fault => throw (.unreadableConfig path fault)
  | .ok text =>
    match Config.parse? text with
    | none => throw (.invalidConfig path)
    | some config => return some config

/-- The configuration file that is read when no other one is named. -/
def defaultConfig : Path := ⟨"irmetrics.toml"⟩

/-- The configuration of a run. A file that is named has to be there. -/
def configOf : Option String → Setup Config
  | some name => do
    match ← loadConfig ⟨name⟩ with
    | some config => return config
    | none => throw (.missingConfig ⟨name⟩)
  | none => do return (← loadConfig defaultConfig).getD .empty

/-- What a run works with. -/
structure Settings where
  classPath : Path
  outDir : Option Path
  classList : Option (List String)
  preTransform : Bool
  replaceExisting : Bool
  json : Bool
  isStack : NamingConvention
  layout : SourceLayout

/-- The classes of a list with colons between them; blanks around them and empty entries do not
count. -/
def splitClassList (list : String) : List String :=
  ((Text.splitString ':' list).map Text.trimString).filter (· ≠ "")

/-- The classpath, which has to be a directory. -/
def checkClassPath (path : String) : Setup Path := do
  if path.toList.contains '\x00' then throw .classpathHasNul
  if ← (isDirectory ⟨path⟩ : Job Bool) then return ⟨path⟩
  else throw (.classpathNotDirectory path)

/-- The output root. A file in its place is only accepted when it will be replaced. -/
def checkOutDir (path : String) (replaceExisting : Bool) : Setup Path := do
  if path.toList.contains '\x00' then throw .outputHasNul
  let present ← (pathExists ⟨path⟩ : Job Bool)
  if present && !replaceExisting then
    if !(← (isDirectory ⟨path⟩ : Job Bool)) then throw (.outputNotDirectory path)
  return ⟨path⟩

/-- The settings of a run. What the arguments say goes before what the configuration says. -/
def settingsOf (arguments : Arguments) : Setup Settings := do
  let config ← configOf arguments.config
  let replaceExisting := arguments.replaceExisting || config.replaceExisting.getD false
  let classPath ← checkClassPath arguments.classPath
  let outDir ←
    match arguments.outDir with
    | some path => do pure (some (← checkOutDir path replaceExisting))
    | none => pure none
  let isStack ←
    match config.convention with
    | .ok isStack => pure isStack
    | .error error => throw (.invalidPattern error)
  return {
    classPath
    outDir
    classList :=
      match arguments.classList with
      | some list => some (splitClassList list)
      | none => config.classList
    preTransform := arguments.preTransform || config.preTransform.getD false
    replaceExisting
    json := arguments.json || config.wantsJson
    isStack
    layout := config.sourceLayout }

end ClassCensus.Cli
