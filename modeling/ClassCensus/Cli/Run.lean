import ClassCensus.Analysis
import ClassCensus.Cli.Settings
import ClassCensus.Rendering

/-!
# Runs of the command line

What a run prints and with which status it ends, as a job on the disk. The status is 0 when all
went well, 1 when a class failed, and 2 when the run could not begin.
-/

namespace ClassCensus.Cli

/-- How a run ends. -/
structure Outcome where
  exit : Nat
  stdout : String
  stderr : String
deriving DecidableEq, Repr

namespace Outcome

/-- The end of a run that prints an answer. -/
def answered (text : String) (failed : Bool) : Outcome :=
  { exit := if failed then 1 else 0, stdout := text, stderr := "" }

/-- The end of a run that could not begin. -/
def refused (error : SetupError) : Outcome :=
  { exit := 2, stdout := "", stderr := "ERROR: " ++ error.message ++ "\n" }

/-- The end of a run whose arguments are not valid. -/
def misused (message : String) : Outcome :=
  { exit := 2, stdout := "", stderr := "error: " ++ message ++ "\n" }

end Outcome

/-! ### Reports of causes -/

/-- A number at the end of a field of five characters. -/
def padded (n : Nat) : String :=
  let digits := (toString n).toList
  String.ofList (List.replicate (5 - digits.length) ' ' ++ digits)

/-- A text with an indentation before each of its further lines. -/
def indented (indent text : String) : String :=
  Text.joinStrings ("\n" ++ indent) (Text.splitString '\n' text)

/-- Causes with their numbers, from a number on. -/
def numberedCauses (n : Nat) : List String → String
  | [] => ""
  | cause :: rest =>
    "\n" ++ padded n ++ ": " ++ indented "       " cause ++ numberedCauses (n + 1) rest

/-- The report of a failure and of its causes. Causes are numbered if there are several. -/
def causeReport (context : String) (causes : List String) : String :=
  let list :=
    match causes with
    | [cause] => "\n    " ++ indented "    " cause
    | causes => numberedCauses 0 causes
  "Error: " ++ context ++ "\n\nCaused by:" ++ list ++ "\n"

/-! ### Runs -/

/-- The name and version that are printed on request. -/
def versionText : String := "irmetrics-cli 0.1.0\n"

/-- The help that is printed on request. -/
def helpText : String :=
  concatAll [
    "IR dumps and per-class metrics for compiled Java classes\n\n",
    "Usage: irmetrics [OPTIONS] --class-path <DIR>\n\nOptions:\n",
    "      --class-path <DIR>         Directory of the class snapshots [alias: scp]\n",
    "      --out-dir <DIR>            Root of the generated artifacts [alias: od]\n",
    "      --class-list <CLASSES>     Classes to process, with colons between [alias: cl]\n",
    "      --pre-transform            Propagate line tags before the analysis [alias: bpt]\n",
    "      --replace-existing         Delete the output root first [alias: rej]\n",
    "      --config <FILE>            Configuration file\n",
    "      --json                     Answer in JSON\n",
    "      --invocations-of <CLASS>   List the calls of a method of this class\n",
    "      --method <ID>              The method for --invocations-of\n",
    "      --usage-index <PREFIX>     List the calls below this package prefix\n",
    "      --all-signatures           List all declared and called signatures\n",
    "      --resolve-line <FILE:LINE> Show the method that encloses a line\n",
    "  -h, --help                     Print help\n",
    "  -V, --version                  Print version\n"]

/-- A JSON answer as it is printed. -/
def jsonText (v : Json) : String := v.pretty "  " ++ "\n"

/-- An answer in the form that the settings ask for. -/
def answerText (settings : Settings) (json : Json) (plain : String) : String :=
  if settings.json then jsonText json else plain

variable {ε : Type} [ClassEngine ε]

/-- Closes an analysis and ends the run with an answer. -/
def finish (analysis : Analysis ε) (text : String) (failed : Bool) : Job Outcome := do
  let _ ← analysis.close
  return .answered text failed

/-- Ends the run with an error that became known while the analysis was open. -/
def refuse (analysis : Analysis ε) (error : SetupError) : Job Outcome := do
  let _ ← analysis.close
  return .refused error

/-- Ends the run after a query that failed. -/
def queryFailed (analysis : Analysis ε) (error : CensusError) : Job Outcome := do
  Job.tell (.remark .error ("Query failed: " ++ error.message))
  finish analysis "" true

/-- The classes to process. A requested class that is not an application class is remarked on,
and processed all the same. -/
def requestedClasses (analysis : Analysis ε) (classList : Option (List String)) :
    Job (List String) :=
  match classList with
  | none => return analysis.applicationClasses
  | some list => do
    let missing := list.filter fun c => !analysis.applicationClasses.contains c
    Job.tellAll <| missing.map fun c =>
      .remark .warn ("Requested class not on classpath: " ++ c)
    return list

/-- Answers which methods a method calls. -/
def runInvocations (settings : Settings) (analysis : Analysis ε) (className id : String) :
    Job Outcome := do
  match ← (analysis.callSitesOf className id).run with
  | .error error => queryFailed analysis error
  | .ok sites =>
    finish analysis (answerText settings (CallSite.listToJson sites) (renderCallSites sites))
      false

/-- Answers which methods are called from where. -/
def runUsageIndex (settings : Settings) (analysis : Analysis ε) (packagePrefix : String) :
    Job Outcome := do
  let classes ← requestedClasses analysis settings.classList
  let index ← analysis.usageIndex classes packagePrefix
  finish analysis (answerText settings index.toJson index.render) (index.unresolved ≠ [])

/-- Answers which signatures there are. -/
def runSignatures (settings : Settings) (analysis : Analysis ε) : Job Outcome := do
  let (signatures, unresolved) ← analysis.allSignatures analysis.applicationClasses
  let json : Json :=
    .record [("signatures", .texts signatures.toList), ("unresolved", .texts unresolved)]
  finish analysis (answerText settings json (renderSignatures signatures)) (unresolved ≠ [])

/-- Answers which method encloses a line. -/
def runLookup (settings : Settings) (analysis : Analysis ε) (spec : String) : Job Outcome := do
  match readLineSpec spec with
  | .error fault => refuse analysis (.lineSpec spec fault)
  | .ok (file, line) =>
    match ← (analysis.methodAtLine file line).run with
    | .error error => queryFailed analysis error
    | .ok method =>
      let text := answerText settings (lookupToJson file line method)
        (renderLookup file line method)
      finish analysis text false

/-- Generates artifacts. -/
def runGeneration (settings : Settings) (analysis : Analysis ε) : Job Outcome := do
  match settings.outDir with
  | none => refuse analysis .outputMissing
  | some root =>
    let classes ← requestedClasses analysis settings.classList
    match ← (analysis.generate classes root settings.replaceExisting).run with
    | .error error =>
      let context := "Failed to prepare output root: " ++ root.text
      return { exit := 1, stdout := "", stderr := causeReport context error.chain }
    | .ok report =>
      Job.tell <| .remark .info <|
        "Processed " ++ toString report.total ++ " classes: " ++
          toString report.generated.length ++ " generated, " ++
          toString report.skipped.length ++ " skipped, " ++
          toString report.failures.length ++ " failed"
      finish analysis (answerText settings report.toJson report.render) report.hasFailures

/-- Does what the arguments ask for, given an open analysis: the first query that they name, or
else a generation. -/
def runWith (arguments : Arguments) (settings : Settings) (analysis : Analysis ε) :
    Job Outcome :=
  match arguments.invocationsOf, arguments.method with
  | some className, some id => runInvocations settings analysis className id
  | _, _ =>
    match arguments.usageIndex with
    | some packagePrefix => runUsageIndex settings analysis packagePrefix
    | none =>
      if arguments.allSignatures then runSignatures settings analysis
      else
        match arguments.resolveLine with
        | some spec => runLookup settings analysis spec
        | none => runGeneration settings analysis

/-- Does what the arguments ask for. -/
def runArguments (arguments : Arguments) : Job Outcome := do
  match ← (settingsOf arguments).run with
  | .error error => return .refused error
  | .ok settings =>
    let transform := PreTransform.ofFlag settings.preTransform
    let opened :=
      Analysis.openClasspath settings.classPath transform settings.isStack settings.layout
    match ← opened.run with
    | .error error => return .refused (.analysis error)
    | .ok analysis => runWith arguments settings analysis

/-- The whole run. -/
def run (arguments : List String) : Job Outcome :=
  match requestOf arguments with
  | .help => return { exit := 0, stdout := helpText, stderr := "" }
  | .version => return { exit := 0, stdout := versionText, stderr := "" }
  | .invalid message => return .misused message
  | .run arguments => runArguments arguments

end ClassCensus.Cli
