import ClassCensus.ArtifactPaths
import ClassCensus.ClassRecord
import ClassCensus.Generation.Directory
import ClassCensus.Generation.Report
import ClassCensus.Session

/-!
# Generating artifacts

For every class of a list its dump and its metrics file are written below an output root. The
dump marks a pair as complete: it is put in place last, and where it is present the class is
skipped. Each file is written beside its place and then renamed, so that no reader sees half of
it.
-/

namespace ClassCensus

/-! ### Files -/

/-- The name of a temporary file for a file with a name. -/
def temporaryName (name : Octets) (stamp : Stamp) : Octets :=
  Text.bytesOf <|
    "." ++ Text.shown name ++ "." ++ toString stamp.process ++ "." ++ toString stamp.time ++ ".tmp"

/-- Gives a temporary file its place. If that fails the file is removed. -/
def moveInPlace (temporary path : Path) : Attempt Unit := do
  match ← Attempt.ofJob (Job.ofStep (.rename temporary path)) with
  | .ok () => return ()
  | .error f =>
    let _ ← Attempt.ofJob (Job.ofStep (.removeFile temporary))
    throw (.ofFault path f)

/-- Writes a file beside its place and renames it. -/
def writeInPlace (path : Path) (bytes : ByteArray) : Attempt Unit := do
  match path.parent with
  | none => throw (.file path (.stated "artifact path has no parent"))
  | some dir =>
    match path.fileName with
    | none => throw (.file path (.stated "artifact path has no file name"))
    | some name =>
      let stamp ← Attempt.ofJob (Job.ofStep .stamp)
      let temporary := dir.push (temporaryName name stamp)
      Attempt.atPath temporary (Job.ofStep (.write temporary bytes))
      moveInPlace temporary path

/-- Removes a metrics file that is left without its dump. -/
def discardOrphan (path : Path) : Job Unit := do
  match ← Job.ofStep (.removeFile path) with
  | .ok () => return ()
  | .error .notFound => return ()
  | .error f => Job.tell (.orphanMetrics path f)

/-- Writes the metrics file, then the dump. If the dump cannot be written the metrics file is
removed. -/
def writePair (paths : ArtifactPaths) (dump metrics : ByteArray) : Attempt Unit := do
  writeInPlace paths.metrics metrics
  tryCatch (writeInPlace paths.dump dump) fun error => do
    Attempt.ofJob (discardOrphan paths.metrics)
    throw error

/-! ### Events of records -/

/-- What is to be told when the methods of a class are recorded, after methods with the
sub-signatures in `seen`. -/
def recordEvents (className : String) (seen : List String) : List Method → List Event
  | [] => []
  | m :: rest =>
    let empty := if m.body.isNone then [Event.emptyMetrics m.signature] else []
    let duplicate :=
      if seen.contains m.subSignature then [Event.duplicateMethod className m.subSignature]
      else []
    empty ++ duplicate ++ recordEvents className (m.subSignature :: seen) rest

/-! ### Classes -/

/-- What became of a class without an error. -/
inductive ClassOutcome where
  | generated
  | skipped
deriving DecidableEq, Repr

variable {ε : Type} [ClassEngine ε]

/-- Whether the artifacts of a class are present and are to stay. -/
def isPresent (replace : Bool) (paths : ArtifactPaths) : Attempt Bool :=
  if replace then pure false else Attempt.ofJob (pathExists paths.dump)

/-- Makes the directory for artifacts. -/
def makeParent (paths : ArtifactPaths) : Attempt Unit :=
  match paths.parent with
  | some parent => Attempt.atPath parent (makeDirs parent)
  | none => pure ()

/-- Generates the artifacts of a class. -/
def generateArtifacts (session : Session ε) (isStack : NamingConvention) (paths : ArtifactPaths)
    (className : String) : Attempt Unit := do
  makeParent paths
  let c ← Attempt.ofExcept (session.resolve className)
  let dump ← Attempt.atPath paths.dump (ClassEngine.dump session.engine c)
  Attempt.ofJob (Job.tellAll (recordEvents c.name [] c.methods))
  let record := ClassRecord.ofClass isStack c
  writePair paths dump.toUTF8 record.toText.toUTF8
  Attempt.ofJob (Job.tell (.artifactsWritten className paths.dump))

/-- Generates the artifacts of a class, unless its dump is present and artifacts are not to be
replaced. -/
def generateClass (session : Session ε) (isStack : NamingConvention) (root : Path)
    (replace : Bool) (className : String) : Attempt ClassOutcome := do
  let paths := ArtifactPaths.ofClass root className
  if ← isPresent replace paths then
    Attempt.ofJob (Job.tell (.artifactsPresent className))
    return .skipped
  else
    generateArtifacts session isStack paths className
    return .generated

/-- Generates the artifacts of classes one after the other. An error that concerns one class
only is noted in the report; any other one ends the run. -/
def generateAll (session : Session ε) (isStack : NamingConvention) (root : Path)
    (replace : Bool) (report : GenerationReport) : List String → Attempt GenerationReport
  | [] => return report
  | className :: rest => do
    let outcome ← Attempt.ofJob (generateClass session isStack root replace className).run
    match outcome with
    | .ok .generated =>
      generateAll session isStack root replace (report.addGenerated className) rest
    | .ok .skipped =>
      generateAll session isStack root replace (report.addSkipped className) rest
    | .error error =>
      if error.isRecoverable then
        Attempt.ofJob (Job.tell (.generationFailed className error))
        generateAll session isStack root replace (report.addFailure className error) rest
      else
        Attempt.ofJob (Job.tell (.generationAborted className error))
        throw error

/-- Generates the artifacts of classes below an output root. If artifacts are to be replaced the
root is deleted first. -/
def generate (session : Session ε) (isStack : NamingConvention) (classNames : List String)
    (root : Path) (replace : Bool) : Attempt GenerationReport := do
  if replace then removeOutputRoot root
  Attempt.atPath root (makeDirs root)
  let report ← generateAll session isStack root replace .empty classNames
  Attempt.ofJob <| Job.tell <|
    .generationFinished report.total report.generated.length report.skipped.length
      report.failures.length root
  return report

end ClassCensus
