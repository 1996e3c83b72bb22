import ClassCensus.Fault
import ClassCensus.Json.Basic

/-!
# The outcome of a generation

Which classes were generated, which were skipped, and which failed for what reason.
-/

namespace ClassCensus

/-- A class whose artifacts could not be generated, and why. -/
structure GenerationFailure where
  className : String
  error : CensusError
deriving DecidableEq, Repr

/-- The outcome of a generation, class by class. -/
structure GenerationReport where
  generated : List String
  skipped : List String
  failures : List GenerationFailure
deriving DecidableEq, Repr

namespace GenerationReport

/-- The report of a generation that has not begun. -/
def empty : GenerationReport := ⟨[], [], []⟩

instance : Inhabited GenerationReport := ⟨empty⟩

/-- Whether some class failed. -/
def hasFailures (r : GenerationReport) : Bool := r.failures ≠ []

/-- The number of classes in the report. -/
def total (r : GenerationReport) : Nat :=
  r.generated.length + r.skipped.length + r.failures.length

/-- The report with one more generated class. -/
def addGenerated (r : GenerationReport) (className : String) : GenerationReport :=
  { r with generated := r.generated ++ [className] }

/-- The report with one more skipped class. -/
def addSkipped (r : GenerationReport) (className : String) : GenerationReport :=
  { r with skipped := r.skipped ++ [className] }

/-- The report with one more failed class. -/
def addFailure (r : GenerationReport) (className : String) (error : CensusError) :
    GenerationReport :=
  { r with failures := r.failures ++ [⟨className, error⟩] }

/-- The report as a JSON object, with the wording of each error. -/
def toJson (r : GenerationReport) : Json :=
  let failure (f : GenerationFailure) : Json :=
    .record [("className", .text f.className), ("error", .text f.error.message)]
  .record [("generated", .texts r.generated), ("skipped", .texts r.skipped),
    ("failures", .list failure r.failures)]

end GenerationReport

end ClassCensus
