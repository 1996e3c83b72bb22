import ClassCensus.Generation.Run
import ClassCensus.Snapshot.Load

/-!
# Analyses

A session together with what is fixed for its queries: the naming convention for stack variables
and the layout of the sources. Every query tells its events.
-/

namespace ClassCensus

/-- An open analysis. -/
structure Analysis (ε : Type) where
  session : Session ε
  isStack : NamingConvention
  layout : SourceLayout

namespace Analysis

variable {ε : Type} [ClassEngine ε]

/-- Opens an analysis with an engine. -/
def openWith (engine : ε) (transform : PreTransform) (isStack : NamingConvention)
    (layout : SourceLayout) : Attempt (Analysis ε) := do
  let session ← Session.openWith engine transform
  return ⟨session, isStack, layout⟩

/-- Opens an analysis of the snapshots of a classpath. -/
def openClasspath (classpath : Path) (transform : PreTransform) (isStack : NamingConvention)
    (layout : SourceLayout) : Attempt (Analysis SnapshotEngine) := do
  let engine ← SnapshotEngine.load classpath
  Analysis.openWith engine transform isStack layout

/-- The names of the application classes. -/
def applicationClasses (a : Analysis ε) : List String := a.session.applicationClasses

/-- Generates the artifacts of classes. -/
def generate (a : Analysis ε) (classNames : List String) (root : Path) (replace : Bool) :
    Attempt GenerationReport :=
  ClassCensus.generate a.session a.isStack classNames root replace

/-- The calls of a method. -/
def callSitesOf (a : Analysis ε) (className id : String) : Attempt (List CallSite) := do
  Attempt.ofJob (Job.tellAll (a.session.callSitesEvents className id))
  Attempt.ofExcept (a.session.callSitesOf className id)

/-- The usage index of classes with a package prefix. -/
def usageIndex (a : Analysis ε) (classNames : List String) (packagePrefix : String) :
    Job UsageIndex := do
  Job.tellAll (a.session.usageEvents classNames packagePrefix)
  return a.session.usageIndex classNames packagePrefix

/-- The signatures that are called from application classes with a package prefix. -/
def seenSignatures (a : Analysis ε) (packagePrefix : String) : Job OrderedSet := do
  Job.tellAll (a.session.usageEvents a.applicationClasses packagePrefix)
  return a.session.seenSignatures packagePrefix

/-- All declared and called signatures of classes. -/
def allSignatures (a : Analysis ε) (classNames : List String) :
    Job (OrderedSet × List String) := do
  Job.tellAll (a.session.signatureEvents classNames)
  return a.session.allSignatures classNames

/-- The method that encloses a line of a source file. -/
def methodAtLine (a : Analysis ε) (file : String) (line : UInt32) :
    Attempt (Option String) := do
  Attempt.ofJob (Job.tellAll (a.session.lookupEvents a.layout file line))
  Attempt.ofExcept (a.session.methodAtLine a.layout file line)

/-- Closes the analysis and hands its engine back. -/
def close (a : Analysis ε) : Job ε := a.session.close

end Analysis

end ClassCensus
