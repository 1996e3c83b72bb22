import ClassCensus.Fault
import ClassCensus.Json.Basic

/-!
# Events

What an analysis reports about its progress, apart from its result. Every event has a level, and
its fields are a message and the facts that belong to it.
-/

namespace ClassCensus

/-- How much an event matters. -/
inductive Level where
  | error
  | warn
  | info
  | debug
  | trace
deriving DecidableEq, Repr

namespace Level

/-- The place of a level, the most urgent first. -/
def rank : Level → Nat
  | .error => 0
  | .warn => 1
  | .info => 2
  | .debug => 3
  | .trace => 4

/-- Whether events of a level are shown when `limit` is the least urgent level that is. -/
def shownAt (level limit : Level) : Bool := level.rank ≤ limit.rank

/-- The name of a level. -/
def name : Level → String
  | .error => "ERROR"
  | .warn => "WARN"
  | .info => "INFO"
  | .debug => "DEBUG"
  | .trace => "TRACE"

/-- The level with a name in lower case. -/
def named? : String → Option Level
  | "error" => some .error
  | "warn" => some .warn
  | "info" => some .info
  | "debug" => some .debug
  | "trace" => some .trace
  | _ => none

end Level

/-- An event of an analysis. -/
inductive Event where
  /-- A class that was given twice; the later one is dropped. -/
  | duplicateClass (className : String)
  /-- A snapshot whose place says another class name. -/
  | misplacedSnapshot (file : Path) (declared : String)
  | snapshotsLoaded (classpath : Path) (classes : Nat)
  | linesPropagated (statements : Nat)
  | sessionOpened (engine : String) (classes : Nat) (preTransform : String)
  | sessionClosed (engine : String)
  /-- A method without a body, so that it has no call sites. -/
  | noCallSites (method : String)
  /-- A method without a body, so that its metrics are empty. -/
  | emptyMetrics (method : String)
  /-- A method with the sub-signature of an earlier one, whose metrics it replaces. -/
  | duplicateMethod (className method : String)
  /-- A class that the usage index leaves out. -/
  | classSkipped (className : String) (error : CensusError)
  /-- A method without a body that ends a line lookup. -/
  | lookupStopped (className : String) (line : UInt32) (method : String)
  | artifactsPresent (className : String)
  | artifactsWritten (className : String) (dump : Path)
  | generationAborted (className : String) (error : CensusError)
  | generationFailed (className : String) (error : CensusError)
  | orphanMetrics (path : Path) (fault : DiskFault)
  | artifactsRemoved (output : Path)
  | generationFinished (total generated skipped failed : Nat) (output : Path)
  /-- A remark of the command line. -/
  | remark (level : Level) (detail : String)
deriving DecidableEq, Repr

namespace Event

/-- The level of an event. -/
def level : Event → Level
  | .duplicateClass _ => .warn
  | .misplacedSnapshot _ _ => .warn
  | .snapshotsLoaded _ _ => .debug
  | .linesPropagated _ => .debug
  | .sessionOpened _ _ _ => .info
  | .sessionClosed _ => .debug
  | .noCallSites _ => .warn
  | .emptyMetrics _ => .warn
  | .duplicateMethod _ _ => .warn
  | .classSkipped _ _ => .warn
  | .lookupStopped _ _ _ => .warn
  | .artifactsPresent _ => .debug
  | .artifactsWritten _ _ => .debug
  | .generationAborted _ _ => .error
  | .generationFailed _ _ => .error
  | .orphanMetrics _ _ => .error
  | .artifactsRemoved _ => .info
  | .generationFinished _ _ _ _ _ => .info
  | .remark level _ => level

/-- The error that stands for a method without a body. -/
def bodyless (method : String) : Json := .text (CensusError.bodyUnavailable method).message

/-- The fields of an event. -/
def fields : Event → List (String × Json)
  | .duplicateClass className =>
    [("message", .text "duplicate class snapshot ignored"), ("class", .text className)]
  | .misplacedSnapshot file declared =>
    [("message", .text "snapshot location does not match declared class name"),
      ("file", .text file), ("declared", .text declared)]
  | .snapshotsLoaded classpath classes =>
    [("message", .text "class snapshots loaded"), ("classpath", .text classpath),
      ("classes", .nat classes)]
  | .linesPropagated statements =>
    [("message", .text "line tags propagated"), ("statements", .nat statements)]
  | .sessionOpened engine classes preTransform =>
    [("message", .text "analysis session opened"), ("engine", .text engine),
      ("classes", .nat classes), ("pre_transform", .text preTransform)]
  | .sessionClosed engine =>
    [("message", .text "analysis session closed"), ("engine", .text engine)]
  | .noCallSites method =>
    [("message", .text "no call sites extracted"), ("error", bodyless method)]
  | .emptyMetrics method =>
    [("message", .text "recording empty metrics"), ("error", bodyless method)]
  | .duplicateMethod className method =>
    [("message", .text "duplicate sub-signature, later declaration wins"),
      ("class", .text className), ("method", .text method)]
  | .classSkipped className error =>
    [("message", .text "class skipped in usage index"), ("class", .text className),
      ("error", .text error.message)]
  | .lookupStopped className line method =>
    [("message", .text "line resolution stopped"), ("class", .text className),
      ("line", .nat line.toNat), ("error", bodyless method)]
  | .artifactsPresent className =>
    [("message", .text "artifacts present, skipping"), ("class", .text className)]
  | .artifactsWritten className dump =>
    [("message", .text "artifacts written"), ("class", .text className), ("ir", .text dump)]
  | .generationAborted className error =>
    [("message", .text "artifact generation aborted"), ("class", .text className),
      ("error", .text error.message)]
  | .generationFailed className error =>
    [("message", .text "artifact generation failed"), ("class", .text className),
      ("error", .text error.message)]
  | .orphanMetrics path fault =>
    [("message", .text "metrics file left without its IR dump"), ("path", .text path),
      ("error", .text fault.message)]
  | .artifactsRemoved output =>
    [("message", .text "existing artifacts removed"), ("output", .text output.text)]
  | .generationFinished total generated skipped failed output =>
    [("message", .text "artifact generation finished"), ("total", .nat total),
      ("generated", .nat generated), ("skipped", .nat skipped), ("failed", .nat failed),
      ("output", .text output.text)]
  | .remark _ detail => [("detail", .text detail)]

end Event

end ClassCensus
