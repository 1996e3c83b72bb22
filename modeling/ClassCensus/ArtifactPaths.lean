import ClassCensus.Path

/-!
# Where the artifacts of a class lie

The dump and the metrics file of a class lie below the output root, in a directory for each
package segment, and differ in their extension only.
-/

namespace ClassCensus

/-- The names that the segments of a class name become. -/
def segmentsOf (className : String) : List Octets :=
  (Text.splitString '.' className).map Text.bytesOf

/-- The places of the two artifacts of a class. -/
structure ArtifactPaths where
  /-- The dump. -/
  dump : Path
  /-- The metrics file. -/
  metrics : Path
deriving DecidableEq, Repr

namespace ArtifactPaths

/-- The extension of a dump. -/
def dumpExtension : Octets := "ir"

/-- The extension of a metrics file. -/
def metricsExtension : Octets := "json"

/-- The path that the segments of a class name lead to. -/
def base (root : Path) (className : String) : Path :=
  (segmentsOf className).foldl Path.push root

/-- The places of the artifacts of a class below an output root. -/
def ofClass (root : Path) (className : String) : ArtifactPaths :=
  let base := base root className
  { dump := base.withExtension dumpExtension
    metrics := base.withExtension metricsExtension }

/-- The directory of the artifacts. -/
def parent (paths : ArtifactPaths) : Option Path := paths.dump.parent

end ArtifactPaths

end ClassCensus
