import ClassCensus.Fault
import ClassCensus.Partition
import ClassCensus.Pattern.Parser

/-!
# Conventions by pattern

A naming convention that a regular pattern gives: the names with a match are those of stack
variables.
-/

namespace ClassCensus

/-- The pattern that describes the names of the default engine. -/
def defaultStackPattern : String := "^(\\$|l\\d)"

/-- The setting that holds the pattern for stack variables, as errors name it. -/
def stackPatternSetting : Path := ⟨"classifier.stack_variable_pattern"⟩

/-- The convention that a pattern gives. -/
def conventionOfPattern (text : String) : Except CensusError NamingConvention :=
  match Pattern.parse? text with
  | some pattern => .ok pattern.isMatch
  | none => .error (.configuration stackPatternSetting "not a valid pattern")

/-- The convention that an optional pattern gives; without one, that of the default engine. -/
def conventionOf : Option String → Except CensusError NamingConvention
  | some text => conventionOfPattern text
  | none => .ok syntheticName

end ClassCensus
