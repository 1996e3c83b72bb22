import ClassCensus.Generation.Report
import ClassCensus.UsageIndex

/-!
# Answers as plain text

How reports and the answers to queries are shown to a reader: a headline, then one line for each
entry. An unknown line or caller is shown as a question mark.
-/

namespace ClassCensus

/-- Texts one after another. -/
def concatAll (texts : List String) : String := Text.joinStrings "" texts

/-- The line of a call as it is shown. -/
def CallSite.shownLine (s : CallSite) : String :=
  if s.hasLine then toString s.line.toInt else "?"

/-- The report of a generation. -/
def GenerationReport.render (r : GenerationReport) : String :=
  let headline :=
    "GENERATED " ++ toString r.generated.length ++ " | SKIPPED " ++ toString r.skipped.length ++
      " | FAILED " ++ toString r.failures.length ++ "\n"
  let line (f : GenerationFailure) := "- " ++ f.className ++ ": " ++ f.error.message ++ "\n"
  headline ++ concatAll (r.failures.map line)

/-- The calls of a method. -/
def renderCallSites (sites : List CallSite) : String :=
  if sites = [] then "No invocations found.\n"
  else
    let line (s : CallSite) := "- line " ++ s.shownLine ++ ": " ++ s.callee ++ "\n"
    "INVOCATIONS (" ++ toString sites.length ++ "):\n" ++ concatAll (sites.map line)

/-- The usage index. -/
def UsageIndex.render (index : UsageIndex) : String :=
  let headline :=
    "CALLEES (" ++ toString index.usages.size ++ ") | CALL SITES (" ++
      toString index.callSiteCount ++ "):\n"
  let line (s : CallSite) := "    " ++ s.caller.getD "?" ++ " (line " ++ s.shownLine ++ ")\n"
  let callee (entry : String × List CallSite) := entry.1 ++ "\n" ++ concatAll (entry.2.map line)
  headline ++ concatAll (index.usages.entries.map callee) ++
    concatAll (index.unresolved.map fun c => "! unresolved: " ++ c ++ "\n")

/-- A set of signatures. -/
def renderSignatures (signatures : OrderedSet) : String :=
  "SIGNATURES (" ++ toString signatures.size ++ "):\n" ++
    concatAll (signatures.toList.map fun s => "- " ++ s ++ "\n")

/-- The answer to a line lookup. -/
def renderLookup (file : String) (line : UInt32) (method : Option String) : String :=
  file ++ ":" ++ toString line.toNat ++ " -> " ++ method.getD "no enclosing method" ++ "\n"

/-- The answer to a line lookup as a JSON object. -/
def lookupToJson (file : String) (line : UInt32) (method : Option String) : Json :=
  .record [("line", .nat line.toNat), ("method", .optional .text method),
    ("sourceFile", .text file)]

end ClassCensus
