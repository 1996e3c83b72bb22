import ClassCensus.CallSite
import ClassCensus.Engine.Basic
import ClassCensus.LineTags
import ClassCensus.SourceLayout
import ClassCensus.UsageIndex

/-!
# Sessions

A session owns an engine for one analysis. It resets the engine when it is opened, applies a
transform to the classes, and resets it again when it is closed, so that nothing of one session
is left in the next one.
-/

namespace ClassCensus

/-! ### Transforms -/

/-- What a transform does: it changes one class after the other, and may look at each before it
goes on. -/
inductive Preparation where
  /-- Nothing more, but events to tell. -/
  | done (events : List Event)
  | fail (error : CensusError)
  /-- Changes the class with a name, then goes on with the class as it was, or with the error of
  the engine. -/
  | edit (className : String) (change : ClassDef → ClassDef)
      (next : Except CensusError ClassDef → Preparation)

namespace Preparation

/-- The engine after a preparation, and what is to be told. -/
def run {ε : Type} [ClassEngine ε] : Preparation → ε → Except CensusError (ε × List Event)
  | .done events, e => .ok (e, events)
  | .fail error, _ => .error error
  | .edit className change next, e =>
    match ClassEngine.edit e className change with
    | .ok changed => (next (ClassEngine.resolve e className)).run changed
    | .error error => (next (.error error)).run e

/-- Propagates line tags through classes, one after the other; `count` statements have been
given a tag before. -/
def propagateLines (count : Nat) : List String → Preparation
  | [] => .done [.linesPropagated count]
  | className :: rest =>
    .edit className ClassDef.propagateLines fun
      | .ok c => propagateLines (count + c.retagged) rest
      | .error error => .fail error

/-- Puts classes in the place of those with the same names, then goes on. -/
def replace (last : Preparation) : List ClassDef → Preparation
  | [] => last
  | c :: rest =>
    .edit c.name (fun _ => c) fun
      | .ok _ => replace last rest
      | .error error => .fail error

end Preparation

/-- A transform that is applied when a session is opened. -/
structure PreTransform where
  name : String
  /-- What is done, given the names of the application classes. -/
  prepare : List String → Preparation

namespace PreTransform

/-- The transform that changes nothing. -/
def none : PreTransform := { name := "none", prepare := fun _ => .done [] }

/-- The transform that propagates line tags. -/
def lineTags : PreTransform :=
  { name := "line-tag-propagation", prepare := Preparation.propagateLines 0 }

/-- Line tags are propagated or not. -/
def ofFlag (enabled : Bool) : PreTransform := if enabled then lineTags else none

end PreTransform

/-! ### Sessions -/

/-- An open session. -/
structure Session (ε : Type) where
  engine : ε
  /-- The names of the application classes in the order of the engine. -/
  applicationClasses : List String
  /-- The name of the transform that was applied. -/
  preTransform : String

namespace Session

variable {ε : Type} [ClassEngine ε]

/-- Opens a session, and says what is to be told. -/
def opened (engine : ε) (transform : PreTransform) :
    Except CensusError (Session ε × List Event) := do
  let engine := ClassEngine.reset engine
  let names := ClassEngine.classNames engine
  let (engine, events) ← (transform.prepare names).run engine
  let event := Event.sessionOpened (ClassEngine.name engine) names.length transform.name
  return (⟨engine, names, transform.name⟩, events ++ [event])

/-- Opens a session. -/
def openWith (engine : ε) (transform : PreTransform) : Attempt (Session ε) := do
  let (session, events) ← Attempt.ofExcept (opened engine transform)
  Attempt.ofJob (Job.tellAll events)
  return session

/-- The engine of a session that is closed. -/
def released (s : Session ε) : ε := ClassEngine.reset s.engine

/-- Closes a session and hands its engine back. -/
def close (s : Session ε) : Job ε := do
  let engine := s.released
  Job.tell (.sessionClosed (ClassEngine.name engine))
  return engine

/-- The class with a name. -/
def resolve (s : Session ε) (className : String) : Except CensusError ClassDef :=
  ClassEngine.resolve s.engine className

/-- A session in one line: its engine, how many classes it has, and its transform. -/
def describe (s : Session ε) : String :=
  "AnalysisSession \x7b engine: \"" ++ ClassEngine.name s.engine ++
    "\", application_classes: " ++ toString s.applicationClasses.length ++
    ", pre_transform: \"" ++ s.preTransform ++ "\" \x7d"

/-! ### Queries over many classes -/

/-- The classes that can be resolved, in order. -/
def resolvable (s : Session ε) (classNames : List String) : List ClassDef :=
  classNames.filterMap fun n => (s.resolve n).toOption

/-- The names that cannot be resolved, in order. -/
def unresolved (s : Session ε) (classNames : List String) : List String :=
  classNames.filter fun n => (s.resolve n).toOption.isNone

/-- What is to be told of classes that cannot be resolved. -/
def skippedEvents (s : Session ε) (classNames : List String) : List Event :=
  classNames.filterMap fun n =>
    match s.resolve n with
    | .ok _ => none
    | .error error => some (.classSkipped n error)

/-- The usage index of the classes with a package prefix. -/
def usageIndex (s : Session ε) (classNames : List String) (packagePrefix : String) :
    UsageIndex :=
  UsageIndex.ofClasses packagePrefix (s.resolvable classNames) (s.unresolved classNames)

/-- The signatures that are called from application classes with a package prefix. -/
def seenSignatures (s : Session ε) (packagePrefix : String) : OrderedSet :=
  (s.usageIndex s.applicationClasses packagePrefix).signatures

/-- All declared and called signatures of classes, and the names that cannot be resolved. -/
def allSignatures (s : Session ε) (classNames : List String) : OrderedSet × List String :=
  (signaturesOf (s.resolvable classNames), s.unresolved classNames)

end Session

/-! ### Events of extractions -/

/-- What is to be told when the call sites of a method are extracted. -/
def Method.callSiteEvents (m : Method) : List Event :=
  if m.body.isNone then [.noCallSites m.signature] else []

/-- What is to be told when the call sites of a class are extracted. -/
def ClassDef.callSiteEvents (c : ClassDef) : List Event :=
  c.methods.flatMap Method.callSiteEvents

namespace Session

variable {ε : Type} [ClassEngine ε]

/-- What is to be told when a usage index is built. -/
def usageEvents (s : Session ε) (classNames : List String) (packagePrefix : String) :
    List Event :=
  s.skippedEvents classNames ++
    ((s.resolvable classNames).filter (UsageIndex.selects packagePrefix)).flatMap
      ClassDef.callSiteEvents

/-- What is to be told when all signatures are listed. -/
def signatureEvents (s : Session ε) (classNames : List String) : List Event :=
  s.skippedEvents classNames ++ (s.resolvable classNames).flatMap ClassDef.callSiteEvents

/-! ### Queries about one class -/

/-- The calls of the method of a class that an identifier names. -/
def callSitesOf (s : Session ε) (className id : String) :
    Except CensusError (List CallSite) := do
  return (← s.resolve className).callSitesOf id

/-- What is to be told when the calls of a method are asked for. -/
def callSitesEvents (s : Session ε) (className id : String) : List Event :=
  match s.resolve className with
  | .ok c =>
    match c.method? id with
    | some m => m.callSiteEvents
    | none => []
  | .error _ => []

end Session

/-! ### Lines -/

/-- The first method that covers a line, among those before the first method without a body;
and that method if it ends the search. -/
def lookupIn (line : UInt32) : List Method → Option Method × Option Method
  | [] => (none, none)
  | m :: rest =>
    if m.body.isNone then (none, some m)
    else if m.coversLine line then (some m, none)
    else lookupIn line rest

/-- The method of a class that encloses a line. -/
def ClassDef.methodAtLine (c : ClassDef) (line : UInt32) : Option Method :=
  (lookupIn line c.methods).1

namespace Session

variable {ε : Type} [ClassEngine ε]

/-- The signature of the method that encloses a line of a source file. -/
def methodAtLine (s : Session ε) (layout : SourceLayout) (file : String) (line : UInt32) :
    Except CensusError (Option String) := do
  let c ← s.resolve (layout.className file)
  return (c.methodAtLine line).map Method.signature

/-- What is to be told when a line is looked up. -/
def lookupEvents (s : Session ε) (layout : SourceLayout) (file : String) (line : UInt32) :
    List Event :=
  match s.resolve (layout.className file) with
  | .ok c =>
    match (lookupIn line c.methods).2 with
    | some m => [.lookupStopped (layout.className file) line m.signature]
    | none => []
  | .error _ => []

end Session

end ClassCensus
