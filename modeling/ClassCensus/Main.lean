import ClassCensus.Cli.Run

/-!
# The program

The command line on a real disk: every step of the job that the arguments ask for is done by the
operating system, then the outcome is printed. Nothing is decided here.
-/

namespace ClassCensus.Program

/-- The number and the wording that the operating system gives an error. -/
def codeOf? : IO.Error → Option (UInt32 × String)
  | .alreadyExists _ code details => some (code, details)
  | .otherError code details => some (code, details)
  | .resourceBusy code details => some (code, details)
  | .resourceVanished code details => some (code, details)
  | .unsupportedOperation code details => some (code, details)
  | .hardwareFault code details => some (code, details)
  | .unsatisfiedConstraints code details => some (code, details)
  | .illegalOperation code details => some (code, details)
  | .protocolError code details => some (code, details)
  | .timeExpired code details => some (code, details)
  | .interrupted _ code details => some (code, details)
  | .noFileOrDirectory _ code details => some (code, details)
  | .invalidArgument _ code details => some (code, details)
  | .permissionDenied _ code details => some (code, details)
  | .resourceExhausted _ code details => some (code, details)
  | .inappropriateType _ code details => some (code, details)
  | .noSuchThing _ code details => some (code, details)
  | .unexpectedEof => none
  | .userError _ => none

/-- The faults that have a number. -/
def numberedFaults : List (UInt32 × DiskFault) :=
  [(2, .notFound), (16, .busy), (17, .exists), (20, .notDirectory), (21, .isDirectory),
    (22, .invalid), (36, .nameTooLong), (39, .notEmpty), (40, .tooManyLinks)]

/-- An error of the operating system as a fault. Its number may come with the opposite sign. -/
def faultOf (e : IO.Error) : DiskFault :=
  match codeOf? e with
  | none => .other (toString e)
  | some (code, details) =>
    let code := if code < 0x80000000 then code else 0 - code
    match numberedFaults.find? fun row => row.1 = code with
    | some (_, f) => f
    | none => .other (details ++ " (os error " ++ toString code ++ ")")

/-- The result of an action, or the fault that it ends with. -/
def attempt {α : Type} (action : IO α) : IO (Except DiskFault α) := do
  match ← action.toBaseIO with
  | .ok a => return .ok a
  | .error e => return .error (faultOf e)

/-- A kind of entries. What is neither a directory nor a file is never looked into, like a
link. -/
def kindOf : IO.FS.FileType → EntryKind
  | .dir => .directory
  | .file => .file
  | _ => .link

/-- What lies below a directory, with names as seen from where the listing began. -/
partial def listBelow (dir : IO.FS.DirEntry) (location : Location) :
    IO (List (Location × EntryKind)) := do
  let mut found := []
  for entry in ← dir.path.readDir do
    let location := location ++ [Text.bytesOf entry.fileName]
    let kind := kindOf (← entry.path.symlinkMetadata).type
    let below ← if kind = .directory then listBelow entry location else pure []
    found := found ++ (location, kind) :: below
  return found

/-- Removes everything below a directory. -/
partial def emptyDir (dir : IO.FS.DirEntry) : IO Unit := do
  for entry in ← dir.path.readDir do
    match kindOf (← entry.path.symlinkMetadata).type with
    | .directory =>
      emptyDir entry
      IO.FS.removeDir entry.path
    | _ => IO.FS.removeFile entry.path

/-- Removes a directory with everything below it. Nothing is wrong if its path leads nowhere when
what is in it has gone. -/
def removeTree (path : Path) : IO Unit := do
  emptyDir ⟨← IO.FS.realPath path.text, ""⟩
  try IO.FS.removeDir path.text
  catch e => if faultOf e ≠ .notFound then throw e

/-- A directory as the entry without a name that it has in itself. -/
def entryOf (path : Path) : IO.FS.DirEntry := ⟨path.text, ""⟩

/-- The least urgent level of events that are shown. -/
def shownLevel : Level := .error

/-- An event in one line. -/
def lineOf (event : Event) : String :=
  (Json.record [("level", .text event.level.name), ("fields", .record event.fields)]).compact

/-- Does a step. -/
def perform : (s : Step) → IO s.Answer
  | .status path => attempt do
    return kindOf (← (entryOf path).root.metadata).type
  | .linkStatus path => attempt do
    return kindOf (← (entryOf path).root.symlinkMetadata).type
  | .read path => attempt (IO.FS.readBinFile path.text)
  | .list path => attempt do
    let top := entryOf path
    let kind := kindOf (← top.root.symlinkMetadata).type
    let below ←
      if (← top.root.metadata).type == .dir then listBelow top [] else pure []
    return ([], kind) :: below
  | .makeDir path => attempt (IO.FS.createDir path.text)
  | .write path bytes => attempt (IO.FS.writeBinFile path.text bytes)
  | .rename path new => attempt (IO.FS.rename path.text new.text)
  | .removeFile path => attempt (IO.FS.removeFile path.text)
  | .removeTree path => attempt (removeTree path)
  | .stamp => do return ⟨← IO.rand 1 99999, ← IO.monoNanosNow⟩
  | .record event => do
    if event.level.shownAt shownLevel then IO.eprintln (lineOf event)

/-- Does all steps of a job. -/
def complete {α : Type} : Job α → IO α
  | .done a => return a
  | .step s next => do complete (next (← perform s))

end ClassCensus.Program

/-- Does what the arguments ask for and ends with the status of the outcome. -/
def main (args : List String) : IO UInt32 := do
  let outcome ← ClassCensus.Program.complete (ClassCensus.Cli.run args)
  IO.print outcome.stdout
  IO.eprint outcome.stderr
  return UInt32.ofNat outcome.exit
