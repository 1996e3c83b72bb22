import ClassCensus.Path

/-!
# Errors

What can go wrong on a disk, and what can go wrong in an analysis. An error is its cause; the
wording is in one function for each of the two types.
-/

namespace ClassCensus

/-! ### Faults of a disk -/

/-- Why an operation on a disk fails. -/
inductive DiskFault where
  | notFound
  | exists
  | notDirectory
  | isDirectory
  | nameTooLong
  | notEmpty
  | busy
  | tooManyLinks
  | invalid
  /-- A name with the character that ends names on the disk. -/
  | nulInName
  /-- The bytes of a file are not those of a text. -/
  | notText
  | other (message : String)
deriving DecidableEq, Repr

namespace DiskFault

/-- The wording of a fault. -/
def message : DiskFault → String
  | .notFound => "No such file or directory (os error 2)"
  | .exists => "File exists (os error 17)"
  | .notDirectory => "Not a directory (os error 20)"
  | .isDirectory => "Is a directory (os error 21)"
  | .nameTooLong => "File name too long (os error 36)"
  | .notEmpty => "Directory not empty (os error 39)"
  | .busy => "Device or resource busy (os error 16)"
  | .tooManyLinks => "Too many levels of symbolic links (os error 40)"
  | .invalid => "Invalid argument (os error 22)"
  | .nulInName => "file name contained an unexpected NUL byte"
  | .notText => "stream did not contain valid UTF-8"
  | .other message => message

end DiskFault

/-! ### Errors of an analysis -/

/-- What went wrong with a file: a fault of the disk, or a rule of this library that the path
does not meet. -/
inductive FileProblem where
  | fault (f : DiskFault)
  | stated (message : String)
deriving DecidableEq, Repr

/-- The wording of a problem with a file. -/
def FileProblem.message : FileProblem → String
  | .fault f => f.message
  | .stated message => message

/-- An error of an analysis. -/
inductive CensusError where
  /-- An invalid classpath, output root or configuration. -/
  | configuration (path : Path) (message : String)
  /-- A class that the engine does not know. -/
  | resolution (className message : String)
  /-- A directory or file that cannot be read, created, written or deleted. -/
  | file (path : Path) (problem : FileProblem)
  /-- A method without a body. -/
  | bodyUnavailable (method : String)
  /-- A snapshot that does not describe a class. -/
  | snapshot (path : Path) (message : String)
  /-- A record that cannot be written. -/
  | serialization (className message : String)
  | internal (message : String)
deriving DecidableEq, Repr

namespace CensusError

/-- An error that a fault of the disk causes at a path. -/
def ofFault (path : Path) (f : DiskFault) : CensusError := .file path (.fault f)

/-- The wording of an error. -/
def message : CensusError → String
  | .configuration path message => "Configuration error at " ++ path.text ++ ": " ++ message
  | .resolution className message =>
    "Class " ++ className ++ " could not be resolved: " ++ message
  | .file path problem => "I/O error at " ++ path.text ++ ": " ++ problem.message
  | .bodyUnavailable method => "No body available for " ++ method
  | .snapshot path message => "Malformed class snapshot " ++ path.text ++ ": " ++ message
  | .serialization className message =>
    "Serialization error for " ++ className ++ ": " ++ message
  | .internal message => "Internal error: " ++ message

/-- The wording of an error, followed by that of its cause if it has one of its own. -/
def chain (e : CensusError) : List String :=
  match e with
  | .file _ (.fault f) => [e.message, f.message]
  | _ => [e.message]

/-- Whether an error concerns one class only, so that a run can go on. -/
def isRecoverable : CensusError → Bool
  | .resolution _ _ => true
  | .bodyUnavailable _ => true
  | .file _ _ => true
  | .serialization _ _ => true
  | .configuration _ _ => false
  | .snapshot _ _ => false
  | .internal _ => false

/-- The path that an error concerns. -/
def path? : CensusError → Option Path
  | .configuration path _ => some path
  | .file path _ => some path
  | .snapshot path _ => some path
  | _ => none

end CensusError

end ClassCensus
