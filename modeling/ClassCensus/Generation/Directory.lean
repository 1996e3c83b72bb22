import ClassCensus.Job

/-!
# Directories for output

Making a directory with all directories above it, and clearing an output root.
-/

namespace ClassCensus

/-- Whether a path leads to something. -/
def pathExists (path : Path) : Job Bool := do
  match ← Job.ofStep (.status path) with
  | .ok _ => return true
  | .error _ => return false

/-- Whether a path leads to a directory. -/
def isDirectory (path : Path) : Job Bool := do
  match ← Job.ofStep (.status path) with
  | .ok kind => return kind = .directory
  | .error _ => return false

/-- Makes a directory unless it is there. -/
def ensureDir (path : Path) : Job (Except DiskFault Unit) := do
  match ← Job.ofStep (.makeDir path) with
  | .ok () => return .ok ()
  | .error f => if ← isDirectory path then return .ok () else return .error f

/-- As `makeDirs`, for a path of at most so many components. -/
def makeDirsWithin : Nat → Path → Job (Except DiskFault Unit)
  | 0, _ => return .error .notFound
  | steps + 1, path => do
    if path.octets = [] then return .ok ()
    match ← Job.ofStep (.makeDir path) with
    | .ok () => return .ok ()
    | .error .notFound =>
      match path.parent with
      | none => return .error (.other "failed to create whole tree")
      | some parent =>
        match ← makeDirsWithin steps parent with
        | .error f => return .error f
        | .ok () => ensureDir path
    | .error f => if ← isDirectory path then return .ok () else return .error f

/-- Makes a directory, and before it all directories above it that are missing. What is a
directory already is left alone. -/
def makeDirs (path : Path) : Job (Except DiskFault Unit) :=
  makeDirsWithin (path.octets.length + 1) path

/-- Deletes an output root, whether it is a directory with everything below it, or a file or
link in its place. -/
def removeOutputRoot (root : Path) : Attempt Unit := do
  match ← Attempt.ofJob (Job.ofStep (.linkStatus root)) with
  | .error .notFound => return ()
  | .error f => throw (.ofFault root f)
  | .ok kind =>
    if kind = .directory then Attempt.atPath root (Job.ofStep (.removeTree root))
    else Attempt.atPath root (Job.ofStep (.removeFile root))
    Attempt.ofJob (Job.tell (.artifactsRemoved root))

end ClassCensus
