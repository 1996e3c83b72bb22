import ClassCensus.Text.Pieces

/-!
# Source layout

How the path of a source file names a class: everything up to a source root is dropped, then the
extension, then leading separators, and the separators that remain become dots.
-/

namespace ClassCensus

/-- Where sources lie and how their files end. -/
structure SourceLayout where
  /-- The roots; everything up to the first one that occurs in a path is no package. -/
  sourceRoots : List String
  /-- The extensions without their dot. -/
  extensions : List String
deriving DecidableEq, Repr

namespace SourceLayout

/-- The usual layout of a Java project, with separators of either style. -/
def default : SourceLayout :=
  { sourceRoots := ["src/main/java/", "src\\main\\java\\"], extensions := ["java"] }

instance : Inhabited SourceLayout := ⟨default⟩

/-- Whether a character separates the names of a path. -/
def isSeparator (c : Char) : Bool := c = '/' || c = '\\'

/-- What follows the first root of a list that occurs in the path; all of the path if none
does. -/
def afterRoot (roots : List String) (path : List Char) : List Char :=
  (roots.findSome? fun root => Text.afterFirst? root.toList path).getD path

/-- The path without the first extension of a list that it ends in. -/
def withoutExtension (extensions : List String) (path : List Char) : List Char :=
  (extensions.findSome? fun ext => Text.beforeSuffix? ('.' :: ext.toList) path).getD path

/-- Separators as dots, except those at the beginning, which are dropped. -/
def dotted (path : List Char) : List Char :=
  (path.dropWhile isSeparator).map fun c => if isSeparator c then '.' else c

/-- The name of the class in a source file. -/
def className (layout : SourceLayout) (file : String) : String :=
  String.ofList <|
    dotted (withoutExtension layout.extensions (afterRoot layout.sourceRoots file.toList))

end SourceLayout

end ClassCensus
