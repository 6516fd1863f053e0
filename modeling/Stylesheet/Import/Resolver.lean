import Stylesheet.Diagnostic.CompileError
import Stylesheet.Import.Path
import Stylesheet.Import.Sheet

/-! # Resolvers

A **resolver** turns import references into sheets. It holds its files in memory, addressed by their
path below its root; a sheet found there is identified by the root and the path. Looking a reference
up is a pure matter of the files: the first candidate that exists decides, and it fails if that file
does not compile. -/

namespace Stylesheet

open Diagnostic

/-- What a resolver holds at a path. -/
inductive SheetFile where
  /-- A sheet with these pieces. -/
  | items (items : List Item)
  /-- A file that does not compile, with the message that says why. -/
  | broken (message : String)

/-- A set of files below a root. -/
structure Resolver where
  /-- The identity of the resolver. -/
  key : Nat
  /-- The root, which is also the name of the resolver. -/
  root : String
  /-- The files by path; of two with the same path the one in front counts. -/
  files : List (String × SheetFile)

/-- The description of a sheet that a resolver has found. -/
structure SheetSource where
  /-- The identifier of the sheet. -/
  identifier : String
  /-- Its pieces, in source order. -/
  items : List Item
  deriving DecidableEq

namespace Resolver

/-- The resolver with one more file, which replaces any file with the same path. -/
def withFile (resolver : Resolver) (path : String) (file : SheetFile) : Resolver :=
  { resolver with files := (path, file) :: resolver.files }

/-- The file at exactly this path. -/
def file? (resolver : Resolver) (path : String) : Option SheetFile :=
  resolver.files.lookup path

/-- The identifier of the sheet at a path. -/
def identifier (resolver : Resolver) (path : String) : String :=
  Path.join resolver.root path

/-- The key under which a cache keeps what this resolver finds for a reference. -/
def cacheKey (resolver : Resolver) (reference : String) : String :=
  resolver.root ++ ":" ++ reference

/-- The identifiers of all files. -/
def identifiers (resolver : Resolver) : List String :=
  resolver.files.map fun file => resolver.identifier file.1

/-- The sheet at exactly this path, if there is one. A plain CSS file has no pieces, and a broken
file fails on its first line. -/
def sheetAt (resolver : Resolver) (path : String) : Except CompileError (Option SheetSource) :=
  match resolver.file? path with
  | none => .ok none
  | some (.broken message) =>
    .error ((CompileError.ofCause (.custom message)).locatedAt
      ⟨1, some (resolver.identifier path)⟩)
  | some (.items items) =>
    .ok (some ⟨resolver.identifier path, if Path.isCss path then [] else items⟩)

/-- The first candidate for a reference that exists. -/
def sheetFor (resolver : Resolver) (reference : String) :
    Except CompileError (Option SheetSource) :=
  (Path.filesFor reference).findSomeM? resolver.sheetAt

/-- The sheet that a reference means in the directory of the file `origin`, which has to lie below
this resolver's root. -/
def sheetBeside (resolver : Resolver) (reference origin : String) :
    Except CompileError (Option SheetSource) :=
  match Path.below? resolver.root origin with
  | none => .ok none
  | some path => resolver.sheetFor (Path.beside path reference)

end Resolver

end Stylesheet
