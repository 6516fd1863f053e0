/-! # Paths and references

Paths of sheets are texts with slashes. This module takes them apart: directory and base name,
extensions, and the part below a root. -/

namespace Stylesheet.Path

/-- The directory and the base name around the last slash, if there is a slash. -/
def split? (path : String) : Option (String × String) :=
  let reversed := path.toList.reverse
  match reversed.dropWhile (· ≠ '/') with
  | [] => none
  | _ :: directory =>
    some (String.ofList directory.reverse,
      String.ofList (reversed.takeWhile (· ≠ '/')).reverse)

/-- `path` ends in `extension`. -/
def hasExtension (extension path : String) : Bool :=
  extension.toList.isSuffixOf path.toList

/-- The extension of plain CSS files, which are imported by name rather than spliced. -/
def cssExtension : String := ".css"

/-- The extension of style sheets that are spliced into their importer. -/
def sheetExtension : String := ".scss"

/-- `path` names a plain CSS file. -/
def isCss (path : String) : Bool :=
  hasExtension cssExtension path

/-- The path of `path` under the directory `root`. -/
def join (root path : String) : String :=
  root ++ "/" ++ path

/-- The part of `path` below the directory `root`, if it lies there. -/
def below? (root path : String) : Option String :=
  ((root.toList ++ ['/']).isPrefixOf? path.toList).map String.ofList

/-- The files that a reference may mean, the first choice first: a base name with an extension
means that file or its partial, any other the sheet, the partial and the plain CSS file. -/
def filesFor (reference : String) : List String :=
  let (directory, base) :=
    match split? reference with
    | some (directory, base) => (directory ++ "/", base)
    | none => ("", reference)
  if hasExtension sheetExtension base || isCss base then
    [reference, directory ++ "_" ++ base]
  else
    [reference ++ sheetExtension, directory ++ "_" ++ base ++ sheetExtension,
      reference ++ cssExtension]

/-- `reference` as seen from the directory that holds `path`. -/
def beside (path reference : String) : String :=
  match split? path with
  | some (directory, _) => join directory reference
  | none => reference

/-- A path under a root lies below that root. -/
@[simp] theorem below?_join (root path : String) : below? root (join root path) = some path := by
  have chars : (join root path).toList = (root.toList ++ ['/']) ++ path.toList := by
    simp [join]
  have stripped : ∀ front back : List Char, front.isPrefixOf? (front ++ back) = some back := by
    intro front back
    induction front with
    | nil => rfl
    | cons c rest ih =>
      change (if c == c then rest.isPrefixOf? (rest ++ back) else none) = some back
      rw [if_pos (beq_self_eq_true c), ih]
  rw [below?, chars, stripped]
  simp

end Stylesheet.Path
