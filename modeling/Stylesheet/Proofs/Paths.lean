import Mathlib.Data.List.Infix
import Mathlib.Data.List.TakeWhile
import Stylesheet.Proofs.Search

/-! # Directories and base names

A path is its **directory** followed by its **base name**, and that in just one way: a directory is
empty or ends in a slash, and a base name holds no slash (`directory_append`). A reference means
files with other names in its own directory, so the file that a search finds still shows the
directory it was looked up from (`SearchPlace.exists_file_of_lookup`), and whether it is a plain CSS
file can be told from its name alone. -/

namespace Stylesheet

open Diagnostic

namespace Path

/-! ## Taking paths apart -/

/-- Around the last slash a path is taken apart. -/
theorem split?_join (parent : String) {base : String} (hbase : '/' ∉ base.toList) :
    split? (join parent base) = some (parent, base) := by
  have hchars : (join parent base).toList.reverse =
      base.toList.reverse ++ '/' :: parent.toList.reverse := by
    simp [join]
  have hname : ∀ c ∈ base.toList.reverse, decide (c ≠ '/') = true := by
    intro c hc
    rw [List.mem_reverse] at hc
    exact decide_eq_true fun hslash => hbase (hslash ▸ hc)
  rw [split?, hchars, List.dropWhile_append_of_pos hname, List.takeWhile_append_of_pos hname]
  simp

/-- Without a slash there is nothing to take apart. -/
theorem split?_eq_none {path : String} (hpath : '/' ∉ path.toList) : split? path = none := by
  have hall : ∀ c ∈ path.toList.reverse, decide (c ≠ '/') = true := by
    intro c hc
    rw [List.mem_reverse] at hc
    exact decide_eq_true fun hslash => hpath (hslash ▸ hc)
  rw [split?, List.dropWhile_eq_nil_iff.mpr hall]

/-- A path with a slash has a last one. -/
theorem exists_join_of_mem {path : String} (hpath : '/' ∈ path.toList) :
    ∃ parent base, path = join parent base ∧ '/' ∉ base.toList := by
  -- The last slash is the first one from behind.
  obtain ⟨base, parent, hchars, hbase⟩ :=
    List.eq_append_cons_of_mem (List.mem_reverse.mpr hpath)
  refine ⟨String.ofList parent.reverse, String.ofList base.reverse, ?_, ?_⟩
  · apply String.ext
    rw [← List.reverse_inj, hchars]
    simp [join]
  · simpa using hbase

/-- The directory of a path, with the slash that ends it; without a slash it is empty. -/
def directory (path : String) : String :=
  match split? path with
  | some (parent, _) => parent ++ "/"
  | none => ""

/-- A text that may stand in front of a base name: it is empty or ends in a slash. -/
def IsDirectory (text : String) : Prop :=
  text = "" ∨ ∃ parent, text = parent ++ "/"

/-- **There is one way** to take a path apart. -/
theorem directory_append {text base : String} (htext : IsDirectory text)
    (hbase : '/' ∉ base.toList) :
    directory (text ++ base) = text := by
  unfold directory
  rcases htext with rfl | ⟨parent, rfl⟩
  · rw [String.empty_append, split?_eq_none hbase]
  · have hsplit : split? (parent ++ "/" ++ base) = some (parent, base) := split?_join parent hbase
    rw [hsplit]

/-- A path is its directory followed by its base name. -/
theorem exists_directory_append (path : String) :
    ∃ text base, IsDirectory text ∧ '/' ∉ base.toList ∧ path = text ++ base := by
  by_cases hpath : '/' ∈ path.toList
  · obtain ⟨parent, base, rfl, hbase⟩ := exists_join_of_mem hpath
    exact ⟨parent ++ "/", base, Or.inr ⟨parent, rfl⟩, hbase, rfl⟩
  · exact ⟨"", path, Or.inl rfl, hpath, String.empty_append.symm⟩

theorem isDirectory_directory (path : String) : IsDirectory (directory path) := by
  obtain ⟨text, base, htext, hbase, rfl⟩ := exists_directory_append path
  rw [directory_append htext hbase]
  exact htext

/-- A directory in a directory. -/
theorem IsDirectory.append {outer inner : String} (houter : IsDirectory outer)
    (hinner : IsDirectory inner) : IsDirectory (outer ++ inner) := by
  rcases hinner with rfl | ⟨parent, rfl⟩
  · rwa [String.append_empty]
  · exact Or.inr ⟨outer ++ parent, String.append_assoc.symm⟩

/-- A reference as seen from the directory of a file. -/
theorem beside_eq (path reference : String) :
    beside path reference = directory path ++ reference := by
  unfold beside directory
  rcases split? path with _ | ⟨parent, base⟩
  · exact String.empty_append.symm
  · rfl

/-! ## The files that a reference means -/

/-- The names of the files that a base name may mean. -/
def namesFor (base : String) : List String :=
  if hasExtension sheetExtension base || isCss base then
    [base, "_" ++ base]
  else
    [base ++ sheetExtension, "_" ++ base ++ sheetExtension, base ++ cssExtension]

/-- **A reference means files of its own directory**, by names that its base name decides. -/
theorem filesFor_append {text base : String} (htext : IsDirectory text)
    (hbase : '/' ∉ base.toList) :
    filesFor (text ++ base) = (namesFor base).map (text ++ ·) := by
  unfold filesFor namesFor
  rcases htext with rfl | ⟨parent, rfl⟩
  · rw [String.empty_append, split?_eq_none hbase]
    dsimp only
    split <;> simp [String.append_assoc]
  · have hsplit : split? (parent ++ "/" ++ base) = some (parent, base) := split?_join parent hbase
    rw [hsplit]
    dsimp only
    -- Both lists hold the same texts, but for the way they are put in parentheses.
    split <;> simp only [List.map_cons, List.map_nil, String.append_assoc]

/-- None of the names holds a slash. -/
theorem slash_not_mem_of_mem_namesFor {base name : String} (hbase : '/' ∉ base.toList)
    (hname : name ∈ namesFor base) : '/' ∉ name.toList := by
  unfold namesFor at hname
  split at hname
  all_goals
    simp only [List.mem_cons, List.not_mem_nil, or_false] at hname
    rcases hname with rfl | rfl | rfl <;> simp [sheetExtension, cssExtension, hbase]

/-! ## Plain CSS files -/

theorem isCss_iff {path : String} : isCss path = true ↔ cssExtension.toList <:+ path.toList :=
  List.isSuffixOf_iff_suffix

/-- **The base name decides** whether a path names a plain CSS file: the extension has no slash. -/
theorem isCss_append {text : String} (htext : IsDirectory text) (name : String) :
    isCss (text ++ name) = isCss name := by
  rw [Bool.eq_iff_iff, isCss_iff, isCss_iff, String.toList_append]
  refine ⟨fun hsuffix => ?_, fun hsuffix => hsuffix.trans (List.suffix_append _ _)⟩
  rcases htext with rfl | ⟨parent, rfl⟩
  · exact hsuffix
  · -- An extension that is longer than the name would reach the slash.
    have hslash : '/' :: name.toList <:+ (parent ++ "/").toList ++ name.toList := by
      simp
    rcases List.suffix_or_suffix_of_suffix hsuffix hslash with hshort | hlong
    · rcases List.suffix_cons_iff.mp hshort with heq | hname
      · have hmem : '/' ∈ cssExtension.toList := heq ▸ List.mem_cons_self
        exact absurd hmem (by decide)
      · exact hname
    · exact absurd (hlong.subset List.mem_cons_self) (by decide)

/-- A reference to a plain CSS file means nothing but plain CSS files. -/
theorem isCss_of_mem_namesFor {base name : String} (hcss : isCss base = true)
    (hname : name ∈ namesFor base) : isCss name = true := by
  unfold namesFor at hname
  rw [if_pos (by simp [hcss]), List.mem_cons, List.mem_singleton] at hname
  rcases hname with rfl | rfl
  · exact hcss
  · rw [isCss_iff, String.toList_append]
    exact (isCss_iff.mp hcss).trans (List.suffix_append _ _)

end Path

/-! ## The file that a search finds -/

namespace SearchPlace

/-- The directory below the root of its resolver in which a place looks. A place beside a file that
lies elsewhere looks nowhere. -/
def directory? : SearchPlace → Option String
  | beside resolver origin => (Path.below? resolver.root origin).map Path.directory
  | below _ => some ""

/-- A place looks in a directory. -/
theorem isDirectory_of_directory? {place : SearchPlace} {text : String}
    (h : place.directory? = some text) : Path.IsDirectory text := by
  cases place with
  | beside resolver origin =>
    obtain ⟨path, -, rfl⟩ := Option.map_eq_some_iff.mp h
    exact Path.isDirectory_directory path
  | below resolver =>
    cases h
    exact Or.inl rfl

/-- **A lookup** in a place is one from the root, with the directory in front of the reference. -/
theorem lookup_eq (place : SearchPlace) (reference : String) :
    place.lookup reference =
      match place.directory? with
      | none => .ok none
      | some text => place.resolver.sheetFor (text ++ reference) := by
  cases place with
  | beside resolver origin =>
    rw [lookup, Resolver.sheetBeside, directory?]
    rcases Path.below? resolver.root origin with _ | path
    · rfl
    · dsimp only [Option.map_some]
      rw [Path.beside_eq]
      rfl
  | below resolver =>
    show resolver.sheetFor reference = resolver.sheetFor ("" ++ reference)
    rw [String.empty_append]

/-- **The file that a lookup finds** lies in the directory of the reference, as seen from the place.
It is a plain CSS file if the reference names one, and then it has no pieces. -/
theorem exists_file_of_lookup {place : SearchPlace} {reference : String} {source : SheetSource}
    (h : place.lookup reference = .ok (some source)) :
    ∃ text name, place.directory? = some text ∧ '/' ∉ name.toList ∧
      source.identifier =
        place.resolver.identifier (text ++ (Path.directory reference ++ name)) ∧
      (Path.isCss reference = true → Path.isCss name = true) ∧
      (Path.isCss name = true → source.items = []) := by
  rw [lookup_eq] at h
  rcases hplace : place.directory? with _ | text
  · rw [hplace] at h
    cases h
  · rw [hplace] at h
    have htext := isDirectory_of_directory? hplace
    obtain ⟨folder, base, hfolder, hbase, rfl⟩ := Path.exists_directory_append reference
    -- The candidates are the names for the base name, in the same directory.
    obtain ⟨path, hpath, hsheet⟩ := Resolver.exists_mem_of_findSomeM? (by simp) h
    rw [← String.append_assoc, Path.filesFor_append (htext.append hfolder) hbase] at hpath
    obtain ⟨name, hname, rfl⟩ := List.mem_map.mp hpath
    rw [Path.directory_append hfolder hbase, Path.isCss_append hfolder]
    rw [Resolver.sheetAt] at hsheet
    split at hsheet
    · cases hsheet
    · cases hsheet
    · cases hsheet
      refine ⟨text, name, rfl, Path.slash_not_mem_of_mem_namesFor hbase hname, ?_,
        fun hcss => Path.isCss_of_mem_namesFor hcss hname, fun hcss => ?_⟩
      · rw [String.append_assoc]
      · rw [Path.isCss_append (htext.append hfolder), if_pos hcss]

/-- **Plain CSS files have no pieces**, be it that the reference names one or that it finds one. -/
theorem items_eq_nil_of_lookup {place : SearchPlace} {reference : String} {source : SheetSource}
    (h : place.lookup reference = .ok (some source))
    (hcss : Path.isCss reference = true ∨ Path.isCss source.identifier = true) :
    source.items = [] := by
  obtain ⟨text, name, hplace, -, hidentifier, hnamed, hempty⟩ := exists_file_of_lookup h
  rcases hcss with hcss | hcss
  · exact hempty (hnamed hcss)
  · -- The identifier ends in the name of the file.
    have htext := isDirectory_of_directory? hplace
    have hroot : Path.IsDirectory (place.resolver.root ++ "/") := Or.inr ⟨_, rfl⟩
    rw [hidentifier, Resolver.identifier, Path.join, Path.isCss_append hroot,
      Path.isCss_append htext, Path.isCss_append (Path.isDirectory_directory reference)] at hcss
    exact hempty hcss

end SearchPlace

/-- A search that a reference to a plain CSS file makes, or that finds one, finds no pieces. -/
theorem Options.items_eq_nil_of_find {options : Options} {reference : String} {found : Found}
    (h : options.find reference = .ok (some found))
    (hcss : Path.isCss reference = true ∨ Path.isCss found.source.identifier = true) :
    found.source.items = [] := by
  obtain ⟨place, -, hlookup, -⟩ := SearchPlace.exists_lookup_of_first h
  exact SearchPlace.items_eq_nil_of_lookup hlookup hcss

end Stylesheet
