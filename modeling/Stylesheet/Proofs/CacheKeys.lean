import Stylesheet.Proofs.Runs

/-! # Cache keys

The cache key of an import is the root of the resolver that holds the sheet, followed by the
reference. It leaves out where below the root the reference was looked up, which is the directory of
the importing file in one case and the root itself in the other, and so one key may stand for
several files. This module tells exactly when it does
(`ImportStatement.identifier_eq_iff_of_cacheKey`): two statements with one key have resolved to the
same file if and only if they were looked up below the same root and in the same directory. The
roots matter because a root may hold a colon. -/

namespace Stylesheet

open Diagnostic

/-! ## Roots and references -/

namespace Path

/-- Of two texts that go on after a beginning of their own, in one way with a slash and in another
with a colon, neither beginning is longer than the other. -/
theorem eq_of_append_slash_of_append_colon {front back : List Char} {path path' : List Char}
    {reference reference' : List Char} (hslash : front ++ '/' :: path = front ++ back ++ '/' :: path')
    (hcolon : front ++ ':' :: reference = front ++ back ++ ':' :: reference') : back = [] := by
  rw [List.append_assoc, List.append_cancel_left_eq] at hslash hcolon
  cases back with
  | nil => rfl
  | cons c back =>
    -- The longer one would go on with both.
    have hboth : '/' = ':' := (List.cons.inj hslash).1.trans (List.cons.inj hcolon).1.symm
    exact absurd hboth (by decide)

/-- **A root can be told** from a path below it and a key that begins with it together: what follows
the root begins with a slash in the one and with a colon in the other. -/
theorem root_eq_of_join {root root' path path' reference reference' : String}
    (hpath : join root path = join root' path')
    (hkey : root ++ ":" ++ reference = root' ++ ":" ++ reference') : root = root' := by
  have hslash : root.toList ++ '/' :: path.toList = root'.toList ++ '/' :: path'.toList := by
    simpa [join] using congrArg String.toList hpath
  have hcolon : root.toList ++ ':' :: reference.toList =
      root'.toList ++ ':' :: reference'.toList := by
    simpa using congrArg String.toList hkey
  apply String.ext
  rcases List.append_eq_append_iff.mp hcolon with ⟨more, hmore, -⟩ | ⟨more, hmore, -⟩
  · rw [hmore] at hslash hcolon
    rw [hmore, eq_of_append_slash_of_append_colon hslash hcolon, List.append_nil]
  · rw [hmore] at hslash hcolon
    rw [hmore, eq_of_append_slash_of_append_colon hslash.symm hcolon.symm, List.append_nil]

/-- The key alone does not tell the root. -/
example : "a" ++ ":" ++ "b:c" = "a:b" ++ ":" ++ "c" := by decide

end Path

/-! ## Where a statement has been found -/

/-- A statement has been **found in a place**: what it has resolved to is what the lookup there
finds, under some options that search the place. -/
structure ImportStatement.FoundIn (statement : ImportStatement) (place : SearchPlace)
    (found : Resolution) : Prop where
  /-- Some options search the place. -/
  searched : ∃ options : Options, place ∈ options.searchPlaces
  /-- The resolver is the one that is asked. -/
  resolver : place.resolver = found.resolver
  /-- The sheet is the one that is found. -/
  lookup : ∃ source, place.lookup statement.reference = .ok (some source) ∧
    source.identifier = found.sheet.identifier

/-- **Every statement that has resolved to a sheet** has been found in some place. -/
theorem Imports.Reachable.exists_foundIn {imports : Imports} {issued : Set ImportStatement}
    (h : imports.Reachable issued) {statement : ImportStatement} (hissued : statement ∈ issued)
    {found : Resolution} (hfound : imports.outcome? statement = some (some found)) :
    ∃ place, statement.FoundIn place found := by
  obtain ⟨options, description, next, hfind, rfl⟩ := h.exists_find hissued hfound
  obtain ⟨place, hmem, hlookup, hresolver⟩ := SearchPlace.exists_lookup_of_first hfind
  exact ⟨place, ⟨options, hmem⟩, hresolver, description.source, hlookup, rfl⟩

namespace ImportStatement

/-- **The identifier of what has been found** tells the root of the resolver, the directory in which
the place looks, that of the reference and the name of the file. -/
theorem FoundIn.exists_identifier {statement : ImportStatement} {place : SearchPlace}
    {found : Resolution} (h : statement.FoundIn place found) :
    ∃ text name, place.directory? = some text ∧ '/' ∉ name.toList ∧
      found.sheet.identifier =
        Path.join place.resolver.root (text ++ (Path.directory statement.reference ++ name)) := by
  obtain ⟨source, hlookup, hidentifier⟩ := h.lookup
  obtain ⟨text, name, htext, hname, hsource, -⟩ := SearchPlace.exists_file_of_lookup hlookup
  exact ⟨text, name, htext, hname, hidentifier.symm.trans hsource⟩

/-- Two statements with the same reference, looked up by one resolver in the same directory, find
the same file. -/
theorem FoundIn.identifier_eq {statement statement' : ImportStatement}
    {place place' : SearchPlace} {found found' : Resolution} (h : statement.FoundIn place found)
    (h' : statement'.FoundIn place' found') (hreference : statement.reference = statement'.reference)
    (hresolver : found.resolver = found'.resolver)
    (hdirectory : place.directory? = place'.directory?) :
    found.sheet.identifier = found'.sheet.identifier := by
  obtain ⟨source, hlookup, hidentifier⟩ := h.lookup
  obtain ⟨source', hlookup', hidentifier'⟩ := h'.lookup
  -- The two lookups are one.
  rw [SearchPlace.lookup_eq, h.resolver, hresolver, hdirectory, hreference, ← h'.resolver,
    ← SearchPlace.lookup_eq, hlookup'] at hlookup
  cases hlookup
  exact hidentifier.symm.trans hidentifier'

/-- Two statements with one key that have been found as the same file have been found below the same
root and in the same directory. -/
theorem FoundIn.directory_eq {statement statement' : ImportStatement} {place place' : SearchPlace}
    {found found' : Resolution} (h : statement.FoundIn place found)
    (h' : statement'.FoundIn place' found')
    (hkey : found.resolver.cacheKey statement.reference =
      found'.resolver.cacheKey statement'.reference)
    (hidentifier : found.sheet.identifier = found'.sheet.identifier) :
    place.resolver.root = place'.resolver.root ∧ place.directory? = place'.directory? := by
  obtain ⟨text, name, htext, hname, hjoin⟩ := h.exists_identifier
  obtain ⟨text', name', htext', hname', hjoin'⟩ := h'.exists_identifier
  rw [hjoin, hjoin'] at hidentifier
  rw [← h.resolver, ← h'.resolver] at hkey
  have hroot : place.resolver.root = place'.resolver.root := Path.root_eq_of_join hidentifier hkey
  refine ⟨hroot, ?_⟩
  have hreference : statement.reference = statement'.reference := by
    simpa [Resolver.cacheKey, hroot] using hkey
  have hpath : text ++ (Path.directory statement.reference ++ name) =
      text' ++ (Path.directory statement.reference ++ name') := by
    simpa [Path.join, hroot, hreference] using hidentifier
  -- The directories of the two paths are the same, and both end in that of the reference.
  have hends : ∀ {front base : String}, Path.IsDirectory front → '/' ∉ base.toList →
      Path.directory (front ++ (Path.directory statement.reference ++ base)) =
        front ++ Path.directory statement.reference := by
    intro front base hfront hbase
    rw [← String.append_assoc]
    exact Path.directory_append (hfront.append (Path.isDirectory_directory _)) hbase
  have hfolders := congrArg Path.directory hpath
  rw [hends (SearchPlace.isDirectory_of_directory? htext) hname,
    hends (SearchPlace.isDirectory_of_directory? htext') hname'] at hfolders
  rw [htext, htext', (String.append_left_inj _).mp hfolders]

/-- A cache key is that of the resolver for the reference, once something has been found. -/
theorem exists_found_of_cacheKey {statement : ImportStatement} {options : Options}
    {imports after : Imports} {key : String}
    (hrun : (statement.cacheKey options).run imports = (.ok (some key), after)) :
    after = ((statement.findOutcome options).run imports).2 ∧
      ∃ found, after.outcome? statement = some (some found) ∧
        key = found.resolver.cacheKey statement.reference := by
  rw [cacheKey, run_bind] at hrun
  rcases hfind : (statement.findOutcome options).run imports with ⟨error | _ | found, last⟩
  all_goals rw [hfind] at hrun
  · cases hrun
  · cases hrun
  · cases hrun
    exact ⟨rfl, found, outcome?_of_run_findOutcome hfind, rfl⟩

/-- A statement that is asked for the first time resolves to a file of a resolver of the options. -/
theorem resolver_mem_of_asked {statement : ImportStatement} {options : Options} {imports : Imports}
    (hnew : imports.outcome? statement = none) {found : Resolution}
    (hfound : ((statement.findOutcome options).run imports).2.outcome? statement =
      some (some found)) : found.resolver ∈ options.resolvers := by
  have hanswered := statement.answered_findOutcome options imports
  generalize (statement.findOutcome options).run imports = run at hanswered hfound
  obtain ⟨answer, after⟩ := run
  dsimp only at hanswered hfound
  cases hanswered with
  | remembered hold => simp [hnew] at hold
  | missed => simp [outcome?_settled] at hfound
  | found _ hfind =>
    rw [outcome?_settled, if_pos rfl] at hfound
    cases hfound
    exact Options.resolver_mem_of_find hfind
  | failed => simp [hnew] at hfound

/-- **What a cache key tells.** Two statements, each asked at some stage of a run for the cache key
under some options, that answer with one key have each been found in a place, and they have resolved
to the same file if and only if these places are below the same root and look in the same directory.
The resolvers that hold the files are supposed to be the same if their roots are. -/
theorem identifier_eq_iff_of_cacheKey {stage stage' : Stage}
    (hreachable : stage.imports.Reachable stage.issued)
    (hreachable' : stage'.imports.Reachable stage'.issued)
    {statement statement' : ImportStatement} (hissued : statement ∈ stage.issued)
    (hissued' : statement' ∈ stage'.issued) {options options' : Options} {key : String}
    {after after' : Imports}
    (hkey : (statement.cacheKey options).run stage.imports = (.ok (some key), after))
    (hkey' : (statement'.cacheKey options').run stage'.imports = (.ok (some key), after'))
    (hroots : ∀ found found', after.outcome? statement = some (some found) →
      after'.outcome? statement' = some (some found') →
        found.resolver.root = found'.resolver.root → found.resolver = found'.resolver) :
    ∃ found found', after.outcome? statement = some (some found) ∧
      after'.outcome? statement' = some (some found') ∧
      (∃ place, statement.FoundIn place found) ∧ (∃ place', statement'.FoundIn place' found') ∧
      ∀ place place', statement.FoundIn place found → statement'.FoundIn place' found' →
        (found.sheet.identifier = found'.sheet.identifier ↔
          place.resolver.root = place'.resolver.root ∧ place.directory? = place'.directory?) := by
  obtain ⟨hafter, found, hfound, rfl⟩ := exists_found_of_cacheKey hkey
  obtain ⟨hafter', found', hfound', hsame⟩ := exists_found_of_cacheKey hkey'
  -- What answers a key has been found in some place.
  obtain ⟨known, hrun⟩ := Stage.exists_run_of_asked hissued hafter
  obtain ⟨known', hrun'⟩ := Stage.exists_run_of_asked hissued' hafter'
  refine ⟨found, found', hfound, hfound',
    (hrun.reachable hreachable).exists_foundIn (hrun.grows.2 hissued) hfound,
    (hrun'.reachable hreachable').exists_foundIn (hrun'.grows.2 hissued') hfound', ?_⟩
  intro place place' hplace hplace'
  constructor
  · exact hplace.directory_eq hplace' hsame
  · rintro ⟨hroot, hdirectory⟩
    rw [hplace.resolver, hplace'.resolver] at hroot
    refine hplace.identifier_eq hplace' ?_ (hroots found found' hfound hfound' hroot) hdirectory
    -- The keys begin with the same root, so the references are the same.
    simpa [Resolver.cacheKey, hroot] using hsame

/-! ## One key for two files -/

/-- A resolver with two files of the same name. -/
def colorSheets : Resolver :=
  ⟨0, "lib", [("dark/colors.scss", .items []), ("light/colors.scss", .items [])]⟩

/-- Options for a file in a directory of the resolver. -/
def optionsIn (directory : String) : Options :=
  ⟨some ("lib/" ++ directory ++ "/main.scss"), some colorSheets, [], false⟩

/-- The statements of two files with the same reference. -/
def colorImports : List Item :=
  [.atImport "colors" 1, .atImport "colors" 1]

/-- The state in which the two statements have been made. -/
def colorStart : Imports :=
  ((Imports.newNodes colorImports).run Imports.empty).2

/-- The statement of the file in the directory `dark`. -/
def darkImport : ImportStatement :=
  ⟨0, "colors", 1⟩

/-- The statement of the file in the directory `light`. -/
def lightImport : ImportStatement :=
  ⟨1, "colors", 1⟩

/-- The state in which both have been asked for their keys. -/
def colorEnd : Imports :=
  ((lightImport.cacheKey (optionsIn "light")).run
    ((darkImport.cacheKey (optionsIn "dark")).run colorStart).2).2

/-- Two files of one resolver have one key. -/
theorem cacheKey_of_two_files :
    ((darkImport.cacheKey (optionsIn "dark")).run colorStart).1 = .ok (some "lib:colors") ∧
      ((lightImport.cacheKey (optionsIn "light")).run
        ((darkImport.cacheKey (optionsIn "dark")).run colorStart).2).1 =
          .ok (some "lib:colors") ∧
      (colorEnd.resolvedSheet? darkImport).map Sheet.identifier = some "lib/dark/colors.scss" ∧
      (colorEnd.resolvedSheet? lightImport).map Sheet.identifier =
        some "lib/light/colors.scss" := by
  refine ⟨?_, ?_, ?_, ?_⟩ <;> decide +kernel

/-- The places in which the two have been found are below one root, but need not look in the same
directory. -/
theorem cacheKey_tells_directories :
    ((darkImport.cacheKey (optionsIn "dark")).run colorStart).1 = .ok (some "lib:colors") ∧
      ((lightImport.cacheKey (optionsIn "light")).run colorStart).1 = .ok (some "lib:colors") ∧
      ∃ found found', (∃ place, darkImport.FoundIn place found) ∧
        (∃ place', lightImport.FoundIn place' found') ∧
        ∀ place place', darkImport.FoundIn place found → lightImport.FoundIn place' found' →
          (found.sheet.identifier = found'.sheet.identifier ↔
            place.resolver.root = place'.resolver.root ∧
              place.directory? = place'.directory?) := by
  have hdark : ((darkImport.cacheKey (optionsIn "dark")).run colorStart).1 =
      .ok (some "lib:colors") := by decide +kernel
  have hlight : ((lightImport.cacheKey (optionsIn "light")).run colorStart).1 =
      .ok (some "lib:colors") := by decide +kernel
  have hnew : colorStart.outcome? darkImport = none ∧ colorStart.outcome? lightImport = none := by
    simp [colorStart, Imports.run_newNodes, Imports.withStatements, Imports.outcome?, Imports.empty]
  have hissued : darkImport ∈ Imports.statementsAmong (Node.numbered 0 colorImports) ∧
      lightImport ∈ Imports.statementsAmong (Node.numbered 0 colorImports) := by
    simp [Imports.statementsAmong, colorImports, Node.numbered, darkImport, lightImport]
  have hreachable : colorStart.Reachable
      (∅ ∪ Imports.statementsAmong (Node.numbered 0 colorImports)) := by
    have hmade := Imports.Reachable.newNodes .empty colorImports
    rwa [congrArg Prod.fst (Imports.run_newNodes colorImports .empty)] at hmade
  generalize hfirst : (darkImport.cacheKey (optionsIn "dark")).run colorStart = first at *
  generalize hsecond : (lightImport.cacheKey (optionsIn "light")).run colorStart = second at *
  obtain ⟨answer, after⟩ := first
  obtain ⟨answer', after'⟩ := second
  cases hdark
  cases hlight
  -- There is just one resolver.
  have hroots : ∀ found found', after.outcome? darkImport = some (some found) →
      after'.outcome? lightImport = some (some found') →
        found.resolver.root = found'.resolver.root → found.resolver = found'.resolver := by
    intro found found' hfound hfound' _
    rw [(exists_found_of_cacheKey hfirst).1] at hfound
    rw [(exists_found_of_cacheKey hsecond).1] at hfound'
    have hmem := resolver_mem_of_asked hnew.1 hfound
    have hmem' := resolver_mem_of_asked hnew.2 hfound'
    exact (List.mem_singleton.mp hmem).trans (List.mem_singleton.mp hmem').symm
  obtain ⟨found, found', -, -, htells⟩ := @identifier_eq_iff_of_cacheKey ⟨colorStart, _⟩
    ⟨colorStart, _⟩ hreachable hreachable _ _ (Or.inr hissued.1) (Or.inr hissued.2) _ _ _ _ _
    hfirst hsecond hroots
  exact ⟨rfl, rfl, found, found', htells⟩

end ImportStatement

end Stylesheet
