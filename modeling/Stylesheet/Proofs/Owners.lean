import Stylesheet.Proofs.Paths
import Stylesheet.Proofs.Replay

/-! # Sheets and the resolvers that own them

What a sheet imports is looked up where the sheet comes from: the resolver that has found a sheet
**owns** it, and the sheet is rendered with its owner as the importer and with the identifier of its
file as the file name (`Expansion.Level.OwnedBy`). The identifier is written with the root of the
owner and read back by taking the root off again, and whatever the root is, this gives the path of
the file (`Resolver.sheetBeside_identifier`). So the owner never takes a sheet of its own for one
that lies elsewhere, even if the sheet was found for other options than it is rendered under
(`Expansion.sheet_stays_with_owner`). -/

namespace Stylesheet

open Diagnostic

/-! ## Files and their directories -/

/-- A path is its directory followed by a base name. -/
theorem Path.exists_eq_directory_append (path : String) :
    ∃ name, path = directory path ++ name ∧ '/' ∉ name.toList := by
  obtain ⟨text, base, htext, hbase, rfl⟩ := exists_directory_append path
  exact ⟨base, by rw [directory_append htext hbase], hbase⟩

namespace Resolver

/-- Beside a file of its own, a resolver looks in the directory of the file. -/
theorem sheetBeside_identifier (resolver : Resolver) (reference path : String) :
    resolver.sheetBeside reference (resolver.identifier path) =
      resolver.sheetFor (Path.directory path ++ reference) := by
  rw [sheetBeside, identifier, Path.below?_join]
  dsimp only
  rw [Path.beside_eq]

/-- A sheet at a path is compiled from a file there that is not broken, and the path identifies
it. -/
theorem exists_items_of_sheetAt {resolver : Resolver} {path : String} {source : SheetSource}
    (h : resolver.sheetAt path = .ok (some source)) :
    (∃ items, resolver.file? path = some (.items items)) ∧
      source.identifier = resolver.identifier path := by
  rw [sheetAt] at h
  split at h
  · cases h
  · cases h
  · next items hfile =>
    cases h
    exact ⟨⟨items, hfile⟩, rfl⟩

end Resolver

/-! ## What a search hands over -/

/-- **A sheet that a search is completed with** is what the resolver that is kept with it compiles
at some path. -/
theorem Search.EndsWith.exists_sheetAt {search : Search} {found : Resolution}
    (h : search.EndsWith (some found)) :
    ∃ path, found.resolver.sheetAt path =
      .ok (some ⟨found.sheet.identifier, found.sheet.children.map Node.item⟩) := by
  obtain ⟨answer, next, hresult, houtcome⟩ := h
  obtain ⟨held, rfl, rfl⟩ := Option.map_eq_some_iff.mp houtcome.symm
  obtain ⟨place, -, hlookup, hresolver⟩ := SearchPlace.exists_lookup_of_first hresult
  obtain ⟨path, hpath⟩ := SearchPlace.sheetAt_of_lookup (by simp) hlookup
  refine ⟨path, ?_⟩
  rw [hresolver] at hpath
  -- Numbering the statements has changed nothing about the pieces.
  rw [Found.resolution, Node.map_item_numbered]
  exact hpath

/-! ## Where a search looks -/

/-- The places that are asked are the first of all places. -/
theorem SearchPlace.asked_prefix (reference : String) (places : List SearchPlace) :
    asked reference places <+: places := by
  induction places with
  | nil => exact List.prefix_refl _
  | cons place rest ih =>
    rw [asked]
    split
    · exact List.cons_prefix_cons.mpr ⟨rfl, ih⟩
    · exact List.cons_prefix_cons.mpr ⟨rfl, List.nil_prefix⟩

/-- The first place is always asked. -/
theorem SearchPlace.exists_asked_cons (reference : String) (place : SearchPlace)
    (rest : List SearchPlace) :
    ∃ more, asked reference (place :: rest) = place :: more ∧ more <+: rest := by
  rw [asked]
  split
  · exact ⟨_, rfl, asked_prefix reference rest⟩
  · exact ⟨[], rfl, List.nil_prefix⟩

/-- **A search with an importer** asks it for the reference beside the file, once and first of all,
and goes on with load paths, which look below their roots. -/
theorem Search.exists_probes_eq (statement : ImportStatement) (filename : String)
    (importer : Resolver) (loadPaths : List Resolver) (quiet : Bool) :
    ∃ further, further <+: loadPaths ∧
      Search.probes ⟨statement, ⟨some filename, some importer, loadPaths, quiet⟩⟩ =
        (further.map fun resolver => (resolver.key, .absolute statement.reference)).reverse ++
          [(importer.key, .relative statement.reference filename)] := by
  obtain ⟨more, hasked, hmore⟩ := SearchPlace.exists_asked_cons statement.reference
    (.beside importer filename) (loadPaths.map .below)
  -- The load paths that are asked are the first of all.
  obtain ⟨further, hfurther, rfl⟩ :
      ∃ further, further <+: loadPaths ∧ more = further.map .below := by
    refine ⟨loadPaths.take more.length, List.take_prefix _ _, ?_⟩
    rw [List.map_take]
    exact List.prefix_iff_eq_take.mp hmore
  refine ⟨further, hfurther, ?_⟩
  have hplaces : SearchPlace.asked statement.reference
      (Options.searchPlaces ⟨some filename, some importer, loadPaths, quiet⟩) =
        .beside importer filename :: further.map .below := hasked
  rw [Search.probes, hplaces, List.map_cons, List.reverse_cons, List.map_map]
  rfl

/-! ## Sheets that are being rendered -/

namespace Expansion

open Moment

/-- A sheet that is being rendered in an expansion under the options `top` is **owned by** a
resolver, which holds it at a path. -/
structure Level.OwnedBy (level : Level) (top : Options) (owner : Resolver) (path : String) :
    Prop where
  /-- The file at the path is not broken. -/
  file : ∃ items, owner.file? path = some (.items items)
  /-- The owner compiles the file to the sheet. -/
  compiled : owner.sheetAt path =
    .ok (some ⟨level.sheet.identifier, level.sheet.children.map Node.item⟩)
  /-- The sheet is rendered with the owner as the importer and with the identifier of the file as
  the file name; load paths and muting are those of the expansion. -/
  options : level.options =
    ⟨some (owner.identifier path), some owner, top.loadPaths, top.quiet⟩

/-- **A sheet that has been entered** is the one that the statement has resolved to, and it is owned
by the resolver that is kept with it. -/
theorem Position.Nested.exists_ownedBy {top : Sheet} {options : Options} {s : Expansion}
    {position : Position} (h : position.Nested top options s) {log : List Search}
    (hremembers : position.state.imports.Remembers log) {waiting : Waiting}
    {outer : List Waiting} (houter : position.outer = waiting :: outer) :
    ∃ owner path, position.level.OwnedBy options owner path ∧
      position.state.imports.outcome? waiting.statement =
        some (some ⟨position.level.sheet, owner⟩) ∧
      ∃ search ∈ searchesFor waiting.statement log,
        search.EndsWith (some ⟨position.level.sheet, owner⟩) := by
  obtain ⟨⟨sheet, nested, pieces, nodes⟩, all, state⟩ := position
  obtain ⟨-, hdescends, -⟩ := h
  dsimp only at houter hdescends hremembers ⊢
  subst houter
  cases hdescends with
  | @enter _ _ found hup _ hfound =>
    obtain ⟨search, earlier, hmade, hends, -⟩ := hremembers.completed hfound
    obtain ⟨path, hcompiled⟩ := hends.exists_sheetAt
    obtain ⟨hfile, hidentifier⟩ := Resolver.exists_items_of_sheetAt hcompiled
    obtain ⟨hloadPaths, hquiet⟩ := hup.carried
    refine ⟨found.resolver, path, ⟨hfile, hcompiled, ?_⟩, hfound, search, ?_, hends⟩
    · dsimp only at hidentifier ⊢
      rw [Options.forSheet, hidentifier, hloadPaths, hquiet]
    · rw [hmade]
      exact List.mem_cons_self

/-- The search of a moment is made under the options of the sheet that is being rendered. -/
theorem Moment.options_of_search? {moment : Moment} {position : Position}
    (hposition : moment.position? = some position) {search : Search}
    (h : moment.search? = some search) : search.options = position.level.options := by
  rw [search?_eq_bind] at h
  obtain ⟨asked, hasked, hsearch⟩ := Option.bind_eq_some_iff.mp h
  obtain ⟨here, rest, rfl, -, hoptions, -⟩ := exists_of_asked? hasked
  cases hposition
  rw [ImportStatement.search?] at hsearch
  split at hsearch
  · cases hsearch
    exact hoptions.symm
  · cases hsearch

/-- **A sheet stays with its owner.** Whatever has happened to the resolution of imports before,
take any moment of an expansion at which the sheet that is being rendered has been imported. Then
some resolver owns the sheet at some path.
- The resolver is the one that is kept with the sheet for the statement that waits for it, and it
  was found together with the sheet by a search for that statement, in this expansion or earlier
  and under whatever options.
- The identifier of the file is read back as just this path, and the path is a directory followed by
  a base name; beside the file the owner finds for any reference what it finds for the reference in
  this directory.
- The lookups up to the next moment are those of the search that the moment makes, if it makes one,
  and there the owner is asked first, beside the file; all other lookups are absolute and received
  by load paths of the expansion, in order. -/
theorem sheet_stays_with_owner (earlier : List Turn) (sheet : Sheet) (options : Options)
    (trace : Trace) (count : Nat) {position : Position} {waiting : Waiting} {outer : List Waiting}
    (hposition : (Moment.next^[count]
      (start sheet options ⟨importsAfter earlier, trace⟩)).position? = some position)
    (houter : position.outer = waiting :: outer) :
    let first := start sheet options ⟨importsAfter earlier, trace⟩
    let moment := Moment.next^[count] first
    ∃ owner path, position.level.OwnedBy options owner path ∧
      position.state.imports.outcome? waiting.statement =
        some (some ⟨position.level.sheet, owner⟩) ∧
      (∃ search ∈ searchesFor waiting.statement (first.searches count ++ searchesIn earlier),
        search.EndsWith (some ⟨position.level.sheet, owner⟩)) ∧
      Path.below? owner.root (owner.identifier path) = some path ∧
      (∃ name, path = Path.directory path ++ name ∧ '/' ∉ name.toList) ∧
      (∀ reference, owner.sheetBeside reference (owner.identifier path) =
        owner.sheetFor (Path.directory path ++ reference)) ∧
      moment.next.state.imports.probes =
        moment.search?.toList.flatMap Search.probes ++ moment.state.imports.probes ∧
      ∀ search, moment.search? = some search →
        ∃ further, further <+: options.loadPaths ∧
          search.probes =
            (further.map fun resolver =>
              (resolver.key, Probe.absolute search.statement.reference)).reverse ++
            [(owner.key, .relative search.statement.reference (owner.identifier path))] := by
  intro first moment
  have hnested : position.Nested sheet options _ := nested_position ⟨count, rfl⟩ hposition
  have hremembers : position.state.imports.Remembers
      (first.searches count ++ searchesIn earlier) := by
    rw [← state_of_position? hposition]
    exact (Turn.remembers_searchesIn earlier).searching (first.searching count)
  obtain ⟨owner, path, howned, houtcome, hfound⟩ := hnested.exists_ownedBy hremembers houter
  refine ⟨owner, path, howned, houtcome, hfound, Path.below?_join owner.root path,
    Path.exists_eq_directory_append path, (owner.sheetBeside_identifier · path),
    moment.searching_next.probes_eq, ?_⟩
  intro search hsearch
  have hoptions := Moment.options_of_search? hposition hsearch
  rw [howned.options] at hoptions
  obtain ⟨statement, nested⟩ := search
  dsimp only at hoptions
  subst hoptions
  exact Search.exists_probes_eq statement (owner.identifier path) owner options.loadPaths
    options.quiet

/-- A resolver whose root is empty, with a sheet in a directory that imports its neighbour. -/
def skins : Resolver :=
  ⟨0, "", [("skins/_dark.scss", .items [.atImport "colors" 1]),
    ("skins/_colors.scss", .items [.css "a \x7b \x7d"])]⟩

/-- A statement that imports the sheet. -/
def skinImport : ImportStatement :=
  ⟨0, "skins/dark", 1⟩

/-- The statement is made, and asked for its sheet with the resolver as a load path and warnings
muted. The latest turn stands in front. -/
def skinTurns : List Turn :=
  [.ask .sheet skinImport ⟨none, none, [skins], true⟩, .newNodes [.atImport "skins/dark" 1]]

/-- A sheet that consists of the statement. -/
def skinned : Sheet :=
  ⟨"main", [.atImport skinImport]⟩

/-- The first moment at which the sheet is inside the one that it imports. There is no load path any
more, and warnings are not muted. -/
def skinMoment : Moment :=
  Moment.next^[1] (start skinned .default ⟨importsAfter skinTurns, ⟨[]⟩⟩)

/-- The imported sheet is owned by the resolver that was a load path when it was resolved. The path
of its file is read back below the empty root, and what it imports is looked up in its directory and
nowhere else. -/
theorem skin_stays_with_owner :
    ∃ position, skinMoment.position? = some position ∧
      position.level.OwnedBy .default skins "skins/_dark.scss" ∧
      (∀ reference, skins.sheetBeside reference "/skins/_dark.scss" =
        skins.sheetFor ("skins/" ++ reference)) ∧
      ∀ search, skinMoment.search? = some search →
        search.probes = [(0, .relative search.statement.reference "/skins/_dark.scss")] := by
  have hinside : skinMoment.position?.isSome = true := by decide +kernel
  obtain ⟨position, hposition⟩ := Option.isSome_iff_exists.mp hinside
  have hlength : skinMoment.position?.map (·.outer.length) = some 1 := by decide +kernel
  have hoptions : skinMoment.position?.map (·.level.options) =
      some ⟨some "/skins/_dark.scss", some skins, [], false⟩ := rfl
  rw [hposition] at hlength hoptions
  obtain ⟨waiting, houter⟩ := List.length_eq_one_iff.mp (Option.some.inj hlength)
  obtain ⟨owner, path, howned, -, -, hbelow, -, hbeside, -, hsearch⟩ :=
    sheet_stays_with_owner skinTurns skinned .default ⟨[]⟩ 1 hposition houter
  -- The options name the owner and the identifier, and the identifier gives the path.
  have hsame := howned.options.symm.trans (Option.some.inj hoptions)
  obtain ⟨hfilename, himporter, -, -⟩ := Options.mk.inj hsame
  obtain rfl := Option.some.inj himporter
  have hidentifier : skins.identifier path = "/skins/_dark.scss" := Option.some.inj hfilename
  have hread : Path.below? skins.root "/skins/_dark.scss" = some "skins/_dark.scss" := by
    decide +kernel
  rw [hidentifier, hread] at hbelow
  obtain rfl := Option.some.inj hbelow
  have hdirectory : Path.directory "skins/_dark.scss" = "skins/" := by decide +kernel
  rw [hdirectory, hidentifier] at hbeside
  refine ⟨position, hposition, howned, hbeside, fun search hmade => ?_⟩
  obtain ⟨further, hfurther, hprobes⟩ := hsearch search hmade
  obtain rfl := List.prefix_nil.mp hfurther
  rw [hprobes, hidentifier]
  rfl

end Expansion

end Stylesheet
