import Mathlib.Data.List.Chain
import Mathlib.Data.List.ReduceOption
import Stylesheet.Proofs.Errors

/-! # Loops of imports

The loop check reads the frames alone: it drops what lies outside the first import from the file
that is found, keeps the file names of the imports and adds the current file and the one found. What
it lists are nevertheless the files along the way down to the sheet that is being rendered, from the
file found on (`Position.Nested.loop_eq`). So no sheet is entered inside one of its own name, and
every loop that is reported is one (`expand_loops`): each of its files holds a statement that has
resolved to the next. -/

namespace Stylesheet

open Diagnostic

namespace Trace

/-- The files from which live imports were opened, outermost first. -/
def importingFiles (trace : Trace) : List (Option String) :=
  (trace.outermostFirst.filter Frame.expandsImport).map Frame.filename

/-- An import from a file splits the live frames at the first one. -/
theorem importingFiles_of_outermostImportFrom {trace : Trace} {filename : String} {start : Nat}
    (h : trace.outermostImportFrom filename = some start) :
    ∃ outer files, trace.importingFiles = outer ++ some filename :: files ∧
      ((trace.outermostFirst.drop start).filter Frame.expandsImport).filterMap Frame.filename =
        filename :: files.reduceOption := by
  obtain ⟨hlength, hfrom, -⟩ := List.findIdx?_eq_some_iff_getElem.mp h
  let frames := trace.outermostFirst
  let inner := ((frames.drop (start + 1)).filter Frame.expandsImport).map Frame.filename
  rw [importsFrom, Bool.and_eq_true, beq_iff_eq] at hfrom
  obtain ⟨hexpands, hfilename⟩ := hfrom
  -- The frame at the position is the first of those that are kept.
  have hdrop : (frames.drop start).filter Frame.expandsImport =
      frames[start] :: (frames.drop (start + 1)).filter Frame.expandsImport := by
    rw [List.drop_eq_getElem_cons hlength, List.filter_cons_of_pos hexpands]
  refine ⟨((frames.take start).filter Frame.expandsImport).map Frame.filename, inner, ?_, ?_⟩
  · calc trace.importingFiles
        = ((frames.take start ++ frames.drop start).filter Frame.expandsImport).map
            Frame.filename := by rw [List.take_append_drop, importingFiles]
      _ = _ := by
        rw [List.filter_append, List.map_append, hdrop, List.map_cons, hfilename]
  · rw [hdrop, List.filterMap_cons_some hfilename, List.reduceOption, List.filterMap_map]
    rfl

end Trace

namespace Expansion

open Moment

/-- **A loop that is found** begins where the file is importing, or is the current one, and takes
all files on the way in. -/
theorem loop?_eq_some {trace : Trace} {current : Option String} {identifier : String}
    {chain : List String} (h : loop? trace current identifier = some chain) :
    ∃ outer files, trace.importingFiles ++ [current] = outer ++ some identifier :: files ∧
      chain = identifier :: files.reduceOption ++ [identifier] := by
  rw [loop?] at h
  split at h
  · next hcurrent =>
    cases h
    exact ⟨trace.importingFiles, [], by rw [hcurrent], rfl⟩
  · obtain ⟨start, hstart, rfl⟩ := Option.map_eq_some_iff.mp h
    obtain ⟨outer, files, hfiles, hdropped⟩ := Trace.importingFiles_of_outermostImportFrom hstart
    refine ⟨outer, files ++ [current], by rw [hfiles, List.append_assoc, List.cons_append], ?_⟩
    rw [hdropped, List.reduceOption_append]
    rcases current with _ | current
    · rfl
    · rfl

/-- If a statement is located with the error that it would close a loop, it has resolved to a sheet,
and the loop is the one found for it. -/
theorem Located.of_importLoop {statement : ImportStatement} {options : Options} {s : Expansion}
    {error : CompileError} {imports : Imports} {chain : List String}
    (h : Located statement options s (.error error) imports)
    (hcause : error.cause = .importLoop chain) :
    error.location = some (statement.location options) ∧
      ∃ found, imports.outcome? statement = some (some found) ∧
        loop? s.trace options.filename found.sheet.identifier = some chain := by
  have hfails := h.failsWith
  cases h with
  | failed _ hrun =>
    cases hfails with
    | missing houtcome =>
      rw [hrun] at houtcome
      cases houtcome
    | looping houtcome =>
      rw [hrun] at houtcome
      cases houtcome
    | broken => cases hcause
  | missed => cases hcause
  | looping _ hrun _ hloop =>
    cases hcause
    exact ⟨rfl, _, ImportStatement.outcome?_of_run_findOutcome hrun, hloop⟩

/-! ## The way down as a chain of imports -/

/-- **A file imports a sheet**: of the given sheets the one that is rendered under the name of the
file holds a statement that has resolved to a sheet with the identifier. -/
def ImportsSheet (imports : Imports) (rendered : List (Sheet × Options)) (file : Option String)
    (identifier : String) : Prop :=
  ∃ sheet options statement found, (sheet, options) ∈ rendered ∧ options.filename = file ∧
    statement ∈ sheet.imports ∧ imports.outcome? statement = some (some found) ∧
    found.sheet.identifier = identifier

/-- Among more sheets a file imports no less. -/
theorem ImportsSheet.mono {imports : Imports} {rendered more : List (Sheet × Options)}
    (hsubset : rendered ⊆ more) {file : Option String} {identifier : String}
    (h : ImportsSheet imports rendered file identifier) :
    ImportsSheet imports more file identifier := by
  obtain ⟨sheet, options, statement, found, hmem, hrest⟩ := h
  exact ⟨sheet, options, statement, found, hsubset hmem, hrest⟩

/-- A sheet that waits, with the options that it is rendered under. -/
def Waiting.rendered (waiting : Waiting) : Sheet × Options :=
  (waiting.sheet, waiting.options)

/-- All sheets that are being rendered, with their options, innermost first. -/
def Position.rendered (position : Position) : List (Sheet × Options) :=
  (position.level.sheet, position.level.options) :: position.outer.map Waiting.rendered

/-- On the way down each file imports the sheet below it. -/
theorem Descends.isChain {imports : Imports} {top sheet : Sheet} {options nested : Options}
    {outer : List Waiting} (h : Descends imports top options sheet nested outer) :
    (nested.filename :: outer.map (·.options.filename)).IsChain fun inner file =>
      ∃ identifier, inner = some identifier ∧
        ImportsSheet imports ((sheet, nested) :: outer.map Waiting.rendered) file identifier := by
  induction h with
  | top => exact .singleton _
  | @enter waiting outer found houter hrest hfound _ ih =>
    refine List.isChain_cons_cons.mpr ⟨?_, ?_⟩
    · -- The innermost pair: the sheet that waits and the one that has been entered.
      refine ⟨found.sheet.identifier, rfl, waiting.sheet, waiting.options, waiting.statement, found,
        ?_, rfl, ?_, hfound, rfl⟩
      · exact List.mem_cons_of_mem _ (List.mem_cons_self)
      · exact Sheet.mem_imports.mpr (hrest.subset List.mem_cons_self)
    · -- The pairs further out are those of the sheet that waits.
      refine ih.imp ?_
      rintro inner file ⟨identifier, hinner, himports⟩
      exact ⟨identifier, hinner, himports.mono (List.subset_cons_self _ _)⟩

namespace Position

variable {top : Sheet} {options : Options} {s : Expansion} {position : Position}

/-- If no import was live before, the live imports and the current file are the files that are being
rendered. -/
theorem Nested.importingFiles_eq (h : position.Nested top options s)
    (hbefore : ∀ frame ∈ s.trace.frames, frame.expandsImport = false) :
    position.state.trace.importingFiles ++ [position.level.options.filename] =
      position.filenames.reverse := by
  have hnone : s.trace.frames.filter Frame.expandsImport = [] :=
    List.filter_eq_nil_iff.mpr fun frame hframe => by simp [hbefore frame hframe]
  have hall : (position.outer.map Waiting.frame).filter Frame.expandsImport =
      position.outer.map Waiting.frame := by
    refine List.filter_eq_self.mpr fun frame hframe => ?_
    obtain ⟨waiting, -, rfl⟩ := List.mem_map.mp hframe
    rfl
  have hbase : ¬(baseFrame options).expandsImport = true := Bool.false_ne_true
  have hlive : position.state.trace.frames.filter Frame.expandsImport =
      position.outer.map Waiting.frame := by
    rw [h.frames, List.filter_append, hall, List.filter_cons_of_neg hbase, hnone, List.append_nil]
  rw [Trace.importingFiles, Trace.outermostFirst, List.filter_reverse, hlive, List.map_reverse,
    List.map_map, filenames, List.reverse_cons]
  rfl

/-- All files that are being rendered inside others have names. -/
theorem Nested.exists_names (h : position.Nested top options s) {outer : List (Option String)}
    {file : Option String} {files : List (Option String)}
    (hfiles : position.filenames.reverse = outer ++ file :: files) :
    ∃ names : List String, files = names.map some := by
  let names := position.importedSheets.reverse.map Sheet.identifier
  have hnames : position.filenames.reverse = options.filename :: names.map some := by
    rw [h.filenames_eq, List.reverse_append, ← List.map_reverse]
    exact congrArg (options.filename :: ·) List.map_map.symm
  rw [hnames] at hfiles
  rcases outer with _ | ⟨_, outer⟩
  · rw [List.nil_append, List.cons.injEq] at hfiles
    exact ⟨names, hfiles.2.symm⟩
  · rw [List.cons_append, List.cons.injEq, List.map_eq_append_iff] at hfiles
    obtain ⟨-, _, inner, -, -, hinner⟩ := hfiles
    obtain ⟨_, rest, -, -, hrest⟩ := List.map_eq_cons_iff.mp hinner
    exact ⟨rest, hrest.symm⟩

/-- **A loop that is found** lists the files that are being rendered, from that of the name on. -/
theorem Nested.loop_eq (h : position.Nested top options s)
    (hbefore : ∀ frame ∈ s.trace.frames, frame.expandsImport = false) {identifier : String}
    {chain : List String}
    (hloop : loop? position.state.trace position.level.options.filename identifier = some chain) :
    ∃ files : List String, (identifier :: files).map some <:+ position.filenames.reverse ∧
      chain = identifier :: files ++ [identifier] := by
  obtain ⟨outer, files, hfiles, rfl⟩ := loop?_eq_some hloop
  rw [h.importingFiles_eq hbefore] at hfiles
  obtain ⟨names, rfl⟩ := h.exists_names hfiles
  refine ⟨names, ⟨outer, hfiles.symm⟩, ?_⟩
  rw [List.reduceOption, List.filterMap_map, Function.id_comp, List.filterMap_some]

end Position

/-! ## Loops -/

/-- **A loop of imports** among sheets that are being rendered: the files differ, but for the last,
which is the first again, and each imports the next. -/
structure IsLoop (imports : Imports) (rendered : List (Sheet × Options)) (chain : List String) :
    Prop where
  /-- There is at least one import in the loop. -/
  two_le_length : 2 ≤ chain.length
  /-- The loop is closed. -/
  head?_eq_getLast? : chain.head? = chain.getLast?
  /-- It passes through no file twice. -/
  nodup : chain.dropLast.Nodup
  /-- Each file imports the next. -/
  isChain : chain.IsChain fun file identifier =>
    ImportsSheet imports rendered (some file) identifier

namespace Position

variable {top : Sheet} {options : Options} {s : Expansion} {position : Position}

/-- Files on the way down that end in the current one make a loop if the current one imports the
first of them. -/
theorem Nested.isLoop (h : position.Nested top options s) {imports : Imports}
    (hkeeps : position.state.imports.Keeps imports) {identifier file : String}
    {files : List String} (hsuffix : (identifier :: files).map some <:+ position.filenames.reverse)
    (hfile : (identifier :: files).getLast? = some file)
    (hcloses : ImportsSheet imports position.rendered (some file) identifier) :
    IsLoop imports position.rendered (identifier :: files ++ [identifier]) := by
  have hnodup : ((identifier :: files).map some).Nodup :=
    (List.nodup_reverse.mpr h.nodup_filenames).sublist hsuffix.sublist
  have hchain : ((identifier :: files).map some).IsChain fun file inner =>
      ∃ identifier, inner = some identifier ∧
        ImportsSheet imports position.rendered file identifier :=
    (List.isChain_reverse.mpr (h.descends.of_keeps hkeeps).isChain).suffix hsuffix
  rw [List.isChain_map] at hchain
  refine ⟨by simp, ?_, ?_, ?_⟩
  · rw [List.getLast?_concat]
    rfl
  · rw [List.dropLast_concat]
    exact hnodup.of_map some
  · refine List.isChain_append.mpr ⟨hchain.imp ?_, .singleton _, ?_⟩
    · rintro file _ ⟨identifier, ⟨⟩, himports⟩
      exact himports
    · rintro last hlast _ ⟨⟩
      rw [hfile] at hlast
      cases hlast
      exact hcloses

/-- Files on the way down to the current sheet end in the current file. -/
theorem getLast?_of_suffix {files : List String} (hne : files ≠ [])
    (hsuffix : files.map some <:+ position.filenames.reverse) :
    ∃ file, files.getLast? = some file ∧ position.level.options.filename = some file := by
  obtain ⟨outer, houter⟩ := hsuffix
  rcases List.eq_nil_or_concat files with rfl | ⟨front, file, rfl⟩
  · exact absurd rfl hne
  · rw [List.concat_eq_append, List.map_append, ← List.append_assoc, filenames,
      List.reverse_cons] at houter
    have hlast : [some file] = [position.level.options.filename] :=
      (List.append_inj' houter rfl).2
    refine ⟨file, ?_, (List.singleton_inj.mp hlast).symm⟩
    rw [List.concat_eq_append, List.getLast?_concat]

end Position

/-- **No file is rendered inside itself, and loops are real**: if no import was live before, at
every moment the files of the live imports and the current file differ; and if an expansion fails
with a loop, its files are a loop of imports, closed by the statement where the error is located, in
the file before the last. -/
theorem expand_loops {s : Expansion}
    (hbefore : ∀ frame ∈ s.trace.frames, frame.expandsImport = false) (sheet : Sheet)
    (options : Options) :
    (∀ moment position, Leads (start sheet options s) moment →
        moment.position? = some position →
        (position.state.trace.importingFiles ++ [position.level.options.filename]).Nodup) ∧
      ∀ error chain, ((expand sheet options).run s).1 = .error error →
        error.cause = .importLoop chain →
        ∃ position statement rest file found,
          Leads (start sheet options s) (.rendering position) ∧
            position.level.nodes = .atImport statement :: rest ∧
            ((expand sheet options).run s).2.imports.outcome? statement = some (some found) ∧
            chain.getLast? = some found.sheet.identifier ∧
            chain[chain.length - 2]? = some file ∧
            position.level.options.filename = some file ∧
            error.location = some ⟨statement.line, some file⟩ ∧
            IsLoop ((expand sheet options).run s).2.imports position.rendered chain := by
  constructor
  · intro moment position hleads hposition
    have hnested := nested_position hleads hposition
    rw [hnested.importingFiles_eq hbefore, List.nodup_reverse]
    exact hnested.nodup_filenames
  · intro error chain herror hcause
    obtain ⟨position, statement, hleads, hraises⟩ := blamed_of_expand herror
    obtain ⟨rest, hnodes⟩ := hraises.nodes
    obtain ⟨raised, hlocated, rfl⟩ := hraises.located
    obtain ⟨hlocation, found, hfound, hloop⟩ := hlocated.of_importLoop hcause
    have hnested : position.Nested sheet options s := nested_of_leads hleads
    obtain ⟨files, hsuffix, rfl⟩ := hnested.loop_eq hbefore hloop
    -- The statement closes the loop: it belongs to the last file on the way down.
    obtain ⟨file, hlast, hfile⟩ := Position.getLast?_of_suffix (by simp) hsuffix
    have hstatement : statement ∈ position.level.sheet.imports :=
      Sheet.mem_imports.mpr (hnested.rest.subset (hnodes ▸ List.mem_cons_self))
    have hcloses : ImportsSheet _ position.rendered (some file) found.sheet.identifier :=
      ⟨position.level.sheet, position.level.options, statement, found, List.mem_cons_self, hfile,
        hstatement, hfound, rfl⟩
    refine ⟨position, statement, rest, file, found, hleads, hnodes, hfound,
      List.getLast?_concat, ?_, hfile, ?_, hnested.isLoop hlocated.keeps hsuffix hlast hcloses⟩
    · rw [List.getLast?_eq_getElem?] at hlast
      rw [List.length_append, List.getElem?_append_left (by simp)]
      exact hlast
    · show raised.location = _
      rw [hlocation, ImportStatement.location, hfile]

/-- Sheets that import each other make a loop of imports. -/
theorem mutualError_isLoop :
    (∀ frame ∈ mutualStart.trace.frames, frame.expandsImport = false) ∧
      ∃ position, Leads (start mutualSheet mutualOptions mutualStart) (.rendering position) ∧
        IsLoop ((expand mutualSheet mutualOptions).run mutualStart).2.imports position.rendered
          ["lib/a.scss", "lib/b.scss", "lib/a.scss"] := by
  have hbefore : ∀ frame ∈ mutualStart.trace.frames, frame.expandsImport = false := by decide
  obtain ⟨position, _, _, _, _, hleads, _, _, _, _, _, _, hloop⟩ :=
    (expand_loops hbefore mutualSheet mutualOptions).2 mutualError _ expand_mutualSheet rfl
  exact ⟨hbefore, position, hleads, hloop⟩

end Expansion

end Stylesheet
