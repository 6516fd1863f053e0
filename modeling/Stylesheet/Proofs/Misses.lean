import Stylesheet.Proofs.Errors
import Stylesheet.Proofs.Turns

/-! # Imports that are not found

A search that finds nothing is completed, so the miss is remembered, and every later question that
needs a sheet fails without a search. What is remembered is only that nothing was found: the error
is made anew each time and lists the load paths of the options that the statement is asked under
then. These are the load paths that the search has **consulted** (`Search.consulted`) exactly if
the two sets of options name the same load paths (`Turn.loadPaths_of_misses`). -/

namespace Stylesheet

open Diagnostic

/-! ## What a search consults -/

namespace SearchPlace

/-- The name of the load path that is searched, unless the place is beside a file. -/
def loadPath? : SearchPlace → Option String
  | beside _ _ => none
  | below resolver => some resolver.root

/-- A search that finds nothing has asked everywhere. -/
theorem asked_of_first_none {reference : String} {places : List SearchPlace}
    (h : first reference places = .ok none) : asked reference places = places := by
  induction places with
  | nil => rfl
  | cons place rest ih =>
    rw [first] at h
    rcases hlookup : place.lookup reference with error | _ | source
    all_goals
      rw [hlookup] at h
      dsimp only at h
    · cases h
    · rw [asked, hlookup, ih h]
    · cases h

end SearchPlace

/-- The places to search are beside the current file and below the load paths. -/
theorem Options.filterMap_loadPath? (options : Options) :
    options.searchPlaces.filterMap SearchPlace.loadPath? = options.pathNames := by
  have hbelow : (options.loadPaths.map SearchPlace.below).filterMap SearchPlace.loadPath? =
      options.pathNames := by
    rw [List.filterMap_map, pathNames, ← List.filterMap_eq_map]
    rfl
  rw [searchPlaces, List.filterMap_append, hbelow]
  split <;> rfl

/-- The names of the load paths that a search has **consulted**, in order. -/
def Search.consulted (search : Search) : List String :=
  (SearchPlace.asked search.statement.reference search.options.searchPlaces).filterMap
    SearchPlace.loadPath?

/-- **A search that finds nothing** has consulted all load paths of its options. -/
theorem Search.consulted_of_missed {search : Search} (h : search.result = .ok none) :
    search.consulted = search.options.pathNames := by
  rw [consulted, SearchPlace.asked_of_first_none h, Options.filterMap_loadPath?]

/-! ## Where the errors come from -/

/-- The error says that nothing was found. -/
def Diagnostic.CompileError.IsNotFound (error : CompileError) : Prop :=
  ∃ reference loadPaths, error.cause = .importNotFound reference loadPaths

/-- A search does not fail with the error that nothing was found: a broken file is the reason. -/
theorem ImportStatement.not_isNotFound_of_run_findOutcome {statement : ImportStatement}
    {options : Options} {imports after : Imports} {error : CompileError}
    (hrun : (statement.findOutcome options).run imports = (.error error, after)) :
    ¬ error.IsNotFound := by
  have hanswered := statement.answered_findOutcome options imports
  rw [hrun] at hanswered
  rintro ⟨reference, loadPaths, hcause⟩
  cases hanswered with
  | failed _ hfind =>
    obtain ⟨resolver, -, path, message, -, rfl⟩ := Options.broken_of_find hfind
    rw [CompileError.cause_locatedAt] at hcause
    cases hcause

/-- Of two computations in sequence one fails if both do together. -/
theorem error_of_run_bind {ε σ α β : Type} {first : ExceptT ε (StateM σ) α}
    {second : α → ExceptT ε (StateM σ) β} {s : σ} {error : ε}
    (h : ((first >>= second).run s).1 = .error error) :
    (first.run s).1 = .error error ∨
      ∃ value after, first.run s = (.ok value, after) ∧
        ((second value).run after).1 = .error error := by
  rw [run_bind] at h
  rcases hfirst : first.run s with ⟨_ | value, after⟩
  all_goals
    rw [hfirst] at h
    dsimp only at h
  · cases h
    exact Or.inl rfl
  · exact Or.inr ⟨value, after, rfl, h⟩

section

variable {statement : ImportStatement} {options : Options} {imports : Imports}
  {error : CompileError}

/-- A statement **fails to resolve** if its search does, or if it finds nothing. -/
def ImportStatement.FailsToResolve (statement : ImportStatement) (options : Options)
    (imports : Imports) (error : CompileError) : Prop :=
  ((statement.findOutcome options).run imports).1 = .error error ∨
    ((statement.findOutcome options).run imports).1 = .ok none ∧ error = statement.notFound options

theorem ImportStatement.failsToResolve_of_requireFound
    (hrun : ((statement.requireFound options).run imports).1 = .error error) :
    statement.FailsToResolve options imports error := by
  rcases error_of_run_bind hrun with hfailed | ⟨_ | found, after, hfind, hmissed⟩
  · exact Or.inl hfailed
  · cases hmissed
    exact Or.inr ⟨by rw [hfind], rfl⟩
  · cases hmissed

theorem ImportStatement.failsToResolve_of_importedSheet
    (hrun : ((statement.importedSheet options).run imports).1 = .error error) :
    statement.FailsToResolve options imports error := by
  rcases error_of_run_bind hrun with hfailed | ⟨found, after, -, hpure⟩
  · exact failsToResolve_of_requireFound hfailed
  · cases hpure

/-- **A question fails** only if it needs the outcome and the statement fails to resolve. -/
theorem Question.failsToResolve {question : Question}
    (hrun : ((question.query statement options).run imports).1 = .error error) :
    question.needsOutcome statement = true ∧ statement.FailsToResolve options imports error := by
  cases question with
  | outcome => exact ⟨rfl, Or.inl hrun⟩
  | found => exact ⟨rfl, ImportStatement.failsToResolve_of_requireFound hrun⟩
  | sheet => exact ⟨rfl, ImportStatement.failsToResolve_of_importedSheet hrun⟩
  | plainCss =>
    change ((statement.isCss options).run imports).1 = .error error at hrun
    rw [ImportStatement.isCss] at hrun
    split at hrun
    · cases hrun
    · next hcss =>
      refine ⟨by simp [needsOutcome, hcss], ?_⟩
      rcases error_of_run_bind hrun with hfailed | ⟨sheet, after, -, hpure⟩
      · exact ImportStatement.failsToResolve_of_importedSheet hfailed
      · cases hpure
  | cacheKey =>
    refine ⟨rfl, ?_⟩
    rcases error_of_run_bind hrun with hfailed | ⟨outcome, after, -, hpure⟩
    · exact Or.inl hfailed
    · cases hpure
  | emptiness =>
    refine ⟨rfl, ?_⟩
    rcases error_of_run_bind hrun with hfailed | ⟨sheet, after, -, hpure⟩
    · exact ImportStatement.failsToResolve_of_importedSheet hfailed
    · cases hpure
  | remembered => cases hrun

end

namespace Expansion

/-- If a statement is located with the error that nothing was found, it has missed, and the error
lists the load paths of the options. -/
theorem Located.of_isNotFound {statement : ImportStatement} {options : Options} {s : Expansion}
    {error : CompileError} {imports : Imports}
    (h : Located statement options s (.error error) imports) (herror : error.IsNotFound) :
    imports.outcome? statement = some none ∧
      error.cause = .importNotFound statement.reference options.pathNames := by
  cases h with
  | failed _ hrun =>
    exact absurd herror (ImportStatement.not_isNotFound_of_run_findOutcome hrun)
  | missed _ hrun =>
    exact ⟨ImportStatement.outcome?_of_run_findOutcome hrun, CompileError.cause_locatedAt _ _⟩
  | looping =>
    obtain ⟨reference, loadPaths, hcause⟩ := herror
    cases hcause

/-- All the way down the names of the load paths are the same. -/
theorem Descends.pathNames_eq {imports : Imports} {top sheet : Sheet} {options nested : Options}
    {outer : List Waiting} (h : Descends imports top options sheet nested outer) :
    nested.pathNames = options.pathNames := by
  rw [Options.pathNames, h.carried.1, Options.pathNames]

end Expansion

namespace Turn

open Expansion

/-- **A turn misses** a statement: under these options it ends in the error that nothing was found
for the statement. -/
inductive Misses (imports : Imports) (statement : ImportStatement) :
    Turn → Options → CompileError → Prop
  /-- A question to the statement fails. -/
  | ask {question : Question} {options : Options} {error : CompileError}
    (hrun : ((question.query statement options).run imports).1 = .error error)
    (herror : error.IsNotFound) : Misses imports statement (.ask question statement options)
      options error
  /-- An expansion fails at the statement. -/
  | expand {sheet : Sheet} {options : Options} {trace : Trace} {error : CompileError}
    {position : Position}
    (hrun : ((Expansion.expand sheet options).run ⟨imports, trace⟩).1 = .error error)
    (hleads : Moment.Leads (start sheet options ⟨imports, trace⟩) (.rendering position))
    (hraises : position.Raises statement error
      ((Expansion.expand sheet options).run ⟨imports, trace⟩).2.imports)
    (herror : error.IsNotFound) : Misses imports statement (.expand sheet options trace) options
      error

/-- Every expansion that fails because nothing was found misses some statement. -/
theorem exists_misses_expand {sheet : Sheet} {options : Options} {imports : Imports} {trace : Trace}
    {error : CompileError}
    (hrun : ((Expansion.expand sheet options).run ⟨imports, trace⟩).1 = .error error)
    (herror : error.IsNotFound) :
    ∃ statement, Misses imports statement (.expand sheet options trace) options error := by
  obtain ⟨position, statement, hleads, hraises⟩ := blamed_of_expand hrun
  exact ⟨statement, .expand hrun hleads hraises herror⟩

/-- A turn that misses a statement leaves a miss behind, and its error lists the load paths of its
own options. -/
theorem Misses.outcome?_eq {imports : Imports} {statement : ImportStatement} {turn : Turn}
    {options : Options} {error : CompileError} (h : turn.Misses imports statement options error) :
    (turn.after imports).outcome? statement = some none ∧
      error.cause = .importNotFound statement.reference options.pathNames := by
  cases h with
  | @ask question _ _ hrun herror =>
    obtain ⟨hneeds, hfailed | ⟨hmissed, rfl⟩⟩ := Question.failsToResolve hrun
    · exact absurd herror
        (ImportStatement.not_isNotFound_of_run_findOutcome (Prod.fst_eq_iff.mp hfailed))
    · refine ⟨?_, CompileError.cause_locatedAt _ _⟩
      rw [after, Question.run_query, if_pos hneeds]
      exact ImportStatement.outcome?_of_run_findOutcome (Prod.fst_eq_iff.mp hmissed)
  | @expand sheet _ trace _ position hrun hleads hraises herror =>
    obtain ⟨raised, hlocated, rfl⟩ := hraises.located
    obtain ⟨houtcome, hcause⟩ := hlocated.of_isNotFound herror
    have hnested : position.Nested sheet options ⟨imports, trace⟩ := nested_of_leads hleads
    rw [hnested.descends.pathNames_eq] at hcause
    exact ⟨houtcome, hcause⟩

/-- **What the error of a miss lists.** Whenever a turn ends in the error that nothing was found for
a statement, just one search for the statement has been completed, then or before, and none ever
will be again: it found nothing, only searches before it failed, and it consulted all load paths of
its own options. The error names the statement's reference and the load paths of the options of the
turn, and so those that the search has consulted exactly if both sets of options name the same load
paths. -/
theorem loadPaths_of_misses {earlier : List Turn} {turn : Turn} {statement : ImportStatement}
    {options : Options} {error : CompileError}
    (h : turn.Misses (importsAfter earlier) statement options error) :
    ∃ attempt failed,
      (∀ later : List Turn,
        searchesFor statement (searchesIn (later ++ turn :: earlier)) = attempt :: failed) ∧
      attempt.result = .ok none ∧ (∀ search ∈ failed, search.Fails) ∧
      attempt.consulted = attempt.options.pathNames ∧
      error.cause = .importNotFound statement.reference options.pathNames ∧
      (error.cause = .importNotFound statement.reference attempt.consulted ↔
        options.pathNames = attempt.options.pathNames) := by
  obtain ⟨hmissed, hcause⟩ := h.outcome?_eq
  have hsettled : (importsAfter (turn :: earlier)).outcome? statement = some none := hmissed
  obtain ⟨attempt, failed, hmade, ⟨found, next, hresult, hnone⟩, hfails⟩ :=
    (remembers_searchesIn (turn :: earlier)).completed hsettled
  -- The outcome of the search is the miss.
  cases found with
  | some found => cases hnone
  | none =>
    have hconsulted := Search.consulted_of_missed hresult
    refine ⟨attempt, failed, ?_, hresult, hfails, hconsulted, hcause, ?_⟩
    · intro later
      rw [(settled_for_ever hsettled later).2, hmade]
    · rw [hcause, hconsulted, Cause.importNotFound.injEq]
      exact and_iff_right rfl

/-! ## A miss under other load paths -/

/-- Options with one load path, which has no files. -/
def emptyPath (key : Nat) (root : String) : Options :=
  ⟨none, none, [⟨key, root, []⟩], false⟩

/-- A statement that is not found. -/
def missingImport : ImportStatement :=
  ⟨0, "theme", 1⟩

/-- The statement is made, and asked for its sheet under one load path. The latest turn stands in
front. -/
def missingTurns : List Turn :=
  [.ask .sheet missingImport (emptyPath 0 "first"), .newNodes [.atImport "theme" 1]]

/-- Asked again under another load path, the statement fails with an error that lists this one,
though it has never been consulted. -/
theorem loadPaths_of_later_miss :
    ((missingImport.importedSheet (emptyPath 0 "first")).run
      (importsAfter [.newNodes [.atImport "theme" 1]])).1 =
        .error (.raisedBy (.importNotFound "theme" ["first"]) (some ⟨1, none⟩) []) ∧
      ((missingImport.importedSheet (emptyPath 1 "second")).run (importsAfter missingTurns)).1 =
        .error (.raisedBy (.importNotFound "theme" ["second"]) (some ⟨1, none⟩) []) ∧
      ((missingImport.importedSheet (emptyPath 1 "second")).run
        (importsAfter missingTurns)).2.probes = [(0, .absolute "theme")] := by
  refine ⟨?_, ?_, ?_⟩ <;> decide +kernel

/-- The second error lists what the first search has consulted exactly if the load paths have the
same names. -/
theorem missingImport_misses :
    Misses (importsAfter missingTurns) missingImport
        (.ask .sheet missingImport (emptyPath 1 "second")) (emptyPath 1 "second")
        (.raisedBy (.importNotFound "theme" ["second"]) (some ⟨1, none⟩) []) ∧
      ∃ attempt failed,
        (∀ later : List Turn, searchesFor missingImport (searchesIn
          (later ++ .ask .sheet missingImport (emptyPath 1 "second") :: missingTurns)) =
            attempt :: failed) ∧
        attempt.result = .ok none ∧ (∀ search ∈ failed, search.Fails) ∧
        attempt.consulted = attempt.options.pathNames ∧
        Cause.importNotFound "theme" ["second"] =
          .importNotFound missingImport.reference (emptyPath 1 "second").pathNames ∧
        (Cause.importNotFound "theme" ["second"] =
            .importNotFound missingImport.reference attempt.consulted ↔
          (emptyPath 1 "second").pathNames = attempt.options.pathNames) := by
  have hrun : ((Question.sheet.query missingImport (emptyPath 1 "second")).run
      (importsAfter missingTurns)).1 =
        .error (.raisedBy (.importNotFound "theme" ["second"]) (some ⟨1, none⟩) []) := by decide +kernel
  have hmisses := Misses.ask hrun ⟨"theme", ["second"], rfl⟩
  exact ⟨hmisses, loadPaths_of_misses hmisses⟩

end Turn

end Stylesheet
