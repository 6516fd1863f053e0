import Stylesheet.Proofs.Nesting

/-! # Searches made for a statement

Asking a statement for its outcome makes a **search** as long as no outcome is remembered for it
(`ImportStatement.search?`). Whatever else a computation does with the state of import resolution,
it is a sequence of such askings, and the searches made on the way are its log
(`Imports.Searching`). The log accounts for every lookup that resolvers receive
(`Searching.probes_eq`), and the memory agrees with it (`Imports.Remembers`): a statement is
unresolved as long as all searches made for it failed, and the first one that did not fail is the
last. -/

namespace Stylesheet

open Diagnostic

/-- A **search** that is made for a statement under some options. -/
structure Search where
  /-- The statement. -/
  statement : ImportStatement
  /-- The options. -/
  options : Options

namespace Search

/-- What the search ends with. -/
def result (search : Search) : Except CompileError (Option Found) :=
  search.options.find search.statement.reference

/-- The search ends in an error of a resolver. -/
def Fails (search : Search) : Prop :=
  ∃ error, search.result = .error error

/-- The search is completed with an outcome: a sheet, whose statements have been numbered from some
key on, or a miss. -/
def EndsWith (search : Search) (outcome : Option Resolution) : Prop :=
  ∃ found next, search.result = .ok found ∧ outcome = found.map (·.resolution next)

/-- The lookups that resolvers receive on behalf of the search, the latest in front. -/
def probes (search : Search) : List (Nat × Probe) :=
  ((SearchPlace.asked search.statement.reference search.options.searchPlaces).map fun place =>
    (place.resolver.key, place.probe search.statement.reference)).reverse

end Search

/-- The searches in a log that were made for a statement. -/
def searchesFor (statement : ImportStatement) (log : List Search) : List Search :=
  log.filter (·.statement.key = statement.key)

@[simp] theorem searchesFor_append (statement : ImportStatement) (made log : List Search) :
    searchesFor statement (made ++ log) =
      searchesFor statement made ++ searchesFor statement log :=
  List.filter_append _ _

/-- The search that is made when a statement is asked for its outcome: none if one is remembered. -/
def ImportStatement.search? (statement : ImportStatement) (options : Options)
    (imports : Imports) : Option Search :=
  match imports.outcome? statement with
  | none => some ⟨statement, options⟩
  | some _ => none

/-- **Searches are made** between one state and another, the latest in front. -/
inductive Imports.Searching (before : Imports) : List Search → Imports → Prop
  /-- Nothing has been asked. -/
  | nothing : Searching before [] before
  /-- A statement is asked for its outcome. -/
  | ask {made : List Search} {after : Imports} (h : Searching before made after)
    (statement : ImportStatement) (options : Options) :
    Searching before ((statement.search? options after).toList ++ made)
      ((statement.findOutcome options).run after).2

/-! ## Lookups -/

namespace Imports

/-- A search logs its lookups in front of the earlier ones. -/
theorem probes_afterSearch (imports : Imports) (statement : ImportStatement) (options : Options) :
    (imports.afterSearch statement.reference options).probes =
      Search.probes ⟨statement, options⟩ ++ imports.probes := by
  rw [afterSearch, Search.probes]
  induction SearchPlace.asked statement.reference options.searchPlaces generalizing imports with
  | nil => rfl
  | cons place rest ih =>
    rw [List.foldl_cons, ih, List.map_cons, List.reverse_cons, List.append_assoc]
    rfl

/-- Asking a statement for its outcome logs the lookups of the search that is made. -/
theorem probes_findOutcome (statement : ImportStatement) (options : Options) (imports : Imports) :
    ((statement.findOutcome options).run imports).2.probes =
      (statement.search? options imports).toList.flatMap Search.probes ++ imports.probes := by
  have hanswered := statement.answered_findOutcome options imports
  generalize (statement.findOutcome options).run imports = run at hanswered
  obtain ⟨answer, after⟩ := run
  dsimp only at hanswered ⊢
  have hprobes := probes_afterSearch imports statement options
  -- Remembering what has been found logs no lookups.
  have hsettled : ∀ count outcome, (statement.settled options count outcome imports).probes =
      (imports.afterSearch statement.reference options).probes := fun _ _ => rfl
  cases hanswered with
  | remembered hold => simp [ImportStatement.search?, hold]
  | missed hnew => simp [ImportStatement.search?, hnew, hsettled, hprobes]
  | found hnew => simp [ImportStatement.search?, hnew, hsettled, hprobes]
  | failed hnew => simp [ImportStatement.search?, hnew, hprobes]

namespace Searching

variable {before between after : Imports} {made more : List Search}

/-- Asking a statement for its outcome makes its search. -/
theorem single (imports : Imports) (statement : ImportStatement) (options : Options) :
    imports.Searching (statement.search? options imports).toList
      ((statement.findOutcome options).run imports).2 := by
  have hasked := (nothing : imports.Searching [] imports).ask statement options
  rwa [List.append_nil] at hasked

/-- Searches are made one after the other. -/
theorem trans (h : before.Searching made between) (h' : between.Searching more after) :
    before.Searching (more ++ made) after := by
  induction h' with
  | nothing => exact h
  | ask _ statement options ih =>
    rw [List.append_assoc]
    exact ih.ask statement options

/-- **Every lookup** is made on behalf of a search. -/
theorem probes_eq (h : before.Searching made after) :
    after.probes = made.flatMap Search.probes ++ before.probes := by
  induction h with
  | nothing => rfl
  | ask _ statement options ih =>
    rw [probes_findOutcome, ih, List.flatMap_append, List.append_assoc]

end Searching

end Imports

/-! ## Memory -/

namespace Imports

/-- Statements with one key have one outcome. -/
theorem outcome?_congr {imports : Imports} {first second : ImportStatement}
    (h : first.key = second.key) : imports.outcome? first = imports.outcome? second := by
  rw [outcome?, h, outcome?]

/-- **The memory agrees with the log** of searches: a statement is unresolved if every search made
for it failed, and otherwise the latest one was completed with the outcome that is remembered, and
only the earlier ones failed. -/
def Remembers (imports : Imports) (log : List Search) : Prop :=
  ∀ statement, match imports.outcome? statement with
    | none => ∀ search ∈ searchesFor statement log, search.Fails
    | some outcome => ∃ latest earlier, searchesFor statement log = latest :: earlier ∧
      latest.EndsWith outcome ∧ ∀ search ∈ earlier, search.Fails

variable {imports before after : Imports} {log made : List Search}

/-- The latest search for a statement that is settled was completed with its outcome, and only the
earlier ones failed. -/
theorem Remembers.completed (h : imports.Remembers log) {statement : ImportStatement}
    {outcome : Option Resolution} (hsettled : imports.outcome? statement = some outcome) :
    ∃ latest earlier, searchesFor statement log = latest :: earlier ∧
      latest.EndsWith outcome ∧ ∀ search ∈ earlier, search.Fails := by
  have hmemory := h statement
  rw [hsettled] at hmemory
  exact hmemory

/-- A statement is unresolved exactly if every search made for it failed. -/
theorem Remembers.outcome?_eq_none_iff (h : imports.Remembers log) (statement : ImportStatement) :
    imports.outcome? statement = none ↔
      ∀ search ∈ searchesFor statement log, search.Fails := by
  constructor
  · intro hnone
    have hmemory := h statement
    rw [hnone] at hmemory
    exact hmemory
  · -- A completed search is no failed one.
    intro hfails
    by_contra hsome
    obtain ⟨outcome, hsettled⟩ := Option.ne_none_iff_exists'.mp hsome
    obtain ⟨latest, earlier, hmade, ⟨found, next, hresult, -⟩, -⟩ := h.completed hsettled
    obtain ⟨error, herror⟩ := hfails latest (hmade ▸ List.mem_cons_self)
    rw [hresult] at herror
    cases herror

/-- A completed search is remembered. -/
theorem Remembers.settled (h : imports.Remembers log) {statement : ImportStatement}
    (hnew : imports.outcome? statement = none) {options : Options} {outcome : Option Resolution}
    (hends : Search.EndsWith ⟨statement, options⟩ outcome) (count : Nat) :
    (statement.settled options count outcome imports).Remembers (⟨statement, options⟩ :: log) := by
  intro other
  rw [ImportStatement.outcome?_settled]
  by_cases hkey : statement.key = other.key
  · -- All searches so far were made in vain.
    have hfailed := h other
    rw [← outcome?_congr hkey, hnew] at hfailed
    rw [if_pos hkey]
    refine ⟨⟨statement, options⟩, searchesFor other log, ?_, hends, hfailed⟩
    simp [searchesFor, hkey]
  · -- A statement with another key has neither a new outcome nor a new search.
    have hsame : searchesFor other (⟨statement, options⟩ :: log) = searchesFor other log := by
      simp [searchesFor, hkey]
    rw [if_neg hkey, hsame]
    exact h other

/-- A search that fails leaves the memory alone. -/
theorem Remembers.failed (h : imports.Remembers log) {statement : ImportStatement}
    (hnew : imports.outcome? statement = none) {options : Options}
    (hfails : Search.Fails ⟨statement, options⟩) :
    (imports.afterSearch statement.reference options).Remembers (⟨statement, options⟩ :: log) := by
  intro other
  rw [outcome?_afterSearch]
  by_cases hkey : statement.key = other.key
  · have hfailed := h other
    rw [← outcome?_congr hkey, hnew] at hfailed ⊢
    intro search hmem
    have hcons : searchesFor other (⟨statement, options⟩ :: log) =
        ⟨statement, options⟩ :: searchesFor other log := by
      simp [searchesFor, hkey]
    rw [hcons, List.mem_cons] at hmem
    rcases hmem with rfl | hmem
    · exact hfails
    · exact hfailed search hmem
  · have hsame : searchesFor other (⟨statement, options⟩ :: log) = searchesFor other log := by
      simp [searchesFor, hkey]
    rw [hsame]
    exact h other

/-- Asking a statement for its outcome keeps memory and log in agreement. -/
theorem Remembers.ask (h : imports.Remembers log) (statement : ImportStatement)
    (options : Options) :
    ((statement.findOutcome options).run imports).2.Remembers
      ((statement.search? options imports).toList ++ log) := by
  have hanswered := statement.answered_findOutcome options imports
  generalize (statement.findOutcome options).run imports = run at hanswered
  obtain ⟨answer, after⟩ := run
  dsimp only at hanswered ⊢
  cases hanswered with
  | remembered hold =>
    rw [ImportStatement.search?, hold]
    exact h
  | missed hnew hfind =>
    rw [ImportStatement.search?, hnew]
    exact h.settled hnew ⟨none, 0, hfind, rfl⟩ _
  | found hnew hfind =>
    rw [ImportStatement.search?, hnew]
    exact h.settled hnew ⟨some _, imports.nextStatement, hfind, rfl⟩ _
  | failed hnew hfind =>
    rw [ImportStatement.search?, hnew]
    exact h.failed hnew ⟨_, hfind⟩

/-- **Memory and log stay in agreement** while searches are made. -/
theorem Remembers.searching (h : before.Remembers log) (hsearching : before.Searching made after) :
    after.Remembers (made ++ log) := by
  induction hsearching with
  | nothing => exact h
  | ask _ statement options ih =>
    rw [List.append_assoc]
    exact ih.ask statement options

/-- **An outcome stays**, and no search is made any more for a statement that has one. -/
theorem Searching.of_settled (h : before.Searching made after) {statement : ImportStatement}
    {outcome : Option Resolution} (hsettled : before.outcome? statement = some outcome) :
    after.outcome? statement = some outcome ∧ searchesFor statement made = [] := by
  induction h with
  | nothing => exact ⟨hsettled, rfl⟩
  | @ask made after _ other options ih =>
    obtain ⟨hold, hnone⟩ := ih
    refine ⟨(other.answered_findOutcome options after).keeps statement outcome hold, ?_⟩
    rw [searchesFor_append, hnone, List.append_nil]
    by_cases hkey : other.key = statement.key
    · -- The statement itself answers from memory.
      rw [ImportStatement.search?, outcome?_congr hkey, hold]
      rfl
    · cases hsearch : other.search? options after with
      | none => rfl
      | some search =>
        rw [ImportStatement.search?] at hsearch
        split at hsearch
        · cases hsearch
          simp [searchesFor, hkey]
        · cases hsearch

end Imports

end Stylesheet
