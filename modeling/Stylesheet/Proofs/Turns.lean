import Stylesheet.Proofs.Attempts

/-! # Statements in the course of time

Import resolution goes on in **turns** (`Turn`): statements are asked one of seven questions, each
time under options of their own, sheets are expanded, and meanwhile resolvers and nodes are made and
resolvers are asked directly. The turns alone decide which searches are made (`searchesIn`). An
expansion makes them at the moments at which an `@import` is next (`Moment.search?`). Of all
searches for one statement only the last may be completed, and it fixes the outcome
(`searched_until_completed`). -/

namespace Stylesheet

open Diagnostic

/-! ## Questions -/

/-- The **questions** that a statement can be asked. -/
inductive Question where
  /-- What is the outcome? -/
  | outcome
  /-- What is found, a miss being an error? -/
  | found
  /-- Which sheet is imported? -/
  | sheet
  /-- Is this a plain CSS import? -/
  | plainCss
  /-- What is the cache key? -/
  | cacheKey
  /-- Has the imported sheet an empty text? -/
  | emptiness
  /-- Which sheet has been resolved already? -/
  | remembered

namespace Question

/-- What a question is answered with. -/
abbrev Answer : Question → Type
  | outcome => Option Resolution
  | found => Resolution
  | sheet => Sheet
  | plainCss => Bool
  | cacheKey => Option String
  | emptiness => Bool
  | remembered => Option Sheet

/-- Asks a statement a question. -/
def query : (question : Question) → ImportStatement → Options → Query question.Answer
  | outcome, statement, options => statement.findOutcome options
  | found, statement, options => statement.requireFound options
  | sheet, statement, options => statement.importedSheet options
  | plainCss, statement, options => statement.isCss options
  | cacheKey, statement, options => statement.cacheKey options
  | emptiness, statement, options => statement.rendersEmpty options
  | remembered, statement, _ => return (← get).resolvedSheet? statement

/-- The answer to the question **needs the outcome**: all do but the last, and a reference to a
plain CSS file decides the question whether it is one. -/
def needsOutcome (question : Question) (statement : ImportStatement) : Bool :=
  match question with
  | plainCss => !Path.isCss statement.reference
  | remembered => false
  | _ => true

/-- The searches that a question makes. -/
def searches (question : Question) (statement : ImportStatement) (options : Options)
    (imports : Imports) : List Search :=
  if question.needsOutcome statement then (statement.search? options imports).toList else []

/-- The sheet that a statement imports is that of its resolution. -/
theorem run_importedSheet (statement : ImportStatement) (options : Options) (imports : Imports) :
    ((statement.importedSheet options).run imports).2 =
      ((statement.findOutcome options).run imports).2 := by
  rw [ImportStatement.importedSheet, run_bind, ImportStatement.run_requireFound]
  rcases (statement.findOutcome options).run imports with ⟨_ | _ | found, after⟩ <;> rfl

/-- **A question changes the state** of import resolution as asking for the outcome does, if it
needs the outcome, and otherwise not at all. -/
theorem run_query (question : Question) (statement : ImportStatement) (options : Options)
    (imports : Imports) :
    ((question.query statement options).run imports).2 =
      if question.needsOutcome statement then ((statement.findOutcome options).run imports).2
      else imports := by
  cases question with
  | outcome => rfl
  | found =>
    show ((statement.requireFound options).run imports).2 = _
    rw [ImportStatement.run_requireFound]
    rcases (statement.findOutcome options).run imports with ⟨_ | _ | found, after⟩ <;> rfl
  | sheet => exact run_importedSheet statement options imports
  | plainCss =>
    show ((statement.isCss options).run imports).2 = _
    cases hcss : Path.isCss statement.reference with
    | true =>
      rw [ImportStatement.isCss, if_pos hcss, needsOutcome, hcss]
      rfl
    | false =>
      rw [ImportStatement.run_isCss _ _ _ hcss, ImportStatement.run_requireFound, needsOutcome,
        hcss]
      rcases (statement.findOutcome options).run imports with ⟨_ | _ | found, after⟩ <;> rfl
  | cacheKey =>
    show ((statement.cacheKey options).run imports).2 = _
    rw [ImportStatement.cacheKey, run_bind]
    rcases (statement.findOutcome options).run imports with ⟨_ | _ | found, after⟩ <;> rfl
  | emptiness =>
    show ((statement.rendersEmpty options).run imports).2 =
      ((statement.findOutcome options).run imports).2
    rw [← run_importedSheet, ImportStatement.rendersEmpty, run_bind]
    rcases (statement.importedSheet options).run imports with ⟨_ | sheet, after⟩ <;> rfl
  | remembered => rfl

/-- A question makes its searches. -/
theorem searching_query (question : Question) (statement : ImportStatement) (options : Options)
    (imports : Imports) :
    imports.Searching (question.searches statement options imports)
      ((question.query statement options).run imports).2 := by
  rw [run_query, searches]
  split
  · exact .single imports statement options
  · exact .nothing

end Question

/-! ## Searches of an expansion -/

namespace Expansion

/-- The search that is made at a moment: the next node is an `@import` whose reference is no plain
CSS file and which has no outcome yet. -/
def Moment.search? : Moment → Option Search
  | rendering position =>
    match position.level.nodes with
    | .atImport statement :: _ =>
      if Path.isCss statement.reference then none
      else statement.search? position.level.options position.state.imports
    | _ => none
  | _ => none

/-- The searches that are made in a number of moments. -/
def Moment.searches (moment : Moment) : Nat → List Search
  | 0 => []
  | count + 1 => (Moment.next^[count] moment).search?.toList ++ moment.searches count

/-- The moment is the end. -/
def Moment.hasEnded : Moment → Bool
  | ended _ _ => true
  | _ => false

/-- Locating a statement makes a search unless its reference is plain CSS. -/
theorem Located.searching {statement : ImportStatement} {options : Options} {s : Expansion}
    {result : Except CompileError (Option (Sheet × Options))} {imports : Imports}
    (h : Located statement options s result imports) :
    s.imports.Searching (if Path.isCss statement.reference then none
      else statement.search? options s.imports : Option Search).toList imports := by
  have hasked : ∀ answer, (statement.findOutcome options).run s.imports = (answer, imports) →
      Path.isCss statement.reference = false →
      s.imports.Searching (if Path.isCss statement.reference then none
        else statement.search? options s.imports : Option Search).toList imports := by
    intro answer hrun hcss
    have hone := Imports.Searching.single s.imports statement options
    rw [hrun] at hone
    rw [hcss]
    exact hone
  cases h with
  | named hcss =>
    rw [hcss]
    exact .nothing
  | failed hcss hrun => exact hasked _ hrun hcss
  | missed hcss hrun => exact hasked _ hrun hcss
  | plain hcss hrun => exact hasked _ hrun hcss
  | looping hcss hrun => exact hasked _ hrun hcss
  | spliced hcss hrun => exact hasked _ hrun hcss

/-- **From one moment to the next** the search of the moment is made. -/
theorem Moment.searching_next (moment : Moment) :
    moment.state.imports.Searching moment.search?.toList moment.next.state.imports := by
  match moment with
  | raising _ ⟨_, [], _⟩ => exact .nothing
  | raising _ ⟨_, _ :: _, _⟩ => exact .nothing
  | ended _ _ => exact .nothing
  | rendering position =>
    rcases hnodes : position.level.nodes with _ | ⟨text | statement, rest⟩
    · -- The sheet is at its end, and nothing is asked.
      rcases houter : position.outer with _ | ⟨waiting, outer⟩
      all_goals
        rw [next, Position.advance, search?, hnodes, houter]
        exact .nothing
    · rw [next, Position.advance, search?, hnodes]
      exact .nothing
    · -- However the statement is located, the search is made before anything is entered.
      obtain ⟨result, imports, hlocated, hadvance⟩ := Position.advance_atImport hnodes
      have hsearching := hlocated.searching
      rw [next, hadvance, search?, hnodes]
      rcases result with error | _ | ⟨sheet, nested⟩ <;> exact hsearching

/-- In a number of moments their searches are made. -/
theorem Moment.searching (moment : Moment) (count : Nat) :
    moment.state.imports.Searching (moment.searches count)
      (Moment.next^[count] moment).state.imports := by
  induction count with
  | zero => exact .nothing
  | succ count ih =>
    rw [Function.iterate_succ_apply']
    exact ih.trans (searching_next _)

/-- Every expansion has ended after some number of moments. -/
theorem exists_hasEnded (sheet : Sheet) (options : Options) (s : Expansion) :
    ∃ count, (Moment.next^[count] (start sheet options s)).hasEnded = true := by
  obtain ⟨count, hcount⟩ := ends_expand sheet options s
  exact ⟨count, by rw [hcount]; rfl⟩

/-- The searches that are made until an expansion has ended. -/
def searches (sheet : Sheet) (options : Options) (s : Expansion) : List Search :=
  (start sheet options s).searches (Nat.find (exists_hasEnded sheet options s))

/-- **An expansion makes the searches of its moments.** -/
theorem searching_expand (sheet : Sheet) (options : Options) (s : Expansion) :
    s.imports.Searching (searches sheet options s) ((expand sheet options).run s).2.imports := by
  have hended := Nat.find_spec (exists_hasEnded sheet options s)
  have hsearching := (start sheet options s).searching (Nat.find (exists_hasEnded sheet options s))
  rw [← searches] at hsearching
  generalize hlast : Moment.next^[Nat.find (exists_hasEnded sheet options s)]
    (start sheet options s) = last at hended hsearching
  -- There is one end, and it has the state that the expansion leaves.
  cases last with
  | rendering => cases hended
  | raising => cases hended
  | ended result after =>
    have hleads : Moment.Leads (start sheet options s) (.ended result after) := ⟨_, hlast⟩
    rw [← (hleads.ended_unique (ends_expand sheet options s)).2]
    exact hsearching

/-- The search of a moment is for no reference to a plain CSS file. -/
theorem Moment.not_isCss_of_search? {moment : Moment} {search : Search}
    (h : moment.search? = some search) : Path.isCss search.statement.reference = false := by
  cases moment with
  | raising => cases h
  | ended => cases h
  | rendering position =>
    rw [search?] at h
    split at h
    · next statement rest hnodes =>
      split at h
      · cases h
      · next hcss =>
        rw [ImportStatement.search?] at h
        split at h
        · cases h
          exact Bool.eq_false_iff.mpr hcss
        · cases h
    · cases h

/-- An expansion makes no search for a reference to a plain CSS file. -/
theorem not_isCss_of_mem_searches {sheet : Sheet} {options : Options} {s : Expansion}
    {search : Search} (h : search ∈ searches sheet options s) :
    Path.isCss search.statement.reference = false := by
  rw [searches] at h
  generalize Nat.find (exists_hasEnded sheet options s) = count at h
  induction count with
  | zero => cases h
  | succ count ih =>
    rw [Moment.searches, List.mem_append, Option.mem_toList] at h
    rcases h with h | h
    · exact Moment.not_isCss_of_search? h
    · exact ih h

end Expansion

/-! ## Turns -/

/-- What may **happen** to import resolution. A turn may name any statement, whether it has been
issued or not; the runs in which only issued statements are named are among all runs. -/
inductive Turn where
  /-- A resolver is made. -/
  | newResolver (root : String) (files : List (String × SheetFile))
  /-- The nodes of a sheet are made. -/
  | newNodes (items : List Item)
  /-- A resolver is asked directly. -/
  | lookUp (resolver : Resolver) (probe : Probe)
  /-- A statement is asked a question. -/
  | ask (question : Question) (statement : ImportStatement) (options : Options)
  /-- A sheet is expanded while the frames of a trace are live. -/
  | expand (sheet : Sheet) (options : Options) (trace : Trace)

namespace Turn

/-- The state after a turn. -/
def after (imports : Imports) : Turn → Imports
  | newResolver root files => ((Imports.newResolver root files).run imports).2
  | newNodes items => ((Imports.newNodes items).run imports).2
  | lookUp resolver probe => imports.logProbe resolver probe
  | ask question statement options => ((question.query statement options).run imports).2
  | expand sheet options trace => ((Expansion.expand sheet options).run ⟨imports, trace⟩).2.imports

/-- The searches that a turn makes for statements, the latest in front. -/
def searches (imports : Imports) : Turn → List Search
  | ask question statement options => question.searches statement options imports
  | expand sheet options trace => Expansion.searches sheet options ⟨imports, trace⟩
  | _ => []

/-- The lookup that a turn asks a resolver for directly, if it does. -/
def direct? : Turn → Option (Nat × Probe)
  | lookUp resolver probe => some (resolver.key, probe)
  | _ => none

/-- **A turn makes its searches**, after a lookup that it asks for directly. -/
theorem searching (turn : Turn) (imports : Imports) :
    ∃ ready : Imports, ready.outcomes = imports.outcomes ∧
      ready.probes = turn.direct?.toList ++ imports.probes ∧
      ready.Searching (turn.searches imports) (turn.after imports) := by
  cases turn with
  | newResolver root files => exact ⟨after imports (newResolver root files), rfl, rfl, .nothing⟩
  | newNodes items =>
    refine ⟨after imports (newNodes items), ?_, ?_, .nothing⟩
    all_goals
      rw [after, Imports.run_newNodes]
      rfl
  | lookUp resolver probe => exact ⟨imports.logProbe resolver probe, rfl, rfl, .nothing⟩
  | ask question statement options =>
    exact ⟨imports, rfl, rfl, question.searching_query statement options imports⟩
  | expand sheet options trace =>
    exact ⟨imports, rfl, rfl, Expansion.searching_expand sheet options ⟨imports, trace⟩⟩

end Turn

/-- The state after a number of turns, the latest in front. -/
def importsAfter : List Turn → Imports
  | [] => .empty
  | turn :: earlier => turn.after (importsAfter earlier)

/-- The searches that a number of turns make. In both lists the latest stands in front. -/
def searchesIn : List Turn → List Search
  | [] => []
  | turn :: earlier => turn.searches (importsAfter earlier) ++ searchesIn earlier

namespace Turn

/-- What is remembered is a matter of the outcomes. -/
theorem remembers_of_outcomes_eq {before after : Imports} {log : List Search}
    (h : before.Remembers log) (hsame : after.outcomes = before.outcomes) :
    after.Remembers log := by
  intro statement
  rw [Imports.outcome?, hsame]
  exact h statement

/-- **After every run the memory agrees** with the searches that have been made. -/
theorem remembers_searchesIn (turns : List Turn) :
    (importsAfter turns).Remembers (searchesIn turns) := by
  induction turns with
  | nil =>
    intro statement
    have hnone : Imports.empty.outcome? statement = none := by
      simp [Imports.outcome?, Imports.empty]
    rw [importsAfter, hnone]
    simp [searchesIn, searchesFor]
  | cons turn earlier ih =>
    obtain ⟨ready, houtcomes, -, hsearching⟩ := turn.searching (importsAfter earlier)
    exact (remembers_of_outcomes_eq ih houtcomes).searching hsearching

/-- **An outcome stays for ever**, and no later turn searches for a statement that has one. -/
theorem settled_for_ever {turns : List Turn} {statement : ImportStatement}
    {outcome : Option Resolution}
    (hsettled : (importsAfter turns).outcome? statement = some outcome) (later : List Turn) :
    (importsAfter (later ++ turns)).outcome? statement = some outcome ∧
      searchesFor statement (searchesIn (later ++ turns)) =
        searchesFor statement (searchesIn turns) := by
  induction later with
  | nil => exact ⟨hsettled, rfl⟩
  | cons turn later ih =>
    obtain ⟨hold, hsame⟩ := ih
    obtain ⟨ready, houtcomes, -, hsearching⟩ := turn.searching (importsAfter (later ++ turns))
    have hready : ready.outcome? statement = some outcome := by
      rw [Imports.outcome?, houtcomes]
      exact hold
    obtain ⟨hafter, hnone⟩ := hsearching.of_settled hready
    refine ⟨hafter, ?_⟩
    rw [List.cons_append, searchesIn, searchesFor_append, hnone, hsame]
    rfl

/-- **A statement is searched for until a search is completed.** After every run of turns,
- the statement is unresolved exactly if every search made for it so far has failed, and then each
  question that needs the outcome makes a search,
- otherwise the latest search made for it was completed with the outcome that is remembered, while
  all earlier ones failed; then the outcome stays whatever happens later, nothing is searched for
  the statement any more, the outcome is answered under all options, and no question changes the
  state of import resolution,
- a reference to a plain CSS file answers the question whether it is one without a search, an
  expansion never searches for one, and the question for what has been resolved already never
  searches.
Resolvers receive no other lookups than those of the searches and those they are asked directly. -/
theorem searched_until_completed (turns : List Turn) (statement : ImportStatement) :
    let imports := importsAfter turns
    let made := searchesFor statement (searchesIn turns)
    (imports.outcome? statement = none ↔ ∀ search ∈ made, search.Fails) ∧
    (imports.outcome? statement = none → ∀ (question : Question) (options : Options),
      question.needsOutcome statement = true →
        (ask question statement options).searches imports = [⟨statement, options⟩]) ∧
    (∀ outcome, imports.outcome? statement = some outcome →
      (∃ latest earlier, made = latest :: earlier ∧ latest.EndsWith outcome ∧
        ∀ search ∈ earlier, search.Fails) ∧
      (∀ later : List Turn, (importsAfter (later ++ turns)).outcome? statement = some outcome ∧
        searchesFor statement (searchesIn (later ++ turns)) = made) ∧
      (∀ options : Options,
        (statement.findOutcome options).run imports = (.ok outcome, imports)) ∧
      (∀ (question : Question) (options : Options),
        ((question.query statement options).run imports).2 = imports)) ∧
    (Path.isCss statement.reference = true → ∀ options : Options,
      (statement.isCss options).run imports = (.ok true, imports)) ∧
    (∀ (sheet : Sheet) (options : Options) (trace : Trace),
      ∀ search ∈ (expand sheet options trace).searches imports,
        Path.isCss search.statement.reference = false) ∧
    (∀ options : Options, (Question.remembered.query statement options).run imports =
      (.ok (imports.resolvedSheet? statement), imports)) ∧
    (∀ turn : Turn, (turn.after imports).probes =
      (turn.searches imports).flatMap Search.probes ++ turn.direct?.toList ++ imports.probes) := by
  intro imports made
  have hremembers := remembers_searchesIn turns
  refine ⟨hremembers.outcome?_eq_none_iff statement, ?_, ?_, ?_, ?_, ?_, ?_⟩
  · intro hnone question options hneeds
    rw [searches, Question.searches, if_pos hneeds, ImportStatement.search?, hnone]
    rfl
  · intro outcome hsettled
    have hasked : ∀ options : Options,
        (statement.findOutcome options).run imports = (.ok outcome, imports) :=
      ImportStatement.run_findOutcome_of_settled hsettled
    refine ⟨hremembers.completed hsettled, settled_for_ever hsettled, hasked, ?_⟩
    intro question options
    rw [Question.run_query, hasked]
    split <;> rfl
  · intro hcss options
    rw [ImportStatement.isCss, if_pos hcss]
    rfl
  · intro sheet options trace search hmem
    exact Expansion.not_isCss_of_mem_searches hmem
  · intro options
    rfl
  · intro turn
    obtain ⟨ready, -, hprobes, hsearching⟩ := turn.searching imports
    rw [hsearching.probes_eq, hprobes, List.append_assoc]

/-- A statement is searched for where a file is broken, then where there is none, and then asked
once more. The latest turn stands in front. -/
def retrying : List Turn :=
  let broken : Resolver := ⟨0, "broken", [("theme.scss", .broken "expected a value")]⟩
  let statement : ImportStatement := ⟨0, "theme", 1⟩
  [.ask .cacheKey statement ⟨none, none, [broken], false⟩,
    .ask .outcome statement .default,
    .ask .found statement ⟨none, none, [broken], false⟩,
    .newNodes [.atImport "theme" 1]]

/-- The search that misses is the second and the last. -/
example : (searchesFor ⟨0, "theme", 1⟩ (searchesIn retrying)).length = 2 ∧
    ((importsAfter retrying).outcome? ⟨0, "theme", 1⟩).isSome = true := by
  decide +kernel

end Turn

end Stylesheet
