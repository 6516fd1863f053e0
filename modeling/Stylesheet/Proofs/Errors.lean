import Stylesheet.Proofs.Nesting

/-! # Where errors come from

An expansion fails at one statement. The error gets its location and its backtrace there, once, and
then leaves one sheet after the other as it is. So the failing statement can be told from the error:
`ImportStatement.FailsWith` says how a statement fails, with the error as it is located there, and
`expand_error` that the error of an expansion is such an error, followed by one step for each
statement around the failing one and by the frames that were live before. -/

namespace Stylesheet

open Diagnostic Expansion

/-- **The ways in which a statement fails** that is rendered under `options` in the state `s`, each
with the error as it is located at the statement. -/
inductive ImportStatement.FailsWith (statement : ImportStatement) (options : Options)
    (s : Expansion) : CompileError → Prop
  /-- Nothing is found for the statement. -/
  | missing (houtcome : ((statement.findOutcome options).run s.imports).1 = .ok none) :
    FailsWith statement options s
      (.raisedBy (.importNotFound statement.reference options.pathNames)
        (some ⟨statement.line, options.filename⟩) [])
  /-- The sheet that is found would close a loop. -/
  | looping {found : Resolution} {chain : List String}
    (houtcome : ((statement.findOutcome options).run s.imports).1 = .ok (some found))
    (hloop : loop? s.trace options.filename found.sheet.identifier = some chain) :
    FailsWith statement options s
      (.raisedBy (.importLoop chain) (some ⟨statement.line, options.filename⟩) [])
  /-- The search meets a broken file, whose own location comes first. -/
  | broken {resolver : Resolver} {path message : String}
    (hresolver : resolver ∈ options.resolvers)
    (hfile : resolver.file? path = some (.broken message))
    (hfind : options.find statement.reference = .error (resolver.brokenFile path message)) :
    FailsWith statement options s
      (.raisedBy (.custom message) (some ⟨1, some (resolver.identifier path)⟩)
        [⟨⟨statement.line, options.filename⟩, none⟩])

namespace Expansion

open Moment

/-- Whatever error a statement is located with, the statement fails with it. -/
theorem Located.failsWith {statement : ImportStatement} {options : Options} {s : Expansion}
    {error : CompileError} {imports : Imports}
    (h : Located statement options s (.error error) imports) :
    statement.FailsWith options s error := by
  cases h with
  | @failed error imports _ hrun =>
    have hanswered := statement.answered_findOutcome options s.imports
    rw [hrun] at hanswered
    cases hanswered with
    | failed _ hfind =>
      obtain ⟨resolver, hresolver, path, message, hfile, rfl⟩ := Options.broken_of_find hfind
      exact .broken hresolver hfile hfind
  | missed _ hrun => exact .missing (by rw [hrun])
  | looping _ hrun _ hloop => exact .looping (by rw [hrun]) hloop

/-! ## The failing statement -/

namespace Position

/-- The next statement of the innermost sheet **raises** an error, which leaves the state `imports`
of import resolution behind: the statement fails, and the error takes the live frames along. -/
structure Raises (position : Position) (statement : ImportStatement) (error : CompileError)
    (imports : Imports) : Prop where
  /-- The statement is the next node. -/
  nodes : ∃ rest, position.level.nodes = .atImport statement :: rest
  /-- It fails with the error, but for the live frames. -/
  located : ∃ raised,
    Located statement position.level.options position.state (.error raised) imports ∧
      error = raised.viaAll position.state.trace.backtrace
  /-- The error begins to leave the sheet. -/
  advance : position.advance =
    .raising error { position with state := { position.state with imports := imports } }

/-- From a position the expansion goes on, or ends well, or the next statement raises an error. -/
theorem advance_cases (position : Position) :
    (∃ later, position.advance = .rendering later) ∨
      (∃ text after, position.advance = .ended (.ok text) after) ∨
      ∃ statement error imports, position.Raises statement error imports := by
  rcases hnodes : position.level.nodes with _ | ⟨text | statement, rest⟩
  · -- The sheet is at its end, and the expansion with it if no other waits.
    rcases houter : position.outer with _ | ⟨waiting, outer⟩
    · refine Or.inr (Or.inl ⟨Sheet.joinPieces position.level.pieces, position.state.closed, ?_⟩)
      rw [advance, hnodes, houter]
    · refine Or.inl ⟨⟨waiting.resume (Sheet.joinPieces position.level.pieces), outer,
        position.state.closed⟩, ?_⟩
      rw [advance, hnodes, houter]
  · -- Rendered CSS is written.
    refine Or.inl ⟨position.wrote text rest position.state, ?_⟩
    rw [advance, hnodes]
  · -- A statement is rendered in its place, entered or left with an error.
    obtain ⟨result, imports, hlocated, hadvance⟩ := advance_atImport hnodes
    rcases result with raised | _ | ⟨sheet, nested⟩
    · exact Or.inr (Or.inr ⟨statement, _, imports, ⟨rest, hnodes⟩, ⟨raised, hlocated, rfl⟩,
        hadvance⟩)
    · exact Or.inl ⟨_, hadvance⟩
    · exact Or.inl ⟨_, hadvance⟩

end Position

/-- Some statement that was rendered has raised the error and left the state behind. -/
def Blamed (first : Moment) (error : CompileError) (imports : Imports) : Prop :=
  ∃ position statement, Leads first (.rendering position) ∧
    position.Raises statement error imports

/-- **Every error has been raised by a statement**, both one that is on its way out and one that the
expansion ended with. -/
def Moment.Blames (first : Moment) : Moment → Prop
  | rendering _ => True
  | raising error position => Blamed first error position.state.imports
  | ended (.ok _) _ => True
  | ended (.error error) after => Blamed first error after.imports

/-- From one moment to the next an error is raised or carried on. -/
theorem Moment.Blames.next {first moment : Moment} (h : first.Blames moment)
    (hleads : Leads first moment) : first.Blames moment.next := by
  match moment with
  | rendering position =>
    show first.Blames position.advance
    rcases position.advance_cases with
      ⟨later, hlater⟩ | ⟨text, after, hended⟩ | ⟨statement, error, imports, hraises⟩
    · rw [hlater]
      trivial
    · rw [hended]
      trivial
    · rw [hraises.advance]
      exact ⟨position, statement, hleads, hraises⟩
  | raising error ⟨_, [], _⟩ => exact h
  | raising error ⟨_, _ :: _, _⟩ => exact h
  | ended (.ok _) _ => exact h
  | ended (.error _) _ => exact h

variable {top : Sheet} {options : Options} {s : Expansion}

/-- Throughout an expansion every error has been raised by a statement. -/
theorem blames_of_leads {moment : Moment} (h : Leads (start top options s) moment) :
    (start top options s).Blames moment := by
  refine h.induction trivial ?_
  intro moment hleads hblames
  exact hblames.next hleads

/-- **The error of an expansion** has been raised by a statement. -/
theorem blamed_of_expand {error : CompileError}
    (h : ((expand top options).run s).1 = .error error) :
    Blamed (start top options s) error ((expand top options).run s).2.imports := by
  have hends := ends_expand top options s
  rw [h] at hends
  exact blames_of_leads hends

/-! ## Where errors are located -/

/-- The **step** that a sheet that waits adds to a backtrace: the statement that it waits for. -/
def Waiting.step (waiting : Waiting) : BacktraceStep :=
  ⟨⟨waiting.statement.line, waiting.options.filename⟩,
    some ("@import \"" ++ waiting.statement.reference ++ "\"")⟩

/-- At every position the backtrace has one step for each sheet that waits, and none for the base
frame. -/
theorem Position.Nested.backtrace_eq {position : Position} (h : position.Nested top options s) :
    position.state.trace.backtrace = position.outer.map Waiting.step ++ s.trace.backtrace := by
  have hsteps : (position.outer.map Waiting.frame).filterMap Frame.step? =
      position.outer.map Waiting.step := by
    rw [List.filterMap_map, ← List.filterMap_eq_map]
    rfl
  rw [Trace.backtrace, h.frames, List.filterMap_append, hsteps]
  rfl

/-- **Errors are located exactly**, and the frames are restored, whether an expansion fails or not.
The error is that of one statement, which is rendered inside the sheets that wait; after what the
statement fails with, the backtrace has one step for each statement around it, innermost first, and
then the frames from before. -/
theorem expand_error (sheet : Sheet) (options : Options) (s : Expansion) :
    ((expand sheet options).run s).2.trace = s.trace ∧
      ∀ error, ((expand sheet options).run s).1 = .error error →
        ∃ position statement rest raised after,
          Leads (start sheet options s) (.rendering position) ∧
            position.level.nodes = .atImport statement :: rest ∧
            position.advance = .raising error after ∧
            Descends position.state.imports sheet options position.level.sheet
              position.level.options position.outer ∧
            statement.FailsWith position.level.options position.state raised ∧
            error = raised.viaAll (position.outer.map Waiting.step ++ s.trace.backtrace) := by
  refine ⟨nested_of_leads (ends_expand sheet options s), fun error herror => ?_⟩
  obtain ⟨position, statement, hleads, hraises⟩ := blamed_of_expand herror
  obtain ⟨rest, hnodes⟩ := hraises.nodes
  obtain ⟨raised, hlocated, hbacktrace⟩ := hraises.located
  have hnested : position.Nested sheet options s := nested_of_leads hleads
  rw [hnested.backtrace_eq] at hbacktrace
  exact ⟨position, statement, rest, raised, _, hleads, hnodes, hraises.advance, hnested.descends,
    hlocated.failsWith, hbacktrace⟩

/-- The error of sheets that import each other comes from a statement of one of them. -/
theorem mutualError_located :
    ((expand mutualSheet mutualOptions).run mutualStart).1 = .error mutualError ∧
      ∃ position statement rest raised after,
        Leads (start mutualSheet mutualOptions mutualStart) (.rendering position) ∧
          position.level.nodes = .atImport statement :: rest ∧
          position.advance = .raising mutualError after ∧
          Descends position.state.imports mutualSheet mutualOptions position.level.sheet
            position.level.options position.outer ∧
          statement.FailsWith position.level.options position.state raised ∧
          mutualError =
            raised.viaAll (position.outer.map Waiting.step ++ mutualStart.trace.backtrace) :=
  ⟨expand_mutualSheet,
    (expand_error mutualSheet mutualOptions mutualStart).2 mutualError expand_mutualSheet⟩

end Expansion

end Stylesheet
