import Stylesheet.Import.Expansion
import Stylesheet.Proofs.Search

/-! # Where a statement leads

Expansion locates an `@import` before it enters anything: the statement names a plain CSS file, or
its search fails or misses, or it finds a sheet that would close a loop, or one to splice.
`located_target` lists these ways once; the proofs about whole expansions follow its cases. The loop
check is put in terms of the files that are importing (`loop?_eq_none_iff`). -/

namespace Stylesheet

open Diagnostic

namespace ImportStatement

/-- After an outcome has been answered it is remembered. -/
theorem outcome?_of_run_findOutcome {statement : ImportStatement} {options : Options}
    {imports after : Imports} {outcome : Option Resolution}
    (h : (statement.findOutcome options).run imports = (.ok outcome, after)) :
    after.outcome? statement = some outcome := by
  have hanswered := answered_findOutcome statement options imports
  rw [h] at hanswered
  cases hanswered with
  | remembered hold => exact hold
  | missed => exact Imports.outcome?_settle _ _ _
  | found => exact Imports.outcome?_settle _ _ _

/-- An outcome that has been answered is answered again without any change. -/
theorem run_findOutcome_again {statement : ImportStatement} {options : Options}
    {imports after : Imports} {outcome : Option Resolution}
    (h : (statement.findOutcome options).run imports = (.ok outcome, after)) :
    (statement.findOutcome options).run after = (.ok outcome, after) :=
  run_findOutcome_of_settled (outcome?_of_run_findOutcome h) options

/-- The query for the resolution turns a miss into an error. -/
theorem run_requireFound (statement : ImportStatement) (options : Options) (imports : Imports) :
    (statement.requireFound options).run imports =
      match (statement.findOutcome options).run imports with
      | (.ok (some found), after) => (.ok found, after)
      | (.ok none, after) => (.error (statement.notFound options), after)
      | (.error error, after) => (.error error, after) := by
  rw [requireFound, run_bind]
  rcases (statement.findOutcome options).run imports with ⟨_ | _ | found, after⟩ <;> rfl

/-- Unless the reference decides it, a statement imports a plain CSS file if what it resolves to is
one. -/
theorem run_isCss (statement : ImportStatement) (options : Options) (imports : Imports)
    (h : Path.isCss statement.reference = false) :
    (statement.isCss options).run imports =
      match (statement.requireFound options).run imports with
      | (.ok found, after) => (.ok (Path.isCss found.sheet.identifier), after)
      | (.error error, after) => (.error error, after) := by
  rw [isCss, if_neg (by simp [h]), run_bind, importedSheet, run_bind]
  rcases (statement.requireFound options).run imports with ⟨_ | found, after⟩ <;> rfl

end ImportStatement

namespace Expansion

/-! ## Steps of an expansion -/

/-- A query changes the state of import resolution and nothing else. -/
theorem run_query {α : Type} (q : Query α) (s : Expansion) :
    (query q).run s = ((q.run s.imports).1, { s with imports := (q.run s.imports).2 }) := rfl

/-- A step with its errors attached ends as the step does, but for the backtrace of its error. -/
theorem run_attaching {α : Type} (step : Expand α) (s : Expansion) :
    (attaching step).run s = match step.run s with
      | (.ok value, after) => (.ok value, after)
      | (.error error, after) => (.error (after.trace.attachTo error), after) := by
  rcases hstep : step.run s with ⟨_ | _, after⟩
  all_goals
    simp only [ExceptT.run] at hstep
    simp only [attaching, tryCatch, tryCatchThe, MonadExceptOf.tryCatch, ExceptT.tryCatch,
      ExceptT.run, ExceptT.mk, bind, StateT.bind, hstep]
    rfl

/-! ## The loop check -/

/-- **No loop is found** exactly if the sheet is not the current file and no live import was opened
from it. -/
theorem loop?_eq_none_iff {trace : Trace} {current : Option String} {identifier : String} :
    loop? trace current identifier = none ↔
      current ≠ some identifier ∧
        ∀ frame ∈ trace.frames, frame.expandsImport → frame.filename ≠ some identifier := by
  rw [loop?]
  split
  · next hcurrent => simp [hcurrent]
  · next hcurrent =>
    simp [hcurrent, Trace.outermostImportFrom, Trace.outermostFirst, Trace.importsFrom]

/-- The error that importing `identifier` would close a loop. -/
def loopError (statement : ImportStatement) (options : Options) (chain : List String) :
    CompileError :=
  (CompileError.ofCause (.importLoop chain)).locatedAt (statement.location options)

/-- The loop check fails exactly if a loop is found, and changes nothing. -/
theorem run_refuseLoop (statement : ImportStatement) (identifier : String) (options : Options)
    (s : Expansion) :
    (refuseLoop statement identifier options).run s =
      match loop? s.trace options.filename identifier with
      | some chain => (.error (loopError statement options chain), s)
      | none => (.ok (), s) := by
  have hget : (get : Expand Expansion).run s = (.ok s, s) := rfl
  rw [refuseLoop, run_bind, hget]
  dsimp only
  rcases loop? s.trace options.filename identifier with _ | chain <;> rfl

/-! ## The target of a statement -/

/-- **The ways in which a statement is located**, with the result and the state of import resolution
afterwards. -/
inductive Located (statement : ImportStatement) (options : Options) (s : Expansion) :
    Except CompileError (Option (Sheet × Options)) → Imports → Prop
  /-- The reference names a plain CSS file; nothing is searched. -/
  | named (hcss : Path.isCss statement.reference = true) :
    Located statement options s (.ok none) s.imports
  /-- The search meets a broken file. -/
  | failed {error : CompileError} {imports : Imports}
    (hcss : Path.isCss statement.reference = false)
    (hrun : (statement.findOutcome options).run s.imports = (.error error, imports)) :
    Located statement options s (.error error) imports
  /-- The outcome is a miss. -/
  | missed {imports : Imports} (hcss : Path.isCss statement.reference = false)
    (hrun : (statement.findOutcome options).run s.imports = (.ok none, imports)) :
    Located statement options s (.error (statement.notFound options)) imports
  /-- The reference resolves to a plain CSS file. -/
  | plain {found : Resolution} {imports : Imports}
    (hcss : Path.isCss statement.reference = false)
    (hrun : (statement.findOutcome options).run s.imports = (.ok (some found), imports))
    (hplain : Path.isCss found.sheet.identifier = true) :
    Located statement options s (.ok none) imports
  /-- The sheet that is found would close a loop. -/
  | looping {found : Resolution} {imports : Imports} {chain : List String}
    (hcss : Path.isCss statement.reference = false)
    (hrun : (statement.findOutcome options).run s.imports = (.ok (some found), imports))
    (hplain : Path.isCss found.sheet.identifier = false)
    (hloop : loop? s.trace options.filename found.sheet.identifier = some chain) :
    Located statement options s (.error (loopError statement options chain)) imports
  /-- The sheet that is found is spliced. -/
  | spliced {found : Resolution} {imports : Imports}
    (hcss : Path.isCss statement.reference = false)
    (hrun : (statement.findOutcome options).run s.imports = (.ok (some found), imports))
    (hplain : Path.isCss found.sheet.identifier = false)
    (hloop : loop? s.trace options.filename found.sheet.identifier = none) :
    Located statement options s
      (.ok (some (found.sheet, options.forSheet found.sheet.identifier found.resolver))) imports

/-- Once the outcome for a statement is known and it is no plain CSS file, only the loop check is
left. -/
theorem run_target_of_found {statement : ImportStatement} {options : Options} {s : Expansion}
    {found : Resolution} {imports : Imports} (hcss : Path.isCss statement.reference = false)
    (hrun : (statement.findOutcome options).run s.imports = (.ok (some found), imports))
    (hplain : Path.isCss found.sheet.identifier = false) :
    (target statement options).run s =
      match loop? s.trace options.filename found.sheet.identifier with
      | some chain => (.error (loopError statement options chain), { s with imports := imports })
      | none =>
        (.ok (some (found.sheet, options.forSheet found.sheet.identifier found.resolver)),
          { s with imports := imports }) := by
  -- The question for plain CSS leaves the outcome remembered, so asking again changes nothing.
  have hisCss : (statement.isCss options).run s.imports = (.ok false, imports) := by
    rw [ImportStatement.run_isCss _ _ _ hcss, ImportStatement.run_requireFound, hrun]
    dsimp only
    rw [hplain]
  have hrequire : (statement.requireFound options).run imports = (.ok found, imports) := by
    rw [ImportStatement.run_requireFound, ImportStatement.run_findOutcome_again hrun]
  rw [target, run_bind, run_query, hisCss]
  simp only [Bool.false_eq_true, if_false]
  rw [run_bind, run_query]
  simp only [hrequire]
  rw [run_bind, run_refuseLoop]
  rcases loop? s.trace options.filename found.sheet.identifier with _ | chain <;> rfl

/-- A statement that fails the question for plain CSS, or is plain CSS, leads nowhere. -/
theorem run_target_of_isCss {statement : ImportStatement} {options : Options} {s : Expansion}
    {result : Except CompileError Bool} {imports : Imports}
    (hrun : (statement.isCss options).run s.imports = (result, imports))
    (hresult : result ≠ .ok false) :
    (target statement options).run s =
      (result.map fun _ => none, { s with imports := imports }) := by
  rw [target, run_bind, run_query, hrun]
  rcases result with error | _ | _
  · rfl
  · exact absurd rfl hresult
  · rfl

/-- **Every statement is located in one of these ways**, and no frame is opened or closed. -/
theorem located_target (statement : ImportStatement) (options : Options) (s : Expansion) :
    ∃ imports, ((target statement options).run s).2 = { s with imports := imports } ∧
      Located statement options s ((target statement options).run s).1 imports := by
  rcases hcss : Path.isCss statement.reference
  · -- The outcome decides: an error or a miss already fails the question for plain CSS.
    have hisCss := ImportStatement.run_isCss statement options s.imports hcss
    rw [ImportStatement.run_requireFound] at hisCss
    rcases hrun : (statement.findOutcome options).run s.imports with
      ⟨error | _ | found, imports⟩
    all_goals rw [hrun] at hisCss
    · rw [run_target_of_isCss hisCss (by simp)]
      exact ⟨imports, rfl, .failed hcss hrun⟩
    · rw [run_target_of_isCss hisCss (by simp)]
      exact ⟨imports, rfl, .missed hcss hrun⟩
    · rcases hplain : Path.isCss found.sheet.identifier
      · rw [run_target_of_found hcss hrun hplain]
        rcases hloop : loop? s.trace options.filename found.sheet.identifier with _ | chain
        · exact ⟨imports, rfl, .spliced hcss hrun hplain hloop⟩
        · exact ⟨imports, rfl, .looping hcss hrun hplain hloop⟩
      · dsimp only at hisCss
        rw [run_target_of_isCss hisCss (by simp [hplain])]
        exact ⟨imports, rfl, .plain hcss hrun hplain⟩
  · -- The reference decides, and nothing is asked.
    have hisCss : (statement.isCss options).run s.imports = (.ok true, s.imports) := by
      rw [ImportStatement.isCss, if_pos hcss]
      rfl
    rw [run_target_of_isCss hisCss (by simp)]
    exact ⟨s.imports, rfl, .named hcss⟩

/-- An error with which a statement is located takes the live frames along. -/
theorem run_attaching_target (statement : ImportStatement) (options : Options) (s : Expansion) :
    ∃ result imports, Located statement options s result imports ∧
      (attaching (target statement options)).run s =
        (result.mapError s.trace.attachTo, { s with imports := imports }) := by
  obtain ⟨imports, hafter, hlocated⟩ := located_target statement options s
  refine ⟨_, imports, hlocated, ?_⟩
  rw [run_attaching]
  rcases hrun : (target statement options).run s with ⟨error | value, after⟩
  all_goals
    rw [hrun] at hafter
    cases hafter
    rfl

end Expansion

end Stylesheet
