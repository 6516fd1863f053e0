import Stylesheet.Proofs.Turns

/-! # Moments that come again

What comes after a moment of an expansion depends on the state of the imports only by the answer to
the query for one outcome. So the moments of an expansion can be followed over another state of the
imports (`Moment.withImports`): as long as each statement that is asked is answered from memory with
what it was answered before, the moments come again and no search is made
(`Moment.iterate_next_withImports`). A search that fails sends an error on its way out, and nothing
is searched any more (`Moment.Carries`). -/

namespace Stylesheet

open Diagnostic

/-- The answer to the query for the outcome that a search is to find, and the state after it. -/
def Search.ask (search : Search) (imports : Imports) :
    Except CompileError (Option Resolution) × Imports :=
  (search.statement.findOutcome search.options).run imports

namespace Search

/-- A search that fails where nothing is remembered is the answer, and only its lookups are left. -/
theorem ask_of_result_error {search : Search} {imports : Imports} {error : CompileError}
    (hnew : imports.outcome? search.statement = none) (hresult : search.result = .error error) :
    search.ask imports =
      (.error (error.locatedAt (search.statement.location search.options)),
        imports.afterSearch search.statement.reference search.options) := by
  have hsearch := Imports.run_searchFor search.statement.reference search.options imports
  rw [show search.options.find search.statement.reference = .error error from hresult] at hsearch
  exact ImportStatement.run_findOutcome_of_search_error hnew hsearch

/-- A statement that is asked has an outcome afterwards, unless the search for it fails. -/
theorem ask_cases (search : Search) (imports : Imports) :
    (∃ outcome, (search.ask imports).1 = .ok outcome ∧
        (search.ask imports).2.outcome? search.statement = some outcome) ∨
      imports.outcome? search.statement = none ∧ search.Fails := by
  have hanswered := search.statement.answered_findOutcome search.options imports
  rcases hrun : search.ask imports with ⟨error | outcome, after⟩
  · -- Only a search that fails answers with an error.
    rw [show (search.statement.findOutcome search.options).run imports = (.error error, after)
      from hrun] at hanswered
    cases hanswered with
    | failed hnew hfind => exact Or.inr ⟨hnew, _, hfind⟩
  · exact Or.inl ⟨outcome, rfl, ImportStatement.outcome?_of_run_findOutcome hrun⟩

end Search

namespace Expansion

open Moment

/-! ## Locating a statement by the answer to its query -/

/-- What a statement is located as, given the answer to the query for its outcome. -/
def locatedBy (statement : ImportStatement) (options : Options) (trace : Trace) :
    Except CompileError (Option Resolution) → Except CompileError (Option (Sheet × Options))
  | .error error => .error error
  | .ok none => .error (statement.notFound options)
  | .ok (some found) =>
    if Path.isCss found.sheet.identifier then .ok none
    else
      match loop? trace options.filename found.sheet.identifier with
      | some chain => .error (loopError statement options chain)
      | none => .ok (some (found.sheet, options.forSheet found.sheet.identifier found.resolver))

/-- However a statement is located, the answer to the query for the outcome decides it. -/
theorem Located.eq_locatedBy {statement : ImportStatement} {options : Options} {s : Expansion}
    {result : Except CompileError (Option (Sheet × Options))} {imports : Imports}
    (h : Located statement options s result imports) :
    (result, imports) =
      if Path.isCss statement.reference then (.ok none, s.imports)
      else
        (locatedBy statement options s.trace (Search.ask ⟨statement, options⟩ s.imports).1,
          (Search.ask ⟨statement, options⟩ s.imports).2) := by
  rw [Search.ask]
  cases h with
  | named hcss => rw [if_pos hcss]
  | failed hcss hrun => rw [if_neg (by simp [hcss]), hrun, locatedBy]
  | missed hcss hrun => rw [if_neg (by simp [hcss]), hrun, locatedBy]
  | plain hcss hrun hplain => rw [if_neg (by simp [hcss]), hrun, locatedBy, if_pos hplain]
  | looping hcss hrun hplain hloop =>
    rw [if_neg (by simp [hcss]), hrun, locatedBy, if_neg (by simp [hplain]), hloop]
  | spliced hcss hrun hplain hloop =>
    rw [if_neg (by simp [hcss]), hrun, locatedBy, if_neg (by simp [hplain]), hloop]

/-- **Locating a statement** depends on the state of import resolution only by the answer to the
query for the outcome. -/
theorem run_attaching_target_eq (statement : ImportStatement) (options : Options) (s : Expansion) :
    (attaching (target statement options)).run s =
      if Path.isCss statement.reference then (.ok none, s)
      else
        ((locatedBy statement options s.trace
            (Search.ask ⟨statement, options⟩ s.imports).1).mapError s.trace.attachTo,
          { s with imports := (Search.ask ⟨statement, options⟩ s.imports).2 }) := by
  obtain ⟨result, imports, hlocated, hrun⟩ := run_attaching_target statement options s
  have heq := hlocated.eq_locatedBy
  rw [hrun]
  by_cases hcss : Path.isCss statement.reference = true
  · rw [if_pos hcss] at heq ⊢
    obtain ⟨rfl, rfl⟩ := Prod.mk.inj heq
    rfl
  · rw [if_neg hcss] at heq ⊢
    obtain ⟨rfl, rfl⟩ := Prod.mk.inj heq
    rfl

/-! ## The same moment over another state -/

/-- The position with another state of import resolution. -/
def Position.withImports (position : Position) (imports : Imports) : Position :=
  { position with state := { position.state with imports := imports } }

namespace Moment

/-- The moment with another state of import resolution. -/
def withImports (imports : Imports) : Moment → Moment
  | rendering position => rendering (position.withImports imports)
  | raising error position => raising error (position.withImports imports)
  | ended result s => ended result { s with imports := imports }

/-- The statement that is **asked** for its outcome at a moment, with the options that it is asked
under: the next node is an `@import` whose reference is no plain CSS file. -/
def asked? : Moment → Option Search
  | rendering position =>
    match position.level.nodes with
    | .atImport statement :: _ =>
      if Path.isCss statement.reference then none else some ⟨statement, position.level.options⟩
    | _ => none
  | _ => none

/-- The state of import resolution that a moment leaves if it comes over the state `imports`. -/
def leaves (moment : Moment) (imports : Imports) : Imports :=
  match moment.asked? with
  | none => imports
  | some search => (search.ask imports).2

@[simp] theorem asked?_withImports (imports : Imports) (moment : Moment) :
    (moment.withImports imports).asked? = moment.asked? := by
  cases moment <;> rfl

@[simp] theorem state_imports_withImports (imports : Imports) (moment : Moment) :
    (moment.withImports imports).state.imports = imports := by
  cases moment <;> rfl

@[simp] theorem state_trace_withImports (imports : Imports) (moment : Moment) :
    (moment.withImports imports).state.trace = moment.state.trace := by
  cases moment <;> rfl

@[simp] theorem withImports_state_imports (moment : Moment) :
    moment.withImports moment.state.imports = moment := by
  cases moment <;> rfl

/-- A search is made for the statement that is asked if it has no outcome yet. -/
theorem search?_eq_bind (moment : Moment) :
    moment.search? = moment.asked?.bind fun search =>
      search.statement.search? search.options moment.state.imports := by
  cases moment with
  | raising => rfl
  | ended => rfl
  | rendering position =>
    rcases hnodes : position.level.nodes with _ | ⟨text | statement, rest⟩
    · simp only [search?, asked?, hnodes, Option.bind_none]
    · simp only [search?, asked?, hnodes, Option.bind_none]
    · simp only [search?, asked?, hnodes]
      split <;> rfl

/-- The statement that is asked at a moment is one of the sheet that is being rendered. -/
theorem exists_of_asked? {moment : Moment} {search : Search} (h : moment.asked? = some search) :
    ∃ position rest, moment = rendering position ∧
      position.level.nodes = .atImport search.statement :: rest ∧
      position.level.options = search.options ∧
      Path.isCss search.statement.reference = false := by
  cases moment with
  | raising => cases h
  | ended => cases h
  | rendering position =>
    rw [asked?] at h
    split at h
    · next statement rest hnodes =>
      split at h
      · cases h
      · next hcss =>
        cases h
        exact ⟨position, rest, rfl, hnodes, rfl, Bool.eq_false_iff.mpr hcss⟩
    · cases h

/-- **The same moment over another state** leads to the same next moment, if the statement that is
asked gives the same answer. -/
theorem next_withImports {moment : Moment} {imports : Imports}
    (hsame : ∀ search, moment.asked? = some search →
      (search.ask imports).1 = (search.ask moment.state.imports).1) :
    (moment.withImports imports).next = moment.next.withImports (moment.leaves imports) := by
  match moment with
  | raising _ ⟨_, [], _⟩ => rfl
  | raising _ ⟨_, _ :: _, _⟩ => rfl
  | ended _ _ => rfl
  | rendering ⟨⟨sheet, options, pieces, nodes⟩, outer, s⟩ =>
    rcases nodes with _ | ⟨text | statement, rest⟩
    · cases outer <;> rfl
    · rfl
    · simp only [withImports, Position.withImports, next, Position.advance,
        run_attaching_target_eq, leaves, asked?] at hsame ⊢
      by_cases hcss : Path.isCss statement.reference = true
      · simp only [hcss, if_true]
        rfl
      · -- The answer decides what comes after the statement.
        simp only [if_neg hcss] at hsame ⊢
        have hanswer : (Search.ask ⟨statement, options⟩ imports).1 =
            (Search.ask ⟨statement, options⟩ s.imports).1 := hsame _ rfl
        rw [hanswer]
        rcases locatedBy statement options s.trace (Search.ask ⟨statement, options⟩ s.imports).1
          with error | _ | ⟨sheet, nested⟩ <;> rfl

/-- A moment leaves its own state to the next. -/
theorem imports_next (moment : Moment) :
    moment.next.state.imports = moment.leaves moment.state.imports := by
  have hnext : (moment.withImports moment.state.imports).next =
      moment.next.withImports (moment.leaves moment.state.imports) :=
    next_withImports fun _ _ => rfl
  rw [withImports_state_imports] at hnext
  rw [hnext, state_imports_withImports]

/-! ## Moments that come from memory -/

/-- A moment **recalls** its answer from a later state: the statement that is asked, if there is one,
was answered with the outcome that the state remembers for it. -/
def Recalls (later : Imports) (moment : Moment) : Prop :=
  ∀ search, moment.asked? = some search → ∃ outcome,
    later.outcome? search.statement = some outcome ∧
      (search.ask moment.state.imports).1 = .ok outcome

variable {moment first : Moment} {later : Imports}

/-- A moment that recalls its answer comes again, makes no search and changes nothing. -/
theorem Recalls.again (h : moment.Recalls later) :
    (moment.withImports later).next = moment.next.withImports later ∧
      (moment.withImports later).search? = none := by
  have hask : ∀ search, moment.asked? = some search →
      search.ask later = ((search.ask moment.state.imports).1, later) := by
    intro search hasked
    obtain ⟨outcome, hremembered, hanswer⟩ := h search hasked
    rw [hanswer]
    exact ImportStatement.run_findOutcome_of_settled hremembered search.options
  constructor
  · rw [next_withImports fun search hasked => by rw [hask search hasked], leaves]
    cases hasked : moment.asked? with
    | none => rfl
    | some search => exact congrArg (moment.next.withImports ·.2) (hask search hasked)
  · rw [search?_eq_bind, asked?_withImports, state_imports_withImports]
    cases hasked : moment.asked? with
    | none => rfl
    | some search =>
      obtain ⟨outcome, hremembered, -⟩ := h search hasked
      simp [ImportStatement.search?, hremembered]

/-- **As long as every moment recalls its answer**, the moments come again over the later state, and
no search is made. -/
theorem iterate_next_withImports {count : Nat}
    (h : ∀ earlier < count, (Moment.next^[earlier] first).Recalls later) :
    Moment.next^[count] (first.withImports later) =
        (Moment.next^[count] first).withImports later ∧
      (first.withImports later).searches count = [] := by
  induction count with
  | zero => exact ⟨rfl, rfl⟩
  | succ count ih =>
    obtain ⟨hsame, hnone⟩ := ih fun earlier hlt => h earlier (Nat.lt_succ_of_lt hlt)
    obtain ⟨hnext, hsearch⟩ := (h count (Nat.lt_succ_self count)).again
    constructor
    · rw [Function.iterate_succ_apply', Function.iterate_succ_apply', hsame, hnext]
    · rw [Moment.searches, hsame, hsearch, hnone]
      rfl

/-! ## Moments of an error on its way out -/

/-- At this moment an error is **on its way out**, or the expansion has ended with it, over a state
of import resolution. -/
def Carries (error : CompileError) (imports : Imports) : Moment → Prop
  | rendering _ => False
  | raising raised position => raised = error ∧ position.state.imports = imports
  | ended result s => result = .error error ∧ s.imports = imports

variable {error : CompileError} {imports : Imports}

/-- An error that is on its way out stays so, and the state of import resolution with it. -/
theorem Carries.next (h : moment.Carries error imports) : moment.next.Carries error imports := by
  match moment with
  | raising _ ⟨_, [], _⟩ => exact ⟨congrArg _ h.1, h.2⟩
  | raising _ ⟨_, _ :: _, _⟩ => exact h
  | ended _ _ => exact h

/-- While an error is on its way out nothing is searched. -/
theorem Carries.search?_eq_none (h : moment.Carries error imports) : moment.search? = none := by
  cases moment with
  | rendering => exact h.elim
  | raising => rfl
  | ended => rfl

/-- **A failing search** of the statement that is asked sends an error on its way out. -/
theorem carries_next_of_asked {search : Search} (hasked : moment.asked? = some search)
    (hnew : moment.state.imports.outcome? search.statement = none)
    (hresult : search.result = .error error) :
    moment.next.Carries
      ((error.locatedAt (search.statement.location search.options)).viaAll
        moment.state.trace.backtrace)
      (moment.state.imports.afterSearch search.statement.reference search.options) := by
  obtain ⟨position, rest, rfl, hnodes, hoptions, hcss⟩ := exists_of_asked? hasked
  obtain ⟨statement, options⟩ := search
  dsimp only at hnodes hoptions hcss ⊢
  subst hoptions
  have hask : Search.ask ⟨statement, position.level.options⟩ position.state.imports = _ :=
    Search.ask_of_result_error hnew hresult
  rw [next, Position.advance, hnodes]
  dsimp only
  rw [run_attaching_target_eq, if_neg (by simp [hcss]), hask]
  exact ⟨rfl, rfl⟩

/-- A moment on the way to the end leads to the end. -/
theorem Leads.to_end {result : Except CompileError String} {s : Expansion}
    (h : Leads first moment) (hend : Leads first (ended result s)) :
    Leads moment (ended result s) := by
  obtain ⟨count, rfl⟩ := h
  obtain ⟨more, hmore⟩ := hend
  refine ⟨more, ?_⟩
  rw [← Function.iterate_add_apply, Nat.add_comm, Function.iterate_add_apply, hmore,
    iterate_next_ended]

/-- No outcome is forgotten on the way from one moment to another. -/
theorem Leads.keeps (h : Leads first moment) : first.state.imports.Keeps moment.state.imports := by
  refine h.induction (P := fun moment => first.state.imports.Keeps moment.state.imports)
    (fun _ _ hold => hold) ?_
  intro between _ hkeeps statement outcome hold
  exact (between.searching_next.of_settled (hkeeps statement outcome hold)).1

/-- From a number of moments on nothing is searched, so the searches are those made before. -/
theorem searches_eq_of_le {count more : Nat}
    (hsilent : ∀ later, count ≤ later → (Moment.next^[later] first).search? = none)
    (hle : count ≤ more) : first.searches more = first.searches count := by
  induction more, hle using Nat.le_induction with
  | base => rfl
  | succ more hle ih =>
    rw [Moment.searches, hsilent more hle, ih]
    rfl

end Moment

end Expansion

end Stylesheet
