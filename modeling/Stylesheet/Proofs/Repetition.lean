import Stylesheet.Proofs.Errors
import Stylesheet.Proofs.Replay
import Stylesheet.Proofs.Termination

/-! # Expanding a sheet again

An expansion leaves what it has resolved in memory. Expand the same sheet again under the same
options and frames, and every moment of the first expansion comes again, as long as each statement
that is asked answers what it answered the first time. It does so from memory, unless its search has
failed; then it is searched for again, fails again, and nothing is asked after it. So the second
expansion ends as the first one did, and it makes no search but the one that failed
(`Turn.expand_again`). What happens between the two makes no difference if it leaves the statements
alone that the sheet leads to. -/

namespace Stylesheet

open Diagnostic

namespace Expansion

open Moment

variable {top : Sheet} {options : Options} {s : Expansion}

/-! ## The statements that are asked -/

/-- All the way down, the sheets are made of statements that the sheet at the top leads to. -/
theorem Descends.leadsTo {imports : Imports} {sheet : Sheet} {nested : Options}
    {outer : List Waiting} (h : Descends imports top options sheet nested outer) :
    ∀ statement ∈ sheet.imports, imports.LeadsTo top statement := by
  induction h with
  | top => exact fun statement hmem => .own hmem
  | @enter waiting outer found _ hrest hfound _ ih =>
    -- The sheet that waits is made of such statements, and one of them has resolved to this sheet.
    have hmem : waiting.statement ∈ waiting.sheet.imports :=
      Sheet.mem_imports.mpr (hrest.subset List.mem_cons_self)
    exact fun inner hinner => (ih waiting.statement hmem).inner hfound hinner

/-- **Every statement that an expansion asks** is one that the sheet leads to in the end. -/
theorem leadsTo_of_asked {moment : Moment} {search : Search}
    (h : Leads (start top options s) moment) (hasked : moment.asked? = some search) :
    ((expand top options).run s).2.imports.LeadsTo top search.statement := by
  obtain ⟨position, rest, rfl, hnodes, -⟩ := Moment.exists_of_asked? hasked
  have hnested : position.Nested top options s := nested_of_leads h
  have hkeeps : position.state.imports.Keeps ((expand top options).run s).2.imports :=
    (h.to_end (ends_expand top options s)).keeps
  refine (hnested.descends.of_keeps hkeeps).leadsTo _ (Sheet.mem_imports.mpr ?_)
  exact hnested.rest.subset (hnodes ▸ List.mem_cons_self)

/-! ## Two expansions -/

/-- The searches of an expansion are those made before nothing is searched any more. -/
theorem searches_eq_of_silent {count : Nat} (hsilent : ∀ later, count ≤ later →
      (Moment.next^[later] (start top options s)).search? = none) :
    searches top options s = (start top options s).searches count := by
  have hended := Nat.find_spec (exists_hasEnded top options s)
  rw [searches]
  generalize Nat.find (exists_hasEnded top options s) = last at hended
  -- Nothing is searched after the end either, so both are the searches up to the later of the two.
  have hafter : ∀ later, last ≤ later →
      (Moment.next^[later] (start top options s)).search? = none := by
    intro later hle
    obtain ⟨more, rfl⟩ := Nat.exists_eq_add_of_le hle
    rw [Nat.add_comm, Function.iterate_add_apply]
    generalize Moment.next^[last] (start top options s) = moment at hended
    cases moment with
    | rendering => cases hended
    | raising => cases hended
    | ended => rw [iterate_next_ended]; rfl
  rw [← Moment.searches_eq_of_le hafter (Nat.le_max_left last count),
    Moment.searches_eq_of_le hsilent (Nat.le_max_right last count)]

/-- An expansion ends with the error that is on its way out. -/
theorem expand_of_carries {error : CompileError} {imports : Imports} {count : Nat}
    (h : (Moment.next^[count] (start top options s)).Carries error imports) :
    (expand top options).run s = (.error error, ⟨imports, s.trace⟩) ∧
      searches top options s = (start top options s).searches count := by
  have hcarries : ∀ more,
      (Moment.next^[more + count] (start top options s)).Carries error imports := by
    intro more
    induction more with
    | zero => rwa [Nat.zero_add]
    | succ more ih =>
      rw [Nat.add_right_comm, Function.iterate_succ_apply']
      exact ih.next
  constructor
  · have hends := ends_expand top options s
    obtain ⟨more, hmore⟩ := Leads.to_end ⟨count, rfl⟩ hends
    have hlast := hcarries more
    rw [Function.iterate_add_apply, hmore] at hlast
    obtain ⟨hresult, himports⟩ := hlast
    have htrace : ((expand top options).run s).2.trace = s.trace := nested_of_leads hends
    refine Prod.ext hresult ?_
    rw [← himports, ← htrace]
  · refine searches_eq_of_silent fun later hle => ?_
    obtain ⟨more, rfl⟩ := Nat.exists_eq_add_of_le' hle
    exact (hcarries more).search?_eq_none

/-- At a moment a statement without an outcome is asked, and the search for it fails. -/
def Moment.FailsAt (moment : Moment) (search : Search) : Prop :=
  moment.asked? = some search ∧
    moment.state.imports.outcome? search.statement = none ∧ search.Fails

/-- A moment at which no search fails recalls its answer in the end. -/
theorem recalls_of_not_failsAt {moment : Moment} (h : Leads (start top options s) moment)
    (hfails : ∀ search, ¬ moment.FailsAt search) :
    moment.Recalls ((expand top options).run s).2.imports := by
  intro search hasked
  rcases search.ask_cases moment.state.imports with ⟨outcome, hanswer, hremembered⟩ | hfailed
  · -- What is remembered after the moment stays until the end.
    have hkeeps := ((h.trans (.next moment)).to_end (ends_expand top options s)).keeps
    have hleaves : moment.next.state.imports = (search.ask moment.state.imports).2 := by
      rw [Moment.imports_next, Moment.leaves, hasked]
    exact ⟨outcome, hkeeps _ _ (hleaves ▸ hremembered), hanswer⟩
  · exact absurd ⟨hasked, hfailed⟩ (hfails search)

/-- **Either no search fails**, and every moment recalls its answer in the end, or one does, and all
moments before it recall theirs. -/
theorem recalls_or_failsAt (top : Sheet) (options : Options) (s : Expansion) :
    (∀ count, (Moment.next^[count] (start top options s)).Recalls
        ((expand top options).run s).2.imports) ∨
      ∃ count search, (Moment.next^[count] (start top options s)).FailsAt search ∧
        ∀ earlier < count, (Moment.next^[earlier] (start top options s)).Recalls
          ((expand top options).run s).2.imports := by
  by_cases hfails : ∃ count search, (Moment.next^[count] (start top options s)).FailsAt search
  · classical
    obtain ⟨search, hsearch⟩ := Nat.find_spec hfails
    refine Or.inr ⟨Nat.find hfails, search, hsearch, fun earlier hlt => ?_⟩
    exact recalls_of_not_failsAt ⟨earlier, rfl⟩ (not_exists.mp (Nat.find_min hfails hlt))
  · refine Or.inl fun count => ?_
    exact recalls_of_not_failsAt ⟨count, rfl⟩ (not_exists.mp (not_exists.mp hfails count))

/-- Where no search fails, an expansion ends in no error of a resolver. -/
theorem cause_ne_custom_of_recalls
    (h : ∀ count, (Moment.next^[count] (start top options s)).Recalls
      ((expand top options).run s).2.imports) {error : CompileError}
    (herror : ((expand top options).run s).1 = .error error) (message : String) :
    error.cause ≠ .custom message := by
  obtain ⟨position, statement, ⟨count, hcount⟩, hraises⟩ := blamed_of_expand herror
  obtain ⟨rest, hnodes⟩ := hraises.nodes
  obtain ⟨raised, hlocated, rfl⟩ := hraises.located
  cases hlocated with
  | failed hcss hrun =>
    -- The statement that raises the error would have been answered with an outcome.
    have hasked : (Moment.rendering position).asked? =
        some ⟨statement, position.level.options⟩ := by
      simp only [Moment.asked?, hnodes, hcss, Bool.false_eq_true, if_false]
    obtain ⟨outcome, -, hanswer⟩ := (hcount ▸ h count) _ hasked
    have hfailed : (Search.ask ⟨statement, position.level.options⟩ position.state.imports).1 =
        .error raised := congrArg Prod.fst hrun
    cases hfailed.symm.trans hanswer
  | missed => exact fun hcustom => by cases hcustom
  | looping => exact fun hcustom => by cases hcustom

variable {trace : Trace} {before later : Imports}

/-- If all moments recall their answers, the expansion comes again, and no search is made. -/
theorem expand_of_recalls
    (h : ∀ count, (Moment.next^[count] (start top options ⟨before, trace⟩)).Recalls later) :
    (expand top options).run ⟨later, trace⟩ =
        (((expand top options).run ⟨before, trace⟩).1, ⟨later, trace⟩) ∧
      searches top options ⟨later, trace⟩ = [] := by
  -- The second expansion begins as the first does, over the later state.
  have hagain : ∀ count, Moment.next^[count] (start top options ⟨later, trace⟩) =
        (Moment.next^[count] (start top options ⟨before, trace⟩)).withImports later ∧
      (start top options ⟨later, trace⟩).searches count = [] :=
    fun count => Moment.iterate_next_withImports fun earlier _ => h earlier
  refine ⟨?_, (hagain _).2⟩
  have hends := ends_expand top options ⟨before, trace⟩
  have htrace : ((expand top options).run ⟨before, trace⟩).2.trace = trace := nested_of_leads hends
  obtain ⟨count, hcount⟩ := hends
  refine leads_ended_iff.mp ⟨count, ?_⟩
  rw [(hagain count).1, hcount, Moment.withImports, htrace]

/-- **An expansion ends at the moment of a failing search**, with the error of the search. -/
theorem expand_of_failsAt {count : Nat} {search : Search} {error : CompileError}
    (h : (Moment.next^[count] (start top options s)).FailsAt search)
    (hresult : search.result = .error error) :
    (expand top options).run s =
        (.error ((error.locatedAt (search.statement.location search.options)).viaAll
            (Moment.next^[count] (start top options s)).state.trace.backtrace),
          ⟨(Moment.next^[count] (start top options s)).state.imports.afterSearch
            search.statement.reference search.options, s.trace⟩) ∧
      searches top options s = search :: (start top options s).searches count := by
  obtain ⟨hasked, hnew, -⟩ := h
  have hcarries := Moment.carries_next_of_asked hasked hnew hresult
  rw [← Function.iterate_succ_apply' Moment.next] at hcarries
  obtain ⟨hrun, hsearches⟩ := expand_of_carries hcarries
  refine ⟨hrun, ?_⟩
  rw [hsearches, Moment.searches, Moment.search?_eq_bind, hasked, Option.bind_some,
    ImportStatement.search?, hnew]
  rfl

/-- A moment at which a search fails blames the statement that is asked for the error. -/
theorem raises_of_failsAt {count : Nat} {search : Search} {error : CompileError}
    (h : (Moment.next^[count] (start top options s)).FailsAt search)
    (herror : ((expand top options).run s).1 = .error error) :
    ∃ position, Leads (start top options s) (.rendering position) ∧
      position.level.options = search.options ∧
      position.Raises search.statement error ((expand top options).run s).2.imports := by
  obtain ⟨raised, hresult⟩ := h.2.2
  obtain ⟨hrun, -⟩ := expand_of_failsAt h hresult
  obtain ⟨hasked, hnew, -⟩ := h
  have hcarries := Moment.carries_next_of_asked hasked hnew hresult
  obtain ⟨position, rest, hmoment, hnodes, hoptions, -⟩ := Moment.exists_of_asked? hasked
  rw [hrun] at herror ⊢
  cases herror
  rw [hmoment] at hcarries ⊢
  refine ⟨position, ⟨count, hmoment⟩, hoptions, ?_⟩
  -- Nothing but a statement that raises an error leads from a position to an error on its way out.
  have hadvance : (Moment.rendering position).next = position.advance := rfl
  rcases position.advance_cases with
    ⟨later, hlater⟩ | ⟨text, after, hended⟩ | ⟨statement, error, imports, hraises⟩
  · rw [hadvance, hlater] at hcarries
    exact hcarries.elim
  · rw [hadvance, hended] at hcarries
    cases hcarries.1
  · rw [hadvance, hraises.advance] at hcarries
    obtain ⟨rfl, rfl⟩ := hcarries
    obtain ⟨other, hother⟩ := hraises.nodes
    rw [hnodes] at hother
    cases hother
    exact hraises

/-- **An expansion comes again** over a later state in which all statements that the sheet leads to
have the outcomes that the first expansion has left them with. It ends as the first one did, and if
that was in no error of a resolver, then nothing is searched and nothing changes; otherwise the
search that failed is made again, and no other. -/
theorem expand_again_of_outcomes
    (hsame : ∀ statement,
      ((expand top options).run ⟨before, trace⟩).2.imports.LeadsTo top statement →
        later.outcome? statement =
          ((expand top options).run ⟨before, trace⟩).2.imports.outcome? statement) :
    ((expand top options).run ⟨later, trace⟩).1 = ((expand top options).run ⟨before, trace⟩).1 ∧
      ((∀ error message, ((expand top options).run ⟨before, trace⟩).1 = .error error →
            error.cause ≠ .custom message) →
          ((expand top options).run ⟨later, trace⟩).2 = ⟨later, trace⟩ ∧
            searches top options ⟨later, trace⟩ = []) ∧
      ∀ error message, ((expand top options).run ⟨before, trace⟩).1 = .error error →
        error.cause = .custom message →
        ∃ search earlier position,
          searches top options ⟨before, trace⟩ = search :: earlier ∧ search.Fails ∧
            Leads (start top options ⟨before, trace⟩) (.rendering position) ∧
            position.level.options = search.options ∧
            position.Raises search.statement error
              ((expand top options).run ⟨before, trace⟩).2.imports ∧
            searches top options ⟨later, trace⟩ = [search] ∧
            ((expand top options).run ⟨later, trace⟩).2 =
              ⟨later.afterSearch search.statement.reference search.options, trace⟩ := by
  have hrecalls : ∀ count, (Moment.next^[count] (start top options ⟨before, trace⟩)).Recalls
        ((expand top options).run ⟨before, trace⟩).2.imports →
      (Moment.next^[count] (start top options ⟨before, trace⟩)).Recalls later := by
    intro count h search hasked
    rw [hsame _ (leadsTo_of_asked ⟨count, rfl⟩ hasked)]
    exact h search hasked
  rcases recalls_or_failsAt top options ⟨before, trace⟩ with hall | ⟨count, search, hfails, hall⟩
  · -- No search fails.
    obtain ⟨hrun, hsearches⟩ := expand_of_recalls fun count => hrecalls count (hall count)
    rw [hrun]
    refine ⟨rfl, fun _ => ⟨rfl, hsearches⟩, fun error message herror hcustom => ?_⟩
    exact absurd hcustom (cause_ne_custom_of_recalls hall herror message)
  · -- A search fails, and all before it comes again.
    obtain ⟨error, hresult⟩ := hfails.2.2
    obtain ⟨hrun, hsearches⟩ := expand_of_failsAt hfails hresult
    obtain ⟨hagain, hnone⟩ := Moment.iterate_next_withImports
      fun earlier hlt => hrecalls earlier (hall earlier hlt)
    have hsecond : Moment.next^[count] (start top options ⟨later, trace⟩) =
      (Moment.next^[count] (start top options ⟨before, trace⟩)).withImports later := hagain
    have hlater : later.outcome? search.statement = none := by
      rw [hsame _ (leadsTo_of_asked ⟨count, rfl⟩ hfails.1), hrun, Imports.outcome?_afterSearch]
      exact hfails.2.1
    have hfails' : (Moment.next^[count] (start top options ⟨later, trace⟩)).FailsAt search := by
      rw [hsecond]
      refine ⟨(Moment.asked?_withImports _ _).trans hfails.1, ?_, error, hresult⟩
      rwa [Moment.state_imports_withImports]
    obtain ⟨hrun', hsearches'⟩ := expand_of_failsAt hfails' hresult
    rw [hsecond, Moment.state_trace_withImports, Moment.state_imports_withImports] at hrun'
    have hsame' : (start top options ⟨later, trace⟩).searches count = [] := hnone
    rw [hsame'] at hsearches'
    refine ⟨by rw [hrun', hrun], fun hcause => ?_, fun error message herror _ => ?_⟩
    · obtain ⟨resolver, -, path, message, -, rfl⟩ := Options.broken_of_find hresult
      exact absurd (by simp [Resolver.brokenFile]) (hcause _ message (congrArg Prod.fst hrun))
    · obtain ⟨position, hleads, hoptions, hraises⟩ := raises_of_failsAt hfails herror
      exact ⟨search, _, position, hsearches, hfails.2.2, hleads, hoptions, hraises, hsearches',
        congrArg Prod.snd hrun'⟩

end Expansion

namespace ImportStatement

/-- Asking one statement leaves the outcomes of statements with other keys alone. -/
theorem outcome?_findOutcome_of_key_ne {statement other : ImportStatement}
    (hkey : statement.key ≠ other.key) (options : Options) (imports : Imports) :
    ((statement.findOutcome options).run imports).2.outcome? other = imports.outcome? other := by
  have hanswered := statement.answered_findOutcome options imports
  generalize (statement.findOutcome options).run imports = run at hanswered
  obtain ⟨answer, after⟩ := run
  dsimp only at hanswered ⊢
  cases hanswered with
  | remembered => rfl
  | missed => rw [outcome?_settled, if_neg hkey]
  | found => rw [outcome?_settled, if_neg hkey]
  | failed => exact Imports.outcome?_afterSearch _ _ _ other

end ImportStatement

namespace Turn

/-! ## Turns that leave a statement alone -/

/-- A turn **asks** a statement for its outcome: by a question that needs the outcome, or at some
moment of an expansion. -/
def Asks (imports : Imports) (statement : ImportStatement) : Turn → Prop
  | ask question other _ => question.needsOutcome other = true ∧ other.key = statement.key
  | expand sheet options trace =>
    ∃ moment search, Expansion.Moment.Leads (Expansion.start sheet options ⟨imports, trace⟩) moment ∧
      moment.asked? = some search ∧ search.statement.key = statement.key
  | _ => False

/-- The statement has been **spared** since some turns: none of those after them, the latest in
front, has asked it. -/
def Spared (earlier : List Turn) (statement : ImportStatement) : List Turn → Prop
  | [] => True
  | turn :: between =>
    ¬ turn.Asks (importsAfter (between ++ earlier)) statement ∧ Spared earlier statement between

/-- A turn that does not ask a statement leaves its outcome alone. -/
theorem outcome?_after_of_not_asks {turn : Turn} {imports : Imports} {statement : ImportStatement}
    (h : ¬ turn.Asks imports statement) :
    (turn.after imports).outcome? statement = imports.outcome? statement := by
  cases turn with
  | newResolver => rfl
  | newNodes items =>
    rw [after, Imports.run_newNodes]
    rfl
  | lookUp => rfl
  | ask question other options =>
    rw [after, Question.run_query]
    split
    · next hneeds =>
      exact ImportStatement.outcome?_findOutcome_of_key_ne (fun hkey => h ⟨hneeds, hkey⟩) _ _
    · rfl
  | expand sheet options trace =>
    -- At none of the moments of the expansion is the statement asked.
    refine Expansion.Moment.Leads.induction
      (P := fun moment => moment.state.imports.outcome? statement = imports.outcome? statement)
      (Expansion.ends_expand sheet options ⟨imports, trace⟩) rfl ?_
    intro moment hleads hsame
    rw [Expansion.Moment.imports_next, Expansion.Moment.leaves, ← hsame]
    cases hasked : moment.asked? with
    | none => rfl
    | some search =>
      exact ImportStatement.outcome?_findOutcome_of_key_ne
        (fun hkey => h ⟨moment, search, hleads, hasked, hkey⟩) _ _

/-- **A statement that has been spared** has the outcome that it had. -/
theorem outcome?_of_spared {earlier between : List Turn} {statement : ImportStatement}
    (h : Spared earlier statement between) :
    (importsAfter (between ++ earlier)).outcome? statement =
      (importsAfter earlier).outcome? statement := by
  induction between with
  | nil => rfl
  | cons turn between ih =>
    obtain ⟨hnot, hspared⟩ := h
    rw [List.cons_append, importsAfter, outcome?_after_of_not_asks hnot, ih hspared]

/-! ## Expanding again -/

/-- **Expanding a sheet again** repeats its expansion. A sheet is expanded after any turns at all,
then come turns that spare all statements that the sheet leads to by now, and then the sheet is
expanded once more, under the same options and while the same frames are live. Then
- the second expansion has the same result as the first, text or error, and restores the frames,
- if the first has ended in no error of a resolver, the second searches nothing and leaves import
  resolution as it is, so no resolver receives a lookup,
- if the first has ended in an error of a resolver, then its last search was the one that has
  failed, for the statement that raised the error; the second makes that search and no other, and
  the resolvers receive the lookups of that search. -/
theorem expand_again (earlier between : List Turn) (sheet : Sheet) (options : Options)
    (trace : Trace)
    (hspared : ∀ statement,
      (importsAfter (expand sheet options trace :: earlier)).LeadsTo sheet statement →
        Spared (expand sheet options trace :: earlier) statement between) :
    let before := importsAfter earlier
    let later := importsAfter (between ++ expand sheet options trace :: earlier)
    let first := (Expansion.expand sheet options).run ⟨before, trace⟩
    let second := (Expansion.expand sheet options).run ⟨later, trace⟩
    second.1 = first.1 ∧ second.2.trace = trace ∧
      ((∀ error message, first.1 = .error error → error.cause ≠ .custom message) →
        second.2.imports = later ∧ (expand sheet options trace).searches later = []) ∧
      ∀ error message, first.1 = .error error → error.cause = .custom message →
        ∃ search others position,
          (expand sheet options trace).searches before = search :: others ∧ search.Fails ∧
            Expansion.Moment.Leads (Expansion.start sheet options ⟨before, trace⟩)
              (.rendering position) ∧
            position.level.options = search.options ∧
            position.Raises search.statement error first.2.imports ∧
            (expand sheet options trace).searches later = [search] ∧
            second.2.imports.probes = search.probes ++ later.probes := by
  intro before later first second
  have hsame : ∀ statement, first.2.imports.LeadsTo sheet statement →
      later.outcome? statement = first.2.imports.outcome? statement :=
    fun statement hleads => outcome?_of_spared (hspared statement hleads)
  obtain ⟨hresult, hquiet, hfailing⟩ := Expansion.expand_again_of_outcomes hsame
  refine ⟨hresult, ?_, ?_, ?_⟩
  · exact Expansion.nested_of_leads (Expansion.ends_expand sheet options ⟨later, trace⟩)
  · intro hcause
    obtain ⟨hstate, hsearches⟩ := hquiet hcause
    exact ⟨congrArg Expansion.imports hstate, hsearches⟩
  · intro error message herror hcause
    obtain ⟨search, others, position, hfirst, hfails, hleads, hoptions, hraises, hsecond, hstate⟩ :=
      hfailing error message herror hcause
    refine ⟨search, others, position, hfirst, hfails, hleads, hoptions, hraises, hsecond, ?_⟩
    show ((Expansion.expand sheet options).run ⟨later, trace⟩).2.imports.probes = _
    rw [hstate]
    exact Imports.probes_afterSearch later search.statement search.options

/-- A resolver with a part that compiles and a theme that does not. -/
def halfBroken : Resolver :=
  ⟨0, "lib", [("part.scss", .items [.css "p \x7b\x7d"]),
    ("theme.scss", .broken "expected a value")]⟩

/-- Options with that resolver on the search path. -/
def halfBrokenOptions : Options :=
  ⟨none, none, [halfBroken], false⟩

/-- The pieces of a sheet that imports the part and then the theme. -/
def halfBrokenItems : List Item :=
  [.atImport "part" 1, .atImport "theme" 2]

/-- That sheet, with the first two statements of all. -/
def halfBrokenSheet : Sheet :=
  ⟨"input", Node.numbered 0 halfBrokenItems⟩

/-- The error of its expansion. -/
def halfBrokenError : CompileError :=
  .raisedBy (.custom "expected a value") (some ⟨1, some "lib/theme.scss"⟩) [⟨⟨2, none⟩, none⟩]

/-- Between two expansions of the sheet another statement for the same theme is made and asked. -/
def askedBetween : List Turn :=
  [ask .outcome ⟨2, "theme", 1⟩ halfBrokenOptions, newNodes [.atImport "theme" 1]]

/-- The sheet leads to its own two statements and to no others. -/
theorem key_lt_of_leadsTo_halfBrokenSheet {statement : ImportStatement}
    (h : (importsAfter [expand halfBrokenSheet halfBrokenOptions .empty,
      newNodes halfBrokenItems]).LeadsTo halfBrokenSheet statement) : statement.key < 2 := by
  induction h with
  | @own statement hmem =>
    have hown : ∀ other ∈ halfBrokenSheet.imports, other.key < 2 := by decide
    exact hown statement hmem
  | @inner statement inner found _ hfound hinner ih =>
    -- The part that the first statement has resolved to imports nothing.
    have hnone : ∀ key < 2, (((importsAfter [expand halfBrokenSheet halfBrokenOptions .empty,
        newNodes halfBrokenItems]).outcomes[key]?.join.map fun found =>
          found.sheet.imports).getD []) = [] := by
      decide +kernel
    have hnone' := hnone statement.key ih
    rw [Imports.outcome?] at hfound
    rw [hfound] at hnone'
    exact absurd hinner (by simpa using List.eq_nil_iff_forall_not_mem.mp hnone' inner)

/-- The second expansion of the sheet fails as the first, and searches for the theme again. -/
theorem halfBrokenSheet_again :
    (∀ statement, (importsAfter [expand halfBrokenSheet halfBrokenOptions .empty,
        newNodes halfBrokenItems]).LeadsTo halfBrokenSheet statement →
      Spared [expand halfBrokenSheet halfBrokenOptions .empty, newNodes halfBrokenItems]
        statement askedBetween) ∧
      let later := importsAfter (askedBetween ++
        [expand halfBrokenSheet halfBrokenOptions .empty, newNodes halfBrokenItems])
      let second := (Expansion.expand halfBrokenSheet halfBrokenOptions).run ⟨later, .empty⟩
      second.1 = .error halfBrokenError ∧
        ∃ search, search.Fails ∧
          (expand halfBrokenSheet halfBrokenOptions .empty).searches later = [search] ∧
          second.2.imports.probes = search.probes ++ later.probes := by
  have hspared : ∀ statement, (importsAfter [expand halfBrokenSheet halfBrokenOptions .empty,
        newNodes halfBrokenItems]).LeadsTo halfBrokenSheet statement →
      Spared [expand halfBrokenSheet halfBrokenOptions .empty, newNodes halfBrokenItems]
        statement askedBetween := by
    intro statement hleads
    have hkey := key_lt_of_leadsTo_halfBrokenSheet hleads
    refine ⟨?_, id, trivial⟩
    rintro ⟨-, hsame⟩
    exact absurd hsame (Nat.ne_of_gt hkey)
  have hfirst : ((Expansion.expand halfBrokenSheet halfBrokenOptions).run
      ⟨importsAfter [newNodes halfBrokenItems], .empty⟩).1 = .error halfBrokenError := by
    decide +kernel
  obtain ⟨hresult, -, -, hfailing⟩ := expand_again [newNodes halfBrokenItems] askedBetween
    halfBrokenSheet halfBrokenOptions .empty hspared
  obtain ⟨search, -, -, -, hfails, -, -, -, hsearches, hprobes⟩ :=
    hfailing halfBrokenError "expected a value" hfirst rfl
  exact ⟨hspared, hresult.trans hfirst, search, hfails, hsearches, hprobes⟩

end Turn

end Stylesheet
