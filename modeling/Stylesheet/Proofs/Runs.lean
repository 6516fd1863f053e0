import Mathlib.Logic.Relation
import Stylesheet.Proofs.History
import Stylesheet.Proofs.Paths

/-! # Runs of import resolution

`Imports.Reachable` tells which states of import resolution can come about. This module tells which
of them come **later** than others: a run leads from stage to stage, and what happens on the way is
the same (`reachable_iff_run`). A run only adds outcomes (`Stage.Run.keeps`), and each of them stems
from a search that was made for an issued statement (`Imports.Reachable.exists_find`). Hence sheets
are made of statements that are newer than those they have been found for, and plain CSS files have
no pieces, whenever and however they have been found. -/

namespace Stylesheet

/-- A **stage** of import resolution. -/
structure Stage where
  /-- The state of import resolution. -/
  imports : Imports
  /-- The statements that have been issued so far. -/
  issued : Set ImportStatement

/-- Nothing is forgotten where nothing happens. -/
theorem Imports.Keeps.refl (imports : Imports) : imports.Keeps imports :=
  fun _ _ hold => hold

/-- Nothing is forgotten on the way if nothing is forgotten in between. -/
theorem Imports.Keeps.trans {before between after : Imports} (h : before.Keeps between)
    (h' : between.Keeps after) : before.Keeps after :=
  fun statement outcome hold => h' statement outcome (h statement outcome hold)

namespace Stage

/-- The stage at which nothing has happened yet. -/
def initial : Stage := ⟨.empty, ∅⟩

/-- **What may happen** at a stage. -/
inductive Step : Stage → Stage → Prop
  /-- A resolver is made. -/
  | newResolver (stage : Stage) (root : String) (files : List (String × SheetFile)) :
    Step stage ⟨((Imports.newResolver root files).run stage.imports).2, stage.issued⟩
  /-- Nodes are made, and with them statements. -/
  | newNodes (stage : Stage) (items : List Item) :
    Step stage ⟨((Imports.newNodes items).run stage.imports).2,
      stage.issued ∪ Imports.statementsAmong ((Imports.newNodes items).run stage.imports).1⟩
  /-- A lookup is logged. -/
  | logProbe (stage : Stage) (resolver : Resolver) (probe : Probe) :
    Step stage ⟨stage.imports.logProbe resolver probe, stage.issued⟩
  /-- An issued statement is asked for its outcome. -/
  | findOutcome (stage : Stage) {statement : ImportStatement} (hissued : statement ∈ stage.issued)
    (options : Options) :
    Step stage ⟨((statement.findOutcome options).run stage.imports).2,
      stage.issued ∪ Imports.statementsOf ((statement.findOutcome options).run stage.imports).1⟩

/-- A **run** leads from one stage to a later one. -/
abbrev Run : Stage → Stage → Prop :=
  Relation.ReflTransGen Step

/-- A step leads to a reachable state from a reachable one. -/
theorem Step.reachable {first last : Stage} (h : Step first last)
    (hfirst : first.imports.Reachable first.issued) : last.imports.Reachable last.issued := by
  cases h with
  | newResolver root files => exact hfirst.newResolver root files
  | newNodes items => exact hfirst.newNodes items
  | logProbe resolver probe => exact hfirst.logProbe resolver probe
  | findOutcome hissued options => exact hfirst.findOutcome hissued options

/-- A run leads from reachable states to reachable states. -/
theorem Run.reachable {first last : Stage} (h : Run first last)
    (hfirst : first.imports.Reachable first.issued) : last.imports.Reachable last.issued := by
  induction h with
  | refl => exact hfirst
  | tail _ hstep ih => exact hstep.reachable ih

/-- **The reachable states** are those that a run leads to from the very first. -/
theorem reachable_iff_run {imports : Imports} {issued : Set ImportStatement} :
    imports.Reachable issued ↔ Run initial ⟨imports, issued⟩ := by
  constructor
  · intro h
    induction h with
    | empty => exact .refl
    | newResolver _ root files ih => exact ih.tail (.newResolver _ root files)
    | newNodes _ items ih => exact ih.tail (.newNodes _ items)
    | logProbe _ resolver probe ih => exact ih.tail (.logProbe _ resolver probe)
    | findOutcome _ hissued options ih => exact ih.tail (.findOutcome _ hissued options)
  · intro h
    exact h.reachable .empty

/-- A step forgets no outcome and no statement. -/
theorem Step.grows {first last : Stage} (h : Step first last) :
    first.imports.Keeps last.imports ∧ first.issued ⊆ last.issued := by
  cases h with
  | newResolver root files => exact ⟨.refl _, subset_rfl⟩
  | newNodes items =>
    rw [Imports.run_newNodes]
    exact ⟨.refl first.imports, Set.subset_union_left⟩
  | logProbe resolver probe => exact ⟨.refl _, subset_rfl⟩
  | @findOutcome statement hissued options =>
    exact ⟨(statement.answered_findOutcome options first.imports).keeps, Set.subset_union_left⟩

/-- **A run forgets no outcome** and no statement. -/
theorem Run.grows {first last : Stage} (h : Run first last) :
    first.imports.Keeps last.imports ∧ first.issued ⊆ last.issued := by
  induction h with
  | refl => exact ⟨.refl _, subset_rfl⟩
  | tail _ hstep ih =>
    obtain ⟨hkeeps, hissued⟩ := hstep.grows
    exact ⟨ih.1.trans hkeeps, ih.2.trans hissued⟩

/-- What is remembered at one stage is remembered at all later ones. -/
theorem Run.keeps {first last : Stage} (h : Run first last) :
    first.imports.Keeps last.imports :=
  h.grows.1

/-- Asking a statement that has been issued for its outcome is a run. -/
theorem exists_run_of_asked {stage : Stage} {statement : ImportStatement}
    (hissued : statement ∈ stage.issued) {options : Options} {after : Imports}
    (hafter : after = ((statement.findOutcome options).run stage.imports).2) :
    ∃ known, Run stage ⟨after, known⟩ := by
  rw [hafter]
  exact ⟨_, .single (.findOutcome stage hissued options)⟩

end Stage

/-- Locating a statement that has been issued is a run. -/
theorem Expansion.Located.exists_run {statement : ImportStatement} {options : Options}
    {s : Expansion} {result : Except Diagnostic.CompileError (Option (Sheet × Options))}
    {imports : Imports} (h : Located statement options s result imports)
    {issued : Set ImportStatement} (hissued : statement ∈ issued) :
    ∃ more, Stage.Run ⟨s.imports, issued⟩ ⟨imports, more⟩ := by
  rcases h.imports_eq with rfl | hafter
  · exact ⟨issued, .refl⟩
  · exact @Stage.exists_run_of_asked ⟨s.imports, issued⟩ statement hissued options imports hafter

/-! ## What is remembered has been found -/

namespace Imports

variable {imports : Imports} {issued : Set ImportStatement}

/-- A resolution **stems from a search** for an issued statement with this key: it is what the files
have for the statement's reference under some options, made of statements that are newer. -/
def StemsFrom (issued : Set ImportStatement) (key : Nat) (resolution : Resolution) : Prop :=
  ∃ asked ∈ issued, asked.key = key ∧ ∃ (options : Options) (found : Found) (next : Nat),
    options.find asked.reference = .ok (some found) ∧ resolution = found.resolution next ∧
      key < next

/-- A resolution stems from a search also when more statements have been issued. -/
theorem StemsFrom.mono {more : Set ImportStatement} (hsubset : issued ⊆ more) {key : Nat}
    {resolution : Resolution} (h : StemsFrom issued key resolution) :
    StemsFrom more key resolution := by
  obtain ⟨asked, hasked, hrest⟩ := h
  exact ⟨asked, hsubset hasked, hrest⟩

/-- **Whatever is remembered** in a reachable state stems from a search. -/
theorem Reachable.stemsFrom (h : imports.Reachable issued) {statement : ImportStatement}
    {resolution : Resolution} (hfound : imports.outcome? statement = some (some resolution)) :
    StemsFrom issued statement.key resolution := by
  induction h generalizing statement resolution with
  | empty => simp [outcome?, Imports.empty] at hfound
  | newResolver _ root files ih => exact ih hfound
  | newNodes _ items ih =>
    rw [run_newNodes] at hfound
    exact (ih hfound).mono Set.subset_union_left
  | logProbe _ resolver probe ih => exact ih hfound
  | @findOutcome imports issued hreachable asked hasked options ih =>
    have hanswered := asked.answered_findOutcome options imports
    generalize (asked.findOutcome options).run imports = run at hanswered hfound ⊢
    obtain ⟨answer, after⟩ := run
    dsimp only at hanswered hfound ⊢
    -- Unless the search has found a sheet, what is remembered was so before.
    cases hanswered with
    | remembered => exact (ih hfound).mono Set.subset_union_left
    | missed =>
      rw [ImportStatement.outcome?_settled] at hfound
      split at hfound
      · cases hfound
      · exact (ih hfound).mono Set.subset_union_left
    | found _ hfind =>
      rw [ImportStatement.outcome?_settled] at hfound
      split at hfound
      · next hkey =>
        cases hfound
        exact ⟨asked, Or.inl hasked, hkey, options, _, _, hfind, rfl,
          hkey ▸ hreachable.consistent.key_lt asked hasked⟩
      · exact (ih hfound).mono Set.subset_union_left
    | failed =>
      rw [outcome?_afterSearch] at hfound
      exact (ih hfound).mono Set.subset_union_left

/-- **A statement has resolved to what a search found** for it. -/
theorem Reachable.exists_find (h : imports.Reachable issued) {statement : ImportStatement}
    (hissued : statement ∈ issued) {resolution : Resolution}
    (hfound : imports.outcome? statement = some (some resolution)) :
    ∃ (options : Options) (found : Found) (next : Nat),
      options.find statement.reference = .ok (some found) ∧
        resolution = found.resolution next := by
  obtain ⟨asked, hasked, hkey, options, found, next, hfind, hresolution, -⟩ := h.stemsFrom hfound
  obtain rfl := h.consistent.eq_of_key_eq asked hasked statement hissued hkey
  exact ⟨options, found, next, hfind, hresolution⟩

/-- **Sheets are made of newer statements** than those that they have been found for. -/
theorem Reachable.key_lt (h : imports.Reachable issued) {statement inner : ImportStatement}
    {resolution : Resolution} (hfound : imports.outcome? statement = some (some resolution))
    (hinner : inner ∈ resolution.sheet.imports) : statement.key < inner.key := by
  obtain ⟨_, _, _, _, found, next, -, rfl, hkey⟩ := h.stemsFrom hfound
  have hnext : next ≤ inner.key := (Node.key_mem_of_mem_numbered (Sheet.mem_imports.mp hinner)).1
  exact hkey.trans_le hnext

/-- **A plain CSS file has no pieces**, be it known by its identifier or by the reference of the
statement that it has been found for. -/
theorem Reachable.children_eq_nil (h : imports.Reachable issued) {statement : ImportStatement}
    (hissued : statement ∈ issued) {resolution : Resolution}
    (hfound : imports.outcome? statement = some (some resolution))
    (hcss : Path.isCss statement.reference = true ∨
      Path.isCss resolution.sheet.identifier = true) : resolution.sheet.children = [] := by
  obtain ⟨options, found, next, hfind, rfl⟩ := h.exists_find hissued hfound
  have hitems : found.source.items = [] := Options.items_eq_nil_of_find hfind hcss
  show Node.numbered next found.source.items = []
  rw [hitems]
  rfl

/-! ## Statements among nodes -/

section

variable {statement : ImportStatement} {rest : List Node}

/-- The first statement among nodes. -/
theorem mem_of_statementsAmong_cons (h : statementsAmong (.atImport statement :: rest) ⊆ issued) :
    statement ∈ issued :=
  h List.mem_cons_self

/-- The statements among all nodes but the first. -/
theorem statementsAmong_of_cons {node : Node} (h : statementsAmong (node :: rest) ⊆ issued) :
    statementsAmong rest ⊆ issued :=
  fun _ hmem => h (List.mem_cons_of_mem node hmem)

/-- The statement of a single node. -/
theorem statementsAmong_singleton (h : statement ∈ issued) :
    statementsAmong [.atImport statement] ⊆ issued := by
  intro other hmem
  cases List.mem_singleton.mp hmem
  exact h

/-- What is found is made of issued nodes. -/
theorem Reachable.statementsAmong_subset (h : imports.Reachable issued)
    {found : Resolution} (hfound : imports.outcome? statement = some (some found)) :
    statementsAmong found.sheet.children ⊆ issued :=
  fun inner hmem =>
    h.consistent.statements_mem statement found hfound inner (Sheet.mem_imports.mpr hmem)

end

end Imports

end Stylesheet
