import Stylesheet.Proofs.Nesting

/-! # Histories of import resolution

The state of import resolution is only ever changed by making resolvers and statements, by logging
lookups and by asking statements for their outcome; the states that can come about so are the
**reachable** ones, each with the statements that have been issued on the way. Of such a state more
is true than of any value of its type (`Imports.Consistent`): a key stands for one statement,
outcomes belong to issued statements, and what a statement has resolved to is a file of the resolver
that is remembered with it. Expansion leads from reachable states to reachable states
(`Imports.Reachable.expand`). -/

namespace Stylesheet

open Diagnostic

namespace Imports

/-- The statements of the sheet that a query for an outcome answers with. -/
def statementsOf (answer : Except CompileError (Option Resolution)) : Set ImportStatement :=
  {statement | ∃ found, answer = .ok (some found) ∧ statement ∈ found.sheet.imports}

@[simp] theorem statementsOf_error (error : CompileError) : statementsOf (.error error) = ∅ := by
  simp [statementsOf]

@[simp] theorem statementsOf_none : statementsOf (.ok none) = ∅ := by
  simp [statementsOf]

@[simp] theorem statementsOf_some (found : Resolution) :
    statementsOf (.ok (some found)) = {statement | statement ∈ found.sheet.imports} := by
  simp [statementsOf]

/-- The statements among some nodes. -/
def statementsAmong (nodes : List Node) : Set ImportStatement :=
  {statement | .atImport statement ∈ nodes}

/-- **The states of import resolution that can come about**, with the statements that have been
issued on the way. Loading a sheet or asking a resolver by itself is making nodes, after a lookup
has been logged. -/
inductive Reachable : Imports → Set ImportStatement → Prop
  /-- At first nothing has been resolved or issued. -/
  | empty : Reachable empty ∅
  /-- A resolver is made. -/
  | newResolver {imports : Imports} {issued : Set ImportStatement} (h : Reachable imports issued)
    (root : String) (files : List (String × SheetFile)) :
    Reachable ((newResolver root files).run imports).2 issued
  /-- Nodes are made, and with them statements. -/
  | newNodes {imports : Imports} {issued : Set ImportStatement} (h : Reachable imports issued)
    (items : List Item) :
    Reachable ((newNodes items).run imports).2
      (issued ∪ statementsAmong ((newNodes items).run imports).1)
  /-- A lookup is logged. -/
  | logProbe {imports : Imports} {issued : Set ImportStatement} (h : Reachable imports issued)
    (resolver : Resolver) (probe : Probe) : Reachable (imports.logProbe resolver probe) issued
  /-- A statement is asked for its outcome. -/
  | findOutcome {imports : Imports} {issued : Set ImportStatement} (h : Reachable imports issued)
    {statement : ImportStatement} (hissued : statement ∈ issued) (options : Options) :
    Reachable ((statement.findOutcome options).run imports).2
      (issued ∪ statementsOf ((statement.findOutcome options).run imports).1)

/-- **What is true of every reachable state** and the statements issued on the way to it. -/
structure Consistent (imports : Imports) (issued : Set ImportStatement) : Prop where
  /-- The keys of issued statements have been taken. -/
  key_lt : ∀ statement ∈ issued, statement.key < imports.nextStatement
  /-- A key stands for one issued statement. -/
  eq_of_key_eq : ∀ first ∈ issued, ∀ second ∈ issued, first.key = second.key → first = second
  /-- Outcomes are those of issued statements. -/
  settled_lt : ∀ statement outcome, imports.outcome? statement = some outcome →
    statement.key < imports.nextStatement
  /-- What is found is a file of the resolver that holds it. -/
  identifier_mem : ∀ statement found, imports.outcome? statement = some (some found) →
    found.sheet.identifier ∈ found.resolver.identifiers
  /-- What is found is made of issued statements. -/
  statements_mem : ∀ statement found, imports.outcome? statement = some (some found) →
    ∀ inner ∈ found.sheet.imports, inner ∈ issued

variable {imports : Imports} {issued : Set ImportStatement}

/-- Making statements keeps a state consistent. -/
theorem Consistent.numbered (h : imports.Consistent issued) (items : List Item) :
    (imports.withStatements (Node.importCount items)).Consistent
      (issued ∪ statementsAmong (Node.numbered imports.nextStatement items)) := by
  constructor
  · rintro statement (hmem | hmem)
    · exact Nat.lt_add_right _ (h.key_lt statement hmem)
    · exact (Node.key_mem_of_mem_numbered hmem).2
  · -- The keys of new statements are later than those of the statements issued before.
    rintro first (hfirst | hfirst) second (hsecond | hsecond) hkey
    · exact h.eq_of_key_eq first hfirst second hsecond hkey
    · have hne := Node.key_ne_of_mem_numbered (h.key_lt first hfirst) hsecond
      exact absurd hkey hne
    · have hne := Node.key_ne_of_mem_numbered (h.key_lt second hsecond) hfirst
      exact absurd hkey.symm hne
    · exact Node.eq_of_key_eq_of_mem_numbered hfirst hsecond hkey
  · intro statement outcome hsettled
    exact Nat.lt_add_right _ (h.settled_lt statement outcome hsettled)
  · exact h.identifier_mem
  · intro statement found hfound inner hinner
    exact Or.inl (h.statements_mem statement found hfound inner hinner)

/-- Remembering an outcome for an issued statement keeps a state consistent if what is found is. -/
theorem Consistent.settle (h : imports.Consistent issued) {statement : ImportStatement}
    (hissued : statement ∈ issued) {outcome : Option Resolution}
    (hidentifier : ∀ found, outcome = some found →
      found.sheet.identifier ∈ found.resolver.identifiers)
    (hstatements : ∀ found, outcome = some found → ∀ inner ∈ found.sheet.imports, inner ∈ issued) :
    (imports.settle statement outcome).Consistent issued := by
  refine ⟨h.key_lt, h.eq_of_key_eq, ?_, ?_, ?_⟩
  · intro other remembered hother
    rw [outcome?_settle_eq_ite] at hother
    split at hother
    · next hkey => exact hkey ▸ h.key_lt statement hissued
    · exact h.settled_lt other remembered hother
  · intro other found hother
    rw [outcome?_settle_eq_ite] at hother
    split at hother
    · exact hidentifier found (Option.some.inj hother)
    · exact h.identifier_mem other found hother
  · intro other found hother
    rw [outcome?_settle_eq_ite] at hother
    split at hother
    · exact hstatements found (Option.some.inj hother)
    · exact h.statements_mem other found hother

/-- What the log holds makes no difference to consistency. -/
theorem Consistent.of_eq {before after : Imports} (h : before.Consistent issued)
    (houtcomes : after.outcomes = before.outcomes)
    (hnext : after.nextStatement = before.nextStatement) : after.Consistent issued := by
  obtain ⟨nextResolver, nextStatement, outcomes, probes⟩ := before
  obtain ⟨nextResolver', nextStatement', outcomes', probes'⟩ := after
  dsimp only at houtcomes hnext
  subst houtcomes hnext
  exact ⟨h.key_lt, h.eq_of_key_eq, h.settled_lt, h.identifier_mem, h.statements_mem⟩

/-- Asking an issued statement for its outcome keeps a state consistent. -/
theorem Consistent.of_answered (h : imports.Consistent issued) {statement : ImportStatement}
    (hissued : statement ∈ issued) {options : Options} {after : Imports}
    {answer : Except CompileError (Option Resolution)}
    (hanswered : statement.Answered options imports answer after) :
    after.Consistent (issued ∪ statementsOf answer) := by
  have hsearched : (imports.afterSearch statement.reference options).Consistent issued :=
    h.of_eq (outcomes_afterSearch _ _ _) (nextStatement_afterSearch _ _ _)
  cases hanswered with
  | @remembered outcome hold =>
    -- What is remembered is made of statements that have been issued.
    have hsubset : statementsOf (.ok outcome) ⊆ issued := by
      rintro inner ⟨found, hfound, hinner⟩
      cases hfound
      exact h.statements_mem statement found hold inner hinner
    rw [Set.union_eq_left.mpr hsubset]
    exact h
  | missed =>
    rw [statementsOf_none, Set.union_empty]
    exact hsearched.settle hissued (by simp) (by simp)
  | @found found _ hfind =>
    -- The statements of the sheet are numbered first, and then the outcome is remembered.
    rw [statementsOf_some]
    have hnumbered := hsearched.numbered found.source.items
    rw [nextStatement_afterSearch] at hnumbered
    have hsame : {statement | statement ∈ (found.resolution imports.nextStatement).sheet.imports} =
        statementsAmong (Node.numbered imports.nextStatement found.source.items) :=
      Set.ext fun statement => Sheet.mem_imports
    rw [hsame]
    refine hnumbered.settle (Or.inl hissued) ?_ ?_
    · rintro _ ⟨⟩
      exact Options.identifier_mem_of_find hfind
    · rintro _ ⟨⟩ inner hinner
      exact Or.inr (Sheet.mem_imports.mp hinner)
  | failed =>
    rw [statementsOf_error, Set.union_empty]
    exact hsearched

/-- **Reachable states are consistent.** -/
theorem Reachable.consistent (h : imports.Reachable issued) : imports.Consistent issued := by
  induction h with
  | empty =>
    have hnone : ∀ statement, Imports.empty.outcome? statement = none := by
      intro statement
      simp [outcome?, Imports.empty]
    constructor <;> simp [hnone]
  | newResolver _ root files ih => exact ih.of_eq rfl rfl
  | @newNodes imports issued _ items ih =>
    rw [run_newNodes]
    exact ih.numbered items
  | logProbe _ resolver probe ih => exact ih.of_eq rfl rfl
  | @findOutcome imports issued _ statement hissued options ih =>
    exact ih.of_answered hissued (statement.answered_findOutcome options imports)

end Imports

/-! ## Expansion stays among the reachable states -/

namespace Expansion

open Moment

/-- All the way down, the sheets are made of issued statements if the sheet at the top is. -/
theorem Descends.statements_mem {imports : Imports} {issued : Set ImportStatement}
    {top sheet : Sheet} {options nested : Options} {outer : List Waiting}
    (h : Descends imports top options sheet nested outer) (hconsistent : imports.Consistent issued)
    (htop : ∀ statement ∈ top.imports, statement ∈ issued) :
    ∀ statement ∈ sheet.imports, statement ∈ issued := by
  cases h with
  | top => exact htop
  | enter _ _ hfound => exact hconsistent.statements_mem _ _ hfound

variable {top : Sheet} {options : Options} {s : Expansion} {issued : Set ImportStatement}

/-- **Throughout an expansion** of a sheet of issued statements the state stays reachable. -/
theorem reachable_of_leads {moment : Moment} (h : Leads (start top options s) moment)
    (htop : ∀ statement ∈ top.imports, statement ∈ issued)
    (hreachable : s.imports.Reachable issued) :
    ∃ more, issued ⊆ more ∧ moment.state.imports.Reachable more := by
  refine imports_of_leads (P := fun imports => ∃ more, issued ⊆ more ∧ imports.Reachable more) h
    ⟨issued, subset_rfl, hreachable⟩ ?_
  rintro position statement hnested hmem ⟨more, hsubset, hmore⟩
  -- Every sheet that is being rendered is made of issued statements, so one of them is asked.
  have htop' : ∀ other ∈ top.imports, other ∈ more :=
    fun other hother => hsubset (htop other hother)
  have hissued : statement ∈ more :=
    hnested.descends.statements_mem hmore.consistent htop' statement hmem
  exact ⟨_, hsubset.trans Set.subset_union_left, hmore.findOutcome hissued _⟩

end Expansion

/-- **Expanding a sheet** of issued statements leads from a reachable state to a reachable state. -/
theorem Imports.Reachable.expand {issued : Set ImportStatement} {s : Expansion}
    (h : s.imports.Reachable issued) {sheet : Sheet}
    (hsheet : ∀ statement ∈ sheet.imports, statement ∈ issued) (options : Options) :
    ∃ more, issued ⊆ more ∧ ((Expansion.expand sheet options).run s).2.imports.Reachable more :=
  Expansion.reachable_of_leads (Expansion.ends_expand sheet options s) hsheet h

end Stylesheet
