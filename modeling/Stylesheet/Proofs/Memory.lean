import Stylesheet.Proofs.Nesting

/-! # What is remembered

What is remembered for a statement answers every later query, whatever the options are. So it is
what a search would find only if the statement is never asked under other options. A state is
**faithful** to statements and options that go together (`Imports.Faithful`) if each outcome that is
remembered for one of these statements is what a search under its options finds; the statements of
the sheets that are found go together with the options of these sheets. Asking one of the statements
keeps the state faithful (`Imports.Faithful.of_answered`), so the memory can be left out of
account. -/

namespace Stylesheet

open Diagnostic

/-- An outcome is **what a search finds**: nothing, or a sheet with the pieces of the one that is
found, the statements of which are asked under its options. -/
inductive Faithful (asked : ImportStatement → Options → Prop) (options : Options)
    (reference : String) : Option Resolution → Prop
  /-- Nothing is found. -/
  | missed (hfind : options.find reference = .ok none) : Faithful asked options reference none
  /-- A sheet is found. -/
  | found {found : Found} {resolution : Resolution}
    (hfind : options.find reference = .ok (some found))
    (hidentifier : resolution.sheet.identifier = found.source.identifier)
    (hresolver : resolution.resolver = found.resolver)
    (hitems : resolution.sheet.children.map Node.item = found.source.items)
    (hasked : ∀ inner ∈ resolution.sheet.imports, asked inner (found.options options)) :
    Faithful asked options reference (some resolution)

/-- What a search finds stays so when more statements are asked. -/
theorem Faithful.mono {asked more : ImportStatement → Options → Prop} (hmore : asked ≤ more)
    {options : Options} {reference : String} {outcome : Option Resolution}
    (h : Faithful asked options reference outcome) : Faithful more options reference outcome := by
  cases h with
  | missed hfind => exact .missed hfind
  | found hfind hidentifier hresolver hitems hasked =>
    exact .found hfind hidentifier hresolver hitems fun inner hinner =>
      hmore inner _ (hasked inner hinner)

namespace Imports

/-- **What is remembered is what a search would find**, for all statements that are `asked`: each of
them is only ever asked under one set of options. -/
structure Faithful (asked : ImportStatement → Options → Prop) (imports : Imports) : Prop where
  /-- The keys of the statements have been taken. -/
  key_lt : ∀ statement options, asked statement options → statement.key < imports.nextStatement
  /-- The keys of all outcomes have been taken. -/
  settled_lt : ∀ statement outcome, imports.outcome? statement = some outcome →
    statement.key < imports.nextStatement
  /-- A key stands for one statement, asked under one set of options. -/
  unique : ∀ first options second options', asked first options → asked second options' →
    first.key = second.key → first.reference = second.reference ∧ options = options'
  /-- What is remembered for a statement is what a search finds. -/
  found : ∀ statement options outcome, asked statement options →
    imports.outcome? statement = some outcome →
    Stylesheet.Faithful asked options statement.reference outcome

variable {asked : ImportStatement → Options → Prop} {imports : Imports}

/-- Lookups make no difference to what is remembered. -/
theorem Faithful.afterSearch (h : imports.Faithful asked) (reference : String) (options : Options) :
    (imports.afterSearch reference options).Faithful asked := by
  constructor
  · rw [nextStatement_afterSearch]
    exact h.key_lt
  · intro statement outcome hsettled
    rw [outcome?_afterSearch] at hsettled
    rw [nextStatement_afterSearch]
    exact h.settled_lt statement outcome hsettled
  · exact h.unique
  · intro statement options outcome hasked hsettled
    rw [outcome?_afterSearch] at hsettled
    exact h.found statement options outcome hasked hsettled

/-- Making the statements of a sheet keeps the state faithful if they are asked under the options of
the sheet. -/
theorem Faithful.numbered (h : imports.Faithful asked) (items : List Item) (nested : Options) :
    (imports.withStatements (Node.importCount items)).Faithful fun statement options =>
      asked statement options ∨
        .atImport statement ∈ Node.numbered imports.nextStatement items ∧ options = nested := by
  constructor
  · rintro statement options (hasked | ⟨hnew, -⟩)
    · exact Nat.lt_add_right _ (h.key_lt statement options hasked)
    · exact (Node.key_mem_of_mem_numbered hnew).2
  · intro statement outcome hsettled
    exact Nat.lt_add_right _ (h.settled_lt statement outcome hsettled)
  · -- A statement that was asked before has an older key than a new one.
    rintro first options second options' (hfirst | ⟨hfirst, rfl⟩) (hsecond | ⟨hsecond, rfl⟩) hkey
    · exact h.unique first options second options' hfirst hsecond hkey
    · have hne := Node.key_ne_of_mem_numbered (h.key_lt first options hfirst) hsecond
      exact absurd hkey hne
    · have hne := Node.key_ne_of_mem_numbered (h.key_lt second options' hsecond) hfirst
      exact absurd hkey.symm hne
    · exact ⟨congrArg ImportStatement.reference
        (Node.eq_of_key_eq_of_mem_numbered hfirst hsecond hkey), rfl⟩
  · rintro statement options outcome (hasked | ⟨hnew, -⟩) hsettled
    · exact (h.found statement options outcome hasked hsettled).mono fun _ _ => Or.inl
    · -- Nothing is remembered for a new statement.
      have hsettled := h.settled_lt statement outcome hsettled
      have hnewer := (Node.key_mem_of_mem_numbered hnew).1
      omega

/-- Remembering what a search finds keeps the state faithful. -/
theorem Faithful.settle (h : imports.Faithful asked) {statement : ImportStatement}
    {options : Options} (hasked : asked statement options) {outcome : Option Resolution}
    (houtcome : Stylesheet.Faithful asked options statement.reference outcome) :
    (imports.settle statement outcome).Faithful asked := by
  refine ⟨h.key_lt, ?_, h.unique, ?_⟩
  · intro other remembered hother
    rw [outcome?_settle_eq_ite] at hother
    split at hother
    · next hkey => exact hkey ▸ h.key_lt statement options hasked
    · exact h.settled_lt other remembered hother
  · intro other options' remembered hother hremembered
    rw [outcome?_settle_eq_ite] at hremembered
    split at hremembered
    · next hkey =>
      cases hremembered
      obtain ⟨hreference, rfl⟩ := h.unique _ _ _ _ hasked hother hkey
      exact hreference ▸ houtcome
    · exact h.found other options' remembered hother hremembered

/-- **Asking a statement** under its options keeps the state faithful, with more statements asked,
and what is answered is what a search finds. -/
theorem Faithful.of_answered (h : imports.Faithful asked) {statement : ImportStatement}
    {options : Options} (hasked : asked statement options) {after : Imports}
    {answer : Except CompileError (Option Resolution)}
    (hanswered : statement.Answered options imports answer after) :
    ∃ more, asked ≤ more ∧ after.Faithful more ∧
      ∀ outcome, answer = .ok outcome →
        Stylesheet.Faithful more options statement.reference outcome := by
  have hsearched := h.afterSearch statement.reference options
  cases hanswered with
  | remembered hold =>
    refine ⟨asked, le_rfl, h, ?_⟩
    rintro _ ⟨⟩
    exact h.found statement options _ hasked hold
  | missed _ hfind =>
    refine ⟨asked, le_rfl, hsearched.settle hasked (.missed hfind), ?_⟩
    rintro _ ⟨⟩
    exact .missed hfind
  | @found found _ hfind =>
    have hnumbered := hsearched.numbered found.source.items (found.options options)
    rw [nextStatement_afterSearch] at hnumbered
    let more : ImportStatement → Options → Prop := fun statement options' =>
      asked statement options' ∨
        .atImport statement ∈ Node.numbered imports.nextStatement found.source.items ∧
          options' = found.options options
    have hfaithful : Stylesheet.Faithful more options statement.reference
        (some (found.resolution imports.nextStatement)) :=
      .found hfind rfl rfl (Node.map_item_numbered _ _) fun inner hinner =>
        Or.inr ⟨Sheet.mem_imports.mp hinner, rfl⟩
    refine ⟨more, fun _ _ => Or.inl, hnumbered.settle (Or.inl hasked) hfaithful, ?_⟩
    rintro _ ⟨⟩
    exact hfaithful
  | failed =>
    refine ⟨asked, le_rfl, hsearched, ?_⟩
    rintro _ ⟨⟩

end Imports

end Stylesheet
