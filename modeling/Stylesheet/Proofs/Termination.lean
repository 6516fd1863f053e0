import Stylesheet.Proofs.History

/-! # Expansion terminates

Whatever the files import, every expansion ends, and it never holds more import frames than the
resolvers involved have files. Resolvers are **involved** if the options name them or if a statement
that the sheet leads to has been resolved to one of their files before (`Imports.Involved`); all
that an expansion ever finds comes from these. The sheets that are being rendered at a time have
different identifiers, and so there are no more of them than identifiers (`expand_terminates`). -/

namespace Stylesheet

open Diagnostic

namespace Imports

/-- The statements that a sheet **leads to** by what has been resolved already. -/
inductive LeadsTo (imports : Imports) (sheet : Sheet) : ImportStatement → Prop
  /-- A sheet leads to its own statements. -/
  | own {statement : ImportStatement} (h : statement ∈ sheet.imports) :
    LeadsTo imports sheet statement
  /-- It leads to the statements of the sheets that these have been resolved to. -/
  | inner {statement inner : ImportStatement} {found : Resolution}
    (h : LeadsTo imports sheet statement)
    (hfound : imports.outcome? statement = some (some found))
    (hinner : inner ∈ found.sheet.imports) :
    LeadsTo imports sheet inner

/-- A resolver is **involved** in the expansion of a sheet if the options name it or if it is
remembered for a statement that the sheet leads to. -/
def Involved (imports : Imports) (options : Options) (sheet : Sheet) (resolver : Resolver) : Prop :=
  resolver ∈ options.resolvers ∨
    ∃ statement found, imports.LeadsTo sheet statement ∧
      imports.outcome? statement = some (some found) ∧ found.resolver = resolver

/-- The identifiers of all files of the resolvers involved. -/
def identifiersInvolved (imports : Imports) (options : Options) (sheet : Sheet) : Set String :=
  {identifier | ∃ resolver, imports.Involved options sheet resolver ∧
    identifier ∈ resolver.identifiers}

/-- The keys of the statements that a sheet leads to, and those that have not been taken yet. -/
def keysInvolved (imports : Imports) (sheet : Sheet) : Set Nat :=
  {key | imports.nextStatement ≤ key ∨
    ∃ statement, imports.LeadsTo sheet statement ∧ statement.key = key}

/-- The identifiers involved are among those that an expansion counts, and so finitely many. -/
theorem finite_identifiersInvolved (imports : Imports) (options : Options) (sheet : Sheet) :
    (imports.identifiersInvolved options sheet).Finite := by
  refine (List.finite_toSet (Expansion.reachableIdentifiers imports options)).subset ?_
  rintro identifier ⟨resolver, hinvolved | ⟨statement, found, -, hfound, rfl⟩, hidentifier⟩
  · exact Expansion.within_reachableIdentifiers imports options resolver hinvolved identifier
      hidentifier
  · exact (Expansion.confined_reachableIdentifiers imports options).found statement found
      trivial hfound |>.resolver identifier hidentifier

/-- In a reachable state the outcomes that matter to a sheet stay within the identifiers
involved. -/
theorem Reachable.confined {imports : Imports} {issued : Set ImportStatement}
    (h : imports.Reachable issued) (options : Options) (sheet : Sheet) :
    imports.Confined (imports.identifiersInvolved options sheet) (imports.keysInvolved sheet) := by
  refine ⟨fun key hkey => Or.inl hkey, fun statement found hkey hfound => ?_⟩
  rcases hkey with hkey | ⟨other, hother, hkey⟩
  · have hsettled := h.consistent.settled_lt statement _ hfound
    omega
  · have hremembered : imports.outcome? other = some (some found) := by
      rw [outcome?, hkey]
      exact hfound
    have hinvolved : imports.Involved options sheet found.resolver :=
      Or.inr ⟨other, found, hother, hremembered, rfl⟩
    refine ⟨?_, fun identifier hidentifier => ⟨_, hinvolved, hidentifier⟩, fun inner hinner => ?_⟩
    · exact ⟨_, hinvolved, h.consistent.identifier_mem other found hremembered⟩
    · exact Or.inr ⟨inner, hother.inner hremembered hinner, rfl⟩

end Imports

namespace Expansion

open Moment

/-- The number of live frames that expand an import. -/
def openImports (s : Expansion) : Nat :=
  s.trace.frames.countP Frame.expandsImport

/-- The imported sheets that are being rendered at a moment, innermost first. -/
def Moment.importedSheets (moment : Moment) : List Sheet :=
  (moment.position?.map Position.importedSheets).getD []

/-- An expansion opens one import frame for each imported sheet that it is rendering. -/
theorem openImports_of_leads {sheet : Sheet} {options : Options} {s : Expansion} {moment : Moment}
    (h : Leads (start sheet options s) moment) :
    moment.state.openImports = moment.importedSheets.length + s.openImports := by
  have hposition : ∀ position : Position, position.Nested sheet options s →
      position.state.openImports = position.importedSheets.length + s.openImports := by
    intro position hnested
    have hframes : (position.outer.map Waiting.frame).countP Frame.expandsImport =
        position.outer.length := by
      rw [List.countP_map]
      exact List.countP_eq_length.mpr fun _ _ => rfl
    rw [openImports, hnested.frames, List.countP_append, hframes,
      Position.length_importedSheets]
    rfl
  have hnested := nested_of_leads h
  cases moment with
  | rendering position => exact hposition position hnested
  | raising error position => exact hposition position hnested
  | ended result after =>
    show after.trace.frames.countP _ = 0 + s.trace.frames.countP _
    rw [show after.trace = s.trace from hnested, Nat.zero_add]

/-- **Every expansion terminates**, whatever the files import. At every moment the imported sheets
that are being rendered, each inside the one before, have different identifiers; so the expansion
never holds more import frames than the resolvers involved have identifiers. -/
theorem expand_terminates {s : Expansion} {issued : Set ImportStatement}
    (hreachable : s.imports.Reachable issued) (sheet : Sheet) (options : Options) :
    Leads (start sheet options s)
        (.ended ((expand sheet options).run s).1 ((expand sheet options).run s).2) ∧
      ∀ moment, Leads (start sheet options s) moment →
        (moment.importedSheets.map Sheet.identifier).Nodup ∧
          moment.state.openImports ≤
            s.openImports + (s.imports.identifiersInvolved options sheet).ncard := by
  refine ⟨ends_expand sheet options s, fun moment hmoment => ?_⟩
  rw [openImports_of_leads hmoment, Nat.add_comm]
  rcases hposition : moment.position? with _ | position
  · simp [Moment.importedSheets, hposition]
  · have hnodup := (nested_position hmoment hposition).nodup_identifiers
    have hwithin : options.Within (s.imports.identifiersInvolved options sheet) :=
      fun resolver hresolver identifier hidentifier => ⟨resolver, Or.inl hresolver, hidentifier⟩
    have hmem := identifier_mem_of_leads hmoment hposition hwithin
      (fun statement hstatement => Or.inr ⟨statement, .own hstatement, rfl⟩)
      (hreachable.confined options sheet)
    have hcard : position.importedSheets.length ≤
        (s.imports.identifiersInvolved options sheet).ncard := by
      let identifiers := position.importedSheets.map Sheet.identifier
      have hsubset : (identifiers.toFinset : Set String) ⊆
          s.imports.identifiersInvolved options sheet :=
        fun identifier hidentifier => hmem identifier (List.mem_toFinset.mp hidentifier)
      calc position.importedSheets.length
          = identifiers.toFinset.card := by
            rw [List.toFinset_card_of_nodup hnodup, List.length_map]
        _ = (identifiers.toFinset : Set String).ncard := (Set.ncard_coe_finset _).symm
        _ ≤ (s.imports.identifiersInvolved options sheet).ncard :=
            Set.ncard_le_ncard hsubset (s.imports.finite_identifiersInvolved options sheet)
    simp only [Moment.importedSheets, hposition, Option.map_some, Option.getD_some]
    exact ⟨hnodup, Nat.add_le_add_left hcard _⟩

/-- The expansion of sheets that import each other terminates. -/
theorem mutualSheet_terminates :
    mutualStart.imports.Reachable (∅ ∪ Imports.statementsAmong mutualSheet.children) ∧
      Leads (start mutualSheet mutualOptions mutualStart)
        (.ended ((expand mutualSheet mutualOptions).run mutualStart).1
          ((expand mutualSheet mutualOptions).run mutualStart).2) ∧
      ∀ moment, Leads (start mutualSheet mutualOptions mutualStart) moment →
        (moment.importedSheets.map Sheet.identifier).Nodup ∧
          moment.state.openImports ≤ mutualStart.openImports +
            (mutualStart.imports.identifiersInvolved mutualOptions mutualSheet).ncard := by
  have hreachable : mutualStart.imports.Reachable
      (∅ ∪ Imports.statementsAmong mutualSheet.children) := .newNodes .empty mutualItems
  exact ⟨hreachable, expand_terminates hreachable mutualSheet mutualOptions⟩

end Expansion

end Stylesheet
