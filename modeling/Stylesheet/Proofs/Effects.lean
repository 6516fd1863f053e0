import Stylesheet.Proofs.Ledgers
import Stylesheet.Proofs.Lexical
import Stylesheet.Proofs.Numbers

/-! # What an action can write

What is written about a scope is kept **at its key**: its bindings, its selector and, for a root,
the ledger of its chain (`Store.writtenAt`). An action that writes is carried out **through** one
scope (`Action.writesThrough?`), and whatever it changes stands at a scope on the path of that one.
All other actions leave every scope alone that there has been (`Coherent.writtenAt_perform`). In
particular nothing is written at a key before a scope takes it (`Run.writtenAt_of_le`). -/

namespace Stylesheet

/-- What is **written at a key**: the bindings and the selector of the scope with this key, and the
ledger of its chain, if it is a root. -/
def Store.writtenAt (store : Store) (key : Nat) :
    Option Bindings × Option SelectorList × Option Ledger :=
  (store.tables[key]?, store.selectors[key]?, store.ledgers[key]?)

/-- The scope that an action writes **through**, if it writes. -/
def Action.writesThrough? : Action → Option Scope
  | write _ scope _ _ _ => some scope
  | select scope _ => some scope
  | warnAssignment scope _ _ _ => some scope
  | warnFalseResult scope _ _ => some scope
  | _ => none

/-- The scope that an action writes through is one that it uses. -/
theorem Action.mem_uses_of_writesThrough? {action : Action} {scope : Scope}
    (h : action.writesThrough? = some scope) : scope.handle ∈ action.uses := by
  cases action with
  | write | select | warnAssignment | warnFalseResult =>
    cases h
    exact List.mem_singleton_self _
  | _ => cases h

namespace Store

variable {store after : Store} {known : Set Handle} {key : Nat}

/-- What is written at a key is a matter of all that is written. -/
theorem writtenAt_of_written_eq (h : after.written = store.written) (key : Nat) :
    after.writtenAt key = store.writtenAt key := by
  simp only [written, Prod.mk.injEq] at h
  obtain ⟨htables, hselectors, hledgers⟩ := h
  rw [writtenAt, htables, hselectors, hledgers, writtenAt]

/-- A scope at whose key nothing is written binds nothing. -/
theorem bindingsOf_of_writtenAt {scope : Scope}
    (h : store.writtenAt scope.key = (none, none, none)) : store.bindingsOf scope = .empty := by
  rw [bindingsOf, show store.tables[scope.key]? = none from congrArg Prod.fst h]
  rfl

/-- A declaration writes at the key of its scope only. -/
theorem writtenAt_declare (store : Store) {target : Scope} (hkey : target.key ≠ key)
    (ns : Namespace) (name : String) (value : ns.Bound) :
    (store.declare target ns name value).writtenAt key = store.writtenAt key := by
  simp [writtenAt, declare, setTableOf, Std.ExtTreeMap.getElem?_insert, hkey]

/-- Setting a selector writes at the key of its scope only. -/
theorem writtenAt_setSelectorOf (store : Store) {scope : Scope} (hkey : scope.key ≠ key)
    (selector : SelectorList) :
    (store.setSelectorOf scope selector).writtenAt key = store.writtenAt key := by
  simp [writtenAt, setSelectorOf, Std.ExtTreeMap.getElem?_insert, hkey]

/-- Setting a ledger writes at the key of its root only. -/
theorem writtenAt_setLedgerOf (store : Store) {root : Root} (hkey : root.key ≠ key)
    (ledger : Ledger) : (store.setLedgerOf root ledger).writtenAt key = store.writtenAt key := by
  simp [writtenAt, setLedgerOf, Std.ExtTreeMap.getElem?_insert, hkey]

/-- A write of a binding writes at keys on the path only. -/
theorem Coherent.writtenAt_write (h : store.Coherent known) {scope : Scope}
    (hscope : scope.handle ∈ known) (hpath : ∀ target ∈ scope.path, target.key ≠ key)
    (mode : WriteMode) (ns : Namespace) (name : String) (value : ns.Bound) :
    ((mode.perform scope ns name value).run store).2.writtenAt key = store.writtenAt key := by
  obtain ⟨roots, hafter⟩ := h.exists_roots_of_write hscope mode ns name value
  rw [hafter]
  cases hlands : mode.target? (store.binder? scope ns name) scope with
  | none => rfl
  | some target =>
    exact store.writtenAt_declare (hpath target (mode.target?_mem_path store hlands)) ns name value

/-- A call for a warning writes at the key of the root only. -/
theorem Coherent.writtenAt_warn (h : store.Coherent known) {scope : Scope}
    (hscope : scope.handle ∈ known) (hkey : scope.chainRoot.key ≠ key) (use : Use)
    (logger : Diagnostic.Logger) :
    ((use.warn scope logger).run store).2.writtenAt key = store.writtenAt key := by
  obtain ⟨hroot, hreads⟩ := h.rootOf hscope
  rw [run_warn]
  dsimp only
  rw [hroot]
  split
  · rw [writtenAt_setLedgerOf _ hkey, writtenAt_of_written_eq hreads.written_eq]
  · exact writtenAt_of_written_eq hreads.written_eq key

/-- **What an action leaves alone**: nothing changes at a key that has been taken before and that
no scope has on the path of the one that the action writes through. -/
theorem Coherent.writtenAt_perform (h : store.Coherent known) {action : Action}
    (huses : ∀ handle ∈ action.uses, handle ∈ known)
    (hold : action.makesScope = true → store.nextScope ≠ key)
    (hpath : ∀ scope, action.writesThrough? = some scope →
      ∀ target ∈ scope.path, target.key ≠ key) :
    (action.perform.run store).2.writtenAt key = store.writtenAt key := by
  cases action with
  | root | nested | body | view | hold | drop => rfl
  | rule parent selector =>
    -- The scope of a style rule is made with its selector.
    have hkey : (Env.nested store.nextScope parent.snapshot parent).key ≠ key := hold rfl
    exact writtenAt_setSelectorOf { store with nextScope := store.nextScope + 1 } hkey _
  | viewOf | rootOf | callerOf | contentOf =>
    exact writtenAt_of_written_eq (h.written_of_asks huses rfl) key
  | write mode scope ns name value =>
    exact h.writtenAt_write (huses _ (List.mem_singleton_self _)) (hpath scope rfl) mode ns name
      value
  | select scope selector =>
    exact store.writtenAt_setSelectorOf (hpath scope rfl _ scope.mem_path) selector
  | warnAssignment scope logger name location =>
    exact h.writtenAt_warn (huses _ (List.mem_singleton_self _))
      (hpath scope rfl _ scope.chainRoot_mem_path) (.assignment name location) logger
  | warnFalseResult scope logger location =>
    exact h.writtenAt_warn (huses _ (List.mem_singleton_self _))
      (hpath scope rfl _ scope.chainRoot_mem_path) (.falseResult location) logger

end Store

namespace Run

variable {actions : List Action} {forest : Forest} {key : Nat}

/-- What stands on the path of a scope that an action writes through is known. -/
theorem known_of_writesThrough? (h : Run actions forest) {action : Action}
    (huses : ∀ handle ∈ action.uses, handle ∈ forest.known) {scope target : Scope}
    (hthrough : action.writesThrough? = some scope) (htarget : target ∈ scope.path) :
    target.handle ∈ forest.known :=
  h.coherent.mem_of_mem_path (huses _ (Action.mem_uses_of_writesThrough? hthrough)) htarget

/-- **Nothing is written at a key** before a scope takes it. -/
theorem writtenAt_of_le (h : Run actions forest) (hkey : forest.store.nextScope ≤ key) :
    forest.store.writtenAt key = (none, none, none) := by
  induction h with
  | start => simp [Forest.empty, Store.empty, Store.writtenAt]
  | @act actions forest hrun action huses ih =>
    have hnext : (action.perform.run forest.store).2.nextScope ≤ key := hkey
    rw [Store.nextScope_perform] at hnext
    have hbefore : forest.store.nextScope ≤ key := by omega
    rw [← ih hbefore]
    refine hrun.coherent.writtenAt_perform huses ?_ ?_
    · intro hmakes
      simp only [hmakes, if_true] at hnext
      omega
    · intro scope hthrough target htarget
      have hlt : target.key < forest.store.nextScope :=
        hrun.coherent.key_lt _ (hrun.known_of_writesThrough? huses hthrough htarget)
      omega

end Run

end Stylesheet
