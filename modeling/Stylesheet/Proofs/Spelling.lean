import Mathlib.Data.List.Forall2
import Stylesheet.Proofs.Commutation
import Stylesheet.Proofs.Invocations

/-! # The spelling of names

A name may be written with an underscore wherever it may be written with a hyphen: two spellings
name one binding exactly if they differ in no other way (`Name.respells_iff`). Each operation that
takes a name normalizes it for itself, so **respelling** the names in a program, each occurrence by
itself, changes nothing about its run (`Program.Respelled.run_eq`): all parts of the program begin
in the same sessions and end with the same results (`Program.Respelled.begins`). Names that differ
otherwise have nothing to do with each other (`Store.reads_of_not_respells`). -/

namespace Stylesheet

open Diagnostic

/-! ## Spellings of one name -/

namespace Name

/-- Two characters count as **one character** of a name: they are the same, or each is an underscore
or a hyphen. -/
def Interchanges (c d : Char) : Prop :=
  c = d ∨ c ∈ ['_', '-'] ∧ d ∈ ['_', '-']

/-- A text **respells** another one: they have the same length, and in each position there are
characters that count as one. -/
def Respells (name other : String) : Prop :=
  List.Forall₂ Interchanges name.toList other.toList

/-- Characters that count as one are folded into one. -/
theorem fold_eq_iff {c d : Char} : fold c = fold d ↔ Interchanges c d := by
  unfold fold Interchanges
  simp only [List.mem_cons, List.not_mem_nil, or_false]
  by_cases hc : c = '_' <;> by_cases hd : d = '_' <;> grind

/-- **Two spellings name one binding** exactly if one respells the other. -/
theorem respells_iff {name other : String} :
    Respells name other ↔ ofRaw name = ofRaw other := by
  have hfold : (fun c d => fold c = fold d) = Interchanges := by
    funext c d
    exact propext fold_eq_iff
  rw [ofRaw_eq_iff, normalize, normalize, String.ofList_inj, Respells, ← hfold,
    ← List.forall₂_eq_eq_eq, List.forall₂_map_left_iff, List.forall₂_map_right_iff]

/-- A text that respells another one has the same normalized spelling. -/
theorem Respells.normalize_eq {name other : String} (h : Respells name other) :
    normalize name = normalize other :=
  ofRaw_eq_iff.mp (respells_iff.mp h)

/-- Lists of texts that respell each other make the same names. -/
theorem map_ofRaw_of_respells {names others : List String}
    (h : List.Forall₂ Respells names others) : names.map ofRaw = others.map ofRaw := by
  induction h with
  | nil => rfl
  | cons h _ ih => rw [List.map_cons, List.map_cons, respells_iff.mp h, ih]

/-- Optional texts that respell each other make the same name, if any. -/
theorem map_ofRaw?_of_respells {name other : Option String} (h : Option.Rel Respells name other) :
    name.map ofRaw = other.map ofRaw := by
  cases h with
  | none => rfl
  | some h => rw [Option.map_some, Option.map_some, respells_iff.mp h]

end Name

/-! ## Operations that take names -/

namespace Store

variable {name other : String}

/-- A look-up normalizes the name. -/
theorem get?_of_respells (h : Name.Respells name other) (store : Store) {a : Access} (env : Env a)
    (ns : Namespace) : store.get? env ns name = store.get? env ns other := by
  rw [get?, h.normalize_eq, get?]

/-- The search for the nearest binder normalizes the name. -/
theorem binder?_of_respells (h : Name.Respells name other) (store : Store) {a : Access}
    (env : Env a) (ns : Namespace) : store.binder? env ns name = store.binder? env ns other := by
  rw [binder?, h.normalize_eq, binder?]

/-- The question for global names normalizes the name. -/
theorem isBoundAtRoot_of_respells (h : Name.Respells name other) (store : Store) {a : Access}
    (env : Env a) (ns : Namespace) :
    store.isBoundAtRoot env ns name = store.isBoundAtRoot env ns other := by
  rw [isBoundAtRoot, store.binder?_of_respells h, isBoundAtRoot]

/-- A declaration builds the name. -/
theorem declare_of_respells (h : Name.Respells name other) (store : Store) (scope : Scope)
    (ns : Namespace) (value : ns.Bound) :
    store.declare scope ns name value = store.declare scope ns other value := by
  rw [declare, Name.respells_iff.mp h, declare]

/-- An assignment to an existing binding normalizes the name. -/
theorem overwrite_of_respells (h : Name.Respells name other) (store : Store) (scope : Scope)
    (ns : Namespace) (value : ns.Bound) :
    store.overwrite scope ns name value = store.overwrite scope ns other value := by
  rw [overwrite, h.normalize_eq, overwrite]

/-- A warning about an assignment builds the name for the ledger and normalizes it for the text. -/
theorem warnAssignment_of_respells (h : Name.Respells name other) (scope : Scope) (logger : Logger)
    (location : Location) :
    warnAssignment scope logger name location = warnAssignment scope logger other location := by
  rw [warnAssignment, h.normalize_eq, Name.respells_iff.mp h, warnAssignment]

end Store

/-- Each way of writing normalizes the name or builds it. -/
theorem WriteMode.perform_of_respells {name other : String} (h : Name.Respells name other)
    (mode : WriteMode) (scope : Scope) (ns : Namespace) (value : ns.Bound) :
    mode.perform scope ns name value = mode.perform scope ns other value := by
  have hdeclare := fun store => Store.declare_of_respells h store
  have hoverwrite := fun store => Store.overwrite_of_respells h store scope ns value
  cases mode with
  | here => simp only [perform, hdeclare]
  | atRoot => simp only [perform, Store.declareAtRoot, hdeclare]
  | existing => simp only [perform, Store.overwritten, hoverwrite]
  | existingOrHere => simp only [perform, Store.assign, hoverwrite, hdeclare]

/-- Each way of writing answers alike. -/
theorem Writing.answer_of_respells {name other : String} (h : Name.Respells name other)
    (mode : WriteMode) (scope : Scope) (ns : Namespace) (value : ns.Bound) (store : Store) :
    answer ⟨mode, scope, ns, name, value⟩ store = answer ⟨mode, scope, ns, other, value⟩ store := by
  cases mode with
  | existing => simp only [answer, store.overwrite_of_respells h]
  | _ => rfl

namespace Evaluation

variable {σ : Type}

/-- Looks a name up. -/
def lookUp (handle : Handle) (ns : Namespace) (name : String) : Evaluation σ (Option ns.Bound) := do
  return (← getThe (Session σ)).store.get? handle.env ns name

/-- Asks whether a name is global. -/
def lookUpGlobal (handle : Handle) (ns : Namespace) (name : String) : Evaluation σ Bool := do
  return (← getThe (Session σ)).store.isBoundAtRoot handle.env ns name

/-- Writes a binding, and tells whether it could be written. -/
def write (writing : Writing) : Evaluation σ (Except writing.ns.Bound Unit) :=
  scoping fun store =>
    (writing.answer store, (writing.action.perform.run store).2)

/-- Warns about an assignment to a global variable. -/
def warnAssignment (scope : Scope) (logger : Logger) (name : String) (location : Location) :
    Evaluation σ (Bool × Logger) :=
  scoping (Store.warnAssignment scope logger name location)

/-- One evaluation is another one with its names **respelled**. -/
inductive Respelled : {α : Type} → Evaluation σ α → Evaluation σ α → Prop
  /-- A step that is given no name, or the same one. -/
  | same {α : Type} (evaluation : Evaluation σ α) : Respelled evaluation evaluation
  /-- A look-up. -/
  | lookUp {name other : String} (h : Name.Respells name other) (handle : Handle)
    (ns : Namespace) : Respelled (lookUp handle ns name) (lookUp handle ns other)
  /-- The question whether a name is global. -/
  | lookUpGlobal {name other : String} (h : Name.Respells name other) (handle : Handle)
    (ns : Namespace) : Respelled (lookUpGlobal handle ns name) (lookUpGlobal handle ns other)
  /-- A write in any mode. -/
  | write {name other : String} (h : Name.Respells name other) (mode : WriteMode) (scope : Scope)
    (ns : Namespace) (value : ns.Bound) :
    Respelled (write ⟨mode, scope, ns, name, value⟩) (write ⟨mode, scope, ns, other, value⟩)
  /-- A warning about an assignment to a global variable. -/
  | warnAssignment {name other : String} (h : Name.Respells name other) (scope : Scope)
    (logger : Logger) (location : Location) :
    Respelled (warnAssignment scope logger name location)
      (warnAssignment scope logger other location)
  /-- The declaration of a callable, with the names of its parameters. -/
  | declareCallable {name other : String} {params params' : List String}
    {rest rest' : Option String} (h : Name.Respells name other)
    (hparams : List.Forall₂ Name.Respells params params')
    (hrest : Option.Rel Name.Respells rest rest')
    (kind : Callable.Kind) (takesContent : Bool) (body : List Item) (scope : Scope) :
    Respelled (declareCallable kind name params rest takesContent body scope)
      (declareCallable kind other params' rest' takesContent body scope)

/-- **An operation does not notice** how its names are spelled. -/
theorem Respelled.eq {α : Type} {first second : Evaluation σ α} (h : first.Respelled second) :
    first = second := by
  cases h with
  | same => rfl
  | lookUp h handle ns => simp only [Evaluation.lookUp, Store.get?_of_respells h]
  | lookUpGlobal h handle ns =>
    simp only [Evaluation.lookUpGlobal, Store.isBoundAtRoot_of_respells h]
  | write h mode scope ns value =>
    simp only [Evaluation.write, Writing.answer_of_respells h, Writing.action, Action.perform,
      WriteMode.perform_of_respells h]
  | warnAssignment h scope logger location =>
    rw [Evaluation.warnAssignment, Store.warnAssignment_of_respells h, Evaluation.warnAssignment]
  | declareCallable h hparams hrest kind takesContent body scope =>
    rw [Evaluation.declareCallable, Name.respells_iff.mp h, Name.map_ofRaw_of_respells hparams,
      Name.map_ofRaw?_of_respells hrest, Evaluation.declareCallable]

end Evaluation

/-! ## Programs -/

namespace Program

variable {σ α β : Type}

/-- One program is another one with its names **respelled**, each occurrence by itself. What a
program does next may depend on earlier answers, and is respelled for each of these. -/
def Respelled : {α : Type} → Program σ α → Program σ α → Prop
  | _, .step evaluation _, second =>
    ∃ evaluation' keeps, evaluation.Respelled evaluation' ∧ second = .step evaluation' keeps
  | _, .bind first next, second =>
    ∃ first' next', first.Respelled first' ∧ (∀ value, (next value).Respelled (next' value)) ∧
      second = .bind first' next'
  | _, .within ref frame body, second =>
    ∃ body', body.Respelled body' ∧ second = .within ref frame body'
  | _, .expand sheet options ref, second => second = .expand sheet options ref
  | _, .invoke callable ref site caller content body, second =>
    ∃ body', (∀ scope, (body scope).Respelled (body' scope)) ∧
      second = .invoke callable ref site caller content body'
  | _, .attempt body, second => ∃ body', body.Respelled body' ∧ second = .attempt body'
  | _, .catchPanic body, second => ∃ body', body.Respelled body' ∧ second = .catchPanic body'

/-- A program respells itself. -/
theorem Respelled.refl (program : Program σ α) : program.Respelled program := by
  induction program with
  | step evaluation keeps => exact ⟨evaluation, keeps, .same evaluation, rfl⟩
  | bind first next ih ih' => exact ⟨first, next, ih, ih', rfl⟩
  | within ref frame body ih => exact ⟨body, ih, rfl⟩
  | expand sheet options ref => rfl
  | invoke callable ref site caller content body ih => exact ⟨body, ih, rfl⟩
  | attempt body ih => exact ⟨body, ih, rfl⟩
  | catchPanic body ih => exact ⟨body, ih, rfl⟩

/-- **A program does not notice** how its names are spelled: it does just the same. -/
theorem Respelled.eval_eq {first second : Program σ α} (h : first.Respelled second) :
    first.eval = second.eval := by
  induction first with
  | step evaluation keeps =>
    obtain ⟨evaluation', keeps', hsame, rfl⟩ := h
    exact hsame.eq
  | bind first next ih ih' =>
    obtain ⟨first', next', hfirst, hnext, rfl⟩ := h
    simp only [eval, ih hfirst, fun value => ih' value (hnext value)]
  | within ref frame body ih =>
    obtain ⟨body', hbody, rfl⟩ := h
    rw [eval, ih hbody, eval]
  | expand sheet options ref =>
    obtain rfl : second = _ := h
    rfl
  | invoke callable ref site caller content body ih =>
    obtain ⟨body', hbody, rfl⟩ := h
    simp only [eval, fun scope => ih scope (hbody scope)]
  | attempt body ih =>
    obtain ⟨body', hbody, rfl⟩ := h
    rw [eval, ih hbody, eval]
  | catchPanic body ih =>
    obtain ⟨body', hbody, rfl⟩ := h
    rw [eval, ih hbody, eval]

/-- Both programs end with the same result and in the same session. -/
theorem Respelled.run_eq {first second : Program σ α} (h : first.Respelled second)
    (session : Session σ) : first.run session = second.run session := by
  rw [run, h.eval_eq, run]

/-- **In lockstep**: wherever a part of the program begins, the respelled part of the other one
does. -/
theorem Respelled.begins {first second : Program σ α} (h : first.Respelled second)
    {session there : Session σ} {opened : List (TraceRef × Frame)} {part : Program σ β}
    (hbegins : first.Begins session opened part there) :
    ∃ part', second.Begins session opened part' there ∧ part.Respelled part' := by
  induction hbegins with
  | itself => exact ⟨second, .itself second _, h⟩
  | first _ ih =>
    obtain ⟨first', next', hfirst, -, rfl⟩ := h
    obtain ⟨part', hbegins, hpart⟩ := ih hfirst
    exact ⟨part', .first hbegins, hpart⟩
  | next hrun _ ih =>
    obtain ⟨first', next', hfirst, hnext, rfl⟩ := h
    obtain ⟨part', hbegins, hpart⟩ := ih (hnext _)
    exact ⟨part', .next (hfirst.run_eq _ ▸ hrun) hbegins, hpart⟩
  | within _ ih =>
    obtain ⟨body', hbody, rfl⟩ := h
    obtain ⟨part', hbegins, hpart⟩ := ih hbody
    exact ⟨part', .within hbegins, hpart⟩
  | invoke halive _ ih =>
    obtain ⟨body', hbody, rfl⟩ := h
    obtain ⟨part', hbegins, hpart⟩ := ih (hbody _)
    exact ⟨part', .invoke halive hbegins, hpart⟩
  | attempt _ ih =>
    obtain ⟨body', hbody, rfl⟩ := h
    obtain ⟨part', hbegins, hpart⟩ := ih hbody
    exact ⟨part', .attempt hbegins, hpart⟩
  | catchPanic _ ih =>
    obtain ⟨body', hbody, rfl⟩ := h
    obtain ⟨part', hbegins, hpart⟩ := ih hbody
    exact ⟨part', .catchPanic hbegins, hpart⟩

end Program

/-! ## Names that differ otherwise -/

namespace Store

variable {name other : String}

/-- A write under a name leaves every binding of every other name alone. -/
theorem own?_of_not_respells (h : ¬ Name.Respells name other) (store : Store) (mode : WriteMode)
    (source : Scope) (ns : Namespace) (value : ns.Bound) (wanted : Namespace) (scope : Scope) :
    ((mode.perform source ns name value).run store).2.own? wanted (Name.normalize other) scope =
      store.own? wanted (Name.normalize other) scope := by
  have hne : ns ≠ wanted ∨ Name.ofRaw name ≠ .ofRaw other :=
    .inr fun hsame => h (Name.respells_iff.mpr hsame)
  have hdeclare := fun (store : Store) target => store.own?_declare_of_ne target hne value scope
  cases mode with
  | here => exact hdeclare store source
  | atRoot =>
    -- Asking for the root changes no table.
    obtain ⟨roots, hafter⟩ := exists_roots_of_rootOf source store
    refine (hdeclare ((Store.rootOf source).run store).2 _).trans ?_
    rw [hafter]
    rfl
  | existing =>
    show (store.overwritten source ns name value).own? _ _ _ = _
    rw [overwritten_eq]
    cases store.binder? source ns name with
    | none => rfl
    | some target => exact hdeclare store target
  | existingOrHere =>
    show (store.assign source ns name value).own? _ _ _ = _
    rw [assign_eq]
    exact hdeclare store _

/-- **Names that differ otherwise** never refer to one binding: what is written under one of them
changes nothing about what is read under the other, and whether that can be assigned to. -/
theorem reads_of_not_respells (h : ¬ Name.Respells name other) (store : Store) (mode : WriteMode)
    (source : Scope) (ns : Namespace) (value : ns.Bound) :
    let after := ((mode.perform source ns name value).run store).2
    (∀ {a : Access} (env : Env a) (wanted : Namespace),
      after.get? env wanted other = store.get? env wanted other ∧
        after.isBoundAtRoot env wanted other = store.isBoundAtRoot env wanted other) ∧
      ∀ writing : Writing, writing.name = other → writing.answer after = writing.answer store := by
  have hown := own?_of_not_respells h store mode source ns value
  refine ⟨fun env wanted => get?_congr (hown wanted) env, ?_⟩
  rintro writing rfl
  exact (Writing.of_binder?_eq (binder?_congr fun scope _ => hown writing.ns scope)).2

end Store

/-! ## The main statement -/

/-- **The spelling of names never matters.** Two texts are spellings of one name exactly if they
differ in nothing but underscores and hyphens, position by position. A program and one with its
names respelled do the same from every session: they end with the same result in the same session,
and wherever a part of the first one begins, the respelled part of the other one begins in the same
session, inside the same frames, and ends with the same result. Names that are no spellings of one
name never refer to one binding. -/
theorem spelling_never_matters {σ : Type} :
    (∀ name other : String, Name.Respells name other ↔ Name.ofRaw name = .ofRaw other) ∧
    (∀ {α : Type} (first second : Program σ α), first.Respelled second →
      ∀ session : Session σ, first.run session = second.run session ∧
        ∀ {β : Type} (opened : List (TraceRef × Frame)) (part : Program σ β) (there : Session σ),
          first.Begins session opened part there →
            ∃ part', second.Begins session opened part' there ∧ part.Respelled part' ∧
              part.run there = part'.run there) ∧
    ∀ name other : String, ¬ Name.Respells name other →
      ∀ (store : Store) (mode : WriteMode) (source : Scope) (ns : Namespace) (value : ns.Bound),
        let after := ((mode.perform source ns name value).run store).2
        (∀ {a : Access} (env : Env a) (wanted : Namespace),
          after.get? env wanted other = store.get? env wanted other ∧
            after.isBoundAtRoot env wanted other = store.isBoundAtRoot env wanted other) ∧
          ∀ writing : Writing, writing.name = other →
            writing.answer after = writing.answer store := by
  refine ⟨fun _ _ => Name.respells_iff, fun first second h session => ⟨h.run_eq session, ?_⟩,
    fun _ _ h => Store.reads_of_not_respells h⟩
  intro β opened part there hbegins
  obtain ⟨part', hbegins', hpart⟩ := h.begins hbegins
  exact ⟨part', hbegins', hpart, hpart.run_eq there⟩

namespace Run

/-- A mixin is declared and bound under a name, looked up under another one, and invoked; its body
fails inside an import. -/
def gridCall (name param wanted : String) : Program Unit Unit :=
  .bind (.step (.declareCallable .mixin name [param] none false [] sampleNested) fun _ _ => rfl)
    fun callable =>
  .bind (.step (.write ⟨.here, sampleNested, .mixin, name, callable⟩) fun _ _ => rfl) fun _ =>
  .bind (.step (.lookUp sampleNested.handle .mixin wanted) fun _ _ => rfl) fun found =>
  match found with
  | none => .step (pure ()) fun _ _ => rfl
  | some callable =>
    .invoke callable ⟨0⟩ ⟨3, some "_grid.scss"⟩ sampleRoot.handle none fun _ => failingBody

/-- In the sample, it makes no difference which spellings are used where, and the frame of the mixin
shows the hyphens. A name with another character in place of the hyphen is another one. -/
theorem gridCall_respelled :
    (gridCall "grid_row" "row-gap" "grid-row").Respelled
        (gridCall "grid-row" "row_gap" "grid_row") ∧
      (gridCall "grid_row" "row-gap" "grid-row").run sampleSession =
        (gridCall "grid-row" "row_gap" "grid_row").run sampleSession ∧
      ((gridCall "grid-row" "row_gap" "grid_row").run sampleSession).1 =
        .error (.failed (widthError.viaAll
          [⟨⟨2, some "main.scss"⟩, some "@import \"buttons\""⟩,
            ⟨⟨3, some "_grid.scss"⟩, some "mixin `grid-row`"⟩])) ∧
      ¬ Name.Respells "grid_row" "grid.row" ∧
      (sampleSession.store.declare sampleNested .var "grid_row" (.bool true)).get? sampleNested .var
        "grid.row" = sampleSession.store.get? sampleNested .var "grid.row" := by
  obtain ⟨hrespells, hprograms, hapart⟩ := @spelling_never_matters Unit
  have hname : Name.Respells "grid_row" "grid-row" := (hrespells _ _).mpr (by decide +kernel)
  have hback : Name.Respells "grid-row" "grid_row" := (hrespells _ _).mpr (by decide +kernel)
  have hparam : Name.Respells "row-gap" "row_gap" := (hrespells _ _).mpr (by decide +kernel)
  have hother : ¬ Name.Respells "grid_row" "grid.row" :=
    fun h => absurd ((hrespells _ _).mp h) (by decide +kernel)
  have hrespelled : (gridCall "grid_row" "row-gap" "grid-row").Respelled
      (gridCall "grid-row" "row_gap" "grid_row") := by
    refine ⟨_, _, ⟨_, _, .declareCallable hname (.cons hparam .nil) .none _ _ _ _, rfl⟩,
      fun callable => ?_, rfl⟩
    refine ⟨_, _, ⟨_, _, .write hname _ _ .mixin callable, rfl⟩, fun _ => ?_, rfl⟩
    exact ⟨_, _, ⟨_, _, .lookUp hback _ .mixin, rfl⟩, fun found => .refl _, rfl⟩
  refine ⟨hrespelled, (hprograms _ _ hrespelled sampleSession).1, ?_, hother, ?_⟩
  · rfl
  · exact ((hapart _ _ hother sampleSession.store .here sampleNested .var (.bool true)).1
      sampleNested .var).1

end Run

end Stylesheet
