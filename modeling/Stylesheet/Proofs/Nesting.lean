import Mathlib.Data.Set.Card
import Stylesheet.Proofs.Moments

/-! # Sheets inside sheets

What is true at every moment of an expansion about the sheets that wait: each of them waits for a
statement that it holds and that has resolved to the sheet inside it (`Descends`), its frames are
the import frames that the expansion has opened, and no two of the files involved are the same. The
invariant (`Position.Nested`) is kept by `Moment.next`, so it holds throughout (`nested_of_leads`).

Since the files differ and there are only so many, the sheets that wait are never more than the
identifiers that the expansion can reach. Hence every expansion comes to an end by itself, and with
the result of `expand` (`ends_expand`): the depth that `expand` grants is never what stops it. -/

namespace Stylesheet

open Diagnostic

/-! ## Outcomes are only added -/

/-- Every outcome that was remembered before is remembered after. -/
def Imports.Keeps (before after : Imports) : Prop :=
  ∀ statement outcome, before.outcome? statement = some outcome →
    after.outcome? statement = some outcome

/-- Remembering an outcome changes that of the statements with the same key. -/
theorem Imports.outcome?_settle_eq_ite (imports : Imports) (statement other : ImportStatement)
    (outcome : Option Resolution) :
    (imports.settle statement outcome).outcome? other =
      if statement.key = other.key then some outcome else imports.outcome? other := by
  simp [settle, outcome?, Std.ExtTreeMap.getElem?_insert]

namespace ImportStatement

/-- Settling a statement changes the outcome of the statements with its key. -/
theorem outcome?_settled (statement other : ImportStatement) (options : Options) (count : Nat)
    (outcome : Option Resolution) (imports : Imports) :
    (statement.settled options count outcome imports).outcome? other =
      if statement.key = other.key then some outcome else imports.outcome? other := by
  have hother : ((imports.afterSearch statement.reference options).withStatements count).outcome?
      other = imports.outcome? other := Imports.outcome?_afterSearch _ _ _ other
  rw [settled, Imports.outcome?_settle_eq_ite, hother]

/-- A statement is settled only if it has no outcome yet. -/
theorem keeps_settled {statement : ImportStatement} {imports : Imports}
    (hnew : imports.outcome? statement = none) (options : Options) (count : Nat)
    (outcome : Option Resolution) :
    imports.Keeps (statement.settled options count outcome imports) := by
  intro other remembered hother
  rw [outcome?_settled, if_neg, hother]
  -- A statement with the same key would have an outcome already.
  intro hkey
  rw [Imports.outcome?, hkey, ← Imports.outcome?, hother] at hnew
  cases hnew

/-- The query for an outcome forgets nothing. -/
theorem Answered.keeps {statement : ImportStatement} {options : Options}
    {imports after : Imports} {result : Except CompileError (Option Resolution)}
    (h : statement.Answered options imports result after) : imports.Keeps after := by
  cases h with
  | remembered => exact fun _ _ hold => hold
  | missed hnew => exact keeps_settled hnew _ _ _
  | found hnew => exact keeps_settled hnew _ _ _
  | failed =>
    intro other outcome hother
    rw [Imports.outcome?_afterSearch]
    exact hother

end ImportStatement

namespace Expansion

open Moment

/-- Locating a statement asks it for its outcome, unless its reference is plain CSS. -/
theorem Located.imports_eq {statement : ImportStatement} {options : Options} {s : Expansion}
    {result : Except CompileError (Option (Sheet × Options))} {imports : Imports}
    (h : Located statement options s result imports) :
    imports = s.imports ∨ imports = ((statement.findOutcome options).run s.imports).2 := by
  cases h with
  | named => exact Or.inl rfl
  | failed _ hrun => exact Or.inr (by rw [hrun])
  | missed _ hrun => exact Or.inr (by rw [hrun])
  | plain _ hrun => exact Or.inr (by rw [hrun])
  | looping _ hrun => exact Or.inr (by rw [hrun])
  | spliced _ hrun => exact Or.inr (by rw [hrun])

/-- Locating a statement forgets no outcome. -/
theorem Located.keeps {statement : ImportStatement} {options : Options} {s : Expansion}
    {result : Except CompileError (Option (Sheet × Options))} {imports : Imports}
    (h : Located statement options s result imports) : s.imports.Keeps imports := by
  rcases h.imports_eq with rfl | rfl
  · exact fun _ _ hold => hold
  · exact (statement.answered_findOutcome options s.imports).keeps

/-! ## The sheets that wait -/

/-- **The way down** from the sheet at the top to the one that is being rendered, through the sheets
that wait: each waits for one of its statements, which has resolved to the sheet below it, and none
has the file name of one further out. -/
inductive Descends (imports : Imports) (top : Sheet) (options : Options) :
    Sheet → Options → List Waiting → Prop
  /-- The sheet at the top is being rendered itself. -/
  | top : Descends imports top options top options []
  /-- A sheet has been entered from the one that waits for it. -/
  | enter {waiting : Waiting} {outer : List Waiting} {found : Resolution}
    (houter : Descends imports top options waiting.sheet waiting.options outer)
    (hrest : .atImport waiting.statement :: waiting.rest <:+ waiting.sheet.children)
    (hfound : imports.outcome? waiting.statement = some (some found))
    (hnew : some found.sheet.identifier ∉
      waiting.options.filename :: outer.map (·.options.filename)) :
    Descends imports top options found.sheet
      (waiting.options.forSheet found.sheet.identifier found.resolver) (waiting :: outer)

/-- The way down stays as it is when outcomes are added. -/
theorem Descends.of_keeps {before after : Imports} {top sheet : Sheet} {options nested : Options}
    {outer : List Waiting} (hkeeps : before.Keeps after)
    (h : Descends before top options sheet nested outer) :
    Descends after top options sheet nested outer := by
  induction h with
  | top => exact .top
  | enter _ hrest hfound hnew ih => exact .enter ih hrest (hkeeps _ _ hfound) hnew

/-- All the way down load paths and muting are carried over. -/
theorem Descends.carried {imports : Imports} {top sheet : Sheet} {options nested : Options}
    {outer : List Waiting} (h : Descends imports top options sheet nested outer) :
    nested.loadPaths = options.loadPaths ∧ nested.quiet = options.quiet := by
  induction h with
  | top => exact ⟨rfl, rfl⟩
  | enter _ _ _ _ ih => exact ih

namespace Position

/-- The names of the files that are being rendered, innermost first. -/
def filenames (position : Position) : List (Option String) :=
  position.level.options.filename :: position.outer.map (·.options.filename)

/-- The imported sheets that are being rendered, innermost first: all but the one at the top. -/
def importedSheets (position : Position) : List Sheet :=
  (position.level.sheet :: position.outer.map Waiting.sheet).dropLast

/-- **What holds at every position** of the expansion of the sheet `top` under `options` that began
in the state `s`. -/
structure Nested (top : Sheet) (options : Options) (s : Expansion) (position : Position) :
    Prop where
  /-- The live frames are those of the sheets that wait, the base frame, and the frames from
  before. -/
  frames : position.state.trace.frames =
    position.outer.map Waiting.frame ++ baseFrame options :: s.trace.frames
  /-- The sheets lead down from the top. -/
  descends : Descends position.state.imports top options position.level.sheet
    position.level.options position.outer
  /-- What is left to render is the rest of the sheet. -/
  rest : position.level.nodes <:+ position.level.sheet.children

variable {top : Sheet} {options : Options} {s : Expansion} {position : Position}

/-- No loop is found only if the sheet is none of the files that are being rendered. -/
theorem Nested.not_mem_filenames (h : position.Nested top options s) {identifier : String}
    (hloop : loop? position.state.trace position.level.options.filename identifier = none) :
    some identifier ∉ position.filenames := by
  rw [loop?_eq_none_iff, h.frames] at hloop
  obtain ⟨hcurrent, hlive⟩ := hloop
  intro hmem
  rw [filenames, List.mem_cons, List.mem_map] at hmem
  rcases hmem with hmem | ⟨waiting, hwaiting, hmem⟩
  · exact hcurrent hmem.symm
  · -- The frame of a sheet that waits is a live import from its file.
    have hframe : waiting.frame ∈
        position.outer.map Waiting.frame ++ baseFrame options :: s.trace.frames :=
      List.mem_append_left _ (List.mem_map_of_mem hwaiting)
    exact hlive waiting.frame hframe rfl hmem

/-- Locating the next statement keeps the invariant. -/
theorem Nested.of_located (h : position.Nested top options s) {statement : ImportStatement}
    {result : Except CompileError (Option (Sheet × Options))} {imports : Imports}
    (hlocated : Located statement position.level.options position.state result imports) :
    { position with state := { position.state with imports := imports } : Position }.Nested
      top options s :=
  ⟨h.frames, h.descends.of_keeps hlocated.keeps, h.rest⟩

/-- Rendering the next node keeps the invariant. -/
theorem Nested.wrote (h : position.Nested top options s) {node : Node} {rest : List Node}
    (hnodes : position.level.nodes = node :: rest) (piece : String) :
    (position.wrote piece rest position.state).Nested top options s :=
  ⟨h.frames, h.descends, ((List.suffix_cons node rest).trans (hnodes ▸ h.rest))⟩

/-- Entering the sheet that a statement splices keeps the invariant. -/
theorem Nested.entered (h : position.Nested top options s) {statement : ImportStatement}
    {rest : List Node} (hnodes : position.level.nodes = .atImport statement :: rest)
    {sheet : Sheet} {nested : Options} {imports : Imports}
    (hlocated : Located statement position.level.options position.state
      (.ok (some (sheet, nested))) imports) :
    (position.entered statement rest sheet nested
      { position.state with imports := imports }).Nested top options s := by
  have hkeeps := hlocated.keeps
  cases hlocated with
  | spliced _ hrun _ hloop =>
    refine ⟨?_, ?_, List.suffix_refl _⟩
    · -- The frame of the statement is opened in front of the others.
      show _ :: position.state.trace.frames = _
      rw [h.frames]
      rfl
    · -- The loop check says that the sheet is none of those further out.
      have hrest : .atImport (position.waitFor statement rest).statement ::
          (position.waitFor statement rest).rest <:+
            (position.waitFor statement rest).sheet.children := hnodes ▸ h.rest
      exact .enter (h.descends.of_keeps hkeeps) hrest
        (ImportStatement.outcome?_of_run_findOutcome hrun) (h.not_mem_filenames hloop)

/-- Leaving a sheet leads back to the one that waits for it. -/
theorem Nested.left (h : position.Nested top options s) {waiting : Waiting}
    {outer : List Waiting} (houter : position.outer = waiting :: outer) :
    (⟨waiting.level, outer, position.state.closed⟩ : Position).Nested top options s := by
  obtain ⟨⟨sheet, nested, pieces, nodes⟩, all, state⟩ := position
  obtain ⟨hframes, hdescends, -⟩ := h
  dsimp only at houter hframes hdescends
  subst houter
  -- Some sheet waits, so the innermost one has been entered from it.
  cases hdescends with
  | enter hup hrest =>
    refine ⟨?_, hup, hrest⟩
    show state.trace.frames.tail = _
    rw [hframes]
    rfl

/-- Leaving the sheet at the top restores the frames. -/
theorem Nested.trace_closed (h : position.Nested top options s) (houter : position.outer = []) :
    position.state.closed.trace = s.trace := by
  have hframes := h.frames
  rw [houter] at hframes
  show (⟨position.state.trace.frames.tail⟩ : Trace) = s.trace
  rw [hframes]
  rfl

end Position

/-- **What holds at every moment** of an expansion: the invariant of its position and, at the end,
that the frames are those from before. -/
def Moment.Nested (top : Sheet) (options : Options) (s : Expansion) : Moment → Prop
  | rendering position => position.Nested top options s
  | raising _ position => position.Nested top options s
  | ended _ after => after.trace = s.trace

/-- From one position to the next moment the invariant is kept. -/
theorem Position.Nested.advance {top : Sheet} {options : Options} {s : Expansion}
    {position : Position} (h : position.Nested top options s) :
    position.advance.Nested top options s := by
  rcases hnodes : position.level.nodes with _ | ⟨text | statement, rest⟩
  · -- The sheet is at its end: the one that waits for it goes on after its statement.
    rcases houter : position.outer with _ | ⟨waiting, outer⟩
    all_goals rw [Position.advance, hnodes, houter]
    · exact h.trace_closed houter
    · have hleft := h.left houter
      exact ⟨hleft.frames, hleft.descends, (List.suffix_cons _ _).trans hleft.rest⟩
  · -- Rendered CSS is next.
    rw [Position.advance, hnodes]
    exact h.wrote hnodes text
  · -- A statement is next: an error leaves the position as it is, a sheet is entered.
    obtain ⟨result, imports, hlocated, hadvance⟩ := Position.advance_atImport hnodes
    rw [hadvance]
    rcases result with error | _ | ⟨sheet, nested⟩
    · exact h.of_located hlocated
    · exact (h.of_located hlocated).wrote hnodes _
    · exact h.entered hnodes hlocated

/-- **The invariant is kept** from each moment to the next. -/
theorem Moment.Nested.next {top : Sheet} {options : Options} {s : Expansion} {moment : Moment}
    (h : moment.Nested top options s) : moment.next.Nested top options s := by
  match moment with
  | rendering position => exact h.advance
  | raising error ⟨level, [], state⟩ => exact h.trace_closed rfl
  | raising error ⟨level, waiting :: outer, state⟩ => exact h.left rfl
  | ended result after => exact h

/-- **The invariant holds throughout** an expansion. -/
theorem nested_of_leads {top : Sheet} {options : Options} {s : Expansion} {moment : Moment}
    (h : Leads (start top options s) moment) : moment.Nested top options s :=
  h.induction (P := Moment.Nested top options s) ⟨rfl, .top, List.suffix_refl _⟩
    fun _ _ hmoment => hmoment.next

/-- At every position of an expansion the invariant holds. -/
theorem nested_position {top : Sheet} {options : Options} {s : Expansion} {moment : Moment}
    (h : Leads (start top options s) moment) {position : Position}
    (hposition : moment.position? = some position) : position.Nested top options s := by
  have hnested := nested_of_leads h
  cases moment with
  | rendering => cases hposition; exact hnested
  | raising => cases hposition; exact hnested
  | ended => cases hposition

/-- From one position to the next moment holds what asking the statements of the sheet for their
outcomes keeps. -/
theorem Position.Nested.imports_advance {P : Imports → Prop} {top : Sheet} {options : Options}
    {s : Expansion} {position : Position} (h : position.Nested top options s)
    (hposition : P position.state.imports)
    (hask : ∀ statement ∈ position.level.sheet.imports,
      P ((statement.findOutcome position.level.options).run position.state.imports).2) :
    P position.advance.state.imports := by
  rcases hnodes : position.level.nodes with _ | ⟨text | statement, rest⟩
  · rcases houter : position.outer with _ | ⟨waiting, outer⟩
    all_goals
      rw [Position.advance, hnodes, houter]
      exact hposition
  · rw [Position.advance, hnodes]
    exact hposition
  · -- Only a statement changes the state, and no more than by being asked.
    obtain ⟨result, imports, hlocated, hadvance⟩ := Position.advance_atImport hnodes
    have hafter : P imports := by
      rcases hlocated.imports_eq with rfl | rfl
      · exact hposition
      · refine hask statement (Sheet.mem_imports.mpr ?_)
        exact h.rest.subset (hnodes ▸ List.mem_cons_self)
    rw [hadvance]
    rcases result with error | _ | ⟨sheet, nested⟩ <;> exact hafter

/-- **An expansion changes the state of import resolution only by asking statements** of the sheets
that it renders for their outcomes: what this keeps holds throughout. -/
theorem imports_of_leads {P : Imports → Prop} {top : Sheet} {options : Options} {s : Expansion}
    {moment : Moment} (h : Leads (start top options s) moment) (hfirst : P s.imports)
    (hask : ∀ (position : Position) (statement : ImportStatement),
      position.Nested top options s → statement ∈ position.level.sheet.imports →
      P position.state.imports →
      P ((statement.findOutcome position.level.options).run position.state.imports).2) :
    P moment.state.imports := by
  refine h.induction (P := fun moment => P moment.state.imports) hfirst ?_
  intro moment hleads hmoment
  -- The invariant of positions says that the next statement is one of the sheet's.
  have hnested := nested_of_leads hleads
  match moment with
  | rendering position =>
    exact hnested.imports_advance hmoment fun statement hmem =>
      hask position statement hnested hmem hmoment
  | raising _ ⟨_, [], _⟩ => exact hmoment
  | raising _ ⟨_, _ :: _, _⟩ => exact hmoment
  | ended _ _ => exact hmoment

/-! ## The files that are being rendered differ -/

/-- The files on the way down differ from each other. -/
theorem Descends.nodup_filenames {imports : Imports} {top sheet : Sheet}
    {options nested : Options} {outer : List Waiting}
    (h : Descends imports top options sheet nested outer) :
    (nested.filename :: outer.map (·.options.filename)).Nodup := by
  induction h with
  | top => exact List.nodup_singleton _
  | enter _ _ _ hnew ih => exact List.nodup_cons.mpr ⟨hnew, ih⟩

/-- Every sheet on the way down is rendered under its identifier as file name, but for the one at
the top. -/
theorem Descends.filenames_eq {imports : Imports} {top sheet : Sheet} {options nested : Options}
    {outer : List Waiting} (h : Descends imports top options sheet nested outer) :
    nested.filename :: outer.map (·.options.filename) =
      (sheet :: outer.map Waiting.sheet).dropLast.map (fun sheet => some sheet.identifier) ++
        [options.filename] := by
  induction h with
  | top => rfl
  | @enter waiting outer found _ _ _ _ ih =>
    rw [List.map_cons, ih]
    rfl

namespace Position

variable {top : Sheet} {options : Options} {s : Expansion} {position : Position}

/-- **The files that are being rendered differ** from each other. -/
theorem Nested.nodup_filenames (h : position.Nested top options s) : position.filenames.Nodup :=
  h.descends.nodup_filenames

/-- The files that are being rendered are the imported sheets and the file at the top. -/
theorem Nested.filenames_eq (h : position.Nested top options s) :
    position.filenames =
      position.importedSheets.map (fun sheet => some sheet.identifier) ++ [options.filename] :=
  h.descends.filenames_eq

/-- **No sheet is imported into itself**: the imported sheets that are being rendered have different
identifiers. -/
theorem Nested.nodup_identifiers (h : position.Nested top options s) :
    (position.importedSheets.map Sheet.identifier).Nodup := by
  have hnodup := h.nodup_filenames
  rw [h.filenames_eq] at hnodup
  have hsome : (position.importedSheets.map fun sheet => some sheet.identifier) =
      (position.importedSheets.map Sheet.identifier).map some := by
    rw [List.map_map]
    rfl
  rw [hsome] at hnodup
  exact (List.Nodup.of_append_left hnodup).of_map some

/-- There is an imported sheet for each sheet that waits. -/
theorem length_importedSheets (position : Position) :
    position.importedSheets.length = position.outer.length := by
  simp [importedSheets]

end Position

/-! ## The identifiers that can be reached -/

end Expansion

/-- Every sheet that a search under these options may find has an identifier in `identifiers`. -/
def Options.Within (identifiers : Set String) (options : Options) : Prop :=
  ∀ resolver ∈ options.resolvers, ∀ identifier ∈ resolver.identifiers, identifier ∈ identifiers

/-- What a statement has resolved to **stays within** some identifiers: the sheet and the files of
its resolver have such identifiers, and the statements of the sheet have keys in `keys`. -/
structure Resolution.Confined (identifiers : Set String) (keys : Set Nat) (found : Resolution) :
    Prop where
  /-- The sheet has such an identifier. -/
  identifier : found.sheet.identifier ∈ identifiers
  /-- The files of the resolver have such identifiers. -/
  resolver : ∀ identifier ∈ found.resolver.identifiers, identifier ∈ identifiers
  /-- The statements of the sheet have such keys. -/
  statements : ∀ statement ∈ found.sheet.imports, statement.key ∈ keys

/-- The outcomes of the statements with keys in `keys`, which are to include all keys not yet taken,
stay within some identifiers. -/
structure Imports.Confined (identifiers : Set String) (keys : Set Nat) (imports : Imports) :
    Prop where
  /-- New statements have such keys. -/
  fresh : ∀ key, imports.nextStatement ≤ key → key ∈ keys
  /-- What statements with such keys have resolved to stays within the identifiers. -/
  found : ∀ statement found, statement.key ∈ keys →
    imports.outcome? statement = some (some found) → found.Confined identifiers keys

variable {identifiers : Set String} {keys : Set Nat}

/-- A sheet that is entered stays within the identifiers. -/
theorem Options.Within.forSheet {options : Options} (h : options.Within identifiers)
    {resolver : Resolver}
    (hresolver : ∀ identifier ∈ resolver.identifiers, identifier ∈ identifiers)
    (identifier : String) : (options.forSheet identifier resolver).Within identifiers := by
  intro other hother
  rcases mem_resolvers_forSheet hother with rfl | hmem
  · exact hresolver
  · exact h other hmem

/-- What a search finds stays within the identifiers if its options do. -/
theorem Options.Within.confined_resolution {options : Options} (h : options.Within identifiers)
    {reference : String} {found : Found} (hfind : options.find reference = .ok (some found))
    {next : Nat} (hfresh : ∀ key, next ≤ key → key ∈ keys) :
    (found.resolution next).Confined identifiers keys := by
  have hresolver := h found.resolver (resolver_mem_of_find hfind)
  refine ⟨hresolver _ (identifier_mem_of_find hfind), hresolver, ?_⟩
  intro statement hmem
  have hkey := Node.key_mem_of_mem_numbered (Sheet.mem_imports.mp hmem)
  exact hfresh statement.key hkey.1

/-- Settling a statement keeps the outcomes within the identifiers. -/
theorem Imports.Confined.settled {imports : Imports} (h : imports.Confined identifiers keys)
    (statement : ImportStatement) (options : Options) (count : Nat) {outcome : Option Resolution}
    (houtcome : ∀ found, outcome = some found → found.Confined identifiers keys) :
    (statement.settled options count outcome imports).Confined identifiers keys := by
  constructor
  · intro key hkey
    rw [ImportStatement.nextStatement_settled] at hkey
    exact h.fresh key (by omega)
  · intro other found hother hfound
    rw [ImportStatement.outcome?_settled] at hfound
    split at hfound
    · exact houtcome found (Option.some.inj hfound)
    · exact h.found other found hother hfound

/-- The query for an outcome keeps the outcomes within the identifiers if its options do. -/
theorem ImportStatement.Answered.confined {statement : ImportStatement} {options : Options}
    {imports after : Imports} {result : Except CompileError (Option Resolution)}
    (h : statement.Answered options imports result after) (hwithin : options.Within identifiers)
    (hconfined : imports.Confined identifiers keys) : after.Confined identifiers keys := by
  cases h with
  | remembered => exact hconfined
  | missed => exact hconfined.settled _ _ _ (by simp)
  | found _ hfind =>
    refine hconfined.settled _ _ _ fun found hfound => ?_
    cases hfound
    exact hwithin.confined_resolution hfind hconfined.fresh
  | failed =>
    constructor
    · rw [Imports.nextStatement_afterSearch]
      exact hconfined.fresh
    · intro other found hother hfound
      rw [Imports.outcome?_afterSearch] at hfound
      exact hconfined.found other found hother hfound

namespace Expansion

open Moment

/-- **All the way down** the sheets stay within the identifiers if the sheet at the top does. -/
theorem Descends.confined {imports : Imports} {top sheet : Sheet} {options nested : Options}
    {outer : List Waiting} (h : Descends imports top options sheet nested outer)
    (hconfined : imports.Confined identifiers keys) (hwithin : options.Within identifiers)
    (htop : ∀ statement ∈ top.imports, statement.key ∈ keys) :
    nested.Within identifiers ∧ (∀ statement ∈ sheet.imports, statement.key ∈ keys) ∧
      ∀ imported ∈ (sheet :: outer.map Waiting.sheet).dropLast,
        imported.identifier ∈ identifiers := by
  induction h with
  | top => exact ⟨hwithin, htop, by simp⟩
  | @enter waiting outer found _ hrest hfound _ ih =>
    -- The sheet that waits stays within, so what its statement has resolved to does.
    obtain ⟨hnested, hkeys, himported⟩ := ih
    have hmem : waiting.statement ∈ waiting.sheet.imports :=
      Sheet.mem_imports.mpr (hrest.subset List.mem_cons_self)
    have hstays := hconfined.found _ _ (hkeys _ hmem) hfound
    refine ⟨hnested.forSheet hstays.resolver _, hstays.statements, fun imported himp => ?_⟩
    rw [List.map_cons, List.dropLast_cons_cons, List.mem_cons] at himp
    rcases himp with rfl | himp
    · exact hstays.identifier
    · exact himported imported himp

variable {top : Sheet} {options : Options} {s : Expansion}

/-- **Throughout an expansion** the outcomes stay within the identifiers if they do so at first,
with the options and the statements of the sheet. -/
theorem confined_of_leads {moment : Moment} (h : Leads (start top options s) moment)
    (hwithin : options.Within identifiers)
    (htop : ∀ statement ∈ top.imports, statement.key ∈ keys)
    (hconfined : s.imports.Confined identifiers keys) :
    moment.state.imports.Confined identifiers keys := by
  refine imports_of_leads h hconfined fun position statement hnested _ hposition => ?_
  exact (statement.answered_findOutcome _ _).confined
    (hnested.descends.confined hposition hwithin htop).1 hposition

/-- Every imported sheet that is being rendered has one of the identifiers. -/
theorem identifier_mem_of_leads {moment : Moment} (h : Leads (start top options s) moment)
    {position : Position} (hposition : moment.position? = some position)
    (hwithin : options.Within identifiers)
    (htop : ∀ statement ∈ top.imports, statement.key ∈ keys)
    (hconfined : s.imports.Confined identifiers keys) :
    ∀ identifier ∈ position.importedSheets.map Sheet.identifier, identifier ∈ identifiers := by
  have hnested : position.Nested top options s := nested_position h hposition
  have hafter : position.state.imports.Confined identifiers keys := by
    rw [← state_of_position? hposition]
    exact confined_of_leads h hwithin htop hconfined
  intro identifier hmem
  obtain ⟨sheet, hsheet, rfl⟩ := List.mem_map.mp hmem
  exact (hnested.descends.confined hafter hwithin htop).2.2 sheet hsheet

/-! ## Every expansion ends -/

/-- What a statement has resolved to is among the identifiers that an expansion counts. -/
theorem confined_reachableIdentifiers (imports : Imports) (options : Options) :
    imports.Confined {identifier | identifier ∈ reachableIdentifiers imports options} Set.univ := by
  refine ⟨fun _ _ => trivial, ?_⟩
  intro statement found _ hfound
  -- What has been found is one of the outcomes that are counted.
  have hmem : found ∈ imports.outcomes.toList.filterMap Prod.snd := by
    rw [List.mem_filterMap]
    exact ⟨(statement.key, some found),
      Std.ExtTreeMap.mem_toList_iff_getElem?_eq_some.mpr hfound, rfl⟩
  refine ⟨?_, ?_, fun _ _ => trivial⟩
  · exact List.mem_append_right _ (List.mem_map_of_mem hmem)
  · intro identifier hidentifier
    refine List.mem_append_left _ (List.mem_flatMap.mpr ⟨found.resolver, ?_, hidentifier⟩)
    exact List.mem_append_right _ (List.mem_map_of_mem hmem)

/-- What the options let a search find is among them, too. -/
theorem within_reachableIdentifiers (imports : Imports) (options : Options) :
    options.Within {identifier | identifier ∈ reachableIdentifiers imports options} := by
  intro resolver hresolver identifier hidentifier
  refine List.mem_append_left _ (List.mem_flatMap.mpr ⟨resolver, ?_, hidentifier⟩)
  exact List.mem_append_left _ hresolver

/-- No more sheets ever wait than there are identifiers to be reached. -/
theorem length_outer_le {position : Position}
    (h : Leads (start top options s) (.rendering position)) :
    position.outer.length ≤ (reachableIdentifiers s.imports options).length := by
  have hnested : position.Nested top options s := nested_of_leads h
  -- The imported sheets have different identifiers, all of which are counted.
  have hsubset := identifier_mem_of_leads h rfl (within_reachableIdentifiers s.imports options)
    (fun _ _ => Set.mem_univ _) (confined_reachableIdentifiers s.imports options)
  calc position.outer.length
      = (position.importedSheets.map Sheet.identifier).length := by
        rw [List.length_map, Position.length_importedSheets]
    _ ≤ (reachableIdentifiers s.imports options).length :=
        (hnested.nodup_identifiers.subperm hsubset).length_le

/-- **Every expansion comes to an end**, with the result of `expand`: its moments lead there without
any bound on the depth. -/
theorem ends_expand (sheet : Sheet) (options : Options) (s : Expansion) :
    Leads (start sheet options s)
      (.ended ((expand sheet options).run s).1 ((expand sheet options).run s).2) := by
  apply leads_expand
  intro position hposition
  exact length_outer_le hposition

/-- The moments of an expansion end with the result of `expand` and with nothing else. -/
theorem leads_ended_iff {sheet : Sheet} {options : Options} {s after : Expansion}
    {result : Except CompileError String} :
    Leads (start sheet options s) (.ended result after) ↔
      (expand sheet options).run s = (result, after) := by
  constructor
  · intro h
    obtain ⟨hresult, hafter⟩ := (ends_expand sheet options s).ended_unique h
    exact Prod.ext hresult hafter
  · intro h
    have hends := ends_expand sheet options s
    rw [h] at hends
    exact hends

/-! ## Two sheets that import each other -/

/-- A resolver whose two files import each other. -/
def mutualSheets : Resolver :=
  ⟨0, "lib", [("a.scss", .items [.atImport "b" 1]),
    ("b.scss", .items [.css "p \x7b\x7d", .atImport "a" 2])]⟩

/-- The pieces of a sheet that imports one of the two. -/
def mutualItems : List Item :=
  [.css "html \x7b\x7d", .atImport "a" 3]

/-- The sheet, with a statement of its own. -/
def mutualSheet : Sheet :=
  ⟨"input", ((Imports.newNodes mutualItems).run Imports.empty).1⟩

/-- Options under which the sheet has no file name and the resolver is on the search path. -/
def mutualOptions : Options :=
  ⟨none, none, [mutualSheets], false⟩

/-- The state in which nothing has been resolved yet and the body of a mixin is being evaluated. -/
def mutualStart : Expansion :=
  ⟨((Imports.newNodes mutualItems).run Imports.empty).2,
    ⟨[⟨some "theme.scss", 7, .mixin "theme"⟩]⟩⟩

/-- The error that the two sheets import each other. -/
def mutualError : CompileError :=
  .raisedBy (.importLoop ["lib/a.scss", "lib/b.scss", "lib/a.scss"]) (some ⟨2, some "lib/b.scss"⟩)
    [⟨⟨1, some "lib/a.scss"⟩, some "@import \"b\""⟩, ⟨⟨3, none⟩, some "@import \"a\""⟩,
      ⟨⟨7, some "theme.scss"⟩, some "mixin `theme`"⟩]

/-- The expansion of the sheet ends with this error. -/
theorem expand_mutualSheet :
    ((expand mutualSheet mutualOptions).run mutualStart).1 = .error mutualError := by
  decide +kernel

end Expansion

end Stylesheet
