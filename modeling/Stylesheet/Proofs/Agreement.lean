import Stylesheet.Proofs.History
import Stylesheet.Proofs.Loops
import Stylesheet.Proofs.Memory
import Stylesheet.Proofs.Unfolding

/-! # Expansion agrees with the unfolding

An expansion remembers outcomes, reads the active files off its frames and joins pieces sheet by
sheet; `unfolding` does none of that. They agree nevertheless (`expand_agrees`). Three things carry
the proof along the moments of the expansion. What is remembered for a statement is what a search
would find now, because each statement is only ever asked under the same options
(`Imports.Faithful`). The frames show the active files (`Position.Nested.activeFiles_eq`). And what
has been rendered of the sheets that wait, with the unfolding of what is left of them, comes to the
same text at every moment (`Position.unfolded`). -/

namespace Stylesheet

open Diagnostic

/-! ## Active files -/

namespace Trace

/-- The files that are active: those from which live imports were opened. -/
def activeFiles (trace : Trace) : Finset String :=
  trace.importingFiles.reduceOption.toFinset

/-- A file is active if a live import was opened from it. -/
theorem mem_activeFiles {trace : Trace} {filename : String} :
    filename ∈ trace.activeFiles ↔
      ∃ frame ∈ trace.frames, frame.expandsImport = true ∧ frame.filename = some filename := by
  simp [activeFiles, importingFiles, outermostFirst, List.reduceOption_mem_iff, and_assoc]

end Trace

/-- The files that are active below sheets that wait, if some are active at the top. -/
def Expansion.activeBelow (active : Finset String) : List Expansion.Waiting → Finset String
  | [] => active
  | waiting :: outer => waiting.options.activeInside (activeBelow active outer)

namespace Expansion

open Moment

/-- **A loop is found** exactly if the file of the sheet is active. -/
theorem loop?_eq_none_iff_not_mem {trace : Trace} {options : Options} {identifier : String} :
    loop? trace options.filename identifier = none ↔
      identifier ∉ options.activeInside trace.activeFiles := by
  rw [loop?_eq_none_iff, Options.activeInside, Finset.mem_union, not_or, Trace.mem_activeFiles,
    Option.mem_toFinset, Option.mem_def, and_comm]
  simp

/-- The files of the sheets that wait are active. -/
theorem mem_activeBelow {active : Finset String} {outer : List Waiting} {filename : String} :
    filename ∈ activeBelow active outer ↔
      filename ∈ active ∨ ∃ waiting ∈ outer, waiting.options.filename = some filename := by
  induction outer with
  | nil => simp [activeBelow]
  | cons waiting outer ih =>
    rw [activeBelow, Options.activeInside, Finset.mem_union, ih, Option.mem_toFinset,
      Option.mem_def]
    simp only [List.mem_cons, exists_eq_or_imp]
    exact or_assoc.trans (or_congr_right or_comm)

/-- **The frames show** which files are active. -/
theorem Position.Nested.activeFiles_eq {top : Sheet} {options : Options} {s : Expansion}
    {position : Position} (h : position.Nested top options s) :
    position.state.trace.activeFiles = activeBelow s.trace.activeFiles position.outer := by
  ext filename
  rw [Trace.mem_activeFiles, mem_activeBelow, Trace.mem_activeFiles, h.frames]
  constructor
  · rintro ⟨frame, hframe, hexpands, hfilename⟩
    rw [List.mem_append, List.mem_cons] at hframe
    rcases hframe with hframe | rfl | hframe
    · obtain ⟨waiting, hwaiting, rfl⟩ := List.mem_map.mp hframe
      exact Or.inr ⟨waiting, hwaiting, hfilename⟩
    · cases hexpands
    · exact Or.inl ⟨frame, hframe, hexpands, hfilename⟩
  · rintro (⟨frame, hframe, hrest⟩ | ⟨waiting, hwaiting, hfilename⟩)
    · exact ⟨frame, List.mem_append_right _ (List.mem_cons_of_mem _ hframe), hrest⟩
    · exact ⟨waiting.frame, List.mem_append_left _ (List.mem_map_of_mem hwaiting), rfl, hfilename⟩

end Expansion

/-! ## What a statement comes to -/

/-- A failure of the unfolding **explains** the cause of an error: it is of the same kind and about
the same reference, file or loop. -/
def Failure.Explains : Failure → Cause → Prop
  | missing reference loadPaths, cause => cause = .importNotFound reference loadPaths
  | loop identifier, cause => ∃ chain, cause = .importLoop chain ∧ chain.getLast? = some identifier
  | broken error, cause => cause = error.cause

/-- What a statement is located as **mirrors** what its reference imports in the unfolding. -/
inductive Mirrors (asked : ImportStatement → Options → Prop) (options : Options) :
    Except Failure (Option Found) → Except CompileError (Option (Sheet × Options)) → Prop
  /-- Both are a plain CSS import. -/
  | leaf : Mirrors asked options (.ok none) (.ok none)
  /-- Both are the same sheet. -/
  | sheet {found : Found} {sheet : Sheet}
    (hitems : sheet.children.map Node.item = found.source.items)
    (hasked : ∀ inner ∈ sheet.imports, asked inner (found.options options)) :
    Mirrors asked options (.ok (some found)) (.ok (some (sheet, found.options options)))
  /-- Both fail for the same reason. -/
  | failure {failure : Failure} {error : CompileError} (hexplains : failure.Explains error.cause) :
    Mirrors asked options (.error failure) (.error error)

namespace Expansion

open Moment

/-- **Locating a statement** that is asked under its options mirrors the unfolding, and keeps the
state faithful. -/
theorem Located.mirrors {asked : ImportStatement → Options → Prop} {statement : ImportStatement}
    {options : Options} {s : Expansion} {imports : Imports}
    {result : Except CompileError (Option (Sheet × Options))}
    (h : Located statement options s result imports) (hfaithful : s.imports.Faithful asked)
    (hasked : asked statement options) :
    ∃ more, asked ≤ more ∧ imports.Faithful more ∧
      Mirrors more options (options.imported s.trace.activeFiles statement.reference) result := by
  have hanswered := statement.answered_findOutcome options s.imports
  obtain ⟨more, hmore, hafter, hanswer⟩ := hfaithful.of_answered hasked hanswered
  cases h with
  | named hcss =>
    -- Nothing is asked, so nothing changes.
    refine ⟨asked, le_rfl, hfaithful, ?_⟩
    rw [Options.imported_of_isCss hcss]
    exact .leaf
  | @failed error imports hcss hrun =>
    rw [hrun] at hanswered hafter
    refine ⟨more, hmore, hafter, ?_⟩
    cases hanswered with
    | failed _ hfind =>
      rw [Options.imported_of_find_error hcss hfind]
      exact .failure (CompileError.cause_locatedAt _ _)
  | missed hcss hrun =>
    rw [hrun] at hanswer hafter
    refine ⟨more, hmore, hafter, ?_⟩
    cases hanswer none rfl with
    | missed hfind =>
      rw [Options.imported_of_find_none hcss hfind]
      exact .failure (CompileError.cause_locatedAt _ _)
  | @plain found _ hcss hrun hplain =>
    rw [hrun] at hanswer hafter
    refine ⟨more, hmore, hafter, ?_⟩
    cases hanswer _ rfl with
    | found hfind hidentifier =>
      rw [hidentifier] at hplain
      rw [Options.imported_of_find_some hcss hfind, if_pos hplain]
      exact .leaf
  | @looping found _ chain hcss hrun hplain hloop =>
    rw [hrun] at hanswer hafter
    refine ⟨more, hmore, hafter, ?_⟩
    cases hanswer _ rfl with
    | @found other _ hfind hidentifier =>
      rw [hidentifier] at hplain hloop
      -- A loop is only found if the file is active, and it ends with that file.
      have hactive : other.source.identifier ∈ options.activeInside s.trace.activeFiles := by
        by_contra hinactive
        rw [loop?_eq_none_iff_not_mem.mpr hinactive] at hloop
        cases hloop
      obtain ⟨outer, files, -, rfl⟩ := loop?_eq_some hloop
      rw [Options.imported_of_find_some hcss hfind, if_neg (by simp [hplain]), if_pos hactive]
      exact .failure ⟨_, rfl, List.getLast?_concat⟩
  | @spliced found _ hcss hrun hplain hloop =>
    rw [hrun] at hanswer hafter
    refine ⟨more, hmore, hafter, ?_⟩
    cases hanswer _ rfl with
    | @found other _ hfind hidentifier hresolver hitems hinner =>
      rw [hidentifier] at hplain hloop
      have hinactive : other.source.identifier ∉ options.activeInside s.trace.activeFiles :=
        loop?_eq_none_iff_not_mem.mp hloop
      rw [Options.imported_of_find_some hcss hfind, if_neg (by simp [hplain]), if_neg hinactive,
        hidentifier, hresolver]
      exact .sheet hitems hinner

/-! ## What is left to unfold -/

/-- The leaves of a sheet of which some have been rendered and some nodes are left. -/
def completed (options : Options) (active : Finset String) (leaves : List String)
    (nodes : List Node) : Except Failure (List String) := do
  return leaves ++ (← unfolding options active (nodes.map Node.item))

/-- The leaves of the sheet at the top, given those of the sheet inside the ones that wait. -/
def around (active : Finset String) :
    List Waiting → Except Failure (List String) → Except Failure (List String)
  | [], inner => inner
  | waiting :: outer, inner =>
    around active outer do
      completed waiting.options (activeBelow active outer) (waiting.pieces ++ (← inner))
        waiting.rest

/-- The leaves of the sheet at the top **as they stand** at a position. -/
def Position.unfolded (active : Finset String) (position : Position) :
    Except Failure (List String) :=
  around active position.outer
    (completed position.level.options (activeBelow active position.outer) position.level.pieces
      position.level.nodes)

/-- Two unfoldings come to the **same text**, or to the same failure. -/
def SameText (first second : Except Failure (List String)) : Prop :=
  first.map Sheet.joinPieces = second.map Sheet.joinPieces

@[simp] theorem completed_nil (options : Options) (active : Finset String) (leaves : List String) :
    completed options active leaves [] = .ok leaves := by
  rw [completed, List.map_nil, unfolding]
  exact congrArg Except.ok (List.append_nil leaves)

/-- If nothing has been rendered of a sheet, its leaves are those of the unfolding. -/
theorem completed_start (options : Options) (active : Finset String) (nodes : List Node) :
    completed options active [] nodes = unfolding options active (nodes.map Node.item) := by
  rw [completed]
  rcases unfolding options active (nodes.map Node.item) <;> rfl

/-- Rendered CSS is a leaf. -/
theorem completed_css (options : Options) (active : Finset String) (leaves : List String)
    (text : String) (rest : List Node) :
    completed options active leaves (.css text :: rest) =
      completed options active (leaves ++ [text]) rest := by
  rw [completed, completed, List.map_cons, Node.item, unfolding]
  rcases unfolding options active (rest.map Node.item) with failure | more
  · rfl
  · exact congrArg Except.ok (List.append_cons leaves text more)

section

variable {options : Options} {active : Finset String} {statement : ImportStatement}

/-- An import that fails ends the unfolding. -/
theorem completed_of_imported_error {failure : Failure}
    (h : options.imported active statement.reference = .error failure) (leaves : List String)
    (rest : List Node) :
    completed options active leaves (.atImport statement :: rest) = .error failure := by
  rw [completed, List.map_cons, Node.item, unfolding_atImport, h]
  rfl

/-- A plain CSS import is a leaf. -/
theorem completed_of_imported_none
    (h : options.imported active statement.reference = .ok none) (leaves : List String)
    (rest : List Node) :
    completed options active leaves (.atImport statement :: rest) =
      completed options active (leaves ++ [plainLeaf statement.reference]) rest := by
  rw [completed, completed, List.map_cons, Node.item, unfolding_atImport, h]
  rcases unfolding options active (rest.map Node.item) with failure | more
  · rfl
  · exact congrArg Except.ok (List.append_cons leaves _ more)

/-- An imported sheet is unfolded in the place of its import. -/
theorem completed_of_imported_some {found : Found}
    (h : options.imported active statement.reference = .ok (some found)) {nodes : List Node}
    (hitems : nodes.map Node.item = found.source.items) (leaves : List String)
    (rest : List Node) :
    completed options active leaves (.atImport statement :: rest) =
      completed (found.options options) (options.activeInside active) [] nodes >>= fun inner =>
        completed options active (leaves ++ inner) rest := by
  rw [completed, List.map_cons, Node.item, unfolding_atImport, h, completed, hitems]
  dsimp only
  rcases unfolding (found.options options) (options.activeInside active) found.source.items
    with failure | inner
  · rfl
  · show _ = completed options active (leaves ++ inner) rest
    rw [completed]
    rcases unfolding options active (rest.map Node.item) with failure | more
    · rfl
    · exact congrArg Except.ok (List.append_assoc leaves inner more).symm

end

/-- What has been rendered may be replaced by other leaves that join to the same text. -/
theorem SameText.completed {leaves leaves' : List String}
    (h : Sheet.joinPieces leaves = Sheet.joinPieces leaves') (options : Options)
    (active : Finset String) (nodes : List Node) :
    SameText (completed options active leaves nodes) (completed options active leaves' nodes) := by
  rw [Expansion.completed, Expansion.completed]
  rcases unfolding options active (nodes.map Node.item) with failure | more
  · rfl
  · show Except.ok (Sheet.joinPieces (leaves ++ more)) =
      Except.ok (Sheet.joinPieces (leaves' ++ more))
    rw [Sheet.joinPieces_append, Sheet.joinPieces_append, h]

/-- What comes to the same text inside sheets that wait comes to the same text at the top. -/
theorem SameText.around {inner inner' : Except Failure (List String)} (h : SameText inner inner')
    (active : Finset String) (outer : List Waiting) :
    SameText (around active outer inner) (around active outer inner') := by
  induction outer generalizing inner inner' with
  | nil => exact h
  | cons waiting outer ih =>
    refine ih ?_
    rcases inner with failure | leaves <;> rcases inner' with failure' | leaves'
    · cases h
      rfl
    · cases h
    · cases h
    · refine SameText.completed ?_ _ _ _
      have hsame : Sheet.joinPieces leaves = Sheet.joinPieces leaves' := Except.ok.inj h
      rw [Sheet.joinPieces_append, Sheet.joinPieces_append, hsame]

/-- A failure inside sheets that wait is the failure at the top. -/
theorem around_error (active : Finset String) (outer : List Waiting) (failure : Failure) :
    around active outer (.error failure) = .error failure := by
  induction outer with
  | nil => rfl
  | cons waiting outer ih => exact ih

/-! ## Agreement -/

/-- An expansion **agrees** with an unfolding: it renders the leaves that are not empty, on lines of
their own, or it fails for the same reason. -/
inductive Agrees : Except Failure (List String) → Except CompileError String → Prop
  /-- Both come to the same text. -/
  | text (leaves : List String) : Agrees (.ok leaves) (.ok (Sheet.onLines leaves))
  /-- Both fail. -/
  | failure {failure : Failure} {error : CompileError} (hexplains : failure.Explains error.cause) :
    Agrees (.error failure) (.error error)

/-- An expansion agrees with every unfolding that comes to its text. -/
theorem Agrees.of_sameText {unfolded : Except Failure (List String)} {pieces : List String}
    (h : SameText unfolded (.ok pieces)) : Agrees unfolded (.ok (Sheet.joinPieces pieces)) := by
  rcases unfolded with failure | leaves
  · cases h
  · have hsame : Sheet.joinPieces leaves = Sheet.joinPieces pieces := Except.ok.inj h
    rw [← hsame, Sheet.joinPieces_eq_onLines]
    exact .text leaves

/-- An unfolding that comes to a failure fails. -/
theorem eq_error_of_sameText {unfolded : Except Failure (List String)} {failure : Failure}
    (h : SameText unfolded (.error failure)) : unfolded = .error failure := by
  rcases unfolded with other | leaves
  · cases h
    rfl
  · cases h

/-- All statements that are left at a position are asked under the options of their sheets. -/
structure Position.Asks (asked : ImportStatement → Options → Prop) (position : Position) :
    Prop where
  /-- The state is faithful to the statements and their options. -/
  faithful : position.state.imports.Faithful asked
  /-- The statements of the innermost sheet are asked under its options. -/
  level : ∀ statement, .atImport statement ∈ position.level.nodes →
    asked statement position.level.options
  /-- Those of the sheets that wait are asked under theirs. -/
  outer : ∀ waiting ∈ position.outer, ∀ statement, .atImport statement ∈ waiting.rest →
    asked statement waiting.options

/-- **What has been rendered so far** agrees with an unfolding: it comes to the same text with what
is left, or it has failed for the same reason. -/
def Moment.Agrees (active : Finset String) (unfolded : Except Failure (List String)) :
    Moment → Prop
  | rendering position =>
    (∃ asked, position.Asks asked) ∧ SameText unfolded (position.unfolded active)
  | raising error _ => Expansion.Agrees unfolded (.error error)
  | ended result _ => Expansion.Agrees unfolded result

namespace Position

variable {top : Sheet} {options : Options} {s : Expansion} {position : Position}
  {asked : ImportStatement → Options → Prop}

/-- After the next node has been rendered, no other statements are left. -/
theorem Asks.wrote (h : position.Asks asked) {node : Node} {rest : List Node}
    (hnodes : position.level.nodes = node :: rest) {more : ImportStatement → Options → Prop}
    (hmore : asked ≤ more) {imports : Imports} (hfaithful : imports.Faithful more)
    (piece : String) :
    (position.wrote piece rest { position.state with imports := imports }).Asks more := by
  refine ⟨hfaithful, fun statement hmem => hmore _ _ (h.level statement ?_),
    fun waiting hwaiting statement hmem => hmore _ _ (h.outer waiting hwaiting statement hmem)⟩
  rw [hnodes]
  exact List.mem_cons_of_mem node hmem

/-- Inside a sheet that is spliced its own statements are asked, too. -/
theorem Asks.entered (h : position.Asks asked) {statement : ImportStatement} {rest : List Node}
    (hnodes : position.level.nodes = .atImport statement :: rest)
    {more : ImportStatement → Options → Prop} (hmore : asked ≤ more) {imports : Imports}
    (hfaithful : imports.Faithful more) {sheet : Sheet} {nested : Options}
    (hsheet : ∀ inner ∈ sheet.imports, more inner nested) :
    (position.entered statement rest sheet nested
      { position.state with imports := imports }).Asks more := by
  refine ⟨hfaithful, fun inner hinner => hsheet inner (Sheet.mem_imports.mpr hinner), ?_⟩
  intro waiting hwaiting other hother
  rcases List.mem_cons.mp hwaiting with rfl | hwaiting
  · refine hmore _ _ (h.level other ?_)
    rw [hnodes]
    exact List.mem_cons_of_mem _ hother
  · exact hmore _ _ (h.outer waiting hwaiting other hother)

/-- After a sheet has been left, the statements of the one that waited for it are left. -/
theorem Asks.left (h : position.Asks asked) {waiting : Waiting} {outer : List Waiting}
    (houter : position.outer = waiting :: outer) (piece : String) :
    (⟨waiting.resume piece, outer, position.state.closed⟩ : Position).Asks asked := by
  refine ⟨h.faithful, h.outer waiting ?_, fun other hother => h.outer other ?_⟩
  · rw [houter]
    exact List.mem_cons_self
  · rw [houter]
    exact List.mem_cons_of_mem _ hother

/-- Leaving a sheet joins its leaves to one piece, which comes to the same text. -/
theorem sameText_left (active : Finset String) {waiting : Waiting} {outer : List Waiting}
    (hnodes : position.level.nodes = []) (houter : position.outer = waiting :: outer)
    (after : Expansion) :
    SameText (position.unfolded active)
      ((⟨waiting.resume (Sheet.joinPieces position.level.pieces), outer, after⟩ :
        Position).unfolded active) := by
  rw [unfolded, hnodes, houter, completed_nil]
  refine SameText.around (SameText.completed ?_ _ _ _) active outer
  show Sheet.joinPieces (waiting.pieces ++ position.level.pieces) =
    Sheet.joinPieces (waiting.pieces ++ [Sheet.joinPieces position.level.pieces])
  rw [Sheet.joinPieces_append, Sheet.joinPieces_append, Sheet.joinPieces_singleton]

/-- **From one position to the next moment** the agreement is kept. -/
theorem agrees_advance (hnested : position.Nested top options s) (hasks : position.Asks asked)
    {leaves : Except Failure (List String)}
    (h : SameText leaves (position.unfolded s.trace.activeFiles)) :
    position.advance.Agrees s.trace.activeFiles leaves := by
  rcases hnodes : position.level.nodes with _ | ⟨text | statement, rest⟩
  · -- The sheet is at its end, and what is left is what has been rendered.
    rcases houter : position.outer with _ | ⟨waiting, outer⟩
    all_goals rw [advance, hnodes, houter]
    · rw [unfolded, hnodes, houter, completed_nil] at h
      exact .of_sameText h
    · exact ⟨⟨asked, hasks.left houter _⟩, h.trans (sameText_left _ hnodes houter _)⟩
  · -- Rendered CSS is a leaf.
    rw [unfolded, hnodes, completed_css] at h
    rw [advance, hnodes]
    exact ⟨⟨asked, hasks.wrote hnodes le_rfl hasks.faithful text⟩, h⟩
  · -- A statement comes to what its reference imports.
    obtain ⟨result, imports, hlocated, hadvance⟩ := advance_atImport hnodes
    have hasked : asked statement position.level.options :=
      hasks.level statement (hnodes ▸ List.mem_cons_self)
    obtain ⟨more, hmore, hfaithful, hmirrors⟩ := hlocated.mirrors hasks.faithful hasked
    rw [hnested.activeFiles_eq] at hmirrors
    rw [unfolded, hnodes] at h
    rw [hadvance]
    generalize himported : position.level.options.imported
      (activeBelow s.trace.activeFiles position.outer) statement.reference = imported at hmirrors
    cases hmirrors with
    | leaf =>
      rw [completed_of_imported_none himported, ← cssImport_eq_plainLeaf] at h
      exact ⟨⟨more, hasks.wrote hnodes hmore hfaithful _⟩, h⟩
    | sheet hitems hsheet =>
      rw [completed_of_imported_some himported hitems] at h
      exact ⟨⟨more, hasks.entered hnodes hmore hfaithful hsheet⟩, h⟩
    | failure hexplains =>
      rw [completed_of_imported_error himported, around_error] at h
      rw [eq_error_of_sameText h]
      exact .failure hexplains

end Position

/-- The agreement is kept from each moment to the next. -/
theorem Moment.Agrees.next {top : Sheet} {options : Options} {s : Expansion} {moment : Moment}
    (hnested : moment.Nested top options s) {leaves : Except Failure (List String)}
    (h : moment.Agrees s.trace.activeFiles leaves) :
    moment.next.Agrees s.trace.activeFiles leaves := by
  match moment with
  | rendering position =>
    obtain ⟨⟨asked, hasks⟩, hsame⟩ := h
    exact Position.agrees_advance hnested hasks hsame
  | raising error ⟨_, [], _⟩ => exact h
  | raising error ⟨_, _ :: _, _⟩ => exact h
  | ended _ _ => exact h

/-- **Expansion agrees with the unfolding** of a sheet whose imports have not been resolved,
whatever frames are live and whatever the files import. -/
theorem expand_agrees {s : Expansion} {issued : Set ImportStatement}
    (hreachable : s.imports.Reachable issued) {sheet : Sheet}
    (hissued : ∀ statement ∈ sheet.imports, statement ∈ issued)
    (hunresolved : ∀ statement ∈ sheet.imports, s.imports.outcome? statement = none)
    (options : Options) :
    Agrees (unfolding options s.trace.activeFiles (sheet.children.map Node.item))
      ((expand sheet options).run s).1 := by
  have hconsistent := hreachable.consistent
  let asked : ImportStatement → Options → Prop := fun statement options' =>
    statement ∈ sheet.imports ∧ options' = options
  let leaves := unfolding options s.trace.activeFiles (sheet.children.map Node.item)
  -- At first nothing is remembered for the statements of the sheet.
  have hfirst : (start sheet options s).Agrees s.trace.activeFiles leaves := by
    refine ⟨⟨asked, ?_, fun statement hmem => ⟨Sheet.mem_imports.mpr hmem, rfl⟩, by simp⟩, ?_⟩
    · refine ⟨?_, hconsistent.settled_lt, ?_, ?_⟩
      · rintro statement _ ⟨hmem, rfl⟩
        exact hconsistent.key_lt statement (hissued statement hmem)
      · rintro first _ second _ ⟨hfirst, rfl⟩ ⟨hsecond, rfl⟩ hkey
        have hsame := hconsistent.eq_of_key_eq first (hissued first hfirst) second
          (hissued second hsecond) hkey
        exact ⟨congrArg ImportStatement.reference hsame, rfl⟩
      · rintro statement _ outcome ⟨hmem, rfl⟩ hsettled
        have hnone : s.imports.outcome? statement = some outcome := hsettled
        rw [hunresolved statement hmem] at hnone
        cases hnone
    · exact congrArg (Except.map Sheet.joinPieces) (completed_start _ _ _).symm
  refine (ends_expand sheet options s).induction hfirst ?_
  intro moment hleads hagrees
  exact hagrees.next (nested_of_leads hleads)

/-! ## A sheet that is spliced -/

/-- A resolver with a sheet that has an empty piece and a plain CSS import, and a plain CSS file. -/
def layeredSheets : Resolver :=
  ⟨0, "lib", [("theme.scss", .items [.css "", .atImport "print.css" 2, .css ".red \x7b\x7d"]),
    ("reset.css", .items [])]⟩

/-- The pieces of a sheet that imports both. -/
def layeredItems : List Item :=
  [.css "html \x7b\x7d", .atImport "theme" 2, .css "", .atImport "reset" 4]

/-- The sheet, with statements of its own. -/
def layeredSheet : Sheet :=
  ⟨"input", ((Imports.newNodes layeredItems).run Imports.empty).1⟩

/-- Options under which the resolver is on the search path. -/
def layeredOptions : Options :=
  ⟨some "input.scss", none, [layeredSheets], false⟩

/-- The state in which nothing has been resolved yet and the sheet itself is being imported. -/
def layeredStart : Expansion :=
  ⟨((Imports.newNodes layeredItems).run Imports.empty).2,
    ⟨[⟨some "app.scss", 1, .importing "input"⟩]⟩⟩

/-- The text of the expansion, in which the empty pieces have left no line. -/
def layeredText : String :=
  "html \x7b\x7d\n@import \"print.css\";\n.red \x7b\x7d\n@import \"reset\";"

/-- The expansion of the sheet comes to this text. -/
theorem expand_layeredSheet :
    ((expand layeredSheet layeredOptions).run layeredStart).1 = .ok layeredText := by
  decide +kernel

/-- In its unfolding the leaves of the imported sheet stand beside its own. -/
theorem unfolding_layeredItems :
    unfolding layeredOptions layeredStart.trace.activeFiles layeredItems =
      .ok ["html \x7b\x7d", "", "@import \"print.css\";", ".red \x7b\x7d", "",
        "@import \"reset\";"] := by
  have htheme : layeredOptions.imported layeredStart.trace.activeFiles "theme" =
      .ok (some ⟨⟨"lib/theme.scss",
        [.css "", .atImport "print.css" 2, .css ".red \x7b\x7d"]⟩, layeredSheets⟩) := rfl
  have hreset : layeredOptions.imported layeredStart.trace.activeFiles "reset" = .ok none := rfl
  have hprint : Path.isCss "print.css" = true := rfl
  simp only [layeredItems, unfolding, unfolding_atImport, htheme, hreset,
    Options.imported_of_isCss hprint]
  rfl

/-- New nodes are made of the given pieces; their statements are issued then, and none of them is
resolved. -/
theorem fresh_newNodes (identifier : String) (items : List Item) :
    let made := (Imports.newNodes items).run Imports.empty
    let sheet : Sheet := ⟨identifier, made.1⟩
    made.2.Reachable (∅ ∪ Imports.statementsAmong sheet.children) ∧
      (∀ statement ∈ sheet.imports, statement ∈ ∅ ∪ Imports.statementsAmong sheet.children) ∧
      (∀ statement ∈ sheet.imports, made.2.outcome? statement = none) ∧
      sheet.children.map Node.item = items := by
  intro made sheet
  refine ⟨.newNodes .empty items, fun statement hmem => Or.inr (Sheet.mem_imports.mp hmem),
    fun statement _ => ?_, ?_⟩
  · show ((Imports.newNodes items).run Imports.empty).2.outcome? statement = none
    rw [Imports.run_newNodes]
    rfl
  · show ((Imports.newNodes items).run Imports.empty).1.map Node.item = items
    rw [Imports.run_newNodes, Node.map_item_numbered]

/-- The unfolding of sheets that import each other fails with their loop, and that of the other
sheet comes to its text. -/
theorem mutualSheet_and_layeredSheet_agree :
    (mutualStart.imports.Reachable (∅ ∪ Imports.statementsAmong mutualSheet.children) ∧
      (∀ statement ∈ mutualSheet.imports,
        statement ∈ ∅ ∪ Imports.statementsAmong mutualSheet.children ∧
          mutualStart.imports.outcome? statement = none) ∧
      Agrees (unfolding mutualOptions mutualStart.trace.activeFiles mutualItems)
        (.error mutualError)) ∧
    layeredStart.imports.Reachable (∅ ∪ Imports.statementsAmong layeredSheet.children) ∧
      (∀ statement ∈ layeredSheet.imports,
        statement ∈ ∅ ∪ Imports.statementsAmong layeredSheet.children ∧
          layeredStart.imports.outcome? statement = none) ∧
      unfolding layeredOptions layeredStart.trace.activeFiles layeredItems =
        .ok ["html \x7b\x7d", "", "@import \"print.css\";", ".red \x7b\x7d", "",
          "@import \"reset\";"] ∧
      Agrees (unfolding layeredOptions layeredStart.trace.activeFiles layeredItems)
        (.ok "html \x7b\x7d\n@import \"print.css\";\n.red \x7b\x7d\n@import \"reset\";") := by
  obtain ⟨hreachable, hissued, hunresolved, hitems⟩ := fresh_newNodes "input" mutualItems
  obtain ⟨hreachable', hissued', hunresolved', hitems'⟩ := fresh_newNodes "input" layeredItems
  have hagrees : Agrees _ ((expand mutualSheet mutualOptions).run mutualStart).1 :=
    expand_agrees hreachable hissued hunresolved mutualOptions
  have hagrees' : Agrees _ ((expand layeredSheet layeredOptions).run layeredStart).1 :=
    expand_agrees hreachable' hissued' hunresolved' layeredOptions
  rw [expand_mutualSheet, hitems] at hagrees
  rw [expand_layeredSheet, hitems'] at hagrees'
  exact ⟨⟨hreachable, fun statement hmem => ⟨hissued statement hmem, hunresolved statement hmem⟩,
      hagrees⟩,
    hreachable', fun statement hmem => ⟨hissued' statement hmem, hunresolved' statement hmem⟩,
    unfolding_layeredItems, hagrees'⟩

end Expansion

end Stylesheet
