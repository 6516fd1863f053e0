import Stylesheet.Proofs.Leaves

/-! # Whether an import is visible

The question whether an imported sheet renders to nothing (`ImportStatement.rendersEmpty`) looks at
the text of the sheet, and so at what has been resolved by the moment at which it is asked. The
answer that it does not is final. The answer that it does is final once all that the statement leads
to has been resolved (`Imports.Settled`), as it has been after every expansion of the statement that
succeeds; before that, an import that has not been resolved yet may bring more. When it is final,
the answer tells what the statement contributes to an expansion: whether it is nothing but plain CSS
imports (`ImportStatement.rendersEmpty_tells`). -/

namespace Stylesheet

open Diagnostic Expansion

/-! ## What cannot change any more -/

namespace Imports

/-- A node is **settled** if what it shows cannot change any more: all statements that it leads to
have outcomes, but for those with references to plain CSS files. -/
inductive Settled (imports : Imports) : Node → Prop
  /-- CSS shows itself. -/
  | css (text : String) : Settled imports (.css text)
  /-- A reference to a plain CSS file shows nothing. -/
  | named {statement : ImportStatement} (hcss : Path.isCss statement.reference = true) :
    Settled imports (.atImport statement)
  /-- A miss shows nothing. -/
  | missed {statement : ImportStatement} (hmissed : imports.outcome? statement = some none) :
    Settled imports (.atImport statement)
  /-- A sheet that has been found is settled if all its nodes are. -/
  | found {statement : ImportStatement} {found : Resolution}
    (hfound : imports.outcome? statement = some (some found))
    (hinner : ∀ node ∈ found.sheet.children, Settled imports node) :
    Settled imports (.atImport statement)

variable {before after : Imports} {issued more : Set ImportStatement}

/-- **What is settled shows the same** for ever. -/
theorem Settled.nodeText_eq {node : Node} (h : before.Settled node) (hkeeps : before.Keeps after)
    (hbefore : before.Reachable issued) (hafter : after.Reachable more) (hmore : issued ⊆ more)
    (hissued : statementsAmong [node] ⊆ issued) :
    after.nodeText node = before.nodeText node := by
  induction h with
  | css text => rfl
  | named hcss =>
    have hmem := mem_of_statementsAmong_cons hissued
    rw [hbefore.nodeText_of_isCss hmem fun _ _ => Or.inl hcss,
      hafter.nodeText_of_isCss (hmore hmem) fun _ _ => Or.inl hcss]
  | missed hmissed =>
    have hstill := hkeeps _ _ hmissed
    rw [nodeText_of_not_found (by simp [hstill]), nodeText_of_not_found (by simp [hmissed])]
  | found hfound _ ih =>
    -- The sheet is still the same, and its nodes show the same.
    rw [nodeText_of_found hfound, nodeText_of_found (hkeeps _ _ hfound), hbefore.sheetText_eq,
      hafter.sheetText_eq]
    congr 1
    apply List.map_congr_left
    intro node hnode
    refine ih node hnode fun inner hinner => hbefore.statementsAmong_subset hfound ?_
    cases List.mem_singleton.mp hinner
    exact hnode

end Imports

/-- **What has been rendered is settled.** -/
theorem Expansion.Renders.settled {options : Options} {s after : Expansion} {nodes : List Node}
    {leaves : List Leaf} (h : Renders options s nodes leaves after) {later : Imports}
    (hkeeps : after.imports.Keeps later) {issued : Set ImportStatement}
    (hlater : later.Reachable issued) (hissued : Imports.statementsAmong nodes ⊆ issued) :
    ∀ node ∈ nodes, later.Settled node := by
  induction h with
  | nil => simp
  | css _ ih =>
    rw [List.forall_mem_cons]
    exact ⟨.css _, ih hkeeps (Imports.statementsAmong_of_cons hissued)⟩
  | plain hlocated hrest ih =>
    rw [List.forall_mem_cons]
    refine ⟨?_, ih hkeeps (Imports.statementsAmong_of_cons hissued)⟩
    have hlast := hrest.keeps.trans hkeeps
    cases hlocated with
    | named hcss => exact .named hcss
    | plain _ hrun hplain =>
      -- The plain CSS file that has been found has no nodes.
      have hfound := hlast _ _ (ImportStatement.outcome?_of_run_findOutcome hrun)
      refine .found hfound ?_
      rw [hlater.children_eq_nil (Imports.mem_of_statementsAmong_cons hissued) hfound
        (Or.inr hplain)]
      simp
  | sheet hlocated hinner hrest ihinner ihrest =>
    rw [List.forall_mem_cons]
    refine ⟨?_, ihrest hkeeps (Imports.statementsAmong_of_cons hissued)⟩
    have hlast := hrest.keeps.trans hkeeps
    obtain ⟨found, hfound, rfl⟩ := hlocated.exists_outcome
    have hremembered := hlast _ _ (hinner.keeps _ _ hfound)
    exact .found hremembered (ihinner hlast (hlater.statementsAmong_subset hremembered))

/-! ## What is shown at later stages -/

namespace Stage

variable {first last : Stage} {node : Node}

/-- Where something has been shown something is shown later. -/
theorem Run.nodeText_ne_empty (h : Run first last)
    (hreachable : first.imports.Reachable first.issued)
    (htext : first.imports.nodeText node ≠ "") : last.imports.nodeText node ≠ "" := by
  have hshows : first.imports.Shows node := hreachable.shows_iff.mpr htext
  exact (h.reachable hreachable).shows_iff.mp (hshows.of_keeps h.keeps)

/-- Where everything has been settled the same is shown later. -/
theorem Run.nodeText_eq (h : Run first last) (hreachable : first.imports.Reachable first.issued)
    (hissued : Imports.statementsAmong [node] ⊆ first.issued)
    (hsettled : first.imports.Settled node) :
    last.imports.nodeText node = first.imports.nodeText node :=
  hsettled.nodeText_eq h.keeps hreachable (h.reachable hreachable) h.grows.2 hissued

end Stage

/-! ## The question -/

namespace ImportStatement

/-- A statement that has been found answers the question from the text of the sheet. -/
theorem run_rendersEmpty_of_found {statement : ImportStatement} {imports : Imports}
    {found : Resolution} (hfound : imports.outcome? statement = some (some found))
    (options : Options) :
    (statement.rendersEmpty options).run imports =
      (.ok (imports.nodeText (.atImport statement) == ""), imports) := by
  rw [rendersEmpty, run_bind, importedSheet, run_bind, run_requireFound,
    run_findOutcome_of_settled hfound, Imports.nodeText_of_found hfound]
  rfl

/-- **The question is answered** only by statements that have been found then. -/
theorem exists_found_of_rendersEmpty {statement : ImportStatement} {options : Options}
    {imports after : Imports} {empty : Bool}
    (hrun : (statement.rendersEmpty options).run imports = (.ok empty, after)) :
    after = ((statement.findOutcome options).run imports).2 ∧
      (∃ found, after.outcome? statement = some (some found)) ∧
      (empty = true ↔ after.nodeText (.atImport statement) = "") := by
  rw [rendersEmpty, run_bind, importedSheet, run_bind, run_requireFound] at hrun
  rcases hfind : (statement.findOutcome options).run imports with ⟨error | _ | found, last⟩
  all_goals rw [hfind] at hrun
  · cases hrun
  · cases hrun
  · cases hrun
    have hfound := outcome?_of_run_findOutcome hfind
    refine ⟨rfl, ⟨found, hfound⟩, ?_⟩
    rw [Imports.nodeText_of_found hfound]
    exact beq_iff_eq

/-- What a statement has been rendered as is what it shows from then on. -/
theorem nodeText_of_renders {statement : ImportStatement} {options : Options}
    {s after : Expansion} {leaves : List Leaf}
    (h : Renders options s [.atImport statement] leaves after) {later : Imports}
    (hkeeps : after.imports.Keeps later) {issued : Set ImportStatement}
    (hlater : later.Reachable issued) (hissued : statement ∈ issued) :
    later.nodeText (.atImport statement) = Leaf.shownText leaves := by
  have hshown := h.shownText_eq hkeeps hlater (Imports.statementsAmong_singleton hissued)
  rwa [List.map_singleton, Sheet.joinPieces_singleton] at hshown

/-- **A statement that is rendered well** at some stage leads to a later stage, at which it shows
the leaves that it has been rendered as. -/
theorem exists_leaves_of_expandImport {stage : Stage}
    (hreachable : stage.imports.Reachable stage.issued) {statement : ImportStatement}
    (hissued : statement ∈ stage.issued) {depth : Nat} {options : Options} {trace : Trace}
    {piece : String} {after : Expansion}
    (hrun : (expandImport depth options statement).run ⟨stage.imports, trace⟩ =
      (.ok piece, after)) :
    ∃ leaves more, Renders options ⟨stage.imports, trace⟩ [.atImport statement] leaves after ∧
      piece = Leaf.writtenText leaves ∧ Stage.Run stage ⟨after.imports, more⟩ ∧
      after.imports.nodeText (.atImport statement) = Leaf.shownText leaves := by
  obtain ⟨leaves, hrenders, rfl⟩ := renders_expandImport hrun
  obtain ⟨more, hmore⟩ :=
    hrenders.exists_run hreachable (Imports.statementsAmong_singleton hissued)
  refine ⟨leaves, more, hrenders, rfl, hmore, ?_⟩
  exact nodeText_of_renders hrenders (.refl after.imports) (hmore.reachable hreachable)
    (hmore.grows.2 hissued)

/-- **What an answer tells** about the leaves that a statement contributes: that the sheet renders
to nothing means that they are nothing but plain CSS imports, and nothing at all where there are
none of these. -/
def Tells (empty : Bool) (leaves : List Leaf) : Prop :=
  (empty = true ↔ ∀ leaf ∈ leaves, leaf.shown = "") ∧
    ((∀ reference, Leaf.plainImport reference ∉ leaves) →
      (empty = true ↔ Leaf.writtenText leaves = ""))

/-- An answer tells what the leaves show. -/
theorem tells_of_shownText {empty : Bool} {leaves : List Leaf}
    (h : empty = true ↔ Leaf.shownText leaves = "") : Tells empty leaves := by
  have hblank : Leaf.shownText leaves = "" ↔ ∀ leaf ∈ leaves, leaf.shown = "" := by
    rw [← not_iff_not, Leaf.shownText, ← ne_eq, Sheet.joinPieces_ne_empty_iff]
    simp
  refine ⟨h.trans hblank, fun hplain => ?_⟩
  rw [← Leaf.shownText_eq_writtenText hplain]
  exact h

/-- **What the question tells.** Whenever a statement that has been issued answers whether the sheet
that it imports renders to nothing, it answers ever after, under all options, and
- if it answers that there is something, then this is the answer for good, and whenever the
  statement is expanded later it contributes something,
- if all that it leads to has been resolved at that moment, then the answer is the same for good,
  and whenever the statement is expanded later the answer tells what it contributes,
- if the statement has been expanded before, then all that it leads to has been resolved, and the
  answer tells what it has contributed. -/
theorem rendersEmpty_tells {stage : Stage} (hreachable : stage.imports.Reachable stage.issued)
    {statement : ImportStatement} (hissued : statement ∈ stage.issued) {options : Options}
    {empty : Bool} {answered : Imports}
    (hasked : (statement.rendersEmpty options).run stage.imports = (.ok empty, answered)) :
    ∃ known, Stage.Run stage ⟨answered, known⟩ ∧
      (∀ later, Stage.Run ⟨answered, known⟩ later → ∀ options' : Options, ∃ again,
        (statement.rendersEmpty options').run later.imports = (.ok again, later.imports) ∧
          (empty = false → again = false) ∧
          (answered.Settled (.atImport statement) → again = empty)) ∧
      (∀ later, Stage.Run ⟨answered, known⟩ later →
        ∀ (depth : Nat) (options' : Options) (trace : Trace) (piece : String) (after : Expansion),
          (expandImport depth options' statement).run ⟨later.imports, trace⟩ = (.ok piece, after) →
            ∃ leaves, Renders options' ⟨later.imports, trace⟩ [.atImport statement] leaves after ∧
              piece = Leaf.writtenText leaves ∧ (empty = false → piece ≠ "") ∧
              (answered.Settled (.atImport statement) → Tells empty leaves)) ∧
      (∀ (earlier : Imports) (depth : Nat) (options' : Options) (trace : Trace) (piece : String)
        (after : Expansion) (more : Set ImportStatement),
          (expandImport depth options' statement).run ⟨earlier, trace⟩ = (.ok piece, after) →
            Stage.Run ⟨after.imports, more⟩ stage →
              answered.Settled (.atImport statement) ∧
              ∃ leaves, Renders options' ⟨earlier, trace⟩ [.atImport statement] leaves after ∧
                piece = Leaf.writtenText leaves ∧ Tells empty leaves) := by
  obtain ⟨hafter, ⟨found, hfound⟩, hempty⟩ := exists_found_of_rendersEmpty hasked
  obtain ⟨known, hrun⟩ := Stage.exists_run_of_asked hissued hafter
  have hanswered : answered.Reachable known := hrun.reachable hreachable
  have hknown : statement ∈ known := hrun.grows.2 hissued
  -- What is shown at later stages: something if there was something, the same if it was settled.
  have hlasting : ∀ later, Stage.Run ⟨answered, known⟩ later →
      (empty = false → later.imports.nodeText (.atImport statement) ≠ "") ∧
        (answered.Settled (.atImport statement) →
          (empty = true ↔ later.imports.nodeText (.atImport statement) = "")) := by
    intro later hlater
    refine ⟨fun hfalse => ?_, fun hsettled => ?_⟩
    · have hsomething : answered.nodeText (.atImport statement) ≠ "" :=
        hempty.not.mp (by simp [hfalse])
      exact hlater.nodeText_ne_empty hanswered hsomething
    · have hissued' := Imports.statementsAmong_singleton hknown
      rw [hlater.nodeText_eq hanswered hissued' hsettled]
      exact hempty
  refine ⟨known, hrun, ?_, ?_, ?_⟩
  · intro later hlater options'
    obtain ⟨hsomething, hsame⟩ := hlasting later hlater
    refine ⟨_, run_rendersEmpty_of_found (hlater.keeps _ _ hfound) options', ?_, ?_⟩
    · intro hfalse
      exact beq_eq_false_iff_ne.mpr (hsomething hfalse)
    · intro hsettled
      rw [Bool.eq_iff_iff, beq_iff_eq]
      exact (hsame hsettled).symm
  · intro later hlater depth options' trace piece after hexpand
    -- The end of the expansion is a later stage, too, and shows the leaves.
    obtain ⟨leaves, more, hrenders, rfl, hmore, hshown⟩ := exists_leaves_of_expandImport
      (hlater.reachable hanswered) (hlater.grows.2 hknown) hexpand
    obtain ⟨hsomething, hsame⟩ := hlasting _ (hlater.trans hmore)
    rw [hshown] at hsomething hsame
    exact ⟨leaves, hrenders, rfl, fun hfalse => Leaf.writtenText_ne_empty (hsomething hfalse),
      fun hsettled => tells_of_shownText (hsame hsettled)⟩
  · intro earlier depth options' trace piece after more hexpand hbefore
    obtain ⟨leaves, hrenders, rfl⟩ := renders_expandImport hexpand
    have hkeeps : after.imports.Keeps answered := hbefore.keeps.trans hrun.keeps
    have hsettled := hrenders.settled hkeeps hanswered (Imports.statementsAmong_singleton hknown)
    rw [nodeText_of_renders hrenders hkeeps hanswered hknown] at hempty
    exact ⟨hsettled _ List.mem_cons_self, leaves, hrenders, rfl, tells_of_shownText hempty⟩

/-! ## An answer that is not final -/

/-- The statement that imports the theme, which itself imports a plain CSS file and a sheet. -/
def themeImport : ImportStatement :=
  ⟨0, "theme", 2⟩

/-- The statement that imports the plain CSS file. -/
def resetImport : ImportStatement :=
  ⟨2, "reset", 4⟩

/-- The theme renders to nothing as long as its imports have not been resolved, but contributes a
rule, and then it renders to something. A plain CSS file renders to nothing, but contributes a
statement. -/
theorem rendersEmpty_is_not_final :
    ((themeImport.rendersEmpty themeOptions).run themeStart.imports).1 = .ok true ∧
      ((expandImport 3 themeOptions themeImport).run
        ⟨((themeImport.rendersEmpty themeOptions).run themeStart.imports).2, .empty⟩).1 =
          .ok "@import \"reset\";\n.red \x7b\x7d" ∧
      ((themeImport.rendersEmpty themeOptions).run
        ((expandImport 3 themeOptions themeImport).run
          ⟨((themeImport.rendersEmpty themeOptions).run themeStart.imports).2,
            .empty⟩).2.imports).1 = .ok false ∧
      ((resetImport.rendersEmpty themeOptions).run themeStart.imports).1 = .ok true ∧
      ((expandImport 3 themeOptions resetImport).run
        ⟨((resetImport.rendersEmpty themeOptions).run themeStart.imports).2, .empty⟩).1 =
          .ok "@import \"reset\";" := by
  refine ⟨?_, ?_, ?_, ?_, ?_⟩ <;> decide +kernel

/-- After the theme has been expanded, it is asked whether it renders to nothing, and the answer
tells what it has contributed. -/
theorem themeImport_tells :
    ((themeImport.rendersEmpty themeOptions).run
        ((expandImport 3 themeOptions themeImport).run themeStart).2.imports).1 = .ok false ∧
      ∃ leaves, Renders themeOptions themeStart [.atImport themeImport] leaves
          ((expandImport 3 themeOptions themeImport).run themeStart).2 ∧
        "@import \"reset\";\n.red \x7b\x7d" = Leaf.writtenText leaves ∧ Tells false leaves := by
  have hexpand : ((expandImport 3 themeOptions themeImport).run themeStart).1 =
      .ok "@import \"reset\";\n.red \x7b\x7d" := by decide +kernel
  have hasked : ((themeImport.rendersEmpty themeOptions).run
      ((expandImport 3 themeOptions themeImport).run themeStart).2.imports).1 = .ok false := by
    decide +kernel
  have hissued : themeImport ∈ ∅ ∪ Imports.statementsAmong themeSheet.children := by
    refine Or.inr ?_
    show Node.atImport themeImport ∈ themeSheet.children
    decide +kernel
  generalize hrun : (expandImport 3 themeOptions themeImport).run themeStart = run at *
  obtain ⟨result, after⟩ := run
  cases hexpand
  -- The question is asked at the stage at which the expansion ends.
  obtain ⟨leaves, hrenders, -⟩ := renders_expandImport hrun
  obtain ⟨more, hmore⟩ :=
    hrenders.exists_run reachable_themeStart (Imports.statementsAmong_singleton hissued)
  obtain ⟨known, -, -, -, hearlier⟩ := rendersEmpty_tells (hmore.reachable reachable_themeStart)
    (hmore.grows.2 hissued) (Prod.fst_eq_iff.mp hasked)
  exact ⟨hasked, (hearlier themeStart.imports 3 themeOptions themeStart.trace _ after more hrun
    .refl).2⟩

end ImportStatement

end Stylesheet
