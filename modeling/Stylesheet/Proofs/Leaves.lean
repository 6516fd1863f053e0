import Stylesheet.Proofs.Texts

/-! # Leaves of an expansion

An expansion that succeeds renders CSS and plain CSS imports, sheet inside sheet, and joins them.
`Expansion.Renders` follows it with the **leaves** kept apart, so that the two kinds can be told
from each other. What an expansion writes is the join of all leaves (`renders_expand`); what the
text of the sheet shows, from then on, is the join of the same leaves with the plain CSS imports
left blank (`Expansion.sheetText_of_expand`): the expansion has resolved all that the text looks at,
and what it has not resolved, or found to be plain CSS, shows nothing. -/

namespace Stylesheet

open Diagnostic

/-- A **leaf** of an expansion. -/
inductive Leaf where
  /-- Rendered CSS. -/
  | css (text : String)
  /-- A plain CSS import, known by the reference or by what it resolves to. -/
  | plainImport (reference : String)
  deriving DecidableEq

namespace Leaf

/-- What the expansion writes for a leaf. -/
def written : Leaf → String
  | css text => text
  | plainImport reference => Expansion.cssImport reference

/-- What the text of a sheet shows of a leaf. -/
def shown : Leaf → String
  | css text => text
  | plainImport _ => ""

/-- The text that an expansion writes. -/
def writtenText (leaves : List Leaf) : String :=
  Sheet.joinPieces (leaves.map written)

/-- The text without the plain CSS imports. -/
def shownText (leaves : List Leaf) : String :=
  Sheet.joinPieces (leaves.map shown)

theorem writtenText_append (first second : List Leaf) :
    writtenText (first ++ second) = Sheet.joinTwo (writtenText first) (writtenText second) := by
  rw [writtenText, List.map_append, Sheet.joinPieces_append]
  rfl

theorem shownText_append (first second : List Leaf) :
    shownText (first ++ second) = Sheet.joinTwo (shownText first) (shownText second) := by
  rw [shownText, List.map_append, Sheet.joinPieces_append]
  rfl

/-- Plain CSS imports are the only difference between the two texts. -/
theorem shownText_eq_writtenText {leaves : List Leaf}
    (h : ∀ reference, plainImport reference ∉ leaves) : shownText leaves = writtenText leaves := by
  unfold shownText writtenText
  congr 1
  apply List.map_congr_left
  rintro (text | reference) hmem
  · rfl
  · exact absurd hmem (h reference)

/-- A leaf that is shown is written, too. -/
theorem written_ne_empty {leaf : Leaf} (h : leaf.shown ≠ "") : leaf.written ≠ "" := by
  cases leaf with
  | css text => exact h
  | plainImport reference => exact absurd rfl h

/-- Where something is shown something is written. -/
theorem writtenText_ne_empty {leaves : List Leaf} (h : shownText leaves ≠ "") :
    writtenText leaves ≠ "" := by
  rw [shownText, Sheet.joinPieces_ne_empty_iff] at h
  obtain ⟨piece, hpiece, hne⟩ := h
  obtain ⟨leaf, hleaf, rfl⟩ := List.mem_map.mp hpiece
  exact Sheet.joinPieces_ne_empty_iff.mpr
    ⟨leaf.written, List.mem_map_of_mem hleaf, written_ne_empty hne⟩

end Leaf

namespace Expansion

/-! ## The leaves of a run -/

/-- **Nodes are rendered** under some options, from one state to another, as these leaves. -/
inductive Renders : Options → Expansion → List Node → List Leaf → Expansion → Prop
  /-- There is nothing to render. -/
  | nil {options : Options} {s : Expansion} : Renders options s [] [] s
  /-- CSS is a leaf. -/
  | css {options : Options} {s after : Expansion} {text : String} {rest : List Node}
    {leaves : List Leaf} (hrest : Renders options s rest leaves after) :
    Renders options s (.css text :: rest) (.css text :: leaves) after
  /-- A plain CSS import is a leaf. -/
  | plain {options : Options} {s after : Expansion} {statement : ImportStatement}
    {imports : Imports} {rest : List Node} {leaves : List Leaf}
    (hlocated : Located statement options s (.ok none) imports)
    (hrest : Renders options { s with imports := imports } rest leaves after) :
    Renders options s (.atImport statement :: rest) (.plainImport statement.reference :: leaves)
      after
  /-- A sheet is spliced: its leaves stand in the place of the statement. -/
  | sheet {options nested : Options} {s between after : Expansion} {statement : ImportStatement}
    {imports : Imports} {sheet : Sheet} {rest : List Node} {inner leaves : List Leaf}
    (hlocated : Located statement options s (.ok (some (sheet, nested))) imports)
    (hinner : Renders nested
      (opened { s with imports := imports } (importFrame statement options)) sheet.children inner
      between)
    (hrest : Renders options between.closed rest leaves after) :
    Renders options s (.atImport statement :: rest) (inner ++ leaves) after

/-- A run has rendered nodes as leaves, of which it has written the text. -/
def RendersAs (options : Options) (s : Expansion) (nodes : List Node) (text : String)
    (after : Expansion) : Prop :=
  ∃ leaves, Renders options s nodes leaves after ∧ text = Leaf.writtenText leaves

variable {options nested : Options} {s between after : Expansion} {nodes rest : List Node}
  {leaves more : List Leaf}

/-- Nodes are rendered one after the other. -/
theorem Renders.append (h : Renders options s nodes leaves between)
    (hrest : Renders options between rest more after) :
    Renders options s (nodes ++ rest) (leaves ++ more) after := by
  induction h with
  | nil => exact hrest
  | css _ ih => exact .css (ih hrest)
  | plain hlocated _ ih => exact .plain hlocated (ih hrest)
  | sheet hlocated hinner _ _ ih =>
    rw [List.append_assoc]
    exact .sheet hlocated hinner (ih hrest)

/-- If a statement that is rendered well is rendered as leaves, then so are nodes. -/
theorem renders_mapM {splice : ImportStatement → Expand String}
    (hsplice : ∀ (statement : ImportStatement) (s after : Expansion) (piece : String),
      (splice statement).run s = (.ok piece, after) →
        RendersAs options s [.atImport statement] piece after)
    {pieces : List String}
    (hrun : (nodes.mapM (expandNode splice)).run s = (.ok pieces, after)) :
    RendersAs options s nodes (Sheet.joinPieces pieces) after := by
  induction nodes generalizing s pieces with
  | nil =>
    cases hrun
    exact ⟨[], .nil, rfl⟩
  | cons node rest ih =>
    rw [run_mapM_cons] at hrun
    rcases hhead : (expandNode splice node).run s with ⟨error | piece, between⟩
    all_goals rw [hhead] at hrun
    · cases hrun
    · dsimp only at hrun
      rcases htail : (rest.mapM (expandNode splice)).run between with ⟨error | others, last⟩
      all_goals rw [htail] at hrun
      · cases hrun
      · cases hrun
        -- The first node is rendered as leaves as well as the others.
        have hfirst : RendersAs options s [node] piece between := by
          cases node with
          | css text =>
            cases hhead
            exact ⟨[.css piece], .css .nil, (Sheet.joinPieces_singleton piece).symm⟩
          | atImport statement => exact hsplice statement s between piece hhead
        obtain ⟨first, hfirst, rfl⟩ := hfirst
        obtain ⟨leaves, hleaves, hothers⟩ := ih htail
        refine ⟨first ++ leaves, hfirst.append hleaves, ?_⟩
        rw [Sheet.joinPieces_cons, hothers, Leaf.writtenText_append]

/-- A statement that is rendered well is rendered as leaves if the sheets are that it enters. -/
theorem renders_spliceWith {enter : Sheet → Options → Expand String}
    (henter : ∀ (sheet : Sheet) (nested : Options) (s after : Expansion) (piece : String),
      (enter sheet nested).run s = (.ok piece, after) →
        RendersAs nested s sheet.children piece after)
    {statement : ImportStatement} {piece : String}
    (hrun : (spliceWith enter options statement).run s = (.ok piece, after)) :
    RendersAs options s [.atImport statement] piece after := by
  rw [run_spliceWith] at hrun
  obtain ⟨result, imports, hlocated, hlocate⟩ := run_attaching_target statement options s
  rw [hlocate] at hrun
  rcases result with error | _ | ⟨sheet, nested⟩
  · cases hrun
  · cases hrun
    exact ⟨_, .plain hlocated .nil, (Sheet.joinPieces_singleton _).symm⟩
  · -- The sheet is rendered inside the frame of the statement, and then the frame is closed.
    dsimp only [Except.mapError] at hrun
    rw [run_within] at hrun
    let entered : Expansion := opened { s with imports := imports } (importFrame statement options)
    rcases hinner : (enter sheet nested).run entered with ⟨error | text, last⟩
    all_goals rw [hinner] at hrun
    · cases hrun
    · cases hrun
      obtain ⟨leaves, hleaves, rfl⟩ := henter sheet nested entered last piece hinner
      refine ⟨leaves ++ [], .sheet hlocated hleaves .nil, ?_⟩
      rw [List.append_nil]

/-- Nodes that are rendered well are rendered as leaves if their statements are. -/
theorem renders_expandNodes {splice : ImportStatement → Expand String}
    (hsplice : ∀ (statement : ImportStatement) (s after : Expansion) (piece : String),
      (splice statement).run s = (.ok piece, after) →
        RendersAs options s [.atImport statement] piece after)
    {text : String} (hrun : (expandNodes splice nodes).run s = (.ok text, after)) :
    RendersAs options s nodes text after := by
  rw [run_expandNodes] at hrun
  rcases hmap : (nodes.mapM (expandNode splice)).run s with ⟨error | pieces, last⟩
  all_goals rw [hmap] at hrun
  · cases hrun
  · cases hrun
    exact renders_mapM hsplice hmap

/-- **A statement that is rendered well** is rendered as leaves, at any depth. -/
theorem renders_expandImport {depth : Nat} {statement : ImportStatement} {piece : String}
    (hrun : (expandImport depth options statement).run s = (.ok piece, after)) :
    RendersAs options s [.atImport statement] piece after := by
  induction depth generalizing options statement s after piece with
  | zero =>
    refine renders_spliceWith (fun sheet nested s after piece henter => ?_) hrun
    cases henter
  | succ depth ih =>
    refine renders_spliceWith (fun sheet nested s after piece henter => ?_) hrun
    exact renders_expandNodes (fun inner s after piece hinner => ih hinner) henter

/-- **A sheet that is expanded well** is rendered as leaves inside its base frame. -/
theorem renders_expand {sheet : Sheet} {text : String}
    (hrun : (expand sheet options).run s = (.ok text, after)) :
    ∃ last, RendersAs options (s.opened (baseFrame options)) sheet.children text last ∧
      after = last.closed := by
  have hexpand : (expand sheet options).run s =
      (within (baseFrame options) (expandNodes (expandImport
        (reachableIdentifiers s.imports options).length options) sheet.children)).run s := rfl
  rw [hexpand, run_within] at hrun
  obtain ⟨hresult, rfl⟩ := Prod.mk.inj hrun
  exact ⟨_, renders_expandNodes (fun _ _ _ _ => renders_expandImport) (Prod.ext hresult rfl), rfl⟩

/-! ## What has been rendered is shown -/

/-- Rendering forgets no outcome. -/
theorem Renders.keeps (h : Renders options s nodes leaves after) :
    s.imports.Keeps after.imports := by
  induction h with
  | nil => exact .refl _
  | css _ ih => exact ih
  | plain hlocated _ ih => exact hlocated.keeps.trans ih
  | sheet hlocated _ _ hinner hrest => exact hlocated.keeps.trans (hinner.trans hrest)

/-- A statement that is spliced has resolved to the sheet. -/
theorem Located.exists_outcome {statement : ImportStatement} {sheet : Sheet} {imports : Imports}
    (h : Located statement options s (.ok (some (sheet, nested))) imports) :
    ∃ found, imports.outcome? statement = some (some found) ∧ found.sheet = sheet := by
  cases h with
  | spliced _ hrun => exact ⟨_, ImportStatement.outcome?_of_run_findOutcome hrun, rfl⟩

/-- Rendering nodes is a run of import resolution. -/
theorem Renders.exists_run (h : Renders options s nodes leaves after)
    {issued : Set ImportStatement} (hreachable : s.imports.Reachable issued)
    (hissued : Imports.statementsAmong nodes ⊆ issued) :
    ∃ more, Stage.Run ⟨s.imports, issued⟩ ⟨after.imports, more⟩ := by
  induction h generalizing issued with
  | nil => exact ⟨issued, .refl⟩
  | css _ ih => exact ih hreachable (Imports.statementsAmong_of_cons hissued)
  | plain hlocated _ ih =>
    obtain ⟨known, hrun⟩ :=
      hlocated.exists_run (Imports.mem_of_statementsAmong_cons hissued)
    obtain ⟨more, hmore⟩ := ih (hrun.reachable hreachable)
      ((Imports.statementsAmong_of_cons hissued).trans hrun.grows.2)
    exact ⟨more, hrun.trans hmore⟩
  | sheet hlocated _ _ hinner hrest =>
    obtain ⟨known, hrun⟩ :=
      hlocated.exists_run (Imports.mem_of_statementsAmong_cons hissued)
    -- What the statement has resolved to is made of issued statements.
    obtain ⟨found, hfound, rfl⟩ := hlocated.exists_outcome
    have hknown := hrun.reachable hreachable
    obtain ⟨deep, hdeep⟩ := hinner hknown (hknown.statementsAmong_subset hfound)
    obtain ⟨more, hmore⟩ := hrest (hdeep.reachable hknown)
      (((Imports.statementsAmong_of_cons hissued).trans hrun.grows.2).trans hdeep.grows.2)
    exact ⟨more, (hrun.trans hdeep).trans hmore⟩

/-- What has been located as a plain CSS import is one for good. -/
theorem Located.isCss {statement : ImportStatement} {imports later : Imports}
    (h : Located statement options s (.ok none) imports) (hkeeps : imports.Keeps later)
    {found : Resolution} (hfound : later.outcome? statement = some (some found)) :
    Path.isCss statement.reference = true ∨ Path.isCss found.sheet.identifier = true := by
  cases h with
  | named hcss => exact Or.inl hcss
  | plain _ hrun hplain =>
    have hremembered := hkeeps _ _ (ImportStatement.outcome?_of_run_findOutcome hrun)
    rw [hfound] at hremembered
    cases hremembered
    exact Or.inr hplain

/-- **What has been rendered is shown**, now and later, but for the plain CSS imports. -/
theorem Renders.shownText_eq (h : Renders options s nodes leaves after) {later : Imports}
    (hkeeps : after.imports.Keeps later) {issued : Set ImportStatement}
    (hlater : later.Reachable issued) (hissued : Imports.statementsAmong nodes ⊆ issued) :
    Sheet.joinPieces (nodes.map later.nodeText) = Leaf.shownText leaves := by
  induction h with
  | nil => rfl
  | css _ ih =>
    rw [List.map_cons, Sheet.joinPieces_cons, ih hkeeps (Imports.statementsAmong_of_cons hissued)]
    exact (Sheet.joinPieces_cons _ _).symm
  | plain hlocated hrest ih =>
    have hblank := hlater.nodeText_of_isCss (Imports.mem_of_statementsAmong_cons hissued)
      fun found => hlocated.isCss (hrest.keeps.trans hkeeps)
    rw [List.map_cons, hblank, Sheet.joinPieces_cons_empty,
      ih hkeeps (Imports.statementsAmong_of_cons hissued)]
    exact (Sheet.joinPieces_cons_empty _).symm
  | @sheet _ _ _ _ _ statement _ _ _ inner _ hlocated hinner hrest ihinner ihrest =>
    -- The sheet that was spliced is still the one that the statement has resolved to.
    have hlast := hrest.keeps.trans hkeeps
    obtain ⟨found, hfound, rfl⟩ := hlocated.exists_outcome
    have hremembered := hlast _ _ (hinner.keeps _ _ hfound)
    have htext : later.nodeText (.atImport statement) = Leaf.shownText inner := by
      rw [Imports.nodeText_of_found hremembered, hlater.sheetText_eq]
      exact ihinner hlast (hlater.statementsAmong_subset hremembered)
    rw [List.map_cons, Sheet.joinPieces_cons, htext,
      ihrest hkeeps (Imports.statementsAmong_of_cons hissued), Leaf.shownText_append]

/-- **The text of a sheet agrees with its expansion**, from the moment at which the expansion has
succeeded and whatever is resolved later: the expansion is written from some leaves, and the text
shows the same leaves without the plain CSS imports. If there are none among them, the two are the
same. -/
theorem sheetText_of_expand {issued : Set ImportStatement} (hreachable : s.imports.Reachable issued)
    {sheet : Sheet} (hissued : ∀ statement ∈ sheet.imports, statement ∈ issued) {text : String}
    (hrun : (expand sheet options).run s = (.ok text, after)) :
    ∃ leaves last, Renders options (s.opened (baseFrame options)) sheet.children leaves last ∧
      after = last.closed ∧ text = Leaf.writtenText leaves ∧
      ∃ more, Stage.Run ⟨s.imports, issued⟩ ⟨after.imports, more⟩ ∧
        ∀ later, Stage.Run ⟨after.imports, more⟩ later →
          later.imports.sheetText sheet = Leaf.shownText leaves ∧
            ((∀ reference, Leaf.plainImport reference ∉ leaves) →
              later.imports.sheetText sheet = text) := by
  obtain ⟨last, ⟨leaves, hrenders, rfl⟩, rfl⟩ := renders_expand hrun
  have hnodes : Imports.statementsAmong sheet.children ⊆ issued :=
    fun statement hmem => hissued statement (Sheet.mem_imports.mpr hmem)
  obtain ⟨more, hmore⟩ := hrenders.exists_run hreachable hnodes
  refine ⟨leaves, last, hrenders, rfl, rfl, more, hmore, fun later hlater => ?_⟩
  have hlast := hlater.reachable (hmore.reachable hreachable)
  have hknown : issued ⊆ later.issued := hmore.grows.2.trans hlater.grows.2
  have htext : later.imports.sheetText sheet = Leaf.shownText leaves := by
    rw [hlast.sheetText_eq]
    exact hrenders.shownText_eq hlater.keeps hlast (hnodes.trans hknown)
  refine ⟨htext, fun hplain => ?_⟩
  rw [htext, Leaf.shownText_eq_writtenText hplain]

/-! ## A sheet with plain CSS imports -/

/-- A resolver with a theme that imports a plain CSS file and a sheet. -/
def themeSheets : Resolver :=
  ⟨0, "lib", [("theme.scss", .items [.atImport "reset" 1, .atImport "colors" 2]),
    ("reset.css", .items []), ("colors.scss", .items [.css ".red \x7b\x7d"])]⟩

/-- The pieces of a sheet that imports the theme and two plain CSS files. -/
def themeItems : List Item :=
  [.css "html \x7b\x7d", .atImport "theme" 2, .atImport "print.css" 3, .atImport "reset" 4]

/-- The sheet, with statements of its own. -/
def themeSheet : Sheet :=
  ⟨"input", ((Imports.newNodes themeItems).run Imports.empty).1⟩

/-- Options under which the resolver is on the search path. -/
def themeOptions : Options :=
  ⟨none, none, [themeSheets], false⟩

/-- The state in which nothing has been resolved yet. -/
def themeStart : Expansion :=
  ⟨((Imports.newNodes themeItems).run Imports.empty).2, .empty⟩

/-- The text of the expansion, with plain CSS imports as statements. -/
def themeText : String :=
  "html \x7b\x7d\n@import \"reset\";\n.red \x7b\x7d\n@import \"print.css\";\n@import \"reset\";"

theorem expand_themeSheet :
    ((expand themeSheet themeOptions).run themeStart).1 = .ok themeText := by
  decide +kernel

theorem reachable_themeStart :
    themeStart.imports.Reachable (∅ ∪ Imports.statementsAmong themeSheet.children) :=
  .newNodes .empty themeItems

/-- Afterwards the text of the sheet shows the theme, but not its plain CSS imports. -/
theorem themeSheet_agrees :
    themeStart.imports.Reachable (∅ ∪ Imports.statementsAmong themeSheet.children) ∧
      (∃ leaves last, Renders themeOptions (themeStart.opened (baseFrame themeOptions))
          themeSheet.children leaves last ∧
        ((expand themeSheet themeOptions).run themeStart).2 = last.closed ∧
        themeText = Leaf.writtenText leaves ∧
        ∃ more, Stage.Run
            ⟨themeStart.imports, ∅ ∪ Imports.statementsAmong themeSheet.children⟩
            ⟨((expand themeSheet themeOptions).run themeStart).2.imports, more⟩ ∧
          ∀ later, Stage.Run
              ⟨((expand themeSheet themeOptions).run themeStart).2.imports, more⟩ later →
            later.imports.sheetText themeSheet = Leaf.shownText leaves ∧
              ((∀ reference, Leaf.plainImport reference ∉ leaves) →
                later.imports.sheetText themeSheet = themeText)) ∧
      ((expand themeSheet themeOptions).run themeStart).2.imports.sheetText themeSheet =
        "html \x7b\x7d\n.red \x7b\x7d" := by
  have hissued : ∀ statement ∈ themeSheet.imports,
      statement ∈ ∅ ∪ Imports.statementsAmong themeSheet.children :=
    fun statement hmem => Or.inr (Sheet.mem_imports.mp hmem)
  refine ⟨reachable_themeStart, ?_, by decide +kernel⟩
  exact sheetText_of_expand reachable_themeStart hissued (Prod.fst_eq_iff.mp expand_themeSheet)

end Expansion

end Stylesheet
