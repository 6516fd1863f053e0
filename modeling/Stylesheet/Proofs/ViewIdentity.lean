import Stylesheet.Proofs.Ledgers
import Stylesheet.Proofs.MemoCells

/-! # The identity of views

Asking a view for the captured call site or the captured content block yields the very same view
whenever it is asked, for its cell is filled by the first question and stays as it is
(`Run.answer_stays`). All views of a tower share one answer (`Run.agree`), a capture that is a view
already is not wrapped, and a view that wraps a view can only come from the action that makes views
(`Run.madeByView`). `Run.viewIdentity` puts these together. -/

namespace Stylesheet

/-! ## What actions do to cells -/

/-- Asking for a captured call site fills only cells for call sites. -/
theorem Store.contents_callerOf (handle : Handle) (store : Store) :
    ((callerOf handle.env).run store).2.contents = store.contents := by
  match handle with
  | @Handle.mk .writable scope =>
    exact congrArg (fun run => run.2.contents) (run_callerOf scope store)
  | @Handle.mk .readOnly view =>
    show ((callerOf view).run store).2.contents = _
    rw [Cells.callerOf_eq_ask]
    exact Cells.callers.ask_frame Store.contents
      (fun scope store => (Cells.cells_viewOf? scope.caller? store).2) (fun _ _ => rfl) view store

/-- Asking for a captured content block fills only cells for content blocks. -/
theorem Store.callers_contentOf (handle : Handle) (store : Store) :
    ((contentOf handle.env).run store).2.callers = store.callers := by
  match handle with
  | @Handle.mk .writable scope =>
    exact congrArg (fun run => run.2.callers) (run_contentOf scope store)
  | @Handle.mk .readOnly view =>
    show ((contentOf view).run store).2.callers = _
    rw [Cells.contentOf_eq_ask]
    exact Cells.contents.ask_frame Store.callers
      (fun scope store => (Cells.cells_viewOfBlock? scope.content? store).1) (fun _ _ => rfl) view
      store

/-- A warning fills no cell. -/
theorem Store.cells_warned {store after : Store} {scope : Scope}
    (h : ∃ ledgers, after = { ((rootOf scope).run store).2 with ledgers := ledgers }) :
    after.callers = store.callers ∧ after.contents = store.contents := by
  obtain ⟨ledgers, rfl⟩ := h
  obtain ⟨roots, hroots⟩ := exists_roots_of_rootOf scope store
  rw [hroots]
  exact ⟨rfl, rfl⟩

/-- **Cells are filled by asking**, and by no other action. -/
theorem Action.cells_perform (action : Action) (store : Store) :
    let after := (action.perform.run store).2
    (after.callers = store.callers ∨ ∃ handle, action = .callerOf handle) ∧
      (after.contents = store.contents ∨ ∃ handle, action = .contentOf handle) := by
  suffices ((action.perform.run store).2.callers = store.callers ∧
      (action.perform.run store).2.contents = store.contents) ∨
      (∃ handle, action = .callerOf handle) ∨ ∃ handle, action = .contentOf handle by
    rcases this with ⟨hcallers, hcontents⟩ | ⟨handle, rfl⟩ | ⟨handle, rfl⟩
    · exact ⟨.inl hcallers, .inl hcontents⟩
    · exact ⟨.inr ⟨handle, rfl⟩, .inl (Store.contents_callerOf handle store)⟩
    · exact ⟨.inl (Store.callers_contentOf handle store), .inr ⟨handle, rfl⟩⟩
  cases action with
  | callerOf handle => exact .inr (.inl ⟨handle, rfl⟩)
  | contentOf handle => exact .inr (.inr ⟨handle, rfl⟩)
  | body declaring caller content => cases content <;> exact .inl ⟨rfl, rfl⟩
  | viewOf handle =>
    obtain ⟨nextView, hafter⟩ := Cells.exists_nextView_of_viewOf handle store
    exact .inl ⟨(congrArg Store.callers hafter :), (congrArg Store.contents hafter :)⟩
  | rootOf handle =>
    obtain ⟨roots, hafter⟩ := Store.exists_roots_of_rootOf handle.env store
    exact .inl ⟨(congrArg Store.callers hafter :), (congrArg Store.contents hafter :)⟩
  | write mode scope ns name value =>
    obtain ⟨tables, roots, hafter⟩ := Store.exists_tables_of_write store mode scope ns name value
    exact .inl ⟨(congrArg Store.callers hafter :), (congrArg Store.contents hafter :)⟩
  | warnAssignment scope logger name location =>
    exact .inl (Store.cells_warned (Store.run_warnAssignment store scope logger name location))
  | warnFalseResult scope logger location =>
    exact .inl (Store.cells_warned (Store.run_warnFalseResult store scope logger location))
  | _ => exact .inl ⟨rfl, rfl⟩

namespace Cells

variable {ν : Type} {cells : Cells ν}

/-- Cells that are **filled by asking**: they belong to views that have been made, and an action
that fills some asks a view that it uses. -/
structure FilledByAsking (cells : Cells ν) : Prop where
  key_lt : ∀ {store : Store} {known : Set Handle}, store.Coherent known →
    ∀ (key : Nat) (answer : ν), (cells.filled store)[key]? = some answer → key < store.nextView
  perform : ∀ (action : Action) (store : Store),
    cells.filled (action.perform.run store).2 = cells.filled store ∨
      ∃ view : View, view.handle ∈ action.uses ∧ action.asks = true ∧
        (action.perform.run store).2 = ((cells.ask view).run store).2

theorem callers_filledByAsking : callers.FilledByAsking where
  key_lt h := h.caller_lt
  perform action store := by
    rcases (action.cells_perform store).1 with hsame | ⟨handle, rfl⟩
    · exact .inl hsame
    · match handle with
      | @Handle.mk .writable scope =>
        exact .inl (congrArg (fun run => run.2.callers) (Store.run_callerOf scope store))
      | @Handle.mk .readOnly view =>
        exact .inr ⟨view, List.mem_singleton_self _, rfl, callerOf_eq_ask view ▸ rfl⟩

theorem contents_filledByAsking : contents.FilledByAsking where
  key_lt h := h.content_lt
  perform action store := by
    rcases (action.cells_perform store).2 with hsame | ⟨handle, rfl⟩
    · exact .inl hsame
    · match handle with
      | @Handle.mk .writable scope =>
        exact .inl (congrArg (fun run => run.2.contents) (Store.run_contentOf scope store))
      | @Handle.mk .readOnly view =>
        exact .inr ⟨view, List.mem_singleton_self _, rfl, contentOf_eq_ask view ▸ rfl⟩

end Cells

/-! ## Views that are handed out -/

/-- A view that an action hands out was known before, wraps a scope, or is a new one that was asked
for with what it wraps. -/
theorem Store.Coherent.given_view {store : Store} {known : Set Handle} (h : store.Coherent known)
    {action : Action} (huses : ∀ handle ∈ action.uses, handle ∈ known) {view : View}
    (hgiven : (action.perform.run store).1 = some view.handle) :
    view.handle ∈ known ∨ (∃ scope : Scope, view.inner = scope.handle) ∨
      action = .view view.inner view.snapshot ∧ view.key = store.nextView := by
  -- What shows a capture is the capture or a view of a scope.
  have hshown : ∀ {captured answer : Option Handle}, answer = some view.handle →
      (∀ handle ∈ captured, handle ∈ known) →
      Answers (withAnswer known answer) captured answer →
      view.handle ∈ known ∨ ∃ scope : Scope, view.inner = scope.handle := by
    rintro captured answer rfl hcaptured hanswers
    generalize hview : some view.handle = answer at hanswers
    cases hanswers with
    | nothing => cases hview
    | @shown captured answer hshows =>
      cases hshows with
      | itself => exact .inl (Option.some.inj hview ▸ hcaptured captured rfl)
      | wrapping key scope =>
        cases hview
        exact .inr ⟨scope, rfl⟩
  cases action with
  | view inner snapshot =>
    cases hgiven
    exact .inr (.inr ⟨rfl, rfl⟩)
  | viewOf handle =>
    match handle with
    | @Handle.mk .writable scope =>
      cases hgiven
      exact .inr (.inl ⟨scope, rfl⟩)
    | @Handle.mk .readOnly viewed =>
      cases hgiven
      exact .inl (huses _ (List.mem_singleton_self _))
  | callerOf handle =>
    have hknown := huses handle (List.mem_singleton_self _)
    exact (hshown hgiven (h.caller?_mem hknown) (h.callerOf hknown).1).imp_right .inl
  | contentOf handle =>
    have hknown := huses handle (List.mem_singleton_self _)
    exact (hshown hgiven (h.content?_mem hknown) (h.contentOf hknown).1).imp_right .inl
  | hold handle =>
    cases hgiven
    exact .inl (huses _ (List.mem_singleton_self _))
  | body declaring caller content => cases content <;> cases hgiven
  | _ => cases hgiven

/-- A view was **made by an action** of its own, for what it wraps. -/
def MadeByView (actions : List Action) (view : View) : Prop :=
  ∃ later earlier, actions = later ++ .view view.inner view.snapshot :: earlier ∧
    ((Action.view view.inner view.snapshot).perform.run (Forest.ofActions earlier).store).1 =
      some view.handle

namespace Run

variable {ν : Type} {cells : Cells ν} {actions later : List Action} {forest final : Forest}

/-- **A view that wraps a view** was made by an action of its own. -/
theorem madeByView (h : Run actions forest) {view : View} (hview : view.handle ∈ forest.known)
    (hwraps : view.inner.access = .readOnly) : MadeByView actions view := by
  induction h with
  | start => cases hview
  | @act actions forest hrun action huses ih =>
    have hmore : MadeByView actions view → MadeByView (action :: actions) view := by
      rintro ⟨later, earlier, rfl, hmade⟩
      exact ⟨action :: later, earlier, rfl, hmade⟩
    rcases hview with hview | hgiven
    · exact hmore (ih hview)
    · rcases hrun.coherent.given_view huses hgiven with hknown | ⟨scope, hscope⟩ | ⟨haction, -⟩
      · exact hmore (ih hknown)
      · rw [hscope] at hwraps
        cases hwraps
      · refine ⟨[], actions, haction ▸ rfl, ?_⟩
        rw [← haction, ← hrun.eq_ofActions]
        exact hgiven

/-! ## Cells in the course of time -/

/-- An action keeps the cells of a tower in agreement if they agree before it. -/
theorem agree_of_perform (h : Run actions forest) (hcells : cells.FilledByAsking)
    (hagree : ∀ handle ∈ forest.known, cells.Agree forest.store handle.env) {action : Action}
    (huses : ∀ handle ∈ action.uses, handle ∈ forest.known) {env : Handle}
    (henv : env ∈ forest.known) : cells.Agree (action.perform.run forest.store).2 env.env := by
  intro view hview answer hcell inner hinner
  have hknown : ∀ {handle : Handle} {view : View}, handle ∈ forest.known →
      view ∈ handle.env.views → view.handle ∈ forest.known := fun hhandle hview =>
    h.coherent.mem_of_reaches hhandle (Env.reaches_of_mem_views hview)
  rcases hcells.perform action forest.store with hsame | ⟨asked, hasked, -, hafter⟩
  · rw [hsame] at hcell ⊢
    exact hagree env henv view hview answer hcell inner hinner
  · have hask : cells.Agree forest.store asked := hagree asked.handle (huses _ hasked)
    obtain ⟨htower, hothers, hkept⟩ := Cells.run_ask hask
    rw [hafter] at hcell ⊢
    by_cases hmem : ∃ other ∈ asked.views, other.key = view.key
    · -- The view is in the tower that is asked, and so is what it wraps.
      obtain ⟨other, hother, hkey⟩ := hmem
      obtain rfl :=
        h.coherent.eq_of_key_eq (hknown (huses _ hasked) hother) (hknown henv hview) hkey
      rw [htower other hother] at hcell
      rw [htower inner (Env.views_subset hother hinner), hcell]
    · -- The cell of the view was filled before.
      rw [hothers view.key fun other hother hkey => hmem ⟨other, hother, hkey⟩] at hcell
      exact hkept inner.key answer (hagree env henv view hview answer hcell inner hinner)

/-- **The cells of a tower agree** throughout a run. -/
theorem agree (h : Run actions forest) (hcells : cells.FilledByAsking) :
    ∀ handle ∈ forest.known, cells.Agree forest.store handle.env := by
  induction h with
  | start => nofun
  | @act actions forest hrun action huses ih =>
    intro handle hhandle
    rcases hhandle with hhandle | hgiven
    · exact hrun.agree_of_perform hcells ih huses hhandle
    · match handle, hgiven with
      | @Handle.mk .writable scope, hgiven => exact Cells.agree_scope cells _ scope
      | @Handle.mk .readOnly view, hgiven =>
        rcases hrun.coherent.given_view huses hgiven with hknown | ⟨scope, hscope⟩ | ⟨rfl, hkey⟩
        · exact hrun.agree_of_perform hcells ih huses hknown
        · exact Cells.agree_of_scope cells _ hscope
        · -- The new view has the next key, whose cell is empty.
          have hinner := hrun.agree_of_perform hcells ih huses
            (huses (View.inner view) (List.mem_singleton_self _))
          refine hinner.view ?_
          rcases hcells.perform (.view (View.inner view) view.snapshot) forest.store with
            hsame | ⟨-, -, hasks, -⟩
          · rw [hsame]
            by_contra hcell
            obtain ⟨answer, hanswer⟩ := Option.ne_none_iff_exists'.mp hcell
            exact absurd (hcells.key_lt hrun.coherent _ answer hanswer) hkey.not_lt
          · cases hasks

/-- A cell that is filled stays as it is. -/
theorem filled_stays (h : Run actions forest) (hfinal : Run (later ++ actions) final)
    (hcells : cells.FilledByAsking) {key : Nat} {answer : ν}
    (hcell : (cells.filled forest.store)[key]? = some answer) :
    (cells.filled final.store)[key]? = some answer := by
  induction later generalizing final with
  | nil => rwa [hfinal.eq_ofActions, List.nil_append, ← h.eq_ofActions]
  | cons action later ih =>
    obtain _ | ⟨hrun, action, huses⟩ := hfinal
    rename_i before
    have hbefore := ih hrun
    show (cells.filled (action.perform.run before.store).2)[key]? = some answer
    rcases hcells.perform action before.store with hsame | ⟨asked, hasked, -, hafter⟩
    · rw [hsame, hbefore]
    · obtain ⟨-, -, hkept⟩ := Cells.run_ask (hrun.agree hcells _ (huses _ hasked))
      rw [hafter]
      exact hkept key answer hbefore

/-- **The answer to the first question stays** the answer, whatever happens in between. -/
theorem answer_stays (h : Run actions forest) (hcells : cells.FilledByAsking) {view : View}
    (hview : view.handle ∈ forest.known) {action : Action}
    (huses : ∀ handle ∈ action.uses, handle ∈ forest.known)
    (hasks : (action.perform.run forest.store).2 = ((cells.ask view).run forest.store).2)
    (hfinal : Run (later ++ action :: actions) final) :
    ((cells.ask view).run final.store).1 = ((cells.ask view).run forest.store).1 := by
  have hagree : cells.Agree forest.store view := h.agree hcells view.handle hview
  have hcell := (Cells.run_ask hagree).1 view view.mem_views
  rw [← hasks] at hcell
  have hfilled := (h.act action huses).filled_stays hfinal hcells hcell
  rw [Cells.ask_of_filled hfilled]

end Run

/-! ## Captures that are views -/

namespace Answers

variable {known : Set Handle}

/-- A captured view is shown by itself alone. -/
theorem eq_of_view {captured : View} {answer : Option Handle}
    (h : Answers known (some captured.handle) answer) : answer = some captured.handle := by
  generalize hcaptured : some captured.handle = capture at h
  cases h with
  | nothing => cases hcaptured
  | shown hshows =>
    cases hshows with
    | itself => rfl
    | wrapping => cases hcaptured

/-- A view of a view shows nothing but itself. -/
theorem captured_eq {captured : Option Handle} {found : View}
    (h : Answers known captured (some found.handle)) (hwraps : found.inner.access = .readOnly) :
    captured = some found.handle := by
  generalize hfound : some found.handle = answer at h
  cases h with
  | nothing => cases hfound
  | shown hshows =>
    cases hshows with
    | itself => rfl
    | wrapping =>
      cases hfound
      cases hwraps

end Answers

/-! ## The main statement -/

/-- **Views keep their identity** at a moment of a run. -/
structure ViewIdentity (actions : List Action) (forest : Forest) : Prop where
  /-- A view that has been asked for the call site answers the same view ever after. -/
  caller_again : ∀ view : View, view.handle ∈ forest.known → ∀ later final,
    Run (later ++ .callerOf view.handle :: actions) final →
      ((Store.callerOf view).run final.store).1 = ((Store.callerOf view).run forest.store).1
  /-- A view that has been asked for the content block answers the same pieces with the same view
  ever after. -/
  content_again : ∀ view : View, view.handle ∈ forest.known → ∀ later final,
    Run (later ++ .contentOf view.handle :: actions) final →
      ((Store.contentOf view).run final.store).1 = ((Store.contentOf view).run forest.store).1
  /-- A view that is viewed read-only is taken as it is. -/
  viewOf_view : ∀ view : View, (Store.viewOf view.handle).run forest.store = (view, forest.store)
  /-- A view of a view answers with the call site of the inner view, which that one remembers. -/
  caller_of_wrapping : ∀ (key : Nat) (snapshot : Snapshot) (inner : View),
    (Env.view key snapshot inner).handle ∈ forest.known →
      let run := (Store.callerOf (.view key snapshot inner)).run forest.store
      run.1 = ((Store.callerOf inner).run forest.store).1 ∧
        run.2.callers[inner.key]? = some run.1
  /-- A view of a view answers with the content block of the inner view, which that one
  remembers. -/
  content_of_wrapping : ∀ (key : Nat) (snapshot : Snapshot) (inner : View),
    (Env.view key snapshot inner).handle ∈ forest.known →
      let run := (Store.contentOf (.view key snapshot inner)).run forest.store
      run.1 = ((Store.contentOf inner).run forest.store).1 ∧
        run.2.contents[inner.key]? = some run.1
  /-- A captured call site that is a view is answered as this very view. -/
  caller_of_view : ∀ view : View, view.handle ∈ forest.known → ∀ captured : View,
    Scope.caller? view.unwrapped = some captured.handle →
      ((Store.callerOf view).run forest.store).1 = some captured
  /-- A captured content block with a view is answered with this very view. -/
  content_of_view : ∀ view : View, view.handle ∈ forest.known →
    ∀ (nodes : List Node) (captured : View),
      Scope.content? view.unwrapped = some ⟨nodes, captured.handle⟩ →
        ((Store.contentOf view).run forest.store).1 = some ⟨nodes, captured⟩
  /-- A call site that is answered as a view of a view was made as such and captured. -/
  caller_wrapping : ∀ handle ∈ forest.known, ∀ found : View,
    ((Store.callerOf handle.env).run forest.store).1.map Captured.handle = some found.handle →
      found.inner.access = .readOnly →
        Scope.caller? handle.env.unwrapped = some found.handle ∧ MadeByView actions found
  /-- A content block that is answered with a view of a view has one that was made as such and
  captured. -/
  content_wrapping : ∀ handle ∈ forest.known, ∀ found : View,
    ((Store.contentOf handle.env).run forest.store).1.map
        (fun content => content.environment.handle) = some found.handle →
      found.inner.access = .readOnly →
        (Scope.content? handle.env.unwrapped).map ContentBlock.environment = some found.handle ∧
          MadeByView actions found
  /-- While the cell of a view is filled with the call site, it is not entered again. -/
  caller_guarded : ∀ view : View, view.handle ∈ forest.known →
    Cells.callers.guardedAsk view [] forest.store =
      some ((Store.callerOf view).run forest.store)
  /-- While the cell of a view is filled with the content block, it is not entered again. -/
  content_guarded : ∀ view : View, view.handle ∈ forest.known →
    Cells.contents.guardedAsk view [] forest.store =
      some ((Store.contentOf view).run forest.store)

namespace Run

variable {actions : List Action} {forest : Forest}

/-- **Views keep their identity** throughout every run. -/
theorem views_keep_identity (h : Run actions forest) : ViewIdentity actions forest where
  caller_again view hview later final hfinal := by
    have huses : ∀ handle ∈ (Action.callerOf view.handle).uses, handle ∈ forest.known :=
      fun handle hmem => List.mem_singleton.mp hmem ▸ hview
    rw [Cells.callerOf_eq_ask]
    exact h.answer_stays Cells.callers_filledByAsking hview huses
      (Cells.callerOf_eq_ask view ▸ rfl) hfinal
  content_again view hview later final hfinal := by
    have huses : ∀ handle ∈ (Action.contentOf view.handle).uses, handle ∈ forest.known :=
      fun handle hmem => List.mem_singleton.mp hmem ▸ hview
    rw [Cells.contentOf_eq_ask]
    exact h.answer_stays Cells.contents_filledByAsking hview huses
      (Cells.contentOf_eq_ask view ▸ rfl) hfinal
  viewOf_view view := rfl
  caller_of_wrapping key snapshot inner hview := by
    rw [Cells.callerOf_eq_ask, Cells.callerOf_eq_ask]
    exact Cells.ask_of_wrapping (h.agree Cells.callers_filledByAsking _ hview)
  content_of_wrapping key snapshot inner hview := by
    rw [Cells.contentOf_eq_ask, Cells.contentOf_eq_ask]
    exact Cells.ask_of_wrapping (h.agree Cells.contents_filledByAsking _ hview)
  caller_of_view view hview captured hcaptured := by
    obtain ⟨hanswers, -⟩ := h.coherent.callerOf hview
    rw [hcaptured] at hanswers
    obtain ⟨found, hfound, hsame⟩ := Option.map_eq_some_iff.mp hanswers.eq_of_view
    cases hsame
    exact hfound
  content_of_view view hview nodes captured hcaptured := by
    obtain ⟨hanswers, hnodes, -⟩ := h.coherent.contentOf hview
    rw [hcaptured] at hanswers hnodes
    obtain ⟨block, hblock, hsame⟩ := Option.map_eq_some_iff.mp hanswers.eq_of_view
    obtain ⟨⟨nodes', found⟩, hfound, rfl⟩ := Option.map_eq_some_iff.mp hblock
    rw [hfound] at hnodes
    cases hnodes
    cases hsame
    exact hfound
  caller_wrapping handle hhandle found hfound hwraps := by
    obtain ⟨hanswers, -⟩ := h.coherent.callerOf hhandle
    rw [hfound] at hanswers
    have hcaptured := hanswers.captured_eq hwraps
    exact ⟨hcaptured, h.madeByView (h.coherent.caller?_mem hhandle _ hcaptured) hwraps⟩
  content_wrapping handle hhandle found hfound hwraps := by
    obtain ⟨hanswers, -⟩ := h.coherent.contentOf hhandle
    have hanswer : (((Store.contentOf handle.env).run forest.store).1.map
        (ContentBlock.map Captured.handle)).map ContentBlock.environment = some found.handle :=
      (Option.map_map _ _ _).trans hfound
    rw [hanswer] at hanswers
    have hcaptured := hanswers.captured_eq hwraps
    exact ⟨hcaptured, h.madeByView (h.coherent.content?_mem hhandle _ hcaptured) hwraps⟩
  caller_guarded view hview := by
    rw [Cells.callerOf_eq_ask]
    exact Cells.guardedAsk_eq (h.coherent.nodup_views hview) [] (fun _ _ => List.not_mem_nil) _
  content_guarded view hview := by
    rw [Cells.contentOf_eq_ask]
    exact Cells.guardedAsk_eq (h.coherent.nodup_views hview) [] (fun _ _ => List.not_mem_nil) _

/-- In the sample, the outer view of a tower is asked first; the inner one then answers the same
view of the call site, also after a binding has been written and the call site has been dropped. -/
theorem sampleTower_keeps_caller :
    Run sampleActions (.ofActions sampleActions) ∧
      ViewIdentity sampleActions (.ofActions sampleActions) ∧
      ∃ final, Run (.drop sampleNested.handle ::
          .write .here sampleNested .var "width" (.bool true) ::
          .callerOf sampleTower.handle :: sampleActions) final ∧
        ((Store.callerOf sampleTower).run final.store).1 =
          some (.view 2 sampleSnapshot sampleNested) ∧
        ((Store.callerOf sampleView).run final.store).1 =
          some (.view 2 sampleSnapshot sampleNested) := by
  have hidentity := views_keep_identity run_sampleActions
  have htower : sampleTower.handle ∈ (Forest.ofActions sampleActions).known :=
    known_sample _ (by simp)
  have hnested : sampleNested.handle ∈ (Forest.ofActions sampleActions).known :=
    known_sample _ (by simp)
  have hrun := ((run_sampleActions.act (.callerOf sampleTower.handle)
    (fun handle hmem => List.mem_singleton.mp hmem ▸ htower)).act
      (.write .here sampleNested .var "width" (.bool true))
        (fun handle hmem => List.mem_singleton.mp hmem ▸ .inl hnested)).act
          (.drop sampleNested.handle)
            (fun handle hmem => List.mem_singleton.mp hmem ▸ .inl (.inl hnested))
  have hfirst : ((Store.callerOf sampleTower).run (Forest.ofActions sampleActions).store).1 =
      some (.view 2 sampleSnapshot sampleNested) := rfl
  have hagain := hidentity.caller_again sampleTower htower
    [.drop sampleNested.handle, .write .here sampleNested .var "width" (.bool true)] _ hrun
  refine ⟨run_sampleActions, hidentity, _, hrun, hagain.trans hfirst, ?_⟩
  -- The inner view answers as the outer one does.
  have hinner := ((views_keep_identity hrun).caller_of_wrapping 1 sampleSnapshot sampleView
    (.inl (.inl (.inl htower)))).1
  exact hinner.symm.trans (hagain.trans hfirst)

end Run

end Stylesheet
