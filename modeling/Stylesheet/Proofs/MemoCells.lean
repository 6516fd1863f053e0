import Stylesheet.Proofs.Ownership

/-! # The memo cells of views

A view has one **cell** for the captured call site and one for the content block. Both are filled in
the same way (`Cells`): by asking what the view wraps, up to the scope behind all views, whose
capture is then viewed read-only. Viewing it again on the way back changes nothing, as a view is
taken as it is (`callerOf_eq_ask`, `contentOf_eq_ask`). Hence all views of a tower get one answer
(`Cells.run_ask`). And no cell is asked for while it is being filled: a cell that would notice
answers just the same (`Cells.guardedAsk_eq`). -/

namespace Stylesheet

/-- The views that an environment consists of, from the outermost one to the one of a scope. -/
def Env.views : {a : Access} → Env a → List View
  | .writable, _ => []
  | .readOnly, .view key snapshot inner => .view key snapshot inner :: inner.views

/-- A view is in its own tower. -/
theorem Env.mem_views (view : View) : view ∈ view.views := by
  cases view with
  | view key snapshot inner =>
    rw [views]
    exact List.mem_cons_self

/-- A view that an environment consists of is reached from it. -/
theorem Env.reaches_of_mem_views {a : Access} {env : Env a} {view : View} (h : view ∈ env.views) :
    env.handle.Reaches view.handle := by
  induction env with
  | view key snapshot inner ih =>
    rcases List.mem_cons.mp h with rfl | h
    · exact .refl _
    · exact .of_link (List.mem_singleton_self inner.handle) (ih h)
  | _ => cases h

/-- What a view in a tower wraps belongs to the tower. -/
theorem Env.views_subset {a : Access} {env : Env a} {view : View} (h : view ∈ env.views) :
    view.views ⊆ env.views := by
  induction env with
  | view key snapshot inner ih =>
    rcases List.mem_cons.mp h with rfl | h
    · exact List.Subset.refl _
    · exact List.subset_cons_of_subset _ (ih h)
  | _ => cases h

/-- **The views of a tower have different keys**: each is larger than those that it wraps. -/
theorem Store.Coherent.nodup_views {store : Store} {known : Set Handle} (h : store.Coherent known)
    {a : Access} {env : Env a} (henv : env.handle ∈ known) : (env.views.map Env.key).Nodup := by
  induction env with
  | view key snapshot inner ih =>
    have hinner : inner.handle ∈ known := h.links_mem _ henv _ (List.mem_singleton_self _)
    refine List.nodup_cons.mpr ⟨fun hkey => ?_, ih hinner⟩
    obtain ⟨view, hview, hsame⟩ := List.mem_map.mp hkey
    have hreaches := Env.reaches_of_mem_views hview
    obtain rfl := h.eq_of_key_eq (h.mem_of_reaches hinner hreaches) henv hsame
    exact absurd hreaches.size_le (Nat.not_succ_le_self _)
  | _ => exact List.nodup_nil

/-- **Cells** of one kind: a part of the store where views remember what they have answered. -/
structure Cells (ν : Type) where
  /-- The answers of the cells that are filled, by the keys of the views. -/
  filled : Store → Std.ExtTreeMap Nat ν
  /-- The store with these cells filled. -/
  refill : Store → Std.ExtTreeMap Nat ν → Store
  filled_refill : ∀ store answers, filled (refill store answers) = answers
  /-- What is answered for a scope when a view of it is asked for the first time. -/
  make : Scope → Scoping ν
  filled_make : ∀ scope store, filled ((make scope).run store).2 = filled store

namespace Cells

variable {ν : Type}

/-- The answer in a cell, or else the one that is made now and fills it. -/
def fill (cells : Cells ν) (key : Nat) (make : Scoping ν) : Scoping ν := fun store =>
  match (cells.filled store)[key]? with
  | some answer => (answer, store)
  | none =>
    let (answer, after) := make.run store
    (answer, cells.refill after ((cells.filled after).insert key answer))

/-- **Asking** an environment as if from a view: a view answers from its cell, which is filled by
asking what it wraps. -/
def ask (cells : Cells ν) : {a : Access} → Env a → Scoping ν
  | .writable, scope => cells.make scope
  | .readOnly, .view key _ inner => cells.fill key (cells.ask inner)

/-- A scope answers as it does for every view of it. -/
theorem ask_scope (cells : Cells ν) (scope : Scope) : cells.ask scope = cells.make scope := by
  rw [ask]

/-- A view fills its cell with what the environment that it wraps answers. -/
theorem ask_view (cells : Cells ν) (key : Nat) (snapshot : Snapshot) {a : Access} (inner : Env a) :
    cells.ask (.view key snapshot inner) = cells.fill key (cells.ask inner) := by
  rw [ask]

section

variable {cells : Cells ν} {key : Nat} {make : Scoping ν} {store : Store}

theorem run_fill_of_some {answer : ν} (h : (cells.filled store)[key]? = some answer) :
    (cells.fill key make).run store = (answer, store) := by
  simp only [fill, StateT.run, h]

theorem run_fill_of_none (h : (cells.filled store)[key]? = none) :
    (cells.fill key make).run store =
      ((make.run store).1, cells.refill (make.run store).2
        ((cells.filled (make.run store).2).insert key (make.run store).1)) := by
  simp only [fill, StateT.run, h]
  rfl

/-- A view whose cell is filled answers from it. -/
theorem ask_of_filled {view : View} {answer : ν}
    (h : (cells.filled store)[view.key]? = some answer) :
    (cells.ask view).run store = (answer, store) := by
  cases view with
  | view key snapshot inner => exact ask_view cells key snapshot inner ▸ run_fill_of_some h

end

/-- What neither making an answer nor filling a cell changes, asking does not change. -/
theorem ask_frame {σ : Type} (cells : Cells ν) (read : Store → σ)
    (hmake : ∀ scope store, read ((cells.make scope).run store).2 = read store)
    (hrefill : ∀ store answers, read (cells.refill store answers) = read store) {a : Access}
    (env : Env a) (store : Store) : read ((cells.ask env).run store).2 = read store := by
  have hscope : ∀ scope : Scope, read ((cells.ask scope).run store).2 = read store := by
    intro scope
    rw [ask_scope, hmake]
  induction env with
  | view key snapshot inner ih =>
    rw [ask_view]
    rcases hcell : (cells.filled store)[key]? with _ | answer
    · rw [run_fill_of_none hcell]
      exact (hrefill _ _).trans ih
    · rw [run_fill_of_some hcell]
  | _ => exact hscope _

/-! ## Callers and content blocks -/

/-- Viewing a handle read-only makes a view at most. -/
theorem exists_nextView_of_viewOf (handle : Handle) (store : Store) :
    ∃ nextView, ((Store.viewOf handle).run store).2 = { store with nextView := nextView } := by
  match handle with
  | @Handle.mk .readOnly view => exact ⟨store.nextView, rfl⟩
  | @Handle.mk .writable scope => exact ⟨store.nextView + 1, rfl⟩

/-- Viewing a captured call site read-only fills no cell. -/
theorem cells_viewOf? (captured : Option Handle) (store : Store) :
    let after := ((Store.viewOf? captured).run store).2
    after.callers = store.callers ∧ after.contents = store.contents := by
  cases captured with
  | none => exact ⟨rfl, rfl⟩
  | some handle =>
    obtain ⟨nextView, hafter⟩ := exists_nextView_of_viewOf handle store
    exact ⟨(congrArg Store.callers hafter :), (congrArg Store.contents hafter :)⟩

/-- Viewing a captured content block read-only fills no cell. -/
theorem cells_viewOfBlock? (captured : Option (ContentBlock Handle)) (store : Store) :
    let after := ((Store.viewOfBlock? captured).run store).2
    after.callers = store.callers ∧ after.contents = store.contents := by
  cases captured with
  | none => exact ⟨rfl, rfl⟩
  | some block =>
    obtain ⟨nextView, hafter⟩ := exists_nextView_of_viewOf block.environment store
    exact ⟨(congrArg Store.callers hafter :), (congrArg Store.contents hafter :)⟩

/-- The cells for captured call sites. -/
def callers : Cells (Option View) where
  filled := Store.callers
  refill store answers := { store with callers := answers }
  filled_refill _ _ := rfl
  make scope := Store.viewOf? scope.caller?
  filled_make scope store := (cells_viewOf? scope.caller? store).1

/-- The cells for captured content blocks. -/
def contents : Cells (Option (ContentBlock View)) where
  filled := Store.contents
  refill store answers := { store with contents := answers }
  filled_refill _ _ := rfl
  make scope := Store.viewOfBlock? scope.content?
  filled_make scope store := (cells_viewOfBlock? scope.content? store).2

/-- A view that is viewed read-only is taken as it is. -/
theorem viewOf?_map_handle (caller : Option View) :
    Store.viewOf? (caller.map Env.handle) = pure caller := by
  cases caller <;> rfl

/-- A content block with a view is taken as it is. -/
theorem viewOfBlock?_map_handle (content : Option (ContentBlock View)) :
    Store.viewOfBlock? (content.map (ContentBlock.map Env.handle)) = pure content := by
  cases content <;> rfl

/-- Remembering a caller fills the cell of the view. -/
theorem rememberCaller_eq_fill (key : Nat) (find : Scoping (Option Handle)) :
    Store.rememberCaller key find = callers.fill key (find >>= Store.viewOf?) := by
  funext store
  rcases hcell : store.callers[key]? with _ | caller
  · have hfill : (callers.fill key (find >>= Store.viewOf?)).run store = _ :=
      run_fill_of_none hcell
    exact (Store.run_rememberCaller_of_none hcell).trans hfill.symm
  · exact (Store.run_rememberCaller_of_some hcell).trans (run_fill_of_some hcell).symm

/-- Remembering a content block fills the cell of the view. -/
theorem rememberContent_eq_fill (key : Nat) (find : Scoping (Option (ContentBlock Handle))) :
    Store.rememberContent key find = contents.fill key (find >>= Store.viewOfBlock?) := by
  funext store
  rcases hcell : store.contents[key]? with _ | content
  · have hfill : (contents.fill key (find >>= Store.viewOfBlock?)).run store = _ :=
      run_fill_of_none hcell
    exact (Store.run_rememberContent_of_none hcell).trans hfill.symm
  · exact (Store.run_rememberContent_of_some hcell).trans (run_fill_of_some hcell).symm

/-- **A view asks** for the captured call site through the views that it wraps. -/
theorem callerOf_eq_ask : ∀ view : View, Store.callerOf view = callers.ask view
  | @Env.view key snapshot .writable scope => by
    have hsame : (Scope.caller? scope).map (@Captured.handle .writable) = Scope.caller? scope :=
      Option.map_id'
    rw [Store.callerOf, rememberCaller_eq_fill, Store.callerOf, pure_bind, pure_bind, hsame,
      ask_view, ask_scope]
    rfl
  | @Env.view key snapshot .readOnly inner => by
    -- What the inner view answers is a view, and viewing it once more gives this view.
    have hsame : ∀ caller : Option View,
        Store.viewOf? (caller.map (@Captured.handle .readOnly)) = pure caller :=
      viewOf?_map_handle
    rw [Store.callerOf, rememberCaller_eq_fill, ask_view, ← callerOf_eq_ask inner]
    simp only [bind_assoc, pure_bind, hsame, bind_pure]

/-- **A view asks** for the captured content block through the views that it wraps. -/
theorem contentOf_eq_ask : ∀ view : View, Store.contentOf view = contents.ask view
  | @Env.view key snapshot .writable scope => by
    have hsame : (Scope.content? scope).map (ContentBlock.map (@Captured.handle .writable)) =
        Scope.content? scope := Option.map_id'
    rw [Store.contentOf, rememberContent_eq_fill, Store.contentOf, pure_bind, pure_bind, hsame,
      ask_view, ask_scope]
    rfl
  | @Env.view key snapshot .readOnly inner => by
    have hsame : ∀ content : Option (ContentBlock View),
        Store.viewOfBlock? (content.map (ContentBlock.map (@Captured.handle .readOnly))) =
          pure content := viewOfBlock?_map_handle
    rw [Store.contentOf, rememberContent_eq_fill, ask_view, ← contentOf_eq_ask inner]
    simp only [bind_assoc, pure_bind, hsame, bind_pure]

/-! ## What asking fills -/

/-- The cells of a tower **agree**: whatever is in the cell of one of its views is also in those of
all views that this one wraps. -/
def Agree (cells : Cells ν) (store : Store) {a : Access} (env : Env a) : Prop :=
  ∀ view ∈ env.views, ∀ answer, (cells.filled store)[view.key]? = some answer →
    ∀ inner ∈ view.views, (cells.filled store)[inner.key]? = some answer

/-- Without views there are no cells. -/
theorem agree_scope (cells : Cells ν) (store : Store) (scope : Scope) :
    cells.Agree store scope := by
  intro view hview
  rw [Env.views] at hview
  cases hview

/-- The one cell of a view of a scope agrees with itself. -/
theorem agree_of_scope (cells : Cells ν) (store : Store) {view : View} {scope : Scope}
    (h : view.inner = scope.handle) : cells.Agree store view := by
  have hviews : view.views = [view] := by
    cases view with
    | view key snapshot inner =>
      cases h
      rw [Env.views, Env.views]
  intro outer houter answer hcell inner hinner
  rw [hviews, List.mem_singleton] at houter
  rw [houter, hviews, List.mem_singleton] at hinner
  rw [hinner, ← houter, hcell]

/-- The cells of a tower agree if those of what is wrapped do and the outermost one is empty. -/
theorem Agree.view {cells : Cells ν} {store : Store} {view : View}
    (h : cells.Agree store view.inner.env) (hcell : (cells.filled store)[view.key]? = none) :
    cells.Agree store view := by
  cases view with
  | view key snapshot inner =>
    intro outer houter answer hanswer
    rcases List.mem_cons.mp houter with rfl | houter
    · rw [hcell] at hanswer
      cases hanswer
    · exact h outer houter answer hanswer

/-- **Asking** fills the cells of the whole tower with the answer, and no other; a cell that is
filled already keeps what is in it. -/
theorem run_ask {cells : Cells ν} {store : Store} {a : Access} {env : Env a}
    (h : cells.Agree store env) :
    let run := (cells.ask env).run store
    (∀ view ∈ env.views, (cells.filled run.2)[view.key]? = some run.1) ∧
      (∀ key : Nat, (∀ view ∈ env.views, view.key ≠ key) →
        (cells.filled run.2)[key]? = (cells.filled store)[key]?) ∧
      ∀ (key : Nat) (answer : ν), (cells.filled store)[key]? = some answer →
        (cells.filled run.2)[key]? = some answer := by
  have hscope : ∀ scope : Scope, cells.filled ((cells.ask scope).run store).2 =
      cells.filled store := by
    intro scope
    rw [ask_scope, cells.filled_make]
  induction env with
  | view key snapshot inner ih =>
    obtain ⟨htower, hothers, hkept⟩ := ih fun view hview => h view (List.mem_cons_of_mem _ hview)
    rw [ask_view]
    rcases hcell : (cells.filled store)[key]? with _ | answer
    · -- The answer of what is wrapped fills the cell.
      rw [run_fill_of_none hcell]
      generalize (cells.ask inner).run store = run at htower hothers hkept ⊢
      dsimp only at htower hothers hkept ⊢
      simp only [cells.filled_refill, Std.ExtTreeMap.getElem?_insert]
      refine ⟨fun view hview => ?_, fun other hother => ?_, fun other answer hother => ?_⟩
      · split
        · rfl
        · next hne =>
          rcases List.mem_cons.mp hview with rfl | hview
          · exact absurd Std.ReflCmp.compare_self hne
          · exact htower view hview
      · have hne : key ≠ other := hother _ List.mem_cons_self
        rw [if_neg (hne ∘ Std.LawfulEqOrd.eq_of_compare)]
        exact hothers other fun view hview => hother view (List.mem_cons_of_mem _ hview)
      · have hne : key ≠ other := by
          rintro rfl
          rw [hcell] at hother
          cases hother
        rw [if_neg (hne ∘ Std.LawfulEqOrd.eq_of_compare)]
        exact hkept other answer hother
    · rw [run_fill_of_some hcell]
      exact ⟨h _ List.mem_cons_self answer hcell, fun _ _ => rfl, fun _ _ hother => hother⟩
  | _ =>
    refine ⟨nofun, fun key _ => ?_, fun key answer hkey => ?_⟩
    · rw [hscope]
    · rw [hscope, hkey]

/-- A view of a view answers as the inner one does, which then has this answer in its cell. -/
theorem ask_of_wrapping {cells : Cells ν} {store : Store} {key : Nat} {snapshot : Snapshot}
    {inner : View} (h : cells.Agree store (.view key snapshot inner)) :
    let run := (cells.ask (.view key snapshot inner)).run store
    run.1 = ((cells.ask inner).run store).1 ∧
      (cells.filled run.2)[inner.key]? = some run.1 := by
  have hmem : inner ∈ (Env.view key snapshot inner).views :=
    List.mem_cons_of_mem _ inner.mem_views
  obtain ⟨htower, -⟩ := run_ask h
  refine ⟨?_, htower inner hmem⟩
  rw [ask_view]
  rcases hcell : (cells.filled store)[key]? with _ | answer
  · rw [run_fill_of_none hcell]
  · -- The cell of the inner view is filled with the same answer.
    have hinner := h _ List.mem_cons_self answer hcell inner hmem
    rw [run_fill_of_some hcell, ask_of_filled hinner]

/-! ## No cell is entered again -/

/-- **Asking with a guard**: it has no result if a cell is asked for while it is being filled. The
keys are those of the cells that are being filled. -/
def guardedAsk (cells : Cells ν) : {a : Access} → Env a → List Nat → StateT Store Option ν
  | .writable, scope, _ => fun store => some ((cells.make scope).run store)
  | .readOnly, .view key _ inner, filling => fun store =>
    match (cells.filled store)[key]? with
    | some answer => some (answer, store)
    | none =>
      if key ∈ filling then none
      else
        (cells.guardedAsk inner (key :: filling) store).map fun (answer, after) =>
          (answer, cells.refill after ((cells.filled after).insert key answer))

/-- **The guard is never hit** if the views of the tower have different keys, and it changes
nothing. -/
theorem guardedAsk_eq {cells : Cells ν} {a : Access} {env : Env a}
    (hnodup : (env.views.map Env.key).Nodup) (filling : List Nat)
    (hfree : ∀ view ∈ env.views, view.key ∉ filling) (store : Store) :
    cells.guardedAsk env filling store = some ((cells.ask env).run store) := by
  have hscope : ∀ (scope : Scope) (filling : List Nat),
      cells.guardedAsk scope filling store = some ((cells.ask scope).run store) := by
    intro scope filling
    rw [guardedAsk, ask_scope]
  induction env generalizing filling with
  | view key snapshot inner ih =>
    obtain ⟨hkey, hnodup⟩ := List.nodup_cons.mp hnodup
    have hinner := ih hnodup (key :: filling) (fun view hview hmem => by
      rcases List.mem_cons.mp hmem with hsame | hmem
      · exact hkey (List.mem_map.mpr ⟨view, hview, hsame⟩)
      · exact hfree view (List.mem_cons_of_mem _ hview) hmem)
    rw [ask_view, guardedAsk]
    rcases hcell : (cells.filled store)[key]? with _ | answer
    · rw [run_fill_of_none hcell]
      have hopen : key ∉ filling := hfree _ List.mem_cons_self
      simp only [hcell]
      rw [if_neg hopen, hinner]
      rfl
    · rw [run_fill_of_some hcell]
      simp only [hcell]
  | _ => exact hscope _ filling

end Cells

end Stylesheet
