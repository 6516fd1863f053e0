import Mathlib.Data.Set.Finite.Lattice
import Stylesheet.Proofs.Forest
import Stylesheet.Proofs.Marking
import Stylesheet.Session

/-! # Ownership

Scopes and views **own** what they refer to: what they were made with, and also what the store
remembers for them, namely the root of a nested scope and the captures of a view
(`Store.Owns`). Ownership has no cycles: what is remembered for an environment is smaller than the
environment, even where it is a view that was made later. And whatever scope is owned by way of
something remembered is reached along links as well (`Coherent.of_owns`). So remembering keeps no
scope alive that would not be alive without it (`Run.alive_iff_reached`). Bindings own nothing: a
callable names its scope without keeping it. -/

namespace Stylesheet

/-! ## The size of environments -/

/-- The **size** of an environment: the number of steps by which it is made from roots. -/
def Env.size : {a : Access} → Env a → Nat
  | _, .root _ _ _ => 0
  | _, .nested _ _ parent => parent.size + 1
  | _, .body _ parent caller => parent.size + caller.size + 1
  | _, .bodyWith _ parent caller _ content => parent.size + caller.size + content.size + 1
  | _, .view _ _ inner => inner.size + 1

namespace Handle

/-- Links lead to smaller environments. -/
theorem size_lt_of_mem_links (handle : Handle) {link : Handle} (h : link ∈ handle.env.links) :
    link.env.size < handle.env.size := by
  obtain @⟨access, env⟩ := handle
  cases env with
  | root => cases h
  | nested key snapshot parent =>
    cases List.mem_singleton.mp h
    exact Nat.lt_succ_self _
  | body key parent caller =>
    simp only [Env.links, List.mem_cons, List.not_mem_nil, or_false] at h
    rcases h with rfl | rfl <;> simp only [Env.handle, Env.size] <;> omega
  | bodyWith key parent caller nodes content =>
    simp only [Env.links, List.mem_cons, List.not_mem_nil, or_false] at h
    rcases h with rfl | rfl | rfl <;> simp only [Env.handle, Env.size] <;> omega
  | view key snapshot inner =>
    cases List.mem_singleton.mp h
    exact Nat.lt_succ_self _

/-- What a handle reaches is not larger. -/
theorem Reaches.size_le {source target : Handle} (h : source.Reaches target) :
    target.env.size ≤ source.env.size := by
  induction h with
  | refl => exact Nat.le_refl _
  | tail _ hlink ih => exact (size_lt_of_mem_links _ hlink).le.trans ih

/-- What shows a captured environment is larger by one at most. -/
theorem Shows.size_le {shown captured : Handle} (h : shown.Shows captured) :
    shown.env.size ≤ captured.env.size + 1 := by
  cases h with
  | itself => exact Nat.le_succ _
  | wrapping => exact Nat.le_refl _

end Handle

namespace Scope

/-- A scope that is not the root has a size. -/
theorem size_pos {scope : Scope} (h : scope.isRoot = false) : 0 < scope.size := by
  cases scope with
  | root => cases h
  | _ => exact Nat.succ_pos _

/-- The call site of the nearest body around a scope is smaller than the scope. -/
theorem size_lt_of_caller? {scope : Scope} {caller : Handle} (h : scope.caller? = some caller) :
    caller.env.size < scope.size := by
  obtain ⟨inner, hmem, hown⟩ := List.exists_of_findSome?_eq_some h
  have hlink : caller.env.size < inner.size :=
    Handle.size_lt_of_mem_links inner.handle (mem_links_of_ownCaller? hown)
  have hinner : inner.size ≤ scope.size := (Env.reaches_of_mem_path hmem).size_le
  omega

/-- The environment of the content block of the nearest body around a scope is smaller than the
scope. -/
theorem size_lt_of_content? {scope : Scope} {block : ContentBlock Handle}
    (h : scope.content? = some block) : block.environment.env.size < scope.size := by
  obtain ⟨inner, hmem, hown⟩ := List.exists_of_findSome?_eq_some h
  have hlink : block.environment.env.size < inner.size :=
    Handle.size_lt_of_mem_links inner.handle (mem_links_of_ownContent? hown)
  have hinner : inner.size ≤ scope.size := (Env.reaches_of_mem_path hmem).size_le
  omega

end Scope

/-- **What shows a capture of the scope behind a view** is smaller than the view, and the view
reaches whatever scope it reaches. -/
theorem Handle.Shows.of_capture {shown captured : Handle} (h : shown.Shows captured) {view : View}
    (hsize : captured.env.size < view.unwrapped.size)
    (hcapture : view.unwrapped.handle.Reaches captured) :
    shown.env.size < view.size ∧
      ∀ scope : Scope, shown.Reaches scope.handle → view.handle.Reaches scope.handle := by
  have hshown := h.size_le
  have hview : view.unwrapped.size < view.size := by
    cases view with
    | view key snapshot inner => exact Nat.lt_succ_of_le inner.reaches_unwrapped.size_le
  refine ⟨by omega, ?_⟩
  intro scope hreaches
  exact view.reaches_unwrapped.trans (hcapture.trans (h.reaches_scope hreaches))

/-! ## Ownership -/

namespace Store

/-- One environment **owns** another: it was made with it, or it is what is remembered for it. -/
inductive Owns (store : Store) : Handle → Handle → Prop
  /-- The enclosing scope, the call site, the environment of the content block, or what a view
  wraps. -/
  | link {owner owned : Handle} (h : owned ∈ owner.env.links) : Owns store owner owned
  /-- The root that is remembered for a scope. -/
  | root {scope : Scope} {root : Root} (h : store.roots[scope.key]? = some root) :
    Owns store scope.handle root.scope.handle
  /-- The caller that is remembered for a view. -/
  | caller {view caller : View} (h : store.callers[view.key]? = some (some caller)) :
    Owns store view.handle caller.handle
  /-- The environment of the content block that is remembered for a view. -/
  | content {view : View} {block : ContentBlock View}
    (h : store.contents[view.key]? = some (some block)) :
    Owns store view.handle block.environment.handle

/-- A set of environments is **what counting of owners keeps**: what is held stays, what is owned by
something that stays does, and nothing else does. -/
structure Keeps (store : Store) (held : List Handle) (live : Set Handle) : Prop where
  /-- What is held stays. -/
  of_held : ∀ handle ∈ held, handle ∈ live
  /-- What is owned by something that stays does. -/
  of_owns : ∀ owner ∈ live, ∀ owned, store.Owns owner owned → owned ∈ live
  /-- What stays is held or owned by something that stays. -/
  held_or_owned : ∀ handle ∈ live, handle ∈ held ∨ ∃ owner ∈ live, store.Owns owner handle

namespace Coherent

variable {store : Store} {known : Set Handle} {owner owned : Handle}

/-- **What a known environment owns** is known and smaller, and the owner reaches whatever scope it
reaches. -/
theorem of_owns (h : store.Coherent known) (hknown : owner ∈ known)
    (howns : store.Owns owner owned) :
    owned ∈ known ∧ owned.env.size < owner.env.size ∧
      ∀ scope : Scope, owned.Reaches scope.handle → owner.Reaches scope.handle := by
  cases howns with
  | link hlink =>
    exact ⟨h.links_mem _ hknown _ hlink, Handle.size_lt_of_mem_links _ hlink,
      fun _ hreaches => .of_link hlink hreaches⟩
  | @root scope root hroot =>
    obtain ⟨rfl, hnested⟩ := h.root_eq scope hknown root hroot
    have hreaches := Env.reaches_chainRoot scope
    exact ⟨h.mem_of_reaches hknown hreaches, Scope.size_pos hnested,
      fun _ hrest => hreaches.trans hrest⟩
  | @caller view caller hcaller =>
    have hanswers := h.caller_answers view hknown _ hcaller
    generalize hcaptured : Scope.caller? view.unwrapped = captured at hanswers
    cases hanswers with
    | shown hshows hmem =>
      exact ⟨hmem, hshows.of_capture (Scope.size_lt_of_caller? hcaptured)
        (Scope.reaches_of_caller? hcaptured)⟩
  | @content view block hcontent =>
    have hanswers := (h.content_answers view hknown _ hcontent).1
    generalize hcaptured : Scope.content? view.unwrapped = captured at hanswers
    cases captured with
    | none => cases hanswers
    | some captured =>
      cases hanswers with
      | shown hshows hmem =>
        exact ⟨hmem, hshows.of_capture (Scope.size_lt_of_content? hcaptured)
          (Scope.reaches_of_content? hcaptured)⟩

/-- **Ownership has no cycles**: along any number of steps it leads to known, smaller
environments. -/
theorem of_transGen_owns (h : store.Coherent known) (hknown : owner ∈ known)
    (howns : Relation.TransGen store.Owns owner owned) :
    owned ∈ known ∧ owned.env.size < owner.env.size := by
  induction howns with
  | single howns =>
    obtain ⟨hmem, hsize, -⟩ := h.of_owns hknown howns
    exact ⟨hmem, hsize⟩
  | tail _ howns ih =>
    obtain ⟨hmem, hsize, -⟩ := h.of_owns ih.1 howns
    exact ⟨hmem, hsize.trans ih.2⟩

/-- **A scope that is owned** along any number of steps is reached along links. -/
theorem reaches_of_owns (h : store.Coherent known) (hknown : owner ∈ known) {scope : Scope}
    (howns : Relation.ReflTransGen store.Owns owner scope.handle) :
    owner.Reaches scope.handle := by
  induction howns using Relation.ReflTransGen.head_induction_on with
  | refl => exact .refl _
  | head hfirst _ ih =>
    obtain ⟨hmem, -, hreaches⟩ := h.of_owns hknown hfirst
    exact hreaches scope (ih hmem)

/-- What is reached along links is owned. -/
theorem owns_of_reaches (store : Store) {source target : Handle} (h : source.Reaches target) :
    Relation.ReflTransGen store.Owns source target := by
  induction h with
  | refl => exact .refl
  | tail _ hlink ih => exact ih.tail (.link hlink)

/-- **Counting owners** among finitely many known environments keeps exactly what held ones own. -/
theorem mem_of_keeps (h : store.Coherent known) (hfinite : known.Finite) {held : List Handle}
    {live : Set Handle} (hlive : live ⊆ known) (hkeeps : store.Keeps held live)
    {handle : Handle} : handle ∈ live ↔
      ∃ owner ∈ held, Relation.ReflTransGen store.Owns owner handle := by
  constructor
  · -- An owner is larger than what it owns, and the known environments have bounded sizes.
    obtain ⟨bound, hbound⟩ := (hfinite.image fun handle => handle.env.size).bddAbove
    intro hmem
    induction hmeasure : bound - handle.env.size using Nat.strongRecOn generalizing handle with
    | ind measure ih =>
      rcases hkeeps.held_or_owned handle hmem with hheld | ⟨owner, howner, howns⟩
      · exact ⟨handle, hheld, .refl⟩
      · have hsize := (h.of_owns (hlive howner) howns).2.1
        have hle : owner.env.size ≤ bound := hbound ⟨owner, hlive howner, rfl⟩
        obtain ⟨top, htop, hsteps⟩ := ih (bound - owner.env.size) (by omega) howner rfl
        exact ⟨top, htop, hsteps.tail howns⟩
  · rintro ⟨owner, hheld, hsteps⟩
    induction hsteps with
    | refl => exact hkeeps.of_held _ hheld
    | tail _ howns ih => exact hkeeps.of_owns _ ih _ howns

/-- Counting owners keeps some set of known environments. -/
theorem exists_keeps (h : store.Coherent known) {held : List Handle}
    (hheld : ∀ handle ∈ held, handle ∈ known) : ∃ live ⊆ known, store.Keeps held live := by
  refine ⟨{handle | ∃ owner ∈ held, Relation.ReflTransGen store.Owns owner handle}, ?_, ?_⟩
  · rintro handle ⟨owner, hmem, hsteps⟩
    induction hsteps with
    | refl => exact hheld owner hmem
    | tail _ howns ih => exact (h.of_owns ih howns).1
  · -- What held environments own along any number of steps is closed under one more.
    refine ⟨fun handle hmem => ⟨handle, hmem, .refl⟩, ?_, ?_⟩
    · rintro owner ⟨top, hmem, hsteps⟩ owned howns
      exact ⟨top, hmem, hsteps.tail howns⟩
    · rintro handle ⟨top, hmem, hsteps⟩
      rcases Relation.ReflTransGen.cases_tail hsteps with rfl | ⟨owner, howner, howns⟩
      · exact .inl hmem
      · exact .inr ⟨owner, ⟨top, hmem, howner⟩, howns⟩

end Coherent

end Store

/-- The forest after an action **in passing**: what it hands out is dropped at once. -/
def Forest.inPassing (forest : Forest) (action : Action) : Forest :=
  match (action.perform.run forest.store).1 with
  | none => forest.after action
  | some handle => (forest.after action).after (.drop handle)

/-- An action in passing leaves what is held as it was, unless it gives up a hold itself. -/
theorem Forest.held_inPassing (forest : Forest) {action : Action}
    (h : ∀ handle, action ≠ .drop handle) : (forest.inPassing action).held = forest.held := by
  have hkeep : action.keep forest.held = forest.held := by
    cases action with
    | drop handle => exact absurd rfl (h handle)
    | _ => rfl
  unfold inPassing
  split
  · next hnone =>
    show (action.perform.run forest.store).1.toList ++ action.keep forest.held = forest.held
    rw [hnone, hkeep]
    rfl
  · next handle hsome =>
    show ((action.perform.run forest.store).1.toList ++ action.keep forest.held).eraseP handle.same
      = forest.held
    have hsame : handle.same handle = true := Handle.same_iff.mpr ⟨rfl, rfl⟩
    rw [hsome, hkeep]
    simp [hsame]

/-! ## The life of scopes -/

namespace Run

variable {actions : List Action} {forest : Forest}

/-- **A scope is alive as long as links reach it.** At every moment of a run,
- ownership has no cycles,
- a known scope is owned along any number of steps by something that is held exactly if something
  that is held reaches it along links,
- counting owners keeps exactly these scopes, and there is something that it keeps,
- a scope that is only named is found alive exactly if it is one of these,
- whatever is read or written in passing leaves what is held, and so what is alive, as it was. -/
theorem alive_iff_reached (h : Run actions forest) :
    (∀ handle ∈ forest.known, ¬ Relation.TransGen forest.store.Owns handle handle) ∧
    (∃ live ⊆ forest.known, forest.store.Keeps forest.held live) ∧
    (∀ scope : Scope, scope.handle ∈ forest.known →
      let reached := ∃ owner ∈ forest.held, owner.Reaches scope.handle
      ((∃ owner ∈ forest.held, Relation.ReflTransGen forest.store.Owns owner scope.handle) ↔
        reached) ∧
      (∀ live ⊆ forest.known, forest.store.Keeps forest.held live →
        (scope.handle ∈ live ↔ reached)) ∧
      ∀ {σ : Type} (session : Session σ), session.held = forest.held →
        ((Evaluation.ifAlive scope).run.run session = (.ok (some scope), session) ↔ reached) ∧
          ((Evaluation.ifAlive scope).run.run session = (.ok none, session) ↔ ¬ reached)) ∧
    (∀ action : Action, (∀ handle, action ≠ .drop handle) →
      ∀ scope : Scope,
        scope.isAlive (forest.inPassing action).held = scope.isAlive forest.held) := by
  have hcoherent := h.coherent
  refine ⟨?_, hcoherent.exists_keeps h.known_of_held, ?_, ?_⟩
  · -- Around a cycle an environment would be smaller than itself.
    intro handle hknown hcycle
    exact Nat.lt_irrefl _ (hcoherent.of_transGen_owns hknown hcycle).2
  · intro scope hscope reached
    have howned : (∃ owner ∈ forest.held,
        Relation.ReflTransGen forest.store.Owns owner scope.handle) ↔ reached := by
      constructor
      · rintro ⟨owner, hmem, howns⟩
        exact ⟨owner, hmem, hcoherent.reaches_of_owns (h.known_of_held owner hmem) howns⟩
      · rintro ⟨owner, hmem, hreaches⟩
        exact ⟨owner, hmem, Store.Coherent.owns_of_reaches _ hreaches⟩
    refine ⟨howned, ?_, ?_⟩
    · intro live hlive hkeeps
      exact (hcoherent.mem_of_keeps h.finite_known hlive hkeeps).trans howned
    · intro σ session hheld
      have halive : scope.isAlive session.held = true ↔ reached := by
        rw [hheld]
        exact Scope.isAlive_iff hcoherent h.known_of_held hscope
      have hrun : (Evaluation.ifAlive scope).run.run session =
          (.ok (if scope.isAlive session.held then some scope else none), session) := rfl
      rw [hrun, ← halive]
      cases scope.isAlive session.held with
      | false => exact ⟨⟨nofun, nofun⟩, fun _ => Bool.false_ne_true, fun _ => rfl⟩
      | true => exact ⟨⟨fun _ => rfl, fun _ => rfl⟩, nofun, fun hdead => absurd rfl hdead⟩
  · intro action hdrop scope
    rw [forest.held_inPassing hdrop]

/-- In the sample, everything is dropped but the view of the view. -/
def dropping : List Action :=
  [.drop sampleView.handle, .drop sampleBody.handle, .drop sampleNested.handle,
    .drop sampleRoot.handle] ++ sampleActions

/-- In the sample, the view of the view alone keeps the scope alive in which the call was made. -/
theorem sampleTower_keeps_sampleNested :
    ∃ forest, Run dropping forest ∧ forest.held = [sampleTower.handle] ∧
      ∀ session : Session Unit, session.held = forest.held →
        (Evaluation.ifAlive sampleNested).run.run session = (.ok (some sampleNested), session) := by
  have hrun : Run dropping (.ofActions dropping) := by
    refine (((run_sampleActions.act _ ?_).act _ ?_).act _ ?_).act _ ?_
    all_goals intro handle hmem; rw [List.mem_singleton.mp hmem]
    · exact known_sample _ (by simp)
    · exact .inl (known_sample _ (by simp))
    · exact .inl (.inl (known_sample _ (by simp)))
    · exact .inl (.inl (.inl (known_sample _ (by simp))))
  have hnested : sampleNested.handle ∈ (Forest.ofActions dropping).known :=
    .inl (.inl (.inl (.inl (known_sample _ (by simp)))))
  obtain ⟨-, -, hlife, -⟩ := alive_iff_reached hrun
  refine ⟨_, hrun, rfl, fun session hheld => ?_⟩
  refine ((hlife sampleNested hnested).2.2 session hheld).1.mpr ?_
  refine ⟨sampleTower.handle, List.mem_singleton_self _, ?_⟩
  -- The view of the view wraps the view, which wraps the body, which has captured the scope.
  have hbody : sampleBody.handle.Reaches sampleNested.handle :=
    .of_link (List.mem_cons_of_mem _ List.mem_cons_self) (.refl _)
  exact sampleTower.reaches_unwrapped.trans hbody

end Run

end Stylesheet
