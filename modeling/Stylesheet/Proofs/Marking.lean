import Stylesheet.Proofs.Coherence
import Stylesheet.Scope.Lifetime

/-! # What a marking reaches

Whether a scope is alive is found out by marking: from each held environment the links are followed,
and an environment whose key has been marked already is not visited again. As long as keys tell the
environments apart and what is marked is closed under links, a visit marks exactly what the visited
environment reaches (`Reached.marks_addEnv`), and so a scope is alive exactly if something that is
held reaches it (`Scope.isAlive_iff`). -/

namespace Stylesheet

namespace Handle.Reaches

/-- What a handle reaches is the handle itself or reached from one of its links. -/
theorem iff_links {source target : Handle} :
    source.Reaches target ↔ source = target ∨ ∃ link ∈ source.env.links, link.Reaches target :=
  Relation.ReflTransGen.cases_head_iff

end Handle.Reaches

namespace Reached

variable {store : Store} {known : Set Handle} {before between after : Reached}
  {first rest : List Handle}

/-- A handle is **marked** if its key is among those of its kind. -/
def Has (reached : Reached) (handle : Handle) : Prop :=
  match handle.access with
  | .writable => handle.env.key ∈ reached.scopes
  | .readOnly => handle.env.key ∈ reached.views

/-- What is marked among the known environments is **closed** under links. -/
def Closed (known : Set Handle) (reached : Reached) : Prop :=
  ∀ source ∈ known, reached.Has source → ∀ target ∈ known, source.Reaches target →
    reached.Has target

/-- From one marking to another, exactly those known environments are **added** that a number of
handles reach. -/
def Marks (known : Set Handle) (before after : Reached) (handles : List Handle) : Prop :=
  ∀ target ∈ known,
    after.Has target ↔ before.Has target ∨ ∃ handle ∈ handles, handle.Reaches target

/-- At first nothing is marked. -/
theorem not_has_empty (handle : Handle) : ¬ empty.Has handle := by
  obtain @⟨access, env⟩ := handle
  cases access <;> simp [Has, empty]

/-- Nothing is closed under links. -/
theorem closed_empty : Closed known empty :=
  fun source _ hsource => absurd hsource (not_has_empty source)

/-- Adding what no handles reach adds nothing. -/
theorem marks_nil (before : Reached) : Marks known before before [] := by
  simp [Marks]

/-- One addition after another. -/
theorem Marks.append (h : Marks known before between first) (h' : Marks known between after rest) :
    Marks known before after (first ++ rest) := by
  intro target htarget
  rw [h' target htarget, h target htarget]
  simp only [List.mem_append, or_assoc, or_and_right, exists_or]

/-- What is added keeps a marking closed. -/
theorem Marks.closed (h : Marks known before after first) (hclosed : Closed known before) :
    Closed known after := by
  intro source hsource hhas target htarget hreaches
  rw [h target htarget]
  rcases (h source hsource).mp hhas with hbefore | ⟨handle, hmem, hhandle⟩
  · exact .inl (hclosed source hsource hbefore target htarget hreaches)
  · exact .inr ⟨handle, hmem, hhandle.trans hreaches⟩

/-- A **visit** to an environment adds what the environment reaches, if it leaves the marking alone
when the environment is marked already and otherwise marks it beside what its links reach. -/
theorem marks_visit (h : store.Coherent known) {handle : Handle} (hknown : handle ∈ known)
    (hclosed : Closed known before) (hvisited : before.Has handle → after = before)
    (hlinks : Marks known before between handle.env.links)
    (hvisit : ¬ before.Has handle → ∀ other, after.Has other ↔
      other.same handle = true ∨ between.Has other) :
    Marks known before after [handle] := by
  intro target htarget
  simp only [List.mem_singleton, exists_eq_left]
  by_cases hhas : before.Has handle
  · rw [hvisited hhas]
    constructor
    · exact .inl
    · rintro (hbefore | hreaches)
      · exact hbefore
      · exact hclosed handle hknown hhas target htarget hreaches
  · have hsame : target.same handle = true ↔ handle = target := by
      constructor
      · exact fun hsame => (h.eq_of_same target htarget handle hknown hsame).symm
      · rintro rfl
        exact Handle.same_iff.mpr ⟨rfl, rfl⟩
    rw [hvisit hhas target, hlinks target htarget, Handle.Reaches.iff_links, hsame, or_left_comm]

/-- Visiting a scope. -/
theorem marks_addScope (h : store.Coherent known) {scope : Scope} (hknown : scope.handle ∈ known)
    (hclosed : Closed known before) {links : Reached → Reached}
    (hlinks : Marks known before (links before) scope.links) :
    Marks known before (before.addScope scope.key links) [scope.handle] := by
  have hcontains : before.scopes.contains scope.key = true ↔ before.Has scope.handle := Iff.rfl
  refine marks_visit h hknown hclosed ?_ hlinks ?_
  · intro hhas
    rw [addScope, if_pos (hcontains.mpr hhas)]
  · intro hhas other
    rw [addScope, if_neg (mt hcontains.mp hhas)]
    obtain @⟨access, env⟩ := other
    cases access with
    | writable => simp [Has, Handle.same_iff, Env.handle, @eq_comm _ scope.key]
    | readOnly => simp [Has, Handle.same_iff, Env.handle]

/-- Visiting a view. -/
theorem marks_addView (h : store.Coherent known) {view : View} (hknown : view.handle ∈ known)
    (hclosed : Closed known before) {links : Reached → Reached}
    (hlinks : Marks known before (links before) view.links) :
    Marks known before (before.addView view.key links) [view.handle] := by
  have hcontains : before.views.contains view.key = true ↔ before.Has view.handle := Iff.rfl
  refine marks_visit h hknown hclosed ?_ hlinks ?_
  · intro hhas
    rw [addView, if_pos (hcontains.mpr hhas)]
  · intro hhas other
    rw [addView, if_neg (mt hcontains.mp hhas)]
    obtain @⟨access, env⟩ := other
    cases access with
    | writable => simp [Has, Handle.same_iff, Env.handle]
    | readOnly => simp [Has, Handle.same_iff, Env.handle, @eq_comm _ view.key]

/-- **Following the links** of a known environment marks exactly what the environment reaches. -/
theorem marks_addEnv (h : store.Coherent known) {a : Access} {env : Env a}
    (hknown : env.handle ∈ known) (hclosed : Closed known before) :
    Marks known before (addEnv env before) [env.handle] := by
  have hmem := h.links_mem _ hknown
  induction env generalizing before with
  | root key snapshot trace =>
    exact marks_addScope h hknown hclosed (marks_nil before)
  | nested key snapshot parent ih =>
    have hparent : parent.handle ∈ known := hmem _ (by simp [Env.links, Env.handle])
    exact marks_addScope h hknown hclosed (ih hparent hclosed (h.links_mem _ hparent))
  | body key parent caller ihparent ihcaller =>
    have hparent : parent.handle ∈ known := hmem _ (by simp [Env.links, Env.handle])
    have hcaller : caller.handle ∈ known := hmem _ (by simp [Env.links, Env.handle])
    have hfirst := ihparent hparent hclosed (h.links_mem _ hparent)
    have hsecond := ihcaller hcaller (hfirst.closed hclosed) (h.links_mem _ hcaller)
    exact marks_addScope h hknown hclosed (hfirst.append hsecond)
  | bodyWith key parent caller nodes content ihparent ihcaller ihcontent =>
    have hparent : parent.handle ∈ known := hmem _ (by simp [Env.links, Env.handle])
    have hcaller : caller.handle ∈ known := hmem _ (by simp [Env.links, Env.handle])
    have hcontent : content.handle ∈ known := hmem _ (by simp [Env.links, Env.handle])
    have hfirst := ihparent hparent hclosed (h.links_mem _ hparent)
    have hsecond := ihcaller hcaller (hfirst.closed hclosed) (h.links_mem _ hcaller)
    have hboth := hfirst.append hsecond
    have hthird := ihcontent hcontent (hboth.closed hclosed) (h.links_mem _ hcontent)
    exact marks_addScope h hknown hclosed (hboth.append hthird)
  | view key snapshot inner ih =>
    have hinner : inner.handle ∈ known := hmem _ (by simp [Env.links, Env.handle])
    exact marks_addView h hknown hclosed (ih hinner hclosed (h.links_mem _ hinner))

/-- Following the links of a number of handles marks exactly what they reach. -/
theorem marks_foldl (h : store.Coherent known) {handles : List Handle}
    (hknown : ∀ handle ∈ handles, handle ∈ known)
    (hclosed : Closed known before) :
    Marks known before (handles.foldl (fun reached handle => addEnv handle.env reached) before)
      handles := by
  induction handles generalizing before with
  | nil => exact marks_nil before
  | cons handle rest ih =>
    have hfirst := marks_addEnv h (hknown handle List.mem_cons_self) hclosed
    exact hfirst.append (ih (fun other hmem => hknown other (List.mem_cons_of_mem _ hmem))
      (hfirst.closed hclosed))

end Reached

/-- **A scope is alive** exactly if something that is held reaches it. -/
theorem Scope.isAlive_iff {store : Store} {known : Set Handle} (h : store.Coherent known)
    {held : List Handle} (hheld : ∀ handle ∈ held, handle ∈ known) {scope : Scope}
    (hscope : scope.handle ∈ known) :
    scope.isAlive held = true ↔ ∃ owner ∈ held, owner.Reaches scope.handle := by
  have hmarks := Reached.marks_foldl h hheld Reached.closed_empty scope.handle hscope
  have hhas : scope.isAlive held = true ↔ (Reached.ofHandles held).Has scope.handle := Iff.rfl
  rw [hhas, Reached.ofHandles, hmarks]
  simp [Reached.not_has_empty]

end Stylesheet
