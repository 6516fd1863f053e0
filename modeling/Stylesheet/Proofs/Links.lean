import Mathlib.Data.Set.Basic
import Mathlib.Logic.Relation
import Stylesheet.Scope.Env

/-! # Links of environments

An environment keeps the links that it was made with, and through them it **reaches** other
environments (`Handle.Reaches`). What a scope has captured is reached from the scope. A view does
not hand out what was captured but something that **shows** it (`Handle.Shows`): the captured view
itself, or a new view of the captured scope. Either has the same scope behind it and reaches no
other scopes. -/

namespace Stylesheet

/-! ## Links -/

/-- The environments that an environment was made with: the enclosing scope, the call site, the
environment of the content block, or what a view wraps. -/
def Env.links : {a : Access} → Env a → List Handle
  | _, .root _ _ _ => []
  | _, .nested _ _ parent => [parent.handle]
  | _, .body _ parent caller => [parent.handle, caller.handle]
  | _, .bodyWith _ parent caller _ content => [parent.handle, caller.handle, content.handle]
  | _, .view _ _ inner => [inner.handle]

/-- One handle **reaches** another along the links of environments. -/
def Handle.Reaches : Handle → Handle → Prop :=
  Relation.ReflTransGen fun source target => target ∈ source.env.links

namespace Handle.Reaches

/-- Every handle reaches itself. -/
theorem refl (handle : Handle) : handle.Reaches handle :=
  Relation.ReflTransGen.refl

/-- A handle reaches what its links reach. -/
theorem of_link {source link target : Handle} (hlink : link ∈ source.env.links)
    (h : link.Reaches target) : source.Reaches target :=
  Relation.ReflTransGen.head hlink h

/-- What is reached in two stretches is reached. -/
theorem trans {first second third : Handle} (h : first.Reaches second)
    (h' : second.Reaches third) : first.Reaches third :=
  Relation.ReflTransGen.trans h h'

end Handle.Reaches

namespace Env

/-- An environment reaches the scope behind it. -/
theorem reaches_unwrapped {a : Access} (env : Env a) :
    env.handle.Reaches env.unwrapped.handle := by
  induction env with
  | view _ _ inner ih => exact .of_link (List.mem_singleton_self inner.handle) ih
  | _ => exact .refl _

/-- The scope behind an environment is behind no view. -/
theorem unwrapped_unwrapped {a : Access} (env : Env a) :
    env.unwrapped.unwrapped = env.unwrapped := by
  induction env with
  | view _ _ inner ih => exact ih
  | _ => rfl

/-- An environment has the root of the scope behind it. -/
theorem chainRoot_unwrapped {a : Access} (env : Env a) :
    env.unwrapped.chainRoot = env.chainRoot := by
  induction env with
  | view _ _ inner ih => exact ih
  | _ => rfl

/-- An environment reaches every scope of its path. -/
theorem reaches_of_mem_path {a : Access} {env : Env a} {scope : Scope} (h : scope ∈ env.path) :
    env.handle.Reaches scope.handle := by
  induction env with
  | root key snapshot trace =>
    rw [List.mem_singleton.mp h]
    exact .refl _
  | view _ _ inner ih => exact .of_link (List.mem_singleton_self inner.handle) (ih h)
  | nested key snapshot parent ih =>
    rcases List.mem_cons.mp h with rfl | h
    · exact .refl _
    · exact .of_link (List.mem_singleton_self parent.handle) (ih h)
  | body key parent caller ih _ =>
    rcases List.mem_cons.mp h with rfl | h
    · exact .refl _
    · exact .of_link (by simp [links, handle]) (ih h)
  | bodyWith key parent caller nodes content ih _ _ =>
    rcases List.mem_cons.mp h with rfl | h
    · exact .refl _
    · exact .of_link (by simp [links, handle]) (ih h)

/-- A scope is on its own path. -/
theorem mem_path (scope : Scope) : scope ∈ scope.path := by
  rw [Scope.path_eq]
  exact List.mem_cons_self

/-- The path of a scope on a path goes on as that one does. -/
theorem path_of_append {a : Access} {env : Env a} {nearer outer : List Scope} {scope : Scope}
    (h : env.path = nearer ++ scope :: outer) : scope.path = scope :: outer := by
  induction nearer generalizing a env with
  | nil =>
    rw [← path_unwrapped, Scope.path_eq] at h
    obtain ⟨rfl, hrest⟩ := List.cons.inj h
    rw [Scope.path_eq, hrest]
  | cons first nearer ih =>
    rw [← path_unwrapped, Scope.path_eq] at h
    have hrest := (List.cons.inj h).2
    cases hparent : env.unwrapped.parent? with
    | none => simp [hparent] at hrest
    | some parent =>
      rw [hparent] at hrest
      exact ih hrest

/-- The path of a scope on a path is the rest of it. -/
theorem path_suffix_of_mem {a : Access} {env : Env a} {scope : Scope} (h : scope ∈ env.path) :
    scope.path <:+ env.path := by
  obtain ⟨nearer, outer, hpath⟩ := List.append_of_mem h
  exact ⟨nearer, by rw [path_of_append hpath, hpath]⟩

/-- Of two scopes on one path one encloses the other. -/
theorem mem_path_or_mem_path {a : Access} {env : Env a} {scope other : Scope}
    (hscope : scope ∈ env.path) (hother : other ∈ env.path) :
    scope ∈ other.path ∨ other ∈ scope.path := by
  rcases List.suffix_or_suffix_of_suffix (path_suffix_of_mem hscope) (path_suffix_of_mem hother)
    with h | h
  · exact .inl (h.subset scope.mem_path)
  · exact .inr (h.subset other.mem_path)

/-- An environment reaches the root of its chain. -/
theorem reaches_chainRoot {a : Access} (env : Env a) :
    env.handle.Reaches env.chainRoot.scope.handle := by
  induction env with
  | root => exact .refl _
  | nested key snapshot parent ih => exact .of_link (by simp [links, handle]) ih
  | body key parent caller ih _ => exact .of_link (by simp [links, handle]) ih
  | bodyWith key parent caller nodes content ih _ _ =>
    exact .of_link (by simp [links, handle]) ih
  | view key snapshot inner ih => exact .of_link (by simp [links, handle]) ih

end Env

namespace Scope

/-- The root of a chain is on every path of the chain. -/
theorem chainRoot_mem_path (scope : Scope) : scope.chainRoot.scope ∈ scope.path :=
  List.mem_of_getLast? scope.getLast?_path

/-- A scope that has an enclosing one is no root. -/
theorem ne_of_isRoot {scope root : Scope} (h : scope.isRoot = false) (hroot : root.isRoot = true) :
    scope ≠ root := by
  rintro rfl
  exact Bool.false_ne_true (h.symm.trans hroot)

/-- The path of a root is the root alone. -/
theorem path_of_isRoot {root : Scope} (h : root.isRoot = true) : root.path = [root] := by
  rw [path_eq, Option.isNone_iff_eq_none.mp h]
  rfl

/-- The only root on the path of a scope is that of its chain. -/
theorem eq_chainRoot_of_mem_path {scope root : Scope} (hmem : root ∈ scope.path)
    (h : root.isRoot = true) : root = scope.chainRoot.scope := by
  obtain ⟨nearer, hpath⟩ := Env.path_suffix_of_mem hmem
  have hlast := scope.getLast?_path
  rw [← hpath, path_of_isRoot h, List.getLast?_concat] at hlast
  exact Option.some.inj hlast

/-- The scopes on a path are in the chain of the environment. -/
theorem chainRoot_of_mem_path {a : Access} {env : Env a} {outer : Scope} (h : outer ∈ env.path) :
    outer.chainRoot = env.chainRoot := by
  rw [← Env.path_unwrapped] at h
  have hroot : outer.chainRoot.scope = env.unwrapped.chainRoot.scope :=
    eq_chainRoot_of_mem_path ((Env.path_suffix_of_mem h).subset outer.chainRoot_mem_path) rfl
  rw [← env.chainRoot_unwrapped]
  generalize outer.chainRoot = root at hroot
  generalize env.unwrapped.chainRoot = root' at hroot
  cases root
  cases root'
  cases hroot
  rfl

/-- The call site that a scope has captured is one of its links. -/
theorem mem_links_of_ownCaller? {scope : Scope} {caller : Handle}
    (h : scope.ownCaller? = some caller) : caller ∈ scope.links := by
  cases scope <;> simp_all [ownCaller?, Env.links]

/-- The environment of the content block that a scope has captured is one of its links. -/
theorem mem_links_of_ownContent? {scope : Scope} {block : ContentBlock Handle}
    (h : scope.ownContent? = some block) : block.environment ∈ scope.links := by
  cases scope with
  | bodyWith key parent caller nodes content =>
    cases h
    simp [Env.links]
  | _ => cases h

/-- A scope reaches the call site of the nearest body around it. -/
theorem reaches_of_caller? {scope : Scope} {caller : Handle} (h : scope.caller? = some caller) :
    scope.handle.Reaches caller := by
  obtain ⟨inner, hmem, hown⟩ := List.exists_of_findSome?_eq_some h
  exact (Env.reaches_of_mem_path hmem).trans (.of_link (mem_links_of_ownCaller? hown) (.refl _))

/-- A scope reaches the environment of the content block of the nearest body around it. -/
theorem reaches_of_content? {scope : Scope} {block : ContentBlock Handle}
    (h : scope.content? = some block) : scope.handle.Reaches block.environment := by
  obtain ⟨inner, hmem, hown⟩ := List.exists_of_findSome?_eq_some h
  exact (Env.reaches_of_mem_path hmem).trans (.of_link (mem_links_of_ownContent? hown) (.refl _))

end Scope

/-- Handles are the same if they are of one kind and have one key. -/
theorem Handle.same_iff {first second : Handle} :
    first.same second = true ↔
      first.access = second.access ∧ first.env.key = second.env.key := by
  simp [same]

/-! ## How captures are shown -/

/-- A handle **shows** a captured environment: it is the captured one itself, or a view that was
made to wrap the captured scope. -/
inductive Handle.Shows : Handle → Handle → Prop
  /-- The environment itself. -/
  | itself (captured : Handle) : Shows captured captured
  /-- A view of a scope. -/
  | wrapping (key : Nat) (scope : Scope) :
    Shows (Env.view key scope.snapshot scope).handle scope.handle

/-- What shows an environment has the same scope behind it. -/
theorem Handle.Shows.unwrapped_eq {shown captured : Handle} (h : shown.Shows captured) :
    shown.env.unwrapped = captured.env.unwrapped := by
  cases h <;> rfl

/-- What shows an environment reaches no other scopes than the environment does. -/
theorem Handle.Shows.reaches_scope {shown captured : Handle} (h : shown.Shows captured)
    {scope : Scope} (hreaches : shown.Reaches scope.handle) : captured.Reaches scope.handle := by
  cases h with
  | itself => exact hreaches
  | wrapping key inner =>
    -- The first link of the view leads to the scope that it wraps.
    rcases Relation.ReflTransGen.cases_head hreaches with hsame | ⟨link, hlink, hrest⟩
    · cases hsame
    · rw [List.mem_singleton.mp hlink] at hrest
      exact hrest

/-- An answer about a capture **answers** what was captured: there is none, or a known environment
shows it. -/
inductive Answers (known : Set Handle) : Option Handle → Option Handle → Prop
  /-- Nothing was captured. -/
  | nothing : Answers known none none
  /-- What was captured is shown. -/
  | shown {captured answer : Handle} (hshows : answer.Shows captured) (hknown : answer ∈ known) :
    Answers known (some captured) (some answer)

namespace Answers

variable {known more : Set Handle} {captured answer : Option Handle}

/-- An answer stays one when more environments are known. -/
theorem mono (h : Answers known captured answer) (hmore : known ⊆ more) :
    Answers more captured answer := by
  cases h with
  | nothing => exact .nothing
  | shown hshows hknown => exact .shown hshows (hmore hknown)

/-- A captured environment that is known answers for itself. -/
theorem of_known (h : ∀ handle ∈ captured, handle ∈ known) : Answers known captured captured := by
  cases captured with
  | none => exact .nothing
  | some handle => exact .shown (.itself handle) (h handle rfl)

/-- There is an answer exactly if something was captured. -/
theorem isSome_eq (h : Answers known captured answer) : answer.isSome = captured.isSome := by
  cases h <;> rfl

/-- The answer is known. -/
theorem mem_known (h : Answers known captured answer) : ∀ handle ∈ answer, handle ∈ known := by
  cases h with
  | nothing => simp
  | shown hshows hknown =>
    intro handle hmem
    exact Option.some.inj hmem ▸ hknown

end Answers

end Stylesheet
