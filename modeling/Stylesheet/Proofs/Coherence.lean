import Mathlib.Data.Set.Finite.Basic
import Stylesheet.Proofs.Links
import Stylesheet.Scope.Captures
import Stylesheet.Scope.Chain

/-! # What the store remembers

The store remembers roots of nested scopes and captures of views, so that asking again is cheap and
yields the very same view. What is remembered is redundant: the links of an environment, which never
change, decide it. A store is **coherent** with a set of known environments (`Store.Coherent`) if
their keys tell them apart, their links lead to known ones again, and whatever is remembered for
them is what their links say. There is one lemma for each change that keeps a store coherent, and
one for each recursion along the links (`Coherent.rootOf`, `Coherent.callerOf`,
`Coherent.contentOf`), which says what it answers whatever has been remembered. -/

namespace Stylesheet

namespace Store

/-! ## The two sides of the store -/

/-- What has been written: bindings, selectors and the ledgers of warnings. -/
def written (store : Store) :
    Std.ExtTreeMap Nat Bindings × Std.ExtTreeMap Nat SelectorList × Std.ExtTreeMap Nat Ledger :=
  (store.tables, store.selectors, store.ledgers)

/-- What is remembered: the next keys, roots and captures. -/
def remembered (store : Store) :
    (Nat × Nat) × Std.ExtTreeMap Nat Root × Std.ExtTreeMap Nat (Option View) ×
      Std.ExtTreeMap Nat (Option (ContentBlock View)) :=
  ((store.nextScope, store.nextView), store.roots, store.callers, store.contents)

/-- The key of the next environment of a kind. -/
def nextKey (store : Store) : Access → Nat
  | .writable => store.nextScope
  | .readOnly => store.nextView

/-- The store with the next key of a kind taken. -/
def withKey (store : Store) : Access → Store
  | .writable => { store with nextScope := store.nextScope + 1 }
  | .readOnly => { store with nextView := store.nextView + 1 }

/-- Taking a key of one kind leaves the keys of the other kind alone. -/
theorem nextKey_withKey (store : Store) (a b : Access) :
    (store.withKey a).nextKey b = store.nextKey b + if a = b then 1 else 0 := by
  cases a <;> cases b <;> rfl

@[simp] theorem roots_withKey (store : Store) (a : Access) :
    (store.withKey a).roots = store.roots := by
  cases a <;> rfl

@[simp] theorem callers_withKey (store : Store) (a : Access) :
    (store.withKey a).callers = store.callers := by
  cases a <;> rfl

@[simp] theorem contents_withKey (store : Store) (a : Access) :
    (store.withKey a).contents = store.contents := by
  cases a <;> rfl

/-- What is found in a memory after an entry has been made is that entry or was there before. -/
theorem eq_or_getElem?_of_insert {ν : Type} {memory : Std.ExtTreeMap Nat ν} {key other : Nat}
    {value found : ν} (h : (memory.insert key value)[other]? = some found) :
    key = other ∧ value = found ∨ memory[other]? = some found := by
  rw [Std.ExtTreeMap.getElem?_insert] at h
  split at h
  · next hkey => exact Or.inl ⟨Std.LawfulEqOrd.eq_of_compare hkey, Option.some.inj h⟩
  · exact Or.inr h

/-! ## Coherence -/

/-- A store is **coherent** with a set of known environments if keys tell these apart, links stay
among them, and what is remembered for them is what their links say. -/
structure Coherent (store : Store) (known : Set Handle) : Prop where
  /-- The keys of known environments have been taken. -/
  key_lt : ∀ handle ∈ known, handle.env.key < store.nextKey handle.access
  /-- A key stands for one known environment of its kind. -/
  eq_of_same : ∀ first ∈ known, ∀ second ∈ known, first.same second = true → first = second
  /-- Links of known environments lead to known ones. -/
  links_mem : ∀ handle ∈ known, ∀ link ∈ handle.env.links, link ∈ known
  /-- Roots are remembered for keys that have been taken. -/
  root_lt : ∀ key root, store.roots[key]? = some root → key < store.nextScope
  /-- The root that is remembered for a known scope, which is not the root, is that of its chain. -/
  root_eq : ∀ scope : Scope, scope.handle ∈ known → ∀ root,
    store.roots[scope.key]? = some root → root = scope.chainRoot ∧ scope.isRoot = false
  /-- Callers are remembered for keys that have been taken. -/
  caller_lt : ∀ key caller, store.callers[key]? = some caller → key < store.nextView
  /-- The caller that is remembered for a known view is that of the scope behind it. -/
  caller_answers : ∀ view : View, view.handle ∈ known → ∀ caller,
    store.callers[view.key]? = some caller →
      Answers known (Scope.caller? view.unwrapped) (caller.map Env.handle)
  /-- Content blocks are remembered for keys that have been taken. -/
  content_lt : ∀ key content, store.contents[key]? = some content → key < store.nextView
  /-- The content block that is remembered for a known view is that of the scope behind it. -/
  content_answers : ∀ view : View, view.handle ∈ known → ∀ content,
    store.contents[view.key]? = some content →
      Answers known ((Scope.content? view.unwrapped).map ContentBlock.environment)
          (content.map (·.environment.handle)) ∧
        content.map ContentBlock.nodes =
          (Scope.content? view.unwrapped).map ContentBlock.nodes

namespace Coherent

variable {store after : Store} {known : Set Handle}

/-- What a known environment reaches is known. -/
theorem mem_of_reaches (h : store.Coherent known) {handle target : Handle}
    (hknown : handle ∈ known) (hreaches : handle.Reaches target) : target ∈ known := by
  induction hreaches with
  | refl => exact hknown
  | tail _ hlink ih => exact h.links_mem _ ih _ hlink

/-- The scopes on the path of a known environment are known. -/
theorem mem_of_mem_path (h : store.Coherent known) {a : Access} {env : Env a}
    (hknown : env.handle ∈ known) {scope : Scope} (hmem : scope ∈ env.path) :
    scope.handle ∈ known :=
  h.mem_of_reaches hknown (Env.reaches_of_mem_path hmem)

/-- Known environments of one kind are told apart by their keys. -/
theorem eq_of_key_eq (h : store.Coherent known) {a : Access} {env other : Env a}
    (henv : env.handle ∈ known) (hother : other.handle ∈ known) (hkey : env.key = other.key) :
    env = other := by
  cases h.eq_of_same _ henv _ hother (Handle.same_iff.mpr ⟨rfl, hkey⟩)
  rfl

/-- The captured call site of a known environment is known. -/
theorem caller?_mem (h : store.Coherent known) {a : Access} {env : Env a}
    (hknown : env.handle ∈ known) : ∀ caller ∈ Scope.caller? env.unwrapped, caller ∈ known :=
  fun _ hcaller => h.mem_of_reaches hknown
    (env.reaches_unwrapped.trans (Scope.reaches_of_caller? hcaller))

/-- The environment of the captured content block of a known environment is known. -/
theorem content?_mem (h : store.Coherent known) {a : Access} {env : Env a}
    (hknown : env.handle ∈ known) :
    ∀ environment ∈ (Scope.content? env.unwrapped).map ContentBlock.environment,
      environment ∈ known := by
  intro environment hmem
  obtain ⟨block, hblock, rfl⟩ := Option.map_eq_some_iff.mp hmem
  exact h.mem_of_reaches hknown (env.reaches_unwrapped.trans (Scope.reaches_of_content? hblock))

/-- Coherence is a matter of what is remembered. -/
theorem of_remembered_eq (h : store.Coherent known) (hsame : after.remembered = store.remembered) :
    after.Coherent known := by
  obtain ⟨nextScope, nextView, tables, selectors, ledgers, roots, callers, contents⟩ := store
  obtain ⟨nextScope', nextView', tables', selectors', ledgers', roots', callers', contents'⟩ :=
    after
  simp only [remembered, Prod.mk.injEq] at hsame
  obtain ⟨⟨rfl, rfl⟩, rfl, rfl, rfl⟩ := hsame
  exact ⟨h.key_lt, h.eq_of_same, h.links_mem, h.root_lt, h.root_eq, h.caller_lt, h.caller_answers,
    h.content_lt, h.content_answers⟩

/-- The empty store is coherent. -/
theorem empty : Store.empty.Coherent ∅ := by
  constructor <;> simp [Store.empty]

/-- No known environment has the next key of its kind. -/
theorem not_same_of_nextKey (h : store.Coherent known) {handle other : Handle}
    (hkey : handle.env.key = store.nextKey handle.access) (hother : other ∈ known) :
    other.same handle = false := by
  by_contra hsame
  obtain ⟨haccess, hkeys⟩ := Handle.same_iff.mp (Bool.eq_true_of_not_eq_false hsame)
  have hlt := h.key_lt other hother
  have hnext : store.nextKey other.access = store.nextKey handle.access :=
    congrArg store.nextKey haccess
  omega

/-- A new environment takes the next key and has links to known ones. -/
theorem withKey (h : store.Coherent known) (handle : Handle)
    (hkey : handle.env.key = store.nextKey handle.access)
    (hlinks : ∀ link ∈ handle.env.links, link ∈ known) :
    (store.withKey handle.access).Coherent (known ∪ {handle}) := by
  have hmore : known ⊆ known ∪ {handle} := Set.subset_union_left
  have hnext : ∀ a, store.nextKey a ≤ (store.withKey handle.access).nextKey a := by
    intro a
    rw [nextKey_withKey]
    exact Nat.le_add_right _ _
  have hnew : ∀ other ∈ known, other.same handle = false :=
    fun other hother => h.not_same_of_nextKey hkey hother
  constructor
  · rintro other (hother | rfl)
    · exact (h.key_lt other hother).trans_le (hnext _)
    · rw [nextKey_withKey, if_pos rfl]
      exact Nat.lt_succ_of_le hkey.le
  · rintro first (hfirst | rfl) second (hsecond | rfl) hsame
    · exact h.eq_of_same first hfirst second hsecond hsame
    · rw [hnew first hfirst] at hsame
      cases hsame
    · have hback := hnew second hsecond
      rw [Handle.same_iff] at hsame
      rw [Handle.same_iff.mpr ⟨hsame.1.symm, hsame.2.symm⟩] at hback
      cases hback
    · rfl
  · rintro other (hother | rfl) link hlink
    · exact hmore (h.links_mem other hother link hlink)
    · exact hmore (hlinks link hlink)
  -- Nothing is remembered for the new key yet.
  · intro key root hroot
    rw [roots_withKey] at hroot
    exact (h.root_lt key root hroot).trans_le (hnext .writable)
  · rintro scope (hscope | rfl) root hroot
    · rw [roots_withKey] at hroot
      exact h.root_eq scope hscope root hroot
    · rw [roots_withKey] at hroot
      exact absurd (h.root_lt _ root hroot) hkey.not_lt
  · intro key caller hcaller
    rw [callers_withKey] at hcaller
    exact (h.caller_lt key caller hcaller).trans_le (hnext .readOnly)
  · rintro view (hview | rfl) caller hcaller
    · rw [callers_withKey] at hcaller
      exact (h.caller_answers view hview caller hcaller).mono hmore
    · rw [callers_withKey] at hcaller
      exact absurd (h.caller_lt _ caller hcaller) hkey.not_lt
  · intro key content hcontent
    rw [contents_withKey] at hcontent
    exact (h.content_lt key content hcontent).trans_le (hnext .readOnly)
  · rintro view (hview | rfl) content hcontent
    · rw [contents_withKey] at hcontent
      obtain ⟨hanswers, hnodes⟩ := h.content_answers view hview content hcontent
      exact ⟨hanswers.mono hmore, hnodes⟩
    · rw [contents_withKey] at hcontent
      exact absurd (h.content_lt _ content hcontent) hkey.not_lt

/-- The root of a known nested scope is remembered. -/
theorem insertRoot (h : store.Coherent known) {scope : Scope} (hscope : scope.handle ∈ known)
    (hnested : scope.isRoot = false) :
    { store with roots := store.roots.insert scope.key scope.chainRoot }.Coherent known := by
  refine ⟨h.key_lt, h.eq_of_same, h.links_mem, ?_, ?_, h.caller_lt, h.caller_answers, h.content_lt,
    h.content_answers⟩
  · intro key root hroot
    rcases eq_or_getElem?_of_insert hroot with ⟨rfl, -⟩ | hroot
    · exact h.key_lt _ hscope
    · exact h.root_lt key root hroot
  · intro other hother root hroot
    rcases eq_or_getElem?_of_insert hroot with ⟨hkey, rfl⟩ | hroot
    · -- The key stands for the scope itself.
      obtain rfl := h.eq_of_key_eq hscope hother hkey
      exact ⟨rfl, hnested⟩
    · exact h.root_eq other hother root hroot

/-- The caller of a known view is remembered. -/
theorem insertCaller (h : store.Coherent known) {view : View} (hview : view.handle ∈ known)
    {caller : Option View}
    (hanswers : Answers known (Scope.caller? view.unwrapped) (caller.map Env.handle)) :
    { store with callers := store.callers.insert view.key caller }.Coherent known := by
  refine ⟨h.key_lt, h.eq_of_same, h.links_mem, h.root_lt, h.root_eq, ?_, ?_, h.content_lt,
    h.content_answers⟩
  · intro key other hcaller
    rcases eq_or_getElem?_of_insert hcaller with ⟨rfl, -⟩ | hcaller
    · exact h.key_lt _ hview
    · exact h.caller_lt key other hcaller
  · intro other hother found hcaller
    rcases eq_or_getElem?_of_insert hcaller with ⟨hkey, rfl⟩ | hcaller
    · obtain rfl := h.eq_of_key_eq hview hother hkey
      exact hanswers
    · exact h.caller_answers other hother found hcaller

/-- The content block of a known view is remembered. -/
theorem insertContent (h : store.Coherent known) {view : View} (hview : view.handle ∈ known)
    {content : Option (ContentBlock View)}
    (hanswers : Answers known ((Scope.content? view.unwrapped).map ContentBlock.environment)
      (content.map (·.environment.handle)))
    (hnodes : content.map ContentBlock.nodes =
      (Scope.content? view.unwrapped).map ContentBlock.nodes) :
    { store with contents := store.contents.insert view.key content }.Coherent known := by
  refine ⟨h.key_lt, h.eq_of_same, h.links_mem, h.root_lt, h.root_eq, h.caller_lt,
    h.caller_answers, ?_, ?_⟩
  · intro key other hcontent
    rcases eq_or_getElem?_of_insert hcontent with ⟨rfl, -⟩ | hcontent
    · exact h.key_lt _ hview
    · exact h.content_lt key other hcontent
  · intro other hother found hcontent
    rcases eq_or_getElem?_of_insert hcontent with ⟨hkey, rfl⟩ | hcontent
    · obtain rfl := h.eq_of_key_eq hview hother hkey
      exact ⟨hanswers, hnodes⟩
    · exact h.content_answers other hother found hcontent

end Coherent

/-! ## Reading -/

/-- A **reading** leads from one store to another: nothing has been written, and what may have been
remembered is coherent with the environments that are known afterwards. -/
structure Reads (before after : Store) (known : Set Handle) : Prop where
  /-- What is remembered is coherent. -/
  coherent : after.Coherent known
  /-- Nothing has been written. -/
  written_eq : after.written = before.written

variable {store : Store} {known : Set Handle}

/-- Reading nothing. -/
theorem Coherent.reads (h : store.Coherent known) : store.Reads store known :=
  ⟨h, rfl⟩

namespace Coherent

/-- Remembering the root of a known nested scope gives this root, if what computes it does. -/
theorem rememberRoot (h : store.Coherent known) {scope : Scope} (hscope : scope.handle ∈ known)
    (hnested : scope.isRoot = false) {find : Scoping Root}
    (hroot : (find.run store).1 = scope.chainRoot)
    (hreads : store.Reads (find.run store).2 known) :
    ((Store.rememberRoot scope.key find).run store).1 = scope.chainRoot ∧
      store.Reads ((Store.rememberRoot scope.key find).run store).2 known := by
  rcases hmemory : store.roots[scope.key]? with _ | root
  · have hrun : (Store.rememberRoot scope.key find).run store =
        ((find.run store).1, { (find.run store).2 with
          roots := (find.run store).2.roots.insert scope.key (find.run store).1 }) := by
      simp only [Store.rememberRoot, StateT.run, hmemory]
      rfl
    rw [hrun, hroot]
    exact ⟨rfl, hreads.coherent.insertRoot hscope hnested, hreads.written_eq⟩
  · have hrun : (Store.rememberRoot scope.key find).run store = (root, store) := by
      simp only [Store.rememberRoot, StateT.run, hmemory]
    rw [hrun]
    exact ⟨(h.root_eq scope hscope root hmemory).1, h.reads⟩

/-- **The root of a chain** is the one that the links lead to, whatever has been remembered. -/
theorem rootOf (h : store.Coherent known) {a : Access} {env : Env a} (henv : env.handle ∈ known) :
    ((Store.rootOf env).run store).1 = env.chainRoot ∧
      store.Reads ((Store.rootOf env).run store).2 known := by
  have hlinks := h.links_mem _ henv
  induction env with
  | root key snapshot trace => exact ⟨rfl, h.reads⟩
  | nested key snapshot parent ih =>
    have hparent : parent.handle ∈ known := hlinks _ (by simp [Env.links, Env.handle])
    obtain ⟨hroot, hreads⟩ := ih hparent (h.links_mem _ hparent)
    exact h.rememberRoot henv rfl hroot hreads
  | body key parent caller ih _ =>
    have hparent : parent.handle ∈ known := hlinks _ (by simp [Env.links, Env.handle])
    obtain ⟨hroot, hreads⟩ := ih hparent (h.links_mem _ hparent)
    exact h.rememberRoot henv rfl hroot hreads
  | bodyWith key parent caller nodes content ih _ _ =>
    have hparent : parent.handle ∈ known := hlinks _ (by simp [Env.links, Env.handle])
    obtain ⟨hroot, hreads⟩ := ih hparent (h.links_mem _ hparent)
    exact h.rememberRoot henv rfl hroot hreads
  | view key snapshot inner ih =>
    have hinner : inner.handle ∈ known := hlinks _ (by simp [Env.links, Env.handle])
    exact ih hinner (h.links_mem _ hinner)

end Coherent

/-- The environments that are known once an answer has been given. -/
def withAnswer (known : Set Handle) (answer : Option Handle) : Set Handle :=
  known ∪ {handle | handle ∈ answer}

@[simp] theorem withAnswer_none : withAnswer known none = known := by
  simp [withAnswer]

@[simp] theorem withAnswer_some (handle : Handle) :
    withAnswer known (some handle) = known ∪ {handle} := by
  ext other
  simp [withAnswer, eq_comm]

/-- An answer that is known already adds nothing. -/
theorem withAnswer_of_known {answer : Option Handle} (h : ∀ handle ∈ answer, handle ∈ known) :
    withAnswer known answer = known :=
  Set.union_eq_left.mpr h

/-- An environment that is known already is no news as an answer. -/
theorem withAnswer_some_of_known {handle : Handle} (h : handle ∈ known) :
    withAnswer known (some handle) = known :=
  withAnswer_of_known fun _ hmem => Option.some.inj hmem ▸ h

/-- Viewing a handle that shows a captured environment shows it, too. -/
theorem Coherent.viewOf {captured handle : Handle} (hcaptured : captured ∈ known)
    (hshows : handle.Shows captured) (h : store.Coherent (known ∪ {handle})) :
    ((Store.viewOf handle).run store).1.handle.Shows captured ∧
      store.Reads ((Store.viewOf handle).run store).2
        (known ∪ {((Store.viewOf handle).run store).1.handle}) := by
  match handle, hshows, h with
  | @Handle.mk .readOnly view, hshows, h => exact ⟨hshows, h.reads⟩
  | @Handle.mk .writable scope, hshows, h =>
    -- A scope shows nothing but itself, and so it was known before.
    have hscope : scope.handle = captured := by
      generalize hhandle : (⟨scope⟩ : Handle) = handle at hshows
      cases hshows with
      | itself => exact hhandle
      | wrapping => cases hhandle
    subst hscope
    have hknown : known ∪ {scope.handle} = known :=
      Set.union_eq_left.mpr (Set.singleton_subset_iff.mpr hcaptured)
    have hcoherent : store.Coherent known := hknown ▸ h
    refine ⟨.wrapping store.nextView scope, ?_, rfl⟩
    refine hcoherent.withKey (Env.handle (.view store.nextView scope.snapshot scope)) rfl ?_
    intro link hlink
    rw [List.mem_singleton.mp hlink]
    exact hcaptured

/-- **Viewing** a known environment read-only changes nothing but what is remembered. -/
theorem Coherent.reads_viewOf (h : store.Coherent known) {handle : Handle}
    (hknown : handle ∈ known) :
    store.Reads ((Store.viewOf handle).run store).2
      (withAnswer known (some ((Store.viewOf handle).run store).1.handle)) := by
  have hunion : known ∪ {handle} = known :=
    Set.union_eq_left.mpr (Set.singleton_subset_iff.mpr hknown)
  rw [withAnswer_some]
  exact (Coherent.viewOf hknown (.itself handle) (hunion.symm ▸ h)).2

/-- The answer about a capture may be viewed read-only. -/
theorem Coherent.viewOf? {captured answer : Option Handle}
    (hcaptured : ∀ handle ∈ captured, handle ∈ known)
    (hanswers : Answers (withAnswer known answer) captured answer)
    (h : store.Coherent (withAnswer known answer)) :
    let run := (Store.viewOf? answer).run store
    let viewed := run.1.map Env.handle
    Answers (withAnswer known viewed) captured viewed ∧
      store.Reads run.2 (withAnswer known viewed) := by
  cases hanswers with
  | nothing => exact ⟨.nothing, h.reads⟩
  | @shown captured answer hshows hknown =>
    rw [withAnswer_some] at h
    obtain ⟨hviewed, hreads⟩ := h.viewOf (hcaptured captured rfl) hshows
    have hrun : (Store.viewOf? (some answer)).run store =
      (some ((Store.viewOf answer).run store).1, ((Store.viewOf answer).run store).2) := rfl
    simp only [hrun, Option.map_some, withAnswer_some]
    exact ⟨.shown hviewed (Set.mem_union_right known rfl), hreads⟩

/-- An answer about the captured call site of an environment, with the store after it. -/
def AnswersCaller {a : Access} (store : Store) (known : Set Handle) (env : Env a)
    (answer : Option Handle) (after : Store) : Prop :=
  Answers (withAnswer known answer) (Scope.caller? env.unwrapped) answer ∧
    store.Reads after (withAnswer known answer)

/-- An answer about the captured content block of an environment, with the store after it. -/
def AnswersContent {a : Access} (store : Store) (known : Set Handle) (env : Env a)
    (answer : Option (ContentBlock Handle)) (after : Store) : Prop :=
  let environment := answer.map ContentBlock.environment
  Answers (withAnswer known environment)
      ((Scope.content? env.unwrapped).map ContentBlock.environment) environment ∧
    answer.map ContentBlock.nodes = (Scope.content? env.unwrapped).map ContentBlock.nodes ∧
    store.Reads after (withAnswer known environment)

namespace Coherent

/-- Remembering the caller of a known view answers rightly if what finds it does. -/
theorem rememberCaller (h : store.Coherent known) {view : View} (hview : view.handle ∈ known)
    {find : Scoping (Option Handle)}
    (hfind : store.AnswersCaller known view (find.run store).1 (find.run store).2) :
    let run := (Store.rememberCaller view.key find).run store
    store.AnswersCaller known view (run.1.map Env.handle) run.2 := by
  rcases hmemory : store.callers[view.key]? with _ | caller
  · -- What has been found is viewed and then remembered.
    obtain ⟨hanswers, hreads⟩ := hfind
    let viewed := (Store.viewOf? (find.run store).1).run (find.run store).2
    have hrun : (Store.rememberCaller view.key find).run store =
        (viewed.1, { viewed.2 with callers := viewed.2.callers.insert view.key viewed.1 }) :=
      run_rememberCaller_of_none hmemory
    have hcaptured := h.caller?_mem hview
    obtain ⟨hviewed, hreads'⟩ := hreads.coherent.viewOf? hcaptured hanswers
    have hview' : view.handle ∈ withAnswer known (viewed.1.map Env.handle) :=
      Set.mem_union_left _ hview
    rw [hrun]
    exact ⟨hviewed, hreads'.coherent.insertCaller hview' hviewed,
      hreads'.written_eq.trans hreads.written_eq⟩
  · have hanswers := h.caller_answers view hview caller hmemory
    rw [run_rememberCaller_of_some hmemory]
    show Answers (withAnswer known (caller.map Env.handle)) _ _ ∧
      store.Reads store (withAnswer known (caller.map Env.handle))
    rw [withAnswer_of_known hanswers.mem_known]
    exact ⟨hanswers, h.reads⟩

/-- Viewing the environment of a content block read-only keeps the pieces of the block. -/
theorem run_viewOfBlock? (block : Option (ContentBlock Handle)) (store : Store) :
    let run := (Store.viewOfBlock? block).run store
    let viewed := (Store.viewOf? (block.map ContentBlock.environment)).run store
    run.2 = viewed.2 ∧ run.1.map ContentBlock.environment = viewed.1 ∧
      run.1.map ContentBlock.nodes = block.map ContentBlock.nodes := by
  cases block <;> exact ⟨rfl, rfl, rfl⟩

/-- Remembering the content block of a known view answers rightly if what finds it does. -/
theorem rememberContent (h : store.Coherent known) {view : View} (hview : view.handle ∈ known)
    {find : Scoping (Option (ContentBlock Handle))}
    (hfind : store.AnswersContent known view (find.run store).1 (find.run store).2) :
    let run := (Store.rememberContent view.key find).run store
    store.AnswersContent known view (run.1.map (ContentBlock.map Env.handle)) run.2 := by
  rcases hmemory : store.contents[view.key]? with _ | content
  · -- The environment of what has been found is viewed, and the block is remembered.
    obtain ⟨hanswers, hnodes, hreads⟩ := hfind
    let viewed := (Store.viewOfBlock? (find.run store).1).run (find.run store).2
    have hrun : (Store.rememberContent view.key find).run store =
        (viewed.1, { viewed.2 with contents := viewed.2.contents.insert view.key viewed.1 }) :=
      run_rememberContent_of_none hmemory
    have hcaptured := h.content?_mem hview
    obtain ⟨hviewed, hreads'⟩ := hreads.coherent.viewOf? hcaptured hanswers
    obtain ⟨hafter, henvironment, hviewed_nodes⟩ := run_viewOfBlock? (find.run store).1
      (find.run store).2
    have hmap : (viewed.1.map (ContentBlock.map Env.handle)).map ContentBlock.environment =
        viewed.1.map (·.environment.handle) := Option.map_map _ _ _
    have hsame : viewed.1.map (·.environment.handle) =
        ((Store.viewOf? ((find.run store).1.map ContentBlock.environment)).run
          (find.run store).2).1.map Env.handle := by
      rw [← henvironment, Option.map_map]
      rfl
    have hview' : view.handle ∈ withAnswer known (viewed.1.map (·.environment.handle)) :=
      Set.mem_union_left _ hview
    rw [← hsame, ← hafter] at hreads'
    rw [← hsame] at hviewed
    rw [hrun, AnswersContent, hmap]
    refine ⟨hviewed, ?_, ?_, hreads'.written_eq.trans hreads.written_eq⟩
    · rw [← hnodes, ← hviewed_nodes, Option.map_map]
      rfl
    · exact hreads'.coherent.insertContent hview' hviewed (hviewed_nodes.trans hnodes)
  · obtain ⟨hanswers, hnodes⟩ := h.content_answers view hview content hmemory
    have hmap : (content.map (ContentBlock.map Env.handle)).map ContentBlock.environment =
        content.map (·.environment.handle) := Option.map_map _ _ _
    rw [run_rememberContent_of_some hmemory, AnswersContent, hmap,
      withAnswer_of_known hanswers.mem_known]
    refine ⟨hanswers, ?_, h.reads⟩
    rw [← hnodes, Option.map_map]
    rfl

/-- **The call site** that is answered for an environment shows the one that the scope behind it has
captured. -/
theorem callerOf (h : store.Coherent known) {a : Access} {env : Env a}
    (henv : env.handle ∈ known) :
    let run := (Store.callerOf env).run store
    store.AnswersCaller known env (run.1.map Captured.handle) run.2 := by
  -- A scope answers with what was captured, which is known already.
  have hscope : ∀ scope : Scope, scope.handle ∈ known → scope.unwrapped = scope →
      store.AnswersCaller known scope (scope.caller?.map (@Captured.handle .writable)) store := by
    intro scope hknown hunwrapped
    have hcaptured := h.caller?_mem hknown
    have hmap : scope.caller?.map (@Captured.handle .writable) = scope.caller? :=
      Option.map_id'
    rw [hunwrapped] at hcaptured
    rw [hmap, AnswersCaller, withAnswer_of_known hcaptured, hunwrapped]
    exact ⟨.of_known hcaptured, h.reads⟩
  induction env with
  | view key snapshot inner ih =>
    have hinner : inner.handle ∈ known := h.links_mem _ henv _ (List.mem_singleton_self _)
    exact h.rememberCaller henv (ih hinner)
  | root => exact hscope _ henv rfl
  | nested => exact hscope _ henv rfl
  | body => exact hscope _ henv rfl
  | bodyWith => exact hscope _ henv rfl

/-- **The content block** that is answered for an environment has the pieces of the one that the
scope behind it has captured, and its environment shows the one captured. -/
theorem contentOf (h : store.Coherent known) {a : Access} {env : Env a}
    (henv : env.handle ∈ known) :
    let run := (Store.contentOf env).run store
    store.AnswersContent known env (run.1.map (ContentBlock.map Captured.handle)) run.2 := by
  have hscope : ∀ scope : Scope, scope.handle ∈ known → scope.unwrapped = scope →
      store.AnswersContent known scope
        (scope.content?.map (ContentBlock.map (@Captured.handle .writable))) store := by
    intro scope hknown hunwrapped
    have hcaptured := h.content?_mem hknown
    have hmap : scope.content?.map (ContentBlock.map (@Captured.handle .writable)) =
        scope.content? := Option.map_id'
    rw [hunwrapped] at hcaptured
    rw [hmap, AnswersContent, withAnswer_of_known hcaptured, hunwrapped]
    exact ⟨.of_known hcaptured, rfl, h.reads⟩
  induction env with
  | view key snapshot inner ih =>
    have hinner : inner.handle ∈ known := h.links_mem _ henv _ (List.mem_singleton_self _)
    exact h.rememberContent henv (ih hinner)
  | root => exact hscope _ henv rfl
  | nested => exact hscope _ henv rfl
  | body => exact hscope _ henv rfl
  | bodyWith => exact hscope _ henv rfl

end Coherent

end Store

end Stylesheet
