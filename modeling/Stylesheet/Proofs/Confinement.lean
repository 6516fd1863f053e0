import Stylesheet.Proofs.Declarations
import Stylesheet.Proofs.Effects

/-! # What the holder of a view can change

Views have no operation that writes. So whoever holds nothing but a view can change what has been
written only through scopes that come into their hands on the way. Captured call sites and content
blocks do not: they are viewed in their turn. But some answers do **grant** a scope: a view hands out
the root of its chain as it is, as well as what it wraps, and a callable that is found names the
scope that declares it. `Run.holder_is_confined` says that this is all. Beyond the scopes that a
holder has made, only those can be changed that are granted, or that a granted scope **opens**
(`Handle.Opens`). -/

namespace Stylesheet

/-! ## What a scope opens -/

/-- One handle **opens** another if links lead from one to the other and no view is seen through on
the way. -/
def Handle.Opens : Handle → Handle → Prop :=
  Relation.ReflTransGen fun source target =>
    source.access = .writable ∧ target ∈ source.env.links

namespace Handle.Opens

/-- Every handle opens itself. -/
theorem refl (handle : Handle) : handle.Opens handle :=
  Relation.ReflTransGen.refl

/-- A scope opens what its links open. -/
theorem of_link {scope : Scope} {link target : Handle} (hlink : link ∈ scope.links)
    (h : link.Opens target) : scope.handle.Opens target :=
  Relation.ReflTransGen.head ⟨rfl, hlink⟩ h

/-- What is opened in two stretches is opened. -/
theorem trans {first second third : Handle} (h : first.Opens second) (h' : second.Opens third) :
    first.Opens third :=
  Relation.ReflTransGen.trans h h'

/-- A view opens no scope. -/
theorem not_of_view {view : View} {scope : Scope} : ¬ view.handle.Opens scope.handle := by
  intro h
  rcases Relation.ReflTransGen.cases_head h with hsame | ⟨link, ⟨haccess, -⟩, -⟩
  · cases hsame
  · cases haccess

/-- A scope opens itself and what its links open. -/
theorem cases_scope {scope : Scope} {target : Handle} (h : scope.handle.Opens target) :
    target = scope.handle ∨ ∃ link ∈ scope.links, link.Opens target := by
  rcases Relation.ReflTransGen.cases_head h with hsame | ⟨link, ⟨-, hlink⟩, hrest⟩
  · exact .inl hsame.symm
  · exact .inr ⟨link, hlink, hrest⟩

end Handle.Opens

namespace Scope

/-- The enclosing scope is one of the links of a scope. -/
theorem mem_links_of_parent? {scope outer : Scope} (h : scope.parent? = some outer) :
    outer.handle ∈ scope.links := by
  cases scope <;> cases h <;> exact List.mem_cons_self

/-- A scope opens every scope of its path. -/
theorem opens_of_mem_path {scope target : Scope} (h : target ∈ scope.path) :
    scope.handle.Opens target.handle := by
  -- The path goes on with that of the enclosing scope, which is smaller.
  induction hsize : scope.size using Nat.strongRecOn generalizing scope with
  | ind size ih =>
    rw [path_eq] at h
    rcases List.mem_cons.mp h with rfl | h
    · exact .refl _
    rcases hparent : scope.parent? with _ | outer
    · simp [hparent] at h
    · rw [hparent] at h
      have hlink := mem_links_of_parent? hparent
      have hlt : outer.size < scope.size := Handle.size_lt_of_mem_links scope.handle hlink
      exact .of_link hlink (ih outer.size (hsize ▸ hlt) h rfl)

/-- A scope opens the call site of the nearest body around it. -/
theorem opens_of_caller? {scope : Scope} {caller : Handle} (h : scope.caller? = some caller) :
    scope.handle.Opens caller := by
  obtain ⟨inner, hmem, hown⟩ := List.exists_of_findSome?_eq_some h
  exact (opens_of_mem_path hmem).trans (.of_link (mem_links_of_ownCaller? hown) (.refl _))

/-- A scope opens the environment of the content block of the nearest body around it. -/
theorem opens_of_content? {scope : Scope} {block : ContentBlock Handle}
    (h : scope.content? = some block) : scope.handle.Opens block.environment := by
  obtain ⟨inner, hmem, hown⟩ := List.exists_of_findSome?_eq_some h
  exact (opens_of_mem_path hmem).trans (.of_link (mem_links_of_ownContent? hown) (.refl _))

end Scope

/-! ## Holders -/

/-- The scopes that an action **grants**: the root that a view is asked for. -/
def Action.grants : Action → Set Scope
  | rootOf (@Handle.mk .readOnly inner) => {inner.chainRoot.scope}
  | _ => ∅

/-- **What a holder may come to** who starts from nothing but a view: the forest then, the handles in
the holder's hands, and the scopes that have been granted. -/
inductive Holds (begin : Forest) (view : View) : Forest → Set Handle → Set Scope → Prop
  /-- At first there is the view. -/
  | start : Holds begin view begin {view.handle} ∅
  /-- Any action may be carried out with the handles in hand, and its answer comes to hand. -/
  | act {forest : Forest} {hands : Set Handle} {granted : Set Scope}
    (h : Holds begin view forest hands granted) (action : Action)
    (huses : ∀ handle ∈ action.uses, handle ∈ hands) :
    Holds begin view (forest.after action)
      (Store.withAnswer hands (action.perform.run forest.store).1) (granted ∪ action.grants)
  /-- A scope tells the scope that encloses it. -/
  | enclosing {forest : Forest} {hands : Set Handle} {granted : Set Scope}
    (h : Holds begin view forest hands granted) {scope outer : Scope}
    (hscope : scope.handle ∈ hands) (houter : scope.parent? = some outer) :
    Holds begin view forest (hands ∪ {outer.handle}) granted
  /-- A view tells what it wraps, and a scope is granted in this way. -/
  | wrapped {forest : Forest} {hands : Set Handle} {granted : Set Scope}
    (h : Holds begin view forest hands granted) {inner : View} (hinner : inner.handle ∈ hands) :
    Holds begin view forest (hands ∪ {inner.inner})
      (granted ∪ {scope | scope.handle = inner.inner})
  /-- A callable that is found grants the scope that declares it. -/
  | declaring {forest : Forest} {hands : Set Handle} {granted : Set Scope}
    (h : Holds begin view forest hands granted) {handle : Handle} (hmem : handle ∈ hands)
    {ns : Namespace} {name : String} {value : ns.Bound} {callable : Callable}
    (hget : forest.store.get? handle.env ns name = some value)
    (hcallable : ns.callable? value = some callable)
    (hknown : callable.scope.handle ∈ forest.known) :
    Holds begin view forest (hands ∪ {callable.scope.handle}) (granted ∪ {callable.scope})

/-- A handle opens **nothing but** scopes that are new since `begin`, or that granted ones open. -/
def OpensOnly (begin : Forest) (granted : Set Scope) (handle : Handle) : Prop :=
  ∀ scope : Scope, handle.Opens scope.handle →
    begin.store.nextScope ≤ scope.key ∨ ∃ grant ∈ granted, grant.handle.Opens scope.handle

namespace OpensOnly

variable {begin : Forest} {granted more : Set Scope} {handle other : Handle}

/-- With more granted there is no less that may be opened. -/
theorem mono (h : OpensOnly begin granted handle) (hmore : granted ⊆ more) :
    OpensOnly begin more handle := by
  intro scope hopens
  rcases h scope hopens with hnew | ⟨grant, hgrant, hgranted⟩
  · exact .inl hnew
  · exact .inr ⟨grant, hmore hgrant, hgranted⟩

/-- What a handle opens does not open more than the handle. -/
theorem of_opens (h : OpensOnly begin granted handle) (hopens : handle.Opens other) :
    OpensOnly begin granted other :=
  fun scope hother => h scope (hopens.trans hother)

/-- A view opens no scope. -/
theorem view (view : View) : OpensOnly begin granted view.handle :=
  fun _ hopens => absurd hopens Handle.Opens.not_of_view

/-- What a granted scope opens, it opens. -/
theorem grant {scope : Scope} (h : scope ∈ granted) : OpensOnly begin granted scope.handle :=
  fun _ hopens => .inr ⟨scope, h, hopens⟩

/-- A new scope opens nothing else if its links do not. -/
theorem made {scope : Scope} (hnew : begin.store.nextScope ≤ scope.key)
    (hlinks : ∀ link ∈ scope.links, OpensOnly begin granted link) :
    OpensOnly begin granted scope.handle := by
  intro target hopens
  rcases hopens.cases_scope with hsame | ⟨link, hlink, hrest⟩
  · cases hsame
    exact .inl hnew
  · exact hlinks link hlink target hrest

/-- The call site that a handle answers with opens no more than the handle. -/
theorem callerOf {store : Store} (h : OpensOnly begin granted handle)
    (hanswer : other ∈ ((Action.callerOf handle).perform.run store).1) :
    OpensOnly begin granted other := by
  obtain @⟨access, env⟩ := handle
  cases access with
  | readOnly =>
    obtain ⟨caller, -, rfl⟩ := Option.map_eq_some_iff.mp hanswer
    exact .view _
  | writable =>
    obtain ⟨caller, hcaller, rfl⟩ := Option.map_eq_some_iff.mp hanswer
    have hcaptured : Scope.caller? env = some caller :=
      (congrArg Prod.fst (Store.run_callerOf env store)).symm.trans hcaller
    exact h.of_opens (Scope.opens_of_caller? hcaptured)

/-- The environment of the content block that a handle answers with opens no more than the
handle. -/
theorem contentOf {store : Store} (h : OpensOnly begin granted handle)
    (hanswer : other ∈ ((Action.contentOf handle).perform.run store).1) :
    OpensOnly begin granted other := by
  obtain ⟨shown, hshown, rfl⟩ := Option.map_eq_some_iff.mp hanswer
  obtain @⟨access, env⟩ := handle
  cases access with
  | readOnly =>
    obtain ⟨block, -, rfl⟩ := Option.map_eq_some_iff.mp hshown
    exact .view _
  | writable =>
    obtain ⟨block, hblock, rfl⟩ := Option.map_eq_some_iff.mp hshown
    have hcaptured : Scope.content? env = some block :=
      (congrArg Prod.fst (Store.run_contentOf env store)).symm.trans hblock
    exact h.of_opens (Scope.opens_of_content? hcaptured)

/-- The root that a scope answers with is opened by the scope, the one that a view answers with is
granted. -/
theorem rootOf {store : Store} {known : Set Handle} (hcoherent : store.Coherent known)
    (hknown : handle ∈ known) (h : OpensOnly begin granted handle)
    (hanswer : other ∈ ((Action.rootOf handle).perform.run store).1) :
    OpensOnly begin (granted ∪ (Action.rootOf handle).grants) other := by
  have hroot := (hcoherent.rootOf hknown).1
  have hsame : some ((Store.rootOf handle.env).run store).1.scope.handle = some other := hanswer
  cases hsame
  obtain @⟨access, env⟩ := handle
  rw [hroot]
  cases access with
  | readOnly => exact .grant (.inr rfl)
  | writable =>
    exact (h.of_opens (Scope.opens_of_mem_path (Scope.chainRoot_mem_path env))).mono
      Set.subset_union_left

end OpensOnly

/-- An action that makes a scope hands it out, with the next key and with links to what the action
uses. -/
theorem Action.links_of_makesScope {action : Action} (h : action.makesScope = true)
    (store : Store) : ∃ made : Scope, (action.perform.run store).1 = some made.handle ∧
      made.key = store.nextScope ∧ ∀ link ∈ made.links, link ∈ action.uses := by
  cases action with
  | root => exact ⟨_, rfl, rfl, nofun⟩
  | nested | rule => exact ⟨_, rfl, rfl, fun _ hlink => hlink⟩
  | body declaring caller content =>
    cases content <;> exact ⟨_, rfl, rfl, fun _ hlink => hlink⟩
  | _ => cases h

/-- **An answer opens no more** than what the action was carried out with, unless it is granted. -/
theorem Store.Coherent.opensOnly_answer {store : Store} {known : Set Handle}
    (h : store.Coherent known) {begin : Forest} (hlater : begin.store.nextScope ≤ store.nextScope)
    {granted : Set Scope} {action : Action} (hknown : ∀ handle ∈ action.uses, handle ∈ known)
    (huses : ∀ handle ∈ action.uses, OpensOnly begin granted handle) :
    ∀ answer ∈ (action.perform.run store).1, OpensOnly begin (granted ∪ action.grants) answer := by
  intro answer hanswer
  by_cases hmakes : action.makesScope = true
  · obtain ⟨made, hmade, hkey, hlinks⟩ := action.links_of_makesScope hmakes store
    obtain rfl : made.handle = answer := Option.some.inj (hmade.symm.trans hanswer)
    refine .made (hkey ▸ hlater) fun link hlink => ?_
    exact (huses link (hlinks link hlink)).mono Set.subset_union_left
  cases action with
  | root | nested | rule | body => exact absurd rfl hmakes
  | view inner snapshot =>
    cases hanswer
    exact .view _
  | viewOf handle =>
    cases hanswer
    exact .view _
  | rootOf handle =>
    exact (huses _ (List.mem_singleton_self _)).rootOf h (hknown handle (List.mem_singleton_self _))
      hanswer
  | callerOf handle =>
    exact ((huses _ (List.mem_singleton_self _)).callerOf hanswer).mono Set.subset_union_left
  | contentOf handle =>
    exact ((huses _ (List.mem_singleton_self _)).contentOf hanswer).mono Set.subset_union_left
  | write | select | warnAssignment | warnFalseResult | drop => cases hanswer
  | hold handle =>
    cases hanswer
    exact (huses _ (List.mem_singleton_self _)).mono Set.subset_union_left

/-- **What a holder leaves alone**, and what it is due to. -/
structure Confined (begin forest : Forest) (hands : Set Handle) (granted : Set Scope) : Prop where
  /-- What the holder has is known. -/
  known : ∀ handle ∈ hands, handle ∈ forest.known
  /-- Keys are taken one after the other. -/
  nextScope_le : begin.store.nextScope ≤ forest.store.nextScope
  /-- What is in hand opens only new scopes and what granted ones open. -/
  opensOnly : ∀ handle ∈ hands, OpensOnly begin granted handle
  /-- Nothing has been written about any other scope. -/
  writtenAt_eq : ∀ scope : Scope, scope.handle ∈ begin.known →
    (∀ grant ∈ granted, ¬ grant.handle.Opens scope.handle) →
      forest.store.writtenAt scope.key = begin.store.writtenAt scope.key

namespace Confined

variable {begin forest : Forest} {hands : Set Handle} {granted : Set Scope}

/-- With one more handle in hand, known and opening no more than may be, nothing is written. -/
theorem takes (h : Confined begin forest hands granted) {handle : Handle} (more : Set Scope)
    (hknown : handle ∈ forest.known) (hopens : OpensOnly begin (granted ∪ more) handle) :
    Confined begin forest (hands ∪ {handle}) (granted ∪ more) := by
  refine ⟨?_, h.nextScope_le, ?_, ?_⟩
  · rintro other (hmem | rfl)
    · exact h.known other hmem
    · exact hknown
  · rintro other (hmem | rfl)
    · exact (h.opensOnly other hmem).mono Set.subset_union_left
    · exact hopens
  · intro scope hscope hclosed
    exact h.writtenAt_eq scope hscope fun grant hgrant => hclosed grant (.inl hgrant)

/-- **An action of the holder** keeps the rest as it was. -/
theorem act {actions : List Action} (hrun : Run actions forest)
    (hsubset : begin.known ⊆ forest.known) (hbegin : begin.store.Coherent begin.known)
    (h : Confined begin forest hands granted) {action : Action}
    (huses : ∀ handle ∈ action.uses, handle ∈ hands) :
    Confined begin (forest.after action)
      (Store.withAnswer hands (action.perform.run forest.store).1) (granted ∪ action.grants) := by
  have hknown : ∀ handle ∈ action.uses, handle ∈ forest.known :=
    fun handle hmem => h.known handle (huses handle hmem)
  have hanswer := hrun.coherent.opensOnly_answer h.nextScope_le hknown fun handle hmem =>
    h.opensOnly handle (huses handle hmem)
  refine ⟨?_, ?_, ?_, ?_⟩
  · rintro handle (hmem | hmem)
    · exact .inl (h.known handle hmem)
    · exact .inr hmem
  · show begin.store.nextScope ≤ (action.perform.run forest.store).2.nextScope
    rw [Store.nextScope_perform]
    exact Nat.le_add_right_of_le h.nextScope_le
  · rintro handle (hmem | hmem)
    · exact (h.opensOnly handle hmem).mono Set.subset_union_left
    · exact hanswer handle hmem
  · intro scope hscope hclosed
    have hlt : scope.key < begin.store.nextScope := hbegin.key_lt _ hscope
    rw [← h.writtenAt_eq scope hscope fun grant hgrant => hclosed grant (.inl hgrant)]
    refine hrun.coherent.writtenAt_perform hknown (fun _ => ?_) ?_
    · have hle := h.nextScope_le
      omega
    · -- What is written to is new or opened by a granted scope, and the scope is neither.
      intro through hthrough target htarget hkey
      have hmem := huses _ (Action.mem_uses_of_writesThrough? hthrough)
      have htargetKnown := hrun.known_of_writesThrough? hknown hthrough htarget
      rcases h.opensOnly _ hmem target (Scope.opens_of_mem_path htarget) with
        hnew | ⟨grant, hgrant, hopens⟩
      · omega
      · obtain rfl := hrun.coherent.eq_of_key_eq htargetKnown (hsubset hscope) hkey
        exact hclosed grant (.inl hgrant) hopens

end Confined

namespace Run

variable {actions : List Action} {begin forest : Forest} {view : View} {hands : Set Handle}
  {granted : Set Scope}

/-- Whatever a holder does is part of a run, and the holder is confined in it. -/
theorem exists_run_of_holds (h : Run actions begin) (hview : view.handle ∈ begin.known)
    (hholds : Holds begin view forest hands granted) :
    ∃ later, Run (later ++ actions) forest ∧ Confined begin forest hands granted := by
  induction hholds with
  | start =>
    refine ⟨[], h, ?_, Nat.le_refl _, ?_, fun _ _ _ => rfl⟩
    · rintro handle rfl
      exact hview
    · rintro handle rfl
      exact .view _
  | act _ action huses ih =>
    obtain ⟨later, hrun, hconfined⟩ := ih
    refine ⟨action :: later, hrun.act action fun handle hmem =>
      hconfined.known handle (huses handle hmem), ?_⟩
    exact hconfined.act hrun (h.known_subset hrun) h.coherent huses
  | enclosing _ hscope houter ih =>
    obtain ⟨later, hrun, hconfined⟩ := ih
    have hlink := Scope.mem_links_of_parent? houter
    have hopens := (hconfined.opensOnly _ hscope).of_opens (.of_link hlink (.refl _))
    have htakes := hconfined.takes ∅
      (hrun.coherent.links_mem _ (hconfined.known _ hscope) _ hlink) (by rwa [Set.union_empty])
    rw [Set.union_empty] at htakes
    exact ⟨later, hrun, htakes⟩
  | @wrapped forest hands granted _ inner hinner ih =>
    obtain ⟨later, hrun, hconfined⟩ := ih
    refine ⟨later, hrun, hconfined.takes _ ?_ ?_⟩
    · have hknown := hconfined.known _ hinner
      cases inner with
      | view => exact hrun.coherent.links_mem _ hknown _ (List.mem_singleton_self _)
    · rcases hwrapped : inner.inner with @⟨access, env⟩
      cases access with
      | readOnly => exact .view env
      | writable => exact .grant (.inr rfl)
  | declaring _ _ _ _ hknown ih =>
    obtain ⟨later, hrun, hconfined⟩ := ih
    exact ⟨later, hrun, hconfined.takes _ hknown (.grant (.inr rfl))⟩

/-- **A holder is confined to what is granted.** Take a moment of a run and a view that is known then.
Whatever somebody comes to do who starts from the view alone, with captured call sites, content
blocks, enclosing scopes and roots as they come to hand, and with new scopes and views made of these:
of every scope that there was at that moment the bindings, the selector and the ledger are kept,
unless a scope that was granted opens it. Only three answers grant a scope: the root that a view is
asked for, what a view wraps, and the scope that declares a callable that is found. So as long as
views are asked for nothing but roots, only these roots can be changed. -/
theorem holder_is_confined (h : Run actions begin) (hview : view.handle ∈ begin.known)
    (hholds : Holds begin view forest hands granted) :
    (∀ scope : Scope, scope.handle ∈ begin.known →
      (∀ grant ∈ granted, ¬ grant.handle.Opens scope.handle) →
        forest.store.writtenAt scope.key = begin.store.writtenAt scope.key) ∧
    ((∀ grant ∈ granted, grant.isRoot = true) →
      ∀ scope : Scope, scope.handle ∈ begin.known → scope ∉ granted →
        forest.store.writtenAt scope.key = begin.store.writtenAt scope.key) := by
  obtain ⟨later, hrun, hconfined⟩ := h.exists_run_of_holds hview hholds
  refine ⟨hconfined.writtenAt_eq, fun hroots scope hscope hnot => ?_⟩
  refine hconfined.writtenAt_eq scope hscope fun grant hgrant hopens => ?_
  -- A root has no links, so it opens itself only.
  rcases hopens.cases_scope with hsame | ⟨link, hlink, -⟩
  · cases hsame
    exact hnot hgrant
  · have hroot := hroots grant hgrant
    cases grant with
    | root => cases hlink
    | nested | body | bodyWith => cases hroot

/-- In the sample, the holder of the view asks for the root and binds a name there. -/
def holderActions : List Action :=
  [.write .here sampleRoot .var "width" .null, .rootOf sampleView.handle]

/-- The holder comes to this. -/
theorem holds_holderActions :
    ∃ hands, Holds (.ofActions sampleActions) sampleView
      (.ofActions (holderActions ++ sampleActions)) hands {sampleRoot} := by
  have hstart : Holds (.ofActions sampleActions) sampleView (.ofActions sampleActions)
      {sampleView.handle} ∅ := .start
  have hroot := hstart.act (.rootOf sampleView.handle) fun _ hmem => List.mem_singleton.mp hmem
  have hwrite := hroot.act (.write .here sampleRoot .var "width" .null) fun _ hmem =>
    .inr ((List.mem_singleton.mp hmem) ▸ rfl)
  have hgranted : ∅ ∪ (Action.rootOf sampleView.handle).grants ∪
      (Action.write .here sampleRoot .var "width" .null).grants = {sampleRoot} := by
    rw [show (Action.write .here sampleRoot .var "width" .null).grants = ∅ from rfl,
      Set.empty_union, Set.union_empty]
    rfl
  exact ⟨_, hgranted ▸ hwrite⟩

/-- **A view lets its holder write**: what the holder has bound on the root is found afterwards, also
through the view, where nothing was found before. -/
theorem holderActions_write :
    ∃ hands, Holds (.ofActions sampleActions) sampleView
        (.ofActions (holderActions ++ sampleActions)) hands {sampleRoot} ∧
      (Forest.ofActions sampleActions).store.get? sampleView .var "width" = none ∧
      (Forest.ofActions (holderActions ++ sampleActions)).store.get? sampleView .var "width" =
        some .null ∧
      (Forest.ofActions (holderActions ++ sampleActions)).store.writtenAt sampleRoot.key ≠
        (Forest.ofActions sampleActions).store.writtenAt sampleRoot.key := by
  obtain ⟨hands, hholds⟩ := holds_holderActions
  refine ⟨hands, hholds, rfl, rfl, fun hsame => ?_⟩
  have htables := congrArg (fun written => written.1.isSome) hsame
  have hbefore : (Forest.ofActions sampleActions).store.tables[sampleRoot.key]?.isSome = false :=
    rfl
  have hafter : (Forest.ofActions (holderActions ++ sampleActions)).store.tables[
      sampleRoot.key]?.isSome = true := rfl
  exact Bool.false_ne_true (hbefore.symm.trans (htables.symm.trans hafter))

/-- The nested scope of the sample, which the view shows as well, is left alone. -/
theorem holderActions_spare_nested :
    ∃ hands, Holds (.ofActions sampleActions) sampleView
        (.ofActions (holderActions ++ sampleActions)) hands {sampleRoot} ∧
      (Forest.ofActions (holderActions ++ sampleActions)).store.writtenAt sampleNested.key =
        (Forest.ofActions sampleActions).store.writtenAt sampleNested.key := by
  obtain ⟨hands, hholds⟩ := holds_holderActions
  refine ⟨hands, hholds, ?_⟩
  refine (holder_is_confined run_sampleActions (known_sample _ (by simp)) hholds).2 ?_
    sampleNested (known_sample _ (by simp)) ?_
  · rintro grant rfl
    rfl
  · exact nofun

end Run

end Stylesheet
