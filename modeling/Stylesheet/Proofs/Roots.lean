import Stylesheet.Proofs.Effects
import Stylesheet.Proofs.Globals
import Stylesheet.Proofs.Invocations

/-! # One root for each chain

The root of an environment is found in several ways: by asking scope after scope, each of which
remembers the answer, by walking the enclosing scopes, or through the views around a scope. All of
them lead to the one scope on the path that has no enclosing one (`Run.one_root_per_chain`). The
scope of a body lies on the chain of the declaring scope, whatever chains its call site and its
content block are on. So what the body declares globally, what it is warned about and the trace it
works on are those of the declaring chain. -/

namespace Stylesheet

open Diagnostic

/-! ## Chains of enclosing scopes -/

/-- A list of scopes is the **chain** from a scope to a root. -/
structure Scope.ChainTo (scope root : Scope) (chain : List Scope) : Prop where
  /-- The chain begins with the scope. -/
  head : chain.head? = some scope
  /-- Every scope is followed by the enclosing one. -/
  linked : chain.IsChain fun inner outer => inner.parent? = some outer
  /-- The chain ends with the root. -/
  last : chain.getLast? = some root
  /-- The root is the only scope of the chain without an enclosing one. -/
  only : ∀ other ∈ chain, other.parent? = none ↔ other = root

namespace Env

/-- A path begins with the scope behind the environment. -/
theorem head?_path {a : Access} (env : Env a) : env.path.head? = some env.unwrapped := by
  rw [← path_unwrapped, Scope.path_eq, List.head?_cons]

/-- A chain is continued inward by a scope that is nested in its first one. -/
theorem isChain_cons_path {scope parent : Scope} (hparent : scope.parent? = some parent)
    (h : parent.path.IsChain fun inner outer => inner.parent? = some outer) :
    (scope :: parent.path).IsChain fun inner outer => inner.parent? = some outer := by
  rw [Scope.path_eq] at h ⊢
  exact .cons_cons hparent h

/-- Every scope of a path is followed by the enclosing one. -/
theorem isChain_path {a : Access} (env : Env a) :
    env.path.IsChain fun inner outer => inner.parent? = some outer := by
  induction env with
  | root => exact .singleton _
  | view _ _ _ ih => exact ih
  | nested _ _ _ ih => exact isChain_cons_path rfl ih
  | body _ _ _ ih _ => exact isChain_cons_path rfl ih
  | bodyWith _ _ _ _ _ ih _ _ => exact isChain_cons_path rfl ih

/-- **The path** of an environment is the chain from the scope behind it to its root. -/
theorem chainTo_chainRoot {a : Access} (env : Env a) :
    env.unwrapped.ChainTo env.chainRoot.scope env.path := by
  refine ⟨env.head?_path, env.isChain_path, ?_, fun other hmem => ⟨fun hparent => ?_, ?_⟩⟩
  · rw [← path_unwrapped, Scope.getLast?_path, chainRoot_unwrapped]
  · rw [← path_unwrapped] at hmem
    rw [← chainRoot_unwrapped]
    exact Scope.eq_chainRoot_of_mem_path hmem (Option.isNone_iff_eq_none.mpr hparent)
  · rintro rfl
    rfl

/-- What is inside a scope is in the chain of the enclosing one. -/
theorem chainRoot_of_parent? {a : Access} {env : Env a} {scope parent : Scope}
    (hparent : scope.parent? = some parent) (hinside : scope ∈ env.path) :
    env.chainRoot = parent.chainRoot := by
  have hmem : parent ∈ scope.path := by
    rw [Scope.path_eq, hparent]
    exact List.mem_cons_of_mem _ parent.mem_path
  rw [← Scope.chainRoot_of_mem_path hinside, ← Scope.chainRoot_of_mem_path hmem]

end Env

/-! ## What goes to the root -/

namespace Store

/-- What a scope declares globally and what it is warned about **goes to a root**. -/
structure GoesTo (store : Store) (scope : Scope) (root : Root) : Prop where
  /-- A name that the scope declares globally is bound by the root, and nothing is written about any
  other scope. -/
  declares : ∀ (ns : Namespace) (name : String) (value : ns.Bound),
    let after := ((declareAtRoot scope ns name value).run store).2
    after.own? ns (Name.normalize name) root.scope = some value ∧
      ∀ key, key ≠ root.key → after.writtenAt key = store.writtenAt key
  /-- A warning is the first one if the ledger of the root does not hold it. It does afterwards, and
  nothing is written about any other scope. -/
  warns : ∀ (use : Use) (logger : Logger),
    let warned := (use.warn scope logger).run store
    warned.1.1 = (!(store.ledgerOf root).holds use.warning) ∧
      (warned.2.ledgerOf root).holds use.warning = true ∧
      ∀ key, key ≠ root.key → warned.2.writtenAt key = store.writtenAt key

/-- What a known scope declares globally and what it is warned about goes to the root of its
chain. -/
theorem Coherent.goesTo_chainRoot {store : Store} {known : Set Handle} (h : store.Coherent known)
    {scope : Scope} (hscope : scope.handle ∈ known) : store.GoesTo scope scope.chainRoot := by
  constructor
  · intro ns name value after
    obtain ⟨roots, hafter⟩ := h.exists_roots_of_declareAtRoot hscope ns name value
    rw [show after = _ from hafter]
    refine ⟨store.own?_declare_self scope.chainRoot.scope name value, fun key hkey => ?_⟩
    have hroot : scope.chainRoot.scope.key ≠ key := hkey.symm
    exact store.writtenAt_declare hroot ns name value
  · intro use logger warned
    obtain ⟨hanswer, hledgers⟩ := h.warn hscope use logger
    refine ⟨congrArg Prod.fst hanswer, ?_, fun key hkey => ?_⟩
    · rw [hledgers, Use.inChain, decide_eq_true rfl, Bool.true_or]
    · exact h.writtenAt_warn hscope hkey.symm use logger

end Store

/-! ## Roots in the course of a run -/

namespace Run

variable {actions : List Action} {forest : Forest}

/-- Environments have one root exactly if their paths share a scope. -/
theorem same_chainRoot_iff (h : Run actions forest) {first second : Handle}
    (hfirst : first ∈ forest.known) (hsecond : second ∈ forest.known) :
    first.env.chainRoot.scope.handle.same second.env.chainRoot.scope.handle = true ↔
      ∃ scope ∈ first.env.path, ∃ other ∈ second.env.path,
        scope.handle.same other.handle = true := by
  constructor
  · -- The root itself is shared.
    intro hsame
    exact ⟨_, List.mem_of_getLast? first.env.chainTo_chainRoot.last, _,
      List.mem_of_getLast? second.env.chainTo_chainRoot.last, hsame⟩
  · rintro ⟨scope, hscope, other, hother, hsame⟩
    have hknown := h.coherent.mem_of_mem_path hfirst hscope
    have hknown' := h.coherent.mem_of_mem_path hsecond hother
    obtain rfl : scope = other :=
      h.coherent.eq_of_key_eq hknown hknown' (Handle.same_iff.mp hsame).2
    rw [← Scope.chainRoot_of_mem_path hscope, ← Scope.chainRoot_of_mem_path hother]
    exact Handle.same_iff.mpr ⟨rfl, rfl⟩

/-- **One root for each chain.** At every moment of a run, whatever roots have been remembered by
then and in whatever order,
- the root that a scope or a view answers with is known, the path of the environment is the chain
  from the scope behind it to that root, and the trace it answers with is the one of that root,
- two environments answer with the same root exactly if their paths share a scope,
- if a body is declared in a scope, then its scope is nested in that one, whatever call site and
  content block it captures. However the run goes on, every environment inside the body answers with
  the root of the declaring scope and with its trace, and what a scope inside declares globally or
  is warned about goes to that root. -/
theorem one_root_per_chain (h : Run actions forest) :
    (∀ handle ∈ forest.known,
      let root := ((Store.rootOf handle.env).run forest.store).1
      root.scope.handle ∈ forest.known ∧
        handle.env.unwrapped.ChainTo root.scope handle.env.path ∧
        ((Store.traceOf handle.env).run forest.store).1 = root.trace) ∧
    (∀ first ∈ forest.known, ∀ second ∈ forest.known,
      let root := ((Store.rootOf first.env).run forest.store).1
      let root' := ((Store.rootOf second.env).run forest.store).1
      root.scope.handle.same root'.scope.handle = true ↔
        ∃ scope ∈ first.env.path, ∃ other ∈ second.env.path,
          scope.handle.same other.handle = true) ∧
    ∀ declaring : Scope, declaring.handle ∈ forest.known → ∀ caller ∈ forest.known,
      ∀ content : Option (ContentBlock Handle),
        (∀ block ∈ content, block.environment ∈ forest.known) →
      let body := ((Store.newBody declaring caller content).run forest.store).1
      body.parent? = some declaring ∧ body.ownCaller? = some caller ∧
      body.ownContent? = content ∧
      ∀ later final, Run (later ++ .body declaring caller content :: actions) final →
        let root := ((Store.rootOf declaring).run final.store).1
        body.handle ∈ final.known ∧
        (∀ inside ∈ final.known, body ∈ inside.env.path →
          ((Store.rootOf inside.env).run final.store).1 = root ∧
            ((Store.traceOf inside.env).run final.store).1 = root.trace) ∧
        ∀ inside : Scope, inside.handle ∈ final.known → body ∈ inside.path →
          final.store.GoesTo inside root := by
  refine ⟨?_, ?_, ?_⟩
  · intro handle hknown root
    have hroot : root = handle.env.chainRoot := (h.coherent.rootOf hknown).1
    rw [hroot]
    refine ⟨h.coherent.mem_of_reaches hknown handle.env.reaches_chainRoot,
      handle.env.chainTo_chainRoot, ?_⟩
    exact congrArg Root.trace hroot
  · intro first hfirst second hsecond root root'
    rw [show root = _ from (h.coherent.rootOf hfirst).1,
      show root' = _ from (h.coherent.rootOf hsecond).1]
    exact h.same_chainRoot_iff hfirst hsecond
  · intro declaring hdeclaring caller hcaller content hcontent body
    have hparent : body.parent? = some declaring :=
      Store.parent?_newBody declaring caller content forest.store
    refine ⟨hparent, Store.ownCaller?_newBody declaring caller content forest.store,
      Store.ownContent?_newBody declaring caller content forest.store, ?_⟩
    intro later final hfinal root
    have hmade := h.act (.body declaring caller content) (known_of_body hdeclaring hcaller hcontent)
    have hsubset : (forest.after (.body declaring caller content)).known ⊆ final.known :=
      hmade.known_subset hfinal
    have hroot : root = declaring.chainRoot :=
      (hfinal.coherent.rootOf (hsubset (.inl hdeclaring))).1
    rw [hroot]
    refine ⟨hsubset (.inr rfl), fun inside hknown hinside => ?_, fun inside hknown hinside => ?_⟩
    · -- What is captured plays no part: the body is followed by the declaring scope.
      have hasked : ((Store.rootOf inside.env).run final.store).1 = declaring.chainRoot :=
        (hfinal.coherent.rootOf hknown).1.trans (Env.chainRoot_of_parent? hparent hinside)
      exact ⟨hasked, congrArg Root.trace hasked⟩
    · rw [← Env.chainRoot_of_parent? hparent hinside]
      exact hfinal.coherent.goesTo_chainRoot hknown

/-- A second root, with a trace of its own. -/
def awayRoot : Scope := .root 1 sampleSnapshot ⟨1⟩

/-- A scope nested in the second root. -/
def awayNested : Scope := .nested 2 sampleSnapshot awayRoot

/-- Two chains are made. -/
def twoChains : List Action :=
  [.nested awayRoot none, .root sampleSnapshot ⟨1⟩, .root sampleSnapshot ⟨0⟩]

/-- The scope of a body that is declared on the first chain and called from the second. -/
def awayBody : Scope := .bodyWith 3 sampleRoot awayNested [] awayNested

/-- A scope nested in the body. -/
def insideAwayBody : Scope := .nested 4 sampleSnapshot awayBody

/-- A scope is nested in the body and viewed, and the scope at the call site has remembered its
root. -/
def insideAndViewed : List Action :=
  [.viewOf insideAwayBody.handle, .nested awayBody none, .rootOf awayNested.handle]

/-- The two chains can come about, and all scopes on them are known then. -/
theorem run_twoChains :
    Run twoChains (.ofActions twoChains) ∧
      ∀ handle ∈ [sampleRoot.handle, awayRoot.handle, awayNested.handle],
        handle ∈ (Forest.ofActions twoChains).known := by
  refine ⟨((Run.start.act _ ?_).act _ ?_).act _ ?_, ?_⟩
  · simp [Action.uses]
  · simp [Action.uses]
  · intro handle hmem
    exact List.mem_singleton.mp hmem ▸ .inr rfl
  · intro handle hmem
    simp only [List.mem_cons, List.not_mem_nil, or_false] at hmem
    rcases hmem with rfl | rfl | rfl
    · exact .inl (.inl (.inr rfl))
    · exact .inl (.inr rfl)
    · exact .inr rfl

/-- With two chains, a view of a scope inside the body answers with the trace of the declaring
chain. A warning inside leaves the root of the other chain alone, though the body was called from
there. And the two roots are not the same. -/
theorem awayBody_is_on_declaring_chain :
    ∃ final, Run (insideAndViewed ++
        .body sampleRoot awayNested.handle (some ⟨[], awayNested.handle⟩) :: twoChains) final ∧
      ((Store.traceOf (Env.view 0 sampleSnapshot insideAwayBody)).run final.store).1 = ⟨0⟩ ∧
      (((Use.falseResult ⟨4, none⟩).warn insideAwayBody (.new .recording none)).run
        final.store).2.writtenAt awayRoot.key = final.store.writtenAt awayRoot.key ∧
      sampleRoot.handle.same ((Store.rootOf awayNested).run
        (Forest.ofActions twoChains).store).1.scope.handle ≠ true := by
  obtain ⟨hrun, hknown⟩ := run_twoChains
  have haway : awayNested.handle ∈ (Forest.ofActions twoChains).known := hknown _ (by simp)
  have hroot : sampleRoot.handle ∈ (Forest.ofActions twoChains).known := hknown _ (by simp)
  obtain ⟨-, hsame, hbodies⟩ := one_root_per_chain hrun
  obtain ⟨-, -, -, hlater⟩ := hbodies sampleRoot hroot awayNested.handle haway
    (some ⟨[], awayNested.handle⟩) (by rintro _ ⟨⟩; exact haway)
  have hfinal : Run (insideAndViewed ++
      .body sampleRoot awayNested.handle (some ⟨[], awayNested.handle⟩) :: twoChains)
      (.ofActions (insideAndViewed ++
        .body sampleRoot awayNested.handle (some ⟨[], awayNested.handle⟩) :: twoChains)) := by
    have hmade := hrun.act (.body sampleRoot awayNested.handle (some ⟨[], awayNested.handle⟩))
      (known_of_body hroot haway (by rintro _ ⟨⟩; exact haway))
    refine ((hmade.act _ ?_).act _ ?_).act _ ?_
    all_goals intro handle hmem; rw [List.mem_singleton.mp hmem]
    · exact .inl haway
    · exact .inl (.inr rfl)
    · exact .inr rfl
  obtain ⟨-, hanswers, hgoes⟩ := hlater _ _ hfinal
  have hinside : awayBody ∈ insideAwayBody.path := List.mem_cons_of_mem _ List.mem_cons_self
  refine ⟨_, hfinal, ?_, ?_, ?_⟩
  · exact (hanswers (Env.handle (.view 0 sampleSnapshot insideAwayBody)) (.inr rfl) hinside).2
  · obtain ⟨-, -, hothers⟩ := (hgoes insideAwayBody (.inl (.inr rfl)) hinside).warns
      (.falseResult ⟨4, none⟩) (.new .recording none)
    exact hothers awayRoot.key (by decide)
  · intro hshared
    obtain ⟨scope, hscope, other, hother, hequal⟩ := (hsame _ hroot _ haway).mp hshared
    obtain rfl : scope = sampleRoot := List.mem_singleton.mp hscope
    have hpath : other ∈ [awayNested, awayRoot] := hother
    simp only [List.mem_cons, List.not_mem_nil, or_false] at hpath
    rcases hpath with rfl | rfl
    · exact Bool.false_ne_true hequal
    · exact Bool.false_ne_true hequal

end Run

end Stylesheet
