import Stylesheet.Proofs.Lexical
import Stylesheet.Proofs.Numbers

/-! # In which order selectors are searched

A scope without a selector of its own asks its captured call site, and then the enclosing scope; a
view asks what it wraps. So the scopes that a selector is resolved through form a tree with two kinds
of branches, in which a scope may come up many times. Whoever is asked is smaller than whoever asks
(`Handle.size_lt_of_mem_asked`), so the search ends, and it answers with the first selector along
`Env.searchOrder`. Nothing is remembered on the way: what is found at any time is what has been set
last on the scopes of this order (`Run.selector_follows_order`). -/

namespace Stylesheet

/-! ## Who is asked -/

/-- The environments that are **asked** for a selector by one that has none of its own, in turn. -/
def Env.asked : {a : Access} → Env a → List Handle
  | _, .root _ _ _ => []
  | _, .nested _ _ parent => [parent.handle]
  | _, .body _ parent caller => [caller.handle, parent.handle]
  | _, .bodyWith _ parent caller _ _ => [caller.handle, parent.handle]
  | _, .view _ _ inner => [inner.handle]

/-- A handle **resolves through** another if it is the other one, or asks somebody who resolves
through it. -/
def Handle.ResolvesThrough : Handle → Handle → Prop :=
  Relation.ReflTransGen fun source target => target ∈ source.env.asked

/-- **The order of the search**: a scope itself, then everything that its call site resolves through,
then everything that the enclosing scope does. -/
def Env.searchOrder : {a : Access} → Env a → List Scope
  | _, .root key snapshot trace => [.root key snapshot trace]
  | _, .nested key snapshot parent => .nested key snapshot parent :: parent.searchOrder
  | _, .body key parent caller =>
    .body key parent caller :: (caller.searchOrder ++ parent.searchOrder)
  | _, .bodyWith key parent caller nodes content =>
    .bodyWith key parent caller nodes content :: (caller.searchOrder ++ parent.searchOrder)
  | _, .view _ _ inner => inner.searchOrder

namespace Handle

/-- Only environments are asked that an environment was made with. -/
theorem mem_links_of_mem_asked {handle next : Handle} (h : next ∈ handle.env.asked) :
    next ∈ handle.env.links := by
  obtain @⟨access, env⟩ := handle
  cases env with
  | root => exact h
  | nested | view => exact h
  | body | bodyWith =>
    rcases List.mem_cons.mp h with rfl | h
    · exact .tail _ (.head _)
    · rw [List.mem_singleton.mp h]
      exact .head _

/-- **Whoever is asked is smaller.** -/
theorem size_lt_of_mem_asked {handle next : Handle} (h : next ∈ handle.env.asked) :
    next.env.size < handle.env.size :=
  handle.size_lt_of_mem_links (mem_links_of_mem_asked h)

namespace ResolvesThrough

variable {source target : Handle}

/-- What is resolved through is reached. -/
theorem reaches (h : source.ResolvesThrough target) : source.Reaches target :=
  Relation.ReflTransGen.mono (fun _ _ hstep => mem_links_of_mem_asked hstep) _ _ h

/-- Whoever is asked may go on asking. -/
theorem iff_asked :
    source.ResolvesThrough target ↔
      source = target ∨ ∃ next ∈ source.env.asked, next.ResolvesThrough target :=
  Relation.ReflTransGen.cases_head_iff

end ResolvesThrough

end Handle

namespace Env

/-- The scope that an environment is itself, if it is one. -/
def itself : {a : Access} → Env a → Option Scope
  | .writable, scope => some scope
  | .readOnly, _ => none

/-- The order of the search begins with the scope itself and goes on with those who are asked. -/
theorem searchOrder_eq {a : Access} (env : Env a) :
    env.searchOrder =
      env.itself.toList ++ env.asked.flatMap fun next => next.env.searchOrder := by
  cases env <;> simp [searchOrder, itself, asked, handle]

/-- A scope is itself, and nothing else is. -/
theorem handle_eq_iff_itself {a : Access} {env : Env a} {scope : Scope} :
    env.handle = scope.handle ↔ env.itself = some scope := by
  constructor
  · intro h
    cases h
    rfl
  · intro h
    cases a with
    | writable =>
      cases h
      rfl
    | readOnly => cases h

/-- **The order holds the tree**: it has just the scopes that an environment resolves through. -/
theorem mem_searchOrder {a : Access} {env : Env a} {scope : Scope} :
    scope ∈ env.searchOrder ↔ env.handle.ResolvesThrough scope.handle := by
  induction hsize : env.size using Nat.strongRecOn generalizing a env with
  | ind size ih =>
    have hasked : ∀ next ∈ env.asked,
        scope ∈ next.env.searchOrder ↔ next.ResolvesThrough scope.handle :=
      fun next hnext => ih _ (hsize ▸ env.handle.size_lt_of_mem_asked hnext) rfl
    rw [searchOrder_eq, List.mem_append, List.mem_flatMap, Option.mem_toList,
      Handle.ResolvesThrough.iff_asked, handle_eq_iff_itself]
    exact or_congr_right (exists_congr fun next => and_congr_right (hasked next))

end Env

/-- The first value in a list is that of the head or else the first in the rest. -/
theorem findSome?_cons_eq_or {α β : Type} (f : α → Option β) (head : α) (rest : List α) :
    (head :: rest).findSome? f = (f head).or (rest.findSome? f) := by
  cases h : f head <;> simp [h]

namespace Store

variable {store : Store} {known : Set Handle}

/-- The selector of the very scope. -/
def ownSelector? (store : Store) (scope : Scope) : Option SelectorList :=
  store.selectors[scope.key]?

/-- The selector in effect is that of the scope itself or the first that those who are asked
answer. -/
theorem selector?_eq_asked (store : Store) {a : Access} (env : Env a) :
    store.selector? env = (env.itself.bind store.ownSelector?).or
      (env.asked.findSome? fun next => store.selector? next.env) := by
  cases env <;>
    simp [selector?, Env.itself, Env.asked, ownSelector?, Env.key, findSome?_cons_eq_or,
      Env.handle]

/-- **The search answers with the first selector** in its order. -/
theorem selector?_eq_findSome? (store : Store) {a : Access} (env : Env a) :
    store.selector? env = env.searchOrder.findSome? store.ownSelector? := by
  induction env with
  | root => simp [selector?, Env.searchOrder, ownSelector?, Env.key]
  | nested key snapshot parent ih =>
    rw [selector?, Env.searchOrder, findSome?_cons_eq_or, ih]
    rfl
  | body key parent caller ih ih' =>
    rw [selector?, Env.searchOrder, findSome?_cons_eq_or, List.findSome?_append, ih, ih']
    rfl
  | bodyWith key parent caller nodes content ih ih' _ =>
    rw [selector?, Env.searchOrder, findSome?_cons_eq_or, List.findSome?_append, ih, ih']
    rfl
  | view key snapshot inner ih => exact ih

/-- A warning sets no selector. -/
theorem Coherent.selectors_warned (h : store.Coherent known) {scope : Scope}
    (hscope : scope.handle ∈ known) {after : Store} (hwarned : ∃ ledgers, after =
      { ((Store.rootOf scope).run store).2 with ledgers := ledgers }) :
    after.selectors = store.selectors := by
  obtain ⟨ledgers, rfl⟩ := hwarned
  exact congrArg (·.2.1) (h.rootOf hscope).2.written_eq

/-- An action that neither sets a selector nor makes the scope of a style rule changes none. -/
theorem Coherent.selectors_perform (h : store.Coherent known) {action : Action}
    (huses : ∀ handle ∈ action.uses, handle ∈ known)
    (hselect : ∀ scope selector, action ≠ .select scope selector)
    (hrule : ∀ parent selector, action ≠ .rule parent selector) :
    (action.perform.run store).2.selectors = store.selectors := by
  cases action with
  | root | nested | body | view | hold | drop => rfl
  | rule parent selector => exact absurd rfl (hrule parent selector)
  | select scope selector => exact absurd rfl (hselect scope selector)
  | viewOf | rootOf | callerOf | contentOf =>
    exact congrArg (·.2.1) (h.written_of_asks huses rfl)
  | write mode scope ns name value =>
    obtain ⟨tables, roots, hafter⟩ := exists_tables_of_write store mode scope ns name value
    have hselectors := congrArg Store.selectors hafter
    exact hselectors
  | warnAssignment scope logger name location =>
    exact h.selectors_warned (huses _ (List.mem_singleton_self _))
      (run_warnAssignment store scope logger name location)
  | warnFalseResult scope logger location =>
    exact h.selectors_warned (huses _ (List.mem_singleton_self _))
      (run_warnFalseResult store scope logger location)

end Store

/-! ## Selectors in the course of a run -/

/-- The number of scopes that a number of actions make. -/
def scopesMade (actions : List Action) : Nat :=
  actions.countP Action.makesScope

/-- The **selection** that an action makes, after these selections and when so many scopes have been
made: a selector is set on a scope, or a style rule takes its own, nested into the one in effect
where it is written. -/
def Action.selection? (earlier : List (Nat × SelectorList)) (made : Nat) :
    Action → Option (Nat × SelectorList)
  | select scope selector => some (scope.key, selector)
  | rule parent selector =>
    some (made, match parent.searchOrder.findSome? fun scope => earlier.lookup scope.key with
      | none => selector
      | some enclosing => enclosing.nest selector)
  | _ => none

/-- **The selections** of a number of actions, each for the key of a scope. In both lists the latest
stands in front. -/
def selections : List Action → List (Nat × SelectorList)
  | [] => []
  | action :: earlier =>
    (action.selection? (selections earlier) (scopesMade earlier)).toList ++ selections earlier

namespace Run

variable {actions later : List Action} {forest final : Forest}

/-- As many numbers have been taken as scopes have been made. -/
theorem nextScope_eq (h : Run actions forest) : forest.store.nextScope = scopesMade actions := by
  induction h with
  | start => rfl
  | @act actions forest _ action _ ih =>
    show (action.perform.run forest.store).2.nextScope = scopesMade (action :: actions)
    rw [Store.nextScope_perform, ih, scopesMade, scopesMade, List.countP_cons]

/-- **A scope has the selector that was set last** on it. -/
theorem selectors_eq (h : Run actions forest) (key : Nat) :
    forest.store.selectors[key]? = (selections actions).lookup key := by
  induction h generalizing key with
  | start => simp [Forest.empty, Store.empty, selections]
  | @act actions forest hrun action huses ih =>
    -- Setting a selector puts it in front of those from before.
    have hset : ∀ target selector,
        (forest.store.selectors.insert target selector)[key]? =
          ((target, selector) :: selections actions).lookup key := by
      intro target selector
      rw [Std.ExtTreeMap.getElem?_insert, List.lookup_cons, ih]
      by_cases hkey : target = key
      · simp [hkey]
      · simp [hkey, beq_false_of_ne (Ne.symm hkey)]
    by_cases hselect : ∃ scope selector, action = .select scope selector
    · obtain ⟨scope, selector, rfl⟩ := hselect
      exact hset scope.key selector
    by_cases hrule : ∃ parent selector, action = .rule parent selector
    · obtain ⟨parent, selector, rfl⟩ := hrule
      -- The selector in effect where the rule is written is the first in the order, as they are.
      have heffect : forest.store.selector? parent =
          parent.searchOrder.findSome? fun scope => (selections actions).lookup scope.key := by
        rw [Store.selector?_eq_findSome?]
        exact congrArg (List.findSome? · _) (funext fun scope => ih scope.key)
      show (forest.store.selectors.insert forest.store.nextScope
        (forest.store.ruleSelector parent selector))[key]? = _
      rw [hset, Store.ruleSelector, heffect, hrun.nextScope_eq]
      rfl
    · -- No other action sets a selector.
      have hsame := hrun.coherent.selectors_perform huses
        (fun scope selector heq => hselect ⟨scope, selector, heq⟩)
        (fun parent selector heq => hrule ⟨parent, selector, heq⟩)
      have hnone : action.selection? (selections actions) (scopesMade actions) = none := by
        cases action with
        | select scope selector => exact absurd ⟨scope, selector, rfl⟩ hselect
        | rule parent selector => exact absurd ⟨parent, selector, rfl⟩ hrule
        | _ => rfl
      show (action.perform.run forest.store).2.selectors[key]? = _
      rw [hsame, ih, selections, hnone]
      rfl

/-- **Selectors follow the order of the search.** Ask any known scope or view for its selector, at
any moment of a run or later.
- The search ends: it goes from one environment only to smaller ones, which are known as well, and
  puts together what these answer.
- Its order has just the scopes of the tree that the environment resolves through.
- The answer is the selector that was set last, up to then, on the first scope of this order on which
  one has been set at all. There is none exactly if none has been set on any scope of the tree. -/
theorem selector_follows_order (h : Run actions forest) {a : Access} {env : Env a}
    (henv : env.handle ∈ forest.known) :
    (∀ handle, env.handle.ResolvesThrough handle → handle ∈ forest.known ∧
      (∀ next ∈ handle.env.asked, next.env.size < handle.env.size) ∧
      ∀ store : Store, store.selector? handle.env =
        (handle.env.itself.bind store.ownSelector?).or
          (handle.env.asked.findSome? fun next => store.selector? next.env)) ∧
    (∀ scope : Scope, scope ∈ env.searchOrder ↔ env.handle.ResolvesThrough scope.handle) ∧
    ∀ later final, Run (later ++ actions) final →
      final.store.selector? env = (env.searchOrder.findSome? fun scope =>
        (selections (later ++ actions)).lookup scope.key) ∧
      (final.store.selector? env = none ↔
        ∀ scope : Scope, env.handle.ResolvesThrough scope.handle →
          (selections (later ++ actions)).lookup scope.key = none) := by
  refine ⟨fun handle hthrough => ?_, fun scope => Env.mem_searchOrder, fun later final hfinal => ?_⟩
  · exact ⟨h.coherent.mem_of_reaches henv hthrough.reaches,
      fun next hnext => handle.size_lt_of_mem_asked hnext,
      fun store => store.selector?_eq_asked handle.env⟩
  · have hanswer : final.store.selector? env = env.searchOrder.findSome? fun scope =>
        (selections (later ++ actions)).lookup scope.key := by
      rw [Store.selector?_eq_findSome?]
      exact congrArg (List.findSome? · _) (funext fun scope => hfinal.selectors_eq scope.key)
    refine ⟨hanswer, ?_⟩
    rw [hanswer, List.findSome?_eq_none_iff]
    exact forall_congr' fun scope => imp_congr_left Env.mem_searchOrder

/-- A selector. -/
def cardSelector : SelectorList := ⟨[".card"]⟩

/-- Later on, the selector of the scope that called the body is set. -/
def selectLater : List Action :=
  [.select sampleNested cardSelector]

/-- In the sample, no selector is found at first. Once the scope has one that called the body, it is
found from a view of a view of the body, which was made before. -/
theorem sampleTower_follows_caller :
    ∃ forest final, Run sampleActions forest ∧ Run (selectLater ++ sampleActions) final ∧
      forest.store.selector? sampleTower = none ∧
      final.store.selector? sampleTower = some cardSelector := by
  have hfinal : Run (selectLater ++ sampleActions) (.ofActions (selectLater ++ sampleActions)) := by
    refine run_sampleActions.act _ ?_
    intro handle hmem
    exact List.mem_singleton.mp hmem ▸ known_sample _ (by simp)
  have htower : sampleTower.handle ∈ (Forest.ofActions sampleActions).known :=
    known_sample _ (by simp)
  obtain ⟨-, -, hanswers⟩ := selector_follows_order run_sampleActions htower
  refine ⟨_, _, run_sampleActions, hfinal, ?_, ?_⟩
  · rw [(hanswers [] _ run_sampleActions).1]
    rfl
  · rw [(hanswers selectLater _ hfinal).1]
    rfl

end Run

end Stylesheet
