import Stylesheet.Proofs.SearchOrder
import Stylesheet.Proofs.Substitution

/-! # Selectors stay resolved

A list is **resolved** if no member refers to a parent any more. Whatever is nested in a resolved list
is resolved, since what is filled in has no references. So it is enough that lists are resolved where
nothing is around them that they could be nested in: where a selector is set, and where a style rule
is written without an enclosing selector (`Action.BringsResolved`). Then every selector that is ever
found is resolved, through whatever scopes, call sites and views (`Run.selectors_stay_resolved`). -/

namespace Stylesheet

/-! ## Resolved lists -/

/-- A list is **resolved** if no member refers to a parent. -/
def SelectorList.IsResolved (list : SelectorList) : Prop :=
  ∀ member ∈ list.members, parentMark ∉ member.toList

namespace SelectorList

/-- A member that is nested in one without references has none itself. -/
theorem not_mem_nestMember {parent : String} (h : parentMark ∉ parent.toList) (member : String) :
    parentMark ∉ (nestMember parent member).toList := by
  by_cases hmember : parentMark ∈ member.toList
  · rw [nestMember_of_mem hmember, mem_substitute]
    rintro (⟨-, hmark⟩ | ⟨-, hparent⟩)
    · exact hmark rfl
    · exact h hparent
  · rw [nestMember_of_not_mem hmember]
    simpa [h, hmember] using (by decide : parentMark ∉ [' '])

/-- **Whatever is nested in a resolved list** is resolved. -/
theorem IsResolved.nest {parent : SelectorList} (h : parent.IsResolved) (child : SelectorList) :
    (parent.nest child).IsResolved := by
  intro member hmember
  obtain ⟨outer, houter, hinner⟩ := List.mem_flatMap.mp hmember
  obtain ⟨inner, -, rfl⟩ := List.mem_map.mp hinner
  exact not_mem_nestMember (h outer houter) inner

end SelectorList

namespace Store

variable {store : Store} {known : Set Handle}

/-- All selectors of scopes are **resolved**. -/
def IsResolved (store : Store) : Prop :=
  ∀ (key : Nat) (selector : SelectorList), store.selectors[key]? = some selector →
    selector.IsResolved

namespace IsResolved

/-- At first no scope has a selector. -/
theorem empty : Store.empty.IsResolved := by
  simp [IsResolved, Store.empty]

/-- It does not matter what else the store holds. -/
theorem of_selectors_eq (h : store.IsResolved) {after : Store}
    (hsame : after.selectors = store.selectors) : after.IsResolved := by
  intro key selector hfound
  exact h key selector (hsame ▸ hfound)

/-- Setting a resolved selector keeps all of them resolved. -/
theorem setSelectorOf (h : store.IsResolved) (scope : Scope) {selector : SelectorList}
    (hselector : selector.IsResolved) : (store.setSelectorOf scope selector).IsResolved := by
  intro key found hfound
  rcases eq_or_getElem?_of_insert hfound with ⟨-, rfl⟩ | hfound
  · exact hselector
  · exact h key found hfound

/-- The selector in effect is that of some scope, and so it is resolved. -/
theorem selector? (h : store.IsResolved) {a : Access} {env : Env a} {selector : SelectorList}
    (hselector : store.selector? env = some selector) : selector.IsResolved := by
  rw [selector?_eq_findSome?] at hselector
  obtain ⟨scope, -, hown⟩ := List.exists_of_findSome?_eq_some hselector
  exact h scope.key selector hown

/-- The selector of a style rule is resolved if that of the enclosing one is, or else its own. -/
theorem ruleSelector (h : store.IsResolved) {a : Access} {env : Env a} {selector : SelectorList}
    (hselector : store.selector? env = none → selector.IsResolved) :
    (store.ruleSelector env selector).IsResolved := by
  rw [Store.ruleSelector]
  cases henclosing : store.selector? env with
  | none => exact hselector henclosing
  | some enclosing => exact (h.selector? henclosing).nest selector

end IsResolved

/-- A new style rule is nested where it is written and has the rule's selector. -/
theorem selector?_newRule (store : Store) (scope : Scope) (selector : SelectorList) :
    let made := (newRule scope selector).run store
    made.1.parent? = some scope ∧
      made.2.selector? made.1 = some (store.ruleSelector scope selector) :=
  ⟨rfl, selector?_setSelector _ _ _⟩

end Store

/-- The list that an action brings in is resolved where it will not be nested in another: where a
selector is set, and where a style rule is written without an enclosing selector. -/
def Action.BringsResolved (store : Store) : Action → Prop
  | select _ selector => selector.IsResolved
  | rule parent selector => store.selector? parent = none → selector.IsResolved
  | _ => True

/-- Each of a number of actions, the latest in front, brings in resolved lists. -/
def BringResolved : List Action → Prop
  | [] => True
  | action :: earlier =>
    action.BringsResolved (Forest.ofActions earlier).store ∧ BringResolved earlier

/-- **An action** that brings in resolved lists keeps all selectors resolved. -/
theorem Store.Coherent.isResolved_perform {store : Store} {known : Set Handle}
    (h : store.Coherent known) (hresolved : store.IsResolved) {action : Action}
    (huses : ∀ handle ∈ action.uses, handle ∈ known) (hbrings : action.BringsResolved store) :
    (action.perform.run store).2.IsResolved := by
  by_cases hselect : ∃ scope selector, action = .select scope selector
  · obtain ⟨scope, selector, rfl⟩ := hselect
    exact hresolved.setSelectorOf scope hbrings
  by_cases hrule : ∃ parent selector, action = .rule parent selector
  · obtain ⟨parent, selector, rfl⟩ := hrule
    -- The selector of the rule is put together before its scope is made.
    have hmade : ({ store with nextScope := store.nextScope + 1 } : Store).IsResolved :=
      hresolved.of_selectors_eq rfl
    exact hmade.setSelectorOf (.nested store.nextScope parent.snapshot parent)
      (hresolved.ruleSelector hbrings)
  · exact hresolved.of_selectors_eq (h.selectors_perform huses
      (fun scope selector heq => hselect ⟨scope, selector, heq⟩)
      fun parent selector heq => hrule ⟨parent, selector, heq⟩)

namespace Run

variable {actions : List Action} {forest : Forest}

/-- **Throughout a run** whose actions bring in resolved lists, all selectors are resolved. -/
theorem isResolved (h : Run actions forest) (hbring : BringResolved actions) :
    forest.store.IsResolved := by
  induction h with
  | start => exact .empty
  | act hrun action huses ih =>
    obtain ⟨hbrings, hearlier⟩ := hbring
    rw [← hrun.eq_ofActions] at hbrings
    exact hrun.coherent.isResolved_perform (ih hearlier) huses hbrings

/-- **Selectors stay resolved.** Take any moment of a run.
- If no list had references that was set as a selector up to then, nor any that was given to a style
  rule where no selector was in effect, then no selector that is found from any scope or view has
  references, however deep rules are nested and whatever call sites they take theirs from.
- A style rule that is written where a selector is in effect gets as many members as there are pairs
  of one of its own and one of the enclosing selector. Those of the first enclosing member come
  first, in the order in which they are written, then those of the second, and so on. In each, all
  references are replaced by the enclosing member, or it stands behind that member and a space if it
  has none. -/
theorem selectors_stay_resolved (h : Run actions forest) :
    (BringResolved actions → ∀ (handle : Handle) (selector : SelectorList),
      forest.store.selector? handle.env = some selector →
        ∀ member ∈ selector.members, '&' ∉ member.toList) ∧
    ∀ (scope : Scope) (parent child : SelectorList),
      forest.store.selector? scope = some parent →
      let made := (Store.newRule scope child).run forest.store
      ∃ nested : SelectorList, made.1.parent? = some scope ∧
        made.2.selector? made.1 = some nested ∧
        nested.members.length = parent.members.length * child.members.length ∧
        ∀ (i : Nat) (hi : i < parent.members.length) (j : Nat) (hj : j < child.members.length),
          nested.members[i * child.members.length + j]? = some (
            if '&' ∈ child.members[j].toList then
              String.ofList (parent.members[i].toList.intercalate
                (child.members[j].toList.splitOn '&'))
            else parent.members[i] ++ " " ++ child.members[j]) := by
  constructor
  · intro hbring handle selector hselector
    exact (h.isResolved hbring).selector? hselector
  · intro scope parent child hparent made
    obtain ⟨houter, hselector⟩ := forest.store.selector?_newRule scope child
    rw [Store.ruleSelector, hparent] at hselector
    refine ⟨parent.nest child, houter, hselector, parent.length_nest child, ?_⟩
    intro i hi j hj
    rw [parent.getElem?_members_nest child i hj, List.getElem?_eq_getElem hi, Option.map_some]
    congr 1
    split
    · next hmark =>
      exact (SelectorList.nestMember_of_mem hmark _).trans
        (SelectorList.substitute_eq_intercalate _ _)
    · next hmark => exact SelectorList.nestMember_of_not_mem hmark _

/-- In the sample, the scope that calls the body has a selector of two members, and a style rule is
written in the body. -/
def ruleInBody : List Action :=
  [.rule sampleBody ⟨["p", "& > &"]⟩, .select sampleNested ⟨[".card", ".note"]⟩] ++ sampleActions

/-- The scope of the style rule. -/
def ruleScope : Scope := .nested 3 sampleSnapshot sampleBody

/-- The rule takes the selector of the call site, and a further rule inside takes that of the rule.
Nothing refers to a parent any more. -/
theorem ruleInBody_stays_resolved :
    ∃ forest, Run ruleInBody forest ∧ BringResolved ruleInBody ∧
      forest.store.selector? ruleScope =
        some ⟨[".card p", ".card > .card", ".note p", ".note > .note"]⟩ ∧
      (∀ selector, forest.store.selector? ruleScope = some selector →
        ∀ member ∈ selector.members, '&' ∉ member.toList) ∧
      let made := (Store.newRule ruleScope ⟨["&:hover + &"]⟩).run forest.store
      ∃ nested : SelectorList, made.2.selector? made.1 = some nested ∧
        nested.members.length = 4 * 1 ∧
        nested.members[3 * 1 + 0]? = some ".note > .note:hover + .note > .note" := by
  have hrun : Run ruleInBody (.ofActions ruleInBody) := by
    refine (run_sampleActions.act _ ?_).act _ ?_
    all_goals intro handle hmem; rw [List.mem_singleton.mp hmem]
    · exact known_sample _ (by simp)
    · exact .inl (known_sample _ (by simp))
  have hcalled : (Forest.ofActions (.select sampleNested ⟨[".card", ".note"]⟩ ::
      sampleActions)).store.selector? sampleBody = some ⟨[".card", ".note"]⟩ := rfl
  have hbring : BringResolved ruleInBody := by
    refine ⟨fun hnone => ?_, ?_, trivial, trivial, trivial, trivial, trivial, trivial⟩
    · cases hcalled.symm.trans hnone
    · intro member hmem
      simp at hmem
      rcases hmem with rfl | rfl <;> decide
  have hselector : (Forest.ofActions ruleInBody).store.selector? ruleScope =
      some ⟨[".card p", ".card > .card", ".note p", ".note > .note"]⟩ := rfl
  obtain ⟨hresolved, hnests⟩ := selectors_stay_resolved hrun
  obtain ⟨nested, -, hnested, hlength, hmembers⟩ :=
    hnests ruleScope _ ⟨["&:hover + &"]⟩ hselector
  refine ⟨_, hrun, hbring, hselector, hresolved hbring ruleScope.handle, nested, hnested, hlength,
    ?_⟩
  exact hmembers 3 (by decide) 0 (by decide)

end Run

end Stylesheet
