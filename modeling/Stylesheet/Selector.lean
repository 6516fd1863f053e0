/-! # Selector lists

A rule's selector is a list of complex selectors, its **members**. Nesting one list into another
resolves the parent references of the inner one. -/

namespace Stylesheet

/-- A comma-separated list of complex selectors, in source order. -/
structure SelectorList where
  /-- The complex selectors. -/
  members : List String
  deriving DecidableEq

namespace SelectorList

/-- The character that refers to the enclosing rule's selector. -/
def parentMark : Char := '&'

/-- A member that refers to its parent. -/
def refersToParent (member : String) : Bool :=
  member.toList.contains parentMark

/-- `member` with `parent` in the place of every parent reference. -/
def substitute (parent member : String) : String :=
  String.ofList (member.toList.flatMap fun c => if c = parentMark then parent.toList else [c])

/-- One member of an inner rule inside one member of the outer rule: parent references are filled
in, and a member without any becomes a descendant of the parent. -/
def nestMember (parent member : String) : String :=
  if refersToParent member then substitute parent member else parent ++ " " ++ member

/-- **Nesting**: every member of `child` inside every member of `parent`, the parent's members
taking the outer turn. -/
def nest (parent child : SelectorList) : SelectorList :=
  ⟨parent.members.flatMap fun p => child.members.map (nestMember p)⟩

/-- The list as it is printed. -/
def text (list : SelectorList) : String :=
  ", ".intercalate list.members

/-- A nested list has one member for each pair of an outer and an inner member. -/
@[simp] theorem length_nest (parent child : SelectorList) :
    (parent.nest child).members.length = parent.members.length * child.members.length := by
  simp only [nest]
  induction parent.members with
  | nil => simp
  | cons p rest ih =>
    rw [List.flatMap_cons, List.length_append, ih, List.length_map, List.length_cons, Nat.add_mul,
      Nat.one_mul, Nat.add_comm]

end SelectorList

end Stylesheet
