import Mathlib.Data.List.Basic
import Stylesheet.Selector

/-! # Parent references

A member of a nested list takes the parent's member in the place of every reference, or follows it as
a descendant. What is filled in is not searched for references again, so what matters about a chain
of nested lists is where the references stand. Members in **suffix style** append a text of their own
to whatever parent they get (`IsSuffixStyle.exists_tail`), and these are just the ones for which it
does not matter in which order a chain is nested (`SelectorList.nest_assoc_iff`). -/

namespace Stylesheet.SelectorList

/-! ## Filling references in -/

/-- A member refers to its parent if the mark is among its characters. -/
theorem refersToParent_iff {member : String} :
    refersToParent member = true ↔ parentMark ∈ member.toList := by
  rw [refersToParent, List.contains_iff_mem]

/-- The characters of a member whose references are filled in. -/
theorem toList_substitute (parent member : String) :
    (substitute parent member).toList =
      member.toList.flatMap fun c => if c = parentMark then parent.toList else [c] :=
  String.toList_ofList

/-- References are filled in part by part. -/
theorem substitute_append (parent first second : String) :
    substitute parent (first ++ second) = substitute parent first ++ substitute parent second := by
  apply String.ext
  simp [toList_substitute]

/-- Where there is no reference, nothing is filled in. -/
theorem substitute_of_not_mem {member : String} (h : parentMark ∉ member.toList) (parent : String) :
    substitute parent member = member := by
  apply String.ext
  have hchars : ∀ c ∈ member.toList, (if c = parentMark then parent.toList else [c]) = [c] := by
    intro c hc
    have hmark : c ≠ parentMark := fun heq => h (heq ▸ hc)
    rw [if_neg hmark]
  rw [toList_substitute, List.flatMap_congr hchars, List.flatMap_singleton']

/-- The bare reference gives way to the parent. -/
theorem substitute_mark_append (parent rest : String) :
    substitute parent ("&" ++ rest) = parent ++ substitute parent rest := by
  rw [substitute_append]
  congr 1
  apply String.ext
  simp [toList_substitute, parentMark]

/-- A character of a member whose references are filled in is one of the member, other than a
reference, or one of the parent. -/
theorem mem_substitute {parent member : String} {c : Char} :
    c ∈ (substitute parent member).toList ↔
      c ∈ member.toList ∧ c ≠ parentMark ∨ parentMark ∈ member.toList ∧ c ∈ parent.toList := by
  rw [toList_substitute, List.mem_flatMap]
  constructor
  · rintro ⟨written, hwritten, hc⟩
    split at hc
    · next hmark => exact .inr ⟨hmark ▸ hwritten, hc⟩
    · next hmark =>
      obtain rfl := List.mem_singleton.mp hc
      exact .inl ⟨hwritten, hmark⟩
  · rintro (⟨hc, hmark⟩ | ⟨hmark, hc⟩)
    · exact ⟨c, hc, by simp [hmark]⟩
    · exact ⟨parentMark, hmark, by simpa using hc⟩

/-- **Filling in** puts the parent between the pieces that the references separate. -/
theorem substitute_eq_intercalate (parent member : String) :
    substitute parent member =
      String.ofList (parent.toList.intercalate (member.toList.splitOn parentMark)) := by
  apply String.ext
  rw [toList_substitute, String.toList_ofList]
  induction member.toList with
  | nil => simp
  | cons c rest ih =>
    obtain ⟨piece, pieces, hpieces⟩ := List.ne_nil_iff_exists_cons.mp
      (List.splitOn_ne_nil parentMark rest)
    have hsplit : (c :: rest).splitOn parentMark =
        if c == parentMark then [] :: piece :: pieces else (c :: piece) :: pieces := by
      rw [List.splitOn_eq_splitOnP, List.splitOnP_cons_eq_if_modifyHead,
        ← List.splitOn_eq_splitOnP, hpieces]
      rfl
    rw [List.flatMap_cons, ih, hsplit, hpieces]
    by_cases hc : c = parentMark
    · -- A reference ends the empty piece in front of it.
      simp [hc]
    · cases pieces <;> simp [hc]

/-! ## Members of nested lists -/

/-- A member with a reference takes the parent in its place. -/
theorem nestMember_of_mem {member : String} (h : parentMark ∈ member.toList) (parent : String) :
    nestMember parent member = substitute parent member := by
  rw [nestMember, if_pos (refersToParent_iff.mpr h)]

/-- A member without a reference becomes a descendant. -/
theorem nestMember_of_not_mem {member : String} (h : parentMark ∉ member.toList)
    (parent : String) : nestMember parent member = parent ++ " " ++ member := by
  rw [nestMember, if_neg fun hrefers => h (refersToParent_iff.mp hrefers)]

/-- What stands behind a member stands behind the nested member, unless it refers to the parent. -/
theorem nestMember_append {tail : String} (h : parentMark ∉ tail.toList) (parent member : String) :
    nestMember parent (member ++ tail) = nestMember parent member ++ tail := by
  by_cases hmember : parentMark ∈ member.toList
  · have happend : parentMark ∈ (member ++ tail).toList := by simp [hmember]
    rw [nestMember_of_mem happend, nestMember_of_mem hmember, substitute_append,
      substitute_of_not_mem h]
  · have happend : parentMark ∉ (member ++ tail).toList := by simp [hmember, h]
    rw [nestMember_of_not_mem happend, nestMember_of_not_mem hmember]
    simp only [String.append_assoc]

/-- A nested list goes through the members of the parent, and through those of the child for each of
them. -/
theorem getElem?_members_nest (parent child : SelectorList) (i : Nat) {j : Nat}
    (hj : j < child.members.length) :
    (parent.nest child).members[i * child.members.length + j]? =
      parent.members[i]?.map (nestMember · child.members[j]) := by
  simp only [nest]
  induction parent.members generalizing i with
  | nil => simp
  | cons outer rest ih =>
    rw [List.flatMap_cons]
    cases i with
    | zero =>
      rw [Nat.zero_mul, Nat.zero_add, List.getElem?_append_left (by simpa using hj)]
      simp [hj]
    | succ i =>
      -- The first row is as long as the child's list.
      have hrow : (child.members.map (nestMember outer)).length ≤
          (i + 1) * child.members.length + j := by
        rw [List.length_map, Nat.succ_mul]
        omega
      have hrest : (i + 1) * child.members.length + j -
          (child.members.map (nestMember outer)).length = i * child.members.length + j := by
        rw [List.length_map, Nat.succ_mul]
        omega
      rw [List.getElem?_append_right hrow, hrest, ih]
      rfl

/-! ## In which order a chain is nested -/

/-- A member in **suffix style** does not refer to its parent, or it does so once, at its start. -/
def IsSuffixStyle (member : String) : Prop :=
  parentMark ∉ member.toList ∨ ∃ rest : String, member = "&" ++ rest ∧ parentMark ∉ rest.toList

/-- A member in suffix style **appends a tail** of its own to its parent. -/
theorem IsSuffixStyle.exists_tail {member : String} (h : IsSuffixStyle member) :
    ∃ tail : String, parentMark ∉ tail.toList ∧
      ∀ parent, nestMember parent member = parent ++ tail := by
  rcases h with hmember | ⟨rest, rfl, hrest⟩
  · refine ⟨" " ++ member, by simpa [parentMark] using hmember, fun parent => ?_⟩
    rw [nestMember_of_not_mem hmember, String.append_assoc]
  · refine ⟨rest, hrest, fun parent => ?_⟩
    have hrefers : parentMark ∈ ("&" ++ rest).toList := by simp [parentMark]
    rw [nestMember_of_mem hrefers, substitute_mark_append, substitute_of_not_mem hrest]

/-- A member in suffix style may be nested in two others in either order. -/
theorem IsSuffixStyle.nestMember_nestMember {member : String} (h : IsSuffixStyle member)
    (outer middle : String) :
    nestMember (nestMember outer middle) member = nestMember outer (nestMember middle member) := by
  obtain ⟨tail, htail, hnest⟩ := h.exists_tail
  rw [hnest, hnest, nestMember_append htail]

/-- A member is in suffix style if it may be nested in either order in a bare reference and an empty
member. -/
theorem isSuffixStyle_of_nestMember {member : String}
    (h : nestMember (nestMember "&" "") member = nestMember "&" (nestMember "" member)) :
    IsSuffixStyle member := by
  by_cases hmember : parentMark ∈ member.toList
  · right
    -- In the empty member it loses its references, and so it becomes a descendant of the bare one.
    have hempty : parentMark ∉ (substitute "" member).toList := by simp [mem_substitute]
    have hdescendant : nestMember "&" "" = "&" ++ " " ++ "" :=
      nestMember_of_not_mem List.not_mem_nil "&"
    rw [nestMember_of_mem hmember, nestMember_of_mem hmember, nestMember_of_not_mem hempty,
      hdescendant] at h
    obtain ⟨first, rest, hchars⟩ := List.exists_cons_of_ne_nil (List.ne_nil_of_mem hmember)
    -- What is filled in for a reference at its start is what the descendant starts with.
    have hfirst : first = parentMark := by
      by_contra hfirst
      have hhead : (substitute ("&" ++ " " ++ "") member).toList.head? = some first := by
        simp [toList_substitute, hchars, hfirst]
      rw [h, String.append_assoc, String.toList_append] at hhead
      exact hfirst (Option.some.inj hhead).symm
    have hmember : member = "&" ++ String.ofList rest := by
      apply String.ext
      rw [hchars, hfirst]
      simp [parentMark]
    refine ⟨String.ofList rest, hmember, fun hrest => ?_⟩
    -- A further reference would be filled in on one side only.
    rw [hmember, substitute_mark_append, substitute_mark_append, String.empty_append,
      String.append_empty, String.append_right_inj] at h
    have hfilled : parentMark ∈ (substitute ("&" ++ " ") (String.ofList rest)).toList :=
      mem_substitute.mpr (.inr ⟨hrest, by simp [parentMark]⟩)
    rw [h, mem_substitute] at hfilled
    simp at hfilled
  · exact .inl hmember

/-- Members that are nested one after the other. -/
theorem members_nest_nest (first second third : SelectorList) :
    ((first.nest second).nest third).members = first.members.flatMap fun p =>
      second.members.flatMap fun q => third.members.map fun r => nestMember (nestMember p q) r := by
  simp only [nest, List.flatMap_assoc, List.flatMap_map]

/-- Members that are nested in one another first. -/
theorem members_nest_of_nest (first second third : SelectorList) :
    (first.nest (second.nest third)).members = first.members.flatMap fun p =>
      second.members.flatMap fun q => third.members.map fun r => nestMember p (nestMember q r) := by
  simp only [nest, List.map_flatMap, List.map_map, Function.comp_def]

/-- **Nesting is associative just for suffix style.** Take three lists of any lengths. Nesting the
second in the first and then the third, or the third in the second and then both in the first, gives
the same members in the same order, whatever the first two are, exactly if all members of the third
are in suffix style. -/
theorem nest_assoc_iff (child : SelectorList) :
    (∀ outer middle : SelectorList,
        (outer.nest middle).nest child = outer.nest (middle.nest child)) ↔
      ∀ member ∈ child.members, IsSuffixStyle member := by
  constructor
  · intro h member hmember
    have hmembers := congrArg members (h ⟨["&"]⟩ ⟨[""]⟩)
    rw [members_nest_nest, members_nest_of_nest] at hmembers
    simp only [List.flatMap_cons, List.flatMap_nil, List.append_nil, List.map_inj_left] at hmembers
    exact isSuffixStyle_of_nestMember (hmembers member hmember)
  · intro h outer middle
    have hmembers : ((outer.nest middle).nest child).members =
        (outer.nest (middle.nest child)).members := by
      rw [members_nest_nest, members_nest_of_nest]
      refine List.flatMap_congr fun p _ => List.flatMap_congr fun q _ => ?_
      exact List.map_congr_left fun r hr => (h r hr).nestMember_nestMember p q
    exact congrArg SelectorList.mk hmembers

end Stylesheet.SelectorList
