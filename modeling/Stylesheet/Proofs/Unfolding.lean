import Mathlib.Data.Finset.Card
import Mathlib.Data.Finset.Option
import Stylesheet.Import.Expansion
import Stylesheet.Proofs.Search

/-! # The unfolding of imports

What an expansion comes to, said without any state: the pieces of a sheet with the leaves of every
imported sheet in the place of its import (`unfolding`). Nothing is remembered between two imports
of the same sheet, and of the way down only the **active** files are known, those that are importing
further out. A sheet is never unfolded while its file is active, so each level of the recursion uses
up one identifier of the resolvers, and the unfolding ends.

An unfolding keeps the leaves apart where an expansion joins those of a sheet to one piece. The
texts come to the same: joining is associative (`Sheet.joinPieces_append`), and all leaves together
join to what they come to on lines of their own (`Sheet.joinPieces_eq_onLines`). -/

namespace Stylesheet

open Diagnostic

/-! ## Joining pieces -/

namespace Sheet

/-- Two texts on lines of their own, unless one of them is empty. -/
def joinTwo (first second : String) : String :=
  if first = "" then second else if second = "" then first else first ++ "\n" ++ second

/-- Leaves **on lines of their own**: each that is not empty has a line, and nothing stands before
the first or behind the last. -/
def onLines : List String → String
  | [] => ""
  | leaf :: rest => joinTwo leaf (onLines rest)

@[simp] theorem joinPieces_singleton (piece : String) : joinPieces [piece] = piece := by
  by_cases hpiece : piece = "" <;> simp [joinPieces, hpiece]

/-- Pieces join to nothing only if all of them are empty. -/
theorem joinPieces_eq_empty_iff {pieces : List String} :
    joinPieces pieces = "" ↔ pieces.filter (· ≠ "") = [] := by
  constructor
  · intro h
    rcases hpieces : pieces.filter (· ≠ "") with _ | ⟨piece, rest⟩
    · rfl
    · have hmem : piece ∈ pieces.filter (· ≠ "") := hpieces ▸ List.mem_cons_self
      have hpiece : piece ≠ "" := by simpa using (List.mem_filter.mp hmem).2
      rw [joinPieces, hpieces] at h
      rcases rest with _ | ⟨second, rest⟩
      · rw [String.intercalate_singleton] at h
        exact absurd h hpiece
      · rw [String.intercalate_cons_cons, String.append_assoc, String.append_eq_empty_iff] at h
        exact absurd h.1 hpiece
  · intro h
    rw [joinPieces, h, String.intercalate_nil]

/-- **Joining** the pieces of two lists joins what each of them joins to. -/
theorem joinPieces_append (first second : List String) :
    joinPieces (first ++ second) = joinTwo (joinPieces first) (joinPieces second) := by
  rw [joinTwo]
  by_cases hfirst : first.filter (· ≠ "") = []
  · rw [if_pos (joinPieces_eq_empty_iff.mpr hfirst), joinPieces, joinPieces, List.filter_append,
      hfirst, List.nil_append]
  · rw [if_neg (joinPieces_eq_empty_iff.not.mpr hfirst)]
    by_cases hsecond : second.filter (· ≠ "") = []
    · rw [if_pos (joinPieces_eq_empty_iff.mpr hsecond), joinPieces, joinPieces, List.filter_append,
        hsecond, List.append_nil]
    · rw [if_neg (joinPieces_eq_empty_iff.not.mpr hsecond), joinPieces, List.filter_append,
        String.intercalate_append_of_ne_nil hfirst hsecond]
      rfl

/-- Pieces join to the first of them and what the others join to. -/
theorem joinPieces_cons (piece : String) (pieces : List String) :
    joinPieces (piece :: pieces) = joinTwo piece (joinPieces pieces) := by
  have happend := joinPieces_append [piece] pieces
  rw [List.singleton_append, joinPieces_singleton] at happend
  exact happend

/-- **Joining** pieces puts them on lines of their own. -/
theorem joinPieces_eq_onLines (pieces : List String) : joinPieces pieces = onLines pieces := by
  induction pieces with
  | nil => rfl
  | cons piece rest ih => rw [joinPieces_cons, ih, onLines]

end Sheet

/-! ## Imports without a state -/

/-- Why an import of an unfolding **fails**. -/
inductive Failure where
  /-- Nothing is found for the reference, also not below the load paths with these names. -/
  | missing (reference : String) (loadPaths : List String)
  /-- The file of the sheet that is found is active. -/
  | loop (identifier : String)
  /-- The search meets a broken file. -/
  | broken (error : CompileError)

namespace Options

/-- The files that are active for the sheets that the current file imports: it is one of them. -/
def activeInside (options : Options) (active : Finset String) : Finset String :=
  active ∪ options.filename.toFinset

/-- **What a reference imports**: the sheet that is found for it, or nothing if it names or finds a
plain CSS file. -/
def imported (options : Options) (active : Finset String) (reference : String) :
    Except Failure (Option Found) :=
  if Path.isCss reference then
    .ok none
  else
    match options.find reference with
    | .error error => .error (.broken error)
    | .ok none => .error (.missing reference options.pathNames)
    | .ok (some found) =>
      if Path.isCss found.source.identifier then
        .ok none
      else if found.source.identifier ∈ options.activeInside active then
        .error (.loop found.source.identifier)
      else
        .ok (some found)

/-- The identifiers that a search may find and that are not active. -/
def remaining (options : Options) (active : Finset String) : Finset String :=
  (options.resolvers.flatMap Resolver.identifiers).toFinset \ options.activeInside active

variable {options : Options} {active : Finset String} {reference : String} {found : Found}

/-- A reference that names a plain CSS file imports nothing. -/
theorem imported_of_isCss (hcss : Path.isCss reference = true) :
    options.imported active reference = .ok none := by
  rw [imported, if_pos hcss]

/-- A broken file that the search meets fails the import. -/
theorem imported_of_find_error (hcss : Path.isCss reference = false) {error : CompileError}
    (hfind : options.find reference = .error error) :
    options.imported active reference = .error (.broken error) := by
  rw [imported, if_neg (by simp [hcss]), hfind]

/-- A reference for which nothing is found fails the import. -/
theorem imported_of_find_none (hcss : Path.isCss reference = false)
    (hfind : options.find reference = .ok none) :
    options.imported active reference = .error (.missing reference options.pathNames) := by
  rw [imported, if_neg (by simp [hcss]), hfind]

/-- A sheet that is found is imported unless it is a plain CSS file or its file is active. -/
theorem imported_of_find_some (hcss : Path.isCss reference = false)
    (hfind : options.find reference = .ok (some found)) :
    options.imported active reference =
      if Path.isCss found.source.identifier then .ok none
      else if found.source.identifier ∈ options.activeInside active then
        .error (.loop found.source.identifier)
      else .ok (some found) := by
  rw [imported, if_neg (by simp [hcss]), hfind]

/-- A sheet that is imported has been found, and its file is not active. -/
theorem find_of_imported (h : options.imported active reference = .ok (some found)) :
    options.find reference = .ok (some found) ∧
      found.source.identifier ∉ options.activeInside active := by
  rcases hcss : Path.isCss reference
  · rcases hfind : options.find reference with error | _ | other
    · rw [imported_of_find_error hcss hfind] at h
      cases h
    · rw [imported_of_find_none hcss hfind] at h
      cases h
    · -- Of the sheets that are found only those are left that are neither plain CSS nor active.
      rw [imported_of_find_some hcss hfind] at h
      by_cases hplain : Path.isCss other.source.identifier = true
      · rw [if_pos hplain] at h
        cases h
      · by_cases hactive : other.source.identifier ∈ options.activeInside active
        · rw [if_neg hplain, if_pos hactive] at h
          cases h
        · rw [if_neg hplain, if_neg hactive] at h
          cases h
          exact ⟨rfl, hactive⟩
  · rw [imported_of_isCss hcss] at h
    cases h

/-- An import uses up the identifier of its sheet. -/
theorem remaining_ssubset (h : options.imported active reference = .ok (some found)) :
    (found.options options).remaining (options.activeInside active) ⊂ options.remaining active := by
  obtain ⟨hfind, hactive⟩ := find_of_imported h
  refine (Finset.ssubset_iff_of_subset ?_).mpr ⟨found.source.identifier, ?_, ?_⟩
  · -- Nothing can be found that could not be found before.
    intro identifier hidentifier
    simp only [remaining, Finset.mem_sdiff, List.mem_toFinset, List.mem_flatMap] at hidentifier ⊢
    obtain ⟨⟨resolver, hresolver, hmem⟩, hinactive⟩ := hidentifier
    refine ⟨?_, fun hbefore => hinactive (Finset.mem_union_left _ hbefore)⟩
    rcases mem_resolvers_forSheet hresolver with rfl | hresolver
    · exact ⟨found.resolver, resolver_mem_of_find hfind, hmem⟩
    · exact ⟨resolver, hresolver, hmem⟩
  · -- The identifier could be found before.
    simp only [remaining, Finset.mem_sdiff, List.mem_toFinset, List.mem_flatMap]
    exact ⟨⟨found.resolver, resolver_mem_of_find hfind, identifier_mem_of_find hfind⟩, hactive⟩
  · -- It is the current file now.
    simp [remaining, activeInside, Found.options, forSheet]

end Options

/-- The leaf of a plain CSS import, which stays a statement. -/
def plainLeaf (reference : String) : String :=
  "@import \"" ++ reference ++ "\";"

/-- A plain CSS import is rendered as its leaf. -/
theorem Expansion.cssImport_eq_plainLeaf (reference : String) :
    cssImport reference = plainLeaf reference := rfl

/-- **The unfolding** of the pieces of a sheet: its leaves, in source order, with those of every
imported sheet in the place of its import. -/
def unfolding (options : Options) (active : Finset String) :
    List Item → Except Failure (List String)
  | [] => return []
  | .css text :: rest => do
    return text :: (← unfolding options active rest)
  | .atImport reference _ :: rest =>
    match _h : options.imported active reference with
    | .error failure => throw failure
    | .ok none => do
      return plainLeaf reference :: (← unfolding options active rest)
    | .ok (some found) => do
      let leaves ←
        unfolding (found.options options) (options.activeInside active) found.source.items
      return leaves ++ (← unfolding options active rest)
termination_by items => ((options.remaining active).card, items.length)
decreasing_by
  all_goals first
    | exact Prod.Lex.right _ (Nat.lt_succ_self _)
    | exact Prod.Lex.left _ _ (Finset.card_lt_card (Options.remaining_ssubset _h))

/-- An import is unfolded as what its reference imports. -/
theorem unfolding_atImport (options : Options) (active : Finset String) (reference : String)
    (line : Nat) (rest : List Item) :
    unfolding options active (.atImport reference line :: rest) =
      match options.imported active reference with
      | .error failure => .error failure
      | .ok none =>
        (unfolding options active rest).map (plainLeaf reference :: ·)
      | .ok (some found) =>
        unfolding (found.options options) (options.activeInside active) found.source.items >>=
          fun leaves => (unfolding options active rest).map (leaves ++ ·) := by
  rw [unfolding]
  split
  · next himported =>
    rw [himported]
    rfl
  · next himported =>
    rw [himported]
    rcases unfolding options active rest <;> rfl
  · next found himported =>
    rw [himported]
    dsimp only
    rcases unfolding (found.options options) (options.activeInside active) found.source.items
    · rfl
    · rcases unfolding options active rest <;> rfl

end Stylesheet
