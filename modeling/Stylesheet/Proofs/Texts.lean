import Mathlib.Data.Finset.Card
import Stylesheet.Proofs.Runs
import Stylesheet.Proofs.Unfolding

/-! # Texts of sheets

The text of a sheet shows what its imports have been resolved to so far. `Imports.sheetText`
computes it to a depth that is counted off; this module shows that in a reachable state the depth is
never used up, so the text satisfies the equation that one would write down for it
(`Imports.Reachable.sheetText_eq`): sheets are made of newer statements than those they have been
found for, and only so many statements have outcomes. Of a text it matters whether it is empty, and
it is empty exactly as long as none of the nodes that the sheet leads to **shows** anything
(`Imports.Shows`). -/

namespace Stylesheet

namespace Sheet

/-- Pieces join to some text if one of them is not empty. -/
theorem joinPieces_ne_empty_iff {pieces : List String} :
    joinPieces pieces ≠ "" ↔ ∃ piece ∈ pieces, piece ≠ "" := by
  rw [ne_eq, joinPieces_eq_empty_iff, List.filter_eq_nil_iff]
  simp

end Sheet

namespace Imports

variable {imports before after : Imports} {issued : Set ImportStatement}

/-! ## The equation of the text -/

/-- What a sheet shows of a node, given the texts of the sheets that have been imported. -/
def nodeTextWith (imports : Imports) (text : Sheet → String) : Node → String
  | .css written => written
  | .atImport statement =>
    match imports.resolvedSheet? statement with
    | none => ""
    | some imported => text imported

/-- **What a sheet shows of a node**: its CSS, or the text of the sheet that it has resolved to. -/
def nodeText (imports : Imports) : Node → String :=
  imports.nodeTextWith imports.sheetText

/-- A text is joined from what the sheet shows of its nodes, one level less deep. -/
theorem textWithin_succ (imports : Imports) (depth : Nat) (sheet : Sheet) :
    imports.textWithin (depth + 1) sheet =
      Sheet.joinPieces (sheet.children.map (imports.nodeTextWith (imports.textWithin depth))) := by
  rw [textWithin]
  congr 2

/-- The keys from `bound` on that have outcomes. -/
def settledFrom (imports : Imports) (bound : Nat) : Finset Nat :=
  imports.outcomes.keys.toFinset.filter (bound ≤ ·)

theorem mem_settledFrom {bound key : Nat} :
    key ∈ imports.settledFrom bound ↔ bound ≤ key ∧ key ∈ imports.outcomes := by
  rw [settledFrom, Finset.mem_filter, List.mem_toFinset, Std.ExtTreeMap.mem_keys, and_comm]

theorem card_settledFrom_le (bound : Nat) :
    (imports.settledFrom bound).card ≤ imports.outcomes.size := by
  calc (imports.settledFrom bound).card
      ≤ imports.outcomes.keys.toFinset.card := Finset.card_filter_le _ _
    _ ≤ imports.outcomes.keys.length := List.toFinset_card_le _
    _ = imports.outcomes.size := Std.ExtTreeMap.length_keys

/-- Behind a statement that has an outcome there are fewer outcomes to come. -/
theorem card_settledFrom_lt {statement : ImportStatement} {outcome : Option Resolution}
    (hsettled : imports.outcome? statement = some outcome) {bound : Nat}
    (hbound : bound ≤ statement.key) :
    (imports.settledFrom (statement.key + 1)).card < (imports.settledFrom bound).card := by
  apply Finset.card_lt_card
  refine (Finset.ssubset_iff_of_subset ?_).mpr ⟨statement.key, ?_, ?_⟩
  · intro key hkey
    rw [mem_settledFrom] at hkey ⊢
    exact ⟨by omega, hkey.2⟩
  · have hmem : statement.key ∈ imports.outcomes :=
      Std.ExtTreeMap.mem_iff_isSome_getElem?.mpr (Option.isSome_of_eq_some hsettled)
    exact mem_settledFrom.mpr ⟨hbound, hmem⟩
  · rw [mem_settledFrom]
    omega

/-- **The depth is not used up** if there are fewer outcomes to come: one level more makes no
difference. -/
theorem Reachable.textWithin_succ_eq (h : imports.Reachable issued) {depth bound : Nat}
    {sheet : Sheet} (hbound : ∀ inner ∈ sheet.imports, bound ≤ inner.key)
    (hdepth : (imports.settledFrom bound).card < depth) :
    imports.textWithin (depth + 1) sheet = imports.textWithin depth sheet := by
  induction depth generalizing bound sheet with
  | zero => exact absurd hdepth (Nat.not_lt_zero _)
  | succ depth ih =>
    rw [textWithin_succ, textWithin_succ]
    congr 1
    apply List.map_congr_left
    rintro (text | statement) hmem
    · rfl
    · rw [nodeTextWith, nodeTextWith]
      rcases houtcome : imports.outcome? statement with _ | _ | found
      · simp [resolvedSheet?, houtcome]
      · simp [resolvedSheet?, houtcome]
      · -- The statements of the sheet that is entered are newer than the one it is entered from.
        have hresolved : imports.resolvedSheet? statement = some found.sheet := by
          simp [resolvedSheet?, houtcome]
        have hkey := hbound statement (Sheet.mem_imports.mpr hmem)
        have hfewer := card_settledFrom_lt houtcome hkey
        rw [hresolved]
        exact ih (fun inner hinner => h.key_lt houtcome hinner)
          (hfewer.trans_le (Nat.le_of_lt_succ hdepth))

/-- **The text of a sheet** is joined from what the sheet shows of its nodes. -/
theorem Reachable.sheetText_eq (h : imports.Reachable issued) (sheet : Sheet) :
    imports.sheetText sheet = Sheet.joinPieces (sheet.children.map imports.nodeText) := by
  have hdepth : (imports.settledFrom 0).card < imports.outcomes.size + 1 :=
    Nat.lt_succ_of_le (card_settledFrom_le 0)
  calc imports.sheetText sheet
      = imports.textWithin (imports.outcomes.size + 2) sheet :=
        (h.textWithin_succ_eq (fun _ _ => Nat.zero_le _) hdepth).symm
    _ = Sheet.joinPieces (sheet.children.map imports.nodeText) := textWithin_succ _ _ _

/-- What a sheet shows of a statement is the text of the sheet that it has resolved to. -/
theorem nodeText_of_found {statement : ImportStatement} {found : Resolution}
    (hfound : imports.outcome? statement = some (some found)) :
    imports.nodeText (.atImport statement) = imports.sheetText found.sheet := by
  simp [nodeText, nodeTextWith, resolvedSheet?, hfound]

/-- As long as nothing has been found for a statement, nothing is shown of it. -/
theorem nodeText_of_not_found {statement : ImportStatement}
    (hfound : ∀ found, imports.outcome? statement ≠ some (some found)) :
    imports.nodeText (.atImport statement) = "" := by
  rcases houtcome : imports.outcome? statement with _ | _ | found
  · simp [nodeText, nodeTextWith, resolvedSheet?, houtcome]
  · simp [nodeText, nodeTextWith, resolvedSheet?, houtcome]
  · exact absurd houtcome (hfound found)

/-- **Plain CSS shows nothing**, be it known by the reference or by what it has resolved to. -/
theorem Reachable.nodeText_of_isCss (h : imports.Reachable issued) {statement : ImportStatement}
    (hissued : statement ∈ issued)
    (hcss : ∀ found, imports.outcome? statement = some (some found) →
      Path.isCss statement.reference = true ∨ Path.isCss found.sheet.identifier = true) :
    imports.nodeText (.atImport statement) = "" := by
  by_cases hfound : ∃ found, imports.outcome? statement = some (some found)
  · obtain ⟨found, hfound⟩ := hfound
    rw [nodeText_of_found hfound, h.sheetText_eq,
      h.children_eq_nil hissued hfound (hcss found hfound)]
    rfl
  · exact nodeText_of_not_found (not_exists.mp hfound)

/-! ## Empty texts -/

/-- A node **shows something**: CSS that is not empty, or a sheet in which some node does. -/
inductive Shows (imports : Imports) : Node → Prop
  /-- There is CSS. -/
  | css {text : String} (htext : text ≠ "") : Shows imports (.css text)
  /-- The statement has resolved to a sheet in which a node shows something. -/
  | inside {statement : ImportStatement} {found : Resolution} {node : Node}
    (hfound : imports.outcome? statement = some (some found)) (hnode : node ∈ found.sheet.children)
    (hshows : Shows imports node) : Shows imports (.atImport statement)

/-- What a node shows it shows also when more has been resolved. -/
theorem Shows.of_keeps (hkeeps : before.Keeps after) {node : Node} (h : before.Shows node) :
    after.Shows node := by
  induction h with
  | css htext => exact .css htext
  | inside hfound hnode _ ih => exact .inside (hkeeps _ _ hfound) hnode ih

/-- A text that is not empty comes from a node that shows something. -/
theorem exists_shows_of_textWithin {depth : Nat} {sheet : Sheet}
    (htext : imports.textWithin depth sheet ≠ "") : ∃ node ∈ sheet.children, imports.Shows node := by
  induction depth generalizing sheet with
  | zero => exact absurd rfl htext
  | succ depth ih =>
    rw [textWithin_succ, Sheet.joinPieces_ne_empty_iff] at htext
    obtain ⟨piece, hpiece, hne⟩ := htext
    obtain ⟨node, hmem, rfl⟩ := List.mem_map.mp hpiece
    refine ⟨node, hmem, ?_⟩
    cases node with
    | css text => exact .css hne
    | atImport statement =>
      rw [nodeTextWith] at hne
      rcases houtcome : imports.outcome? statement with _ | _ | found
      all_goals simp only [resolvedSheet?, houtcome, Option.join_none, Option.join_some,
        Option.map_none, Option.map_some] at hne
      · exact absurd rfl hne
      · exact absurd rfl hne
      · obtain ⟨inner, hinner, hshows⟩ := ih hne
        exact .inside houtcome hinner hshows

/-- A node shows something exactly if its text is not empty. -/
theorem Reachable.shows_iff (h : imports.Reachable issued) {node : Node} :
    imports.Shows node ↔ imports.nodeText node ≠ "" := by
  constructor
  · intro hshows
    induction hshows with
    | css htext => exact htext
    | inside hfound hnode _ ih =>
      rw [nodeText_of_found hfound, h.sheetText_eq, Sheet.joinPieces_ne_empty_iff]
      exact ⟨_, List.mem_map_of_mem hnode, ih⟩
  · intro htext
    cases node with
    | css text => exact .css htext
    | atImport statement =>
      by_cases hfound : ∃ found, imports.outcome? statement = some (some found)
      · obtain ⟨found, hfound⟩ := hfound
        rw [nodeText_of_found hfound] at htext
        obtain ⟨inner, hinner, hshows⟩ := exists_shows_of_textWithin htext
        exact .inside hfound hinner hshows
      · exact absurd (nodeText_of_not_found (not_exists.mp hfound)) htext

end Imports

end Stylesheet
