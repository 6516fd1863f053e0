import Stylesheet.Text.Quoted

/-! # Names of bindings

Style sheets read `_` and `-` as the same character, so `$main_color` and `$main-color` name one
binding. A **name** is the hyphenated spelling; folding happens once, when the name is built. -/

namespace Stylesheet

namespace Name

/-- The character under which a written character counts in a name. -/
def fold (c : Char) : Char :=
  if c = '_' then '-' else c

/-- The **normalized** spelling: every underscore becomes a hyphen. -/
def normalize (raw : String) : String :=
  String.ofList (raw.toList.map fold)

/-- Folding a folded character changes nothing. -/
@[simp] theorem fold_fold (c : Char) : fold (fold c) = fold c := by
  by_cases h : c = '_' <;> simp [fold, h]

/-- The characters of a normalized spelling are the folded characters. -/
@[simp] theorem toList_normalize (raw : String) :
    (normalize raw).toList = raw.toList.map fold := by
  simp [normalize]

/-- Normalizing twice is normalizing once. -/
@[simp] theorem normalize_normalize (raw : String) : normalize (normalize raw) = normalize raw := by
  rw [normalize, toList_normalize, normalize, List.map_map]
  congr 2
  funext c
  exact fold_fold c

end Name

/-- A binding's **name**: a text in its normalized spelling. -/
structure Name where
  /-- The spelling. -/
  text : String
  /-- The spelling is normalized. -/
  normalized : Name.normalize text = text
  deriving DecidableEq

namespace Name

/-- Two names with the same spelling are the same name. -/
@[ext] theorem ext {a b : Name} (h : a.text = b.text) : a = b := by
  cases a; cases b; cases h; rfl

/-- The name that a written identifier stands for. -/
def ofRaw (raw : String) : Name :=
  ⟨normalize raw, normalize_normalize raw⟩

@[simp] theorem text_ofRaw (raw : String) : (ofRaw raw).text = normalize raw := rfl

/-- Two spellings name one binding exactly if they agree after normalization. -/
theorem ofRaw_eq_iff {a b : String} : ofRaw a = ofRaw b ↔ normalize a = normalize b :=
  ⟨fun h => congrArg Name.text h, fun h => ext h⟩

/-- Names are ordered by the code points of their spelling. -/
instance : Ord Name := ⟨fun a b => compare a.text b.text⟩

/-- A name as debugging output shows it. -/
def debugText (name : Name) : String :=
  "Name(" ++ Text.quoted name.text ++ ")"

end Name

end Stylesheet
