import Stylesheet.Decimal.Double

/-! # Script values

The values that variables hold, with their printed form, their truth and their equality. Arithmetic
and units' conversion belong to an expression evaluator and are not part of this library. -/

namespace Stylesheet

/-- A number with an optional unit, such as `10px` or `3`. -/
structure Number where
  /-- The magnitude, a double. -/
  value : Float
  /-- The unit, if the number has one. -/
  unit : Option String

/-- What stands between the members of a list. -/
inductive Separator where
  /-- A space. -/
  | space
  /-- A comma and a space. -/
  | comma
  deriving DecidableEq

/-- A **script value**. -/
inductive Value where
  /-- The absent value. -/
  | null
  /-- A truth value. -/
  | bool (b : Bool)
  /-- A number. -/
  | number (n : Number)
  /-- A text, which remembers whether it was written with quotes. -/
  | string (text : String) (quoted : Bool)
  /-- A list of values. -/
  | list (members : List Value) (separator : Separator)

namespace Number

/-- Numbers are equal if their magnitudes are equal as doubles, so that zero equals negative zero
and a NaN differs from itself, and their units are the same. -/
protected def beq (a b : Number) : Bool :=
  a.value == b.value && a.unit == b.unit

instance : BEq Number := ⟨Number.beq⟩

/-- A number is printed with its unit behind it. -/
def text (n : Number) : String :=
  Double.text n.value ++ n.unit.getD ""

end Number

/-- The separator as it is printed. -/
def Separator.text : Separator → String
  | space => " "
  | comma => ", "

namespace Value

/-- Every value but `null` and `false` counts as true. -/
def isTruthy : Value → Bool
  | null => false
  | bool b => b
  | _ => true

mutual

/-- Values are equal if they have the same shape and equal parts. -/
protected def beq : Value → Value → Bool
  | null, null => true
  | bool a, bool b => a == b
  | number a, number b => a == b
  | string a q, string b r => a == b && q == r
  | list as s, list bs t => s == t && Value.beqList as bs
  | _, _ => false

/-- Lists are equal member by member. -/
protected def beqList : List Value → List Value → Bool
  | [], [] => true
  | a :: as, b :: bs => a.beq b && Value.beqList as bs
  | _, _ => false

end

instance : BEq Value := ⟨Value.beq⟩

mutual

/-- A value **as it is printed**: `null` prints as nothing, a quoted text between plain quotes, and
a list with its separator between any two members. -/
def text : Value → String
  | null => ""
  | bool b => if b then "true" else "false"
  | number n => n.text
  | string text quoted => if quoted then "\"" ++ text ++ "\"" else text
  | list members separator => separator.text.intercalate (texts members)

/-- The members of a list as they are printed. -/
def texts : List Value → List String
  | [] => []
  | v :: rest => v.text :: texts rest

end

end Value

end Stylesheet
