import BranchCompare.Decimal.Shortest
import BranchCompare.Text.Quoted
import BranchCompare.OrderedMap

/-!
# JSON values

The values of JSON, with whole numbers of any size kept apart from floating point numbers, and
objects as entries in the order of the text.  Next to the type: when a value counts as absent, when
two values are the same, and how a value is shown inside a message.
-/

namespace BranchCompare

inductive Json where
  | null
  | bool (value : Bool)
  | int (value : Int)
  | float (value : Float)
  | text (value : String)
  | array (items : List Json)
  | object (fields : List (String × Json))
  deriving Inhabited

namespace Json

/-- The value is empty: nothing, false, zero, or without content. -/
def isEmpty : Json → Bool
  | .null => true
  | .bool value => !value
  | .int value => value == 0
  | .float value => value == 0.0
  | .text value => value.isEmpty
  | .array items => items.isEmpty
  | .object fields => fields.isEmpty

def text? : Json → Option String
  | .text value => some value
  | _ => none

mutual

/-- A value as a message shows it. -/
def display : Json → String
  | .null => "None"
  | .bool true => "True"
  | .bool false => "False"
  | .int value => toString value
  | .float value => Decimal.floatText value
  | .text value => Text.quoted value
  | .array items => "[" ++ ", ".intercalate (displayItems items) ++ "]"
  | .object fields => "\x7b" ++ ", ".intercalate (displayFields fields) ++ "\x7d"

def displayItems : List Json → List String
  | [] => []
  | item :: rest => display item :: displayItems rest

def displayFields : List (String × Json) → List String
  | [] => []
  | (name, value) :: rest => (Text.quoted name ++ ": " ++ display value) :: displayFields rest

end

/-- A value as plain text: a text is itself, anything else as a message shows it. -/
def plainText : Json → String
  | .text value => value
  | value => value.display

/-- The number that a value stands for, if any: the truth values count as one and zero. -/
def number? : Json → Option (Int ⊕ Float)
  | .bool value => some (.inl (if value then 1 else 0))
  | .int value => some (.inl value)
  | .float value => some (.inr value)
  | _ => none

/-- The whole number equal to a floating point number. -/
def wholeNumber? (x : Float) : Option Int :=
  match Decimal.kindOf x with
  | .zero _ => some 0
  | .finite negative size =>
    let value := size.ratio
    if value.numerator % value.denominator = 0 then
      let whole : Int := value.numerator / value.denominator
      some (if negative then -whole else whole)
    else none
  | _ => none

/-- Two numbers are equal as numbers, whatever their kinds. -/
def sameNumber : Int ⊕ Float → Int ⊕ Float → Bool
  | .inl a, .inl b => a == b
  | .inr a, .inr b => a == b
  | .inl a, .inr b => wholeNumber? b == some a
  | .inr a, .inl b => wholeNumber? a == some b

mutual

/-- Two values are the same: numbers by their value, objects without regard to order. -/
def same : Json → Json → Bool
  | .null, .null => true
  | .text a, .text b => a == b
  | .array a, .array b => sameItems a b
  | .object a, .object b => a.length == b.length && sameFields a b
  | a, b =>
    match number? a, number? b with
    | some x, some y => sameNumber x y
    | _, _ => false

/-- Two lists of values are the same item by item. -/
def sameItems : List Json → List Json → Bool
  | [], [] => true
  | a :: as, b :: bs => same a b && sameItems as bs
  | _, _ => false

/-- Each field of the first object is in the second one with the same value. -/
def sameFields : List (String × Json) → List (String × Json) → Bool
  | [], _ => true
  | (name, value) :: rest, fields =>
    (match OrderedMap.get? name fields with
      | some other => same value other
      | none => false) && sameFields rest fields

end

end Json

end BranchCompare
