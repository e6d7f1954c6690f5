import Provisioning.Text.Quoted

/-! # Compact JSON

The values that the program writes: whole numbers, truth values, texts, lists, and objects whose
fields keep the order in which they are given. Nothing is put between the tokens, so a value is
written on one line.
-/

namespace Provisioning

inductive Json where
  | null
  | bool (value : Bool)
  | number (value : Nat)
  | text (value : String)
  | list (items : List Json)
  | object (fields : List (String × Json))

namespace Json

/-- An absent value is written as `null`. -/
def ofOption {α : Type} (write : α → Json) : Option α → Json
  | none => null
  | some value => write value

mutual

/-- The characters of a value. -/
def chars : Json → List Char
  | null => "null".toList
  | bool value => (if value then "true" else "false").toList
  | number value => Nat.toDigits 10 value
  | text value => Text.Quoted.encode value.toList
  | list items => '[' :: (itemChars items ++ [']'])
  | object fields => '\x7b' :: (fieldChars fields ++ ['\x7d'])

/-- The items of a list with commas between them. -/
def itemChars : List Json → List Char
  | [] => []
  | [item] => item.chars
  | item :: next :: rest => item.chars ++ ',' :: itemChars (next :: rest)

/-- The fields of an object with commas between them. -/
def fieldChars : List (String × Json) → List Char
  | [] => []
  | [(name, value)] => Text.Quoted.encode name.toList ++ ':' :: value.chars
  | (name, value) :: next :: rest =>
      Text.Quoted.encode name.toList ++ ':' :: (value.chars ++ ',' :: fieldChars (next :: rest))

end

/-- The text of a value. -/
def render (value : Json) : String := String.ofList value.chars

end Json

end Provisioning
