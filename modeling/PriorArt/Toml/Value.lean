import PriorArt.Text.Basic

/-!
# TOML values

A TOML document is a table of values. Strings, whole numbers and booleans are read for what they
mean. Floating-point numbers, dates and times are kept as they are written, since no setting has
such a value.
-/

namespace PriorArt.Toml

/-- A TOML value. -/
inductive Value where
  | string (text : Text)
  | integer (number : Int)
  | float (written : Text)
  | boolean (value : Bool)
  /-- A date, a time, or both. -/
  | moment (written : Text)
  | array (items : List Value)
  | table (entries : List (Text × Value))
  deriving Inhabited

/-- A document is the list of the entries of its outermost table. -/
abbrev Document := List (Text × Value)

end PriorArt.Toml
