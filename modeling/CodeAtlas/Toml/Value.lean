/-
  CodeAtlas.Toml.Value — what a settings file holds.

  Floating-point numbers and date-times are recognised but not kept: no setting has such a value.
-/

namespace CodeAtlas.Toml

/-- A value. -/
inductive Value where
  | string (s : String)
  | integer (n : Int)
  | float
  | boolean (b : Bool)
  | dateTime
  | array (items : List Value)
  | table (fields : List (String × Value))
  deriving Inhabited

end CodeAtlas.Toml
