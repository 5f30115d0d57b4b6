import AuthChain.Text.Quoted

/-!
# Layout of described values

One-line descriptions of values: a record with named fields, a constructor with arguments, lists,
mappings and optional values.
-/

namespace AuthChain.Text

/-- Texts between brackets, separated by commas. -/
def listed (items : List String) : String :=
  "[" ++ ", ".intercalate items ++ "]"

/-- Pairs of texts between braces, separated by commas. -/
def mapped (items : List (String × String)) : String :=
  "\x7b" ++ ", ".intercalate (items.map fun (k, v) => k ++ ": " ++ v) ++ "\x7d"

/-- A constructor with its arguments. -/
def applied (name : String) (arguments : List String) : String :=
  name ++ "(" ++ ", ".intercalate arguments ++ ")"

/-- A tuple. -/
def tupled (items : List String) : String :=
  applied "" items

/-- A record with its fields. -/
def recorded (name : String) (fields : List (String × String)) : String :=
  name ++ " \x7b " ++ ", ".intercalate (fields.map fun (k, v) => k ++ ": " ++ v) ++ " \x7d"

/-- A record of which only some fields are shown. -/
def partlyRecorded (name : String) (fields : List (String × String)) : String :=
  name ++ " \x7b " ++ ", ".intercalate (fields.map fun (k, v) => k ++ ": " ++ v) ++ ", .. \x7d"

/-- An optional value. -/
def optional {α : Type} (describe : α → String) : Option α → String
  | some a => applied "Some" [describe a]
  | none => "None"

/-- A truth value. -/
def truth (b : Bool) : String :=
  if b then "true" else "false"

end AuthChain.Text
