set_option autoImplicit false

namespace GreedyMatch.Text

def commaSeparated (parts : List String) : String := String.intercalate ", " parts

def record (name : String) (fields : List (String × String)) : String :=
  name ++ " \x7b " ++ commaSeparated (fields.map fun field => field.1 ++ ": " ++ field.2) ++ " \x7d"

def applied (name : String) (arguments : List String) : String :=
  name ++ "(" ++ commaSeparated arguments ++ ")"

def listed (parts : List String) : String := "[" ++ commaSeparated parts ++ "]"

end GreedyMatch.Text
