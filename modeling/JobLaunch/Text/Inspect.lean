/-!
# Inspection texts

* `Inspect.record` — a named record with its fields on one line.
* `Inspect.hiddenRecord` — a named record whose fields are not shown.
-/

namespace JobLaunch.Inspect

def field (f : String × String) : String := f.1 ++ ": " ++ f.2

def record (name : String) (fields : List (String × String)) : String :=
  name ++ " \x7b " ++ ", ".intercalate (fields.map field) ++ " \x7d"

/-- A record whose fields are not shown. -/
def hiddenRecord (name : String) : String := name ++ " \x7b .. \x7d"

/-- A text without characters that need escapes, in quotes. -/
def quoted (s : String) : String := "\"" ++ s ++ "\""

def bool (b : Bool) : String := if b then "true" else "false"

end JobLaunch.Inspect
