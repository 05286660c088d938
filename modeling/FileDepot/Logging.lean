import FileDepot.Text.Case

/-!
# Logging

Which notes are shown is set by a level, given by name in any case; a name that is none sets the usual
level.
-/

namespace FileDepot.Logging

/-- The levels by name. -/
def levels : List (String × Nat) :=
  [("CRITICAL", 50), ("FATAL", 50), ("ERROR", 40), ("WARN", 30), ("WARNING", 30), ("INFO", 20),
    ("DEBUG", 10), ("NOTSET", 0)]

/-- The level that is set when none is named. -/
def usualLevel : Nat := 20

/-- The form of a line of the log. -/
def lineFormat : String := "%(asctime)s %(levelname)s %(name)s: %(message)s"

/-- How notes are shown. -/
structure Setup where
  /-- the level -/
  level : Nat
  /-- how many outputs there are -/
  outputs : Nat
  /-- the form of a line -/
  format : String
  deriving DecidableEq, Repr

/-- Show the notes from a level on. -/
def configure (name : Option String) : Setup :=
  let given := name.getD ""
  let wanted := Text.upper (if given.isEmpty then "INFO" else given)
  ⟨(levels.lookup wanted).getD usualLevel, 1, lineFormat⟩

end FileDepot.Logging
