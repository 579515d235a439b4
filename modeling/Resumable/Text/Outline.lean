import Resumable.Text.Quoted

/-!
# Outlines of values

An outline is the skeleton that diagnostics show of a value: a constructor with its arguments, or
with its named fields.  It is printed either on one line, or spread over lines with one argument or
field a line, each indented by four spaces and followed by a comma.  A record may leave some fields
untold, which both forms show by two dots.
-/

namespace Resumable.Text

/-- The skeleton of a value. -/
inductive Outline where
  | atom (text : String)
  | call (name : String) (arguments : List Outline)
  /-- A constructor with its named fields; `untold` when there are more than these. -/
  | record (name : String) (fields : List (String × Outline)) (untold : Bool)

namespace Outline

def ofOption {α : Type} (outline : α → Outline) : Option α → Outline
  | none => .atom "None"
  | some a => .call "Some" [outline a]

/-- The outline of a text, which shows it quoted. -/
def ofString (s : String) : Outline :=
  .atom (Quoted.quote s)

def ofBool (b : Bool) : Outline :=
  .atom (if b then "true" else "false")

def ofInt (n : Int) : Outline :=
  .atom (toString n)

/-! ## On one line -/

mutual

def line : Outline → String
  | .atom text => text
  | .call name args => name ++ "(" ++ lineItems args ++ ")"
  | .record name fields untold =>
    name ++ " \x7b " ++ lineFields fields ++ (if untold then ", .." else "") ++ " \x7d"

/-- Arguments on one line, separated by commas. -/
def lineItems : List Outline → String
  | [] => ""
  | [o] => o.line
  | o :: rest => o.line ++ ", " ++ lineItems rest

def lineFields : List (String × Outline) → String
  | [] => ""
  | [(name, o)] => name ++ ": " ++ o.line
  | (name, o) :: rest => name ++ ": " ++ o.line ++ ", " ++ lineFields rest

end

/-! ## Over several lines -/

/-- The blanks in front of a line at a given depth. -/
def margin (depth : Nat) : String :=
  String.ofList (List.replicate (4 * depth) ' ')

mutual

/-- The outline over several lines, where the line it starts on stands at the given depth. -/
def block (depth : Nat) : Outline → String
  | .atom text => text
  | .call name args =>
    name ++ "(\n" ++ blockItems (depth + 1) args ++ margin depth ++ ")"
  | .record name fields untold =>
    name ++ " \x7b\n" ++ blockFields (depth + 1) fields
      ++ (if untold then margin (depth + 1) ++ "..\n" else "") ++ margin depth ++ "\x7d"

/-- Arguments, one a line. -/
def blockItems (depth : Nat) : List Outline → String
  | [] => ""
  | o :: rest => margin depth ++ o.block depth ++ ",\n" ++ blockItems depth rest

def blockFields (depth : Nat) : List (String × Outline) → String
  | [] => ""
  | (name, o) :: rest =>
    margin depth ++ name ++ ": " ++ o.block depth ++ ",\n" ++ blockFields depth rest

end

/-- The outline over several lines, from the left margin. -/
def lines (o : Outline) : String :=
  o.block 0

end Outline

end Resumable.Text
