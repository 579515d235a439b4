import Resumable.Text.Quoted

/-!
# Data

The values that scripted bodies pass around: nothing, truth values, integers, texts, and lists of
these.  Each has a compact written form, in which texts stand between double quotes and control
characters are escaped.
-/

namespace Resumable.Scenario

open Text.Quoted (hexDigit)

/-- A value of a script. -/
inductive Datum where
  | null
  | bool (b : Bool)
  | int (n : Int)
  | text (s : String)
  | list (items : List Datum)
deriving Inhabited

namespace Datum

def escape (c : Char) : List Char :=
  if c = '"' then ['\\', '"']
  else if c = '\\' then ['\\', '\\']
  else if c = '\x08' then ['\\', 'b']
  else if c = '\t' then ['\\', 't']
  else if c = '\n' then ['\\', 'n']
  else if c = '\x0c' then ['\\', 'f']
  else if c = '\r' then ['\\', 'r']
  else if c.toNat < 0x20 then
    ['\\', 'u', '0', '0', hexDigit (c.toNat / 16), hexDigit (c.toNat % 16)]
  else [c]

def quote (s : String) : String :=
  String.ofList ('"' :: (s.toList.flatMap escape ++ ['"']))

mutual

/-- The compact written form of a value. -/
def compact : Datum → String
  | .null => "null"
  | .bool b => if b then "true" else "false"
  | .int n => toString n
  | .text s => quote s
  | .list items => "[" ++ compactItems items ++ "]"

/-- The written forms of the items of a list, separated by commas. -/
def compactItems : List Datum → String
  | [] => ""
  | [d] => d.compact
  | d :: rest => d.compact ++ "," ++ compactItems rest

end

/-- A value as it stands in a message: a text bare, anything else in its written form. -/
def message : Datum → String
  | .text s => s
  | d => d.compact

/-- What stands for a value that is undefined. -/
def undefined : Datum :=
  .text "undefined"

/-- The integer that a value adds to a counter, which is zero for anything but an integer. -/
def increment : Datum → Int
  | .int n => n
  | _ => 0

end Datum

end Resumable.Scenario
