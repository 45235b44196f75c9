import IdentityService.Json.Value
import IdentityService.Json.Writer
import IdentityService.Text.Quoted

/-!
# Values in Messages

The text of a value inside a message: a string stands for itself, and inside a list or
an object it is quoted.  A string that spells no text stands for what people see of it.
-/

namespace IdentityService.Json

mutual

/-- The text of a value inside another value. -/
def nested : Json → String
  | null => "None"
  | bool b => if b then "True" else "False"
  | int n => String.ofList (integerText n)
  | fraction x => x.text
  | text s => Text.quoted s
  | brokenText b => Text.quotedRaw (.broken b)
  | array items => "[" ++ nestedItems items ++ "]"
  | object fields => "\x7b" ++ nestedFields fields ++ "\x7d"

/-- Items with a comma and a space between them. -/
def nestedItems : List Json → String
  | [] => ""
  | [v] => nested v
  | v :: w :: rest => nested v ++ ", " ++ nestedItems (w :: rest)

/-- Fields with a comma and a space between them. -/
def nestedFields : List (String × Json) → String
  | [] => ""
  | [(k, v)] => Text.quoted k ++ ": " ++ nested v
  | (k, v) :: f :: rest => Text.quoted k ++ ": " ++ nested v ++ ", " ++ nestedFields (f :: rest)

end

/-- A value as a string. -/
def toRaw : Json → RawText
  | text s => .text s
  | brokenText b => .broken b
  | v => .text v.nested

/-- The text of a value in a message. -/
def display (v : Json) : String := v.toRaw.shown

end IdentityService.Json
