import IdentityService.Json.Value
import IdentityService.Text.Blank
import IdentityService.Text.CaseFold

/-!
# Reading Enumerations from Free Text

One look-up for every enumeration: free text is trimmed and its case is folded, then
it is looked up among the names of the members and after that among their values.

## Main definitions

- `Enumeration.distinct`: the members proper, without later ones of an equal value.
- `Enumeration.index`: every folded name and value with the member it stands for.
- `Enumeration.parse?`: the look-up.
-/

namespace IdentityService

/-- A name given to a value. -/
structure Member where
  name : String
  value : Json

/-- Definitions of names in order. -/
abbrev Enumeration := List Member

namespace Enumeration

/-! ## §1 Members -/

/-- Puts a field among fields in the order of their names. -/
def insertField (field : String × Json) : List (String × Json) → List (String × Json)
  | [] => [field]
  | other :: rest =>
      if field.1 < other.1 then field :: other :: rest else other :: insertField field rest

mutual

/-- The form that equal values have in common.  A boolean equals zero or one, a whole fraction
equals an integer, and the fields of an object may stand in any order. -/
def canonical : Json → Json
  | .bool b => .int (if b then 1 else 0)
  | .fraction x =>
      match x.integer? with
      | some n => .int n
      | none => .fraction x
  | .array items => .array (canonicalItems items)
  | .object fields => .object (canonicalFields fields)
  | v => v

/-- The common forms of items. -/
def canonicalItems : List Json → List Json
  | [] => []
  | v :: rest => canonical v :: canonicalItems rest

/-- The common forms of fields, in the order of their names. -/
def canonicalFields : List (String × Json) → List (String × Json)
  | [] => []
  | (name, v) :: rest => insertField (name, canonical v) (canonicalFields rest)

end

/-- Values are equal when they have the same form in common. -/
def sameValue (a b : Json) : Bool := canonical a == canonical b

/-- The definitions whose value no definition in `seen` has, in order. -/
def distinctFrom (seen : List Json) : Enumeration → Enumeration
  | [] => []
  | m :: rest =>
      if seen.any (sameValue m.value) then distinctFrom seen rest
      else m :: distinctFrom (m.value :: seen) rest

/-- The members: a later definition with an equal value is another name of the first one, and
no member. -/
def distinct (e : Enumeration) : Enumeration := distinctFrom [] e

/-! ## §2 Look-up -/

/-- Looks up a key; of several entries the first counts. -/
def lookup? {α : Type} (key : String) (entries : List (String × α)) : Option α :=
  (entries.find? (·.1 == key)).map (·.2)

/-- Adds the name of a member, which replaces what the key stood for, and then its value, which
replaces nothing. -/
def enter (index : List (String × Member)) (m : Member) : List (String × Member) :=
  let index := (Text.caseFold m.name, m) :: index
  match m.value with
  | .text s =>
      let key := Text.caseFold s
      if (lookup? key index).isSome then index else index ++ [(key, m)]
  | _ => index

/-- Every folded name and value. -/
def index (members : Enumeration) : List (String × Member) := members.foldl enter []

/-- The member that a free text stands for. -/
def parse? (e : Enumeration) (text : String) : Option Member :=
  lookup? (Text.caseFold (Text.strip text)) (index e.distinct)

end Enumeration

end IdentityService
