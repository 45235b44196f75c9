import IdentityService.Assoc
import IdentityService.Number.Binary64
import IdentityService.Text.RawText

/-!
# JSON Values

The values exchanged with token holders, the identity provider and the remote
store.  Integers are exact and kept apart from fractional numbers; an object keeps
its fields in the order of first appearance.

A string literal may spell half of a surrogate pair, which is no character.  Such a
literal is a `brokenText`: it is a string, but equal to no text.
-/

namespace IdentityService

/-- A JSON value. -/
inductive Json where
  | null
  | bool (b : Bool)
  | int (n : Int)
  | fraction (x : Binary64)
  | text (s : String)
  | brokenText (b : BrokenText)
  | array (items : List Json)
  | object (fields : List (String × Json))
  deriving Inhabited, Repr

/-- The fields of an object, in order. -/
abbrev Fields := Assoc Json

namespace Json

/-! ## §1 Equality -/

mutual

/-- Whether two values are the same. -/
def same : Json → Json → Bool
  | null, null => true
  | bool a, bool b => a == b
  | int a, int b => a == b
  | fraction a, fraction b => a == b
  | text a, text b => a == b
  | brokenText a, brokenText b => a == b
  | array a, array b => sameItems a b
  | object a, object b => sameFields a b
  | _, _ => false

/-- Whether two lists hold the same items in the same order. -/
def sameItems : List Json → List Json → Bool
  | [], [] => true
  | v :: vs, w :: ws => same v w && sameItems vs ws
  | _, _ => false

/-- Whether two lists hold the same fields in the same order. -/
def sameFields : List (String × Json) → List (String × Json) → Bool
  | [], [] => true
  | (k, v) :: fs, (l, w) :: gs => k == l && same v w && sameFields fs gs
  | _, _ => false

end

mutual

theorem same_iff : ∀ v w : Json, same v w = true ↔ v = w := by
  intro v w
  cases v <;> cases w <;> simp [same]
  case array.array a b => exact sameItems_iff a b
  case object.object a b => exact sameFields_iff a b

theorem sameItems_iff : ∀ vs ws : List Json, sameItems vs ws = true ↔ vs = ws
  | [], [] => by simp [sameItems]
  | [], _ :: _ => by simp [sameItems]
  | _ :: _, [] => by simp [sameItems]
  | v :: vs, w :: ws => by simp [sameItems, same_iff v w, sameItems_iff vs ws]

theorem sameFields_iff : ∀ fs gs : List (String × Json), sameFields fs gs = true ↔ fs = gs
  | [], [] => by simp [sameFields]
  | [], _ :: _ => by simp [sameFields]
  | _ :: _, [] => by simp [sameFields]
  | (k, v) :: fs, (l, w) :: gs => by
      simp [sameFields, same_iff v w, sameFields_iff fs gs, and_assoc]

end

instance : DecidableEq Json := fun v w => decidable_of_iff (same v w = true) (same_iff v w)

/-! ## §2 Views -/

/-- The text of a string literal that spells one. -/
def text? : Json → Option String
  | text s => some s
  | _ => none

/-- The string of a string literal. -/
def raw? : Json → Option RawText
  | text s => some (.text s)
  | brokenText b => some (.broken b)
  | _ => none

/-- The items of an array. -/
def array? : Json → Option (List Json)
  | array items => some items
  | _ => none

/-- The fields of an object. -/
def object? : Json → Option Fields
  | object fs => some fs
  | _ => none

/-- Whether a value is a string literal, broken or not. -/
def isString (v : Json) : Bool := v.raw?.isSome

/-- A field of an object; other values have none. -/
def field? (v : Json) (key : String) : Option Json :=
  v.object?.bind (·.get? key)

/-- A value is empty when it is null, false, zero, or holds nothing. -/
def isEmptyValue : Json → Bool
  | null => true
  | bool b => !b
  | int n => n == 0
  | fraction x => x.isZero
  | text s => s.isEmpty
  | brokenText _ => false
  | array items => items.isEmpty
  | object fs => fs.isEmpty

mutual

/-- Whether every string in a value spells a text. -/
def spellsTexts : Json → Bool
  | brokenText _ => false
  | array items => itemsSpellTexts items
  | object fields => fieldsSpellTexts fields
  | _ => true

/-- Whether every string in a list of values spells a text. -/
def itemsSpellTexts : List Json → Bool
  | [] => true
  | v :: rest => spellsTexts v && itemsSpellTexts rest

/-- Whether every string in the values of fields spells a text. -/
def fieldsSpellTexts : List (String × Json) → Bool
  | [] => true
  | (_, v) :: rest => spellsTexts v && fieldsSpellTexts rest

end

/-- The value, or null when it is empty. -/
def orNull (v : Json) : Json := if v.isEmptyValue then null else v

/-! ## §3 Building -/

/-- A string as a value. -/
def raw : RawText → Json
  | .text s => text s
  | .broken b => brokenText b

@[simp]
theorem raw?_raw (s : RawText) : (raw s).raw? = some s := by
  cases s <;> rfl

theorem raw_ne_null (s : RawText) : raw s ≠ null := by
  cases s <;> simp [raw]

theorem raw?_eq_some_iff {v : Json} {s : RawText} : v.raw? = some s ↔ v = raw s := by
  cases v <;> cases s <;> simp [raw?, raw]

/-- An optional string, null when absent. -/
def ofRaw? : Option RawText → Json
  | some s => raw s
  | none => null

/-- An optional text, null when absent. -/
def ofText? : Option String → Json
  | some s => text s
  | none => null

/-- An array of texts. -/
def ofTexts (ss : List String) : Json := array (ss.map text)

/-- An array of strings. -/
def ofRaws (ss : List RawText) : Json := array (ss.map raw)

end Json

end IdentityService
