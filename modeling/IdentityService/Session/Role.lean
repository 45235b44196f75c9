import IdentityService.Enumeration
import IdentityService.Text.RawText

/-!
# Roles

The roles that a session carries.  Role texts come from outside: they are read like
any enumeration, and a text that names no role grants nothing.
-/

namespace IdentityService

/-- A role. -/
inductive Role
  | user
  | admin
  deriving DecidableEq, Repr

namespace Role

/-- The name of a role. -/
def name : Role → String
  | user => "USER"
  | admin => "ADMIN"

/-- The text of a role in a session. -/
def text : Role → String
  | user => "user"
  | admin => "admin"

/-- Every role, in order. -/
def all : List Role := [user, admin]

/-- The roles as an enumeration. -/
def enumeration : Enumeration := all.map fun r => ⟨r.name, .text r.text⟩

/-- The role that a free text names. -/
def parse? (s : String) : Option Role :=
  (enumeration.parse? s).bind fun m => all.find? (·.name == m.name)

/-- The role with exactly this text. -/
def ofText? (s : String) : Option Role := all.find? (·.text == s)

/-- Whether a string names a role.  One that spells no text names none. -/
def isNamedBy (r : Role) (s : RawText) : Bool := s.text?.bind parse? == some r

/-- Whether one of a list of strings names a role. -/
def isAmong (r : Role) (strings : List RawText) : Bool := strings.any r.isNamedBy

/-- Whether one of a list of strings names the role that a free text names.  A text that names no
role is never among them. -/
def isNamedAmong (name : String) (strings : List RawText) : Bool :=
  (parse? name).any (·.isAmong strings)

end Role

end IdentityService
