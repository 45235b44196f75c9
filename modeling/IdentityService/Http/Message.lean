import IdentityService.Json.Value
import IdentityService.Text.LowerCase

/-!
# Messages

Requests and responses of the interface.
-/

namespace IdentityService.Http

/-- The body of a response. -/
inductive Body
  | json (v : Json)
  | text (s : String)
  deriving DecidableEq, Repr

/-- A request: its method, its path with a query, and its headers. -/
structure Request where
  method : String
  path : String
  headers : Assoc String
  deriving DecidableEq, Repr

/-- A response. -/
structure Response where
  status : Nat
  body : Body
  headers : Assoc String
  deriving DecidableEq, Repr

/-- The first header with a name, in any case. -/
def Request.header? (r : Request) (name : String) : Option String :=
  (r.headers.find? fun h => Text.lower h.1 == Text.lower name).map (·.2)

/-- The path without the query.  A path is the same with slashes at its end. -/
def Request.route (r : Request) : String :=
  let path := r.path.toList.takeWhile (· != '?')
  let bare := (path.reverse.dropWhile (· == '/')).reverse
  String.ofList (if bare.isEmpty then path else bare)

/-- A response without headers. -/
def Response.plain (status : Nat) (body : Body) : Response := ⟨status, body, []⟩

/-- A header of a response. -/
def Response.header? (r : Response) (name : String) : Option String := r.headers.get? name

end IdentityService.Http
