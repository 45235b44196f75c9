import IdentityService.Http.Message
import IdentityService.Service.Settings
import IdentityService.Text.Blank

/-!
# Requests from Other Origins

A browser announces a request from another origin and asks beforehand what it may send.  The
question is answered by itself, and every answer to an announced request names the origin
that may read it.
-/

namespace IdentityService.CrossOriginPolicy

open Http

/-! ## §1 What is allowed -/

/-- The methods that the wildcard stands for. -/
def allMethods : List String := ["DELETE", "GET", "HEAD", "OPTIONS", "PATCH", "POST", "PUT"]

/-- The headers that are always allowed, in lower case. -/
def safeHeaders : List String := ["accept", "accept-language", "content-language", "content-type"]

/-- Whether every origin is allowed. -/
def allowsAll (p : CrossOriginPolicy) : Bool := p.origins.contains "*"

/-- Whether an origin is allowed. -/
def allowsOrigin (p : CrossOriginPolicy) (origin : String) : Bool :=
  p.allowsAll || p.origins.contains origin

/-- Whether a method is allowed. -/
def allowsMethod (p : CrossOriginPolicy) (method : String) : Bool :=
  if p.methods.contains "*" then allMethods.contains method else p.methods.contains method

/-- Whether a list of header names, separated by commas, is allowed. -/
def allowsHeaders (p : CrossOriginPolicy) (names : String) : Bool :=
  p.headers.contains "*"
    || (names.splitOn ",").all fun name =>
      (safeHeaders ++ p.headers.map Text.lower).contains (Text.strip (Text.lower name))

/-! ## §2 Answers -/

/-- The header that names the origin which may read a response. -/
def originHeader : String := "access-control-allow-origin"

/-- Whether a request asks what may be sent. -/
def isQuestion (r : Request) : Bool :=
  r.method == "OPTIONS" && (r.header? "Origin").isSome
    && (r.header? "Access-Control-Request-Method").isSome

/-- What a question asks for and may not have. -/
def failures (p : CrossOriginPolicy) (r : Request) : List String :=
  (if p.allowsOrigin ((r.header? "Origin").getD "") then [] else ["origin"])
    ++ (if p.allowsMethod ((r.header? "Access-Control-Request-Method").getD "") then []
      else ["method"])
    ++ (match r.header? "Access-Control-Request-Headers" with
      | some names => if p.allowsHeaders names then [] else ["headers"]
      | none => [])

/-- The origin that the answer to a question names. -/
def questionOrigin? (p : CrossOriginPolicy) (origin : String) : Option String :=
  if p.allowsAll && !p.credentials then some "*"
  else if p.allowsOrigin origin then some origin else none

/-- The origin that the answer to any other request names. -/
def answerOrigin? (p : CrossOriginPolicy) (r : Request) (origin : String) : Option String :=
  if p.allowsAll then some (if (r.header? "Cookie").isSome then origin else "*")
  else if p.origins.contains origin then some origin else none

/-- A response with the origin that may read it. -/
def naming (origin : Option String) (r : Response) : Response :=
  match origin with
  | some o => { r with headers := r.headers.set originHeader o }
  | none => r

/-- The answer to a question. -/
def answer (p : CrossOriginPolicy) (r : Request) : Response :=
  let failed := p.failures r
  naming (p.questionOrigin? ((r.header? "Origin").getD ""))
    (if failed.isEmpty then .plain 200 (.text "OK")
    else .plain 400 (.text ("Disallowed CORS " ++ ", ".intercalate failed)))

/-- A response to an announced request. -/
def announce (p : CrossOriginPolicy) (req : Request) (r : Response) : Response :=
  match req.header? "Origin" with
  | some origin => naming (p.answerOrigin? req origin) r
  | none => r

end IdentityService.CrossOriginPolicy
