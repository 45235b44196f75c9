import IdentityService.Directory.Directory
import IdentityService.Http.CrossOrigin
import IdentityService.Http.ErrorReply
import IdentityService.Http.Route

/-!
# The Application

From a request to a response: finding the route, reading the credentials, running the route and
answering its faults.

## Main definitions

- `Http.bearer?`: the credentials of a request.
- `Services.ofSettings`: the services that settings describe.
- `Application.respond`: the response to a request.
-/

namespace IdentityService

/-! ## §1 Credentials -/

/-- The credentials in an authorization header: what follows the word for bearers, trimmed. -/
def Http.bearerIn? (header : String) : Option String :=
  let cs := header.toList
  let scheme := String.ofList (cs.takeWhile (· != ' '))
  let token := Text.strip (String.ofList ((cs.dropWhile (· != ' ')).drop 1))
  if Text.lower scheme == "bearer" && !token.isEmpty then some token else none

/-- The credentials of a request. -/
def Http.bearer? (r : Http.Request) : Option String := (r.header? "Authorization").bind bearerIn?

/-! ## §2 Services -/

/-- The services that settings describe, with a provider that is initialized or not. -/
def Services.ofSettings (s : ServiceSettings) (provider : ProviderSlot ProviderClient) :
    Services Directory where
  version := s.version
  isProviderInitialized := provider.isInitialized
  sessions := s.sessionService
  verifier := provider.handle.map Verifier.ofHandle
  synchronizer :=
    match s.store with
    | .memory => .ok s.synchronizer
    | .remote => s.remoteAccess.map fun _ => s.synchronizer
  store := Directory.store

/-- The directory of settings before any request, with the replies of the remote side. -/
def Directory.ofSettings (s : ServiceSettings) (replies : List Reply) : Directory :=
  match s.store with
  | .memory => .memory .empty
  | .remote => .remote (.start replies)

/-- An application: its settings and its provider. -/
structure Application where
  settings : ServiceSettings
  provider : ProviderSlot ProviderClient

namespace Application

open Http

/-! ## §3 Responses -/

/-- The response when there is no such route. -/
def notFound : Response := .plain 404 (.json (.object [("detail", .text "Not Found")]))

/-- The response when the route has another method. -/
def methodNotAllowed : Response :=
  .plain 405 (.json (.object [("detail", .text "Method Not Allowed")]))

/-- The response to the outcome of a route. -/
def responseOf : Outcome RouteReply → Response
  | .ok reply =>
      .plain reply.status (match reply.body with
        | some v => .json v
        | none => .text "")
  | .error f => f.response

/-- The route of a request, or the response when there is none. -/
def findRoute (r : Request) : Except Response Route :=
  match Route.all.find? fun route => route.path == r.route with
  | none => .error notFound
  | some route => if route.method == r.method then .ok route else .error methodNotAllowed

/-- A response as it leaves for a method: the body is left out where only headers are asked for. -/
def forMethod (method : String) (r : Response) : Response :=
  if method == "HEAD" then { r with body := .text "" } else r

/-- The outcome of the route of a request. -/
def runRoute {σ : Type} (services : Services σ) (clock : Moment) (machine : Machine)
    (route : Route) (r : Request) : StoreStep σ RouteReply :=
  route.run services ⟨bearer? r, clock, machine⟩

/-- The response to a request over any services, and the level at which it is noted.  A
breakdown is answered outside the reach of the rules for other origins. -/
def respondWith {σ : Type} (policy : CrossOriginPolicy) (services : Services σ) (clock : Moment)
    (machine : Machine) (r : Request) (state : σ) : (Response × Option Level) × σ :=
  let named := fun response => forMethod r.method (policy.announce r response)
  if CrossOriginPolicy.isQuestion r then ((policy.answer r, none), state)
  else
    match findRoute r with
    | .error response => ((named response, none), state)
    | .ok route =>
        match runRoute services clock machine route r state with
        | (.error f, state) =>
            ((if f.isAnswered then named f.response else f.response, f.level?), state)
        | (outcome, state) => ((named (responseOf outcome), none), state)

/-- The response to a request. -/
def respond (a : Application) (clock : Moment) (machine : Machine) (r : Request)
    (d : Directory) : (Response × Option Level) × Directory :=
  respondWith a.settings.crossOrigin (.ofSettings a.settings a.provider) clock machine r d

end Application

end IdentityService
