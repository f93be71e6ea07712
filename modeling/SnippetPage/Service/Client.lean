import SnippetPage.Json.Printer
import SnippetPage.Service.Cookie
import SnippetPage.Service.Reply

/-!
# The client of the service

The requests that calls are sent as, and the cookies that go with them.
-/

namespace SnippetPage

inductive Method where
  | get
  | put
  | delete
  deriving DecidableEq, Repr

def Method.name : Method → String
  | get => "GET"
  | put => "PUT"
  | delete => "DELETE"

structure Request where
  method : Method
  address : Address
  /-- The cookies that go with the request. -/
  cookie : Option String
  /-- A document in JSON. -/
  body : Option String
  deriving DecidableEq, Repr

/-- A client of the service at a base address. -/
structure Client where
  /-- The base address without slashes at its end. -/
  base : String
  cookies : CookieJar := []
  deriving DecidableEq, Repr

namespace Client

/-- A client of the service at a base address, or at the usual one. -/
def ofBase (base : Option String) : Client :=
  let text := (base.getD "http://localhost:8080").toList
  { base := String.ofList ((text.reverse.dropWhile (· == '/')).reverse) }

def snippetUrl (c : Client) (id : SnippetId) : String :=
  c.base ++ "/snippets/" ++ Decimal.ofInt id.toInt

def address? (c : Client) : Call → Option Address
  | .fetch id | .update id _ | .delete id => Address.read? (c.snippetUrl id)
  | .compare id other _ =>
    Address.read? (c.snippetUrl id ++ "/compare/" ++ Decimal.ofInt other.toInt)
  | .list request =>
    (Address.read? (c.base ++ "/snippets")).map (Address.withPairs request.pairs)

def method : Call → Method
  | .update _ _ => .put
  | .delete _ => .delete
  | _ => .get

def body : Call → Option String
  | .update _ update => some update.toJson.render
  | _ => none

/-- The request of a call; there is none if the base address is no address. -/
def request? (c : Client) (call : Call) : Option Request :=
  (c.address? call).map fun address =>
    { method := method call, address, cookie := c.cookies.sent? address.path, body := body call }

def receive (c : Client) (request : Request) (r : Reply) : Client :=
  { c with cookies := r.cookies.foldl (fun jar s => jar.take request.address s) c.cookies }

/-- Makes a call over a connection that may give no reply. -/
def call {m : Type → Type} [Monad m] (connection : Request → m (Option Reply)) (c : Client)
    (call : Call) : m (Client × Except ServiceError call.Answer) :=
  match c.request? call with
  | none => return (c, .error (.transport "no address"))
  | some request => do
    match ← connection request with
    | none => return (c, .error (.transport "no reply"))
    | some r => return (c.receive request r, call.ofReply r)

end Client

end SnippetPage
