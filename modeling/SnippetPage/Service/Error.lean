import SnippetPage.Decimal.Digits

/-!
# Errors of the snippet service

The ways in which a request to the service fails.
-/

namespace SnippetPage

inductive ServiceError where
  | unauthorized
  | notFound
  /-- The service refused the request, possibly with a message. -/
  | rejected (status : UInt16) (message : Option String)
  /-- No answer arrived. -/
  | transport (cause : String)
  /-- The answer could not be understood. -/
  | decode (cause : String)
  deriving DecidableEq, Repr

namespace ServiceError

def message : ServiceError → String
  | unauthorized => "Unauthorized"
  | notFound => "Not found"
  | rejected status _ => "Request rejected with status " ++ Decimal.ofNat status.toNat
  | transport cause => "Transport error: " ++ cause
  | decode cause => "Invalid response body: " ++ cause

/-- The message of the service itself, unless it is empty. -/
def serverMessage : ServiceError → Option String
  | rejected _ (some m) => if m = "" then none else some m
  | _ => none

/-- Whether the request never got a usable answer. -/
def isBroken : ServiceError → Bool
  | transport _ | decode _ => true
  | _ => false

end ServiceError

end SnippetPage
