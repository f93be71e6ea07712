import SnippetPage.Comparison.Wire
import SnippetPage.Service.Call
import SnippetPage.Service.Error
import SnippetPage.Snippet.Wire

/-!
# Replies of the service

What a reply means for the call it answers: a value, or one of the errors. The status decides first,
and the body second; the body of a refusal may hold a message.
-/

namespace SnippetPage

structure Reply where
  status : UInt16
  /-- The body, unless it broke off. -/
  body : Option String
  /-- The cookies that the reply sets. -/
  cookies : List String := []
  deriving DecidableEq, Repr

namespace Reply

def character? (bytes : List UInt8) : Option Char :=
  (bytes.take 4).toByteArray.utf8DecodeChar? 0

/-- The characters of a body. A byte that belongs to none becomes an escape for half of a surrogate
pair: like that byte, it can be skipped within a string, but neither be read nor stand elsewhere.
The letters around it keep it apart from other escapes. -/
def characters : List UInt8 → List Char
  | [] => []
  | b :: rest =>
    match character? (b :: rest) with
    | some c => c :: characters (rest.drop (c.utf8Size - 1))
    | none => "x\\ud800x".toList ++ characters rest
termination_by bytes => bytes.length
decreasing_by
  · rw [List.length_drop, List.length_cons]
    omega
  · exact Nat.lt_succ_self _

def bodyText (bytes : List UInt8) : String :=
  String.ofList (characters bytes)

def isSuccess (r : Reply) : Bool :=
  200 ≤ r.status && r.status < 300

/-- The document that tells what was wrong with a request. -/
def refusalDecoder : Json.Decoder (Option String) :=
  (Json.Fields.pure id
    |>.withDefault "message" (Json.optional Json.string) none).decoder "ApiErrorBody"

def message? (r : Reply) : Option String :=
  match r.body.map (Json.decodeText refusalDecoder) with
  | some (.ok m) => m
  | _ => none

def error (r : Reply) : ServiceError :=
  if r.status = 401 then .unauthorized
  else if r.status = 404 then .notFound
  else .rejected r.status r.message?

def decode {α : Type} (d : Json.Decoder α) (r : Reply) : Except ServiceError α :=
  match r.body with
  | none => .error (.decode "incomplete body")
  | some text =>
    match Json.decodeText d text with
    | .ok a => .ok a
    | .error e => .error (.decode e.message)

end Reply

/-- How the answer to a call is written. The answer to a deletion is not read. -/
def Call.decode : (c : Call) → Reply → Except ServiceError c.Answer
  | .fetch _, r | .update _ _, r => r.decode Snippet.decoder
  | .delete _, _ => .ok ()
  | .compare _ _ _, r => r.decode CompareResponse.decoder
  | .list _, r => r.decode Listing.decoder

/-- What a reply means for the call it answers. -/
def Call.ofReply (c : Call) (r : Reply) : Except ServiceError c.Answer :=
  if r.isSuccess then c.decode r else .error r.error

end SnippetPage
