import SnippetPage.Service.Address
import SnippetPage.Text.Blank
import SnippetPage.Text.Pieces

/-!
# Cookies

The values that the service hands out for later requests. A cookie goes with the requests below its
path; a new value takes the place of the old one, and an age of zero ends it.
-/

namespace SnippetPage

structure Cookie where
  name : String
  value : String
  path : String
  deriving DecidableEq, Repr

namespace Cookie

/-- The name and value of a part of a cookie, without the blanks around them. -/
def pair (part : String) : String × Option String :=
  let cs := part.toList
  let name := Text.trim (String.ofList (cs.takeWhile (· != '=')))
  match cs.dropWhile (· != '=') with
  | _ :: value => (name, some (Text.trim (String.ofList value)))
  | [] => (name, none)

/-- The path of a cookie that names none: that of the request up to its last part. -/
def defaultPath (requestPath : String) : String :=
  match (Text.pieces '/' requestPath).dropLast with
  | [] | [_] => "/"
  | parts => String.intercalate "/" parts

/-- The value of an attribute, whose name may be in any case. -/
def attribute? (attributes : List (String × Option String)) (name : String) : Option String :=
  (attributes.reverse.find? fun a => Text.sameIgnoringCase a.1 name).bind (·.2)

def isOver (age : String) : Bool :=
  match age.toList with
  | '-' :: digits => !digits.isEmpty && digits.all Text.isAsciiDigit
  | digits => !digits.isEmpty && digits.all (· == '0')

/-- Whether a cookie may be set for a domain by a host. -/
def isOwnDomain (host domain : String) : Bool :=
  let domain := (if domain.startsWith "." then domain.drop 1 else domain.drop 0).toString.toLower
  host == domain || (host.endsWith ("." ++ domain) && !host.toList.all fun c =>
    Text.isAsciiDigit c || c == '.')

/-- The cookie that an answer sets, and whether it ends it at once. -/
def read? (address : Address) (source : String) : Option (Cookie × Bool) :=
  match (Text.pieces ';' source).map pair with
  | (name, some value) :: attributes =>
    let domain := attribute? attributes "domain"
    if name = "" ∨ domain.any (fun d => d != "" && !isOwnDomain address.host d) then none
    else
      let path := match attribute? attributes "path" with
        | some p => if p.startsWith "/" then p else defaultPath address.path
        | none => defaultPath address.path
      some (⟨name, value, path⟩, (attribute? attributes "max-age").any isOver)
  | _ => none

def covers (c : Cookie) (requestPath : String) : Bool :=
  requestPath == c.path ||
    requestPath.startsWith (if c.path.endsWith "/" then c.path else c.path ++ "/")

def text (c : Cookie) : String :=
  c.name ++ "=" ++ c.value

end Cookie

abbrev CookieJar := List Cookie

namespace CookieJar

/-- Whether two cookies are the same up to their value. -/
def same (a b : Cookie) : Bool :=
  a.name == b.name && a.path == b.path

def take (jar : CookieJar) (address : Address) (source : String) : CookieJar :=
  match Cookie.read? address source with
  | none => jar
  | some (c, true) => jar.filter (!same c ·)
  | some (c, false) =>
    if jar.any (same c) then jar.map fun old => if same c old then c else old else jar ++ [c]

/-- The cookies that go with a request, as one text. -/
def sent? (jar : CookieJar) (requestPath : String) : Option String :=
  match jar.filter (·.covers requestPath) with
  | [] => none
  | cookies => some (String.intercalate "; " (cookies.map Cookie.text))

end CookieJar

end SnippetPage
