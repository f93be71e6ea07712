import SnippetPage.Decimal.Digits
import SnippetPage.Text.Percent

/-!
# Addresses

Web addresses as a client takes them: the host and the socket to connect to, and the path and query
to ask for. Only plain connections are made, so `http` is the only scheme.
-/

namespace SnippetPage

structure Address where
  host : String
  /-- The number of the socket at the host. -/
  socket : Nat
  /-- The path with its special characters encoded. -/
  path : String
  query : Option String := none
  deriving DecidableEq, Repr

namespace Address

def target (a : Address) : String :=
  a.path ++ (a.query.elim "" ("?" ++ ·))

/-- Whether a character is a control or a space. -/
def isEdge (c : Char) : Bool :=
  c ≤ ' '

/-- The characters of an address that count: no line ends or tabs, and no blanks at its ends. -/
def significant (s : String) : List Char :=
  let inner := ((s.toList.dropWhile isEdge).reverse.dropWhile isEdge).reverse
  inner.filter fun c => c != '\t' && c != '\n' && c != '\r'

/-- Whether a character separates the parts of a path. -/
def isSlash (c : Char) : Bool :=
  c == '/' || c == '\\'

/-- The characters that stand for themselves in a path. -/
def isPathChar (c : Char) : Bool :=
  ' ' < c && c < '\x7f' && !"\"#<>?\x60\x7b\x7d".toList.contains c

/-- The characters that stand for themselves in a query. -/
def isQueryChar (c : Char) : Bool :=
  ' ' < c && c < '\x7f' && !"\"#<>'".toList.contains c

def isForbidden (c : Char) : Bool :=
  c ≤ ' ' || '\x7f' ≤ c || "#/:<>?@[\\]^|%".toList.contains c

def host? (cs : List Char) : Option String :=
  match cs with
  | '[' :: rest =>
    if rest.getLast? = some ']' ∧
        rest.dropLast.all fun c => (Text.hexDigit? c).isSome || c == ':' || c == '.' then
      some (String.ofList (cs.map Char.toLower))
    else none
  | [] => none
  | _ => if cs.any isForbidden then none else some (String.ofList (cs.map Char.toLower))

/-- The socket after the host; without digits it is the usual one. -/
def socket? : List Char → Option Nat
  | [] | [':'] => some 80
  | ':' :: digits =>
    if digits.all Text.isAsciiDigit && Decimal.value digits < 65536 then some (Decimal.value digits)
    else none
  | _ => none

/-- The length of the host in a host with a socket. -/
def hostLength (cs : List Char) : Nat :=
  match cs with
  | '[' :: _ => (cs.takeWhile (· != ']')).length + 1
  | _ => (cs.takeWhile (· != ':')).length

/-- Whether a part of a path stays in its place. -/
def isHere (part : String) : Bool :=
  part == "." || part.toLower == "%2e"

def isUp (part : String) : Bool :=
  [".", "%2e"].any fun a => [".", "%2e"].any fun b => part.toLower == a ++ b

/-- The parts of a path, last first, with the steps up and in place taken. -/
def settle (parts : List String) : List String :=
  let walked := parts.foldl
    (fun done part =>
      if isUp part then done.drop 1 else if isHere part then done else part :: done) []
  match parts.getLast? with
  | some last => if isUp last || isHere last then "" :: walked else walked
  | none => walked

/-- A path with its special characters encoded. -/
def normalPath (cs : List Char) : String :=
  let slashed := cs.map fun c => if c = '\\' then '/' else c
  let encoded := Text.percentText isPathChar slashed
  let parts := match encoded.splitOn '/' with
    | [] :: parts => parts
    | parts => parts
  "/" ++ String.intercalate "/" (settle (parts.map String.ofList)).reverse

/-- The address that a text writes. What follows a number sign does not belong to it. -/
def read? (s : String) : Option Address := do
  let cs := significant s
  let scheme := cs.takeWhile (· != ':')
  if String.ofList (scheme.map Char.toLower) ≠ "http" ∨ scheme.length = cs.length then none
  else
    let rest := (cs.drop (scheme.length + 1)).dropWhile isSlash
    let place := rest.takeWhile fun c => !(isSlash c || c == '?' || c == '#')
    let rest := (rest.drop place.length).takeWhile (· != '#')
    let place := (place.reverse.takeWhile (· != '@')).reverse
    let host ← host? (place.take (hostLength place))
    let socket ← socket? (place.drop (hostLength place))
    let path := rest.takeWhile (· != '?')
    let query := match rest.drop path.length with
      | _ :: query => some (String.ofList (Text.percentText isQueryChar query))
      | [] => none
    some ⟨host, socket, normalPath path, query⟩

/-- An address with more pairs in its query. -/
def withPairs (pairs : List (String × String)) (a : Address) : Address :=
  let added := pairs.map fun (name, value) => Text.formValue name ++ "=" ++ Text.formValue value
  let query := match a.query with
    | some "" | none => added
    | some q => q :: added
  { a with query := some (String.intercalate "&" query) }

end Address

end SnippetPage
