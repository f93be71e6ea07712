import SnippetPage.Service.Client

/-!
# Messages

Requests and replies as the bytes that go over a connection, one request to a connection.
-/

namespace SnippetPage

def Request.bytes (r : Request) : ByteArray :=
  let head := [r.method.name ++ " " ++ r.address.target ++ " HTTP/1.1",
    "host: " ++ r.address.host ++ ":" ++ Decimal.ofNat r.address.socket,
    "accept: */*",
    "connection: close"] ++
    (r.cookie.map ("cookie: " ++ ·)).toList ++
    (match r.body with
      | some body => ["content-type: application/json",
        "content-length: " ++ Decimal.ofNat body.utf8ByteSize]
      | none => [])
  (String.intercalate "\r\n" head ++ "\r\n\r\n" ++ r.body.getD "").toUTF8

namespace Reply

/-- The text up to the next line end and the bytes after it. -/
def line? : List UInt8 → Option (List Char × List UInt8)
  | [] => none
  | 13 :: 10 :: rest => some ([], rest)
  | b :: rest => (line? rest).map fun (cs, after) => (Char.ofNat b.toNat :: cs, after)

/-- The lines up to a blank one, and the bytes after it. -/
def headLines? : Nat → List UInt8 → Option (List (List Char) × List UInt8)
  | 0, _ => none
  | fuel + 1, bytes => do
    let (line, rest) ← line? bytes
    if line.isEmpty then some ([], rest)
    else
      let (lines, rest) ← headLines? fuel rest
      some (line :: lines, rest)

/-- The status in the first line of a reply. -/
def status? (line : List Char) : Option UInt16 :=
  match (line.dropWhile (· != ' ')).drop 1 |>.takeWhile (· != ' ') with
  | [] => none
  | digits =>
    if digits.all Text.isAsciiDigit && Decimal.value digits < 1000 then
      some (Decimal.value digits).toUInt16
    else none

def header (line : List Char) : String × String :=
  let name := line.takeWhile (· != ':')
  (Text.trim (String.ofList name), Text.trim (String.ofList (line.drop (name.length + 1))))

def values (headers : List (String × String)) (name : String) : List String :=
  (headers.filter fun h => Text.sameIgnoringCase h.1 name).map Prod.snd

/-- The bytes in chunks, each with its size before it, up to an empty one. -/
def unchunked? : Nat → List UInt8 → Option (List UInt8)
  | 0, _ => none
  | fuel + 1, bytes => do
    let (line, rest) ← line? bytes
    let digits := line.takeWhile fun c => (Text.hexDigit? c).isSome
    let size := digits.foldl (fun n c => 16 * n + (Text.hexDigit? c).getD 0) 0
    if digits.isEmpty ∨ rest.length < size then none
    else if size = 0 then some []
    else
      let more ← unchunked? fuel (rest.drop (size + 2))
      some (rest.take size ++ more)

/-- The bytes of a body, unless it broke off. -/
def bodyBytes? (headers : List (String × String)) (bytes : List UInt8) : Option (List UInt8) :=
  if (values headers "transfer-encoding").any (Text.sameIgnoringCase "chunked") then
    unchunked? (bytes.length + 1) bytes
  else
    match values headers "content-length" with
    | [] => some bytes
    | size :: _ =>
      let size := Decimal.value size.toList
      if bytes.length < size then none else some (bytes.take size)

def ofBytes? (bytes : ByteArray) : Option Reply := do
  let (lines, rest) ← headLines? (bytes.size + 1) bytes.toList
  let first :: lines := lines | none
  let status ← status? first
  let headers := lines.map header
  let body :=
    if status = 204 ∨ status = 304 then some ""
    else (bodyBytes? headers rest).map bodyText
  some { status, body, cookies := values headers "set-cookie" }

end Reply

end SnippetPage
