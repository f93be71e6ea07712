import SnippetPage.Json.Reader
import SnippetPage.Text.Debug
import SnippetPage.Timestamp.Iso

/-!
# Typed reading of JSON values

Decoders walk a value in the order of its text and report the first problem they meet. A record
is declared once, as the list of its fields; it is then accepted as an object, where the order of
members does not matter and unknown members are skipped, and as an array of its fields in the
order of declaration.
-/

namespace SnippetPage.Json

/-- What a decoder found instead of what it needs. -/
inductive Found where
  | integer (n : Int)
  | decimal (negative : Bool) (significand : Nat) (exponent : Int)
  | boolean (b : Bool)
  | string (s : String)
  | null
  | sequence
  | map
  deriving DecidableEq, Repr

inductive Expected where
  | int64
  | uint64
  | uint32
  | string
  | boolean
  | sequence
  | unit
  | timestamp
  | record (name : String)
  deriving DecidableEq, Repr

/-- Why a text is no value of the type that is read. -/
inductive DecodeError where
  | unreadable (fault : Fault)
  | missingField (name : String)
  | duplicateField (name : String)
  | wrongType (found : Found) (expected : Expected)
  | outOfRange (n : Int) (expected : Expected)
  | unknownVariant (name : String) (variants : List String)
  | wrongLength (length : Nat) (record : String) (fields : Nat)
  | badTimestamp (cause : Timestamp.Error)
  deriving DecidableEq, Repr

def Found.message : Found → String
  | .integer n => "integer `" ++ Decimal.ofInt n ++ "`"
  | .decimal negative significand exponent =>
    "floating point `" ++ ((decimal? negative significand exponent).map Decimal.ofFloat).getD "" ++
      "`"
  | .boolean b => "boolean `" ++ (if b then "true" else "false") ++ "`"
  | .string s => "string " ++ Text.debugQuoted s
  | .null => "null"
  | .sequence => "sequence"
  | .map => "map"

def Expected.message : Expected → String
  | .int64 => "i64"
  | .uint64 => "u64"
  | .uint32 => "u32"
  | .string => "a string"
  | .boolean => "a boolean"
  | .sequence => "a sequence"
  | .unit => "unit"
  | .timestamp => "a formatted date and time string"
  | .record name => "struct " ++ name

/-- The wording of an error in what a text says. -/
def DecodeError.message : DecodeError → String
  | .unreadable .cutShort => "unexpected end of text"
  | .unreadable .malformed => "malformed text"
  | .missingField name => "missing field `" ++ name ++ "`"
  | .duplicateField name => "duplicate field `" ++ name ++ "`"
  | .wrongType found expected =>
    "invalid type: " ++ found.message ++ ", expected " ++ expected.message
  | .outOfRange n expected =>
    "invalid value: integer `" ++ Decimal.ofInt n ++ "`, expected " ++ expected.message
  | .unknownVariant name variants =>
    "unknown variant `" ++ name ++ "`, expected one of " ++
      ", ".intercalate (variants.map fun v => "`" ++ v ++ "`")
  | .wrongLength length record fields =>
    "invalid length " ++ Decimal.ofNat length ++ ", expected struct " ++ record ++ " with " ++
      Decimal.ofNat fields ++ " elements"
  | .badTimestamp cause => cause.message

abbrev Decoder (α : Type) := Json → Except DecodeError α

def fail {α : Type} (f : Fault) : Except DecodeError α :=
  .error (.unreadable f)

/-! ### Single values -/

/-- The error for a value of the wrong kind. A value that cannot be read is its own error. -/
def mismatch {α : Type} (expected : Expected) : Decoder α
  | .null => .error (.wrongType .null expected)
  | .bool b => .error (.wrongType (.boolean b) expected)
  | .number (.whole n) => .error (.wrongType (.integer n) expected)
  | .number (.decimal negative significand exponent) =>
    match decimal? negative significand exponent with
    | some _ => .error (.wrongType (.decimal negative significand exponent) expected)
    | none => fail .malformed
  | .text s => .error (.wrongType (.string s) expected)
  | .unpaired => fail .malformed
  | .array _ _ => .error (.wrongType .sequence expected)
  | .object _ _ => .error (.wrongType .map expected)
  | .broken f _ => fail f

def integer (low high : Int) (expected : Expected) : Decoder Int
  | .number (.whole n) => if low ≤ n ∧ n ≤ high then .ok n else .error (.outOfRange n expected)
  | v => mismatch expected v

def int64 : Decoder Int64 := fun v =>
  (integer (-Int.pow 2 63) (Int.pow 2 63 - 1) .int64 v).map Int64.ofInt

def uint64 : Decoder UInt64 := fun v =>
  (integer 0 (Int.pow 2 64 - 1) .uint64 v).map fun n => n.toNat.toUInt64

def uint32 : Decoder UInt32 := fun v =>
  (integer 0 (Int.pow 2 32 - 1) .uint32 v).map fun n => n.toNat.toUInt32

def string : Decoder String
  | .text s => .ok s
  | v => mismatch .string v

def boolean : Decoder Bool
  | .bool b => .ok b
  | v => mismatch .boolean v

def timestamp : Decoder Timestamp
  | .text s => (Timestamp.ofIso s.toList).mapError .badTimestamp
  | v => mismatch .timestamp v

/-- The null that may stand beside the name of a variant. -/
def unit : Decoder Unit
  | .null => .ok ()
  | v => mismatch .unit v

def optional {α : Type} (d : Decoder α) : Decoder (Option α)
  | .null => .ok none
  | .broken f (some 'n') => fail f
  | v => (d v).map some

def orElse {α : Type} (default : α) (d : Decoder α) : Decoder α := fun v =>
  (optional d v).map fun a => a.getD default

def itemsOf {α : Type} (d : Decoder α) : List Json → Ending → Except DecodeError (List α)
  | [], .closed => .ok []
  | [], .broken f => fail f
  | v :: rest, ending => do
    let a ← d v
    let as ← itemsOf d rest ending
    return a :: as

def listOf {α : Type} (d : Decoder α) : Decoder (List α)
  | .array items ending => itemsOf d items ending
  | v => mismatch .sequence v

/-- A variant by its name: a string, or an object with the name as its only member and null as the
value. Every other kind of value breaks the notation. -/
def variant {α : Type} (ofName : String → Except DecodeError α) : Decoder α
  | .text s => ofName s
  | .object [] (.broken f) => fail f
  | .object ((.name s, v) :: rest) ending => do
    let a ← ofName s
    unit v
    match rest, ending with
    | [], .closed => return a
    | [], .broken f => fail f
    | _ :: _, _ => fail .malformed
  | .object ((.broken f, _) :: _) _ => fail f
  | .broken f none => fail f
  | _ => fail .malformed

/-! ### Records -/

/-- A field as far as its place in the text matters. -/
structure Rule where
  name : String
  /-- The first problem in the field's value. -/
  check : Json → Except DecodeError Unit
  /-- The field may be left out. -/
  hasDefault : Bool

/-- The fields of a record with a way to build it from their values. -/
structure Fields (α : Type) where
  rules : List Rule
  build : (String → Option Json) → Except DecodeError α

def Fields.pure {α : Type} (a : α) : Fields α :=
  ⟨[], fun _ => .ok a⟩

def Fields.required {α β : Type} (f : Fields (α → β)) (name : String) (d : Decoder α) :
    Fields β where
  rules := f.rules ++ [⟨name, fun v => (d v).map fun _ => (), false⟩]
  build look := do
    let g ← f.build look
    match look name with
    | some v => (d v).map g
    | none => .error (.missingField name)

def Fields.withDefault {α β : Type} (f : Fields (α → β)) (name : String) (d : Decoder α)
    (default : α) : Fields β where
  rules := f.rules ++ [⟨name, fun v => (d v).map fun _ => (), true⟩]
  build look := do
    let g ← f.build look
    match look name with
    | some v => (d v).map g
    | none => .ok (g default)

/-- Reads members in order: each known name once, with a good value, and all others skipped. -/
def checkMembers (rules : List Rule) (seen : List String) :
    List (Key × Json) → Ending → Except DecodeError Unit
  | [], .closed => .ok ()
  | [], .broken f => fail f
  | (.broken f, _) :: _, _ => fail f
  | (.unpaired, _) :: _, _ => fail .malformed
  | (.name s, v) :: rest, ending =>
    match rules.find? (·.name == s) with
    | some rule =>
      if seen.contains s then .error (.duplicateField s)
      else do
        rule.check v
        checkMembers rules (s :: seen) rest ending
    | none =>
      match v.skip with
      | some f => fail f
      | none => checkMembers rules seen rest ending

/-- Reads items in order as the values of the fields, and reports the first field without one. -/
def checkItems (record : String) (total count : Nat) :
    List Rule → List Json → Ending → Except DecodeError Unit
  | [], [], .closed => .ok ()
  | [], [], .broken f => fail f
  | [], _ :: _, _ => fail .malformed
  | rule :: rules, v :: rest, ending => do
    rule.check v
    checkItems record total (count + 1) rules rest ending
  | _ :: _, [], .broken f => fail f
  | rule :: rules, [], .closed =>
    if rule.hasDefault then checkItems record total (count + 1) rules [] .closed
    else .error (.wrongLength count record total)

/-- A record as an object or as an array of its fields. -/
def Fields.decoder {α : Type} (record : String) (f : Fields α) : Decoder α
  | .object members ending => do
    checkMembers f.rules [] members ending
    f.build fun name => (Json.object members ending).member? name
  | .array items ending => do
    checkItems record f.rules.length 0 f.rules items ending
    f.build fun name => (((f.rules.map (·.name)).zip items).find? (·.1 == name)).map (·.2)
  | v => mismatch (.record record) v

def decodeText {α : Type} (d : Decoder α) (text : String) : Except DecodeError α :=
  let doc := Document.ofText text.toList
  match d doc.value with
  | .error e => .error e
  | .ok a => if doc.trailing then fail .malformed else .ok a

end SnippetPage.Json
