import SnippetPage.Comparison.Response
import SnippetPage.Snippet.Wire

/-!
# Comparisons as JSON

The document in which the service answers a comparison. What is written is read back as the same
value.
-/

namespace SnippetPage

open Json

def MarkResponse.name : MarkResponse → String
  | .unchanged => "UNCHANGED"
  | .added => "ADDED"
  | .removed => "REMOVED"

def MarkResponse.all : List MarkResponse :=
  [.unchanged, .added, .removed]

def MarkResponse.decoder : Decoder MarkResponse :=
  variant fun name =>
    match MarkResponse.all.find? (·.name == name) with
    | some mark => .ok mark
    | none => .error (.unknownVariant name (MarkResponse.all.map MarkResponse.name))

def LineResponse.decoder : Decoder LineResponse :=
  (Fields.pure LineResponse.mk
    |>.required "lineNum" uint32
    |>.required "lineType" MarkResponse.decoder
    |>.withDefault "lineContent" textOrEmpty "").decoder "DiffLineResponse"

def SideResponse.decoder : Decoder SideResponse :=
  (Fields.pure SideResponse.mk
    |>.required "snippetName" string
    |>.withDefault "lines" (listOf LineResponse.decoder) []).decoder "DiffSideResponse"

def CompareResponse.decoder : Decoder CompareResponse :=
  (Fields.pure CompareResponse.mk
    |>.required "comparing" SideResponse.decoder
    |>.required "comparingTo" SideResponse.decoder).decoder "CompareResponse"

def LineResponse.toJson (l : LineResponse) : Json :=
  record [
    ("lineNum", whole l.number.toNat),
    ("lineType", .text l.mark.name),
    ("lineContent", .text l.content)]

def SideResponse.toJson (s : SideResponse) : Json :=
  record [
    ("snippetName", .text s.name),
    ("lines", Json.list (s.lines.map LineResponse.toJson))]

def CompareResponse.toJson (r : CompareResponse) : Json :=
  record [("comparing", r.left.toJson), ("comparingTo", r.right.toJson)]

end SnippetPage
