import SnippetPage.Comparison.Wire
import SnippetPage.Proofs.Json.Decoding

/-!
# The documents of the service

The five kinds of documents that are sent and taken, each with its reader and its writer.
-/

namespace SnippetPage.Wire

open Json

inductive Kind where
  | snippet
  | preview
  | update
  | listing
  | comparison
  deriving DecidableEq, Repr

namespace Kind

def Value : Kind → Type
  | snippet => Snippet
  | preview => Preview
  | update => SnippetUpdate
  | listing => Listing
  | comparison => CompareResponse

def decoder : (k : Kind) → Decoder k.Value
  | snippet => Snippet.decoder
  | preview => Preview.decoder
  | update => SnippetUpdate.decoder
  | listing => Listing.decoder
  | comparison => CompareResponse.decoder

def toJson : (k : Kind) → k.Value → Json
  | snippet => Snippet.toJson
  | preview => Preview.toJson
  | update => SnippetUpdate.toJson
  | listing => Listing.toJson
  | comparison => CompareResponse.toJson

/-- The text of a document. -/
def encode (k : Kind) (v : k.Value) : String :=
  render (k.toJson v)

/-- The document of a text. -/
def decode (k : Kind) (text : String) : Except DecodeError k.Value :=
  decodeText k.decoder text

end Kind

/-! ### Every part is read in full -/

theorem language_whole : Language.decoder.Whole := variant_whole _

theorem tags_whole : Tags.decoder.Whole :=
  orElse_whole ((listOf_whole string_whole).map _) _

theorem textOrEmpty_whole : textOrEmpty.Whole := orElse_whole string_whole _

theorem snippet_whole : Snippet.decoder.Whole :=
  ((Fields.Whole.pure _
    |>.required "id" int64_whole
    |>.required "name" string_whole
    |>.withDefault "language" (optional_whole language_whole) _
    |>.withDefault "tags" tags_whole _
    |>.withDefault "content" textOrEmpty_whole _
    |>.withDefault "extraNotes" textOrEmpty_whole _
    |>.withDefault "isDraft" boolean_whole _
    |>.withDefault "createdAt" (optional_whole timestamp_whole) _
    |>.withDefault "lastUpdated" (optional_whole timestamp_whole) _)).decoder _

theorem preview_whole : Preview.decoder.Whole :=
  ((Fields.Whole.pure _
    |>.required "id" int64_whole
    |>.required "name" string_whole
    |>.withDefault "language" (optional_whole language_whole) _
    |>.withDefault "tags" tags_whole _
    |>.withDefault "createdAt" (optional_whole timestamp_whole) _)).decoder _

theorem update_whole : SnippetUpdate.decoder.Whole :=
  ((Fields.Whole.pure _
    |>.required "snippetName" string_whole
    |>.required "content" string_whole
    |>.required "extraNotes" string_whole
    |>.withDefault "language" (optional_whole language_whole) _
    |>.required "tags" (listOf_whole string_whole))).decoder _

theorem pageInfo_whole : PageInfo.decoder.Whole :=
  ((Fields.Whole.pure _
    |>.withDefault "size" uint64_whole _
    |>.withDefault "number" uint64_whole _
    |>.withDefault "totalElements" uint64_whole _
    |>.withDefault "totalPages" uint64_whole _)).decoder _

theorem listing_whole : Listing.decoder.Whole :=
  ((Fields.Whole.pure _
    |>.withDefault "content" (listOf_whole preview_whole) _
    |>.withDefault "page" (optional_whole pageInfo_whole) _
    |>.withDefault "totalPages" (optional_whole uint64_whole) _)).decoder _

theorem mark_whole : MarkResponse.decoder.Whole := variant_whole _

theorem line_whole : LineResponse.decoder.Whole :=
  ((Fields.Whole.pure _
    |>.required "lineNum" uint32_whole
    |>.required "lineType" mark_whole
    |>.withDefault "lineContent" textOrEmpty_whole _)).decoder _

theorem side_whole : SideResponse.decoder.Whole :=
  ((Fields.Whole.pure _
    |>.required "snippetName" string_whole
    |>.withDefault "lines" (listOf_whole line_whole) _)).decoder _

theorem comparison_whole : CompareResponse.decoder.Whole :=
  ((Fields.Whole.pure _
    |>.required "comparing" side_whole
    |>.required "comparingTo" side_whole)).decoder _

theorem Kind.whole (k : Kind) : k.decoder.Whole := by
  cases k with
  | snippet => exact snippet_whole
  | preview => exact preview_whole
  | update => exact update_whole
  | listing => exact listing_whole
  | comparison => exact comparison_whole

end SnippetPage.Wire
