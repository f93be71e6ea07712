import SnippetPage.Json.Decoder
import SnippetPage.Snippet.Listing

/-!
# Snippets as JSON

The documents in which the service sends and takes snippets. What is written is read back as the
same value.
-/

namespace SnippetPage

open Json

/-! ### Reading -/

/-- Every name but that of Java stands for another language. -/
def Language.decoder : Decoder Language :=
  variant fun name => .ok (if name = "JAVA" then .java else .other)

/-- Tags in any order and with any repetition; null for none. -/
def Tags.decoder : Decoder Tags :=
  orElse Tags.empty fun v => (listOf string v).map Tags.ofList

def textOrEmpty : Decoder String :=
  orElse "" string

def Snippet.decoder : Decoder Snippet :=
  (Fields.pure Snippet.mk
    |>.required "id" int64
    |>.required "name" string
    |>.withDefault "language" (optional Language.decoder) none
    |>.withDefault "tags" Tags.decoder Tags.empty
    |>.withDefault "content" textOrEmpty ""
    |>.withDefault "extraNotes" textOrEmpty ""
    |>.withDefault "isDraft" boolean false
    |>.withDefault "createdAt" (optional timestamp) none
    |>.withDefault "lastUpdated" (optional timestamp) none).decoder "Snippet"

def Preview.decoder : Decoder Preview :=
  (Fields.pure Preview.mk
    |>.required "id" int64
    |>.required "name" string
    |>.withDefault "language" (optional Language.decoder) none
    |>.withDefault "tags" Tags.decoder Tags.empty
    |>.withDefault "createdAt" (optional timestamp) none).decoder "SnippetPreview"

def SnippetUpdate.decoder : Decoder SnippetUpdate :=
  (Fields.pure SnippetUpdate.mk
    |>.required "snippetName" string
    |>.required "content" string
    |>.required "extraNotes" string
    |>.withDefault "language" (optional Language.decoder) none
    |>.required "tags" (listOf string)).decoder "SnippetUpdate"

def PageInfo.decoder : Decoder PageInfo :=
  (Fields.pure PageInfo.mk
    |>.withDefault "size" uint64 0
    |>.withDefault "number" uint64 0
    |>.withDefault "totalElements" uint64 0
    |>.withDefault "totalPages" uint64 0).decoder "PageMetadata"

def Listing.decoder : Decoder Listing :=
  (Fields.pure Listing.mk
    |>.withDefault "content" (listOf Preview.decoder) []
    |>.withDefault "page" (optional PageInfo.decoder) none
    |>.withDefault "totalPages" (optional uint64) none).decoder "Page"

/-! ### Writing -/

def Language.toJson (l : Language) : Json :=
  .text l.name

def Tags.toJson (tags : Tags) : Json :=
  Json.list (tags.toList.map .text)

def Timestamp.toJson (t : Timestamp) : Json :=
  .text t.toIso

def SnippetId.toJson (id : SnippetId) : Json :=
  whole id.toInt

def Snippet.toJson (s : Snippet) : Json :=
  record [
    ("id", SnippetId.toJson s.id),
    ("name", .text s.name),
    ("language", nullable Language.toJson s.language),
    ("tags", s.tags.toJson),
    ("content", .text s.content),
    ("extraNotes", .text s.notes),
    ("isDraft", .bool s.isDraft),
    ("createdAt", nullable Timestamp.toJson s.created),
    ("lastUpdated", nullable Timestamp.toJson s.updated)]

def Preview.toJson (p : Preview) : Json :=
  record [
    ("id", SnippetId.toJson p.id),
    ("name", .text p.name),
    ("language", nullable Language.toJson p.language),
    ("tags", p.tags.toJson),
    ("createdAt", nullable Timestamp.toJson p.created)]

/-- An update; its language is left out when it is not set. -/
def SnippetUpdate.toJson (u : SnippetUpdate) : Json :=
  record ([
    ("snippetName", .text u.name),
    ("content", .text u.content),
    ("extraNotes", .text u.notes)] ++
    (match u.language with
      | some l => [("language", l.toJson)]
      | none => []) ++
    [("tags", Json.list (u.tags.map .text))])

def PageInfo.toJson (i : PageInfo) : Json :=
  record [
    ("size", whole i.size.toNat),
    ("number", whole i.number.toNat),
    ("totalElements", whole i.totalElements.toNat),
    ("totalPages", whole i.totalPages.toNat)]

/-- A page of a listing with all its fields. -/
def Listing.toJson (l : Listing) : Json :=
  record [
    ("content", Json.list (l.content.map Preview.toJson)),
    ("page", nullable PageInfo.toJson l.info),
    ("totalPages", nullable (fun n => whole n.toNat) l.totalPages)]

end SnippetPage
