import SnippetPage.Proofs.Json.Respelling
import SnippetPage.Proofs.Tags
import SnippetPage.Proofs.Wire.Kind

/-!
# The spelling of a document does not matter

The service may send a record with its members in any order, with members that are not known, and
with nulls written out or left out where a field allows it; tags in any order and with repetition;
and blanks wherever the notation allows them. All texts that differ only in this way are read as
the same document.
-/

namespace SnippetPage.Wire

open Json

/-! ### Other spellings -/

/-- A field whose value has one spelling only. -/
def plain (name : String) : Slot :=
  ⟨name, false, Eq⟩

/-- A field whose null is the same as no member. -/
def nullOrNone (name : String) : Slot :=
  ⟨name, true, Eq⟩

/-- Tags are a set, and none when they are null. -/
def tagSet : Slot :=
  ⟨"tags", true, SetRespelled⟩

def snippetSlots : List Slot :=
  [plain "id", plain "name", nullOrNone "language", tagSet, nullOrNone "content",
    nullOrNone "extraNotes", plain "isDraft", nullOrNone "createdAt", nullOrNone "lastUpdated"]

def previewSlots : List Slot :=
  [plain "id", plain "name", nullOrNone "language", tagSet, nullOrNone "createdAt"]

/-- The tags of an update are a list, which keeps its order and repetition. -/
def updateSlots : List Slot :=
  [plain "snippetName", plain "content", plain "extraNotes", nullOrNone "language", plain "tags"]

def pageInfoSlots : List Slot :=
  [plain "size", plain "number", plain "totalElements", plain "totalPages"]

def listingSlots : List Slot :=
  [⟨"content", false, ListRespelled (RecordRespelled previewSlots)⟩,
    ⟨"page", true, RecordRespelled pageInfoSlots⟩, nullOrNone "totalPages"]

def lineSlots : List Slot :=
  [plain "lineNum", plain "lineType", nullOrNone "lineContent"]

def sideSlots : List Slot :=
  [plain "snippetName", ⟨"lines", false, ListRespelled (RecordRespelled lineSlots)⟩]

def comparisonSlots : List Slot :=
  [⟨"comparing", false, RecordRespelled sideSlots⟩,
    ⟨"comparingTo", false, RecordRespelled sideSlots⟩]

def Kind.slots : Kind → List Slot
  | snippet => snippetSlots
  | preview => previewSlots
  | update => updateSlots
  | listing => listingSlots
  | comparison => comparisonSlots

/-- Two values that spell the same document of a kind. -/
def Kind.Respelled (k : Kind) : Json → Json → Prop :=
  RecordRespelled k.slots

/-! ### Decoders of documents -/

section
variable {α : Type} {d : Decoder α}

theorem itemsOf_mem {vs : List Json} {ending : Ending} {as : List α}
    (read : itemsOf d vs ending = .ok as) :
    ending = .closed ∧ (∀ v ∈ vs, ∃ a, d v = .ok a) ∧ ∀ a, a ∈ as ↔ ∃ v ∈ vs, d v = .ok a := by
  fun_induction itemsOf d vs ending generalizing as with
  | case1 =>
    cases read
    simp
  | case2 => cases read
  | case3 v rest ending ih =>
    obtain ⟨a, own, read⟩ := bind_ok.mp read
    obtain ⟨others, readOthers, ⟨⟩⟩ := bind_ok.mp read
    obtain ⟨closed, readable, members⟩ := ih readOthers
    refine ⟨closed, List.forall_mem_cons.mpr ⟨⟨a, own⟩, readable⟩, fun b => ?_⟩
    rw [List.mem_cons, members]
    constructor
    · rintro (rfl | ⟨w, member, value⟩)
      · exact ⟨v, List.mem_cons_self, own⟩
      · exact ⟨w, List.mem_cons_of_mem v member, value⟩
    · rintro ⟨w, member, value⟩
      rcases List.mem_cons.mp member with rfl | later
      · exact .inl (Except.ok.inj (value.symm.trans own))
      · exact .inr ⟨w, later, value⟩

theorem itemsOf_exists {vs : List Json} (readable : ∀ v ∈ vs, ∃ a, d v = .ok a) :
    ∃ as, itemsOf d vs .closed = .ok as := by
  induction vs with
  | nil => exact ⟨[], rfl⟩
  | cons v rest ih =>
    obtain ⟨⟨a, own⟩, others⟩ := List.forall_mem_cons.mp readable
    obtain ⟨as, read⟩ := ih others
    exact ⟨a :: as, bind_ok.mpr ⟨a, own, bind_ok.mpr ⟨as, read, rfl⟩⟩⟩

theorem itemsOf_same {vs ws : List Json} {ending : Ending} {as : List α}
    (same : ∀ v, v ∈ vs ↔ v ∈ ws) (read : itemsOf d vs ending = .ok as) :
    ∃ bs, itemsOf d ws ending = .ok bs ∧ ∀ a, a ∈ as ↔ a ∈ bs := by
  obtain ⟨rfl, readable, members⟩ := itemsOf_mem read
  have readableAgain : ∀ w ∈ ws, ∃ a, d w = .ok a := fun w member =>
    readable w ((same w).mpr member)
  obtain ⟨bs, again⟩ := itemsOf_exists readableAgain
  obtain ⟨-, -, others⟩ := itemsOf_mem again
  refine ⟨bs, again, fun a => ?_⟩
  simp only [members, others, same]

end

/-- Only the members of a set of tags matter. -/
theorem tags_respects : Tags.decoder.Respects SetRespelled := by
  intro v w tags read change
  cases change with
  | same => exact read
  | items same =>
    obtain ⟨o, optionalRead, rfl⟩ := map_ok.mp read
    obtain ⟨set, setRead, rfl⟩ := optional_some optionalRead nofun
    obtain ⟨ts, listRead, rfl⟩ := map_ok.mp setRead
    obtain ⟨us, again, members⟩ := itemsOf_same same listRead
    have setAgain : (listOf string (.array _ _)).map Tags.ofList = .ok (Tags.ofList ts) :=
      map_ok.mpr ⟨us, again, (Tags.ofList_congr members).symm⟩
    exact map_ok.mpr ⟨_, map_ok.mpr ⟨_, setAgain, rfl⟩, rfl⟩

theorem snippet_respects : Snippet.decoder.Respects (RecordRespelled snippetSlots) := by
  refine Fields.Respects.decoder ?_ (by decide) "Snippet"
  have fields := Fields.Respects.pure Snippet.mk
    |>.required "id" int64.respects_eq
    |>.required "name" string.respects_eq
    |>.withDefault "language" (optional Language.decoder).respects_eq none true (fun _ => rfl)
    |>.withDefault "tags" tags_respects Tags.empty true (fun _ => rfl)
    |>.withDefault "content" textOrEmpty.respects_eq "" true (fun _ => rfl)
    |>.withDefault "extraNotes" textOrEmpty.respects_eq "" true (fun _ => rfl)
    |>.withDefault "isDraft" boolean.respects_eq false false nofun
    |>.withDefault "createdAt" (optional timestamp).respects_eq none true (fun _ => rfl)
    |>.withDefault "lastUpdated" (optional timestamp).respects_eq none true (fun _ => rfl)
  simp only [List.nil_append, List.cons_append] at fields
  exact fields

theorem preview_respects : Preview.decoder.Respects (RecordRespelled previewSlots) := by
  refine Fields.Respects.decoder ?_ (by decide) "SnippetPreview"
  have fields := Fields.Respects.pure Preview.mk
    |>.required "id" int64.respects_eq
    |>.required "name" string.respects_eq
    |>.withDefault "language" (optional Language.decoder).respects_eq none true (fun _ => rfl)
    |>.withDefault "tags" tags_respects Tags.empty true (fun _ => rfl)
    |>.withDefault "createdAt" (optional timestamp).respects_eq none true (fun _ => rfl)
  simp only [List.nil_append, List.cons_append] at fields
  exact fields

theorem update_respects : SnippetUpdate.decoder.Respects (RecordRespelled updateSlots) := by
  refine Fields.Respects.decoder ?_ (by decide) "SnippetUpdate"
  have fields := Fields.Respects.pure SnippetUpdate.mk
    |>.required "snippetName" string.respects_eq
    |>.required "content" string.respects_eq
    |>.required "extraNotes" string.respects_eq
    |>.withDefault "language" (optional Language.decoder).respects_eq none true (fun _ => rfl)
    |>.required "tags" (listOf string).respects_eq
  simp only [List.nil_append, List.cons_append] at fields
  exact fields

theorem pageInfo_respects : PageInfo.decoder.Respects (RecordRespelled pageInfoSlots) := by
  refine Fields.Respects.decoder ?_ (by decide) "PageMetadata"
  have fields := Fields.Respects.pure PageInfo.mk
    |>.withDefault "size" uint64.respects_eq 0 false nofun
    |>.withDefault "number" uint64.respects_eq 0 false nofun
    |>.withDefault "totalElements" uint64.respects_eq 0 false nofun
    |>.withDefault "totalPages" uint64.respects_eq 0 false nofun
  simp only [List.nil_append, List.cons_append] at fields
  exact fields

theorem listing_respects : Listing.decoder.Respects (RecordRespelled listingSlots) := by
  have page := optional_respects pageInfo_respects pageInfo_whole nofun
    fun w change => recordRespelled_null change rfl
  refine Fields.Respects.decoder ?_ (by decide) "Page"
  have fields := Fields.Respects.pure Listing.mk
    |>.withDefault "content" (listOf_respects preview_respects) [] false nofun
    |>.withDefault "page" page none true (fun _ => rfl)
    |>.withDefault "totalPages" (optional uint64).respects_eq none true (fun _ => rfl)
  simp only [List.nil_append, List.cons_append] at fields
  exact fields

theorem line_respects : LineResponse.decoder.Respects (RecordRespelled lineSlots) := by
  refine Fields.Respects.decoder ?_ (by decide) "DiffLineResponse"
  have fields := Fields.Respects.pure LineResponse.mk
    |>.required "lineNum" uint32.respects_eq
    |>.required "lineType" MarkResponse.decoder.respects_eq
    |>.withDefault "lineContent" textOrEmpty.respects_eq "" true (fun _ => rfl)
  simp only [List.nil_append, List.cons_append] at fields
  exact fields

theorem side_respects : SideResponse.decoder.Respects (RecordRespelled sideSlots) := by
  refine Fields.Respects.decoder ?_ (by decide) "DiffSideResponse"
  have fields := Fields.Respects.pure SideResponse.mk
    |>.required "snippetName" string.respects_eq
    |>.withDefault "lines" (listOf_respects line_respects) [] false nofun
  simp only [List.nil_append, List.cons_append] at fields
  exact fields

theorem comparison_respects :
    CompareResponse.decoder.Respects (RecordRespelled comparisonSlots) := by
  refine Fields.Respects.decoder ?_ (by decide) "CompareResponse"
  have fields := Fields.Respects.pure CompareResponse.mk
    |>.required "comparing" side_respects
    |>.required "comparingTo" side_respects
  simp only [List.nil_append, List.cons_append] at fields
  exact fields

theorem Kind.respects (k : Kind) : k.decoder.Respects k.Respelled := by
  cases k with
  | snippet => exact snippet_respects
  | preview => exact preview_respects
  | update => exact update_respects
  | listing => exact listing_respects
  | comparison => exact comparison_respects

/-- A text that is read spells a value, and every text of every other spelling of that value is
read as the same document. -/
theorem spelling_does_not_matter (k : Kind) {text : String} {v : k.Value}
    (read : k.decode text = .ok v) :
    (∃ j, Spells (.value j) text.toList) ∧
      ∀ j other again, Spells (.value j) text.toList → k.Respelled j other →
        Spells (.value other) again.toList → k.decode again = .ok v := by
  refine ⟨⟨_, (spells_of_decodeText k.whole read).1⟩, fun j other again spells change texts => ?_⟩
  have own : k.decoder j = .ok v := (decodeText_of_spells k.decoder spells).symm.trans read
  have same : k.decoder other = .ok v := k.respects j other v own change
  exact (decodeText_of_spells k.decoder texts).trans same

/-- Blanks, two members that are not known, no null, and the tags in another order with a
repetition. -/
theorem preview_spelled_otherwise :
    Kind.preview.decode "\x7b\"id\":5,\"name\":\"a\",\"tags\":[\"x\",\"y\"],\"language\":null\x7d" =
        .ok ⟨5, "a", none, Tags.ofList ["x", "y"], none⟩ ∧
      Kind.preview.decode
          " \x7b\"k\":[1],\"tags\" : [\"y\",\"x\",\"y\"],\"k\":true,\"name\":\"a\",\"id\":5 \x7d" =
        .ok ⟨5, "a", none, Tags.ofList ["x", "y"], none⟩ := by
  have first : Document.ofText
      "\x7b\"id\":5,\"name\":\"a\",\"tags\":[\"x\",\"y\"],\"language\":null\x7d".toList =
        ⟨.object [(.name "id", whole 5), (.name "name", .text "a"),
          (.name "tags", list [.text "x", .text "y"]), (.name "language", .null)] .closed,
          false⟩ := by cbv
  have second : Document.ofText
    " \x7b\"k\":[1],\"tags\" : [\"y\",\"x\",\"y\"],\"k\":true,\"name\":\"a\",\"id\":5 \x7d".toList =
      ⟨.object [(.name "k", list [whole 1]),
        (.name "tags", list [.text "y", .text "x", .text "y"]), (.name "k", .bool true),
        (.name "name", .text "a"), (.name "id", whole 5)] .closed, false⟩ := by cbv
  have spells := spells_of_ofText (congrArg Document.trailing first) (by rw [first]; rfl)
  have spellsAgain := spells_of_ofText (congrArg Document.trailing second) (by rw [second]; rfl)
  rw [first] at spells
  rw [second] at spellsAgain
  have read : Kind.preview.decode
      "\x7b\"id\":5,\"name\":\"a\",\"tags\":[\"x\",\"y\"],\"language\":null\x7d" =
        .ok ⟨5, "a", none, Tags.ofList ["x", "y"], none⟩ := by
    rw [Kind.decode, decodeText, first]
    rfl
  refine ⟨read, (spelling_does_not_matter .preview read).2 _ _ _ spells ?_ spellsAgain⟩
  have language : nullOrNone "language" ∈ Kind.preview.slots := by simp [Kind.slots, previewSlots]
  have tags : tagSet ∈ Kind.preview.slots := by simp [Kind.slots, previewSlots]
  have other : "k" ∉ Kind.preview.slots.map (·.name) := by decide
  have dropped : Kind.preview.Respelled
      (.object ([(.name "id", whole 5), (.name "name", .text "a"),
        (.name "tags", list [.text "x", .text "y"])] ++ [(.name "language", .null)]) .closed)
      (.object ([(.name "id", whole 5), (.name "name", .text "a"),
        (.name "tags", list [.text "x", .text "y"])] ++ []) .closed) :=
    .nullDropped language rfl
  have repeated : Kind.preview.Respelled
      (.object ([(.name "id", whole 5), (.name "name", .text "a")] ++
        [(.name "tags", list [.text "x", .text "y"])]) .closed)
      (.object ([(.name "id", whole 5), (.name "name", .text "a")] ++
        [(.name "tags", list [.text "y", .text "x", .text "y"])]) .closed) :=
    .inside tags (.items (by simp))
  have ignored : Kind.preview.Respelled
      (.object ([(.name "id", whole 5), (.name "name", .text "a")] ++
        [(.name "tags", list [.text "y", .text "x", .text "y"])]) .closed)
      (.object ([(.name "id", whole 5), (.name "name", .text "a")] ++
        [(.name "k", .bool true),
          (.name "tags", list [.text "y", .text "x", .text "y"])]) .closed) :=
    .unknown other rfl
  have ignoredAgain : Kind.preview.Respelled
      (.object ([] ++ [(.name "id", whole 5), (.name "name", .text "a"), (.name "k", .bool true),
        (.name "tags", list [.text "y", .text "x", .text "y"])]) .closed)
      (.object ([] ++ [(.name "k", list [whole 1]), (.name "id", whole 5),
        (.name "name", .text "a"), (.name "k", .bool true),
        (.name "tags", list [.text "y", .text "x", .text "y"])]) .closed) :=
    .unknown other rfl
  -- behind the first member the others stand in the opposite order
  exact dropped.trans (repeated.trans (ignored.trans (ignoredAgain.trans
    (.permuted (.cons _ (List.reverse_perm _).symm)))))

end SnippetPage.Wire
