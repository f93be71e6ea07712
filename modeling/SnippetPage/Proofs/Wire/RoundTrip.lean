import SnippetPage.Proofs.Json.Respelling
import SnippetPage.Proofs.Tags
import SnippetPage.Proofs.Timestamp
import SnippetPage.Proofs.Wire.Kind

/-!
# What is written is read back

Each of the five kinds of documents is read back from its text as the value that was written, for
every value: all identities, counts and line numbers, every text, every set of tags, every
timestamp, with or without the optional parts.
-/

namespace SnippetPage

open Json

namespace Json

/-- A decoder undoes an encoder, whose values can all be written. -/
structure Decoder.Inverts {α : Type} (d : Decoder α) (encode : α → Json) : Prop where
  read : ∀ a, d (encode a) = .ok a
  written : ∀ a, Written (encode a)

theorem string_inverts : string.Inverts .text :=
  ⟨fun _ => rfl, written_text⟩

theorem boolean_inverts : boolean.Inverts .bool :=
  ⟨fun _ => rfl, written_bool⟩

theorem integer_whole_value {low high n : Int} (above : low ≤ n) (below : n ≤ high)
    (expected : Expected) : integer low high expected (whole n) = .ok n :=
  if_pos ⟨above, below⟩

theorem int64_inverts : int64.Inverts fun n => whole n.toInt where
  read n := by
    have low : -Int.pow 2 63 ≤ n.toInt := Int64.le_toInt n
    have high : n.toInt ≤ Int.pow 2 63 - 1 := Int64.toInt_le n
    rw [int64, integer_whole_value low high]
    exact congrArg Except.ok (Int64.ofInt_toInt n)
  written n := by
    have low : -Int.pow 2 63 ≤ n.toInt := Int64.le_toInt n
    have high : n.toInt ≤ Int.pow 2 63 - 1 := Int64.toInt_le n
    have size : Int.pow 2 64 = 18446744073709551616 := rfl
    have half : Int.pow 2 63 = 9223372036854775808 := rfl
    exact written_whole ⟨low, by omega⟩

theorem uint64_inverts : uint64.Inverts fun n => whole n.toNat where
  read n := by
    have size : Int.pow 2 64 = 18446744073709551616 := rfl
    have high := n.toNat_lt
    rw [uint64, integer_whole_value (by omega) (by omega)]
    exact congrArg Except.ok (UInt64.ofNat_toNat)
  written n := by
    have size : Int.pow 2 64 = 18446744073709551616 := rfl
    have floor : -Int.pow 2 63 = -9223372036854775808 := rfl
    have high := n.toNat_lt
    exact written_whole ⟨by omega, by omega⟩

theorem uint32_inverts : uint32.Inverts fun n => whole n.toNat where
  read n := by
    have size : Int.pow 2 32 = 4294967296 := rfl
    have high := n.toNat_lt
    rw [uint32, integer_whole_value (by omega) (by omega)]
    exact congrArg Except.ok (UInt32.ofNat_toNat)
  written n := by
    have size : Int.pow 2 64 = 18446744073709551616 := rfl
    have floor : -Int.pow 2 63 = -9223372036854775808 := rfl
    have high := n.toNat_lt
    exact written_whole ⟨by omega, by omega⟩

theorem timestamp_inverts : timestamp.Inverts Timestamp.toJson where
  read t := by
    simp only [timestamp, Timestamp.toJson, Timestamp.ofIso_toIso]
    rfl
  written t := written_text t.toIso

section
variable {α : Type} {d : Decoder α} {encode : α → Json}

theorem Decoder.Inverts.list (h : d.Inverts encode) :
    (listOf d).Inverts fun as => Json.list (as.map encode) where
  read as := by
    induction as with
    | nil => rfl
    | cons a as ih =>
      refine bind_ok.mpr ⟨a, h.read a, ?_⟩
      exact bind_ok.mpr ⟨as, ih, rfl⟩
  written as := by
    refine written_list fun v member => ?_
    obtain ⟨a, -, rfl⟩ := List.mem_map.mp member
    exact h.written a

theorem Decoder.Inverts.nullable (h : d.Inverts encode) (whole : d.Whole)
    (some : ∀ a, encode a ≠ .null) : (optional d).Inverts (nullable encode) where
  read o := by
    cases o with
    | none => rfl
    | some a => exact optional_of (h.read a) (some a) (whole _ a (h.read a))
  written o := by
    cases o with
    | none => exact written_null
    | some a => exact h.written a

theorem Decoder.Inverts.orElse (h : d.Inverts encode) (whole : d.Whole)
    (some : ∀ a, encode a ≠ .null) (default : α) : (orElse default d).Inverts encode where
  read a := by
    rw [Json.orElse, optional_of (h.read a) (some a) (whole _ a (h.read a))]
    rfl
  written := h.written

theorem Decoder.Inverts.via {β : Type} (h : d.Inverts encode) {store : β → α} {restore : α → β}
    (back : ∀ b, restore (store b) = b) :
    Decoder.Inverts (fun v => (d v).map restore) fun b => encode (store b) where
  read b := by
    rw [h.read, ← back b]
    exact congrArg Except.ok (by rw [back])
  written b := h.written (store b)

theorem inverts_record {f : Fields α} (members : α → List (String × Json))
    (made : ∀ a, f.Makes (fun name => (record (members a)).member? name) a)
    (distinct : ∀ a, ((members a).map (·.1)).Nodup)
    (known : ∀ a, ∀ name ∈ (members a).map (·.1), name ∈ f.rules.map (·.name))
    (written : ∀ a, ∀ m ∈ members a, Written m.2) (name : String) :
    (f.decoder name).Inverts fun a => record (members a) where
  read a := (made a).record (distinct a) (known a) name
  written a := written_record (written a)

end

end Json

/-! ### Parts of documents -/

theorem language_inverts : Language.decoder.Inverts Language.toJson where
  read l := by cases l <;> rfl
  written l := written_text l.name

theorem textOrEmpty_inverts : textOrEmpty.Inverts .text :=
  string_inverts.orElse string_whole nofun ""

theorem tags_inverts : Tags.decoder.Inverts Tags.toJson :=
  (string_inverts.list.via Tags.ofList_toList).orElse ((listOf_whole string_whole).map _) nofun
    Tags.empty

theorem mark_inverts : MarkResponse.decoder.Inverts fun m => .text m.name where
  read m := by cases m <;> rfl
  written m := written_text m.name

theorem language_nullable_inverts :
    (optional Language.decoder).Inverts (nullable Language.toJson) :=
  language_inverts.nullable Wire.language_whole nofun

theorem timestamp_nullable_inverts :
    (optional timestamp).Inverts (nullable Timestamp.toJson) :=
  timestamp_inverts.nullable timestamp_whole fun t null => by
    rw [Timestamp.toJson] at null
    cases null

/-! ### Documents -/

theorem snippet_inverts : Snippet.decoder.Inverts Snippet.toJson := by
  refine inverts_record (fun s => _) (fun s => ?_) ?_ ?_ ?_ "Snippet"
  · exact (Fields.Makes.pure _
      |>.required rfl (int64_inverts.read s.id)
      |>.required rfl (string_inverts.read s.name)
      |>.withDefault _ rfl (language_nullable_inverts.read s.language)
      |>.withDefault _ rfl (tags_inverts.read s.tags)
      |>.withDefault _ rfl (textOrEmpty_inverts.read s.content)
      |>.withDefault _ rfl (textOrEmpty_inverts.read s.notes)
      |>.withDefault _ rfl (boolean_inverts.read s.isDraft)
      |>.withDefault _ rfl (timestamp_nullable_inverts.read s.created)
      |>.withDefault _ rfl (timestamp_nullable_inverts.read s.updated))
  · intro s
    simp
  · intro s
    simp [Fields.required, Fields.withDefault, Fields.pure]
  · intro s
    simp only [List.forall_mem_cons]
    exact ⟨int64_inverts.written s.id, written_text s.name,
      language_nullable_inverts.written s.language, tags_inverts.written s.tags,
      written_text s.content, written_text s.notes, written_bool s.isDraft,
      timestamp_nullable_inverts.written s.created, timestamp_nullable_inverts.written s.updated,
      nofun⟩

theorem preview_inverts : Preview.decoder.Inverts Preview.toJson := by
  refine inverts_record (fun p => _) (fun p => ?_) ?_ ?_ ?_ "SnippetPreview"
  · exact (Fields.Makes.pure _
      |>.required rfl (int64_inverts.read p.id)
      |>.required rfl (string_inverts.read p.name)
      |>.withDefault _ rfl (language_nullable_inverts.read p.language)
      |>.withDefault _ rfl (tags_inverts.read p.tags)
      |>.withDefault _ rfl (timestamp_nullable_inverts.read p.created))
  · intro p
    simp
  · intro p
    simp [Fields.required, Fields.withDefault, Fields.pure]
  · intro p
    simp only [List.forall_mem_cons]
    exact ⟨int64_inverts.written p.id, written_text p.name,
      language_nullable_inverts.written p.language, tags_inverts.written p.tags,
      timestamp_nullable_inverts.written p.created, nofun⟩

/-- The member of the language is there only when it is set. -/
theorem update_inverts : SnippetUpdate.decoder.Inverts SnippetUpdate.toJson := by
  refine inverts_record (fun u => _) (fun u => ?_) ?_ ?_ ?_ "SnippetUpdate"
  · obtain ⟨name, content, notes, language, tags⟩ := u
    cases language with
    | none =>
      exact (Fields.Makes.pure _
        |>.required rfl (string_inverts.read name)
        |>.required rfl (string_inverts.read content)
        |>.required rfl (string_inverts.read notes)
        |>.leftOut _ rfl
        |>.required rfl (string_inverts.list.read tags))
    | some l =>
      exact (Fields.Makes.pure _
        |>.required rfl (string_inverts.read name)
        |>.required rfl (string_inverts.read content)
        |>.required rfl (string_inverts.read notes)
        |>.withDefault _ rfl (language_nullable_inverts.read (some l))
        |>.required rfl (string_inverts.list.read tags))
  · intro u
    cases u.language <;> simp
  · intro u
    cases u.language <;> simp [Fields.required, Fields.withDefault, Fields.pure]
  · intro u
    simp only [List.forall_mem_append, List.forall_mem_cons]
    refine ⟨⟨⟨written_text u.name, written_text u.content, written_text u.notes, nofun⟩, ?_⟩,
      string_inverts.list.written u.tags, nofun⟩
    cases u.language with
    | none => nofun
    | some l => exact List.forall_mem_singleton.mpr (language_inverts.written l)

theorem pageInfo_inverts : PageInfo.decoder.Inverts PageInfo.toJson := by
  refine inverts_record (fun i => _) (fun i => ?_) ?_ ?_ ?_ "PageMetadata"
  · exact (Fields.Makes.pure _
      |>.withDefault _ rfl (uint64_inverts.read i.size)
      |>.withDefault _ rfl (uint64_inverts.read i.number)
      |>.withDefault _ rfl (uint64_inverts.read i.totalElements)
      |>.withDefault _ rfl (uint64_inverts.read i.totalPages))
  · intro i
    simp
  · intro i
    simp [Fields.withDefault, Fields.pure]
  · intro i
    simp only [List.forall_mem_cons]
    exact ⟨uint64_inverts.written i.size, uint64_inverts.written i.number,
      uint64_inverts.written i.totalElements, uint64_inverts.written i.totalPages, nofun⟩

theorem listing_inverts : Listing.decoder.Inverts Listing.toJson := by
  have info := pageInfo_inverts.nullable Wire.pageInfo_whole nofun
  have pages := uint64_inverts.nullable uint64_whole nofun
  refine inverts_record (fun l => _) (fun l => ?_) ?_ ?_ ?_ "Page"
  · exact (Fields.Makes.pure _
      |>.withDefault _ rfl (preview_inverts.list.read l.content)
      |>.withDefault _ rfl (info.read l.info)
      |>.withDefault _ rfl (pages.read l.totalPages))
  · intro l
    simp
  · intro l
    simp [Fields.withDefault, Fields.pure]
  · intro l
    simp only [List.forall_mem_cons]
    exact ⟨preview_inverts.list.written l.content, info.written l.info,
      pages.written l.totalPages, nofun⟩

theorem line_inverts : LineResponse.decoder.Inverts LineResponse.toJson := by
  refine inverts_record (fun l => _) (fun l => ?_) ?_ ?_ ?_ "DiffLineResponse"
  · exact (Fields.Makes.pure _
      |>.required rfl (uint32_inverts.read l.number)
      |>.required rfl (mark_inverts.read l.mark)
      |>.withDefault _ rfl (textOrEmpty_inverts.read l.content))
  · intro l
    simp
  · intro l
    simp [Fields.required, Fields.withDefault, Fields.pure]
  · intro l
    simp only [List.forall_mem_cons]
    exact ⟨uint32_inverts.written l.number, mark_inverts.written l.mark, written_text l.content,
      nofun⟩

theorem side_inverts : SideResponse.decoder.Inverts SideResponse.toJson := by
  refine inverts_record (fun s => _) (fun s => ?_) ?_ ?_ ?_ "DiffSideResponse"
  · exact (Fields.Makes.pure _
      |>.required rfl (string_inverts.read s.name)
      |>.withDefault _ rfl (line_inverts.list.read s.lines))
  · intro s
    simp
  · intro s
    simp [Fields.required, Fields.withDefault, Fields.pure]
  · intro s
    simp only [List.forall_mem_cons]
    exact ⟨written_text s.name, line_inverts.list.written s.lines, nofun⟩

theorem comparison_inverts : CompareResponse.decoder.Inverts CompareResponse.toJson := by
  refine inverts_record (fun c => _) (fun c => ?_) ?_ ?_ ?_ "CompareResponse"
  · exact (Fields.Makes.pure _
      |>.required rfl (side_inverts.read c.left)
      |>.required rfl (side_inverts.read c.right))
  · intro c
    simp
  · intro c
    simp [Fields.required, Fields.pure]
  · intro c
    simp only [List.forall_mem_cons]
    exact ⟨side_inverts.written c.left, side_inverts.written c.right, nofun⟩

namespace Wire

theorem Kind.inverts (k : Kind) : k.decoder.Inverts k.toJson := by
  cases k with
  | snippet => exact snippet_inverts
  | preview => exact preview_inverts
  | update => exact update_inverts
  | listing => exact listing_inverts
  | comparison => exact comparison_inverts

theorem Kind.decode_encode (k : Kind) (v : k.Value) : k.decode (k.encode v) = .ok v :=
  (decodeText_render k.decoder (k.inverts.written v)).trans (k.inverts.read v)

/-- Every value is read back from its text; so reading a text, writing what was read and reading
that is the same as reading the text. -/
theorem round_trip (k : Kind) :
    (∀ v : k.Value, k.decode (k.encode v) = .ok v) ∧
      ∀ text, (k.decode text >>= fun v => k.decode (k.encode v)) = k.decode text := by
  refine ⟨k.decode_encode, fun text => ?_⟩
  cases k.decode text with
  | error e => rfl
  | ok v => exact k.decode_encode v

end Wire

end SnippetPage
