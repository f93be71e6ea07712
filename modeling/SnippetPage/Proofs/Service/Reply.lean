import SnippetPage.Proofs.Wire.Kind
import SnippetPage.Service.Client

/-!
# What a reply means

The status of a reply decides whether its body is read as the answer to the call, as the document
of a refusal, or not at all. A body is read as JSON, so what can be read from it is stated on the
values that it spells.
-/

namespace SnippetPage

open Json (Spells)

/-! ### Bodies as text -/

namespace Reply

theorem character?_encode (c : Char) (rest : List UInt8) :
    character? (String.utf8EncodeChar c ++ rest) = some c := by
  have size : (String.utf8EncodeChar c).length ≤ 4 := by
    rw [String.length_utf8EncodeChar]
    rcases Char.utf8Size_eq c with size | size | size | size <;> omega
  rw [character?, List.take_append, List.take_of_length_le size, List.toByteArray_append]
  exact ByteArray.utf8DecodeChar?_utf8EncodeChar_append

theorem characters_encode (cs : List Char) :
    characters (cs.flatMap String.utf8EncodeChar) = cs := by
  induction cs with
  | nil => rw [List.flatMap_nil, characters]
  | cons c cs ih =>
    have first := character?_encode c (cs.flatMap String.utf8EncodeChar)
    have size := String.length_utf8EncodeChar c
    obtain ⟨b, bs, bytes⟩ := List.exists_cons_of_ne_nil (String.utf8EncodeChar_ne_nil (c := c))
    rw [bytes, List.cons_append] at first
    rw [bytes, List.length_cons] at size
    have others : (bs ++ cs.flatMap String.utf8EncodeChar).drop (c.utf8Size - 1) =
        cs.flatMap String.utf8EncodeChar := by
      rw [← size, Nat.add_sub_cancel, List.drop_left]
    rw [List.flatMap_cons, bytes, List.cons_append, characters, first]
    simp only [others, ih]

theorem bodyText_toUTF8 (s : String) : bodyText s.toUTF8.data.toList = s := by
  have bytes : s.toUTF8.data.toList = s.toList.flatMap String.utf8EncodeChar := by
    rw [String.toUTF8, ← String.utf8Encode_toList, List.utf8Encode, List.data_toByteArray]
  rw [bodyText, bytes, characters_encode, String.ofList_toList]

end Reply

/-! ### Documents in JSON -/

namespace Json
variable {α : Type} {d : Decoder α} {text : String} {a : α}

/-- A text spells a value that a decoder takes for something. -/
def Says (d : Decoder α) (text : String) (a : α) : Prop :=
  ∃ v, Spells (.value v) text.toList ∧ d v = .ok a

theorem decodeText_ok_iff (whole : d.Whole) : decodeText d text = .ok a ↔ Says d text a := by
  constructor
  · intro read
    obtain ⟨spells, own⟩ := spells_of_decodeText whole read
    exact ⟨_, spells, own⟩
  · rintro ⟨v, spells, own⟩
    rw [decodeText_of_spells d spells, own]

/-- The value is a document with a message: an object with one member of this name, where any
others can be skipped, or the list of the message alone. -/
def HoldsMessage (message : String) : Json → Prop
  | .object members ending =>
    ending = .closed ∧ (∀ m ∈ members, ∃ s, m.1 = .name s ∧ m.2.skip = none) ∧
      members.filter (·.1 == .name "message") = [(.name "message", .text message)]
  | .array items ending => ending = .closed ∧ items = [.text message]
  | _ => False

theorem optional_string_eq_some {v : Json} {message : String} :
    optional string v = .ok (some message) ↔ v = .text message := by
  constructor
  · intro read
    unfold optional at read
    split at read
    · cases read
    · cases read
    · obtain ⟨s, own, same⟩ := map_ok.mp read
      obtain rfl := Option.some.inj same
      unfold string at own
      split at own
      · cases own
        rfl
      · exact absurd own mismatch_fails
  · rintro rfl
    rfl

def messageFields : Fields (Option String) :=
  (Fields.pure id).withDefault "message" (optional string) none

theorem fieldNames_message (ms : List (Key × Json)) :
    ms.filterMap (fieldName? messageFields.rules) =
      (ms.filter (·.1 == .name "message")).map fun _ => "message" := by
  induction ms with
  | nil => rfl
  | cons m ms ih =>
    obtain ⟨k, v⟩ := m
    rw [List.filterMap_cons, List.filter_cons, ih]
    cases k with
    | name s =>
      by_cases same : "message" = s
      · subst same
        simp [fieldName?, messageFields, Fields.withDefault, Fields.pure]
      · simp [fieldName?, messageFields, Fields.withDefault, Fields.pure, same, Ne.symm same]
    | _ => simp [fieldName?]

theorem admits_message {m : Key × Json} : Admits messageFields.rules m ↔ ∃ s, m.1 = .name s ∧
    if s = "message" then ∃ found, optional string m.2 = .ok found else m.2.skip = none := by
  obtain ⟨k, v⟩ := m
  cases k with
  | name s =>
    by_cases same : "message" = s
    · subst same
      simp [Admits, messageFields, Fields.withDefault, Fields.pure, map_unit_ok]
    · simp [Admits, messageFields, Fields.withDefault, Fields.pure, same, Ne.symm same]
  | _ => simp [Admits]

theorem build_message {look : String → Option Json} {message : String} :
    messageFields.build look = .ok (some message) ↔ look "message" = some (.text message) := by
  cases found : look "message" with
  | none =>
    simp only [messageFields, Fields.withDefault, Fields.pure, found]
    exact ⟨nofun, nofun⟩
  | some v =>
    have read : messageFields.build look = (optional string v).map id := by
      simp only [messageFields, Fields.withDefault, Fields.pure, found]
      rfl
    rw [read, map_ok]
    simp only [id, exists_eq_right, optional_string_eq_some, Option.some.injEq]

theorem message_object {ms : List (Key × Json)} {ending : Ending} {message : String} :
    Reply.refusalDecoder (.object ms ending) = .ok (some message) ↔
      HoldsMessage message (.object ms ending) := by
  have first : (Json.object ms ending).member? "message" =
      (ms.filter (·.1 == .name "message")).head?.map Prod.snd := by
    rw [List.head?_filter]
    rfl
  change messageFields.decoder "ApiErrorBody" _ = _ ↔ _
  rw [Fields.decoder_object, fieldNames_message, build_message, first]
  refine and_congr_right fun _ => ?_
  generalize kept : ms.filter (·.1 == .name "message") = named
  constructor
  · rintro ⟨admits, once, found⟩
    have only : named = [(.name "message", .text message)] := by
      rcases named with _ | ⟨m, _ | ⟨n, more⟩⟩
      · cases found
      · have inside : m ∈ ms.filter (·.1 == .name "message") := by
          rw [kept]
          exact List.mem_cons_self
        have key : m.1 = .name "message" := eq_of_beq (List.mem_filter.mp inside).2
        have value : m.2 = .text message := Option.some.inj found
        rw [← key, ← value]
      · simp at once
    refine ⟨?_, only⟩
    intro m member
    obtain ⟨s, key, value⟩ := admits_message.mp (admits m member)
    refine ⟨s, key, ?_⟩
    split at value
    · obtain ⟨o, read⟩ := value
      exact optional_whole string_whole m.2 o read
    · exact value
  · rintro ⟨whole, rfl⟩
    refine ⟨?_, by simp, rfl⟩
    intro m member
    obtain ⟨s, key, skips⟩ := whole m member
    refine admits_message.mpr ⟨s, key, ?_⟩
    split
    · rename_i same
      have there : m ∈ ms.filter (·.1 == .name "message") := by
        simp [List.mem_filter, member, key, same]
      rw [kept, List.mem_singleton] at there
      rw [there]
      exact ⟨some message, rfl⟩
    · exact skips

theorem message_array {vs : List Json} {ending : Ending} {message : String} :
    Reply.refusalDecoder (.array vs ending) = .ok (some message) ↔
      HoldsMessage message (.array vs ending) := by
  change messageFields.decoder "ApiErrorBody" _ = _ ↔ _
  rw [Fields.decoder_array, build_message]
  refine and_congr_right fun _ => ?_
  rcases vs with _ | ⟨v, _ | ⟨w, vs⟩⟩
  · simp
  · have found : ((messageFields.rules.map (·.name)).zip [v]).find? (·.1 == "message") =
        some ("message", v) := rfl
    rw [found, Option.map_some, Option.some.injEq, List.cons.injEq, and_iff_left rfl]
    refine and_iff_right_of_imp ?_
    rintro rfl
    exact ⟨rfl, nofun⟩
  · refine ⟨?_, by simp⟩
    rintro ⟨⟨-, none⟩, -⟩
    exact none.elim

theorem message_iff {v : Json} {message : String} :
    Reply.refusalDecoder v = .ok (some message) ↔ v.HoldsMessage message := by
  cases v with
  | object ms ending => exact message_object
  | array vs ending => exact message_array
  | _ =>
    refine ⟨fun read => ?_, False.elim⟩
    rcases Fields.decoder_ok read with ⟨_, _, ⟨⟩⟩ | ⟨_, _, ⟨⟩⟩

theorem message_whole : Reply.refusalDecoder.Whole :=
  ((Fields.Whole.pure _).withDefault "message" (optional_whole string_whole) none).decoder _

end Json

/-- The text spells a refusal with a message. -/
def Refuses (text message : String) : Prop :=
  ∃ v, Spells (.value v) text.toList ∧ v.HoldsMessage message

/-- The text spells an answer to a call. A deletion is answered by any text. -/
def Call.Answers (text : String) : (c : Call) → c.Answer → Prop
  | .fetch _, snippet | .update _ _, snippet => Json.Says Snippet.decoder text snippet
  | .delete _, _ => True
  | .compare _ _ _, comparison => Json.Says CompareResponse.decoder text comparison
  | .list _, listing => Json.Says Listing.decoder text listing

/-! ### Results -/

section
variable {r : Reply} {text : String} {c : Call} (delivered : r.body = some text)
include delivered

theorem Reply.decode_ok_iff {α : Type} {d : Json.Decoder α} (whole : d.Whole) {a : α} :
    r.decode d = .ok a ↔ Json.Says d text a := by
  rw [← Json.decodeText_ok_iff whole]
  simp only [Reply.decode, delivered]
  cases Json.decodeText d text <;> simp

theorem Reply.message?_eq_some {message : String} :
    r.message? = some message ↔ Refuses text message := by
  have read : Json.decodeText refusalDecoder text = .ok (some message) ↔ Refuses text message := by
    rw [Json.decodeText_ok_iff Json.message_whole]
    exact exists_congr fun v => and_congr_right fun _ => Json.message_iff
  rw [← read]
  simp only [Reply.message?, delivered, Option.map_some]
  cases Json.decodeText refusalDecoder text <;> simp

theorem Call.decode_ok_iff (a : c.Answer) : c.decode r = .ok a ↔ c.Answers text a := by
  cases c with
  | fetch | update => exact Reply.decode_ok_iff delivered Wire.snippet_whole
  | delete => exact iff_of_true rfl trivial
  | compare => exact Reply.decode_ok_iff delivered Wire.comparison_whole
  | list => exact Reply.decode_ok_iff delivered Wire.listing_whole

end

section
variable {r : Reply} {e : ServiceError} {c : Call}

theorem Reply.decode_error {α : Type} {d : Json.Decoder α} (failed : r.decode d = .error e) :
    ∃ cause, e = .decode cause := by
  unfold Reply.decode at failed
  split at failed
  · cases failed
    exact ⟨_, rfl⟩
  · split at failed
    · cases failed
    · cases failed
      exact ⟨_, rfl⟩

theorem Call.decode_error (failed : c.decode r = .error e) : ∃ cause, e = .decode cause := by
  cases c with
  | delete => cases failed
  | _ => exact Reply.decode_error failed

/-- A reply of a good status is read, and any other is an error by its status. -/
theorem Call.ofReply_cases (c : Call) (r : Reply) :
    (200 ≤ r.status ∧ r.status < 300) ∧ c.ofReply r = c.decode r ∨
    ¬(200 ≤ r.status ∧ r.status < 300) ∧ c.ofReply r = .error r.error := by
  have success : r.isSuccess = true ↔ 200 ≤ r.status ∧ r.status < 300 := by
    simp [Reply.isSuccess]
  by_cases good : 200 ≤ r.status ∧ r.status < 300
  · exact Or.inl ⟨good, if_pos (success.mpr good)⟩
  · exact Or.inr ⟨good, if_neg fun yes => good (success.mp yes)⟩

theorem Reply.error_cases (r : Reply) :
    r.status = 401 ∧ r.error = .unauthorized ∨ r.status = 404 ∧ r.error = .notFound ∨
      (r.status ≠ 401 ∧ r.status ≠ 404) ∧ r.error = .rejected r.status r.message? := by
  unfold Reply.error
  by_cases unknown : r.status = 401
  · exact Or.inl ⟨unknown, if_pos unknown⟩
  · by_cases absent : r.status = 404
    · exact Or.inr (Or.inl ⟨absent, by rw [if_neg unknown, if_pos absent]⟩)
    · exact Or.inr (Or.inr ⟨⟨unknown, absent⟩, by rw [if_neg unknown, if_neg absent]⟩)

theorem Reply.error_unauthorized_iff : r.error = .unauthorized ↔ r.status = 401 := by
  rcases r.error_cases with ⟨status, error⟩ | ⟨status, error⟩ | ⟨⟨known, -⟩, error⟩
  · simp [status, error]
  · simp [status, error]
  · simp [known, error]

theorem Reply.error_notFound_iff : r.error = .notFound ↔ r.status = 404 := by
  rcases r.error_cases with ⟨status, error⟩ | ⟨status, error⟩ | ⟨⟨-, present⟩, error⟩
  · simp [status, error]
  · simp [status, error]
  · simp [present, error]

theorem Reply.error_rejected_iff {s : UInt16} {m : Option String} :
    r.error = .rejected s m ↔
      s = r.status ∧ (r.status ≠ 401 ∧ r.status ≠ 404) ∧ r.message? = m := by
  rcases r.error_cases with ⟨status, error⟩ | ⟨status, error⟩ | ⟨other, error⟩
  · simp [status, error]
  · simp [status, error]
  · simp [other, error, eq_comm]

end

namespace Call
variable {r : Reply} {text : String} {c : Call} {e : ServiceError}

theorem ofReply_ok_iff (delivered : r.body = some text) (a : c.Answer) :
    c.ofReply r = .ok a ↔ (200 ≤ r.status ∧ r.status < 300) ∧ c.Answers text a := by
  rcases c.ofReply_cases r with ⟨good, read⟩ | ⟨bad, failed⟩
  · rw [read, decode_ok_iff delivered, and_iff_right good]
  · rw [failed]
    exact iff_of_false nofun fun both => bad both.1

theorem ofReply_error_iff (about : ∀ cause, e ≠ .decode cause) :
    c.ofReply r = .error e ↔ ¬(200 ≤ r.status ∧ r.status < 300) ∧ r.error = e := by
  rcases c.ofReply_cases r with ⟨good, read⟩ | ⟨bad, failed⟩
  · rw [read]
    refine iff_of_false (fun failed => ?_) fun both => both.1 good
    obtain ⟨cause, rfl⟩ := decode_error failed
    exact about cause rfl
  · rw [failed, and_iff_right bad, Except.error.injEq]

theorem ofReply_decode_iff (delivered : r.body = some text) :
    (∃ cause, c.ofReply r = .error (.decode cause)) ↔
      (200 ≤ r.status ∧ r.status < 300) ∧ ∀ a, ¬c.Answers text a := by
  rcases c.ofReply_cases r with ⟨good, read⟩ | ⟨bad, failed⟩
  · rw [and_iff_right good]
    constructor
    · rintro ⟨cause, failed⟩ a answers
      rw [(ofReply_ok_iff delivered a).mpr ⟨good, answers⟩] at failed
      cases failed
    · intro unanswered
      cases done : c.ofReply r with
      | ok a => exact absurd ((ofReply_ok_iff delivered a).mp done).2 (unanswered a)
      | error e =>
        obtain ⟨cause, rfl⟩ := decode_error (read.symm.trans done)
        exact ⟨cause, rfl⟩
  · refine iff_of_false ?_ fun both => bad both.1
    rintro ⟨cause, unread⟩
    have error : r.error = .decode cause := Except.error.inj (failed.symm.trans unread)
    rcases r.error_cases with ⟨-, other⟩ | ⟨-, other⟩ | ⟨-, other⟩ <;> rw [error] at other <;>
      cases other

theorem ofReply_status_iff (status : UInt16) (bad : ¬(200 ≤ status ∧ status < 300))
    (about : ∀ cause, e ≠ .decode cause) (own : r.error = e ↔ r.status = status) :
    c.ofReply r = .error e ↔ r.status = status := by
  rw [ofReply_error_iff about, own]
  refine and_iff_right_of_imp ?_
  rintro same
  rw [same]
  exact bad

theorem ofReply_rejected_iff (delivered : r.body = some text) {s : UInt16} {m : Option String} :
    c.ofReply r = .error (.rejected s m) ↔ s = r.status ∧
      ¬(200 ≤ r.status ∧ r.status < 300) ∧ r.status ≠ 401 ∧ r.status ≠ 404 ∧
        ∀ t, m = some t ↔ Refuses text t := by
  have words : r.message? = m ↔ ∀ t, m = some t ↔ Refuses text t := by
    constructor
    · rintro rfl t
      exact Reply.message?_eq_some delivered
    · intro same
      exact Option.ext fun t => (Reply.message?_eq_some delivered).trans (same t).symm
  have about : ∀ cause, ServiceError.rejected s m ≠ .decode cause := nofun
  rw [ofReply_error_iff about, Reply.error_rejected_iff, words]
  tauto

theorem ofReply_ne_transport (cause : String) : c.ofReply r ≠ .error (.transport cause) := by
  have about : ∀ other, ServiceError.transport cause ≠ .decode other := nofun
  rw [ne_eq, ofReply_error_iff about]
  rintro ⟨-, error⟩
  rcases r.error_cases with ⟨-, other⟩ | ⟨-, other⟩ | ⟨-, other⟩ <;> rw [error] at other <;>
    cases other

end Call

/-- A reply with any body means one result of a call. It is an answer exactly if the status is good
and the body spells it, where a deletion needs no body, and a failure to read exactly if the status
is good and the body spells no answer. With any other status the body does not make a difference,
but for the message of a refusal, which is there exactly if the body spells a document with it. The
result is the same for every client that has an address for the call and gets the reply. -/
theorem reply_means_one_result (c : Call) (status : UInt16) (body : List UInt8)
    (cookies : List String) :
    let text := Reply.bodyText body
    let success := 200 ≤ status ∧ status < 300
    let reply : Reply := ⟨status, some text, cookies⟩
    let result := c.ofReply reply
    (∀ a, result = .ok a ↔ success ∧ c.Answers text a) ∧
    ((∃ cause, result = .error (.decode cause)) ↔ success ∧ ∀ a, ¬c.Answers text a) ∧
    (result = .error .unauthorized ↔ status = 401) ∧
    (result = .error .notFound ↔ status = 404) ∧
    (∀ s m, result = .error (.rejected s m) ↔ s = status ∧
      ¬success ∧ status ≠ 401 ∧ status ≠ 404 ∧ ∀ t, m = some t ↔ Refuses text t) ∧
    (∀ cause, result ≠ .error (.transport cause)) ∧
    ∀ (client : Client) (connection : Request → Id (Option Reply)) request,
      client.request? c = some request → connection request = some reply →
        (Id.run (client.call connection c)).2 = result := by
  intro text success reply result
  have delivered : reply.body = some text := rfl
  refine ⟨Call.ofReply_ok_iff delivered, Call.ofReply_decode_iff delivered,
    Call.ofReply_status_iff 401 (by decide) nofun Reply.error_unauthorized_iff,
    Call.ofReply_status_iff 404 (by decide) nofun Reply.error_notFound_iff,
    fun s m => Call.ofReply_rejected_iff delivered, Call.ofReply_ne_transport, ?_⟩
  intro client connection request asked received
  simp only [Client.call, asked, Id.run_bind]
  rw [show Id.run (connection request) = some reply from received]
  rfl

end SnippetPage
