import SnippetPage.Proofs.Json.Record
import SnippetPage.Proofs.Json.Recovery
import SnippetPage.Proofs.Json.Writing

/-!
# Decoding a text

Decoders take only values whose text has no fault. So a text that decodes spells a value, and
decoding any text of a value is reading the value.
-/

namespace SnippetPage.Json

/-- A decoder takes only values that can at least be skipped. -/
def Decoder.Whole {α : Type} (d : Decoder α) : Prop :=
  ∀ v a, d v = .ok a → v.skip = none

section
variable {α : Type}

theorem mismatch_fails {expected : Expected} {v : Json} {a : α} : mismatch expected v ≠ .ok a := by
  unfold mismatch
  split
  case h_4 => split <;> nofun
  all_goals nofun

theorem integer_whole (low high : Int) (expected : Expected) :
    Decoder.Whole (integer low high expected) := by
  intro v n read
  unfold integer at read
  split at read
  · rfl
  · exact absurd read mismatch_fails

theorem Decoder.Whole.map {β : Type} {d : Decoder α} (h : d.Whole) (g : α → β) :
    Decoder.Whole fun v => (d v).map g := by
  intro v b read
  obtain ⟨a, own, -⟩ := map_ok.mp read
  exact h v a own

theorem int64_whole : int64.Whole := (integer_whole _ _ _).map _

theorem uint64_whole : uint64.Whole := (integer_whole _ _ _).map _

theorem uint32_whole : uint32.Whole := (integer_whole _ _ _).map _

theorem string_whole : string.Whole := by
  intro v s read
  unfold string at read
  split at read
  · rfl
  · exact absurd read mismatch_fails

theorem boolean_whole : boolean.Whole := by
  intro v b read
  unfold boolean at read
  split at read
  · rfl
  · exact absurd read mismatch_fails

theorem timestamp_whole : timestamp.Whole := by
  intro v t read
  unfold timestamp at read
  split at read
  · rfl
  · exact absurd read mismatch_fails

theorem optional_whole {d : Decoder α} (h : d.Whole) : (optional d).Whole := by
  intro v o read
  unfold optional at read
  split at read
  · rfl
  · cases read
  · obtain ⟨a, own, -⟩ := map_ok.mp read
    exact h v a own

theorem orElse_whole {d : Decoder α} (h : d.Whole) (default : α) : (orElse default d).Whole :=
  (optional_whole h).map _

theorem itemsOf_whole {d : Decoder α} (h : d.Whole) {vs : List Json} {ending : Ending}
    {as : List α} (read : itemsOf d vs ending = .ok as) : (Json.array vs ending).skip = none := by
  fun_induction itemsOf d vs ending generalizing as with
  | case1 => rfl
  | case2 => cases read
  | case3 v rest ending ih =>
    obtain ⟨a, own, read⟩ := bind_ok.mp read
    obtain ⟨others, readOthers, -⟩ := bind_ok.mp read
    have first := h v a own
    have later := ih readOthers
    simp only [skip, skipItems, Option.or_eq_none_iff] at later ⊢
    exact ⟨⟨first, later.1⟩, later.2⟩

theorem listOf_whole {d : Decoder α} (h : d.Whole) : (listOf d).Whole := by
  intro v as read
  unfold listOf at read
  split at read
  · exact itemsOf_whole h read
  · exact absurd read mismatch_fails

theorem unit_whole : unit.Whole := by
  intro v a read
  unfold unit at read
  split at read
  · rfl
  · exact absurd read mismatch_fails

theorem variant_whole (ofName : String → Except DecodeError α) : (variant ofName).Whole := by
  intro v a read
  unfold variant at read
  split at read
  · rfl
  · cases read
  · obtain ⟨b, -, read⟩ := bind_ok.mp read
    obtain ⟨u, null, read⟩ := bind_ok.mp read
    have whole := unit_whole _ u null
    split at read
    · simp [skip, skipMembers, Key.skip, whole, Ending.fault?]
    · cases read
    · cases read
  all_goals cases read

/-! ### Records -/

/-- The values of all fields are read in full. -/
def Fields.Whole (f : Fields α) : Prop :=
  ∀ rule ∈ f.rules, ∀ v, rule.check v = .ok () → v.skip = none

theorem Fields.Whole.pure (a : α) : (Fields.pure a).Whole := nofun

theorem rules_whole {rules : List Rule}
    (fields : ∀ rule ∈ rules, ∀ v, rule.check v = .ok () → v.skip = none) {d : Decoder α}
    (h : d.Whole) (name : String) (hasDefault : Bool) :
    ∀ rule ∈ rules ++ [⟨name, fun v => (d v).map fun _ => (), hasDefault⟩],
      ∀ v, rule.check v = .ok () → v.skip = none := by
  refine List.forall_mem_append.mpr ⟨fields, List.forall_mem_singleton.mpr ?_⟩
  intro v checked
  obtain ⟨a, read⟩ := map_unit_ok.mp checked
  exact h v a read

theorem Fields.Whole.required {β : Type} {f : Fields (α → β)} (fields : f.Whole) (name : String)
    {d : Decoder α} (h : d.Whole) : (f.required name d).Whole :=
  rules_whole fields h name false

theorem Fields.Whole.withDefault {β : Type} {f : Fields (α → β)} (fields : f.Whole) (name : String)
    {d : Decoder α} (h : d.Whole) (default : α) : (f.withDefault name d default).Whole :=
  rules_whole fields h name true

theorem admits_whole {rules : List Rule}
    (whole : ∀ rule ∈ rules, ∀ v, rule.check v = .ok () → v.skip = none) {m : Key × Json}
    (admits : Admits rules m) : m.1.skip = none ∧ m.2.skip = none := by
  obtain ⟨k, v⟩ := m
  cases k with
  | name s =>
    refine ⟨rfl, ?_⟩
    simp only [Admits] at admits
    split at admits
    · rename_i rule found
      exact whole rule (List.mem_of_find?_eq_some found) v admits
    · exact admits
  | _ => cases admits

theorem skipMembers_none {ms : List (Key × Json)}
    (whole : ∀ m ∈ ms, m.1.skip = none ∧ m.2.skip = none) : skipMembers ms = none := by
  induction ms with
  | nil => rfl
  | cons m ms ih =>
    obtain ⟨k, v⟩ := m
    obtain ⟨⟨key, value⟩, others⟩ := List.forall_mem_cons.mp whole
    simp only [skipMembers, Option.or_eq_none_iff]
    exact ⟨key, value, ih others⟩

theorem admitsItems_whole {rules : List Rule}
    (whole : ∀ rule ∈ rules, ∀ v, rule.check v = .ok () → v.skip = none) {vs : List Json}
    (admits : AdmitsItems rules vs) : skipItems vs = none := by
  fun_induction AdmitsItems rules vs with
  | case1 => rfl
  | case2 => cases admits
  | case3 rule rules v vs ih =>
    obtain ⟨own, others⟩ := admits
    obtain ⟨first, later⟩ := List.forall_mem_cons.mp whole
    simp only [skipItems, Option.or_eq_none_iff]
    exact ⟨first v own, ih later others⟩

theorem Fields.Whole.decoder {f : Fields α} (fields : f.Whole) (record : String) :
    (f.decoder record).Whole := by
  intro v a read
  rcases Fields.decoder_ok read with ⟨ms, ending, rfl⟩ | ⟨vs, ending, rfl⟩
  · obtain ⟨rfl, admits, -, -⟩ := Fields.decoder_object.mp read
    simp only [skip, Ending.fault?, Option.or_none]
    exact skipMembers_none fun m member => admits_whole fields (admits m member)
  · obtain ⟨rfl, admits, -⟩ := Fields.decoder_array.mp read
    simp only [skip, Ending.fault?, Option.or_none]
    exact admitsItems_whole fields admits

/-! ### Texts -/

theorem decodeText_of_spells (d : Decoder α) {v : Json} {text : String}
    (spells : Spells (.value v) text.toList) : decodeText d text = d v := by
  rw [decodeText, Document.ofText_eq spells]
  cases d v <;> rfl

theorem decodeText_render (d : Decoder α) {v : Json} (written : Written v) :
    decodeText d (render v) = d v :=
  decodeText_of_spells d written

theorem spells_of_decodeText {d : Decoder α} (h : d.Whole) {text : String} {a : α}
    (read : decodeText d text = .ok a) :
    Spells (.value (Document.ofText text.toList).value) text.toList ∧
      d (Document.ofText text.toList).value = .ok a := by
  cases own : d (Document.ofText text.toList).value with
  | error e =>
    simp only [decodeText, own] at read
    cases read
  | ok b =>
    simp only [decodeText, own] at read
    split at read
    · cases read
    · rename_i ends
      cases read
      have ends : (Document.ofText text.toList).trailing = false := by simpa using ends
      exact ⟨spells_of_ofText ends (h _ a own), rfl⟩

end

end SnippetPage.Json
