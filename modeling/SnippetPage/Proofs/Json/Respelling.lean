import Mathlib.Data.List.Nodup
import SnippetPage.Proofs.Json.Decoding

/-!
# Other spellings of a record

The same record can be sent in many ways: its members in another order, with members that it does
not know, and with or without the nulls of the fields that may be left out. A decoder that takes
one of them takes all of them, and reads the same record.
-/

namespace SnippetPage.Json

/-! ### Spellings -/

/-- A field as it may be spelled. -/
structure Slot where
  name : String
  /-- A null is the same as no member. -/
  nullable : Bool
  /-- The ways to spell its value again. -/
  respelled : Json → Json → Prop

/-- Items of an array that stand for fields, each spelled again or left as it was. -/
inductive ItemsRespelled : List Slot → List Json → List Json → Prop where
  | nil (slots : List Slot) : ItemsRespelled slots [] []
  | cons {slot : Slot} {slots : List Slot} {v w : Json} {vs ws : List Json}
      (first : v = w ∨ slot.respelled v w) (rest : ItemsRespelled slots vs ws) :
      ItemsRespelled (slot :: slots) (v :: vs) (w :: ws)

/-- The ways to spell a record again: one change after another. -/
inductive RecordRespelled (slots : List Slot) : Json → Json → Prop where
  | same (v : Json) : RecordRespelled slots v v
  | trans {u v w : Json} (first : RecordRespelled slots u v) (second : RecordRespelled slots v w) :
      RecordRespelled slots u w
  | permuted {ms ns : List (Key × Json)} {ending : Ending} (order : ms.Perm ns) :
      RecordRespelled slots (.object ms ending) (.object ns ending)
  /-- Any value can stand in a member that is not known, and the name may come again. -/
  | unknown {before after : List (Key × Json)} {ending : Ending} {name : String} {v : Json}
      (other : name ∉ slots.map (·.name)) (whole : v.skip = none) :
      RecordRespelled slots (.object (before ++ after) ending)
        (.object (before ++ (.name name, v) :: after) ending)
  | nullDropped {before after : List (Key × Json)} {ending : Ending} {slot : Slot}
      (field : slot ∈ slots) (nullable : slot.nullable = true) :
      RecordRespelled slots (.object (before ++ (.name slot.name, .null) :: after) ending)
        (.object (before ++ after) ending)
  | nullAdded {before after : List (Key × Json)} {ending : Ending} {slot : Slot}
      (field : slot ∈ slots) (nullable : slot.nullable = true)
      (missing : ∀ m ∈ before ++ after, m.1 ≠ .name slot.name) :
      RecordRespelled slots (.object (before ++ after) ending)
        (.object (before ++ (.name slot.name, .null) :: after) ending)
  | inside {before after : List (Key × Json)} {ending : Ending} {slot : Slot} {v w : Json}
      (field : slot ∈ slots) (change : slot.respelled v w) :
      RecordRespelled slots (.object (before ++ (.name slot.name, v) :: after) ending)
        (.object (before ++ (.name slot.name, w) :: after) ending)
  | insideItems {vs ws : List Json} {ending : Ending} (change : ItemsRespelled slots vs ws) :
      RecordRespelled slots (.array vs ending) (.array ws ending)

/-- A list with every item spelled again. -/
inductive ListRespelled (R : Json → Json → Prop) : Json → Json → Prop where
  | same (v : Json) : ListRespelled R v v
  | items {vs ws : List Json} {ending : Ending} (each : List.Forall₂ R vs ws) :
      ListRespelled R (.array vs ending) (.array ws ending)

/-- A set: a list in any order and with any repetition. -/
inductive SetRespelled : Json → Json → Prop where
  | same (v : Json) : SetRespelled v v
  | items {vs ws : List Json} {ending : Ending} (members : ∀ v, v ∈ vs ↔ v ∈ ws) :
      SetRespelled (.array vs ending) (.array ws ending)

/-! ### Decoders that do not tell spellings apart -/

/-- A decoder reads every other spelling of a value that it reads, as the same value. -/
def Decoder.Respects {α : Type} (d : Decoder α) (R : Json → Json → Prop) : Prop :=
  ∀ v w a, d v = .ok a → R v w → d w = .ok a

theorem Decoder.respects_eq {α : Type} (d : Decoder α) : d.Respects Eq := by
  rintro v w a read rfl
  exact read

theorem itemsOf_respects {α : Type} {d : Decoder α} {R : Json → Json → Prop} (h : d.Respects R)
    {vs ws : List Json} (each : List.Forall₂ R vs ws) {ending : Ending} {as : List α}
    (read : itemsOf d vs ending = .ok as) : itemsOf d ws ending = .ok as := by
  induction each generalizing as with
  | nil => exact read
  | cons first rest ih =>
    rw [itemsOf, bind_ok] at read ⊢
    obtain ⟨a, readFirst, read⟩ := read
    obtain ⟨others, readRest, same⟩ := bind_ok.mp read
    exact ⟨a, h _ _ _ readFirst first, bind_ok.mpr ⟨others, ih readRest, same⟩⟩

theorem listOf_respects {α : Type} {d : Decoder α} {R : Json → Json → Prop} (h : d.Respects R) :
    (listOf d).Respects (ListRespelled R) := by
  rintro v w as read change
  cases change with
  | same => exact read
  | items each => exact itemsOf_respects h each read

theorem optional_some {α : Type} {d : Decoder α} {v : Json} {o : Option α}
    (read : optional d v = .ok o) (some : v ≠ .null) : ∃ a, d v = .ok a ∧ o = .some a := by
  unfold optional at read
  split at read
  · exact absurd rfl some
  · cases read
  · obtain ⟨a, h, same⟩ := map_ok.mp read
    exact ⟨a, h, same.symm⟩

theorem optional_of {α : Type} {d : Decoder α} {v : Json} {a : α} (read : d v = .ok a)
    (some : v ≠ .null) (whole : v.skip = none) : optional d v = .ok (.some a) := by
  unfold optional
  split
  · exact absurd rfl some
  · cases whole
  · rw [read]
    rfl

/-- Where a null is no record, nulls and records are spelled again apart. -/
theorem optional_respects {α : Type} {d : Decoder α} {R : Json → Json → Prop} (h : d.Respects R)
    (whole : d.Whole) (null : ∀ a, d .null ≠ .ok a)
    (fixed : ∀ w, R .null w → w = .null) : (optional d).Respects R := by
  intro v w o read change
  by_cases none : v = .null
  · subst none
    rw [fixed w change]
    exact read
  · obtain ⟨a, readSome, rfl⟩ := optional_some read none
    have again := h v w a readSome change
    refine optional_of again ?_ (whole w a again)
    rintro rfl
    exact null a again

theorem recordRespelled_null {slots : List Slot} {v w : Json} (change : RecordRespelled slots v w)
    (null : v = .null) : w = .null := by
  induction change with
  | same => exact null
  | trans first second ihFirst ihSecond => exact ihSecond (ihFirst null)
  | _ => cases null

/-! ### Records -/

/-- What may become of the value that is found for a field. -/
inductive Slot.Allows (slot : Slot) : Option Json → Option Json → Prop where
  | same (o : Option Json) : Slot.Allows slot o o
  | respelled {v w : Json} (change : slot.respelled v w) : Slot.Allows slot (some v) (some w)
  | leftOut (nullable : slot.nullable = true) : Slot.Allows slot (some .null) none
  | writtenOut (nullable : slot.nullable = true) : Slot.Allows slot none (some .null)

/-- The place of a field in a text and the ways to spell it belong together. -/
structure Fits (rule : Rule) (slot : Slot) : Prop where
  name : rule.name = slot.name
  respelled : ∀ v w, rule.check v = .ok () → slot.respelled v w → rule.check w = .ok ()
  null : slot.nullable = true → rule.check .null = .ok ()

/-- The fields of a record have the given spellings: the same record is built from every other
spelling of their values. -/
structure Fields.Respects {α : Type} (f : Fields α) (slots : List Slot) : Prop where
  rules : List.Forall₂ Fits f.rules slots
  build : ∀ look again a, (∀ slot ∈ slots, slot.Allows (look slot.name) (again slot.name)) →
    f.build look = .ok a → f.build again = .ok a

namespace Fields.Respects
variable {α β : Type}

theorem pure (a : α) : (Fields.pure a).Respects [] :=
  ⟨.nil, fun _ _ _ _ built => built⟩

theorem fits {name : String} {d : Decoder α} {R : Json → Json → Prop} (h : d.Respects R)
    {hasDefault nullable : Bool} (null : nullable = true → ∃ a, d .null = .ok a) :
    Fits ⟨name, fun v => (d v).map fun _ => (), hasDefault⟩ ⟨name, nullable, R⟩ where
  name := rfl
  respelled v w checked change := by
    obtain ⟨a, read⟩ := map_unit_ok.mp checked
    exact map_unit_ok.mpr ⟨a, h v w a read change⟩
  null given := map_unit_ok.mpr (null given)

theorem required {f : Fields (α → β)} {slots : List Slot} (fields : f.Respects slots)
    (name : String) {d : Decoder α} {R : Json → Json → Prop} (h : d.Respects R) :
    (f.required name d).Respects (slots ++ [⟨name, false, R⟩]) where
  rules := List.rel_append fields.rules (.cons (fits h nofun) .nil)
  build look again b allowed built := by
    obtain ⟨others, own⟩ := List.forall_mem_append.mp allowed
    obtain ⟨g, builtOthers, built⟩ := bind_ok.mp built
    refine bind_ok.mpr ⟨g, fields.build look again g others builtOthers, ?_⟩
    have own := own _ List.mem_cons_self
    dsimp only at own built ⊢
    generalize look name = found at own built
    generalize again name = found' at own
    cases own with
    | same => exact built
    | respelled change =>
      obtain ⟨a, read, same⟩ := map_ok.mp built
      exact map_ok.mpr ⟨a, h _ _ a read change, same⟩
    | leftOut nullable => cases nullable
    | writtenOut nullable => cases nullable

theorem withDefault {f : Fields (α → β)} {slots : List Slot} (fields : f.Respects slots)
    (name : String) {d : Decoder α} {R : Json → Json → Prop} (h : d.Respects R) (default : α)
    (nullable : Bool) (null : nullable = true → d .null = .ok default) :
    (f.withDefault name d default).Respects (slots ++ [⟨name, nullable, R⟩]) where
  rules := List.rel_append fields.rules
    (.cons (fits h fun given => ⟨default, null given⟩) .nil)
  build look again b allowed built := by
    obtain ⟨others, own⟩ := List.forall_mem_append.mp allowed
    obtain ⟨g, builtOthers, built⟩ := bind_ok.mp built
    refine bind_ok.mpr ⟨g, fields.build look again g others builtOthers, ?_⟩
    have own := own _ List.mem_cons_self
    dsimp only at own built ⊢
    generalize look name = found at own built
    generalize again name = found' at own
    cases own with
    | same => exact built
    | respelled change =>
      obtain ⟨a, read, same⟩ := map_ok.mp built
      exact map_ok.mpr ⟨a, h _ _ a read change, same⟩
    | leftOut nullable =>
      obtain ⟨a, read, same⟩ := map_ok.mp built
      rw [null nullable] at read
      cases read
      exact congrArg Except.ok same
    | writtenOut nullable =>
      cases built
      exact map_ok.mpr ⟨default, null nullable, rfl⟩

end Fields.Respects

section
variable {rules : List Rule} {slots : List Slot}

theorem fits_names (fits : List.Forall₂ Fits rules slots) :
    rules.map (·.name) = slots.map (·.name) := by
  induction fits with
  | nil => rfl
  | cons first rest ih => rw [List.map_cons, List.map_cons, first.name, ih]

theorem fits_find (fits : List.Forall₂ Fits rules slots) (distinct : (slots.map (·.name)).Nodup)
    {slot : Slot} (field : slot ∈ slots) :
    ∃ rule, rules.find? (·.name == slot.name) = some rule ∧ Fits rule slot := by
  induction fits with
  | nil => cases field
  | @cons rule first rules slots fits rest ih =>
    rw [List.map_cons, List.nodup_cons] at distinct
    rcases List.mem_cons.mp field with rfl | later
    · refine ⟨rule, ?_, fits⟩
      simp [fits.name]
    · obtain ⟨found, finds, fitsFound⟩ := ih distinct.2 later
      refine ⟨found, ?_, fitsFound⟩
      have other : first.name ≠ slot.name := by
        intro same
        exact distinct.1 (same ▸ List.mem_map_of_mem later)
      simp [fits.name, other, finds]

theorem slot_eq (distinct : (slots.map (·.name)).Nodup) {slot other : Slot} (field : slot ∈ slots)
    (second : other ∈ slots) (same : slot.name = other.name) : slot = other :=
  List.inj_on_of_nodup_map distinct field second same

theorem admits_field (fits : List.Forall₂ Fits rules slots)
    (distinct : (slots.map (·.name)).Nodup) {slot : Slot} (field : slot ∈ slots) :
    ∃ rule, Fits rule slot ∧ ∀ v, Admits rules (.name slot.name, v) ↔ rule.check v = .ok () := by
  obtain ⟨rule, found, fit⟩ := fits_find fits distinct field
  exact ⟨rule, fit, fun v => by simp only [Admits, found]⟩

theorem field_name (fits : List.Forall₂ Fits rules slots) {slot : Slot} (field : slot ∈ slots) :
    slot.name ∈ rules.map (·.name) := by
  rw [fits_names fits]
  exact List.mem_map_of_mem field

/-! ### One change of the members -/

theorem allows_inside (distinct : (slots.map (·.name)).Nodup) {slot : Slot} (field : slot ∈ slots)
    {v w : Json} (change : slot.respelled v w) (before after : List (Key × Json)) (ending : Ending)
    {other : Slot} (second : other ∈ slots) :
    other.Allows ((Json.object (before ++ (.name slot.name, v) :: after) ending).member? other.name)
      ((Json.object (before ++ (.name slot.name, w) :: after) ending).member? other.name) := by
  rw [member?_append, member?_append, member?_cons, member?_cons]
  cases (Json.object before ending).member? other.name with
  | some earlier => exact .same _
  | none =>
    by_cases same : slot.name = other.name
    · obtain rfl := slot_eq distinct field second same
      simp only [if_true]
      exact .respelled change
    · simp only [Key.name.injEq, if_neg same]
      exact .same _

theorem allows_null {slot : Slot} (nullable : slot.nullable = true)
    {before after : List (Key × Json)} (ending : Ending)
    (missing : ∀ m ∈ before ++ after, m.1 ≠ .name slot.name) (distinct : (slots.map (·.name)).Nodup)
    (field : slot ∈ slots) {other : Slot} (second : other ∈ slots) :
    other.Allows ((Json.object (before ++ after) ending).member? other.name)
        ((Json.object (before ++ (.name slot.name, .null) :: after) ending).member? other.name) ∧
      other.Allows
        ((Json.object (before ++ (.name slot.name, .null) :: after) ending).member? other.name)
        ((Json.object (before ++ after) ending).member? other.name) := by
  by_cases same : slot.name = other.name
  · obtain rfl := slot_eq distinct field second same
    obtain ⟨first, last⟩ := List.forall_mem_append.mp missing
    have without : (Json.object (before ++ after) ending).member? slot.name = none :=
      member?_none missing
    have earlier : (Json.object before ending).member? slot.name = none := member?_none first
    rw [without, member?_append, earlier, member?_cons, if_pos rfl]
    exact ⟨.writtenOut nullable, .leftOut nullable⟩
  · have equal :
        (Json.object (before ++ (.name slot.name, .null) :: after) ending).member? other.name =
          (Json.object (before ++ after) ending).member? other.name := by
      rw [member?_append, member?_append, member?_cons]
      simp only [Key.name.injEq, if_neg same]
    rw [equal]
    exact ⟨.same _, .same _⟩

theorem member?_unknown {name : String} (unknown : name ∉ slots.map (·.name)) (v : Json)
    (before after : List (Key × Json)) (ending : Ending) {slot : Slot} (field : slot ∈ slots) :
    (Json.object (before ++ (.name name, v) :: after) ending).member? slot.name =
      (Json.object (before ++ after) ending).member? slot.name := by
  have other : name ≠ slot.name := by
    rintro rfl
    exact unknown (List.mem_map_of_mem field)
  rw [member?_append, member?_append, member?_cons]
  simp only [Key.name.injEq, if_neg other]

end

/-! ### The decoder of a record -/

section
variable {α : Type} {record : String} {f : Fields α} {slots : List Slot} {a : α}

/-- Members that pass the check, with values for the fields that may stand for the others. -/
theorem decoder_members (h : f.Respects slots) {ms ns : List (Key × Json)} {ending : Ending}
    (read : f.decoder record (.object ms ending) = .ok a) (admits : ∀ m ∈ ns, Admits f.rules m)
    (once : (ns.filterMap (fieldName? f.rules)).Nodup)
    (allowed : ∀ slot ∈ slots, slot.Allows ((Json.object ms ending).member? slot.name)
      ((Json.object ns ending).member? slot.name)) :
    f.decoder record (.object ns ending) = .ok a := by
  obtain ⟨closed, -, -, built⟩ := Fields.decoder_object.mp read
  exact Fields.decoder_object.mpr ⟨closed, admits, once, h.build _ _ a allowed built⟩

theorem decoder_permuted (h : f.Respects slots) {ms ns : List (Key × Json)} {ending : Ending}
    (read : f.decoder record (.object ms ending) = .ok a) (order : ms.Perm ns) :
    f.decoder record (.object ns ending) = .ok a := by
  obtain ⟨-, admits, once, -⟩ := Fields.decoder_object.mp read
  refine decoder_members h read ?_ ?_ ?_
  · intro m member
    exact admits m (order.mem_iff.mpr member)
  · exact ((order.filterMap _).nodup_iff).mp once
  · intro slot field
    rw [member?_perm order once (field_name h.rules field)]
    exact .same _

theorem decoder_unknown (h : f.Respects slots) {before after : List (Key × Json)} {ending : Ending}
    {name : String} {v : Json} (read : f.decoder record (.object (before ++ after) ending) = .ok a)
    (other : name ∉ slots.map (·.name)) (whole : v.skip = none) :
    f.decoder record (.object (before ++ (.name name, v) :: after) ending) = .ok a := by
  obtain ⟨-, admits, once, -⟩ := Fields.decoder_object.mp read
  have unknown : name ∉ f.rules.map (·.name) := by rwa [fits_names h.rules]
  refine decoder_members h read ?_ ?_ ?_
  · rw [List.forall_mem_append, List.forall_mem_cons]
    obtain ⟨first, last⟩ := List.forall_mem_append.mp admits
    refine ⟨first, ?_, last⟩
    have absent : f.rules.find? (·.name == name) = none := by
      rw [List.find?_eq_none]
      intro rule member same
      exact unknown (List.mem_map.mpr ⟨rule, member, eq_of_beq same⟩)
    simpa only [Admits, absent] using whole
  · rw [List.filterMap_append, List.filterMap_cons_none (fieldName?_other unknown v),
      ← List.filterMap_append]
    exact once
  · intro slot field
    rw [member?_unknown other v before after ending field]
    exact .same _

theorem filterMap_field (fits : List.Forall₂ Fits f.rules slots) {slot : Slot}
    (field : slot ∈ slots) (before after : List (Key × Json)) (v : Json) :
    (before ++ (.name slot.name, v) :: after).filterMap (fieldName? f.rules) =
      before.filterMap (fieldName? f.rules) ++
        slot.name :: after.filterMap (fieldName? f.rules) := by
  rw [List.filterMap_append,
    List.filterMap_cons_some (fieldName?_field (field_name fits field) v)]

theorem decoder_inside (h : f.Respects slots) (distinct : (slots.map (·.name)).Nodup)
    {before after : List (Key × Json)} {ending : Ending} {slot : Slot} {v w : Json}
    (read : f.decoder record (.object (before ++ (.name slot.name, v) :: after) ending) = .ok a)
    (field : slot ∈ slots) (change : slot.respelled v w) :
    f.decoder record (.object (before ++ (.name slot.name, w) :: after) ending) = .ok a := by
  obtain ⟨-, admits, once, -⟩ := Fields.decoder_object.mp read
  obtain ⟨rule, fit, taken⟩ := admits_field h.rules distinct field
  rw [List.forall_mem_append, List.forall_mem_cons, taken] at admits
  obtain ⟨first, own, last⟩ := admits
  refine decoder_members h read ?_ ?_ ?_
  · rw [List.forall_mem_append, List.forall_mem_cons, taken]
    exact ⟨first, fit.respelled v w own change, last⟩
  · rw [filterMap_field h.rules field] at once ⊢
    exact once
  · intro other second
    exact allows_inside distinct field change before after ending second

theorem decoder_nullAdded (h : f.Respects slots) (distinct : (slots.map (·.name)).Nodup)
    {before after : List (Key × Json)} {ending : Ending} {slot : Slot}
    (read : f.decoder record (.object (before ++ after) ending) = .ok a) (field : slot ∈ slots)
    (nullable : slot.nullable = true) (missing : ∀ m ∈ before ++ after, m.1 ≠ .name slot.name) :
    f.decoder record (.object (before ++ (.name slot.name, .null) :: after) ending) = .ok a := by
  obtain ⟨-, admits, once, -⟩ := Fields.decoder_object.mp read
  obtain ⟨rule, fit, taken⟩ := admits_field h.rules distinct field
  refine decoder_members h read ?_ ?_ ?_
  · obtain ⟨first, last⟩ := List.forall_mem_append.mp admits
    rw [List.forall_mem_append, List.forall_mem_cons, taken]
    exact ⟨first, fit.null nullable, last⟩
  · have fresh : slot.name ∉ (before ++ after).filterMap (fieldName? f.rules) := by
      intro named
      obtain ⟨m, member, known⟩ := List.mem_filterMap.mp named
      exact missing m member (fieldName?_some known)
    rw [filterMap_field h.rules field, List.nodup_middle, ← List.filterMap_append, List.nodup_cons]
    exact ⟨fresh, once⟩
  · intro other second
    exact (allows_null nullable ending missing distinct field second).1

theorem decoder_nullDropped (h : f.Respects slots) (distinct : (slots.map (·.name)).Nodup)
    {before after : List (Key × Json)} {ending : Ending} {slot : Slot}
    (read : f.decoder record (.object (before ++ (.name slot.name, .null) :: after) ending) = .ok a)
    (field : slot ∈ slots) (nullable : slot.nullable = true) :
    f.decoder record (.object (before ++ after) ending) = .ok a := by
  obtain ⟨-, admits, once, -⟩ := Fields.decoder_object.mp read
  rw [List.forall_mem_append, List.forall_mem_cons] at admits
  obtain ⟨first, -, last⟩ := admits
  rw [filterMap_field h.rules field, List.nodup_middle, ← List.filterMap_append,
    List.nodup_cons] at once
  obtain ⟨fresh, once⟩ := once
  -- the field has no other member, since no field comes twice
  have missing : ∀ m ∈ before ++ after, m.1 ≠ .name slot.name := by
    rintro ⟨k, v⟩ member rfl
    exact fresh (List.mem_filterMap.mpr
      ⟨_, member, fieldName?_field (field_name h.rules field) v⟩)
  refine decoder_members h read (List.forall_mem_append.mpr ⟨first, last⟩) once ?_
  intro other second
  exact (allows_null nullable ending missing distinct field second).2

theorem admitsItems_respelled {rules : List Rule} (fits : List.Forall₂ Fits rules slots)
    {vs ws : List Json} (change : ItemsRespelled slots vs ws) (admits : AdmitsItems rules vs) :
    AdmitsItems rules ws := by
  induction change generalizing rules with
  | nil => exact admits
  | cons first rest ih =>
    cases fits with
    | cons fit fits =>
      obtain ⟨own, others⟩ := admits
      refine ⟨?_, ih fits others⟩
      rcases first with rfl | first
      · exact own
      · exact fit.respelled _ _ own first

theorem allows_items (distinct : (slots.map (·.name)).Nodup) {vs ws : List Json}
    (change : ItemsRespelled slots vs ws) {slot : Slot} (field : slot ∈ slots) :
    slot.Allows ((((slots.map (·.name)).zip vs).find? (·.1 == slot.name)).map (·.2))
      ((((slots.map (·.name)).zip ws).find? (·.1 == slot.name)).map (·.2)) := by
  induction change with
  | nil => exact .same _
  | @cons first slots v w vs ws own rest ih =>
    rw [List.map_cons, List.nodup_cons] at distinct
    simp only [List.map_cons, List.zip_cons_cons, List.find?_cons]
    rcases List.mem_cons.mp field with rfl | later
    · simp only [beq_self_eq_true, Option.map_some]
      rcases own with rfl | own
      · exact .same _
      · exact .respelled own
    · have other : (first.name == slot.name) = false := by
        rw [beq_eq_false_iff_ne]
        intro same
        exact distinct.1 (same ▸ List.mem_map_of_mem later)
      simp only [other]
      exact ih distinct.2 later

theorem decoder_items (h : f.Respects slots) (distinct : (slots.map (·.name)).Nodup)
    {vs ws : List Json} {ending : Ending} (read : f.decoder record (.array vs ending) = .ok a)
    (change : ItemsRespelled slots vs ws) : f.decoder record (.array ws ending) = .ok a := by
  obtain ⟨closed, admits, built⟩ := Fields.decoder_array.mp read
  refine Fields.decoder_array.mpr ⟨closed, admitsItems_respelled h.rules change admits, ?_⟩
  rw [fits_names h.rules] at built ⊢
  refine h.build _ _ a ?_ built
  intro slot field
  exact allows_items distinct change field

/-- A record that is read is read from every other spelling of it. -/
theorem Fields.Respects.decoder (h : f.Respects slots) (distinct : (slots.map (·.name)).Nodup)
    (record : String) : (f.decoder record).Respects (RecordRespelled slots) := by
  intro v w a read change
  induction change with
  | same => exact read
  | trans first second ihFirst ihSecond => exact ihSecond (ihFirst read)
  | permuted order => exact decoder_permuted h read order
  | unknown other whole => exact decoder_unknown h read other whole
  | nullDropped field nullable => exact decoder_nullDropped h distinct read field nullable
  | nullAdded field nullable missing =>
    exact decoder_nullAdded h distinct read field nullable missing
  | inside field change => exact decoder_inside h distinct read field change
  | insideItems change => exact decoder_items h distinct read change

end

end SnippetPage.Json
