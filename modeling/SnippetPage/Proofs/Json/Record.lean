import Mathlib.Data.List.Forall2
import SnippetPage.Json.Decoder

/-!
# Which values make a record

What the reader of a record asks of the members of an object and of the items of an array, apart
from the order in which it asks. The fields are then built from the values that are found for
their names.
-/

namespace SnippetPage.Json

theorem bind_ok {ε α β : Type} {x : Except ε α} {f : α → Except ε β} {b : β} :
    x >>= f = .ok b ↔ ∃ a, x = .ok a ∧ f a = .ok b := by
  cases x with
  | error e =>
    constructor
    · intro h
      cases h
    · rintro ⟨a, ⟨⟩, -⟩
  | ok a =>
    constructor
    · intro h
      exact ⟨a, rfl, h⟩
    · rintro ⟨a, ⟨⟩, h⟩
      exact h

theorem check_ok {ε β : Type} {x : Except ε Unit} {y : Except ε β} {b : β} :
    (x >>= fun _ => y) = .ok b ↔ x = .ok () ∧ y = .ok b := by
  rw [bind_ok]
  constructor
  · rintro ⟨⟨⟩, checked, h⟩
    exact ⟨checked, h⟩
  · rintro ⟨checked, h⟩
    exact ⟨(), checked, h⟩

theorem map_ok {ε α β : Type} {x : Except ε α} {f : α → β} {b : β} :
    x.map f = .ok b ↔ ∃ a, x = .ok a ∧ f a = b := by
  cases x with
  | error e =>
    constructor
    · intro h
      cases h
    · rintro ⟨a, ⟨⟩, -⟩
  | ok a => simp [Except.map]

theorem map_unit_ok {ε α : Type} {x : Except ε α} :
    (x.map fun _ => ()) = .ok () ↔ ∃ a, x = .ok a := by
  simp [map_ok]

/-! ### Objects -/

/-- What the reader of a record asks of a member: its name can be read, and its value is taken for
the field of that name or can at least be skipped. -/
def Admits (rules : List Rule) : Key × Json → Prop
  | (.name s, v) =>
    match rules.find? (·.name == s) with
    | some rule => rule.check v = .ok ()
    | none => v.skip = none
  | _ => False

/-- The name of a member, if it is the name of a field. -/
def fieldName? (rules : List Rule) : Key × Json → Option String
  | (.name s, _) => if (rules.find? (·.name == s)).isSome then some s else none
  | _ => none

section
variable {rules : List Rule} {ms : List (Key × Json)}

theorem fieldName?_some {m : Key × Json} {s : String} (h : fieldName? rules m = some s) :
    m.1 = .name s := by
  obtain ⟨k, v⟩ := m
  cases k with
  | name t =>
    simp only [fieldName?] at h
    split at h
    · rw [Option.some.inj h]
    · cases h
  | _ => cases h

theorem fieldName?_field {s : String} (field : s ∈ rules.map (·.name)) (v : Json) :
    fieldName? rules (.name s, v) = some s := by
  obtain ⟨rule, member, rfl⟩ := List.mem_map.mp field
  have found : (rules.find? (·.name == rule.name)).isSome :=
    List.find?_isSome.mpr ⟨rule, member, beq_self_eq_true _⟩
  exact if_pos found

theorem fieldName?_other {s : String} (other : s ∉ rules.map (·.name)) (v : Json) :
    fieldName? rules (.name s, v) = none := by
  refine if_neg fun found => ?_
  obtain ⟨rule, member, same⟩ := List.find?_isSome.mp found
  exact other (List.mem_map.mpr ⟨rule, member, eq_of_beq same⟩)

/-- The members are taken when each of them is, in any order, and no field comes twice. -/
theorem checkMembers_ok {seen : List String} {ending : Ending} :
    checkMembers rules seen ms ending = .ok () ↔
      ending = .closed ∧ (∀ m ∈ ms, Admits rules m) ∧ (ms.filterMap (fieldName? rules)).Nodup ∧
        ∀ s ∈ ms.filterMap (fieldName? rules), s ∉ seen := by
  fun_induction checkMembers rules seen ms ending with
  | case1 => simp
  | case2 => simp [fail]
  | case3 => simp [fail, Admits]
  | case4 => simp [fail, Admits]
  | case5 seen s v rest ending rule found repeated => 
    have name : fieldName? rules (.name s, v) = some s := by simp [fieldName?, found]
    rw [List.filterMap_cons_some name]
    simp only [List.contains_eq_mem, decide_eq_true_eq] at repeated
    simp [repeated]
  | case6 seen s v rest ending rule found fresh ih => 
    have name : fieldName? rules (.name s, v) = some s := by simp [fieldName?, found]
    have admits : Admits rules (.name s, v) ↔ rule.check v = .ok () := by simp [Admits, found]
    rw [List.filterMap_cons_some name, List.nodup_cons, List.forall_mem_cons, List.forall_mem_cons,
      admits, check_ok, ih]
    simp only [List.contains_eq_mem, decide_eq_true_eq] at fresh
    grind
  | case7 seen s v rest ending unknown fault skip => 
    have admits : ¬Admits rules (.name s, v) := by simp [Admits, unknown, skip]
    simp [fail, admits]
  | case8 seen s v rest ending unknown skip ih => 
    have name : fieldName? rules (.name s, v) = none := by simp [fieldName?, unknown]
    have admits : Admits rules (.name s, v) := by simp [Admits, unknown, skip]
    rw [List.filterMap_cons_none name, List.forall_mem_cons, ih]
    simp [admits]

theorem Fields.decoder_object {α : Type} {record : String} {f : Fields α} {ending : Ending}
    {a : α} :
    f.decoder record (.object ms ending) = .ok a ↔
      ending = .closed ∧ (∀ m ∈ ms, Admits f.rules m) ∧
        (ms.filterMap (fieldName? f.rules)).Nodup ∧
        f.build (fun name => (Json.object ms ending).member? name) = .ok a := by
  rw [Fields.decoder, check_ok, checkMembers_ok]
  simp only [List.not_mem_nil, not_false_eq_true, implies_true, and_true, and_assoc]

theorem member?_cons (m : Key × Json) (name : String) (ending : Ending) :
    (Json.object (m :: ms) ending).member? name =
      if m.1 = .name name then some m.2 else (Json.object ms ending).member? name := by
  by_cases same : m.1 = .name name
  · simp [member?, same]
  · simp [member?, same]

theorem member?_append (before : List (Key × Json)) (name : String) (ending : Ending) :
    (Json.object (before ++ ms) ending).member? name =
      ((Json.object before ending).member? name).or ((Json.object ms ending).member? name) := by
  rw [member?, member?, member?, List.find?_append]
  exact Option.map_or

theorem member?_none {name : String} {ending : Ending} (absent : ∀ m ∈ ms, m.1 ≠ .name name) :
    (Json.object ms ending).member? name = none := by
  simp only [member?, Option.map_eq_none_iff, List.find?_eq_none]
  intro m member
  simpa using absent m member

/-- Where no field comes twice, the order of the members does not matter to a field. -/
theorem member?_perm {others : List (Key × Json)} {name : String} {ending : Ending}
    (same : ms.Perm others) (once : (ms.filterMap (fieldName? rules)).Nodup)
    (field : name ∈ rules.map (·.name)) :
    (Json.object ms ending).member? name = (Json.object others ending).member? name := by
  induction same with
  | nil => rfl
  | cons m rest ih =>
    rw [← List.singleton_append, List.filterMap_append] at once
    rw [member?_cons, member?_cons, ih (List.nodup_append.mp once).2.1]
  | swap m n rest =>
    simp only [member?_cons]
    by_cases first : m.1 = .name name
    · by_cases second : n.1 = .name name
      · obtain ⟨k, v⟩ := m
        obtain ⟨k', v'⟩ := n
        obtain rfl : k = .name name := first
        obtain rfl : k' = .name name := second
        rw [List.filterMap_cons_some (fieldName?_field field v'),
          List.filterMap_cons_some (fieldName?_field field v)] at once
        simp at once
      · simp [second]
    · simp [first]
  | trans first second ihFirst ihSecond =>
    rw [ihFirst once]
    exact ihSecond (((first.filterMap _).nodup_iff).mp once)

/-! ### Arrays -/

/-- What the reader of a record asks of the items of an array: one for each field in order, where
the last ones may be missing if they have defaults. -/
def AdmitsItems : List Rule → List Json → Prop
  | rules, [] => ∀ rule ∈ rules, rule.hasDefault = true
  | [], _ :: _ => False
  | rule :: rules, v :: vs => rule.check v = .ok () ∧ AdmitsItems rules vs

theorem checkItems_ok {record : String} {total count : Nat} {vs : List Json} {ending : Ending} :
    checkItems record total count rules vs ending = .ok () ↔
      ending = .closed ∧ AdmitsItems rules vs := by
  fun_induction checkItems record total count rules vs ending with
  | case1 => simp [AdmitsItems]
  | case2 => simp [AdmitsItems, fail]
  | case3 => simp [AdmitsItems, fail]
  | case4 count rule rules v rest ending ih =>
    rw [check_ok, AdmitsItems, ih]
    exact and_left_comm
  | case5 => simp [fail]
  | case6 count rule rules given ih =>
    rw [ih]
    cases rules <;> simp [AdmitsItems, given]
  | case7 count rule rules given => simp [AdmitsItems, given]

theorem Fields.decoder_array {α : Type} {record : String} {f : Fields α} {vs : List Json}
    {ending : Ending} {a : α} :
    f.decoder record (.array vs ending) = .ok a ↔
      ending = .closed ∧ AdmitsItems f.rules vs ∧
        f.build (fun name =>
          (((f.rules.map (·.name)).zip vs).find? (·.1 == name)).map (·.2)) = .ok a := by
  rw [Fields.decoder, check_ok, checkItems_ok, and_assoc]

theorem Fields.decoder_ok {α : Type} {record : String} {f : Fields α} {v : Json} {a : α}
    (h : f.decoder record v = .ok a) :
    (∃ ms ending, v = .object ms ending) ∨ ∃ vs ending, v = .array vs ending := by
  cases v with
  | object ms ending => exact .inl ⟨ms, ending, rfl⟩
  | array vs ending => exact .inr ⟨vs, ending, rfl⟩
  | number n =>
    cases n with
    | whole n => cases h
    | decimal negative significand exponent =>
      simp only [Fields.decoder, mismatch] at h
      split at h <;> cases h
  | _ => cases h

end

/-! ### A record that is written field by field -/

/-- The values found for the fields are good, and this is what they make. -/
structure Fields.Makes {α : Type} (f : Fields α) (look : String → Option Json) (a : α) : Prop where
  checked : ∀ rule ∈ f.rules, ∀ v, look rule.name = some v → rule.check v = .ok ()
  built : f.build look = .ok a

namespace Fields.Makes
variable {α β : Type} {look : String → Option Json} {name : String} {d : Decoder α} {v : Json}
  {a : α} {g : α → β}

theorem pure (a : α) : (Fields.pure a).Makes look a :=
  ⟨nofun, rfl⟩

theorem checked_append {rules : List Rule}
    (checked : ∀ rule ∈ rules, ∀ v, look rule.name = some v → rule.check v = .ok ())
    (found : look name = some v) (read : d v = .ok a) (hasDefault : Bool) :
    ∀ rule ∈ rules ++ [⟨name, fun v => (d v).map fun _ => (), hasDefault⟩],
      ∀ v, look rule.name = some v → rule.check v = .ok () := by
  refine List.forall_mem_append.mpr ⟨checked, List.forall_mem_singleton.mpr ?_⟩
  intro w other
  obtain rfl : v = w := Option.some.inj (found.symm.trans other)
  exact map_unit_ok.mpr ⟨a, read⟩

theorem required {f : Fields (α → β)} (made : f.Makes look g) (found : look name = some v)
    (read : d v = .ok a) : (f.required name d).Makes look (g a) where
  checked := checked_append made.checked found read false
  built := bind_ok.mpr ⟨g, made.built, by simp only [found, read]; rfl⟩

theorem withDefault {f : Fields (α → β)} (made : f.Makes look g) (default : α)
    (found : look name = some v) (read : d v = .ok a) :
    (f.withDefault name d default).Makes look (g a) where
  checked := checked_append made.checked found read true
  built := bind_ok.mpr ⟨g, made.built, by simp only [found, read]; rfl⟩

theorem leftOut {f : Fields (α → β)} (made : f.Makes look g) (default : α)
    (absent : look name = none) : (f.withDefault name d default).Makes look (g default) where
  checked := by
    refine List.forall_mem_append.mpr ⟨made.checked, List.forall_mem_singleton.mpr ?_⟩
    intro v found
    rw [absent] at found
    cases found
  built := bind_ok.mpr ⟨g, made.built, by simp only [absent]⟩

end Fields.Makes

theorem member?_record {ms : List (String × Json)} (distinct : (ms.map (·.1)).Nodup)
    {m : String × Json} (member : m ∈ ms) : (record ms).member? m.1 = some m.2 := by
  induction ms with
  | nil => cases member
  | cons first rest ih =>
    rw [List.map_cons, List.nodup_cons] at distinct
    rw [record, List.map_cons, member?_cons]
    rcases List.mem_cons.mp member with rfl | later
    · exact if_pos rfl
    · have other : first.1 ≠ m.1 := by
        intro same
        exact distinct.1 (same ▸ List.mem_map_of_mem later)
      simp only [Key.name.injEq, if_neg other]
      exact ih distinct.2 later

theorem fieldNames_record {rules : List Rule} {ms : List (String × Json)}
    (known : ∀ name ∈ ms.map (·.1), name ∈ rules.map (·.name)) :
    (ms.map fun (s, v) => (Key.name s, v)).filterMap (fieldName? rules) = ms.map (·.1) := by
  induction ms with
  | nil => rfl
  | cons first rest ih =>
    obtain ⟨own, others⟩ := List.forall_mem_cons.mp known
    rw [List.map_cons, List.filterMap_cons_some (fieldName?_field own first.2), ih others]
    rfl

/-- A written record is read as what its values make, if it has no member twice and only those
of its fields. -/
theorem Fields.Makes.record {α : Type} {f : Fields α} {ms : List (String × Json)} {a : α}
    (made : f.Makes (fun name => (record ms).member? name) a) (distinct : (ms.map (·.1)).Nodup)
    (known : ∀ name ∈ ms.map (·.1), name ∈ f.rules.map (·.name)) (name : String) :
    f.decoder name (record ms) = .ok a := by
  refine Fields.decoder_object.mpr ⟨rfl, ?_, ?_, made.built⟩
  · intro member inside
    obtain ⟨⟨s, v⟩, given, rfl⟩ := List.mem_map.mp inside
    have field := known s (List.mem_map_of_mem given)
    obtain ⟨rule, found⟩ : ∃ rule, f.rules.find? (·.name == s) = some rule := by
      obtain ⟨rule, there, same⟩ := List.mem_map.mp field
      exact Option.isSome_iff_exists.mp
        (List.find?_isSome.mpr ⟨rule, there, by simpa using same⟩)
    have same : rule.name = s := by simpa using List.find?_some found
    have taken := made.checked rule (List.mem_of_find?_eq_some found) v
    rw [same] at taken
    simpa only [Admits, found] using taken (member?_record distinct given)
  · rw [fieldNames_record known]
    exact distinct

end SnippetPage.Json
