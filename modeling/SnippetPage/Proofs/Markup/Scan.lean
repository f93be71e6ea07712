import Mathlib.Data.List.Forall2
import SnippetPage.Proofs.Markup.Tree

/-!
# The tags of markup

Markup is split into tags and text in one pass. A tag ends at the first closing bracket that is not
inside a value in double quotes, and only its values may come from elsewhere: escaped text keeps
the pass outside of tags, and an escaped value keeps it inside the quotes. So the tags of two
pieces of markup can be compared piece by piece (`SameTags`).
-/

namespace SnippetPage.Markup

/-- What stands between the brackets of a tag: the values in double quotes, each with what comes
before it, and what follows the last one. -/
structure Tag where
  values : List (List Char × List Char)
  rest : List Char
  deriving DecidableEq

def blankValues (values : List (List Char × List Char)) : List (List Char × List Char) :=
  values.map fun v => (v.1, [])

namespace Tag

/-- The tag with nothing in its quotes. -/
def blank (t : Tag) : Tag :=
  { t with values := blankValues t.values }

/-- The value of an attribute, with its entities decoded. -/
def value? (name : String) (t : Tag) : Option String :=
  (t.values.find? fun v => (' ' :: name.toList ++ ['=']).isSuffixOf v.1).map fun v =>
    String.ofList (unescape v.2)

end Tag

/-- A place in markup with what was read of the tag there; what is held comes latest first. -/
inductive Place where
  | outside
  | inside (values : List (List Char × List Char)) (held : List Char)
  | quoted (values : List (List Char × List Char)) (before held : List Char)
  deriving DecidableEq

/-- A pass over markup: where it is and the tags that it is through with. -/
structure Scan where
  place : Place := .outside
  tags : List Tag := []
  deriving DecidableEq

/-- The three kinds of places. -/
inductive Region where
  | text
  | tag
  | value
  deriving DecidableEq

namespace Scan

def step (s : Scan) (c : Char) : Scan :=
  match s.place with
  | .outside => if c = '<' then { s with place := .inside [] [] } else s
  | .inside values held =>
    if c = '>' then ⟨.outside, s.tags ++ [⟨values, held.reverse⟩]⟩
    else if c = '"' then { s with place := .quoted values held.reverse [] }
    else { s with place := .inside values (c :: held) }
  | .quoted values before held =>
    if c = '"' then { s with place := .inside (values ++ [(before, held.reverse)]) [] }
    else { s with place := .quoted values before (c :: held) }

def run (s : Scan) (markup : String) : Scan :=
  markup.toList.foldl step s

end Scan

def scan (markup : String) : Scan :=
  Scan.run {} markup

def tags (markup : String) : List Tag :=
  (scan markup).tags

/-- The tags of markup with nothing in their quotes. -/
def skeleton (markup : String) : List Tag :=
  (tags markup).map Tag.blank

/-- The value of an attribute in the first tag that has it, with its entities decoded. -/
def attribute? (name markup : String) : Option String :=
  (tags markup).findSome? (Tag.value? name)

/-- No tag is left open. -/
def Complete (markup : String) : Prop :=
  (scan markup).place = .outside

/-- A text without double quotes. -/
def Unquoted (cs : List Char) : Prop :=
  ∀ c ∈ cs, c ≠ '"'

theorem unquoted_iff {cs : List Char} : cs.all (· != '"') = true ↔ Unquoted cs := by
  simp [Unquoted]

instance (cs : List Char) : Decidable (Unquoted cs) :=
  decidable_of_iff _ unquoted_iff

def Place.region : Place → Region
  | outside => .text
  | inside _ _ => .tag
  | quoted _ _ _ => .value

def Region.step (r : Region) (c : Char) : Region :=
  match r with
  | .text => if c = '<' then .tag else .text
  | .tag => if c = '>' then .text else if c = '"' then .value else .tag
  | .value => if c = '"' then .tag else .value

def Place.blank : Place → Place
  | outside => outside
  | inside values held => inside (blankValues values) held
  | quoted values before _ => quoted (blankValues values) before []

/-- A pass that forgets the values. -/
def Scan.blank (s : Scan) : Scan :=
  ⟨s.place.blank, s.tags.map Tag.blank⟩

/-! ### What a pass forgets -/

theorem blankValues_blankValues (values : List (List Char × List Char)) :
    blankValues (blankValues values) = blankValues values := by
  simp [blankValues]

theorem blankValues_append (values others : List (List Char × List Char)) :
    blankValues (values ++ others) = blankValues values ++ blankValues others :=
  List.map_append

theorem Tag.blank_blank (t : Tag) : t.blank.blank = t.blank := by
  rw [blank, blank, blankValues_blankValues]

theorem Place.blank_blank (p : Place) : p.blank.blank = p.blank := by
  cases p with
  | outside => rfl
  | inside values held => rw [blank, blank, blankValues_blankValues]
  | quoted values before held => rw [blank, blank, blankValues_blankValues]

theorem Place.outside_of_region {p : Place} (text : p.region = .text) : p = .outside := by
  cases p <;> first | rfl | cases text

theorem Place.region_blank (p : Place) : p.blank.region = p.region := by
  cases p <;> rfl

namespace Scan

theorem blank_blank (s : Scan) : s.blank.blank = s.blank := by
  simp [blank, Place.blank_blank, Tag.blank_blank]

theorem region_congr {s t : Scan} (same : s.blank = t.blank) : s.place.region = t.place.region := by
  have places : s.place.blank = t.place.blank := congrArg Scan.place same
  rw [← Place.region_blank, places, Place.region_blank]

theorem region_step (s : Scan) (c : Char) :
    (s.step c).place.region = s.place.region.step c := by
  obtain ⟨place, tags⟩ := s
  cases place with
  | outside =>
    by_cases opens : c = '<' <;> simp [step, Place.region, Region.step, opens]
  | inside values held =>
    by_cases closes : c = '>'
    · simp [step, Place.region, Region.step, closes]
    · by_cases quotes : c = '"' <;> simp [step, Place.region, Region.step, closes, quotes]
  | quoted values before held =>
    by_cases quotes : c = '"' <;> simp [step, Place.region, Region.step, quotes]

/-- What is forgotten does not matter for what is read next. -/
theorem blank_step (s : Scan) (c : Char) : (s.step c).blank = (s.blank.step c).blank := by
  obtain ⟨place, tags⟩ := s
  cases place with
  | outside =>
    by_cases opens : c = '<' <;>
      simp [step, blank, Place.blank, opens, blankValues, Tag.blank_blank]
  | inside values held =>
    by_cases closes : c = '>'
    · simp [step, blank, Place.blank, closes, Tag.blank, blankValues_blankValues]
    · by_cases quotes : c = '"' <;>
        simp [step, blank, Place.blank, closes, quotes, Tag.blank_blank, blankValues_blankValues]
  | quoted values before held =>
    by_cases quotes : c = '"'
    · simp [step, blank, Place.blank, quotes, Tag.blank_blank, blankValues_append,
        blankValues_blankValues]
      rfl
    · simp [step, blank, Place.blank, quotes, Tag.blank_blank, blankValues_blankValues]

theorem region_foldl (s : Scan) (cs : List Char) :
    (cs.foldl step s).place.region = cs.foldl Region.step s.place.region := by
  induction cs generalizing s with
  | nil => rfl
  | cons c cs ih => rw [List.foldl_cons, List.foldl_cons, ih, region_step]

theorem blank_foldl (s : Scan) (cs : List Char) :
    (cs.foldl step s).blank = (cs.foldl step s.blank).blank := by
  induction cs generalizing s with
  | nil => exact (blank_blank s).symm
  | cons c cs ih => rw [List.foldl_cons, List.foldl_cons, ih, blank_step, ← ih]

theorem run_append (s : Scan) (a b : String) : s.run (a ++ b) = (s.run a).run b := by
  rw [run, run, run, String.toList_append, List.foldl_append]

theorem run_spelled {l : String} {cs : List Char} (spelled : l = String.ofList cs) (s : Scan) :
    s.run l = cs.foldl step s := by
  rw [run, spelled, String.toList_ofList]

theorem blank_run (s : Scan) (markup : String) :
    (s.run markup).blank = (s.blank.run markup).blank :=
  blank_foldl s markup.toList

theorem foldl_text {s : Scan} (outside : s.place.region = .text) {cs : List Char}
    (flat : Flat cs) : cs.foldl step s = s := by
  obtain ⟨place, tags⟩ := s
  cases place with
  | outside =>
    induction cs with
    | nil => rfl
    | cons c cs ih =>
      obtain ⟨⟨notOpening, -⟩, others⟩ := List.forall_mem_cons.mp flat
      have still : step ⟨.outside, tags⟩ c = ⟨.outside, tags⟩ := if_neg notOpening
      rw [List.foldl_cons, still, ih others]
  | _ => cases outside

theorem foldl_value (values : List (List Char × List Char)) (before held : List Char)
    (tags : List Tag) {cs : List Char} (unquoted : Unquoted cs) :
    cs.foldl step ⟨.quoted values before held, tags⟩ =
      ⟨.quoted values before (cs.reverse ++ held), tags⟩ := by
  induction cs generalizing held with
  | nil => rfl
  | cons c cs ih =>
    obtain ⟨plain, others⟩ := List.forall_mem_cons.mp unquoted
    have holds : step ⟨.quoted values before held, tags⟩ c =
        ⟨.quoted values before (c :: held), tags⟩ := if_neg plain
    rw [List.foldl_cons, holds, ih _ others, List.reverse_cons, List.append_assoc,
      List.singleton_append]

end Scan

theorem unquoted_attributeEntity (c : Char) : Unquoted (attributeEntity c) := by
  unfold attributeEntity
  split
  · decide
  · rename_i plain
    unfold textEntity
    split
    · decide
    · split
      · decide
      · split
        · decide
        · exact List.forall_mem_singleton.mpr plain

theorem unquoted_escapeAttribute (s : String) : Unquoted (escapeAttribute s).toList := by
  intro c member
  rw [toList_escapeAttribute, List.mem_flatMap] at member
  obtain ⟨d, -, part⟩ := member
  exact unquoted_attributeEntity d c part

/-! ### Pieces with the same tags -/

/-- Two pieces of markup that have the same tags but for their values, wherever they stand in a
region, and lead to the same region. -/
structure SameTags (p q : Region) (a b : String) : Prop where
  blank : ∀ s : Scan, s.place.region = p → (s.run a).blank = (s.run b).blank
  region : ∀ s : Scan, s.place.region = p → (s.run a).place.region = q

namespace SameTags
variable {p q r : Region} {a b a' b' : String}

theorem append (first : SameTags p q a b) (second : SameTags q r a' b') :
    SameTags p r (a ++ a') (b ++ b') := by
  constructor
  · intro s start
    have same := first.blank s start
    have next := first.region s start
    have next' : (s.run b).place.region = q := by
      rw [← Scan.region_congr same, next]
    calc (s.run (a ++ a')).blank
        = ((s.run a).run a').blank := by rw [Scan.run_append]
      _ = ((s.run b).run a').blank := by rw [Scan.blank_run, same, ← Scan.blank_run]
      _ = ((s.run b).run b').blank := second.blank _ next'
      _ = (s.run (b ++ b')).blank := by rw [Scan.run_append]
  · intro s start
    rw [Scan.run_append]
    exact second.region _ (first.region s start)

/-- A piece that is the same on both sides, given by its characters. -/
theorem spelled {cs : List Char} (chars : a = String.ofList cs)
    (ends : cs.foldl Region.step p = q) : SameTags p q a a := by
  refine ⟨fun _ _ => rfl, fun s start => ?_⟩
  rw [Scan.run_spelled chars, Scan.region_foldl, start, ends]

theorem fixed {cs : List Char} (chars : a = String.ofList cs)
    (ends : cs.foldl Region.step .text = .text) : SameTags .text .text a a :=
  spelled chars ends

theorem untilValue {cs : List Char} (chars : a = String.ofList cs)
    (ends : cs.foldl Region.step .text = .value) : SameTags .text .value a a :=
  spelled chars ends

theorem afterValue {cs : List Char} (chars : a = String.ofList cs)
    (ends : cs.foldl Region.step .value = .text) : SameTags .value .text a a :=
  spelled chars ends

theorem text (flat : Flat a.toList) (flat' : Flat b.toList) : SameTags .text .text a b := by
  constructor
  · intro s outside
    rw [Scan.run, Scan.run, Scan.foldl_text outside flat, Scan.foldl_text outside flat']
  · intro s outside
    rw [Scan.run, Scan.foldl_text outside flat, outside]

theorem escaped (s t : String) : SameTags .text .text (escapeText s) (escapeText t) :=
  text (flat_escapeText s) (flat_escapeText t)

theorem value (unquoted : Unquoted a.toList) (unquoted' : Unquoted b.toList) :
    SameTags .value .value a b := by
  constructor
  · rintro ⟨place, tags⟩ inside
    cases place with
    | quoted values before held =>
      rw [Scan.run, Scan.run, Scan.foldl_value _ _ _ _ unquoted, Scan.foldl_value _ _ _ _ unquoted']
      rfl
    | _ => cases inside
  · rintro ⟨place, tags⟩ inside
    cases place with
    | quoted values before held =>
      rw [Scan.run, Scan.foldl_value _ _ _ _ unquoted]
      rfl
    | _ => cases inside

theorem escapedValue (s t : String) :
    SameTags .value .value (escapeAttribute s) (escapeAttribute t) :=
  value (unquoted_escapeAttribute s) (unquoted_escapeAttribute t)

theorem join {α β : Type} {print : α → String} {print' : β → String} {as : List α} {bs : List β}
    (each : List.Forall₂ (fun a b => SameTags .text .text (print a) (print' b)) as bs) :
    SameTags .text .text (String.join (as.map print)) (String.join (bs.map print')) := by
  induction each with
  | nil => exact text (fun _ member => nomatch member) (fun _ member => nomatch member)
  | cons first _ ih =>
    rw [List.map_cons, List.map_cons, String.join_cons, String.join_cons]
    exact first.append ih

end SameTags

theorem skeleton_congr {a b : String} (same : SameTags .text .text a b) :
    Complete a ∧ Complete b ∧ skeleton a = skeleton b := by
  have blank := same.blank {} rfl
  have outside := same.region {} rfl
  have outside' := (Scan.region_congr blank).symm.trans outside
  exact ⟨Place.outside_of_region outside, Place.outside_of_region outside',
    congrArg Scan.tags blank⟩

/-! ### Attributes -/

namespace Scan

/-- Reading a piece takes a pass to another one. -/
def Takes (s : Scan) (a : String) (t : Scan) : Prop :=
  s.run a = t

namespace Takes
variable {s t u : Scan} {a b : String} {tags : List Tag}

theorem append (first : s.Takes a t) (second : t.Takes b u) : s.Takes (a ++ b) u := by
  rw [Takes, run_append, show s.run a = t from first]
  exact second

theorem fixed {cs : List Char} (chars : a = String.ofList cs) (reads : cs.foldl step s = t) :
    s.Takes a t :=
  (run_spelled chars s).trans reads

theorem text (flat : Flat a.toList) : Takes ⟨.outside, tags⟩ a ⟨.outside, tags⟩ :=
  foldl_text rfl flat

theorem value (unquoted : Unquoted a.toList) {values : List (List Char × List Char)}
    {before held : List Char} : Takes ⟨.quoted values before held, tags⟩ a
      ⟨.quoted values before (a.toList.reverse ++ held), tags⟩ :=
  foldl_value values before held tags unquoted

end Takes

/-- A pass with other tags before its own. -/
def behind (ts : List Tag) (s : Scan) : Scan :=
  { s with tags := ts ++ s.tags }

theorem step_behind (ts : List Tag) (s : Scan) (c : Char) :
    (s.behind ts).step c = (s.step c).behind ts := by
  obtain ⟨place, tags⟩ := s
  cases place with
  | outside =>
    by_cases opens : c = '<' <;> simp [behind, step, opens]
  | inside values held =>
    by_cases closes : c = '>'
    · simp [behind, step, closes]
    · by_cases quotes : c = '"' <;> simp [behind, step, closes, quotes]
  | quoted values before held =>
    by_cases quotes : c = '"' <;> simp [behind, step, quotes]

theorem run_behind (ts : List Tag) (s : Scan) (markup : String) :
    (s.behind ts).run markup = (s.run markup).behind ts := by
  unfold run
  induction markup.toList generalizing s with
  | nil => rfl
  | cons c cs ih => rw [List.foldl_cons, List.foldl_cons, step_behind, ih]

end Scan

section
variable {name v a b : String}

theorem scan_append (a b : String) :
    scan (a ++ b) = (Scan.run ⟨(scan a).place, []⟩ b).behind (tags a) := by
  have past : Scan.run {} a = Scan.behind (tags a) ⟨(scan a).place, []⟩ := by
    rw [Scan.behind, List.append_nil]
    rfl
  rw [scan, Scan.run_append, past, Scan.run_behind]

/-- Markup has an attribute with a value. -/
def Shows (name v markup : String) : Prop :=
  attribute? name markup = some v

/-- Complete markup without an attribute. -/
structure Lacks (name markup : String) : Prop where
  complete : Complete markup
  absent : attribute? name markup = none

theorem Shows.append (shows : Shows name v a) (b : String) : Shows name v (a ++ b) := by
  rw [Shows, attribute?, tags, scan_append, Scan.behind, List.findSome?_append,
    show (tags a).findSome? (Tag.value? name) = some v from shows]
  rfl

theorem Shows.of_takes {s : Scan} (takes : Scan.Takes {} a s)
    (found : s.tags.findSome? (Tag.value? name) = some v) : Shows name v a := by
  have scanned : scan a = s := takes
  rw [Shows, attribute?, tags, scanned, found]

namespace Lacks

theorem attribute?_append (lacks : Lacks name a) (b : String) :
    attribute? name (a ++ b) = attribute? name b := by
  rw [attribute?, tags, scan_append, lacks.complete, Scan.behind, List.findSome?_append,
    show (tags a).findSome? (Tag.value? name) = none from lacks.absent]
  rfl

theorem append (first : Lacks name a) (second : Lacks name b) : Lacks name (a ++ b) := by
  refine ⟨?_, (first.attribute?_append b).trans second.absent⟩
  rw [Complete, scan_append, first.complete]
  exact second.complete

theorem of_takes {ts : List Tag} (takes : Scan.Takes {} a ⟨.outside, ts⟩)
    (absent : ts.findSome? (Tag.value? name) = none) : Lacks name a := by
  have scanned : scan a = ⟨.outside, ts⟩ := takes
  exact ⟨congrArg Scan.place scanned, by rw [attribute?, tags, scanned, absent]⟩

theorem fixed {cs : List Char} {ts : List Tag} (chars : a = String.ofList cs)
    (reads : cs.foldl Scan.step {} = ⟨.outside, ts⟩)
    (absent : ts.findSome? (Tag.value? name) = none) : Lacks name a :=
  of_takes (.fixed chars reads) absent

theorem text (flat : Flat a.toList) : Lacks name a :=
  of_takes (.text flat) rfl

theorem escaped (s : String) : Lacks name (escapeText s) :=
  text (flat_escapeText s)

theorem join {α : Type} {print : α → String} (as : List α)
    (each : ∀ a, Lacks name (print a)) : Lacks name (String.join (as.map print)) := by
  induction as with
  | nil => exact .text fun _ member => nomatch member
  | cons first others ih =>
    rw [List.map_cons, String.join_cons]
    exact (each first).append ih

end Lacks

theorem Shows.after (lacks : Lacks name a) (shows : Shows name v b) : Shows name v (a ++ b) :=
  (lacks.attribute?_append b).trans shows

end

end SnippetPage.Markup
