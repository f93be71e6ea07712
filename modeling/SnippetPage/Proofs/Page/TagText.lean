import Mathlib.Data.List.Nodup
import SnippetPage.Page.EditBuffer
import SnippetPage.Proofs.Trimming

/-!
# Tags as they are typed

The tags of a form are the trimmed pieces of its text, each where it stands first. Joined again with
commas they are the same tags, whatever blanks stand around the commas. So a form that is opened and
not changed keeps what it was opened with, except for tags that cannot be typed.
-/

namespace SnippetPage

/-! ### First occurrences -/

section
variable {l : List String} {a b : String} {p : String → Bool}

/-- The rest counts without the texts that equal the first one, as `List.eraseDups` goes on. -/
theorem eraseDups_induct {motive : List String → Prop} (nil : motive [])
    (cons : ∀ a l, motive (l.filter (!· == a)) → motive (a :: l)) (l : List String) : motive l := by
  generalize size : l.length = n
  induction n using Nat.strongRecOn generalizing l with
  | ind n ih =>
    cases l with
    | nil => exact nil
    | cons a l =>
      have shorter : (l.filter (!· == a)).length < n :=
        size ▸ Nat.lt_succ_of_le (List.length_filter_le _ l)
      exact cons a l (ih _ shorter _ rfl)

theorem nodup_eraseDups (l : List String) : l.eraseDups.Nodup := by
  induction l using eraseDups_induct with
  | nil => exact List.nodup_nil
  | cons a l ih =>
    rw [List.eraseDups_cons, List.nodup_cons]
    refine ⟨fun again => ?_, ih⟩
    have kept := (List.mem_filter.mp (List.mem_eraseDups.mp again)).2
    simp at kept

theorem eraseDups_of_nodup (distinct : l.Nodup) : l.eraseDups = l := by
  induction l with
  | nil => rfl
  | cons a l ih =>
    obtain ⟨fresh, distinct⟩ := List.nodup_cons.mp distinct
    have all : l.filter (!· == a) = l := by
      rw [List.filter_eq_self]
      intro b member
      have other : b ≠ a := fun same => fresh (same ▸ member)
      simp [other]
    rw [List.eraseDups_cons, all, ih distinct]

theorem idxOf_filter_lt (keepA : p a = true) (keepB : p b = true) :
    (l.filter p).idxOf a < (l.filter p).idxOf b ↔ l.idxOf a < l.idxOf b := by
  -- a text that does not occur is behind all others, on both sides
  induction l with
  | nil => rfl
  | cons c l ih =>
    by_cases keep : p c = true
    · rw [List.filter_cons_of_pos keep]
      simp only [List.idxOf_cons, cond_eq_ite, beq_iff_eq]
      split <;> split <;> simp [ih]
    · have otherA : c ≠ a := fun same => keep (same ▸ keepA)
      have otherB : c ≠ b := fun same => keep (same ▸ keepB)
      rw [List.filter_cons_of_neg keep, ih]
      simp [otherA, otherB]

theorem idxOf_eraseDups_lt (l : List String) (a b : String) :
    l.eraseDups.idxOf a < l.eraseDups.idxOf b ↔ l.idxOf a < l.idxOf b := by
  induction l using eraseDups_induct with
  | nil => rfl
  | cons c l ih =>
    rw [List.eraseDups_cons]
    simp only [List.idxOf_cons, cond_eq_ite, beq_iff_eq]
    split
    · split <;> simp
    · rename_i otherA
      split
      · simp
      · rename_i otherB
        have keepA : (!a == c) = true := by simp [Ne.symm otherA]
        have keepB : (!b == c) = true := by simp [Ne.symm otherB]
        rw [Nat.add_lt_add_iff_right, Nat.add_lt_add_iff_right, ih, idxOf_filter_lt keepA keepB]

end

/-! ### The tags of a form -/

/-- A tag that can be typed among others. -/
structure IsTag (t : String) : Prop where
  nonempty : t ≠ ""
  trimmed : Text.Trimmed t
  whole : ',' ∉ t.toList

namespace EditBuffer
variable {b : EditBuffer} {t : String} {ts : List String}

theorem mem_parsedTags :
    t ∈ b.parsedTags ↔ t ≠ "" ∧ ∃ piece ∈ Text.pieces ',' b.tags, Text.trim piece = t := by
  simp [parsedTags, and_comm]

theorem isTag_of_mem (member : t ∈ b.parsedTags) : IsTag t := by
  obtain ⟨nonempty, piece, there, rfl⟩ := mem_parsedTags.mp member
  refine ⟨nonempty, Text.trimmed_trim piece, fun comma => ?_⟩
  exact Text.not_mem_of_mem_pieces there (Text.mem_of_mem_trim comma)

theorem idxOf_parsedTags_lt {u : String} (nonempty : t ≠ "") (nonempty' : u ≠ "") :
    b.parsedTags.idxOf t < b.parsedTags.idxOf u ↔
      ((Text.pieces ',' b.tags).map Text.trim).idxOf t <
        ((Text.pieces ',' b.tags).map Text.trim).idxOf u := by
  rw [parsedTags, idxOf_eraseDups_lt]
  exact idxOf_filter_lt (by simp [nonempty]) (by simp [nonempty'])

theorem parsedTags_joined (before after : String) (tags : ∀ t ∈ ts, IsTag t) (distinct : ts.Nodup)
    (blankBefore : ∀ c ∈ before.toList, Text.isBlank c = true)
    (blankAfter : ∀ c ∈ after.toList, Text.isBlank c = true)
    (joined : b.tags = String.intercalate (before ++ "," ++ after) ts) : b.parsedTags = ts := by
  rw [parsedTags, joined]
  by_cases none : ts = []
  · subst none
    -- no tags make an empty text, which has one piece
    rw [String.intercalate_nil]
    decide
  · have same : ts.map Text.trim = ts := by
      refine (List.map_congr_left fun t member => ?_).trans (List.map_id ts)
      exact Text.trim_eq_self (tags t member).trimmed
    have visible : Text.isBlank ',' = false := by decide
    have pieces := Text.map_trim_pieces_intercalate visible blankBefore blankAfter none
      fun t member => (tags t member).whole
    have all : ts.filter (· != "") = ts := by
      rw [List.filter_eq_self]
      intro t member
      simp [(tags t member).nonempty]
    rw [show "," = String.singleton ',' from rfl, pieces, same, all, eraseDups_of_nodup distinct]

/-- The tags of a form are the different texts that its pieces are trimmed to, in the order in which
they stand there first. They are found again in the text that they make with commas. -/
theorem tag_text_normal_form (b : EditBuffer) :
    b.parsedTags.Nodup ∧ (∀ t ∈ b.parsedTags, IsTag t) ∧
    (∀ t, t ∈ b.parsedTags ↔ t ≠ "" ∧ ∃ piece ∈ Text.pieces ',' b.tags, Text.trim piece = t) ∧
    (∀ t ∈ b.parsedTags, ∀ u ∈ b.parsedTags,
      (b.parsedTags.idxOf t < b.parsedTags.idxOf u ↔
        ((Text.pieces ',' b.tags).map Text.trim).idxOf t <
          ((Text.pieces ',' b.tags).map Text.trim).idxOf u)) ∧
    ∀ before after : String, (∀ c ∈ before.toList, Text.isBlank c = true) →
      (∀ c ∈ after.toList, Text.isBlank c = true) →
      parsedTags { b with tags := String.intercalate (before ++ "," ++ after) b.parsedTags } =
        b.parsedTags := by
  have distinct : b.parsedTags.Nodup := nodup_eraseDups _
  refine ⟨distinct, fun t => isTag_of_mem, fun t => mem_parsedTags, ?_, ?_⟩
  · intro t member u member'
    exact idxOf_parsedTags_lt (isTag_of_mem member).nonempty (isTag_of_mem member').nonempty
  · intro before after blankBefore blankAfter
    exact parsedTags_joined before after (fun t => isTag_of_mem) distinct blankBefore blankAfter rfl

def typed : EditBuffer := { tags := " B, b ,, B,a " }

theorem typed_tags_come_back :
    (∀ c ∈ "\u00a0\t".toList, Text.isBlank c = true) ∧
      parsedTags
          { typed with tags := String.intercalate ("" ++ "," ++ "\u00a0\t") typed.parsedTags } =
        typed.parsedTags := by
  have blank : ∀ c ∈ "\u00a0\t".toList, Text.isBlank c = true := List.all_eq_true.mp (by decide)
  obtain ⟨-, -, -, -, comesBack⟩ := tag_text_normal_form typed
  exact ⟨blank, comesBack "" _ nofun blank⟩

/-! ### A form that is not changed -/

theorem parsedLanguage_name (language : Option Language) :
    parsedLanguage { language := (language.map Language.name).getD "" } = .ok language := by
  cases language with
  | none => decide
  | some language => cases language <;> decide

theorem parsedLanguage_congr {b b' : EditBuffer} (same : b.language = b'.language) :
    b.parsedLanguage = b'.parsedLanguage := by
  simp only [parsedLanguage, same]

theorem parsedLanguage_ofSnippet (s : Snippet) : (ofSnippet s).parsedLanguage = .ok s.language := by
  have seeded : (ofSnippet s).language = (s.language.map Language.name).getD "" := rfl
  rw [← parsedLanguage_name s.language]
  exact parsedLanguage_congr seeded

theorem parsedTags_ofSnippet (s : Snippet) :
    (ofSnippet s).parsedTags = s.tags.toList ↔ ∀ t ∈ s.tags.toList, IsTag t := by
  constructor
  · intro same t member
    rw [← same] at member
    exact isTag_of_mem member
  · intro tags
    have distinct : s.tags.toList.Nodup := s.tags.sorted.imp fun less => String.ne_of_lt less
    have blank : ∀ c ∈ " ".toList, Text.isBlank c = true := List.all_eq_true.mp (by decide)
    exact parsedTags_joined "" " " tags distinct nofun blank rfl

theorem validate_ofSnippet {s : Snippet} (named : Text.trim s.name ≠ "") :
    (ofSnippet s).validate = .ok
      { name := Text.trim s.name
        content := s.content
        notes := s.notes
        language := s.language
        tags := (ofSnippet s).parsedTags } := by
  have name : Text.trim (ofSnippet s).name ≠ "" := named
  rw [validate, if_neg name, parsedLanguage_ofSnippet]
  rfl

/-- A form that is not changed is refused exactly if it has no name. Otherwise it amounts to the snippet
it was opened with, but its tags are the same only if each of them can be typed among others. -/
theorem unchanged_form (s : Snippet) :
    ((ofSnippet s).validate = .error .emptyName ↔ Text.trim s.name = "") ∧
    (Text.trim s.name ≠ "" → ∃ update, (ofSnippet s).validate = .ok update ∧
      update.name = Text.trim s.name ∧ update.language = s.language ∧
      update.content = s.content ∧ update.notes = s.notes ∧
      (update.tags = s.tags.toList ↔ ∀ t ∈ s.tags.toList, IsTag t)) := by
  constructor
  · constructor
    · intro refused
      by_contra named
      rw [validate_ofSnippet named] at refused
      cases refused
    · intro unnamed
      have name : Text.trim (ofSnippet s).name = "" := unnamed
      rw [validate, if_pos name]
  · intro named
    exact ⟨_, validate_ofSnippet named, rfl, rfl, rfl, rfl, parsedTags_ofSnippet s⟩

/-- A snippet with a tag that cannot be typed. -/
def withComma : Snippet where
  id := 1
  name := " Greeter\u00a0"
  language := some .java
  tags := .ofList ["io", "a,b"]
  content := ""
  notes := ""
  isDraft := false
  created := none
  updated := none

theorem tag_with_comma_is_cut :
    Text.trim withComma.name ≠ "" ∧ ∃ update, (ofSnippet withComma).validate = .ok update ∧
      update.name = "Greeter" ∧ update.tags ≠ withComma.tags.toList := by
  have named : Text.trim withComma.name ≠ "" := by decide
  obtain ⟨update, valid, name, -, -, -, tags⟩ := (unchanged_form withComma).2 named
  refine ⟨named, update, valid, name.trans (by decide), fun same => ?_⟩
  have typable : IsTag "a,b" := tags.mp same "a,b" (by decide)
  exact absurd typable.whole (by decide)

end EditBuffer

end SnippetPage
