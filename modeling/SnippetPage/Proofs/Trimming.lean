import Mathlib.Data.List.TakeWhile
import SnippetPage.Text.Blank
import SnippetPage.Text.Pieces

/-!
# Trimming and pieces

A trimmed text has no blank at either end, and blanks around a text do not change what it is trimmed
to. So texts that are joined by a separator with blanks around it are the pieces of the joined text,
up to trimming.
-/

namespace SnippetPage.Text

variable {cs w : List Char} {s : String}

/-! ### Blanks at the ends -/

/-- A text has no blank at either end. -/
def Trimmed (s : String) : Prop :=
  (∀ c ∈ s.toList.head?, isBlank c = false) ∧ ∀ c ∈ s.toList.getLast?, isBlank c = false

theorem trimEnd_eq (cs : List Char) : trimEnd cs = (trimStart cs.reverse).reverse := rfl

theorem trimStart_of_head (visible : ∀ c ∈ cs.head?, isBlank c = false) : trimStart cs = cs := by
  cases cs with
  | nil => rfl
  | cons c cs => exact trimStart_eq_self (visible c rfl)

theorem trimEnd_of_last (visible : ∀ c ∈ cs.getLast?, isBlank c = false) : trimEnd cs = cs := by
  rw [trimEnd_eq, trimStart_of_head, List.reverse_reverse]
  rw [List.head?_reverse]
  exact visible

theorem trimEnd_isPrefix (cs : List Char) : trimEnd cs <+: cs := by
  rw [← List.reverse_suffix, trimEnd_eq, List.reverse_reverse]
  exact List.dropWhile_suffix isBlank

theorem trimmed_trim (s : String) : Trimmed (trim s) := by
  unfold Trimmed trim
  rw [String.toList_ofList]
  constructor
  · intro c first
    obtain ⟨rest, whole⟩ := trimEnd_isPrefix (trimStart s.toList)
    have start : (trimStart s.toList).head? = some c := by
      rw [← whole, List.head?_append, first]
      rfl
    exact head_trimStart start
  · intro c last
    rw [trimEnd_eq, List.getLast?_reverse] at last
    exact head_trimStart last

theorem trim_eq_self (trimmed : Trimmed s) : trim s = s := by
  rw [trim, trimStart_of_head trimmed.1, trimEnd_of_last trimmed.2, String.ofList_toList]

theorem mem_of_mem_trim {c : Char} (member : c ∈ (trim s).toList) : c ∈ s.toList := by
  rw [trim, String.toList_ofList] at member
  exact (List.dropWhile_sublist isBlank).subset ((trimEnd_isPrefix _).subset member)

theorem trim_blank_append (blank : ∀ c ∈ w, isBlank c = true) :
    trim (String.ofList (w ++ cs)) = trim (String.ofList cs) := by
  simp only [trim, trimStart, String.toList_ofList, List.dropWhile_append_of_pos blank]

theorem trimEnd_append_blank (blank : ∀ c ∈ w, isBlank c = true) :
    trimEnd (cs ++ w) = trimEnd cs := by
  have blank' : ∀ c ∈ w.reverse, isBlank c = true := fun c member =>
    blank c (List.mem_reverse.mp member)
  rw [trimEnd, List.reverse_append, List.dropWhile_append_of_pos blank', trimEnd]

theorem trim_append_blank (blank : ∀ c ∈ w, isBlank c = true) :
    trim (String.ofList (cs ++ w)) = trim (String.ofList cs) := by
  simp only [trim, trimStart, String.toList_ofList, List.dropWhile_append]
  split
  · rename_i empty
    rw [List.isEmpty_iff] at empty
    rw [empty, List.dropWhile_eq_nil_iff.mpr blank]
  · rw [trimEnd_append_blank blank]

/-! ### Pieces -/

theorem not_mem_of_mem_splitOn {sep : Char} {piece : List Char} (member : piece ∈ cs.splitOn sep) :
    sep ∉ piece := by
  induction cs generalizing piece with
  | nil =>
    rw [List.splitOn_nil, List.mem_singleton] at member
    rw [member]
    exact List.not_mem_nil
  | cons c cs ih =>
    rw [List.splitOn_cons_eq_if_modifyHead] at member
    obtain ⟨first, rest, pieces⟩ := List.exists_cons_of_ne_nil (List.splitOn_ne_nil sep cs)
    rw [pieces] at member ih
    split at member
    · rcases List.mem_cons.mp member with rfl | later
      · exact List.not_mem_nil
      · exact ih later
    · rename_i other
      rw [List.modifyHead_cons] at member
      rcases List.mem_cons.mp member with rfl | later
      · intro inside
        rcases List.mem_cons.mp inside with rfl | behind
        · exact other (beq_self_eq_true _)
        · exact ih List.mem_cons_self behind
      · exact ih (List.mem_cons_of_mem _ later)

theorem not_mem_of_mem_pieces {sep : Char} {piece : String} (member : piece ∈ pieces sep s) :
    sep ∉ piece.toList := by
  obtain ⟨cs, part, rfl⟩ := List.mem_map.mp member
  rw [String.toList_ofList]
  exact not_mem_of_mem_splitOn part

theorem not_mem_of_blank {sep : Char} (visible : isBlank sep = false)
    (blank : ∀ c ∈ w, isBlank c = true) : sep ∉ w := by
  intro member
  rw [blank sep member] at visible
  cases visible

section Joined
variable {sep : Char} {before after : List Char} (visible : isBlank sep = false)
  (blankBefore : ∀ c ∈ before, isBlank c = true) (blankAfter : ∀ c ∈ after, isBlank c = true)
include visible blankBefore blankAfter

/-- The texts follow some blanks, as each but the first one does in the joined text. -/
theorem map_trim_splitOn {t : List Char} {ts : List (List Char)}
    (blankFront : ∀ c ∈ w, isBlank c = true) (whole : ∀ u ∈ t :: ts, sep ∉ u) :
    ((w ++ (before ++ sep :: after).intercalate (t :: ts)).splitOn sep).map (trim ∘ String.ofList) =
      (t :: ts).map (trim ∘ String.ofList) := by
  have front : sep ∉ w := not_mem_of_blank visible blankFront
  have first : sep ∉ t := whole t List.mem_cons_self
  induction ts generalizing t w with
  | nil =>
    rw [List.intercalate_singleton, List.splitOn_eq_singleton (by simp [front, first])]
    exact congrArg (· :: []) (trim_blank_append blankFront)
  | cons u ts ih =>
    have joined : w ++ (before ++ sep :: after).intercalate (t :: u :: ts) =
        (w ++ (t ++ before)) ++ sep :: (after ++ (before ++ sep :: after).intercalate (u :: ts)) := by
      simp [List.intercalate_cons_cons]
    have fresh : sep ∉ w ++ (t ++ before) := by
      simp [front, first, not_mem_of_blank visible blankBefore]
    have later := List.forall_mem_cons.mp whole
    rw [joined, List.splitOn_append_cons_self_of_not_mem fresh, List.map_cons,
      ih blankAfter later.2 (not_mem_of_blank visible blankAfter) (later.2 u List.mem_cons_self),
      List.map_cons]
    refine congrArg (· :: _) ?_
    exact (trim_blank_append blankFront).trans (trim_append_blank blankBefore)

end Joined

theorem map_trim_pieces_intercalate {sep : Char} {before after : String} {ts : List String}
    (visible : isBlank sep = false) (blankBefore : ∀ c ∈ before.toList, isBlank c = true)
    (blankAfter : ∀ c ∈ after.toList, isBlank c = true) (some : ts ≠ [])
    (whole : ∀ t ∈ ts, sep ∉ t.toList) :
    (pieces sep (String.intercalate (before ++ String.singleton sep ++ after) ts)).map trim =
      ts.map trim := by
  obtain ⟨t, ts, rfl⟩ := List.exists_cons_of_ne_nil some
  have whole' : ∀ u ∈ (t :: ts).map String.toList, sep ∉ u := by
    intro u member
    obtain ⟨t', there, rfl⟩ := List.mem_map.mp member
    exact whole t' there
  have lists := map_trim_splitOn visible blankBefore blankAfter (w := []) nofun whole'
  simpa [pieces, Function.comp_def] using lists

end SnippetPage.Text
