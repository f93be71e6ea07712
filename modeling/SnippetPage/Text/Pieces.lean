/-!
# Pieces of a text

A text cut at every occurrence of a separator. Cutting never gives an empty list: a text without
the separator is its own single piece. The pieces with the separator between them are the text
again (`intercalate_pieces`).
-/

namespace SnippetPage.Text

def pieces (sep : Char) (s : String) : List String :=
  (s.toList.splitOn sep).map String.ofList

/-- The lines of a text: its pieces between line feeds. -/
def lines (s : String) : List String :=
  pieces '\n' s

theorem pieces_ne_nil (sep : Char) (s : String) : pieces sep s ≠ [] := by
  simp [pieces, List.splitOn_ne_nil]

theorem intercalate_pieces (sep : Char) (s : String) :
    String.intercalate (String.singleton sep) (pieces sep s) = s := by
  have h : String.toList ∘ String.ofList = id := funext fun _ => String.toList_ofList
  simp [← String.toList_inj, pieces, h]

/-- A list has one part more than it has separators. -/
theorem length_splitOn (sep : Char) (cs : List Char) :
    (cs.splitOn sep).length = cs.count sep + 1 := by
  induction cs with
  | nil => rfl
  | cons c rest ih =>
    rw [List.splitOn_cons_eq_if_modifyHead, List.count_cons]
    split <;> simp [ih]

/-- A text has one piece more than it has separators. -/
theorem length_pieces (sep : Char) (s : String) :
    (pieces sep s).length = s.toList.count sep + 1 := by
  simp [pieces, length_splitOn]

end SnippetPage.Text
