/-!
# Sets of tags

Tags without repetition, in the order of their code points. Two collections with the same tags
are the same set, whatever order and repetition they were given in.
-/

namespace SnippetPage

structure Tags where
  toList : List String
  sorted : toList.Pairwise (· < ·)
  deriving DecidableEq

namespace Tags

/-- A tag put into its place in a list, unless it is there. -/
def place (t : String) : List String → List String
  | [] => [t]
  | u :: us => if t < u then t :: u :: us else if u < t then u :: place t us else u :: us

theorem mem_place {t x : String} {us : List String} (h : x ∈ place t us) : x = t ∨ x ∈ us := by
  induction us with
  | nil => simpa [place] using h
  | cons u us ih =>
    unfold place at h
    split at h
    · simpa using h
    · split at h
      · rcases List.mem_cons.mp h with rfl | h
        · simp
        · rcases ih h with rfl | h <;> simp [*]
      · exact Or.inr h

theorem sorted_place (t : String) {us : List String} (h : us.Pairwise (· < ·)) :
    (place t us).Pairwise (· < ·) := by
  induction us with
  | nil => simp [place]
  | cons u us ih =>
    have ⟨above, rest⟩ := List.pairwise_cons.mp h
    unfold place
    split
    · next lt =>
      refine List.pairwise_cons.mpr ⟨fun x hx => ?_, h⟩
      rcases List.mem_cons.mp hx with rfl | hx
      · exact lt
      · exact String.lt_trans lt (above x hx)
    · split
      · next lt =>
        refine List.pairwise_cons.mpr ⟨fun x hx => ?_, ih rest⟩
        rcases mem_place hx with rfl | hx
        · exact lt
        · exact above x hx
      · exact h

def empty : Tags := ⟨[], .nil⟩

def insert (tags : Tags) (t : String) : Tags :=
  ⟨place t tags.toList, sorted_place t tags.sorted⟩

def ofList (ts : List String) : Tags :=
  ts.foldl insert empty

end Tags

end SnippetPage
