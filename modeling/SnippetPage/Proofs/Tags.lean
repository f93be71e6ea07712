import Mathlib.Data.List.Sort
import SnippetPage.Snippet.Tags

/-!
# Tags as a set

A set of tags is known by its members.
-/

namespace SnippetPage.Tags

theorem mem_place_iff {t x : String} {us : List String} : x ∈ place t us ↔ x = t ∨ x ∈ us := by
  refine ⟨mem_place, ?_⟩
  induction us with
  | nil => simp [place]
  | cons u us ih =>
    intro member
    unfold place
    split
    · simpa using member
    · split
      · rcases member with rfl | member
        · exact List.mem_cons_of_mem u (ih (.inl rfl))
        · rcases List.mem_cons.mp member with rfl | member
          · exact List.mem_cons_self
          · exact List.mem_cons_of_mem u (ih (.inr member))
      · rename_i below above
        rcases member with rfl | member
        · -- neither below nor above its neighbour, the tag is there already
          have same : x = u := String.le_antisymm above below
          exact List.mem_cons.mpr (.inl same)
        · exact member

theorem mem_ofList {ts : List String} {x : String} : x ∈ (ofList ts).toList ↔ x ∈ ts := by
  suffices all : ∀ tags : Tags, x ∈ (ts.foldl insert tags).toList ↔ x ∈ tags.toList ∨ x ∈ ts by
    rw [ofList, all]
    simp [empty]
  induction ts with
  | nil => simp
  | cons t ts ih =>
    intro tags
    rw [List.foldl_cons, ih, insert, mem_place_iff, List.mem_cons]
    grind

theorem ext_mem {tags others : Tags} (same : ∀ x, x ∈ tags.toList ↔ x ∈ others.toList) :
    tags = others := by
  obtain ⟨ts, sorted⟩ := tags
  obtain ⟨us, sortedOthers⟩ := others
  obtain rfl : ts = us := sorted.eq_of_mem_iff sortedOthers same
  rfl

theorem ofList_toList (tags : Tags) : ofList tags.toList = tags :=
  ext_mem fun _ => mem_ofList

theorem ofList_congr {ts us : List String} (same : ∀ x, x ∈ ts ↔ x ∈ us) : ofList ts = ofList us :=
  ext_mem fun x => by rw [mem_ofList, mem_ofList, same]

end SnippetPage.Tags
