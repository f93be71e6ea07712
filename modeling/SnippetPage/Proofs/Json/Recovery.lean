import SnippetPage.Proofs.Json.Reading

/-!
# What a text that was read looks like

Reading leaves either a value that the text in front of it spells, or a value with a fault. So a
text that is read to its end without a fault spells what was read (`spells_of_ofText`).
-/

namespace SnippetPage.Json

open Reader

/-! ### Literals, strings, names and numbers -/

theorem literal_some {lead : Char} {expected cs rest : List Char} {v w : Json}
    (h : literal lead expected v cs = (w, some rest)) : w = v ∧ cs = expected ++ rest := by
  induction expected generalizing cs with
  | nil =>
    rw [literal] at h
    cases h
    exact ⟨rfl, rfl⟩
  | cons e es ih =>
    cases cs with
    | nil => cases h
    | cons c tail =>
      rw [literal] at h
      split at h
      · rename_i same
        obtain ⟨rfl, rfl⟩ := ih h
        exact ⟨rfl, by rw [same]; rfl⟩
      · cases h

theorem string_piece {cs rest : List Char} {s : Option String}
    (h : Reader.string cs = .ok (s, rest)) :
    ∃ text, cs = text ++ rest ∧ Reader.string text = .ok (s, []) := by
  obtain ⟨body, read, rfl⟩ := map_fst_ok (f := Option.map String.ofList) h
  obtain ⟨text, rfl, piece⟩ := stringBody_piece read
  refine ⟨text, rfl, ?_⟩
  have own := piece (text.length + 1) [] (by omega)
  rw [List.append_nil] at own
  rw [Reader.string, own]
  rfl

theorem stringValue_piece {cs rest : List Char} {v : Json}
    (h : stringValue cs = (v, some rest)) :
    ∃ text, cs = text ++ rest ∧ stringValue text = (v, some []) := by
  unfold stringValue at h
  split at h
  all_goals cases h
  · rename_i s read
    obtain ⟨text, span, own⟩ := string_piece read
    exact ⟨text, span, by rw [stringValue, own]⟩
  · rename_i read
    obtain ⟨text, span, own⟩ := string_piece read
    exact ⟨text, span, by rw [stringValue, own]⟩

theorem keyValue_piece {cs rest : List Char} {k : Key} (h : keyValue cs = (k, some rest)) :
    ∃ text, cs = text ++ rest ∧ keyValue text = (k, some []) := by
  unfold keyValue at h
  split at h
  all_goals cases h
  · rename_i s read
    obtain ⟨text, span, own⟩ := string_piece read
    exact ⟨text, span, by rw [keyValue, own]⟩
  · rename_i read
    obtain ⟨text, span, own⟩ := string_piece read
    exact ⟨text, span, by rw [keyValue, own]⟩

theorem numberValue_piece {lead : Char} {cs rest : List Char} {v : Json}
    (h : numberValue lead cs = (v, some rest)) :
    ∃ text, cs = text ++ rest ∧ Spells (.value v) text := by
  unfold numberValue at h
  split at h
  · rename_i n after read
    cases h
    obtain ⟨text, span, again⟩ := number_piece read
    have own := again [] nofun
    rw [List.append_nil] at own
    exact ⟨text, span, .number own⟩
  · cases h

/-! ### Every text that is read spells what was read -/

theorem Spells.front {before cs : List Char} {v : Json} (front : Blank before)
    (inner : Spells (.value v) cs) : Spells (.value v) (before ++ cs) := by
  rw [← List.append_nil (before ++ cs)]
  exact .padded front nofun inner

theorem Spells.back {cs after : List Char} {v : Json} (inner : Spells (.value v) cs)
    (back : Blank after) : Spells (.value v) (cs ++ after) :=
  .padded (List.forall_mem_nil _) back inner

/-- Whatever is read with some fuel is spelled by the text that was taken. -/
structure Sound (fuel : Nat) : Prop where
  value : ∀ cs v rest, Reader.value fuel cs = (v, some rest) →
    ∃ text, cs = text ++ rest ∧ Spells (.value v) text
  firstItem : ∀ cs vs ending rest, Reader.firstItem fuel cs = ((vs, ending), some rest) →
    ending = .closed ∧ ∃ text, cs = text ++ ']' :: rest ∧ Spells (.items vs) text
  items : ∀ cs vs ending rest, Reader.items fuel cs = ((vs, ending), some rest) →
    ending = .closed ∧ vs ≠ [] ∧ ∃ text, cs = text ++ ']' :: rest ∧ Spells (.items vs) text
  firstMember : ∀ cs ms ending rest, Reader.firstMember fuel cs = ((ms, ending), some rest) →
    ending = .closed ∧ ∃ text, cs = text ++ '}' :: rest ∧ Spells (.members ms) text
  members : ∀ cs ms ending rest, Reader.members fuel cs = ((ms, ending), some rest) →
    ending = .closed ∧ ms ≠ [] ∧ ∃ text, cs = text ++ '}' :: rest ∧ Spells (.members ms) text

namespace Sound
variable {fuel : Nat} {cs rest : List Char}

theorem value_succ (sound : Sound fuel) {v : Json}
    (h : Reader.value (fuel + 1) cs = (v, some rest)) :
    ∃ text, cs = text ++ rest ∧ Spells (.value v) text := by
  obtain ⟨before, span, blank⟩ := blanks_skipSpace cs
  -- blanks in front are part of a spelling, so only what follows them has to be spelled
  suffices ∃ text, skipSpace cs = text ++ rest ∧ Spells (.value v) text by
    obtain ⟨text, split, spells⟩ := this
    exact ⟨before ++ text, by rw [span, split, List.append_assoc], spells.front blank⟩
  unfold Reader.value at h
  generalize skipSpace cs = core at h
  split at h
  · cases h
  · obtain ⟨text, rfl, read⟩ := stringValue_piece h
    exact ⟨'"' :: text, rfl, .string read⟩
  · obtain ⟨rfl, rfl⟩ := literal_some h
    exact ⟨_, rfl, .null⟩
  · obtain ⟨rfl, rfl⟩ := literal_some h
    exact ⟨_, rfl, .yes⟩
  · obtain ⟨rfl, rfl⟩ := literal_some h
    exact ⟨_, rfl, .no⟩
  · rename_i tail
    cases read : Reader.firstItem fuel tail with
    | mk inner after =>
      obtain ⟨vs, ending⟩ := inner
      simp only [read] at h
      cases h
      obtain ⟨rfl, text, rfl, spells⟩ := sound.firstItem tail vs ending rest read
      exact ⟨'[' :: (text ++ [']']), by simp, .array spells⟩
  · rename_i tail
    cases read : Reader.firstMember fuel tail with
    | mk inner after =>
      obtain ⟨ms, ending⟩ := inner
      simp only [read] at h
      cases h
      obtain ⟨rfl, text, rfl, spells⟩ := sound.firstMember tail ms ending rest read
      exact ⟨'{' :: (text ++ ['}']), by simp, .object spells⟩
  · split at h
    · exact numberValue_piece h
    · cases h

theorem firstItem_succ (sound : Sound fuel) {vs : List Json} {ending : Ending}
    (h : Reader.firstItem (fuel + 1) cs = ((vs, ending), some rest)) :
    ending = .closed ∧ ∃ text, cs = text ++ ']' :: rest ∧ Spells (.items vs) text := by
  obtain ⟨before, span, blank⟩ := blanks_skipSpace cs
  unfold Reader.firstItem at h
  split at h
  · cases h
  · rename_i tail closing
    cases h
    exact ⟨rfl, before, by rw [span, closing], .noItems blank⟩
  · rw [items_of_skipSpace (skipSpace_skipSpace cs)] at h
    obtain ⟨closed, -, text, span, spells⟩ := sound.items cs vs ending rest h
    exact ⟨closed, text, span, spells⟩

theorem items_succ (sound : Sound fuel) {vs : List Json} {ending : Ending}
    (h : Reader.items (fuel + 1) cs = ((vs, ending), some rest)) :
    ending = .closed ∧ vs ≠ [] ∧
      ∃ text, cs = text ++ ']' :: rest ∧ Spells (.items vs) text := by
  unfold Reader.items at h
  split at h
  · cases h
  · rename_i v after read
    obtain ⟨item, rfl, spells⟩ := sound.value cs v after read
    obtain ⟨blanks, span, blank⟩ := blanks_skipSpace after
    generalize skipSpace after = core at span h
    subst span
    have padded : Spells (.value v) (item ++ blanks) := spells.back blank
    split at h
    · cases h
    · cases h
      exact ⟨rfl, List.cons_ne_nil _ _, item ++ blanks, by simp, .lastItem padded⟩
    · rename_i tail
      cases others : Reader.items fuel tail with
      | mk inner after =>
        obtain ⟨ws, ending⟩ := inner
        simp only [others] at h
        cases h
        obtain ⟨rfl, some, text, rfl, rest⟩ := sound.items tail ws ending rest others
        obtain ⟨w, ws, rfl⟩ := List.exists_cons_of_ne_nil some
        exact ⟨rfl, List.cons_ne_nil _ _, item ++ blanks ++ ',' :: text, by simp,
          .item padded rest⟩
    · cases h

theorem firstMember_succ (sound : Sound fuel) {ms : List (Key × Json)} {ending : Ending}
    (h : Reader.firstMember (fuel + 1) cs = ((ms, ending), some rest)) :
    ending = .closed ∧ ∃ text, cs = text ++ '}' :: rest ∧ Spells (.members ms) text := by
  obtain ⟨before, span, blank⟩ := blanks_skipSpace cs
  unfold Reader.firstMember at h
  split at h
  · cases h
  · rename_i tail closing
    cases h
    exact ⟨rfl, before, by rw [span, closing], .noMembers blank⟩
  · rw [members_of_skipSpace (skipSpace_skipSpace cs)] at h
    obtain ⟨closed, -, text, span, spells⟩ := sound.members cs ms ending rest h
    exact ⟨closed, text, span, spells⟩

theorem members_succ (sound : Sound fuel) {ms : List (Key × Json)} {ending : Ending}
    (h : Reader.members (fuel + 1) cs = ((ms, ending), some rest)) :
    ending = .closed ∧ ms ≠ [] ∧
      ∃ text, cs = text ++ '}' :: rest ∧ Spells (.members ms) text := by
  obtain ⟨before, span, front⟩ := blanks_skipSpace cs
  unfold Reader.members at h
  generalize skipSpace cs = core at span h
  subst span
  split at h
  · cases h
  · split at h
    · cases h
    · rename_i k afterName read
      obtain ⟨name, rfl, name_read⟩ := keyValue_piece read
      obtain ⟨gap, span, gapBlank⟩ := blanks_skipSpace afterName
      generalize skipSpace afterName = core at span h
      subst span
      split at h
      · cases h
      · split at h
        · cases h
        · rename_i v afterValue read
          obtain ⟨item, rfl, spells⟩ := sound.value _ v afterValue read
          obtain ⟨blanks, span, blank⟩ := blanks_skipSpace afterValue
          generalize skipSpace afterValue = core at span h
          subst span
          have padded : Spells (.value v) (item ++ blanks) := spells.back blank
          have pair := Spells.pair front name_read gapBlank padded
          split at h
          · cases h
          · cases h
            exact ⟨rfl, List.cons_ne_nil _ _, _, by simp, .lastMember pair⟩
          · rename_i tail _
            cases others : Reader.members fuel tail with
            | mk inner after =>
              obtain ⟨ws, ending⟩ := inner
              simp only [others] at h
              cases h
              obtain ⟨rfl, some, text, rfl, rest⟩ := sound.members tail ws ending rest others
              obtain ⟨w, ws, rfl⟩ := List.exists_cons_of_ne_nil some
              exact ⟨rfl, List.cons_ne_nil _ _, _, by simp, .member pair rest⟩
          · cases h
      · cases h
  · cases h

theorem all : ∀ fuel, Sound fuel
  | 0 => ⟨nofun, nofun, nofun, nofun, nofun⟩
  | fuel + 1 => ⟨fun _ _ _ => (all fuel).value_succ, fun _ _ _ _ => (all fuel).firstItem_succ,
      fun _ _ _ _ => (all fuel).items_succ, fun _ _ _ _ => (all fuel).firstMember_succ,
      fun _ _ _ _ => (all fuel).members_succ⟩

end Sound

/-! ### A reader that stops leaves a fault -/

/-- Where reading stopped, the value has a fault. -/
structure Faulty (fuel : Nat) : Prop where
  value : ∀ cs v, Reader.value fuel cs = (v, none) → v.skip ≠ none
  firstItem : ∀ cs vs ending, Reader.firstItem fuel cs = ((vs, ending), none) →
    (Json.array vs ending).skip ≠ none
  items : ∀ cs vs ending, Reader.items fuel cs = ((vs, ending), none) →
    (Json.array vs ending).skip ≠ none
  firstMember : ∀ cs ms ending, Reader.firstMember fuel cs = ((ms, ending), none) →
    (Json.object ms ending).skip ≠ none
  members : ∀ cs ms ending, Reader.members fuel cs = ((ms, ending), none) →
    (Json.object ms ending).skip ≠ none

theorem skip_broken (fault : Fault) (lead : Option Char) :
    (Json.broken fault lead).skip ≠ none :=
  Option.some_ne_none fault

theorem key_skip_broken (fault : Fault) : (Key.broken fault).skip ≠ none :=
  Option.some_ne_none fault

theorem skip_array_broken (vs : List Json) (fault : Fault) :
    (Json.array vs (.broken fault)).skip ≠ none := by
  simp [skip, Ending.fault?]

theorem skip_object_broken (ms : List (Key × Json)) (fault : Fault) :
    (Json.object ms (.broken fault)).skip ≠ none := by
  simp [skip, Ending.fault?]

theorem literal_none {lead : Char} {expected cs : List Char} {v w : Json}
    (h : literal lead expected v cs = (w, none)) : w.skip ≠ none := by
  induction expected generalizing cs with
  | nil => cases h
  | cons e es ih =>
    cases cs with
    | nil =>
      cases h
      exact skip_broken _ _
    | cons c tail =>
      rw [literal] at h
      split at h
      · exact ih h
      · cases h
        exact skip_broken _ _

theorem numberValue_none {lead : Char} {cs : List Char} {v : Json}
    (h : numberValue lead cs = (v, none)) : v.skip ≠ none := by
  unfold numberValue at h
  split at h
  · cases h
  · cases h
    exact skip_broken _ _

theorem stringValue_none {cs : List Char} {v : Json} (h : stringValue cs = (v, none)) :
    v.skip ≠ none := by
  unfold stringValue at h
  split at h
  all_goals cases h
  exact skip_broken _ _

theorem keyValue_none {cs : List Char} {k : Key} (h : keyValue cs = (k, none)) :
    k.skip ≠ none := by
  unfold keyValue at h
  split at h
  all_goals cases h
  exact key_skip_broken _

/-- A fault in the first entry is one of the whole container, whatever follows. -/
theorem skip_array_cons {v : Json} {vs : List Json} {ending : Ending}
    (h : v.skip ≠ none ∨ (Json.array vs ending).skip ≠ none) :
    (Json.array (v :: vs) ending).skip ≠ none := by
  simp only [skip, skipItems, ne_eq, Option.or_eq_none_iff] at h ⊢
  grind

theorem skip_object_cons {k : Key} {v : Json} {ms : List (Key × Json)} {ending : Ending}
    (h : k.skip ≠ none ∨ v.skip ≠ none ∨ (Json.object ms ending).skip ≠ none) :
    (Json.object ((k, v) :: ms) ending).skip ≠ none := by
  simp only [skip, skipMembers, ne_eq, Option.or_eq_none_iff] at h ⊢
  grind

namespace Faulty
variable {fuel : Nat} {cs : List Char}

theorem value_succ (faulty : Faulty fuel) {v : Json}
    (h : Reader.value (fuel + 1) cs = (v, none)) : v.skip ≠ none := by
  unfold Reader.value at h
  split at h
  · cases h
    exact skip_broken _ _
  · exact stringValue_none h
  · exact literal_none h
  · exact literal_none h
  · exact literal_none h
  · rename_i tail _
    cases read : Reader.firstItem fuel tail with
    | mk inner after =>
      obtain ⟨vs, ending⟩ := inner
      simp only [read] at h
      cases h
      exact faulty.firstItem tail vs ending read
  · rename_i tail _
    cases read : Reader.firstMember fuel tail with
    | mk inner after =>
      obtain ⟨ms, ending⟩ := inner
      simp only [read] at h
      cases h
      exact faulty.firstMember tail ms ending read
  · split at h
    · exact numberValue_none h
    · cases h
      exact skip_broken _ _

theorem firstItem_succ (faulty : Faulty fuel) {vs : List Json} {ending : Ending}
    (h : Reader.firstItem (fuel + 1) cs = ((vs, ending), none)) :
    (Json.array vs ending).skip ≠ none := by
  unfold Reader.firstItem at h
  split at h
  · cases h
    exact skip_array_broken _ _
  · cases h
  · exact faulty.items _ vs ending h

theorem items_succ (faulty : Faulty fuel) {vs : List Json} {ending : Ending}
    (h : Reader.items (fuel + 1) cs = ((vs, ending), none)) :
    (Json.array vs ending).skip ≠ none := by
  unfold Reader.items at h
  split at h
  · rename_i v read
    cases h
    exact skip_array_cons (.inl (faulty.value cs v read))
  · rename_i v after read
    split at h
    · cases h
      exact skip_array_cons (.inr (skip_array_broken _ _))
    · cases h
    · rename_i tail _
      cases others : Reader.items fuel tail with
      | mk inner after =>
        obtain ⟨ws, ending⟩ := inner
        simp only [others] at h
        cases h
        exact skip_array_cons (.inr (faulty.items tail ws ending others))
    · cases h
      exact skip_array_cons (.inr (skip_array_broken _ _))

theorem firstMember_succ (faulty : Faulty fuel) {ms : List (Key × Json)} {ending : Ending}
    (h : Reader.firstMember (fuel + 1) cs = ((ms, ending), none)) :
    (Json.object ms ending).skip ≠ none := by
  unfold Reader.firstMember at h
  split at h
  · cases h
    exact skip_object_broken _ _
  · cases h
  · exact faulty.members _ ms ending h

theorem members_succ (faulty : Faulty fuel) {ms : List (Key × Json)} {ending : Ending}
    (h : Reader.members (fuel + 1) cs = ((ms, ending), none)) :
    (Json.object ms ending).skip ≠ none := by
  unfold Reader.members at h
  split at h
  · cases h
    exact skip_object_cons (.inl (key_skip_broken _))
  · split at h
    · rename_i k read
      cases h
      exact skip_object_cons (.inl (keyValue_none read))
    · split at h
      · cases h
        exact skip_object_cons (.inr (.inl (skip_broken _ _)))
      · split at h
        · rename_i v read
          cases h
          exact skip_object_cons (.inr (.inl (faulty.value _ v read)))
        · split at h
          · cases h
            exact skip_object_cons (.inr (.inr (skip_object_broken _ _)))
          · cases h
          · rename_i tail _
            cases others : Reader.members fuel tail with
            | mk inner after =>
              obtain ⟨ws, ending⟩ := inner
              simp only [others] at h
              cases h
              exact skip_object_cons (.inr (.inr (faulty.members tail ws ending others)))
          · cases h
            exact skip_object_cons (.inr (.inr (skip_object_broken _ _)))
      · cases h
        exact skip_object_cons (.inr (.inl (skip_broken _ _)))
  · cases h
    exact skip_object_cons (.inl (key_skip_broken _))

theorem all (fuel : Nat) : Faulty fuel := by
  induction fuel with
  | zero =>
    constructor
    · rintro cs v ⟨⟩
      exact skip_broken _ _
    · rintro cs vs ending ⟨⟩
      exact skip_array_broken _ _
    · rintro cs vs ending ⟨⟩
      exact skip_array_broken _ _
    · rintro cs ms ending ⟨⟩
      exact skip_object_broken _ _
    · rintro cs ms ending ⟨⟩
      exact skip_object_broken _ _
  | succ fuel ih =>
    exact ⟨fun _ _ => ih.value_succ, fun _ _ _ => ih.firstItem_succ, fun _ _ _ => ih.items_succ,
      fun _ _ _ => ih.firstMember_succ, fun _ _ _ => ih.members_succ⟩

end Faulty

/-- A text that is read to its end without a fault spells the value. -/
theorem spells_of_ofText {cs : List Char} (whole : (Document.ofText cs).trailing = false)
    (good : (Document.ofText cs).value.skip = none) :
    Spells (.value (Document.ofText cs).value) cs := by
  cases read : Reader.value (4 * cs.length + 4) cs with
  | mk v after =>
    simp only [Document.ofText, read] at whole good ⊢
    cases after with
    | none => exact absurd good ((Faulty.all _).value cs v read)
    | some rest =>
      obtain ⟨text, rfl, spells⟩ := (Sound.all _).value cs v rest read
      have blank : skipSpace rest = [] := by simpa using whole
      exact spells.back (blank_of_skipSpace blank)

end SnippetPage.Json
