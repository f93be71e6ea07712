import SnippetPage.Proofs.Highlight.Cache

/-!
# The size of the cache

A line is stored only when its key is not in the cache, and a full cache gives up a fifth of its
entries first, at least one. So the cache never holds more than it was made for.
-/

namespace SnippetPage.LineCache

variable {hash : LineHash} {library : Library} {evict : Eviction} {cache : LineCache}
  {key : UInt64} {room : Nat} {html : String}

/-- A cache that holds at most one markup for each key, and not too many of them. -/
structure Within (cache : LineCache) (room : Nat) : Prop where
  limit : cache.limit = room
  some : 0 < room
  size : cache.entries.length ≤ room
  keys : (cache.entries.map Prod.fst).Nodup

theorem within_ofLimit (limit : Nat) : (ofLimit limit).Within (max limit 1) :=
  ⟨rfl, by omega, Nat.zero_le _, List.nodup_nil⟩

theorem Within.clear (within : cache.Within room) : cache.clear.Within room :=
  ⟨within.limit, within.some, Nat.zero_le _, List.nodup_nil⟩

theorem not_mem_keys (missed : cache.get? key = none) : key ∉ cache.entries.map Prod.fst := by
  intro member
  obtain ⟨e, stored, rfl⟩ := List.mem_map.mp member
  have none := List.find?_eq_none.mp (Option.map_eq_none_iff.mp missed) e stored
  simp at none

/-- The number of entries that a cache gives up for another one. -/
def removed (cache : LineCache) : Nat :=
  if cache.entries.length = cache.limit then max 1 (cache.limit / 5) else 0

theorem Within.length_kept (within : cache.Within room) (evict : Eviction) :
    (cache.kept evict).length + cache.removed = cache.entries.length := by
  obtain ⟨limit, some, size, -⟩ := within
  unfold kept removed
  split
  · rename_i full
    rw [evict.removed, batch, if_pos (by omega)]
    omega
  · rename_i free
    rw [if_neg (by omega), Nat.add_zero]

theorem Within.store (within : cache.Within room) (missed : cache.get? key = none) :
    (cache.store evict key html).Within room := by
  have kept := within.length_kept evict
  have still : ((cache.kept evict).map Prod.fst).Sublist (cache.entries.map Prod.fst) :=
    (kept_sublist evict cache).map _
  refine ⟨within.limit, within.some, ?_, ?_⟩
  · have size := within.size
    have limit := within.limit
    simp only [LineCache.store, List.length_append, List.length_singleton]
    unfold removed at kept
    split at kept <;> omega
  · simp only [LineCache.store, List.map_append, List.map_cons, List.map_nil]
    refine List.nodup_append.mpr ⟨within.keys.sublist still, by simp, ?_⟩
    rintro k stored _ new rfl
    rw [List.mem_singleton.mp new] at stored
    exact not_mem_keys missed (still.subset stored)

theorem get?_store (missed : cache.get? key = none) :
    (cache.store evict key html).get? key = some html := by
  have absent : (cache.kept evict).find? (·.1 == key) = none := by
    rw [List.find?_eq_none]
    intro e stayed same
    have stored := List.mem_map_of_mem (f := Prod.fst) ((kept_sublist evict cache).subset stayed)
    exact not_mem_keys missed (eq_of_beq same ▸ stored)
  simp [get?, LineCache.store, List.find?_append, absent]

/-- What a line does to the cache: it is found, or it fails, or it is stored. -/
theorem line_cases (hash : LineHash) (evict : Eviction) (library : Library)
    (language text : String) (cache : LineCache) :
    (∃ html, cache.get? (hash.key language text) = some html ∧
      line hash evict library language text cache = (.ok html, cache)) ∨
    cache.get? (hash.key language text) = none ∧
      ((∃ e, line hash evict library language text cache = (.error e, cache)) ∨
        ∃ html, line hash evict library language text cache =
          (.ok html, cache.store evict (hash.key language text) html)) := by
  cases found : cache.get? (hash.key language text) with
  | some html =>
    refine Or.inl ⟨html, rfl, ?_⟩
    simp only [line, found]
  | none =>
    refine Or.inr ⟨rfl, ?_⟩
    cases made : Engine.line library language text with
    | ok html =>
      refine Or.inr ⟨html, ?_⟩
      simp only [line, found, made]
    | error e =>
      refine Or.inl ⟨e, ?_⟩
      simp only [line, found, made]

theorem Within.line (within : cache.Within room) (language text : String) :
    (line hash evict library language text cache).2.Within room := by
  rcases line_cases hash evict library language text cache with
    ⟨html, -, hit⟩ | ⟨missed, ⟨e, failed⟩ | ⟨html, stored⟩⟩
  · rw [hit]
    exact within
  · rw [failed]
    exact within
  · rw [stored]
    exact within.store missed

theorem within_uses (hash : LineHash) (library : Library) (evict : Eviction) (limit : Nat)
    (uses : List Use) :
    (uses.foldl (Use.run hash evict library) (ofLimit limit)).Within (max limit 1) :=
  uses_kept (P := (Within · (max limit 1))) (fun p _ _ within => within.line p.1 p.2)
    (fun _ within => within.clear) (within_ofLimit limit)

/-- A cache made for any number of lines, none included, never holds more than that or more than
one, however lines are hashed, whatever it was used for and whichever entries it gave up. From then
on, a line that succeeds is in the cache under its own key, and one that fails leaves the cache as
it is. A line whose key was there leaves it as it is, too. Any other is stored behind the entries
that stay: all of them, or, if the cache is full, all but a fifth of what it has room for, and all
but one at least. -/
theorem cache_stays_within_limit (hash : LineHash) (library : Library) (evict : Eviction)
    (limit : Nat) (uses : List Use) :
    let cache := uses.foldl (Use.run hash evict library) (ofLimit limit)
    let room := max limit 1
    cache.entries.length ≤ room ∧ (cache.entries.map Prod.fst).Nodup ∧
    ∀ language text, ∀ result after,
      (cached hash evict library).line language text cache = (result, after) →
      (∀ html, result = .ok html → after.get? (hash.key language text) = some html) ∧
      (∀ e, result = .error e → after = cache) ∧
      (cache.get? (hash.key language text) ≠ none → after = cache) ∧
      (cache.get? (hash.key language text) = none → ∀ html, result = .ok html →
        ∃ kept, kept.Sublist cache.entries ∧
          kept.length + (if cache.entries.length = room then max 1 (room / 5) else 0) =
            cache.entries.length ∧
          after.entries = kept ++ [(hash.key language text, html)]) := by
  intro cache room
  have within : cache.Within room := within_uses hash library evict limit uses
  refine ⟨within.size, within.keys, ?_⟩
  intro language text result after done
  have done : line hash evict library language text cache = (result, after) := done
  rcases line_cases hash evict library language text cache with
    ⟨found, hit, same⟩ | ⟨missed, ⟨e, failed⟩ | ⟨made, stored⟩⟩
  · obtain ⟨rfl, rfl⟩ := Prod.mk.inj (same.symm.trans done)
    refine ⟨?_, nofun, fun _ => rfl, fun missed => ?_⟩
    · rintro html ⟨⟩
      exact hit
    · rw [missed] at hit
      cases hit
  · obtain ⟨rfl, rfl⟩ := Prod.mk.inj (failed.symm.trans done)
    exact ⟨nofun, fun _ _ => rfl, fun _ => rfl, fun _ => nofun⟩
  · obtain ⟨rfl, rfl⟩ := Prod.mk.inj (stored.symm.trans done)
    refine ⟨?_, nofun, fun hit => absurd missed hit, ?_⟩
    · rintro html ⟨⟩
      exact get?_store missed
    · rintro - html ⟨⟩
      refine ⟨cache.kept evict, kept_sublist evict cache, ?_, rfl⟩
      rw [← within.limit]
      exact within.length_kept evict

end SnippetPage.LineCache
