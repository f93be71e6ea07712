import SnippetPage.Highlight.Cache
import SnippetPage.Proofs.Comparison.Plain

/-!
# The cache does not show

Whatever was highlighted before, and whichever entries the cache has given up since, a comparison
is rendered as it is without a cache: each line by itself, highlighted where the engine succeeds
and as escaped text otherwise. No hash keeps all lines apart, so it is assumed to do so for the
lines that were asked for.
-/

namespace SnippetPage

/-! ### Names of languages -/

namespace Text

theorem toNat_toUpper (c : Char) :
    c.toUpper.toNat = if 97 ≤ c.toNat ∧ c.toNat ≤ 122 then c.toNat - 32 else c.toNat := by
  unfold Char.toUpper
  split
  · rename_i lower
    obtain ⟨low, high⟩ := lower
    have low : 97 ≤ c.toNat := low
    have high : c.toNat ≤ 122 := high
    rw [if_pos ⟨low, high⟩]
    show (c.val + ('A'.val - 'a'.val)).toNat = c.toNat - 32
    have val : c.val.toNat = c.toNat := rfl
    have shift : ('A'.val - 'a'.val).toNat = 4294967264 := rfl
    rw [UInt32.toNat_add, shift, val]
    omega
  · rename_i other
    rw [if_neg]
    intro range
    exact other range

theorem isBlank_toUpper (c : Char) : isBlank c.toUpper = isBlank c := by
  have size := toNat_toUpper c
  split at size
  · simp only [isBlank, size]
    rw [Bool.eq_iff_iff]
    simp
    omega
  · simp only [isBlank, size]

theorem trimStart_toUpper (cs : List Char) :
    trimStart (cs.map Char.toUpper) = (trimStart cs).map Char.toUpper := by
  rw [trimStart, trimStart, List.dropWhile_map]
  congr 2
  funext c
  exact isBlank_toUpper c

theorem trimEnd_toUpper (cs : List Char) :
    trimEnd (cs.map Char.toUpper) = (trimEnd cs).map Char.toUpper := by
  have start := trimStart_toUpper cs.reverse
  unfold trimStart at start
  rw [trimEnd, trimEnd, ← List.map_reverse, start, List.map_reverse]

theorem upperAscii_trim (s : String) : upperAscii (trim s) = trim (upperAscii s) := by
  simp only [upperAscii, trim, String.toList_ofList, trimStart_toUpper, trimEnd_toUpper]

theorem sameIgnoringCase_trim {s t : String} (same : upperAscii s = upperAscii t) (name : String) :
    sameIgnoringCase name (trim s) = sameIgnoringCase name (trim t) := by
  rw [sameIgnoringCase, sameIgnoringCase, upperAscii_trim, upperAscii_trim, same]

end Text

/-! ### Entries of the cache -/

/-- Different lines among the given ones, each with its language, have different keys. -/
def LineHash.Separates (hash : LineHash) (lines : List (String × String)) : Prop :=
  ∀ p ∈ lines, ∀ q ∈ lines, hash.key p.1 p.2 = hash.key q.1 q.2 →
    Text.upperAscii p.1 = Text.upperAscii q.1 ∧ p.2 = q.2

instance (hash : LineHash) (lines : List (String × String)) : Decidable (hash.Separates lines) :=
  inferInstanceAs (Decidable (∀ p ∈ lines, ∀ q ∈ lines, _ → _ ∧ _))

section
variable {hash : LineHash} {library : Library} {evict : Eviction} {lines : List (String × String)}

theorem Engine.grammar_upper {l l' : String} (same : Text.upperAscii l = Text.upperAscii l')
    {g : library.Grammar} (found : Engine.grammar library l = .ok g) :
    Engine.grammar library l' = .ok g := by
  have names := Text.sameIgnoringCase_trim same
  unfold Engine.grammar at found ⊢
  simp only [names] at found
  split at found
  · rename_i h known
    simp only [known]
    exact found
  · cases found

theorem Engine.line_upper {l l' text html : String}
    (same : Text.upperAscii l = Text.upperAscii l')
    (made : Engine.line library l text = .ok html) : Engine.line library l' text = .ok html := by
  unfold Engine.line at made ⊢
  cases found : Engine.grammar library l with
  | error e =>
    rw [found] at made
    cases made
  | ok g =>
    rw [found] at made
    rw [Engine.grammar_upper same found]
    exact made

/-- Every entry is what the engine makes of one of the given lines, under the key of that line. -/
def LineCache.Sound (hash : LineHash) (library : Library) (lines : List (String × String))
    (cache : LineCache) : Prop :=
  ∀ e ∈ cache.entries, ∃ p ∈ lines,
    e.1 = hash.key p.1 p.2 ∧ Engine.line library p.1 p.2 = .ok e.2

namespace LineCache
variable {cache : LineCache} {language text html : String}

theorem sound_ofLimit (limit : Nat) : (ofLimit limit).Sound hash library lines := nofun

theorem sound_clear (cache : LineCache) : cache.clear.Sound hash library lines := nofun

theorem kept_sublist (evict : Eviction) (cache : LineCache) :
    (cache.kept evict).Sublist cache.entries := by
  unfold kept
  split
  · exact evict.sublist _ _ _
  · exact .refl _

theorem Sound.get (sound : cache.Sound hash library lines) (separates : hash.Separates lines)
    (asked : (language, text) ∈ lines) (found : cache.get? (hash.key language text) = some html) :
    Engine.line library language text = .ok html := by
  obtain ⟨e, search, rfl⟩ := Option.map_eq_some_iff.mp found
  obtain ⟨⟨stored, other⟩, member, key, made⟩ := sound e (List.mem_of_find?_eq_some search)
  have same : e.1 = hash.key language text := by simpa using List.find?_some search
  obtain ⟨upper, rfl⟩ := separates _ member _ asked (key.symm.trans same)
  -- the entry may come from the same language in other letters, which has the same grammar
  exact Engine.line_upper upper made

theorem Sound.store (sound : cache.Sound hash library lines) (asked : (language, text) ∈ lines)
    (made : Engine.line library language text = .ok html) :
    (cache.store evict (hash.key language text) html).Sound hash library lines := by
  intro e member
  have member : e ∈ cache.kept evict ++ [(hash.key language text, html)] := member
  rcases List.mem_append.mp member with stayed | stored
  · exact sound e ((kept_sublist evict cache).subset stayed)
  · rw [List.mem_singleton.mp stored]
    exact ⟨_, asked, rfl, made⟩

/-- A line from the cache is the engine's, and only its successes are stored. -/
theorem Sound.line (sound : cache.Sound hash library lines) (separates : hash.Separates lines)
    (asked : (language, text) ∈ lines) :
    (line hash evict library language text cache).1 = Engine.line library language text ∧
      (line hash evict library language text cache).2.Sound hash library lines := by
  cases found : cache.get? (hash.key language text) with
  | some html =>
    simp only [LineCache.line, found]
    exact ⟨(sound.get separates asked found).symm, sound⟩
  | none =>
    cases made : Engine.line library language text with
    | ok html =>
      simp only [LineCache.line, found, made]
      exact ⟨trivial, sound.store asked made⟩
    | error e =>
      simp only [LineCache.line, found, made]
      exact ⟨trivial, sound⟩

end LineCache

end

/-! ### Renderings -/

/-- The lines of a comparison, each with the language that it is highlighted in. -/
def Comparison.asked (language : Option String) (c : Comparison) : List (String × String) :=
  match language with
  | none => []
  | some name => (c.left.lines ++ c.right.lines).map fun l => (name, l.content)

section
variable {σ : Type}

theorem bind_run {α β : Type} (x : StateM σ α) (f : α → StateM σ β) (s : σ) :
    (x >>= f) s = f (x s).1 (x s).2 := rfl

theorem pure_run {α : Type} (a : α) (s : σ) : (pure a : StateM σ α) s = (a, s) := rfl

end

/-! What is kept by every line of a comparison is kept by its rendering. -/

section
variable {σ : Type} {h : Highlighter (StateM σ)} {good : σ → Prop} {s : σ}

theorem line_kept {language : String} (l : ComparedLine)
    (kept : good (h.line language l.content s).2) :
    good (l.render (some ⟨h, language⟩) s).2 := by
  cases done : h.line language l.content s with
  | mk r after =>
    rw [done] at kept
    simp only [ComparedLine.render, bind_run, done]
    cases r with
    | ok html => exact kept
    | error e => exact kept

theorem lines_kept {language : String} {ls : List ComparedLine}
    (each : ∀ l ∈ ls, ∀ s, good s → good (h.line language l.content s).2) (start : good s) :
    good (renderLines (some ⟨h, language⟩) ls s).2 := by
  induction ls generalizing s with
  | nil => exact start
  | cons l rest ih =>
    obtain ⟨own, others⟩ := List.forall_mem_cons.mp each
    simp only [renderLines, bind_run, pure_run]
    exact ih others (line_kept l (own s start))

theorem render_kept {language : Option String} {c : Comparison}
    (each : ∀ p ∈ c.asked language, ∀ s, good s → good (h.line p.1 p.2 s).2) (start : good s) :
    good (c.render (some h) language s).2 := by
  cases language with
  | none =>
    rw [Comparison.render_off rfl]
    exact start
  | some name =>
    by_cases supported : h.supports name
    · have on : activeHighlighter (some h) (some name) = some ⟨h, name⟩ := if_pos supported
      have every : ∀ l ∈ c.left.lines ++ c.right.lines, ∀ s, good s →
          good (h.line name l.content s).2 := fun l member => each _ (List.mem_map_of_mem member)
      obtain ⟨left, right⟩ := List.forall_mem_append.mp every
      simp only [Comparison.render, ComparedSide.render, on, bind_run, pure_run]
      exact lines_kept right (lines_kept left start)
    · have off : activeHighlighter (some h) (some name) = none := if_neg supported
      rw [Comparison.render_off off]
      exact start

end

/-- A highlighter with a memory makes of some lines the same as one without, as long as the memory
is in order. -/
structure Highlighter.Follows {σ : Type} (h : Highlighter (StateM σ)) (p : Highlighter Id)
    (lines : List (String × String)) (good : σ → Prop) : Prop where
  supports : ∀ language, h.supports language = p.supports language
  line : ∀ language text s, (language, text) ∈ lines → good s →
    (h.line language text s).1 = Id.run (p.line language text) ∧ good (h.line language text s).2

theorem LineCache.cached_follows {hash : LineHash} {lines : List (String × String)}
    (separates : hash.Separates lines) (evict : Eviction) (library : Library) :
    (cached hash evict library).Follows (Engine.ofLibrary library) lines
      (Sound hash library lines) := by
  refine ⟨fun language => rfl, fun language text cache asked sound => ?_⟩
  simp only [cached, Engine.ofLibrary, Id.run]
  exact sound.line separates asked

namespace Highlighter.Follows
variable {σ : Type} {h : Highlighter (StateM σ)} {p : Highlighter Id}
  {lines : List (String × String)} {good : σ → Prop} {s : σ}

theorem line_render (follows : h.Follows p lines good) {language : String} {l : ComparedLine}
    (asked : (language, l.content) ∈ lines) (start : good s) :
    (l.render (some ⟨h, language⟩) s).1 = Id.run (l.render (some ⟨p, language⟩)) := by
  obtain ⟨same, -⟩ := follows.line language l.content s asked start
  cases done : h.line language l.content s with
  | mk r after =>
    rw [done] at same
    have own : p.line language l.content = r := same.symm
    simp only [ComparedLine.render, bind_run, done, own]
    cases r with
    | ok html => rfl
    | error e => rfl

theorem lines_render (follows : h.Follows p lines good) {language : String}
    {ls : List ComparedLine} (asked : ∀ l ∈ ls, (language, l.content) ∈ lines) (start : good s) :
    (renderLines (some ⟨h, language⟩) ls s).1 =
      Id.run (renderLines (some ⟨p, language⟩) ls) := by
  induction ls generalizing s with
  | nil => rfl
  | cons l rest ih =>
    obtain ⟨own, others⟩ := List.forall_mem_cons.mp asked
    have after := line_kept l (follows.line language l.content s own start).2
    simp only [renderLines, bind_run, pure_run]
    rw [follows.line_render own start, ih others after]
    rfl

theorem side_render (follows : h.Follows p lines good) {language : String} {side : ComparedSide}
    (asked : ∀ l ∈ side.lines, (language, l.content) ∈ lines) (start : good s) :
    (side.render (some ⟨h, language⟩) s).1 = Id.run (side.render (some ⟨p, language⟩)) := by
  simp only [ComparedSide.render, bind_run, pure_run]
  rw [follows.lines_render asked start]
  rfl

/-- The highlighter that applies, with and without a memory, or none for both. -/
theorem active (follows : h.Follows p lines good) (language : Option String) :
    (activeHighlighter (some h) language = none ∧ activeHighlighter (some p) language = none) ∨
      ∃ name, language = some name ∧ activeHighlighter (some h) language = some ⟨h, name⟩ ∧
        activeHighlighter (some p) language = some ⟨p, name⟩ := by
  cases language with
  | none => exact .inl ⟨rfl, rfl⟩
  | some name =>
    simp only [activeHighlighter, follows.supports]
    by_cases supported : p.supports name
    · exact .inr ⟨name, rfl, if_pos supported, if_pos supported⟩
    · exact .inl ⟨if_neg supported, if_neg supported⟩

theorem render (follows : h.Follows p lines good) {language : Option String} {c : Comparison}
    (asked : c.asked language ⊆ lines) (start : good s) :
    (c.render (some h) language s).1 = Id.run (c.render (some p) language) := by
  rcases follows.active language with ⟨off, offAlone⟩ | ⟨name, rfl, on, onAlone⟩
  · rw [Comparison.render_off off, Comparison.render_off offAlone, pure_run]
    rfl
  · have every : ∀ l ∈ c.left.lines ++ c.right.lines, (name, l.content) ∈ lines :=
      fun l member => asked (List.mem_map_of_mem member)
    obtain ⟨left, right⟩ := List.forall_mem_append.mp every
    have middle : good (c.left.render (some ⟨h, name⟩) s).2 :=
      lines_kept (fun l member s start => (follows.line _ _ s (left l member) start).2) start
    simp only [Comparison.render, on, onAlone, bind_run, pure_run]
    rw [follows.side_render left start, follows.side_render right middle]
    rfl

end Highlighter.Follows

/-! ### Lines by themselves -/

/-- A line rendered by itself: the engine's markup where the language is known and supported and
the engine succeeds, and escaped text otherwise. -/
def ComparedLine.alone (library : Library) (language : Option String) (l : ComparedLine) :
    RenderedLine :=
  match language with
  | none => ⟨l.mark, Markup.escapeText l.content, false⟩
  | some name =>
    match Engine.supports library name, Engine.line library name l.content with
    | true, .ok html => ⟨l.mark, html, true⟩
    | _, _ => ⟨l.mark, Markup.escapeText l.content, false⟩

/-- A side with each of its lines rendered by itself. -/
def ComparedSide.alone (library : Library) (language : Option String) (side : ComparedSide) :
    RenderedColumn :=
  ⟨side.name, side.lines.map fun l => Decimal.ofNat l.number.toNat,
    side.lines.map (ComparedLine.alone library language)⟩

section
variable {library : Library}

theorem line_alone {name : String} (supported : Engine.supports library name = true)
    (l : ComparedLine) :
    Id.run (l.render (some ⟨Engine.ofLibrary library, name⟩)) = l.alone library (some name) := by
  cases made : Engine.line library name l.content with
  | ok html =>
    unfold ComparedLine.alone
    simp only [supported, made, ComparedLine.render, Engine.ofLibrary]
    rfl
  | error e =>
    unfold ComparedLine.alone
    simp only [supported, made, ComparedLine.render, Engine.ofLibrary]
    rfl

theorem lines_alone {name : String} (supported : Engine.supports library name = true)
    (ls : List ComparedLine) :
    Id.run (renderLines (some ⟨Engine.ofLibrary library, name⟩) ls) =
      ls.map (ComparedLine.alone library (some name)) := by
  induction ls with
  | nil => rfl
  | cons l rest ih =>
    simp only [renderLines, Id.run_bind, Id.run_pure, line_alone supported, ih, List.map_cons]

theorem alone_unsupported {name : String} (unsupported : Engine.supports library name = false)
    (l : ComparedLine) : l.alone library (some name) = l.plain := by
  unfold ComparedLine.alone
  simp only [unsupported, ComparedLine.plain]

theorem alone_none (l : ComparedLine) : l.alone library none = l.plain := rfl

theorem plain_alone {language : Option String}
    (plain : ∀ l : ComparedLine, l.alone library language = l.plain) (c : Comparison) :
    c.plain = ⟨c.title, c.left.alone library language, c.right.alone library language⟩ := by
  have lines : ∀ ls : List ComparedLine,
      ls.map ComparedLine.plain = ls.map (ComparedLine.alone library language) := fun ls =>
    List.map_congr_left fun l _ => (plain l).symm
  simp only [Comparison.plain, ComparedSide.plain, ComparedSide.alone, lines]

theorem uncached_alone (language : Option String) (c : Comparison) :
    Id.run (c.render (some (Engine.ofLibrary library)) language) =
      ⟨c.title, c.left.alone library language, c.right.alone library language⟩ := by
  cases language with
  | none =>
    rw [Comparison.render_off rfl, Id.run_pure]
    exact plain_alone alone_none c
  | some name =>
    cases supported : Engine.supports library name with
    | false =>
      have off : activeHighlighter (some (Engine.ofLibrary library)) (some name) = none := by
        simp [activeHighlighter, Engine.ofLibrary, supported]
      rw [Comparison.render_off off, Id.run_pure]
      exact plain_alone (alone_unsupported supported) c
    | true =>
      have on : activeHighlighter (some (Engine.ofLibrary library)) (some name) =
          some ⟨Engine.ofLibrary library, name⟩ := by
        simp [activeHighlighter, Engine.ofLibrary, supported]
      simp only [Comparison.render, on, ComparedSide.render, lines_alone supported,
        ComparedSide.alone, Id.run_bind, Id.run_pure]

end

/-! ### Histories -/

namespace LineCache

/-- What a highlighter with a cache may be used for. -/
inductive Use where
  | line (language text : String)
  | block (language code : String)
  | clear
  | render (language : Option String) (comparison : Comparison)

def Use.run (hash : LineHash) (evict : Eviction) (library : Library) (cache : LineCache) :
    Use → LineCache
  | line language text => ((cached hash evict library).line language text cache).2
  | block language code => ((cached hash evict library).block language code cache).2
  | clear => cache.clear
  | render language comparison =>
    (comparison.render (some (cached hash evict library)) language cache).2

/-- The lines that a use asks for. -/
def Use.lines : Use → List (String × String)
  | line language text => [(language, text)]
  | render language comparison => comparison.asked language
  | _ => []

section
variable {hash : LineHash} {evict : Eviction} {library : Library} {P : LineCache → Prop}
  {cache : LineCache}

theorem use_kept {use : Use}
    (each : ∀ p ∈ use.lines, ∀ cache, P cache → P (line hash evict library p.1 p.2 cache).2)
    (clears : ∀ cache : LineCache, P cache → P cache.clear) (start : P cache) :
    P (use.run hash evict library cache) := by
  cases use with
  | line language text => exact each _ List.mem_cons_self cache start
  | block language code => exact start
  | clear => exact clears cache start
  | render language comparison => exact render_kept each start

/-- What holds of a cache at first and is kept by every line that is asked for, and by clearing,
holds after any uses. -/
theorem uses_kept {uses : List Use}
    (each : ∀ p ∈ uses.flatMap Use.lines, ∀ cache, P cache →
      P (line hash evict library p.1 p.2 cache).2)
    (clears : ∀ cache : LineCache, P cache → P cache.clear) (start : P cache) :
    P (uses.foldl (Use.run hash evict library) cache) := by
  induction uses generalizing cache with
  | nil => exact start
  | cons use rest ih =>
    rw [List.flatMap_cons] at each
    obtain ⟨own, others⟩ := List.forall_mem_append.mp each
    exact ih others (use_kept own clears start)

end

end LineCache

/-- After any uses of a cache of any size, a comparison is rendered as without a cache: with each
of its lines rendered by itself. The hash keeps apart the lines that were asked for. -/
theorem cache_does_not_show (hash : LineHash) (library : Library) (evict : Eviction) (limit : Nat)
    (uses : List LineCache.Use) (language : Option String) (c : Comparison)
    (separates : hash.Separates (uses.flatMap LineCache.Use.lines ++ c.asked language)) :
    let cache := uses.foldl (LineCache.Use.run hash evict library) (LineCache.ofLimit limit)
    let rendered := (c.render (some (LineCache.cached hash evict library)) language cache).1
    rendered = Id.run (c.render (some (Engine.ofLibrary library)) language) ∧
      rendered = ⟨c.title, c.left.alone library language, c.right.alone library language⟩ := by
  intro cache rendered
  have follows := LineCache.cached_follows separates evict library
  have sound : cache.Sound hash library _ := LineCache.uses_kept
    (fun p asked cache start =>
      (follows.line p.1 p.2 cache (List.mem_append_left _ asked) start).2)
    (fun cache _ => LineCache.sound_clear cache) (LineCache.sound_ofLimit limit)
  have same : rendered = Id.run (c.render (some (Engine.ofLibrary library)) language) :=
    follows.render (List.subset_append_right _ _) sound
  exact ⟨same, same.trans (uncached_alone language c)⟩

/-- Two lines that are not the same, in a cache with room for one. -/
def twoLines : Comparison where
  left := ⟨"a", [⟨1, .unchanged, "int i;"⟩, ⟨2, .removed, "i < 2"⟩]⟩
  right := ⟨"b", [⟨1, .unchanged, "int i;"⟩]⟩

theorem cache_of_one_line_does_not_show :
    LineHash.mixed.Separates
        ([LineCache.Use.line " Java" "i < 2"].flatMap LineCache.Use.lines ++
          twoLines.asked (some "java")) ∧
      let library := Engine.spans .default
      let cached := LineCache.cached .mixed LineCache.oldestFirst library
      (twoLines.render (some cached) (some "java")
          (cached.line " Java" "i < 2" (LineCache.ofLimit 1)).2).1 =
        ⟨"a vs b", twoLines.left.alone library (some "java"),
          twoLines.right.alone library (some "java")⟩ := by
  have separates : LineHash.mixed.Separates
      ([LineCache.Use.line " Java" "i < 2"].flatMap LineCache.Use.lines ++
        twoLines.asked (some "java")) := by decide
  exact ⟨separates, (cache_does_not_show .mixed (Engine.spans .default)
    LineCache.oldestFirst 1 _ _ _ separates).2⟩

end SnippetPage
