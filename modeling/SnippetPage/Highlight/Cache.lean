import SnippetPage.Highlight.Engine

/-!
# The cache of highlighted lines

Highlighted lines are kept under a hash of their language, in upper case, and their text. A cache
that is full gives up a fifth of its entries, but at least one, before it takes a new one. Which
entries go is left open, and so is how lines are hashed: the cache is given a rule for both.
-/

namespace SnippetPage

/-- A hash of the name of a language, in upper case, and a text. -/
abbrev LineHash := String → String → UInt64

namespace LineHash

/-- The key of a line. It does not depend on the case of the language. -/
def key (hash : LineHash) (language text : String) : UInt64 :=
  hash (Text.upperAscii language) text

/-- Mixes a text into a hash, character by character, and then a number that no character has. -/
def mix (h : UInt64) (text : String) : UInt64 :=
  let step (h n : UInt64) := (h ^^^ n) * 0x100000001B3
  step (text.toList.foldl (fun h c => step h c.val.toUInt64) h) 0x110000

def mixed : LineHash := fun language text =>
  mix (mix 0xCBF29CE484222325 language) text

end LineHash

/-- A rule for the entries that a full cache gives up. It may choose others each time: it is told
how many lines were stored before, how many entries have to go, and all entries. -/
structure Eviction where
  keep : Nat → Nat → List (UInt64 × String) → List (UInt64 × String)
  sublist : ∀ turn count entries, (keep turn count entries).Sublist entries
  removed : ∀ turn count entries, (keep turn count entries).length = entries.length - count

/-- Highlighted lines with the greatest number of them. -/
structure LineCache where
  entries : List (UInt64 × String) := []
  limit : Nat := 5000
  /-- The number of lines stored so far, whether they are still there or not. -/
  stores : Nat := 0
  deriving DecidableEq, Repr

namespace LineCache

def ofLimit (limit : Nat) : LineCache :=
  { limit := max limit 1 }

/-- Gives up the entries that were stored first. -/
def oldestFirst : Eviction where
  keep _ count entries := entries.drop count
  sublist _ count entries := List.drop_sublist count entries
  removed _ _ _ := List.length_drop

def batch (cache : LineCache) : Nat :=
  max (cache.limit / 5) 1

def get? (cache : LineCache) (key : UInt64) : Option String :=
  (cache.entries.find? (·.1 == key)).map Prod.snd

/-- The entries that stay when another one is to be stored. -/
def kept (evict : Eviction) (cache : LineCache) : List (UInt64 × String) :=
  if cache.limit ≤ cache.entries.length then evict.keep cache.stores cache.batch cache.entries
  else cache.entries

/-- Keeps the markup of a key that is not in the cache. -/
def store (evict : Eviction) (cache : LineCache) (key : UInt64) (html : String) : LineCache :=
  { cache with entries := cache.kept evict ++ [(key, html)], stores := cache.stores + 1 }

def clear (cache : LineCache) : LineCache :=
  { cache with entries := [] }

/-- The markup of a line from the cache, or from the engine, which then fills the cache. -/
def line (hash : LineHash) (evict : Eviction) (library : Library) (language text : String) :
    StateM LineCache (Except HighlightError String) := fun cache =>
  let key := hash.key language text
  match cache.get? key with
  | some html => (.ok html, cache)
  | none =>
    match Engine.line library language text with
    | .ok html => (.ok html, cache.store evict key html)
    | .error e => (.error e, cache)

/-- An engine with a cache for lines. Blocks do not use it. -/
def cached (hash : LineHash) (evict : Eviction) (library : Library) :
    Highlighter (StateM LineCache) where
  supports := Engine.supports library
  line := line hash evict library
  block language code := pure (Engine.block library language code)

def highlighter (hash : LineHash) (evict : Eviction) (theme : Theme) :
    Highlighter (StateM LineCache) :=
  cached hash evict (Engine.spans theme)

end LineCache

end SnippetPage
