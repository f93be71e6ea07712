/-!
# Themes

The themes that code can be shown in, with the colour of text that has no other.
-/

namespace SnippetPage

/-- A theme by its name and its foreground colour. -/
structure Theme where
  name : String
  foreground : String
  deriving DecidableEq, Repr

namespace Theme

def default : Theme := ⟨"base16-ocean.dark", "#c0c5ce"⟩

def all : List Theme :=
  [default,
    ⟨"base16-ocean.light", "#4f5b66"⟩,
    ⟨"base16-eighties.dark", "#d3d0c8"⟩,
    ⟨"base16-mocha.dark", "#d0c8c6"⟩,
    ⟨"InspiredGitHub", "#323232"⟩,
    ⟨"Solarized (dark)", "#839496"⟩,
    ⟨"Solarized (light)", "#657b83"⟩]

def named (name : String) : Theme :=
  (all.find? (·.name == name)).getD default

end Theme

end SnippetPage
