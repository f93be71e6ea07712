import SnippetPage.Scroll.Sync

/-!
# Panes that scroll

Two panes as they behave on a screen. A pane asked for an offset goes as far as its greatest
offsets allow, and reports the new offset if it moved. Reports are handled in order, and a mirror
they call for moves the other pane, which may report in turn.
-/

namespace SnippetPage

/-- Two panes with their greatest offsets, the reports not handled yet and the number handled. -/
structure Panes where
  sync : ScrollSync := {}
  offsets : PerPane Offset := ⟨{}, {}⟩
  maxima : PerPane Offset
  reports : List (Pane × Offset) := []
  handled : Nat := 0
  deriving DecidableEq, Repr

def Offset.cutTo (o maximum : Offset) : Offset :=
  ⟨min o.top maximum.top, min o.left maximum.left⟩

namespace Panes

def move (p : Panes) (pane : Pane) (offset : Offset) : Panes :=
  let offset := offset.cutTo (p.maxima.get pane)
  if p.offsets.get pane = offset then p
  else
    { p with
      offsets := p.offsets.set pane offset
      reports := p.reports ++ [(pane, offset)] }

def handle (p : Panes) : Panes :=
  match p.reports with
  | [] => p
  | (pane, offset) :: rest =>
    let (sync, outcome) := p.sync.scrolled pane offset
    let p := { p with sync, reports := rest, handled := p.handled + 1 }
    match outcome with
    | .mirror target offset => p.move target offset
    | _ => p

def drain (limit : Nat) (p : Panes) : Panes :=
  match limit with
  | 0 => p
  | limit + 1 => if p.reports.isEmpty then p else drain limit p.handle

/-- The user scrolls a pane, and whatever comes of it is handled. -/
def userScroll (p : Panes) (pane : Pane) (offset : Offset) : Panes :=
  (p.move pane offset).drain 100

end Panes

end SnippetPage
