/-!
# Synchronous scrolling

Two panes are kept at the same offset. A scroll of one pane is mirrored to the other, which then
reports a scroll of its own: the echo of the mirror, which must not be mirrored back. A pane may
stop short of the offset it was asked for; the limits it shows that way are remembered.
-/

namespace SnippetPage

inductive Pane where
  | left
  | right
  deriving DecidableEq, Repr

def Pane.other : Pane → Pane
  | .left => .right
  | .right => .left

/-- How far a pane is scrolled down and to the side. -/
structure Offset where
  top : UInt32 := 0
  left : UInt32 := 0
  deriving DecidableEq, Repr

structure PerPane (α : Type) where
  left : α
  right : α
  deriving DecidableEq, Repr

namespace PerPane

variable {α : Type}

def get (v : PerPane α) : Pane → α
  | .left => v.left
  | .right => v.right

def set (v : PerPane α) (pane : Pane) (a : α) : PerPane α :=
  match pane with
  | .left => { v with left := a }
  | .right => { v with right := a }

@[simp] theorem get_set_self (v : PerPane α) (pane : Pane) (a : α) :
    (v.set pane a).get pane = a := by
  cases pane <;> rfl

@[simp] theorem get_set_other (v : PerPane α) (pane : Pane) (a : α) :
    (v.set pane a).get pane.other = v.get pane.other := by
  cases pane <;> rfl

@[simp] theorem get_set_of_other (v : PerPane α) (pane : Pane) (a : α) :
    (v.set pane.other a).get pane = v.get pane := by
  cases pane <;> rfl

end PerPane

/-- The greatest offsets a pane was seen to accept, where any limit is known. -/
structure Extent where
  top : Option UInt32 := none
  left : Option UInt32 := none
  deriving DecidableEq, Repr

def clampTo (limit : Option UInt32) (x : UInt32) : UInt32 :=
  match limit with
  | some m => min x m
  | none => x

/-- A limit once a coordinate fell short of the one that was requested. -/
def learnLimit (limit : Option UInt32) (requested reported : UInt32) : Option UInt32 :=
  if reported < requested then some reported else limit

/-- A limit once a coordinate was reported: it is forgotten when the pane went past it. -/
def widenLimit (limit : Option UInt32) (reported : UInt32) : Option UInt32 :=
  match limit with
  | some m => if m < reported then none else some m
  | none => none

namespace Extent

def clamp (e : Extent) (o : Offset) : Offset :=
  ⟨clampTo e.top o.top, clampTo e.left o.left⟩

/-- The limits once a pane reported less than was requested. -/
def learn (e : Extent) (requested reported : Offset) : Extent :=
  ⟨learnLimit e.top requested.top reported.top, learnLimit e.left requested.left reported.left⟩

/-- The limits without those a pane went past. -/
def widen (e : Extent) (reported : Offset) : Extent :=
  ⟨widenLimit e.top reported.top, widenLimit e.left reported.left⟩

end Extent

/-- Whether an offset is another one cut down to some limits. -/
def Offset.fitsWithin (o requested : Offset) : Bool :=
  o.top ≤ requested.top && o.left ≤ requested.left

inductive ScrollOutcome where
  /-- Move a pane to an offset. -/
  | mirror (target : Pane) (offset : Offset)
  /-- The scroll was the echo of a mirror. -/
  | suppressed
  /-- The other pane is there already. -/
  | unchanged
  deriving DecidableEq, Repr

/-- What is known of two panes that scroll together. -/
structure ScrollSync where
  positions : PerPane Offset := ⟨{}, {}⟩
  extents : PerPane Extent := ⟨{}, {}⟩
  /-- The pane that was moved last and the offset it was moved to. -/
  expectedEcho : Option (Pane × Offset) := none
  deriving DecidableEq, Repr

namespace ScrollSync

/-- Whether the echo of a mirror is still to come. -/
def awaitsEcho (s : ScrollSync) : Bool :=
  s.expectedEcho.isSome

/-- The state after a pane reported its offset, before anything follows from it. -/
def note (s : ScrollSync) (pane : Pane) (offset : Offset) : ScrollSync :=
  { s with
    positions := s.positions.set pane offset
    extents := s.extents.set pane ((s.extents.get pane).widen offset) }

/-- Brings the other pane to the offset of a pane, as far as its known limits allow. -/
def follow (s : ScrollSync) (pane : Pane) (offset : Offset) : ScrollSync × ScrollOutcome :=
  let target := pane.other
  let mirrored := (s.extents.get target).clamp offset
  if s.positions.get target = mirrored then (s, .unchanged)
  else
    ({ s with
        positions := s.positions.set target mirrored
        expectedEcho := some (target, mirrored) },
      .mirror target mirrored)

/-- A pane reports its offset. The first report of a pane that was moved settles the expected
echo; it is the echo when it is the requested offset or one cut down from it. -/
def scrolled (s : ScrollSync) (pane : Pane) (offset : Offset) : ScrollSync × ScrollOutcome :=
  let s := s.note pane offset
  match s.expectedEcho with
  | some (echoPane, requested) =>
    if echoPane = pane then
      let s := { s with expectedEcho := none }
      if offset.fitsWithin requested then
        ({ s with extents := s.extents.set pane ((s.extents.get pane).learn requested offset) },
          .suppressed)
      else s.follow pane offset
    else s.follow pane offset
  | none => s.follow pane offset

end ScrollSync

end SnippetPage
