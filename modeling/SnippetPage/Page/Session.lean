import SnippetPage.Snippet.Basic

/-!
# The session

The snippet the page is about, the requests that are under way for it, and whether it still
exists. Comparisons carry a token, so that only the answer to the latest one counts.
-/

namespace SnippetPage

/-- A kind of request that the page waits for. -/
inductive PendingOp where
  | load
  | save
  | delete
  | compare
  | candidates
  deriving DecidableEq, Repr

namespace PendingOp

def all : List PendingOp :=
  [load, save, delete, compare, candidates]

def name : PendingOp → String
  | load => "LOAD"
  | save => "SAVE"
  | delete => "DELETE"
  | compare => "COMPARE"
  | candidates => "CANDIDATES"

end PendingOp

structure Pending where
  load : Bool := false
  save : Bool := false
  delete : Bool := false
  compare : Bool := false
  candidates : Bool := false
  deriving DecidableEq, Repr

namespace Pending

def has (p : Pending) : PendingOp → Bool
  | .load => p.load
  | .save => p.save
  | .delete => p.delete
  | .compare => p.compare
  | .candidates => p.candidates

/-- The set with a kind put in or taken out. -/
def set (p : Pending) (op : PendingOp) (present : Bool) : Pending :=
  match op with
  | .load => { p with load := present }
  | .save => { p with save := present }
  | .delete => { p with delete := present }
  | .compare => { p with compare := present }
  | .candidates => { p with candidates := present }

def insert (p : Pending) (op : PendingOp) : Pending :=
  p.set op true

def erase (p : Pending) (op : PendingOp) : Pending :=
  p.set op false

def ofList (ops : List PendingOp) : Pending :=
  ops.foldl insert {}

def toList (p : Pending) : List PendingOp :=
  PendingOp.all.filter p.has

/-- The name of the only kind, or that there is none or more than one. -/
def label (p : Pending) : String :=
  match p.toList with
  | [] => "NONE"
  | [op] => op.name
  | _ => "MULTIPLE"

@[simp] theorem has_set_self (p : Pending) (op : PendingOp) (b : Bool) :
    (p.set op b).has op = b := by
  cases op <;> rfl

theorem has_set_of_ne (p : Pending) {op other : PendingOp} (b : Bool) (h : op ≠ other) :
    (p.set op b).has other = p.has other := by
  cases op <;> cases other <;> first | rfl | exact absurd rfl h

theorem has_insert (p : Pending) (op other : PendingOp) :
    (p.insert op).has other = if op = other then true else p.has other := by
  split
  · subst op
    exact has_set_self p other true
  · rename_i different
    exact has_set_of_ne p true different

theorem has_erase (p : Pending) (op other : PendingOp) :
    (p.erase op).has other = if op = other then false else p.has other := by
  split
  · subst op
    exact has_set_self p other false
  · rename_i different
    exact has_set_of_ne p false different

end Pending

structure Session where
  snippetId : Option SnippetId := none
  snippet : Option Snippet := none
  pending : Pending := {}
  compareToken : UInt64 := 0
  ended : Bool := false
  deriving DecidableEq

namespace Session

/-- Whether all of some kinds of requests are under way. -/
def isPending (s : Session) (ops : List PendingOp) : Bool :=
  ops.all s.pending.has

def isIdle (s : Session) : Bool :=
  s.pending.toList.isEmpty

/-- The token of the next comparison; after the greatest one it starts again at zero. -/
def nextToken (s : Session) : UInt64 :=
  s.compareToken + 1

/-- Whether a token belongs to the comparison that is waited for. -/
def isCurrent (s : Session) (token : UInt64) : Bool :=
  s.pending.has .compare && token == s.compareToken

def language (s : Session) : Option String :=
  (s.snippet.bind (·.language)).map Language.name

end Session

end SnippetPage
