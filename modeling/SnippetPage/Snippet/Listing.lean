import SnippetPage.Snippet.Basic

/-!
# Listings

A page of listed snippets and the request for one.
-/

namespace SnippetPage

structure PageInfo where
  size : UInt64
  number : UInt64
  totalElements : UInt64
  totalPages : UInt64
  deriving DecidableEq

/-- A page of a listing. The number of pages stands in its block, or beside it in older answers. -/
structure Listing where
  content : List Preview
  info : Option PageInfo
  totalPages : Option UInt64
  deriving DecidableEq

/-- The number of pages, from whichever place has it, and one when none does. -/
def Listing.pageCount (l : Listing) : UInt64 :=
  ((l.info.map (·.totalPages)).or l.totalPages).getD 1

structure PageRequest where
  page : UInt32 := 0
  size : UInt32 := 20
  sort : String := "updatedAt,DESC"
  deriving DecidableEq

namespace PageRequest

/-- The first page of a given size and order. -/
def first (size : UInt32) (sort : String) : PageRequest :=
  { size, sort }

def pairs (r : PageRequest) : List (String × String) :=
  [("page", Decimal.ofNat r.page.toNat), ("size", Decimal.ofNat r.size.toNat), ("sort", r.sort)]

end PageRequest

end SnippetPage
