import PageHarvest.Text.Basic

namespace PageHarvest

inductive PageScope
  | single
  | multi
deriving DecidableEq, Repr, Inhabited

namespace PageScope

def all : List PageScope := [single, multi]

def label : PageScope → String
  | single => "single"
  | multi => "multi"

end PageScope

inductive PaginationMode
  | nextButtonClick
  | urlPattern
deriving DecidableEq, Repr, Inhabited

namespace PaginationMode

def all : List PaginationMode := [nextButtonClick, urlPattern]

def label : PaginationMode → String
  | nextButtonClick => "next_button_click"
  | urlPattern => "url_pattern"

end PaginationMode

/-- The number of the first page, and the count of pages, where none is named. -/
def Pagination.defaultPage : UInt32 := 1

/-- The URL of a page in a pattern is `urlPrefix`, the page number, then `urlSuffix`. -/
structure Pagination where
  scope : PageScope := .single
  mode : PaginationMode := .nextButtonClick
  startPage : UInt32 := Pagination.defaultPage
  pageCount : UInt32 := Pagination.defaultPage
  nextSelector : String := ""
  urlPrefix : String := ""
  urlSuffix : String := ""
deriving DecidableEq, Repr, Inhabited

namespace Pagination

def nextButton (nextSelector : String) (pageCount : UInt32) : Pagination where
  scope := .multi
  mode := .nextButtonClick
  pageCount := pageCount
  nextSelector := nextSelector

def pattern (urlPrefix urlSuffix : String) (startPage pageCount : UInt32) : Pagination where
  scope := .multi
  mode := .urlPattern
  startPage := startPage
  pageCount := pageCount
  urlPrefix := urlPrefix
  urlSuffix := urlSuffix

def isMulti (p : Pagination) : Bool :=
  p.scope == .multi

def usesUrlPattern (p : Pagination) : Bool :=
  p.isMulti && p.mode == .urlPattern

def usesNextButton (p : Pagination) : Bool :=
  p.isMulti && p.mode == .nextButtonClick

def firstPage (p : Pagination) : Nat :=
  max p.startPage.toNat 1

def pages (p : Pagination) : Nat :=
  max p.pageCount.toNat 1

end Pagination
end PageHarvest
