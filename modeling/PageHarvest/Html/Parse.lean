import PageHarvest.Html.Builder.Table
import PageHarvest.Html.RawText

namespace PageHarvest.Html

/-- Document types of pages that were written for old browsers. -/
def oldPublicIds : List String :=
  ["+//silmaril//dtd html pro v0r11 19970101//",
   "-//advasoft ltd//dtd html 3.0 aswedit + extensions//",
   "-//as//dtd html 3.0 aswedit + extensions//", "-//ietf//dtd html 2.0 level 1//",
   "-//ietf//dtd html 2.0 level 2//", "-//ietf//dtd html 2.0 strict level 1//",
   "-//ietf//dtd html 2.0 strict level 2//", "-//ietf//dtd html 2.0 strict//",
   "-//ietf//dtd html 2.0//", "-//ietf//dtd html 2.1e//", "-//ietf//dtd html 3.0//",
   "-//ietf//dtd html 3.2 final//", "-//ietf//dtd html 3.2//", "-//ietf//dtd html 3//",
   "-//ietf//dtd html level 0//", "-//ietf//dtd html level 1//", "-//ietf//dtd html level 2//",
   "-//ietf//dtd html level 3//", "-//ietf//dtd html strict level 0//",
   "-//ietf//dtd html strict level 1//", "-//ietf//dtd html strict level 2//",
   "-//ietf//dtd html strict level 3//", "-//ietf//dtd html strict//", "-//ietf//dtd html//",
   "-//metrius//dtd metrius presentational//",
   "-//microsoft//dtd internet explorer 2.0 html strict//",
   "-//microsoft//dtd internet explorer 2.0 html//",
   "-//microsoft//dtd internet explorer 2.0 tables//",
   "-//microsoft//dtd internet explorer 3.0 html strict//",
   "-//microsoft//dtd internet explorer 3.0 html//",
   "-//microsoft//dtd internet explorer 3.0 tables//", "-//netscape comm. corp.//dtd html//",
   "-//netscape comm. corp.//dtd strict html//", "-//o'reilly and associates//dtd html 2.0//",
   "-//o'reilly and associates//dtd html extended 1.0//",
   "-//o'reilly and associates//dtd html extended relaxed 1.0//",
   "-//softquad software//dtd hotmetal pro 6.0::19990601::extensions to html 4.0//",
   "-//softquad//dtd hotmetal pro 4.0::19971010::extensions to html 4.0//",
   "-//spyglass//dtd html 2.0 extended//", "-//sq//dtd html 2.0 hotmetal + extensions//",
   "-//sun microsystems corp.//dtd hotjava html//",
   "-//sun microsystems corp.//dtd hotjava strict html//", "-//w3c//dtd html 3 1995-03-24//",
   "-//w3c//dtd html 3.2 draft//", "-//w3c//dtd html 3.2 final//", "-//w3c//dtd html 3.2//",
   "-//w3c//dtd html 3.2s draft//", "-//w3c//dtd html 4.0 frameset//",
   "-//w3c//dtd html 4.0 transitional//", "-//w3c//dtd html experimental 19960712//",
   "-//w3c//dtd html experimental 970421//", "-//w3c//dtd w3 html//", "-//w3o//dtd w3 html 3.0//",
   "-//webtechs//dtd mozilla html 2.0//", "-//webtechs//dtd mozilla html//"]

/-- Document types that ask for old layout only where they stand alone. -/
def bareOldPublicIds : List String :=
  ["-//w3c//dtd html 4.01 frameset//", "-//w3c//dtd html 4.01 transitional//"]

/-- Whether a page with this document type is laid out as old browsers did. -/
def Doctype.isOld (d : Doctype) : Bool :=
  let low (s : String) : List Char := s.toList.map Char.toLower
  let publicId := d.publicId.map low
  let systemId := d.systemId.map low
  let starts (names : List String) := publicId.any fun s => names.any fun n => n.toList.isPrefixOf s
  d.broken || d.name != some "html" ||
    publicId.any (fun s =>
      ["-//w3o//dtd w3 html strict 3.0//en//", "-/w3c/dtd html 4.0 transitional/en",
       "html"].any fun n => n.toList == s) ||
    systemId == some "http://www.ibm.com/data/dtd/v11/ibmxhtml1-transitional.dtd".toList ||
    starts oldPublicIds || (systemId.isNone && starts bareOldPublicIds)

namespace Builder

def takeInMode (b : Builder) (item : Item) : Builder × Next :=
  match b.mode with
  | .start => b.start item
  | .beforeHtml => b.beforeHtml item
  | .beforeHead => b.beforeHead item
  | .inHead => b.inHead item
  | .afterHead => b.afterHead item
  | .inBody => b.inBody item
  | .inTable => b.inTable item
  | .inTableText => b.inTableText item
  | .inCaption => b.inCaption item
  | .inColumns => b.inColumns item
  | .inSection => b.inSection item
  | .inRow => b.inRow item
  | .inCell => b.inCell item
  | .inSelect => b.inSelect item
  | .inSelectInTable => b.inSelectInTable item
  | .inTemplate => b.inTemplate item
  | .afterBody => b.afterBody item
  | .inFrameset => b.inFrameset item
  | .afterFrameset => b.afterFrameset item
  | .afterPage => b.afterPage item
  | .afterFramesetPage => b.afterFramesetPage item

def takeOnce (b : Builder) (item : Item) : Builder × Next :=
  if b.isForeign item then
    match b.inForeign item with
    | (b, true) => b.done
    | (b, false) => b.takeInMode item
  else b.takeInMode item

/-- Takes an item as often as the modes ask for it, at most `rounds` times. -/
def takeRounds (b : Builder) (item : Item) : Nat → Builder × Next
  | 0 => b.done
  | rounds + 1 =>
    match b.takeOnce item with
    | (b, .again) => b.takeRounds item rounds
    | result => result

/--
Takes an item. An item that counts again has closed an element or has moved on among the modes
before the body or inside a table, so there is a bound on the rounds.
-/
def take (b : Builder) (item : Item) : Builder × Next :=
  b.takeRounds item (b.stack.length + 16)

def takeChars (b : Builder) (run : List Char) : Builder :=
  run.foldl (fun b c => (b.take (.char c)).1) b

def takeDoctype (b : Builder) (d : Doctype) : Builder :=
  if b.mode == .start then
    let page := (b.page.create .doctype).append Document.root b.page.nodes.size
    { b with page := page, mode := .beforeHtml, oldStyle := d.isOld }
  else b

/-- Drops a line feed at the start of a text if the element before it asks for that. -/
def withoutFeed (drops : Bool) (run : List Char) : List Char :=
  match drops, run with
  | true, '\n' :: r => r
  | _, r => r

def takeToken (b : Builder) (token : Token) : Builder × Next :=
  let drops := b.dropsFeed
  let b := { b with dropsFeed := false }
  match token with
  | .opening t => b.take (.opening t)
  | .closing name => b.take (.closing name)
  | .comment text => b.take (.comment text)
  | .doctype d => (b.takeDoctype d).done
  | .chars run => (b.takeChars (withoutFeed drops run)).done

def allowsSections (b : Builder) : Bool :=
  b.stack.head?.any fun id => b.has id (·.space != .html)

/-- The text of an element that holds no tags, and what follows its end tag. -/
def takeRaw (b : Builder) (kind : RawKind) (id : NodeId) (name : String) (s : List Char) :
    Builder × List Char :=
  let (text, rest) := readRawText kind name s
  let page := (withoutFeed b.dropsFeed text).foldl (fun page c => page.appendChar id c) b.page
  ({ b with page := page, dropsFeed := false }, skipEndTag rest)

theorem length_takeRaw_le (b : Builder) (kind : RawKind) (id : NodeId) (name : String)
    (s : List Char) : (b.takeRaw kind id name s).2.length ≤ s.length := by
  have h1 := length_readRawText_le kind name s
  have h2 := length_skipEndTag_le (readRawText kind name s).2
  simp only [takeRaw]
  omega

/-- What a token and the text behind it lead to: the state, and the text that is left. -/
def advance (b : Builder) (token? : Option Token) (rest : List Char) : Builder × List Char :=
  match token? with
  | none => (b, rest)
  | some token =>
    match b.takeToken token with
    | (b, .raw kind id name) => b.takeRaw kind id name rest
    | (b, _) => (b, rest)

theorem length_advance_le (b : Builder) (token? : Option Token) (rest : List Char) :
    (b.advance token? rest).2.length ≤ rest.length := by
  unfold advance
  split
  · simp
  · split
    · exact length_takeRaw_le _ _ _ _ _
    · simp

def takePlaintext (b : Builder) (s : List Char) : Builder :=
  { b with dropsFeed := false }.takeChars (withoutFeed b.dropsFeed (s.map visible))

def read (b : Builder) (s : List Char) : Builder :=
  match s with
  | [] => (b.take .finish).1
  | c :: r =>
    if b.plaintext then ((b.takePlaintext (c :: r)).take .finish).1
    else
      match _ht : readToken b.allowsSections c r with
      | (token?, rest) => (b.advance token? rest).1.read (b.advance token? rest).2
termination_by s.length
decreasing_by
  have h1 := length_readToken_le b.allowsSections c r
  have h2 := length_advance_le b token? rest
  simp only [_ht] at h1
  simp only [List.length_cons]
  omega

end Builder

def Document.parse (text : String) : Document :=
  (Builder.read {} (normalize text.toList)).page

end PageHarvest.Html
