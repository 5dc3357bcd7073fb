import PageHarvest.Css.Token

namespace PageHarvest.Css

/-- A token, with what stands between it and its closing bracket if it opens one. -/
inductive Component
  | single (token : Token)
  | block (opening : Token) (content : List Component)
deriving Repr, Inhabited

namespace Component

def token : Component → Token
  | single t => t
  | block t _ => t

mutual

/-- The first token that no style sheet may hold, looking into blocks. -/
def faulty? : Component → Option Token
  | single t => if t.isFaulty then some t else none
  | block _ content => firstFaulty? content

def firstFaulty? : List Component → Option Token
  | [] => none
  | c :: cs => c.faulty? <|> firstFaulty? cs

end

end Component

/-- A block that is still open: what stands before it, last first, and the token that opens it. -/
structure OpenBlock where
  before : List Component
  opening : Token
  closing : Token

def closeAll (content : List Component) : List OpenBlock → List Component
  | [] => content.reverse
  | b :: bs => closeAll (.block b.opening content.reverse :: b.before) bs

/--
Matches brackets. `content` is what the innermost open block holds so far, last first. A closing
bracket that does not fit that block is a component of its own.
-/
def nestInto (content : List Component) (stack : List OpenBlock) : List Token → List Component
  | [] => closeAll content stack
  | t :: ts =>
    match t.closer?, stack with
    | some closing, _ => nestInto [] (⟨content, t, closing⟩ :: stack) ts
    | none, b :: bs =>
      if t = b.closing then nestInto (.block b.opening content.reverse :: b.before) bs ts
      else nestInto (.single t :: content) stack ts
    | none, [] => nestInto (.single t :: content) stack ts

def nest (ts : List Token) : List Component :=
  nestInto [] [] ts

end PageHarvest.Css
