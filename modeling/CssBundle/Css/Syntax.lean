import CssBundle.Location
import CssBundle.Css.Separate

/-!
# Stylesheets

A stylesheet is a list of rules. A rule is a style rule (a selector and a block), an at-rule (a
name, a prelude and either a block or nothing, when it is a statement ending in `;`), or a
comment. A block holds declarations (`property: value`) and nested rules. Every rule and
declaration remembers the stretch of text it was read from and the name of that text.

The selector count of a rule is what browsers limit per stylesheet: the number of top-level
comma-separated selectors of a style rule, plus those of every rule nested in its block.
-/

namespace CssBundle.Css

/-- The stretch of a named text that a rule or declaration was read from. -/
structure Span where
  source : String
  range : Range
  deriving Repr, BEq, DecidableEq, Inhabited

def Span.start (s : Span) : Location := s.range.start

mutual

/-- A rule of a stylesheet. -/
inductive Rule where
  | style (selector : String) (body : List Item) (span : Span)
  | atRule (name : String) (prelude : String) (body : Option (List Item)) (span : Span)
  | comment (text : String) (span : Span)

/-- An entry of a block: a declaration or a nested rule. -/
inductive Item where
  | decl (property : String) (value : String) (span : Span)
  | rule (r : Rule)

end

instance : Inhabited Rule := ⟨.comment "" default⟩

/-- A stylesheet: its file name and its rules. -/
structure Stylesheet where
  filename : String
  rules : List Rule
  deriving Inhabited

/-- The ASCII lowercase of a text; other characters are kept. -/
def asciiLower (s : String) : String := s.map Char.toLower

namespace Rule

def span : Rule → Span
  | .style _ _ s => s
  | .atRule _ _ _ s => s
  | .comment _ s => s

/-- The name of an at-rule in ASCII lowercase; other rules have none. -/
def atRuleName? : Rule → Option String
  | .atRule name _ _ _ => some (asciiLower name)
  | _ => none

def isImport (r : Rule) : Bool := r.atRuleName? == some "import"

def isCharset (r : Rule) : Bool := r.atRuleName? == some "charset"

def isComment : Rule → Bool
  | .comment _ _ => true
  | _ => false

def isStatement : Rule → Bool
  | .atRule _ _ none _ => true
  | _ => false

/-- A short description of a rule for messages: the selector, `@name prelude`, or
`a comment`. -/
def describe : Rule → String
  | .style selector _ _ => selector
  | .atRule name prelude _ _ => if prelude.isEmpty then "@" ++ name else "@" ++ name ++ " " ++ prelude
  | .comment _ _ => "a comment"

/-- The same rule with its span, and the spans inside it, given a new source name. -/
def withSource (src : String) : Rule → Rule
  | .style sel body s => .style sel (itemsWithSource src body) { s with source := src }
  | .atRule n p none s => .atRule n p none { s with source := src }
  | .atRule n p (some body) s => .atRule n p (some (itemsWithSource src body)) { s with source := src }
  | .comment t s => .comment t { s with source := src }
where
  itemsWithSource (src : String) : List Item → List Item
    | [] => []
    | .decl p v s :: rest => .decl p v { s with source := src } :: itemsWithSource src rest
    | .rule r :: rest => .rule (withSource src r) :: itemsWithSource src rest

end Rule

mutual

/-- The number of selectors a rule counts for: the top-level selectors of a style rule plus
those of the rules nested in its block. -/
def Rule.selectorCount : Rule → Nat
  | .style selector body _ => (splitTopLevel selector ',').length + Item.selectorCountOf body
  | .atRule _ _ (some body) _ => Item.selectorCountOf body
  | .atRule _ _ none _ => 0
  | .comment _ _ => 0

def Item.selectorCountOf : List Item → Nat
  | [] => 0
  | .decl _ _ _ :: rest => Item.selectorCountOf rest
  | .rule r :: rest => r.selectorCount + Item.selectorCountOf rest

end

end CssBundle.Css
