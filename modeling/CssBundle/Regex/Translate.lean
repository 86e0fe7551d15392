import CssBundle.Regex.Property

/-!
# The meaning of a parse tree

`Ast.translate` applies the flags of a pattern to its tree and resolves its classes, giving the
`Pattern` that is matched. Flags set by `(?flags)` last to the end of the enclosing group, across
`|`; flags of `(?flags:...)` hold only inside it; a capture group restores the flags in force
before it.

Some trees cannot be used, and the first such node in reading order is reported: an unknown
Unicode property or value, and, with Unicode mode off (`(?-u)`), anything that could match
part of a character: a byte escape above `\x7F`, `.`, a complemented Perl or ASCII class, a
Unicode class, a character beyond ASCII inside a class, or a class that would hold a byte above
`0x7F` once negated. A character beyond ASCII outside a class stands for itself.
-/

namespace CssBundle.Regex

open CssBundle.Unicode

/-- The flags in force while a tree is given meaning. -/
structure Flags where
  fold : Bool := false
  multiline : Bool := false
  dotNewline : Bool := false
  swapGreed : Bool := false
  crlf : Bool := false
  unicode : Bool := true
  deriving Repr, Inhabited

/-- Turn one flag on or off; the flag `x` only changes how the text reads. -/
def Flags.set (f : Flags) (item : FlagItem) : Flags :=
  match item.name with
  | .fold => { f with fold := item.on }
  | .multiline => { f with multiline := item.on }
  | .dotNewline => { f with dotNewline := item.on }
  | .swapGreed => { f with swapGreed := item.on }
  | .verbose => f
  | .crlf => { f with crlf := item.on }
  | .unicode => { f with unicode := item.on }

def Flags.apply (f : Flags) (items : List FlagItem) : Flags :=
  items.foldl Flags.set f

def Flags.caseFold (f : Flags) : Fold :=
  if !f.fold then .exact else if f.unicode then .simple else .ascii

def meaningFault {α : Type} (kind : SyntaxFault) (span : Span) : Except SyntaxError α :=
  .error { fault := kind, span }

def PerlKind.asciiSet : PerlKind → CharSet
  | .digit => .range '0' '9'
  | .space => .union [.range '\t' '\r', .range ' ' ' ']
  | .word => .union [.range '0' '9', .range 'A' 'Z', .range 'a' 'z', .range '_' '_']

def PerlKind.unicodeSet : PerlKind → CharSet
  | .digit => .table digitRanges
  | .space => .table spaceRanges
  | .word => .table wordRanges

def CharSet.negateIf (negated : Bool) (s : CharSet) : CharSet :=
  if negated then .complement s else s

/-- The character a literal stands for in a sequence under the flags. Without Unicode mode a
byte escape above `0x7F` could match half a character; any other character stands for itself,
and only an ASCII letter has its case ignored. -/
def Literal.scalar (lit : Literal) (f : Flags) : Except SyntaxError Char :=
  if !f.unicode && lit.byte && lit.c.toNat ≥ 0x80 then meaningFault .invalidUtf8 lit.span
  else .ok lit.c

/-- The character a literal stands for as a member of a class under the flags. Without Unicode
mode a class holds bytes: a byte escape above `0x7F` could match half a character, and any other
character beyond ASCII has no meaning. -/
def Literal.char (lit : Literal) (f : Flags) : Except SyntaxError Char :=
  if f.unicode || lit.c.toNat < 0x80 then .ok lit.c
  else if lit.byte then meaningFault .invalidUtf8 lit.span
  else meaningFault .unicodeNotAllowed lit.span

def perlSet (f : Flags) (span : Span) (kind : PerlKind) (negated : Bool) :
    Except SyntaxError CharSet :=
  if f.unicode then .ok (kind.unicodeSet.negateIf negated)
  else if negated then meaningFault .invalidUtf8 span
  else .ok kind.asciiSet

def unicodeSet (f : Flags) (span : Span) (capital : Bool) (query : PropertyQuery) :
    Except SyntaxError CharSet :=
  if !f.unicode then meaningFault .unicodeNotAllowed span
  else
    match query.set with
    | .ok s => .ok (s.negateIf (query.negates capital))
    | .error kind => meaningFault kind span

/-- A bracketed class under the flags: without Unicode mode it must hold no byte above `0x7F`
once case is folded and it is negated. -/
def bracketedSet (f : Flags) (span : Span) (negated : Bool) (inner : CharSet) :
    Except SyntaxError CharSet :=
  let s := inner.negateIf negated
  if !f.unicode && s.holds f.caseFold (Char.ofNat 0x80) then meaningFault .invalidUtf8 span
  else .ok s

mutual

def ClassItem.translate (f : Flags) : ClassItem → Except SyntaxError CharSet
  | .empty _ => .ok CharSet.none
  | .literal lit => do
    let c ← lit.char f
    return .single c
  | .range _ first last => do
    let a ← first.char f
    let b ← last.char f
    return .range a b
  | .ascii span ranges negated =>
    if !f.unicode && negated then meaningFault .invalidUtf8 span
    else .ok ((CharSet.union (ranges.map fun (a, b) => .range a b)).negateIf negated)
  | .unicode span capital query => unicodeSet f span capital query
  | .perl span kind negated => perlSet f span kind negated
  | .bracketed span negated set => do
    let inner ← set.translate f
    bracketedSet f span negated inner
  | .union _ items => do
    let sets ← ClassItem.translateAll f items
    return .union sets

def ClassItem.translateAll (f : Flags) : List ClassItem → Except SyntaxError (List CharSet)
  | [] => .ok []
  | i :: rest => do
    let s ← i.translate f
    let ss ← ClassItem.translateAll f rest
    return s :: ss

def ClassSet.translate (f : Flags) : ClassSet → Except SyntaxError CharSet
  | .item i => i.translate f
  | .op _ kind lhs rhs => do
    let a ← lhs.translate f
    let b ← rhs.translate f
    return match kind with
      | .inter => .complement (.union [.complement a, .complement b])
      | .diff => .complement (.union [.complement a, b])
      | .symm =>
        .union [.complement (.union [.complement a, b]), .complement (.union [.complement b, a])]

end

def dotSet (f : Flags) (span : Span) : Except SyntaxError CharSet :=
  if !f.unicode then meaningFault .invalidUtf8 span
  else if f.dotNewline then .ok (.range '\x00' (Char.ofNat 0x10FFFF))
  else if f.crlf then .ok (.complement (.union [.single '\n', .single '\r']))
  else .ok (.complement (.single '\n'))

def AssertionKind.look (f : Flags) : AssertionKind → Look
  | .startLine => if f.multiline then .lineStart f.crlf else .textStart
  | .endLine => if f.multiline then .lineEnd f.crlf else .textEnd
  | .startText => .textStart
  | .endText => .textEnd
  | .wordBoundary => .wordBoundary f.unicode false
  | .notWordBoundary => .wordBoundary f.unicode true
  | .wordStart => .wordStart f.unicode
  | .wordEnd => .wordEnd f.unicode
  | .wordStartHalf => .wordStartHalf f.unicode
  | .wordEndHalf => .wordEndHalf f.unicode

mutual

/-- The pattern a tree stands for under the flags, with the flags in force after it. -/
def Ast.translate (f : Flags) : Ast → Except SyntaxError (Pattern × Flags)
  | .empty _ => .ok (.empty, f)
  | .flags _ items => .ok (.empty, f.apply items)
  | .literal lit => do
    let c ← lit.scalar f
    return (.char (.single c) f.caseFold, f)
  | .dot span => do
    let s ← dotSet f span
    return (.char s .exact, f)
  | .assertion _ kind => .ok (.look (kind.look f), f)
  | .unicodeClass span capital query => do
    let s ← unicodeSet f span capital query
    return (.char s f.caseFold, f)
  | .perlClass span kind negated => do
    let s ← perlSet f span kind negated
    return (.char s .exact, f)
  | .bracketed span negated set => do
    let inner ← set.translate f
    let s ← bracketedSet f span negated inner
    return (.char s f.caseFold, f)
  | .repetition _ kind greedy ast => do
    let (body, _) ← ast.translate f
    let (lo, hi) := kind.bounds
    return (body.repeat lo hi (greedy != f.swapGreed), f)
  | .group _ (.capture index) ast => do
    let (body, _) ← ast.translate f
    return (.capture index body, f)
  | .group _ (.plain items) ast => do
    let (body, _) ← ast.translate (f.apply items)
    return (body, f)
  | .alternation _ asts => do
    let (ps, f') ← Ast.translateAll f asts
    return (.alt ps, f')
  | .concat _ asts => do
    let (ps, f') ← Ast.translateAll f asts
    return (.concat ps, f')

/-- The patterns of trees in order, each read under the flags the one before left. -/
def Ast.translateAll (f : Flags) : List Ast → Except SyntaxError (List Pattern × Flags)
  | [] => .ok ([], f)
  | a :: rest => do
    let (p, f') ← a.translate f
    let (ps, f'') ← Ast.translateAll f' rest
    return (p :: ps, f'')

end

end CssBundle.Regex
