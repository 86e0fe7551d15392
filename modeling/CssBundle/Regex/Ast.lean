import CssBundle.Regex.Syntax

/-!
# The parse tree of search patterns

Reading a pattern produces an `Ast`: the pattern as written, every node with the columns it
covers. Flags are items of the tree, not yet applied, and classes keep their structure (unions,
ranges, set operations, nested classes), so that faults of meaning can be reported later with the
columns of the node they concern.

A tree may not nest deeper than `nestLimit`: groups, repetitions, alternations, sequences of two
or more items and bracketed classes (with their unions and set operations) each count one level.
`Ast.nestFault?` finds the first node, in the order the text is read, that lies too deep.
-/

namespace CssBundle.Regex

/-- The flags a pattern can set. -/
inductive FlagName where
  | fold
  | multiline
  | dotNewline
  | swapGreed
  | verbose
  | crlf
  | unicode
  deriving Repr, BEq, Inhabited

def FlagName.ofChar? : Char → Option FlagName
  | 'i' => some .fold
  | 'm' => some .multiline
  | 's' => some .dotNewline
  | 'U' => some .swapGreed
  | 'x' => some .verbose
  | 'R' => some .crlf
  | 'u' => some .unicode
  | _ => none

/-- A flag turned on or off by a flag group. -/
structure FlagItem where
  name : FlagName
  on : Bool
  deriving Repr, Inhabited

/-- A character written in a pattern, and whether it was written as a two-digit hexadecimal
escape `\xNN`, which stands for a byte when Unicode mode is off. -/
structure Literal where
  span : Span
  c : Char
  byte : Bool := false
  deriving Repr, Inhabited

/-- The three Perl classes. -/
inductive PerlKind where
  | digit
  | space
  | word
  deriving Repr, BEq, Inhabited

/-- The zero-width assertions. -/
inductive AssertionKind where
  /-- `^` -/
  | startLine
  /-- `$` -/
  | endLine
  /-- `\A` -/
  | startText
  /-- `\z` -/
  | endText
  /-- `\b` -/
  | wordBoundary
  /-- `\B` -/
  | notWordBoundary
  /-- `\<` or `\b{start}` -/
  | wordStart
  /-- `\>` or `\b{end}` -/
  | wordEnd
  /-- `\b{start-half}` -/
  | wordStartHalf
  /-- `\b{end-half}` -/
  | wordEndHalf
  deriving Repr, BEq, Inhabited

/-- What a Unicode class escape asks for: a one-letter name (`\pL`), a name (`\p{Greek}`) or a
property with a value (`\p{sc=Greek}`), where `!=` negates the class. -/
inductive PropertyQuery where
  | oneLetter (c : Char)
  | named (name : String)
  | byValue (name value : String) (notEqual : Bool)
  deriving Repr, Inhabited

/-- How many times a repetition repeats: `?`, `*`, `+`, or a counted range `{min,max}` where no
maximum means no bound. -/
inductive RepetitionKind where
  | zeroOrOne
  | zeroOrMore
  | oneOrMore
  | range (min : Nat) (max : Option Nat)
  deriving Repr, Inhabited

def RepetitionKind.bounds : RepetitionKind → Nat × Option Nat
  | .zeroOrOne => (0, some 1)
  | .zeroOrMore => (0, none)
  | .oneOrMore => (1, none)
  | .range lo hi => (lo, hi)

/-- A capture group with its index and maybe a name, or a group that captures nothing and sets
flags for its inside. -/
inductive GroupKind where
  | capture (index : Nat)
  | plain (flags : List FlagItem)
  deriving Repr, Inhabited

/-- How two operands of a class combine. -/
inductive SetOp where
  | inter
  | diff
  | symm
  deriving Repr, Inhabited

mutual

/-- A pattern as written. -/
inductive Ast where
  | empty (span : Span)
  | flags (span : Span) (items : List FlagItem)
  | literal (lit : Literal)
  | dot (span : Span)
  | assertion (span : Span) (kind : AssertionKind)
  | unicodeClass (span : Span) (negated : Bool) (query : PropertyQuery)
  | perlClass (span : Span) (kind : PerlKind) (negated : Bool)
  | bracketed (span : Span) (negated : Bool) (set : ClassSet)
  | repetition (span : Span) (kind : RepetitionKind) (greedy : Bool) (ast : Ast)
  | group (span : Span) (kind : GroupKind) (ast : Ast)
  | alternation (span : Span) (asts : List Ast)
  | concat (span : Span) (asts : List Ast)
  deriving Repr, Inhabited

/-- A member of a bracketed class. -/
inductive ClassItem where
  | empty (span : Span)
  | literal (lit : Literal)
  | range (span : Span) (first last : Literal)
  | ascii (span : Span) (ranges : List (Char × Char)) (negated : Bool)
  | unicode (span : Span) (negated : Bool) (query : PropertyQuery)
  | perl (span : Span) (kind : PerlKind) (negated : Bool)
  | bracketed (span : Span) (negated : Bool) (set : ClassSet)
  | union (span : Span) (items : List ClassItem)
  deriving Repr, Inhabited

/-- The inside of a bracketed class: members, or two operands of a set operation. -/
inductive ClassSet where
  | item (i : ClassItem)
  | op (span : Span) (kind : SetOp) (lhs rhs : ClassSet)
  deriving Repr, Inhabited

end

def Ast.span : Ast → Span
  | .empty s | .flags s _ | .dot s | .assertion s _ | .unicodeClass s _ _ | .perlClass s _ _
  | .bracketed s _ _ | .repetition s _ _ _ | .group s _ _ | .alternation s _ | .concat s _ => s
  | .literal lit => lit.span

def ClassItem.span : ClassItem → Span
  | .empty s | .range s _ _ | .ascii s _ _ | .unicode s _ _ | .perl s _ _ | .bracketed s _ _
  | .union s _ => s
  | .literal lit => lit.span

def ClassSet.span : ClassSet → Span
  | .item i => i.span
  | .op s _ _ _ => s

def nestLimit : Nat := 250

def firstFault (a : Option SyntaxError) (b : Unit → Option SyntaxError) : Option SyntaxError :=
  match a with
  | some e => some e
  | none => b ()

def deeper (depth : Nat) (span : Span) : Option SyntaxError :=
  if depth + 1 > nestLimit then some { fault := .nestLimitExceeded, span } else none

mutual

/-- The first node of a pattern, in reading order, that lies deeper than the limit, the pattern
itself standing at depth `depth`. -/
def Ast.nestFault? (depth : Nat) : Ast → Option SyntaxError
  | .empty _ | .flags _ _ | .literal _ | .dot _ | .assertion _ _ | .unicodeClass _ _ _
  | .perlClass _ _ _ => none
  | .bracketed span _ set =>
    firstFault (deeper depth span) fun _ => set.nestFault? (depth + 1)
  | .repetition span _ _ ast =>
    firstFault (deeper depth span) fun _ => ast.nestFault? (depth + 1)
  | .group span _ ast =>
    firstFault (deeper depth span) fun _ => ast.nestFault? (depth + 1)
  | .alternation span asts =>
    firstFault (deeper depth span) fun _ => Ast.nestFaultAll (depth + 1) asts
  | .concat span asts =>
    firstFault (deeper depth span) fun _ => Ast.nestFaultAll (depth + 1) asts

def Ast.nestFaultAll (depth : Nat) : List Ast → Option SyntaxError
  | [] => none
  | a :: rest => firstFault (a.nestFault? depth) fun _ => Ast.nestFaultAll depth rest

def ClassSet.nestFault? (depth : Nat) : ClassSet → Option SyntaxError
  | .item i => i.nestFault? depth
  | .op span _ lhs rhs =>
    firstFault (deeper depth span) fun _ =>
      firstFault (lhs.nestFault? (depth + 1)) fun _ => rhs.nestFault? (depth + 1)

def ClassItem.nestFault? (depth : Nat) : ClassItem → Option SyntaxError
  | .empty _ | .literal _ | .range _ _ _ | .ascii _ _ _ | .unicode _ _ _ | .perl _ _ _ => none
  | .bracketed span _ set =>
    firstFault (deeper depth span) fun _ => set.nestFault? (depth + 1)
  | .union span items =>
    firstFault (deeper depth span) fun _ => ClassItem.nestFaultAll (depth + 1) items

def ClassItem.nestFaultAll (depth : Nat) : List ClassItem → Option SyntaxError
  | [] => none
  | i :: rest => firstFault (i.nestFault? depth) fun _ => ClassItem.nestFaultAll depth rest

end

/-- The sequence of items read, in order, as one node: nothing is an empty node over the given
columns, one item stands for itself. -/
def concatOf (span : Span) : List Ast → Ast
  | [] => .empty span
  | [a] => a
  | items => .concat span items

/-- The branches read, in order, as one node: one branch stands for itself. -/
def alternationOf (span : Span) : List Ast → Ast
  | [] => .empty span
  | [a] => a
  | branches => .alternation span branches

def unionOf (span : Span) : List ClassItem → ClassItem
  | [] => .empty span
  | [i] => i
  | items => .union span items

end CssBundle.Regex
