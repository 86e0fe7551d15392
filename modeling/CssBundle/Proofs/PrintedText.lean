import Mathlib
import CssBundle.Css.Printer

/-!
# The printed text

The expanded printer writes into an `Output` that also tracks lines, columns and marks. For
reading the text back only the characters matter, so this module gives them as plain lists:
`Rule.chars` is the text of a rule after its indentation, `braced` the text of a block around
its printed entries, and `sheetChars` the text of a whole stylesheet.

Main statements: `text_writeRule`, the printer appends the indentation and `Rule.chars` of the
rule, and `render_toList`, the rendered text of a stylesheet is `sheetChars` of its rules.
-/

namespace CssBundle.Css

/-- The indentation of a nesting depth: two spaces per level. -/
def indentChars (depth : Nat) : List Char := List.replicate (2 * depth) ' '

/-- A block around the printed entries `inner` of a rule at a nesting depth: `{}` when there
are none, else the entries on lines of their own and the closing brace under the rule. -/
def braced (depth : Nat) (inner : List Char) : List Char :=
  if inner = [] then ['{', '}'] else '{' :: '\n' :: inner ++ indentChars depth ++ ['}']

/-- The start of a printed at-rule: `@`, the name, and the prelude after a space if there is
one. -/
def atHead (name prelude : String) : List Char :=
  '@' :: name.toList ++ if prelude.isEmpty then [] else ' ' :: prelude.toList

def Rule.chars (depth : Nat) : Rule → List Char
  | .style selector body _ => selector.toList ++ ' ' :: braced depth (itemsChars depth body)
  | .atRule name prelude none _ => atHead name prelude ++ [';']
  | .atRule name prelude (some body) _ =>
    atHead name prelude ++ ' ' :: braced depth (itemsChars depth body)
  | .comment text _ => '/' :: '*' :: text.toList ++ ['*', '/']
where
  /-- The printed entries of a block whose rule stands at a nesting depth, one per line. -/
  itemsChars (depth : Nat) : List Item → List Char
    | [] => []
    | .decl property value _ :: rest =>
      indentChars (depth + 1) ++ property.toList ++ ':' :: ' ' :: value.toList ++ ';' :: '\n' ::
        itemsChars depth rest
    | .rule r :: rest => indentChars (depth + 1) ++ chars (depth + 1) r ++ '\n' :: itemsChars depth rest

/-- The printed text of the top-level rules: a blank line between two, a line feed at the end. -/
def sheetChars : List Rule → List Char
  | [] => []
  | [r] => r.chars 0 ++ ['\n']
  | r :: r' :: rest => r.chars 0 ++ '\n' :: '\n' :: sheetChars (r' :: rest)

open Rule

theorem itemsChars_eq_nil {depth : Nat} {items : List Item} :
    chars.itemsChars depth items = [] ↔ items = [] := by
  cases items with
  | nil => simp [chars.itemsChars]
  | cons i rest => cases i <;> simp [chars.itemsChars, indentChars]

namespace Output

@[simp] theorem text_push (o : Output) (s : String) : (o.push s).text = o.text ++ s := rfl

@[simp] theorem text_mark (o : Output) (span : Span) : (o.mark span).text = o.text := rfl

@[simp] theorem toList_text_indent (o : Output) (depth : Nat) :
    (o.indent depth).text.toList = o.text.toList ++ indentChars depth := by
  simp [indent, indentChars]

end Output

/-- The printer appends a rule's indentation and its printed text; a block appends `braced`
around its entries, and the entries append `itemsChars`. -/
theorem text_writeRule (depth : Nat) (o : Output) (r : Rule) :
    (writeRule depth o r).text.toList = o.text.toList ++ indentChars depth ++ r.chars depth := by
  refine writeRule.induct
    (fun depth o r => (writeRule depth o r).text.toList = o.text.toList ++ indentChars depth ++ r.chars depth)
    (fun depth o items => (writeBlock depth o items).text.toList =
      o.text.toList ++ braced depth (chars.itemsChars depth items))
    (fun depth o items => (writeItems depth o items).text.toList =
      o.text.toList ++ chars.itemsChars depth items)
    ?style ?atBlock ?atStatement ?comment ?emptyBlock ?block ?noItems ?decl ?rule depth o r
  case style =>
    intro depth o selector body span ih
    rw [writeRule, ih]
    simp [Rule.chars]
  case atBlock =>
    intro depth o name prelude span o₁ o₂ items ih
    simp only [o₂, o₁, dite_eq_ite] at ih
    rw [writeRule, ih]
    by_cases hp : prelude.isEmpty = true <;> simp [Rule.chars, atHead, hp]
  case atStatement =>
    intro depth o name prelude span
    rw [writeRule]
    by_cases hp : prelude.isEmpty = true <;> simp [Rule.chars, atHead, hp]
  case comment =>
    intro depth o text span
    rw [writeRule]
    simp [Rule.chars]
  case emptyBlock =>
    intro depth o
    rw [writeBlock]
    simp [braced, chars.itemsChars]
  case block =>
    intro depth o items hne ih
    rw [writeBlock.eq_2 _ _ _ hne, Output.text_push, String.toList_append, Output.toList_text_indent, ih]
    have hinner : chars.itemsChars depth items ≠ [] := fun h => hne (itemsChars_eq_nil.mp h)
    simp [braced, hinner]
  case noItems =>
    intro depth o
    simp [writeItems, chars.itemsChars]
  case decl =>
    intro depth o property value span rest o₁ ih
    simp only [o₁] at ih
    rw [writeItems, ih]
    simp [chars.itemsChars]
  case rule =>
    intro depth o r rest ihr ih
    rw [writeItems, ih, Output.text_push, String.toList_append, ihr]
    simp [chars.itemsChars]

theorem text_writeRules (o : Output) (rules : List Rule) (h : rules ≠ []) :
    (writeRules o rules).text.toList ++ ['\n'] = o.text.toList ++ sheetChars rules := by
  induction rules generalizing o with
  | nil => exact absurd rfl h
  | cons r rest ih =>
    cases rest with
    | nil => simp [writeRules, text_writeRule, sheetChars, indentChars]
    | cons r' rest =>
      rw [writeRules.eq_3 _ _ _ (by simp), ih _ (by simp)]
      simp [text_writeRule, sheetChars, indentChars]

theorem render_toList (s : Stylesheet) : s.render.toList = sheetChars s.rules := by
  unfold Stylesheet.render Stylesheet.write
  cases h : s.rules with
  | nil => simp [writeRules, sheetChars]
  | cons r rest =>
    have := text_writeRules {} (r :: rest) (by simp)
    simpa using this

end CssBundle.Css
