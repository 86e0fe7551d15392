import Mathlib
import CssBundle.Proofs.PrintedText
import CssBundle.Proofs.SpanPlaces
import CssBundle.Proofs.Upstream

/-!
# Where the printer marks rules and declarations

While it writes a stylesheet, the printer keeps the line and UTF-16 column after the text
written so far, and marks each rule and declaration right before writing it. The line and column
are always the position after the text (`Output.Good`), so each mark records the position where
its node's printed text begins, which is where `locate` puts that byte offset. Some text is
written after every mark before the next one, so the marked positions strictly increase
(`Output.Tracked`).

Recording the marks into a source map builder adds one mapping per mark, in order, each pointing
at the start of its node's span in the source the builder lists for it.

Main statement: `renderWithMap_marks`.
-/

namespace CssBundle.LineColumn

theorem le_of_lt {a b : LineColumn} (h : a.lt b = true) : a.le b = true := by
  simp only [lt, le, Bool.or_eq_true, decide_eq_true_eq, Bool.and_eq_true, beq_iff_eq] at h ⊢
  omega

theorem lt_of_lt_of_le {a b c : LineColumn} (hab : a.lt b = true) (hbc : b.le c = true) :
    a.lt c = true := by
  simp only [lt, le, Bool.or_eq_true, decide_eq_true_eq, Bool.and_eq_true, beq_iff_eq] at hab hbc ⊢
  omega

theorem lt_of_le_of_lt {a b c : LineColumn} (hab : a.le b = true) (hbc : b.lt c = true) :
    a.lt c = true := by
  simp only [lt, le, Bool.or_eq_true, decide_eq_true_eq, Bool.and_eq_true, beq_iff_eq] at hab hbc ⊢
  omega

end CssBundle.LineColumn

namespace CssBundle.Css

open Text SourceMap

/-! ## Positions after a text -/

/-- The line and UTF-16 column after a text: its line feeds, and the length of its last row. -/
def textPosition (cs : List Char) : LineColumn := ⟨cs.count '\n', length16 (lastRow cs)⟩

theorem textPosition_snoc (cs : List Char) (c : Char) :
    textPosition (cs ++ [c]) = if c = '\n' then ⟨(textPosition cs).line + 1, 0⟩
      else ⟨(textPosition cs).line, (textPosition cs).column + units16 c⟩ := by
  by_cases hc : c = '\n'
  · subst hc
    simp [textPosition, lastRow_append_newline]
  · simp [textPosition, lastRow_append_of_ne hc, hc]

theorem textPosition_lt_snoc (cs : List Char) (c : Char) :
    (textPosition cs).lt (textPosition (cs ++ [c])) = true := by
  have hunits : 0 < units16 c := by
    unfold units16
    split <;> omega
  rw [textPosition_snoc]
  split
  · simp [LineColumn.lt]
  · simpa [LineColumn.lt] using hunits

theorem textPosition_le_append (p q : List Char) :
    (textPosition p).le (textPosition (p ++ q)) = true := by
  induction q using List.reverseRecOn with
  | nil => simpa using LineColumn.le_refl _
  | append_singleton q c ih =>
    rw [← List.append_assoc]
    exact LineColumn.le_trans ih (LineColumn.le_of_lt (textPosition_lt_snoc _ c))

theorem textPosition_lt_append (p : List Char) {q : List Char} (hq : q ≠ []) :
    (textPosition p).lt (textPosition (p ++ q)) = true := by
  obtain ⟨c, q', rfl⟩ := List.exists_cons_of_ne_nil hq
  rw [← List.singleton_append, ← List.append_assoc]
  exact LineColumn.lt_of_lt_of_le (textPosition_lt_snoc p c) (textPosition_le_append _ q')

theorem locate_lineColumn {out : String} {pre rest : List Char} (h : out.toList = pre ++ rest) :
    (locate out (byteLength pre)).map Location.lineColumn = some (textPosition pre) := by
  rw [locate, h, prefixBytes_append]
  rfl

/-- The printer's running line and column, character by character, is the position after the
text. -/
theorem foldl_position (cs p : List Char) :
    cs.foldl (fun (lc : Nat × Nat) c => if c = '\n' then (lc.1 + 1, 0) else (lc.1, lc.2 + units16 c))
      ((textPosition p).line, (textPosition p).column) =
      ((textPosition (p ++ cs)).line, (textPosition (p ++ cs)).column) := by
  induction cs generalizing p with
  | nil => simp
  | cons c cs ih =>
    have hstep : (if c = '\n' then ((textPosition p).line + 1, 0)
        else ((textPosition p).line, (textPosition p).column + units16 c)) =
        ((textPosition (p ++ [c])).line, (textPosition (p ++ [c])).column) := by
      rw [textPosition_snoc]
      split <;> rfl
    rw [List.foldl_cons]
    dsimp only
    rw [hstep, ih, List.append_assoc, List.singleton_append]

/-! ## What the printer keeps of its output -/

namespace Output

/-- The position an output stands at: its line and column. -/
def position (o : Output) : LineColumn := ⟨o.line, o.column⟩

def markPositions (o : Output) : List LineColumn := o.marks.toList.map (·.generated)

def Good (o : Output) : Prop := o.position = textPosition o.text.toList

theorem Good.push {o : Output} (h : o.Good) (s : String) : (o.push s).Good := by
  have hline : o.line = (textPosition o.text.toList).line := congrArg LineColumn.line h
  have hcol : o.column = (textPosition o.text.toList).column := congrArg LineColumn.column h
  have hfold := foldl_position s.toList o.text.toList
  rw [← hline, ← hcol] at hfold
  simp only [Good, position, Output.push, hfold, String.toList_append]

theorem position_push {o : Output} (h : o.Good) (s : String) :
    (o.push s).position = textPosition (o.text.toList ++ s.toList) := by
  rw [(h.push s : (o.push s).Good), text_push, String.toList_append]

@[simp] theorem markPositions_mark (o : Output) (span : Span) :
    (o.mark span).markPositions = o.markPositions ++ [o.position] := by
  simp [mark, markPositions, position]

theorem Good.mark {o : Output} (h : o.Good) (span : Span) : (o.mark span).Good := h

@[simp] theorem marks_push (o : Output) (s : String) : (o.push s).marks = o.marks := rfl

@[simp] theorem marks_indent (o : Output) (depth : Nat) : (o.indent depth).marks = o.marks := rfl

@[simp] theorem marks_mark (o : Output) (span : Span) :
    (o.mark span).marks.toList = o.marks.toList ++ [⟨o.position, span⟩] := by
  simp [mark, position]

theorem position_le_push {o : Output} (h : o.Good) (s : String) :
    o.position.le (o.push s).position = true := by
  rw [position_push h, h]
  exact textPosition_le_append _ _

theorem position_lt_push {o : Output} (h : o.Good) {s : String} (hs : s ≠ "") :
    o.position.lt (o.push s).position = true := by
  rw [position_push h, h]
  exact textPosition_lt_append _ (by simpa using hs)

/-- What the printer keeps of its output between two marks: the line and column are the
position after the text, the marked positions strictly increase, and the last mark lies
strictly before the current position. -/
structure Tracked (o : Output) : Prop where
  good : o.Good
  increasing : o.markPositions.IsChain fun a b => a.lt b = true
  before : ∀ g ∈ o.markPositions.getLast?, g.lt o.position = true

/-- What the printer keeps right after a mark: the last mark may stand at the current
position. -/
structure Marked (o : Output) : Prop where
  good : o.Good
  increasing : o.markPositions.IsChain fun a b => a.lt b = true
  atOrBefore : ∀ g ∈ o.markPositions.getLast?, g.le o.position = true

theorem Tracked.push {o : Output} (h : o.Tracked) (s : String) : (o.push s).Tracked where
  good := h.good.push s
  increasing := h.increasing
  before g hg := LineColumn.lt_of_lt_of_le (h.before g hg) (position_le_push h.good s)

theorem Tracked.indent {o : Output} (h : o.Tracked) (depth : Nat) : (o.indent depth).Tracked :=
  h.push _

theorem Tracked.mark {o : Output} (h : o.Tracked) (span : Span) : (o.mark span).Marked where
  good := h.good.mark span
  increasing := by
    rw [markPositions_mark]
    exact h.increasing.append (.singleton _) fun g hg _ hy => by
      cases hy
      exact h.before g hg
  atOrBefore g hg := by
    rw [markPositions_mark, List.getLast?_concat] at hg
    cases hg
    exact LineColumn.le_refl _

theorem Marked.push {o : Output} (h : o.Marked) (s : String) : (o.push s).Marked where
  good := h.good.push s
  increasing := h.increasing
  atOrBefore g hg := LineColumn.le_trans (h.atOrBefore g hg) (position_le_push h.good s)

theorem Marked.push_ne {o : Output} (h : o.Marked) {s : String} (hs : s ≠ "") :
    (o.push s).Tracked where
  good := h.good.push s
  increasing := h.increasing
  before g hg := LineColumn.lt_of_le_of_lt (h.atOrBefore g hg) (position_lt_push h.good hs)

end Output

/-- The head of an at-rule, as the printer writes it: indentation, mark, `@` and the name, then
the prelude after a space when there is one. What follows the mark moves past it. -/
theorem tracked_atHead {o : Output} (h : o.Tracked) (depth : Nat) (span : Span)
    (name prelude : String) :
    (if prelude.isEmpty = true then (((o.indent depth).mark span).push "@").push name
      else (((((o.indent depth).mark span).push "@").push name).push " ").push prelude).Tracked := by
  have h₁ := (((h.indent depth).mark span).push_ne (by decide : "@" ≠ "")).push name
  split
  · exact h₁
  · exact (h₁.push " ").push prelude

/-- Writing a rule, a block or the entries of a block keeps what the printer keeps: each mark is
followed by its node's first characters before anything else is marked. -/
theorem tracked_writeRule (depth : Nat) (o : Output) (r : Rule) (h : o.Tracked) :
    (writeRule depth o r).Tracked := by
  refine writeRule.induct
    (fun depth o r => o.Tracked → (writeRule depth o r).Tracked)
    (fun depth o items => o.Tracked → (writeBlock depth o items).Tracked)
    (fun depth o items => o.Tracked → (writeItems depth o items).Tracked)
    ?style ?atBlock ?atStatement ?comment ?emptyBlock ?block ?noItems ?decl ?rule depth o r h
  case style =>
    intro depth o selector body span ih h
    rw [writeRule]
    exact ih ((((h.indent depth).mark span).push selector).push_ne (by decide))
  case atBlock =>
    intro depth o name prelude span o₁ o₂ items ih h
    simp only [o₂, o₁, dite_eq_ite] at ih
    rw [writeRule]
    exact ih ((tracked_atHead h depth span name prelude).push " ")
  case atStatement =>
    intro depth o name prelude span h
    rw [writeRule]
    exact (tracked_atHead h depth span name prelude).push ";"
  case comment =>
    intro depth o text span h
    rw [writeRule]
    exact ((((h.indent depth).mark span).push_ne (by decide)).push text).push "*/"
  case emptyBlock =>
    intro depth o h
    rw [writeBlock]
    exact h.push _
  case block =>
    intro depth o items hne ih h
    rw [writeBlock.eq_2 _ _ _ hne]
    exact ((ih (h.push _)).indent depth).push _
  case noItems =>
    intro depth o h
    rw [writeItems]
    exact h
  case decl =>
    intro depth o property value span rest o₁ ih h
    simp only [o₁] at ih
    rw [writeItems]
    exact ih (((((h.indent (depth + 1)).mark span).push property).push_ne (by decide)).push value
      |>.push ";\n")
  case rule =>
    intro depth o r rest ihr ih h
    rw [writeItems]
    exact ih ((ihr h).push "\n")

/-! ## The marks stand where the nodes begin -/

theorem text_writeItems (depth : Nat) (o : Output) (items : List Item) :
    (writeItems depth o items).text.toList = o.text.toList ++ Rule.chars.itemsChars depth items := by
  induction items generalizing o with
  | nil => simp [writeItems, Rule.chars.itemsChars]
  | cons i rest ih =>
    cases i with
    | decl property value span =>
      rw [writeItems, ih]
      simp [Rule.chars.itemsChars]
    | rule r =>
      rw [writeItems, ih, Output.text_push, String.toList_append, text_writeRule]
      simp [Rule.chars.itemsChars]

mutual

/-- The nodes the printer marks in a rule at a nesting depth, in the order it marks them: the
rule, then the rules and declarations in its block, each with its span and its printed text. -/
def Rule.printedNodes (depth : Nat) : Rule → List (Span × List Char)
  | .style selector body span =>
    (span, (Rule.style selector body span).chars depth) :: Item.printedNodesOf depth body
  | .atRule name prelude (some body) span =>
    (span, (Rule.atRule name prelude (some body) span).chars depth) ::
      Item.printedNodesOf depth body
  | .atRule name prelude none span => [(span, (Rule.atRule name prelude none span).chars depth)]
  | .comment text span => [(span, (Rule.comment text span).chars depth)]

/-- The nodes the printer marks in the entries of a block whose rule stands at a nesting depth;
the printed text of a declaration is `property: value;`. -/
def Item.printedNodesOf (depth : Nat) : List Item → List (Span × List Char)
  | [] => []
  | .decl property value span :: rest =>
    (span, property.toList ++ ':' :: ' ' :: value.toList ++ [';']) ::
      Item.printedNodesOf depth rest
  | .rule r :: rest => r.printedNodes (depth + 1) ++ Item.printedNodesOf depth rest

end

def Stylesheet.printedNodes (s : Stylesheet) : List (Span × List Char) :=
  s.rules.flatMap (Rule.printedNodes 0)

/-- A mark stands where a node's printed text begins in a text `T`: the node's text follows a
first part of `T` whose position the mark records, and the mark carries the node's span. -/
def MarkAt (T : List Char) (mk : Mark) (node : Span × List Char) : Prop :=
  mk.span = node.1 ∧ ∃ pre, pre ++ node.2 <+: T ∧ mk.generated = textPosition pre

theorem MarkAt.append {T : List Char} {mk : Mark} {node : Span × List Char} (h : MarkAt T mk node)
    (U : List Char) : MarkAt (T ++ U) mk node := by
  obtain ⟨hspan, pre, hpre, hgen⟩ := h
  exact ⟨hspan, pre, hpre.trans (List.prefix_append T U), hgen⟩

/-- The mark made for a rule, after its indentation, stands where the rule's printed text
begins. -/
theorem markAt_rule {o : Output} (h : o.Good) (depth : Nat) (r : Rule) :
    MarkAt (writeRule depth o r).text.toList ⟨(o.indent depth).position, r.span⟩
      (r.span, r.chars depth) := by
  refine ⟨rfl, (o.indent depth).text.toList, ?_, h.push _⟩
  rw [text_writeRule, Output.toList_text_indent]

theorem marks_atHead (o : Output) (depth : Nat) (span : Span) (name prelude : String) :
    (if prelude.isEmpty = true then (((o.indent depth).mark span).push "@").push name
      else (((((o.indent depth).mark span).push "@").push name).push " ").push prelude).marks.toList =
      o.marks.toList ++ [⟨(o.indent depth).position, span⟩] := by
  split <;> simp

/-- The printer marks the nodes of a rule, a block or the entries of a block in the order it
writes them, each where its printed text begins in what it writes. -/
theorem marks_writeRule (depth : Nat) (o : Output) (r : Rule) (h : o.Tracked) :
    ∃ M, (writeRule depth o r).marks.toList = o.marks.toList ++ M ∧
      List.Forall₂ (MarkAt (writeRule depth o r).text.toList) M (r.printedNodes depth) := by
  refine writeRule.induct
    (fun depth o r => o.Tracked → ∃ M, (writeRule depth o r).marks.toList = o.marks.toList ++ M ∧
      List.Forall₂ (MarkAt (writeRule depth o r).text.toList) M (r.printedNodes depth))
    (fun depth o items => o.Tracked → ∃ M,
      (writeBlock depth o items).marks.toList = o.marks.toList ++ M ∧
      List.Forall₂ (MarkAt (writeBlock depth o items).text.toList) M (Item.printedNodesOf depth items))
    (fun depth o items => o.Tracked → ∃ M,
      (writeItems depth o items).marks.toList = o.marks.toList ++ M ∧
      List.Forall₂ (MarkAt (writeItems depth o items).text.toList) M (Item.printedNodesOf depth items))
    ?style ?atBlock ?atStatement ?comment ?emptyBlock ?block ?noItems ?decl ?rule depth o r h
  case style =>
    intro depth o selector body span ih h
    obtain ⟨M, hmarks, hM⟩ := ih ((((h.indent depth).mark span).push selector).push_ne (by decide))
    refine ⟨⟨(o.indent depth).position, span⟩ :: M, ?_, ?_⟩
    · rw [writeRule, hmarks]
      simp
    · rw [Rule.printedNodes]
      refine .cons (markAt_rule h.good depth (.style selector body span)) ?_
      rw [writeRule]
      exact hM
  case atBlock =>
    intro depth o name prelude span o₁ o₂ items ih h
    simp only [o₂, o₁, dite_eq_ite] at ih
    obtain ⟨M, hmarks, hM⟩ := ih ((tracked_atHead h depth span name prelude).push " ")
    refine ⟨⟨(o.indent depth).position, span⟩ :: M, ?_, ?_⟩
    · rw [writeRule, hmarks, Output.marks_push, marks_atHead]
      simp
    · rw [Rule.printedNodes]
      refine .cons (markAt_rule h.good depth (.atRule name prelude (some items) span)) ?_
      rw [writeRule]
      exact hM
  case atStatement =>
    intro depth o name prelude span h
    refine ⟨[⟨(o.indent depth).position, span⟩], ?_, ?_⟩
    · rw [writeRule, Output.marks_push, marks_atHead]
    · rw [Rule.printedNodes]
      exact .cons (markAt_rule h.good depth (.atRule name prelude none span)) .nil
  case comment =>
    intro depth o text span h
    refine ⟨[⟨(o.indent depth).position, span⟩], ?_, ?_⟩
    · rw [writeRule]
      simp
    · rw [Rule.printedNodes]
      exact .cons (markAt_rule h.good depth (.comment text span)) .nil
  case emptyBlock =>
    intro depth o h
    exact ⟨[], by simp [writeBlock], by simp [Item.printedNodesOf]⟩
  case block =>
    intro depth o items hne ih h
    obtain ⟨M, hmarks, hM⟩ := ih (h.push _)
    refine ⟨M, ?_, ?_⟩
    · rw [writeBlock.eq_2 _ _ _ hne, Output.marks_push, Output.marks_indent, hmarks]
      rfl
    · rw [writeBlock.eq_2 _ _ _ hne, Output.text_push, String.toList_append,
        Output.toList_text_indent]
      exact hM.imp fun mk node hmk => (hmk.append _).append _
  case noItems =>
    intro depth o h
    exact ⟨[], by simp [writeItems], by simp [Item.printedNodesOf]⟩
  case decl =>
    intro depth o property value span rest o₁ ih h
    simp only [o₁] at ih
    obtain ⟨M, hmarks, hM⟩ := ih (((((h.indent (depth + 1)).mark span).push property).push_ne
      (by decide)).push value |>.push ";\n")
    refine ⟨⟨(o.indent (depth + 1)).position, span⟩ :: M, ?_, ?_⟩
    · rw [writeItems, hmarks]
      simp
    · rw [Item.printedNodesOf]
      refine .cons ⟨rfl, (o.indent (depth + 1)).text.toList, ?_, h.good.push _⟩ ?_
      · rw [writeItems, text_writeItems]
        exact ⟨'\n' :: Rule.chars.itemsChars depth rest, by simp⟩
      · rw [writeItems]
        exact hM
  case rule =>
    intro depth o r rest ihr ih h
    obtain ⟨Mr, hmarksr, hMr⟩ := ihr h
    obtain ⟨M, hmarks, hM⟩ := ih ((tracked_writeRule (depth + 1) o r h).push "\n")
    refine ⟨Mr ++ M, ?_, ?_⟩
    · rw [writeItems, hmarks, Output.marks_push, hmarksr, List.append_assoc]
    · rw [Item.printedNodesOf]
      refine List.rel_append ?_ ?_
      · rw [writeItems, text_writeItems, Output.text_push, String.toList_append]
        exact hMr.imp fun mk node hmk => (hmk.append _).append _
      · rw [writeItems]
        exact hM

mutual

theorem Rule.map_fst_printedNodes (depth : Nat) :
    ∀ r : Rule, (r.printedNodes depth).map Prod.fst = r.spans
  | .style _ body _ => by
    simp [Rule.printedNodes, Rule.spans, Item.map_fst_printedNodesOf depth body]
  | .atRule _ _ (some body) _ => by
    simp [Rule.printedNodes, Rule.spans, Item.map_fst_printedNodesOf depth body]
  | .atRule _ _ none _ => by simp [Rule.printedNodes, Rule.spans]
  | .comment _ _ => by simp [Rule.printedNodes, Rule.spans]

theorem Item.map_fst_printedNodesOf (depth : Nat) :
    ∀ items : List Item, (Item.printedNodesOf depth items).map Prod.fst = Item.spansOf items
  | [] => rfl
  | .decl _ _ _ :: rest => by
    simp [Item.printedNodesOf, Item.spansOf, Item.map_fst_printedNodesOf depth rest]
  | .rule r :: rest => by
    simp [Item.printedNodesOf, Item.spansOf, Rule.map_fst_printedNodes (depth + 1) r,
      Item.map_fst_printedNodesOf depth rest]

end

theorem map_fst_printedNodes (s : Stylesheet) : s.printedNodes.map Prod.fst = s.spans := by
  simp [Stylesheet.printedNodes, Stylesheet.spans, List.map_flatMap, Rule.map_fst_printedNodes]

/-! ## The top-level rules and the whole stylesheet -/

theorem MarkAt.mono {T T' : List Char} {mk : Mark} {node : Span × List Char} (h : MarkAt T mk node)
    (hT : T <+: T') : MarkAt T' mk node := by
  obtain ⟨U, rfl⟩ := hT
  exact h.append U

theorem prefix_writeRules (o : Output) (rules : List Rule) :
    o.text.toList <+: (writeRules o rules).text.toList := by
  induction rules generalizing o with
  | nil => exact List.prefix_refl _
  | cons r rest ih =>
    have hr : o.text.toList <+: ((writeRule 0 o r).push "\n\n").text.toList := by
      rw [Output.text_push, String.toList_append, text_writeRule, List.append_assoc,
        List.append_assoc]
      exact List.prefix_append _ _
    cases rest with
    | nil =>
      rw [writeRules, text_writeRule, List.append_assoc]
      exact List.prefix_append _ _
    | cons r' rest => exact hr.trans (ih _)

theorem tracked_writeRules (o : Output) (rules : List Rule) (h : o.Tracked) :
    (writeRules o rules).Tracked := by
  induction rules generalizing o with
  | nil => exact h
  | cons r rest ih =>
    cases rest with
    | nil => exact tracked_writeRule 0 o r h
    | cons r' rest => exact ih _ ((tracked_writeRule 0 o r h).push _)

theorem marks_writeRules (o : Output) (rules : List Rule) (h : o.Tracked) :
    ∃ M, (writeRules o rules).marks.toList = o.marks.toList ++ M ∧
      List.Forall₂ (MarkAt (writeRules o rules).text.toList) M (rules.flatMap (Rule.printedNodes 0)) := by
  induction rules generalizing o with
  | nil => exact ⟨[], by simp [writeRules], by simp⟩
  | cons r rest ih =>
    obtain ⟨Mr, hmarksr, hMr⟩ := marks_writeRule 0 o r h
    cases rest with
    | nil => exact ⟨Mr, hmarksr, by simpa [writeRules] using hMr⟩
    | cons r' rest =>
      obtain ⟨M, hmarks, hM⟩ := ih _ ((tracked_writeRule 0 o r h).push "\n\n")
      refine ⟨Mr ++ M, ?_, ?_⟩
      · rw [writeRules.eq_3 _ _ _ (by simp), hmarks, Output.marks_push, hmarksr,
          List.append_assoc]
      · rw [List.flatMap_cons]
        refine List.rel_append ?_ ?_
        · refine hMr.imp fun mk node hmk => hmk.mono ?_
          rw [writeRules.eq_3 _ _ _ (by simp)]
          refine List.IsPrefix.trans ?_ (prefix_writeRules _ _)
          rw [Output.text_push, String.toList_append]
          exact List.prefix_append _ _
        · rw [writeRules.eq_3 _ _ _ (by simp)]
          exact hM

theorem tracked_empty : (({} : Output)).Tracked where
  good := rfl
  increasing := by simp [Output.markPositions]
  before := by simp [Output.markPositions]

theorem tracked_write (s : Stylesheet) : s.write.Tracked := by
  unfold Stylesheet.write
  have h := tracked_writeRules {} s.rules tracked_empty
  split
  · exact h
  · exact h.push "\n"

theorem marks_write (s : Stylesheet) :
    List.Forall₂ (MarkAt s.render.toList) s.write.marks.toList s.printedNodes := by
  obtain ⟨M, hmarks, hM⟩ := marks_writeRules {} s.rules tracked_empty
  simp only [List.nil_append] at hmarks
  unfold Stylesheet.render Stylesheet.write Stylesheet.printedNodes
  split
  · rw [hmarks]
    exact hM
  · rw [Output.marks_push, hmarks, Output.text_push, String.toList_append]
    exact hM.imp fun mk node hmk => hmk.append _

/-! ## Recording the marks -/

theorem idxOf_intern (xs : List String) (x : String) : (intern xs x).1.idxOf x = (intern xs x).2 := by
  unfold intern
  split
  · next i h => exact (List.findIdx?_eq_some_iff_findIdx_eq.mp h).2
  · next h =>
    rw [List.idxOf_append_of_notMem (List.idxOf?_eq_none_iff.mp h)]
    simp

theorem idxOf_of_extension {S S' : List String} (h : S <+: S') {x : String} (hx : x ∈ S) :
    S'.idxOf x = S.idxOf x := by
  obtain ⟨T, rfl⟩ := h
  exact List.idxOf_append_of_mem hx

/-- One mark recorded into a builder: its source added, then a mapping from its position to the
start of its span in that source, with no name. -/
def recordMark (b : Builder) (m : Mark) : Builder :=
  (b.addSource m.span.source).1.addMapping
    ⟨m.generated, some ⟨(b.addSource m.span.source).2, m.span.start.lineColumn, none⟩⟩

theorem renderWithMap_eq (s : Stylesheet) (b : Builder) :
    s.renderWithMap b = (s.render, s.write.marks.toList.foldl recordMark b) := by
  unfold Stylesheet.renderWithMap
  dsimp only
  rw [← Array.foldl_toList]
  rfl

/-- Recording marks into a builder adds one mapping per mark, in order, each under the index of
its source in the sources the builder ends with. -/
theorem foldl_record (ms : List Mark) (b : Builder) :
    b.sources <+: (ms.foldl recordMark b).sources ∧
      (∀ m ∈ ms, m.span.source ∈ (ms.foldl recordMark b).sources) ∧
      (ms.foldl recordMark b).mappings.toList = b.mappings.toList ++ ms.map fun m =>
        ⟨m.generated, some ⟨(ms.foldl recordMark b).sources.idxOf m.span.source,
          m.span.start.lineColumn, none⟩⟩ := by
  induction ms generalizing b with
  | nil => simp
  | cons m ms ih =>
    rw [List.foldl_cons]
    obtain ⟨hpre, hmem, hmaps⟩ := ih (recordMark b m)
    obtain ⟨hsrc, hid⟩ := Builder.addSource_eq_intern b m.span.source
    have hin : m.span.source ∈ (intern b.sources m.span.source).1 := mem_intern.mpr (Or.inr rfl)
    have hpre' : (intern b.sources m.span.source).1 <+: (ms.foldl recordMark (recordMark b m)).sources := by
      simpa [recordMark, Builder.addMapping, hsrc] using hpre
    refine ⟨prefix_intern.trans hpre', ?_, ?_⟩
    · intro m' hm'
      rcases List.mem_cons.mp hm' with rfl | hm'
      · exact hpre'.subset hin
      · exact hmem m' hm'
    · have hidx : (ms.foldl recordMark (recordMark b m)).sources.idxOf m.span.source =
          (b.addSource m.span.source).2 := by
        rw [idxOf_of_extension hpre' hin, idxOf_intern, hid]
      rw [hmaps, List.map_cons, hidx]
      simp [recordMark, Builder.addMapping, Builder.mappings_addSource]

/-- A mapping marks a node of a printed text `out`: the node's printed text stands in `out` right
after a first part `pre`, the mapping's generated position is where `locate` puts the end of
`pre`, and its origin is the start of the node's span, under the index at which `sources` first
lists the span's source, with no name. -/
structure MarksNode (out : String) (sources : List String) (x : Mapping)
    (node : Span × List Char) : Prop where
  printed : ∃ pre post, out.toList = pre ++ node.2 ++ post ∧
    (locate out (byteLength pre)).map Location.lineColumn = some x.generated
  origin : x.origin = some ⟨sources.idxOf node.1.source, node.1.start.lineColumn, none⟩
  listed : sources[sources.idxOf node.1.source]? = some node.1.source

/-- Printing a stylesheet with a map gives the text printing alone gives, and adds to the
builder one mapping for each rule and declaration, in the order they are printed, which is
document order. Each maps the position where its node's printed text begins in the output (the
line and UTF-16 column `locate` gives for that byte offset) to the start of the node's span, in
the source the builder lists under the index `addSource` hands out for it, with no name. The
generated positions strictly increase. -/
theorem renderWithMap_marks (s : Stylesheet) (b : Builder) :
    (s.renderWithMap b).1 = s.render ∧ s.printedNodes.map Prod.fst = s.spans ∧
    ∃ ms, (s.renderWithMap b).2.mappings.toList = b.mappings.toList ++ ms ∧
      List.Forall₂ (MarksNode s.render (s.renderWithMap b).2.sources) ms s.printedNodes ∧
      (ms.map (·.generated)).IsChain fun g g' => g.lt g' = true := by
  rw [renderWithMap_eq]
  obtain ⟨-, hmem, hmaps⟩ := foldl_record s.write.marks.toList b
  refine ⟨rfl, map_fst_printedNodes s, _, hmaps, ?_, ?_⟩
  · have hM := marks_write s
    rw [List.forall₂_map_left_iff]
    rw [List.forall₂_iff_zip] at hM ⊢
    refine ⟨hM.1, fun {mk node} hz => ?_⟩
    obtain ⟨hspan, pre, ⟨post, hpost⟩, hgen⟩ := hM.2 hz
    have hin := hmem mk (List.of_mem_zip hz).1
    obtain ⟨span, text⟩ := node
    obtain rfl : mk.span = span := hspan
    refine ⟨⟨pre, post, hpost.symm, ?_⟩, rfl, ?_⟩
    · rw [locate_lineColumn (hpost.symm.trans (List.append_assoc _ _ _)), hgen]
    · exact List.getElem?_eq_some_iff.mpr ⟨List.idxOf_lt_length_iff.mpr hin,
        List.getElem_idxOf _⟩
  · have hpos : (List.map (fun m : Mark => (⟨m.generated, some ⟨(s.write.marks.toList.foldl
        recordMark b).sources.idxOf m.span.source, m.span.start.lineColumn, none⟩⟩ : Mapping))
        s.write.marks.toList).map (·.generated) = s.write.markPositions := by
      simp [Output.markPositions, Function.comp_def]
    rw [hpos]
    exact (tracked_write s).increasing

end CssBundle.Css
