/-!
# Blank characters

The stylesheet reader, the printers and the excerpt renderer all treat as blank exactly the
characters that carry the Unicode property `White_Space`: the ASCII tab, line feed, vertical tab,
form feed, carriage return and space, and eighteen characters beyond ASCII. Trimming removes
blank characters from one or both ends of a text.
-/

namespace CssBundle.Text

def isBlank (c : Char) : Bool :=
  let n := c.toNat
  (0x09 ≤ n && n ≤ 0x0D) || n == 0x20 || n == 0x85 || n == 0xA0 || n == 0x1680 ||
    (0x2000 ≤ n && n ≤ 0x200A) || n == 0x2028 || n == 0x2029 || n == 0x202F ||
    n == 0x205F || n == 0x3000

theorem isBlank_space : isBlank ' ' = true := rfl

theorem isBlank_newline : isBlank '\n' = true := rfl

def dropBlank (cs : List Char) : List Char := cs.dropWhile isBlank

def dropBlankEnd (cs : List Char) : List Char := ((cs.reverse).dropWhile isBlank).reverse

def trimChars (cs : List Char) : List Char := dropBlankEnd (dropBlank cs)

def trim (s : String) : String := String.ofList (trimChars s.toList)

def trimStart (s : String) : String := String.ofList (dropBlank s.toList)

def trimEnd (s : String) : String := String.ofList (dropBlankEnd s.toList)

theorem dropBlank_head {cs : List Char} {c : Char} {rest : List Char}
    (h : dropBlank cs = c :: rest) : isBlank c = false := by
  unfold dropBlank at h
  induction cs with
  | nil => simp at h
  | cons x xs ih =>
    by_cases hx : isBlank x = true
    · exact ih (by simpa [List.dropWhile, hx] using h)
    · simp [List.dropWhile, hx] at h
      exact h.1 ▸ by simpa using hx

end CssBundle.Text
