import ParenTokens.Text.CodePoint

namespace ParenTokens

/-!
# Blanks

* `CodePoint.isBlank`: the code points that separate tokens (the White_Space property of Unicode 14).
-/

/-- The controls from tab to carriage return, U+0085, and the separators of categories Zs, Zl and Zp. -/
def CodePoint.isBlank (c : CodePoint) : Bool :=
  (0x09 ≤ c.val && c.val ≤ 0x0D) || c.val == 0x20 || c.val == 0x85 || c.val == 0xA0 || c.val == 0x1680 ||
    (0x2000 ≤ c.val && c.val ≤ 0x200A) || c.val == 0x2028 || c.val == 0x2029 || c.val == 0x202F ||
    c.val == 0x205F || c.val == 0x3000

/-- Drops the blanks at both ends. -/
def Text.trim (t : Text) : Text := ((t.dropWhile CodePoint.isBlank).reverse.dropWhile CodePoint.isBlank).reverse

end ParenTokens
