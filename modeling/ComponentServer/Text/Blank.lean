import ComponentServer.Text.Basic

/-!
White space. Trimming goes by the Unicode property `White_Space`; inside tags only five ASCII
characters separate names.
-/

namespace ComponentServer

/-- The Unicode property `White_Space`. -/
def isBlank (c : Char) : Bool :=
  let n := c.toNat
  (0x09 ≤ n && n ≤ 0x0D) || n == 0x20 || n == 0x85 || n == 0xA0 || n == 0x1680
    || (0x2000 ≤ n && n ≤ 0x200A) || n == 0x2028 || n == 0x2029 || n == 0x202F || n == 0x205F
    || n == 0x3000

/-- What separates the parts of a tag: space, tab, newline, form feed and carriage return. -/
def isTagBlank (c : Char) : Bool :=
  c == ' ' || c == '\t' || c == '\n' || c == '\x0c' || c == '\r'

namespace Text

def allBlank (text : Text) : Bool := text.all isBlank

def trimStart (text : Text) : Text := text.dropWhile isBlank

def trim (text : Text) : Text := (trimStart (trimStart text).reverse).reverse

end Text

end ComponentServer
