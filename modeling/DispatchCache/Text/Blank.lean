/-! # Blanks

The code points with the white-space property, and text without them at its ends. -/

namespace DispatchCache.Text

def isBlank (c : Char) : Bool :=
  let point := c.toNat
  (0x9 ≤ point && point ≤ 0xd) || point = 0x20 || point = 0x85 || point = 0xa0 ||
    point = 0x1680 || (0x2000 ≤ point && point ≤ 0x200a) || point = 0x2028 || point = 0x2029 ||
    point = 0x202f || point = 0x205f || point = 0x3000

def trimmed (chars : List Char) : List Char :=
  ((chars.dropWhile isBlank).reverse.dropWhile isBlank).reverse

end DispatchCache.Text
