import FeatureFlags.Text.Ranges

/-! The white space and the separators of Unicode, and the four separators among the control characters. -/

set_option autoImplicit false

namespace FeatureFlags.Text

def blankRanges : Ranges :=
  [(0x9, 0xd), (0x1c, 0x20), (0x85, 0x85), (0xa0, 0xa0), (0x1680, 0x1680), (0x2000, 0x200a),
   (0x2028, 0x2029), (0x202f, 0x202f), (0x205f, 0x205f), (0x3000, 0x3000)]

def isBlank (c : Char) : Bool := blankRanges.contains c

end FeatureFlags.Text
