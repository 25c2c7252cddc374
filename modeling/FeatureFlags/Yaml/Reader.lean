import FeatureFlags.Text.Ranges
import FeatureFlags.Yaml.Node.Reader
import FeatureFlags.Yaml.Token.Reader

set_option autoImplicit false

namespace FeatureFlags.Yaml

def allowedRanges : Text.Ranges :=
  [(0x9, 0xa), (0xd, 0xd), (0x20, 0x7e), (0x85, 0x85), (0xa0, 0xd7ff), (0xe000, 0xfffd),
   (0x10000, 0x10ffff)]

def read (text : String) : Except Failure Yaml :=
  let chars := Line.normalize false text.toList
  if chars.all allowedRanges.contains then do
    let root ← Node.ofTokens (Token.readAll chars)
    root.result
  else .error .malformed

end FeatureFlags.Yaml
