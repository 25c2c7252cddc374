import FeatureFlags.Double.Text

/-! Numbers of a document: integers and doubles. Order and equality are those of the values, so an integer and
a double are compared without rounding either. An integer has at most `Numeral.digitLimit` digits, the most
that are read or written, so it always has a text. -/

set_option autoImplicit false

namespace FeatureFlags

inductive Number where
  | int (value : Int)
  | float (value : Double)
deriving DecidableEq

namespace Number

def position? : Number → Option Position
  | .int value => some ⟨0, value * unitsPerOne⟩
  | .float value => value.position?

def lt (a b : Number) : Bool :=
  match a.position?, b.position? with
  | some x, some y => x.lt y
  | _, _ => false

def le (a b : Number) : Bool :=
  match a.position?, b.position? with
  | some x, some y => x.le y
  | _, _ => false

def same (a b : Number) : Bool :=
  match a.position?, b.position? with
  | some x, some y => x == y
  | _, _ => false

def toDouble? : Number → Option Double
  | .int value => Double.ofInt? value
  | .float value => some value

def isZero (number : Number) : Bool := number.same (.int 0)

-- The text in which a whole number shows no fraction, whichever way it is held.
def plainText : Number → String
  | .int value => toString value
  | .float value =>
      if value.isInteger then
        match value.truncate? with
        | some whole => toString whole
        | none => value.text
      else value.text

def exactText : Number → String
  | .int value => toString value
  | .float value => value.text

end Number
end FeatureFlags
