import Stepper.Address

/-!
A place in a program, named by its address or by a label.
-/
namespace Stepper

inductive Location where
  | address (addr : Address)
  | label (name : String)
deriving DecidableEq

/-- How a location is shown: an address in hexadecimal, a label as it is. -/
def Location.text : Location → String
  | .address addr => Address.text addr
  | .label name => name

end Stepper
