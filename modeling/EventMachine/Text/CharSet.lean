/-!
# Sets of characters

A large set of characters is given by its bounds: the code points, in ascending order, at which
membership changes.  Below the first of them nothing belongs to the set.
-/

namespace EventMachine.Text

def within (bounds : List Nat) (n : Nat) : Bool :=
  match bounds with
  | [] => false
  | b :: bounds => if n < b then false else !within bounds n

end EventMachine.Text
