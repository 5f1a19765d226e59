import Mathlib.Data.Nat.Notation
import Mathlib.Tactic.Common

namespace AppPrepanet

inductive UIColor where
  | black
  | systemBlue
  | systemGreen
  | systemTeal
deriving DecidableEq

structure UIButton where
  isEnabled : Bool := true
  isHidden : Bool := false
  title : String
  backgroundColor : UIColor
deriving DecidableEq

-- A label without a colour of its own has the default one.
structure UILabel where
  text : String
  textColor : Option UIColor := none
  isHidden : Bool := false
deriving DecidableEq

-- A system image, in its own colour or in the one that the view gives it.
structure UIImage where
  systemName : String
  tintColor : Option UIColor := none
deriving DecidableEq

def UIImage.withTintColor (image : UIImage) (color : UIColor) : UIImage :=
  { image with tintColor := some color }

structure UIImageView where
  image : Option UIImage := none
  isHidden : Bool := false
deriving DecidableEq

-- The background of a view: a colour of the system, or one given by its components out of 255.
inductive Background where
  | systemBackground
  | rgb (red green blue : ℕ)
deriving DecidableEq

structure UIView where
  backgroundColor : Option Background := none
deriving DecidableEq

-- A button sends its action only when it can be seen and is enabled.
def UIButton.sendsAction (button : UIButton) : Bool := button.isEnabled && !button.isHidden

theorem UIButton.sendsAction_iff {button : UIButton} :
    button.sendsAction = true ↔ button.isEnabled = true ∧ button.isHidden = false := by
  simp [sendsAction]

end AppPrepanet
