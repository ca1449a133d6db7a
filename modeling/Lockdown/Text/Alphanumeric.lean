import Lockdown.Text.Alphabetic
import Lockdown.Text.Numeric
/-! Letters and numbers of all scripts. -/
namespace Lockdown.Text

def isAlphanumeric (c : Char) : Bool := isAlphabetic c || isNumeric c

end Lockdown.Text
