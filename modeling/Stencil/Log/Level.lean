import Stencil.Decimal.Reader

/-! How much is logged. -/

set_option autoImplicit false

namespace Stencil.Log

inductive Level where
  | off
  | error
  | warn
  | info
  | debug
  | trace
  deriving DecidableEq, Repr

namespace Level

def all : List Level := [.off, .error, .warn, .info, .debug, .trace]

def name : Level → String
  | .off => "off"
  | .error => "error"
  | .warn => "warn"
  | .info => "info"
  | .debug => "debug"
  | .trace => "trace"

/-- The level of a name in any case, or of its number. -/
def ofText? (cs : List Char) : Option Level :=
  (Decimal.readNat? cs).bind (all[·]?) <|> all.find? fun level => cs.map Char.toLower == level.name.toList

end Level

end Stencil.Log
