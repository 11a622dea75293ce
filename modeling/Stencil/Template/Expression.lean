import Stencil.Filter
import Stencil.Span

/-! What a variable tag means: a base operand and the filters it is piped through. -/

set_option autoImplicit false

namespace Stencil.Template

structure Segment where
  name : String
  span : Span
  deriving DecidableEq, Repr

structure Path where
  segments : List Segment
  span : Span
  deriving DecidableEq, Repr

namespace Path

/-- The names with points between them. -/
def text (path : Path) : String := ".".intercalate (path.segments.map (·.name))

/-- The span of the path up to and with a segment; of the whole path if there is no such segment. -/
def prefixSpan (path : Path) (index : Nat) : Span :=
  match path.segments[index]? with
  | some segment => ⟨path.span.start, segment.span.stop⟩
  | none => path.span

/-- Segments laid out from an offset with one byte between them. -/
def layOut (offset : Nat) : List String → List Segment
  | [] => []
  | name :: rest => ⟨name, .ofLength offset name.utf8ByteSize⟩ :: layOut (offset + name.utf8ByteSize + 1) rest

end Path

/-- A value written in the template, or a path to look up. -/
inductive Operand where
  | literal (value : Value) (span : Span)
  | path (path : Path)

def Operand.span : Operand → Span
  | .literal _ span => span
  | .path p => p.span

/-- A filter applied in an expression, bound when the template was read. -/
structure FilterUse where
  name : String
  library : String
  filter : Filter
  argument : Option Operand
  span : Span

structure Expression where
  base : Operand
  filters : List FilterUse
  token : String
  span : Span

inductive Load where
  | libraries (names : List String)
  | filters (names : List String) (library : String)
  deriving DecidableEq, Repr

inductive Node where
  | text (content : String) (span : Span)
  | variable (expression : Expression) (span : Span)
  | load (load : Load) (span : Span)

def Node.span : Node → Span
  | .text _ s | .variable _ s | .load _ s => s

end Stencil.Template
