import Stencil.Template.Chain
import Stencil.Template.LoadTag
import Stencil.Template.Token

/-! Templates: source text read into nodes. Load tags take effect while the text is read, so a filter means
what it was last loaded as before its use. -/

set_option autoImplicit false

namespace Stencil

/-- A template that was read: its source, its parts and the filters in scope at its end. -/
structure Template where
  source : String
  nodes : List Template.Node
  registry : Registry

namespace Template

def lineOf (source : String) (span : Span) : Nat := (span.lineColumn source).1

/-- The node of a block tag, and the filters in scope behind it. -/
def readBlock (catalog : Catalog) (source : String) (registry : Registry) (content : String)
    (span contentSpan : Span) : Except ParseError (Node × Registry) :=
  match Bit.split content contentSpan.start with
  | [] => .error (.emptyTag (lineOf source span) span)
  | command :: arguments =>
    if command.text = "load" then do
      let (load, scope) ← Load.ofBits catalog registry arguments
      return (.load load span, scope)
    else .error (.unknownTag command.text (lineOf source span) command.span)

/-- The node of a token, if it has one, and the filters in scope behind it. -/
def readToken (catalog : Catalog) (source : String) (registry : Registry) :
    Token → Except ParseError (Option Node × Registry)
  | .text content span => .ok (some (.text content span), registry)
  | .tag .comment _ _ _ => .ok (none, registry)
  | .tag .variable content span contentSpan =>
    if content.isEmpty then .error (.emptyVariable (lineOf source span) span)
    else do
      let expression ← Expression.ofText registry content.toList contentSpan.start
      return (some (.variable expression span), registry)
  | .tag .block content span contentSpan => do
    let (node, scope) ← readBlock catalog source registry content span contentSpan
    return (some node, scope)

/-- The nodes of tokens, and the filters in scope behind them. -/
def readTokens (catalog : Catalog) (source : String) (registry : Registry) :
    List Token → Except ParseError (List Node × Registry)
  | [] => .ok ([], registry)
  | token :: tokens => do
    let (node, scope) ← readToken catalog source registry token
    let (nodes, final) ← readTokens catalog source scope tokens
    return (node.toList ++ nodes, final)

/-- Reads a template. The builtin libraries are in scope from the start; an unknown one is an error at the very
start of the source. -/
def parse (catalog : Catalog) (builtins : List String) (source : String) : Except ParseError Template := do
  let registry ← loadLibraries catalog .empty (builtins.map (⟨·, ⟨0, 0⟩⟩))
  let tokens ← Token.scan source
  let (nodes, scope) ← readTokens catalog source registry tokens
  return ⟨source, nodes, scope⟩

end Template

end Stencil
