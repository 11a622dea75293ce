import Stencil.Span
import Stencil.Template.Delimiter

/-! What can be wrong with the text of a template, and where. -/

set_option autoImplicit false

namespace Stencil.Template

inductive ParseError where
  | unclosedTag (kind : Delimiter) (span : Span)
  | emptyVariable (line : Nat) (span : Span)
  | emptyTag (line : Nat) (span : Span)
  | missingVariable (token : String) (span : Span)
  | invalidRemainder (remainder token : String) (span : Span)
  | underscoreName (operand : String) (span : Span)
  | unknownTag (tag : String) (line : Nat) (span : Span)
  | unknownLibrary (library : String) (available : List String) (span : Span)
  | notInLibrary (filter library : String) (span : Span)
  | unknownFilter (filter : String) (span : Span)
  | filterArity (filter : String) (required provided : Nat) (span : Span)
  deriving DecidableEq, Repr

namespace ParseError

def span : ParseError → Span
  | unclosedTag _ s | emptyVariable _ s | emptyTag _ s | missingVariable _ s | invalidRemainder _ _ s
  | underscoreName _ s | unknownTag _ _ s | unknownLibrary _ _ s | notInLibrary _ _ s
  | unknownFilter _ s | filterArity _ _ _ s => s

def message : ParseError → String
  | unclosedTag kind _ =>
    "Unclosed tag: expected '" ++ kind.closeText ++ "' to close '" ++ kind.openText ++ "'"
  | emptyVariable line _ => "Empty variable tag on line " ++ toString line
  | emptyTag line _ => "Empty block tag on line " ++ toString line
  | missingVariable token _ => "Could not find variable at start of " ++ token ++ "."
  | invalidRemainder remainder token _ =>
    "Could not parse the remainder: '" ++ remainder ++ "' from '" ++ token ++ "'"
  | underscoreName operand _ =>
    "Variables and attributes may not begin with underscores: '" ++ operand ++ "'"
  | unknownTag tag line _ =>
    "Invalid block tag on line " ++ toString line ++ ": '" ++ tag ++
      "'. Did you forget to register or load this tag?"
  | unknownLibrary library available _ =>
    "'" ++ library ++ "' is not a registered tag library. Must be one of:\n" ++ "\n".intercalate available
  | notInLibrary filter library _ =>
    "'" ++ filter ++ "' is not a valid tag or filter in tag library '" ++ library ++ "'"
  | unknownFilter filter _ => "Invalid filter: '" ++ filter ++ "'"
  | filterArity filter required provided _ =>
    filter ++ " requires " ++ toString required ++ " arguments, " ++ toString provided ++ " provided"

def labelText : ParseError → String
  | unclosedTag .. => "unclosed tag"
  | emptyVariable .. | emptyTag .. => "empty tag"
  | unknownTag .. => "tag"
  | unknownLibrary .. => "library"
  | notInLibrary .. | unknownFilter .. => "filter"
  | filterArity .. => "arguments"
  | missingVariable .. | invalidRemainder .. | underscoreName .. => "here"

def help? : ParseError → Option String
  | unknownFilter .. => some "load the library that provides this filter first"
  | _ => none

end ParseError

end Stencil.Template
