/-! The three kinds of tags and the marks around them. -/

set_option autoImplicit false

namespace Stencil.Template

/-- A kind of tag: a brace and a second character open it, the same two in reverse close it. -/
inductive Delimiter where
  | variable
  | block
  | comment
  deriving DecidableEq, Repr

namespace Delimiter

def opening : Delimiter → Char
  | .variable => '\x7b'
  | .block => '%'
  | .comment => '#'

def closing : Delimiter → Char
  | .variable => '\x7d'
  | .block => '%'
  | .comment => '#'

def openText (d : Delimiter) : String := String.ofList ['\x7b', d.opening]

def closeText (d : Delimiter) : String := String.ofList [d.closing, '\x7d']

def atStart? : List Char → Option Delimiter
  | a :: b :: _ =>
    if a = '\x7b' then
      if b = '\x7b' then some .variable else if b = '%' then some .block
      else if b = '#' then some .comment else none
    else none
  | _ => none

theorem atStart?_eq_some {cs : List Char} {d : Delimiter} (h : atStart? cs = some d) :
    ∃ rest, cs = '\x7b' :: d.opening :: rest := by
  match cs with
  | [] => simp [atStart?] at h
  | [_] => simp [atStart?] at h
  | a :: b :: rest =>
    rw [atStart?] at h
    split at h
    next brace =>
      subst brace
      split at h
      next eq => cases h; exact ⟨rest, by rw [eq]; rfl⟩
      next =>
        split at h
        next eq => cases h; exact ⟨rest, by rw [eq]; rfl⟩
        next =>
          split at h
          next eq => cases h; exact ⟨rest, by rw [eq]; rfl⟩
          next => simp at h
    next => simp at h

end Delimiter

end Stencil.Template
