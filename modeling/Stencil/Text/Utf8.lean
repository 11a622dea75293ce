/-! Byte offsets into text: every character takes as many bytes as its UTF-8 form. -/

set_option autoImplicit false

namespace Stencil.Text

def byteLength : List Char → Nat
  | [] => 0
  | c :: cs => c.utf8Size + byteLength cs

@[simp] theorem byteLength_nil : byteLength [] = 0 := rfl

@[simp] theorem byteLength_cons (c : Char) (cs : List Char) :
    byteLength (c :: cs) = c.utf8Size + byteLength cs := rfl

@[simp] theorem byteLength_append (as bs : List Char) :
    byteLength (as ++ bs) = byteLength as + byteLength bs := by
  induction as with
  | nil => simp
  | cons c as ih => simp [ih, Nat.add_assoc]

/-- The text from byte `n` on, if a character starts there or the text ends there. -/
def dropBytes? : List Char → Nat → Option (List Char)
  | cs, 0 => some cs
  | [], _ + 1 => none
  | c :: cs, n + 1 => if c.utf8Size ≤ n + 1 then dropBytes? cs (n + 1 - c.utf8Size) else none

/-- The text before byte `n`, if a character starts there or the text ends there. -/
def takeBytes? : List Char → Nat → Option (List Char)
  | _, 0 => some []
  | [], _ + 1 => none
  | c :: cs, n + 1 =>
    if c.utf8Size ≤ n + 1 then (takeBytes? cs (n + 1 - c.utf8Size)).map (c :: ·) else none

/-- The text from byte `start` up to byte `stop`, if both are boundaries in this order. -/
def sliceBytes? (cs : List Char) (start stop : Nat) : Option (List Char) :=
  if start ≤ stop then (dropBytes? cs start).bind (takeBytes? · (stop - start)) else none

theorem dropBytes?_append (as bs : List Char) : dropBytes? (as ++ bs) (byteLength as) = some bs := by
  induction as with
  | nil => simp [dropBytes?]
  | cons c as ih =>
    have pos := c.utf8Size_pos
    obtain ⟨n, hn⟩ : ∃ n, byteLength (c :: as) = n + 1 := ⟨byteLength (c :: as) - 1, by simp; omega⟩
    have rest : n + 1 - c.utf8Size = byteLength as := by rw [← hn]; simp
    rw [hn, List.cons_append, dropBytes?, rest, if_pos (by rw [← hn]; simp), ih]

theorem takeBytes?_append (as bs : List Char) : takeBytes? (as ++ bs) (byteLength as) = some as := by
  induction as with
  | nil => simp [takeBytes?]
  | cons c as ih =>
    have pos := c.utf8Size_pos
    obtain ⟨n, hn⟩ : ∃ n, byteLength (c :: as) = n + 1 := ⟨byteLength (c :: as) - 1, by simp; omega⟩
    have rest : n + 1 - c.utf8Size = byteLength as := by rw [← hn]; simp
    rw [hn, List.cons_append, takeBytes?, rest, if_pos (by rw [← hn]; simp), ih]
    rfl

/-- A piece of a text is read back by the offsets of its ends. -/
theorem sliceBytes?_append (as bs cs : List Char) :
    sliceBytes? (as ++ bs ++ cs) (byteLength as) (byteLength as + byteLength bs) = some bs := by
  simp [sliceBytes?, List.append_assoc, dropBytes?_append, takeBytes?_append]

end Stencil.Text
