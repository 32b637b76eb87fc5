/-!
# Places in a source text

A place is kept three ways at once: the bytes before it in UTF-8, its line, and
the characters before it on that line.  Reading a character moves all three.
-/

namespace DefLang

/-- Lines are counted from one, columns and byte offsets from zero. -/
structure Position where
  offset : Nat
  line : Nat
  column : Nat
  deriving DecidableEq, Repr

namespace Position

def start : Position := ⟨0, 1, 0⟩

/-- Only a line feed starts a new line. -/
def next (position : Position) (character : Char) : Position :=
  if character = '\n' then
    ⟨position.offset + character.utf8Size, position.line + 1, 0⟩
  else
    ⟨position.offset + character.utf8Size, position.line, position.column + 1⟩

def advance (position : Position) (text : List Char) : Position :=
  text.foldl next position

@[simp] theorem advance_nil (position : Position) :
    position.advance [] = position := rfl

@[simp] theorem advance_cons (position : Position) (character : Char)
    (text : List Char) :
    position.advance (character :: text) =
      (position.next character).advance text := rfl

theorem advance_append (position : Position) (first second : List Char) :
    position.advance (first ++ second) =
      (position.advance first).advance second :=
  List.foldl_append

end Position

end DefLang
