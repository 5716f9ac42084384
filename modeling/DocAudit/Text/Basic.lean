/-! # Text — lists of characters

    Every value of the domain holds its text as a list of Unicode scalar values,
    so that each operation on it is a structural recursion.  `String` appears only
    where text enters or leaves the program.

    This file holds what the other modules ask of text in general: joining,
    splitting at a character, searching and erasing. -/

namespace DocAudit

/-- A text is a list of characters; its length counts code points. -/
abbrev Text := List Char

/-- A literal stands for the list of its characters. -/
scoped instance : Coe String Text := ⟨String.toList⟩

namespace Text

/-- Join the texts of a list with `sep` BETWEEN neighbours. -/
def join (sep : Text) : List Text → Text
  | [] => []
  | [t] => t
  | t :: u :: rest => t ++ sep ++ join sep (u :: rest)

@[simp] theorem join_nil (sep : Text) : join sep [] = [] := rfl

@[simp] theorem join_singleton (sep t : Text) : join sep [t] = t := rfl

@[simp] theorem join_cons_cons (sep t u : Text) (rest : List Text) :
    join sep (t :: u :: rest) = t ++ sep ++ join sep (u :: rest) := rfl

/-- Join lines with a line feed between neighbours. -/
abbrev joinLines (lines : List Text) : Text := join ['\n'] lines

/-- Put a character in front of the FIRST text of a list, which begins with one
    if it was empty. -/
def consHead (c : Char) : List Text → List Text
  | [] => [[c]]
  | t :: rest => (c :: t) :: rest

/-- Split at every occurrence of `sep`; there is one more part than occurrences. -/
def splitOn (sep : Char) : Text → List Text
  | [] => [[]]
  | c :: rest => if c = sep then [] :: splitOn sep rest else consHead c (splitOn sep rest)

/-- `pat` stands somewhere in the text. -/
def occurs (pat : Text) : Text → Bool
  | [] => pat.isEmpty
  | c :: rest => pat.isPrefixOf (c :: rest) || occurs pat rest

/-- `pat` stands at the end of the text. -/
def endsWith (pat t : Text) : Bool := pat.isSuffixOf t

/-- Erase occurrences of `pat` from left to right, after skipping `skip` characters
    of an occurrence already met. -/
def eraseAfter (pat : Text) : Nat → Text → Text
  | _, [] => []
  | skip + 1, _ :: rest => eraseAfter pat skip rest
  | 0, c :: rest =>
      if pat.isPrefixOf (c :: rest) then eraseAfter pat (pat.length - 1) rest
      else c :: eraseAfter pat 0 rest

/-- Erase EVERY occurrence of a non-empty `pat`, from left to right. -/
def eraseAll (pat t : Text) : Text := eraseAfter pat 0 t

/-- The order of texts: by the code points of the first characters that differ, a text before
    every longer one that it begins. -/
def le : Text → Text → Bool
  | [], _ => true
  | _ :: _, [] => false
  | c :: t, d :: u => if c = d then le t u else decide (c.toNat ≤ d.toNat)

/-- Drop from both ends the characters of a class. -/
def trimBy (p : Char → Bool) (t : Text) : Text :=
  ((t.dropWhile p).reverse.dropWhile p).reverse

end Text

end DocAudit
