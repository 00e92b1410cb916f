import Colloquy.Number.Binary64
import Colloquy.Session.Basic
import Colloquy.Text.Case

/-!
# A guess at quality

`heuristicScore` rates the last message of a session by its length, by how few of its words are repeated, and
by its number of sentences; each counts for at most one, and the score is their weighted sum.
-/

namespace Colloquy

/-! ### Words and sentences -/

/-- The stretches of characters of a class, where `current` is the stretch so far in reverse order. -/
def stretches (p : Char → Bool) (current : List Char) : List Char → List (List Char)
  | [] => if current.isEmpty then [] else [current.reverse]
  | c :: cs =>
    if p c then stretches p (c :: current) cs
    else if current.isEmpty then stretches p [] cs
    else current.reverse :: stretches p [] cs

/-- The words of a text. -/
def wordsOf (s : String) : List (List Char) :=
  stretches Text.isWord [] s.toList

/-- The marks that end a sentence. -/
def endsSentence (c : Char) : Bool := c == '.' || c == '!' || c == '?'

/-- The sentences of a text that hold more than blanks. -/
def sentencesOf (s : String) : List (List Char) :=
  (stretches (fun c => !endsSentence c) [] s.toList).filter fun cs => !cs.all Text.isBlank

/-! ### Scores -/

/-- The length at which more length adds no more to the score. -/
def saturatedLength : Nat := 500

/-- The number of sentences at which more of them add no more to the score. -/
def saturatedSentences : Nat := 5

/-- A count in proportion to the one at which it saturates, and at most one. -/
def saturation (count full : Nat) : Float :=
  let ratio := Number.ofRatio false count full
  if 1.0 < ratio then 1.0 else ratio

/-- The part of different words among all words. -/
def diversity (words : List (List Char)) : Float :=
  if words.isEmpty then 0.0
  else Number.ofRatio false words.eraseDups.length words.length

/-- The score of a text; nothing but blanks scores zero. -/
def textScore (s : String) : Float :=
  if Text.isBlankText s then 0.0
  else
    0.4 * saturation s.length saturatedLength + 0.3 * diversity (wordsOf (Text.lower s)) +
      0.3 * saturation (sentencesOf s).length saturatedSentences

/-- The score of the last message of a session. -/
def heuristicScore (s : Session) : Float :=
  textScore s.lastText

end Colloquy
