import Colloquy.Text.CaseTable
import Colloquy.Text.Chars

/-!
# Upper and lower case

`lower` and `upper` map whole texts.  Lowering depends on the neighbourhood in one place: a capital sigma
that ends a word becomes the final sigma.  A capital may take more than one character.  `simpleLower` is
the one-to-one mapping, which caseless patterns use, and `caseVariants` lists all characters that caseless
matching takes for the given one.
-/

namespace Colloquy.Text

/-! ### Single characters -/

/-- The one-to-one small form of a character. -/
def simpleLower (c : Char) : Char :=
  Char.ofNat (shifted lowerShifts c.toNat)

/-- The one-to-one capital form of a character. -/
def simpleUpper (c : Char) : Char :=
  Char.ofNat (shifted upperShifts c.toNat)

/-- All characters that caseless matching takes for `c`: those with its small form or a kin of it. -/
def caseVariants (c : Char) : List Char :=
  let small := shifted lowerShifts c.toNat
  let roots := small :: ((caseKin.find? (·.1 == small)).map (·.2)).getD []
  (roots.flatMap fun r => r :: shiftSources lowerShifts r).map Char.ofNat

/-! ### Texts -/

/-- Characters with case, as the rule of the final sigma counts them. -/
def isCased (c : Char) : Bool :=
  isListed casedStrides c.toNat

/-- Characters that the rule of the final sigma looks through. -/
def isSkipped (c : Char) : Bool :=
  isListed skippedStrides c.toNat

/-- Whether the first character that is not looked through has case. -/
def facesCased (cs : List Char) : Bool :=
  match cs.dropWhile isSkipped with
  | [] => false
  | c :: _ => isCased c

/-- Lowers `rest`, given the characters `before` it in reverse order. -/
def lowerFrom (before : List Char) : List Char → List Char
  | [] => []
  | c :: rest =>
    let small :=
      if c = 'Σ' then
        [if facesCased before && !facesCased rest then 'ς' else 'σ']
      else if c = 'İ' then ['i', '\u0307']
      else [simpleLower c]
    small ++ lowerFrom (c :: before) rest

/-- The small form of a text. -/
def lower (s : String) : String :=
  String.ofList (lowerFrom [] s.toList)

/-- The capital form of a character, which may take several characters. -/
def upperChars (c : Char) : List Char :=
  match longCapitals.find? (·.1 == c.toNat) with
  | some (_, long) => long.map Char.ofNat
  | none => [simpleUpper c]

/-- The capital form of a text. -/
def upper (s : String) : String :=
  String.ofList (s.toList.flatMap upperChars)

/-- Small and title-case letters. -/
def isSmall (c : Char) : Bool :=
  isListed smallStrides c.toNat

/-- Capital letters. -/
def isCapital (c : Char) : Bool :=
  isListed capitalStrides c.toNat

/-- Whether a text has a capital letter and no small one. -/
def isUpper (s : String) : Bool :=
  s.toList.any isCapital && !s.toList.any isSmall

end Colloquy.Text
