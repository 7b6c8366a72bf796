import ApiGateway.Unicode.CodePoints

/-!
# Writing direction of labels

The Bidi_Class of the characters that domain names may hold, and the rule that a label obeys in a
name with characters written from right to left.
-/

set_option autoImplicit false

namespace ApiGateway.Unicode

/-- The classes that the rule tells apart; it treats the unlisted ones like `neutral`. -/
inductive BidiClass where
  | leftToRight
  | rightToLeft
  | arabicLetter
  | arabicNumber
  | europeanNumber
  | nonspacing
  | neutral
  deriving DecidableEq

namespace BidiClass

def arabicLetters : CodePointSet := .ofGaps [
  "608 1 2 1 1 1 d 30 22 3 1 65 f 2 7 2 a 17 1 1e 1d 59 b 1 ae 30 10 2a f2e8 21 1bd 3f a4 1",
  "e8c 24 19e 17 57 16 b 9 dd17 cd"]

def rightToLefts : CodePointSet := .ofGaps [
  "5be 1 1 1 2 1 2 1 9 25 1cb 2b 9 2 4 1 3 18 4 1 9 1 3 1 7 29 5 1 ffa1 11c 4 e1 f 26 a a5 6",
  "4b a 1c0 40 10 1e 22 f0 2a 3 5 4e 28 48 12 4 71 d809 d0 52 22 7 15"]

def arabicNumbers : CodePointSet := .ofGaps [
  "660 a 1 2 106c3 a 126 1f"]

def europeanNumbers : CodePointSet := .ofGaps [
  "6f0 a fbe7 1b"]

def nonspacings : CodePointSet := .ofGaps [
  "300 70 113 7 107 2d 1 1 1 2 1 2 1 1 48 b 30 15 10 1 65 7 2 6 2 2 1 4 23 1 1e 1b 5b b 3a 9",
  "9 1 18 4 1 9 1 3 1 5 2b 3 3b 9 2a 39 37 1 1 1 4 8 4 1 3 7 a 2 1d 1 3a 1 4 4 8 1 14 2 1a 5",
  "39 1 4 11 1e 2 3 1 b 2 39 1 4 8 4 1 14 2 16 8 3a 1 2 1 1 4 8 a b 2 1e 1 3d 1 c 1 32 1 3 1",
  "37 1 1 3 5 11 b 2 1d 1 3a 1 2 1 6 1 5 2 14 2 1c 2 39 2 4 4 8 1 14 2 1d 1 48 1 7 5 5a 1 2 7",
  "c 8 62 1 2 9 b 7 49 2 1b 1 1 1 1 1 37 e 1 5 1 2 5 30 9 1 66 4 1 6 1 2 2 2 19 2 4 3 10 4 d",
  "1 2 2 6 1 f 1 2bf 3 3b2 3 1d 2 1e 2 1e 2 43 7 8 1 2 b 9 1 a7 2 22 1 76 3 4 2 9 1 6 3 db 2",
  "2 1 3a 1 1 9 1 1 2 8 6 d 30 54 30 1 1 5 1 1 5 1 28 9 c 2 20 4 2 2 1 3 38 1 1 2 3 1 1 3 3a",
  "8 2 2 98 3 1 d 1 7 4 1 6 1 3 2 c6 40 2d0 21 bfe 3 8d 1 60 20 22a 4 6b 2 75d4 4 1 a 20 2 50",
  "2 110 1 3 1 4 1 19 2 5 1 97 2 1a 12 d 1 26 8 19 b 2e 3 30 1 2 4 2 2 27 1 43 6 2 2 2 2 c 1",
  "8 1 2f 1 33 1 1 3 2 2 5 2 1 1 2a 2 8 1 ee 1 2 1 4 1 4f30 1 301 10 3cd 1 e2 1 95 5 686 f 28",
  "8 a5 2 23d 4 41 5 13d 2 4d 6 46 b 31 4 7b 1 36 f 29 1 2 2 a 3 31 4 2 2 7 1 3d 3 24 5 1 8",
  "3e 1 c 2 34 9 a 4 2 1 5f 3 2 1 1 2 6 1 2 1 9d 1 3 8 15 2 39 2 3 1 25 f 46 6 d 1 1 1 1 1 e",
  "2 55 8 2 3 1 1 17 1 54 6 1 1 4 2 1 2 ee 4 6 2 1 2 1b 2 55 8 2 1 1 2 6a 1 1 1 2 6 1 1 65 3",
  "2 4 1 5 103 9 1 2 100 2 1 1 4 1 90 8 4 1 20 a 28 6 2 4 8 1 9 6 2 3 2e d 1 2 c6 1 1 3 1 1",
  "c9 e 1 1 52 16 2 7 1 2 1 2 7a 15 1 1 48 2 3 1 1 1 15b 2 b 2 34 5 5 1 1 1 17 1 14e5 1 6 f",
  "2cc8 c 3 3 9c0 5 3b 7 418 1 3f 4 51 1 4cb8 2 1261 47 220 3 11 8 2 7 1e 4 94 3 7bb 37 4 32",
  "8 1 e 1 16 15 550 90 a0 7 177 1 3d 4 1fc 4 fe 2 f3 1 2 1 7 2 5 1 1da 7 6d 7"]

/-- Separators, terminators, boundary neutrals and other neutrals. -/
def neutrals : CodePointSet := .ofGaps [
  "a1 1 0 4 0 9 1 2 4 22 1f 1 1c1 2 7 e 2 1c 1 11 75 1 80 1 193 5 0 1 76 2 1 2 1 1 1 2 5a 1",
  "73 1 a 1 10c 4 1f8 2 7 1 f5 1 101 6 0 1 0 1 7d 7 1c0 1 fa 4 452 a 66 1 29a 2 13e 1 14 1b",
  "135 6 98 22 60c 2 2 18 8 3 2 f 0 1 0 1a 41 22 42 26 4 1 b 14 3c 88 0 1 0 1 0 122 45 1a 1",
  "91 19 26c 1 153 100 296 1 69 e5 6 e 7 100 205 3 19 f 1 6 1 5 3 60 1 5a 1 c4 24 1bdc 40",
  "5690 37 146 3 63 1 a 2 80 22 66 1 9f 4 c 2 3a 4 2f2 2 51d2 12 7f 31 45 2 2ba 1 3e 4d 3 11",
  "77e 1 219 7 512 14 5fa d 968 8 0 4 0 11 4ff0 1 6206 59 3 1 ba 57 fa8 1 bf0 240 3d 3 3d 1",
  "b2 478 4 9b 4 137 4e 154 c 29 7 2e 1 7 8 e 4 9 7 db"]

def of (c : Char) : BidiClass :=
  if c.toNat < 0x80 then
    if c.isAlpha then leftToRight else if c.isDigit then europeanNumber else neutral
  else if arabicLetters.contains c then arabicLetter
  else if rightToLefts.contains c then rightToLeft
  else if arabicNumbers.contains c then arabicNumber
  else if europeanNumbers.contains c then europeanNumber
  else if nonspacings.contains c then nonspacing
  else if neutrals.contains c then neutral
  else leftToRight

/-- The classes that make a name bidirectional. -/
def isRightward : BidiClass → Bool
  | rightToLeft | arabicLetter | arabicNumber => true
  | _ => false

end BidiClass

/-- The last class that is not a nonspacing mark's, among those after the first. -/
def lastSpacing? (classes : List BidiClass) : Option BidiClass :=
  (classes.reverse.dropWhile (· == .nonspacing)).head?

/-- The rule for a label of a bidirectional name.

A label that starts from left to right holds nothing written the other way and ends in a letter
or number. One that starts from right to left holds no letter written from left to right, ends in
a letter or number and does not mix the two kinds of numbers. -/
def followsBidiRule (label : List Char) : Bool :=
  match label.map BidiClass.of with
  | [] => true
  | .leftToRight :: rest =>
    rest.all (fun k => !k.isRightward) &&
      (lastSpacing? rest).all fun k => k == .leftToRight || k == .europeanNumber
  | first :: rest =>
    (first == .rightToLeft || first == .arabicLetter) &&
      rest.all (fun k => k != .leftToRight) &&
      ((lastSpacing? rest).all fun k => k.isRightward || k == .europeanNumber) &&
      !(rest.contains .europeanNumber && rest.contains .arabicNumber)

end ApiGateway.Unicode
