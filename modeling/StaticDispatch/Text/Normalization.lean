import StaticDispatch.Text.CombiningClass
import StaticDispatch.Text.Composition
import StaticDispatch.Text.Decomposition

/-!
Contract: one form for texts that stand for the same text.

A text is taken apart into the characters that its own stand for, marks on one
character are put in the order of their classes, and what can be joined is joined
again. ASCII text is its own normal form.

Owns: the compatibility normal form with composition.
Does not own: the tables, and which names are compared in this form.
-/

namespace StaticDispatch.Text

/-! ## Syllables of Hangul -/

namespace Hangul

def leadBase : Nat := 0x1100
def vowelBase : Nat := 0x1161
def tailBase : Nat := 0x11a7
def syllableBase : Nat := 0xac00
def leadCount : Nat := 19
def vowelCount : Nat := 21
def tailCount : Nat := 28
def syllableCount : Nat := leadCount * vowelCount * tailCount

def isSyllable (code : Nat) : Bool :=
  syllableBase ≤ code && code < syllableBase + syllableCount

/-- The letters of a syllable: a lead, a vowel and perhaps a tail. -/
def letters (code : Nat) : List Nat :=
  let index := code - syllableBase
  let tail := index % tailCount
  [leadBase + index / tailCount / vowelCount, vowelBase + index / tailCount % vowelCount] ++
    if tail = 0 then [] else [tailBase + tail]

/-- The syllable of a lead and a vowel, or of a syllable without a tail and one. -/
def joined? (first second : Nat) : Option Nat :=
  if leadBase ≤ first && first < leadBase + leadCount && vowelBase ≤ second &&
      second < vowelBase + vowelCount then
    some (syllableBase +
      ((first - leadBase) * vowelCount + (second - vowelBase)) * tailCount)
  else if isSyllable first && (first - syllableBase) % tailCount = 0 && tailBase < second &&
      second < tailBase + tailCount then
    some (first + (second - tailBase))
  else
    none

end Hangul

/-! ## The normal form -/

def decomposed (code : Nat) : List Nat :=
  if Hangul.isSyllable code then
    Hangul.letters code
  else
    match decompositions.find? code with
    | none => [code]
    | some entry =>
        match entry.image with
        | [] => [code]
        | first :: rest => (first + (code - entry.first)) :: rest

/-- Puts a code behind those before it, which are given last first. A mark goes
before the marks of greater classes. -/
def placeMark (code : Nat) : List Nat → List Nat
  | [] => [code]
  | last :: before =>
      if combiningClass code ≠ 0 && combiningClass code < combiningClass last then
        last :: placeMark code before
      else
        code :: last :: before

/-- Marks in the order of their classes, as far as no other character divides
them. -/
def orderMarks (codes : List Nat) : List Nat :=
  (codes.foldl (fun before code => placeMark code before) []).reverse

def composite? (first second : Nat) : Option Nat :=
  (Hangul.joined? first second).or (tableComposite? first second)

structure Joining where
  /-- What is finished, last first. -/
  done : List Nat := []
  /-- The character that marks may still join. -/
  base : Option Nat := none
  /-- The marks behind it that have not joined, last first. -/
  marks : List Nat := []

namespace Joining

def flush (joining : Joining) : List Nat :=
  joining.marks ++ joining.base.toList ++ joining.done

/-- Whether a code may join the base: no mark between them is of its class or of
a greater one. -/
def reaches (joining : Joining) (code : Nat) : Bool :=
  match joining.marks with
  | [] => true
  | last :: _ => combiningClass last < combiningClass code

def add (joining : Joining) (code : Nat) : Joining :=
  match joining.base.bind fun base =>
      if joining.reaches code then composite? base code else none with
  | some joined => { joining with base := some joined }
  | none =>
      if combiningClass code = 0 then
        { done := joining.flush, base := some code }
      else
        { joining with marks := code :: joining.marks }

end Joining

def joinMarks (codes : List Nat) : List Nat :=
  (codes.foldl Joining.add {}).flush.reverse

def isAscii (text : List Char) : Bool :=
  text.all fun character => character.toNat < 0x80

def normalForm (text : String) : String :=
  if isAscii text.toList then
    text
  else
    let codes := text.toList.flatMap fun character => decomposed character.toNat
    String.ofList ((joinMarks (orderMarks codes)).map Char.ofNat)

end StaticDispatch.Text
