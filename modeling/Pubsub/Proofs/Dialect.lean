import Pubsub.Json.Document

/-! The dialect of documents as a grammar: which texts spell which value, and nothing about how they are
read. A spelling has two bounds, so that what a reader with limits can read is told apart: how many digits
its whole numbers have, and how many containers stand around one another. -/

namespace Pubsub.Document

def Blank (text : Text) : Prop := ∀ point ∈ text, isSpace point = true

inductive SpellsPiece : Text → Piece → Prop
  | plain {point : CodePoint} (printed : 0x20 ≤ point.val) (quote : point ≠ .char '"') (escape : point ≠ .char '\\') :
    SpellsPiece [point] (.plain point)
  | short {escape : CodePoint} {c : Char} (known : simpleEscape? escape = some c) :
    SpellsPiece [.char '\\', escape] (.plain (.char c))
  | numbered {a b c d : CodePoint} {n : Nat} (unit : unit? a b c d = some n) :
    SpellsPiece [.char '\\', .char 'u', a, b, c, d] (.numbered n)

inductive SpellsPieces : Text → List Piece → Prop
  | nil : SpellsPieces [] []
  | cons {first rest : Text} {piece : Piece} {pieces : List Piece} (head : SpellsPiece first piece)
    (tail : SpellsPieces rest pieces) : SpellsPieces (first ++ rest) (piece :: pieces)

def SpellsText (text value : Text) : Prop :=
  ∃ content pieces, SpellsPieces content pieces ∧ text = .char '"' :: content ++ [.char '"'] ∧ value = Piece.text pieces

def Digits (text : Text) : Prop := text ≠ [] ∧ ∀ point ∈ text, isDigit point = true

/-- Zero, or digits of which the first is another one. -/
def Whole (text : Text) : Prop := text = [.char '0'] ∨ Digits text ∧ text.head? ≠ some (.char '0')

inductive SpellsFraction : Text → Text → Prop
  | nothing : SpellsFraction [] []
  | decimals {digits : Text} (any : Digits digits) : SpellsFraction (.char '.' :: digits) digits

def signs : List (Text × Bool) := [([], false), ([.char '+'], false), ([.char '-'], true)]

def signed (negative : Bool) (value : Nat) : Int := if negative then -value else value

inductive SpellsExponent : Text → Option Int → Prop
  | nothing : SpellsExponent [] none
  | power {mark : CodePoint} {sign digits : Text} {negative : Bool} (marked : mark = .char 'e' ∨ mark = .char 'E')
    (sound : (sign, negative) ∈ signs) (any : Digits digits) :
    SpellsExponent (mark :: sign ++ digits) (some (signed negative (digitsValue digits)))

def minus (negative : Bool) : Text := if negative then [.char '-'] else []

/-- A number without fraction and exponent is a whole number, and only such a number is bounded. -/
inductive SpellsNumber (bound : Nat) : Text → Json → Prop
  | whole {digits : Text} (negative : Bool) (whole : Whole digits) (bounded : digits.length ≤ bound) :
    SpellsNumber bound (minus negative ++ digits) (.int (signed negative (digitsValue digits)))
  | decimal {digits fraction decimals exponent : Text} {power : Option Int} (negative : Bool) (whole : Whole digits)
    (point : SpellsFraction fraction decimals) (exponential : SpellsExponent exponent power)
    (either : ¬(decimals = [] ∧ power = none)) :
    SpellsNumber bound (minus negative ++ (digits ++ fraction ++ exponent))
      (.float (Binary64.ofDecimal negative (digitsValue (digits ++ decimals)) (power.getD 0 - decimals.length)))

inductive SpellsScalar (bound : Nat) : Text → Json → Prop
  | word {word : Text} {value : Json} (known : (word, value) ∈ words) : SpellsScalar bound word value
  | text {text value : Text} (spelled : SpellsText text value) : SpellsScalar bound text (.text value)
  | number {text : Text} {value : Json} (spelled : SpellsNumber bound text value) : SpellsScalar bound text value

section
variable {α : Type} (element : Text → α → Prop)

inductive Passes : Text → List α → Prop
  | nil : Passes [] []
  | cons {text after before rest : Text} {value : α} {values : List α} (spelled : element text value)
    (blank : Blank after) (gap : Blank before) (tail : Passes rest values) :
    Passes (text ++ after ++ .char ',' :: before ++ rest) (value :: values)

/-- What stands between the brackets of a container: elements with commas between them, or none. -/
inductive Lists : Text → List α → Prop
  | none {blank : Text} (nothing : Blank blank) : Lists blank []
  | some {before passed text after : Text} {earlier : List α} {value : α} (lead : Blank before)
    (passes : Passes element passed earlier) (spelled : element text value) (blank : Blank after) :
    Lists (before ++ passed ++ text ++ after) (earlier ++ [value])

end

inductive SpellsMember (value : Text → Json → Prop) : Text → Text × Json → Prop
  | mk {quoted before after text name : Text} {found : Json} (named : SpellsText quoted name) (blank : Blank before)
    (gap : Blank after) (spelled : value text found) :
    SpellsMember value (quoted ++ before ++ .char ':' :: after ++ text) (name, found)

inductive SpellsNested (bound : Nat) (inner : Text → Json → Prop) : Text → Json → Prop
  | scalar {text : Text} {value : Json} (spelled : SpellsScalar bound text value) : SpellsNested bound inner text value
  | list {text : Text} {items : List Json} (listed : Lists inner text items) :
    SpellsNested bound inner (.char '[' :: text ++ [.char ']']) (.list items)
  | object {text : Text} {members : Members} (listed : Lists (SpellsMember inner) text members) :
    SpellsNested bound inner (.char '{' :: text ++ [.char '}']) (.object (Members.ofList members))

/-- A value whose whole numbers have at most `bound` digits, with at most so many containers around one
another. -/
def Spells (bound : Nat) : Nat → Text → Json → Prop
  | 0 => SpellsScalar bound
  | depth + 1 => SpellsNested bound (Spells bound depth)

def SpellsAny (text : Text) (value : Json) : Prop := ∃ bound depth, Spells bound depth text value

/-- A document: a value with nothing but white space around it. -/
def SpellsDocument (text : Text) (value : Json) : Prop :=
  ∃ before used after, Blank before ∧ SpellsAny used value ∧ Blank after ∧ text = before ++ used ++ after

/-- A document that is an object of these members, in the order in which they are written. -/
def SpellsObject (text : Text) (members : Members) : Prop :=
  ∃ before inner after, Blank before ∧ Blank after ∧
    (∃ bound depth, Lists (SpellsMember (Spells bound depth)) inner members) ∧
    text = before ++ .char '{' :: inner ++ .char '}' :: after

end Pubsub.Document
