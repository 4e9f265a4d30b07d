import Pubsub.Json.Basic

/-! Reading a JSON document. The dialect is strict JSON with three more numbers, `NaN`, `Infinity`
and `-Infinity`. Each reader takes the text that remains and gives a value and the text after it;
a failure keeps the text at which it was noticed, so that its position can be told at the end. -/

namespace Pubsub.Document

inductive Problem where
  | byteOrderMark
  | expectedValue
  | expectedName
  | expectedColon
  | expectedComma
  | unterminated
  | controlCharacter
  | badEscape
  | badUnicodeEscape
  | extraData
deriving DecidableEq

inductive Container where
  | list
  | object
deriving DecidableEq

/-- Text outside the dialect, or a document past one of the two limits. The first is fixed, the other one differs from place
to place. -/
inductive Stop where
  | malformed (problem : Problem) (rest : Text)
  | tooManyDigits (count : Nat)
  | tooDeep (container : Container)

abbrev Parsed (α : Type) := Except Stop (α × Text)

/-- Whole numbers have at most this many digits. -/
def digitLimit : Nat := 4300

def isSpace : CodePoint → Bool
  | .char ' ' | .char '\t' | .char '\n' | .char '\r' => true
  | _ => false

def skipSpace (text : Text) : Text := text.dropWhile isSpace

def hexDigit? : CodePoint → Option Nat
  | .half _ => none
  | .char c =>
    if '0' ≤ c ∧ c ≤ '9' then some (c.toNat - '0'.toNat)
    else if 'a' ≤ c ∧ c ≤ 'f' then some (c.toNat - 'a'.toNat + 10)
    else if 'A' ≤ c ∧ c ≤ 'F' then some (c.toNat - 'A'.toNat + 10)
    else none

def unit? (a b c d : CodePoint) : Option Nat := do
  let a ← hexDigit? a
  let b ← hexDigit? b
  let c ← hexDigit? c
  let d ← hexDigit? d
  pure (((a * 16 + b) * 16 + c) * 16 + d)

def simpleEscape? : CodePoint → Option Char
  | .char '"' => some '"'
  | .char '\\' => some '\\'
  | .char '/' => some '/'
  | .char 'b' => some '\x08'
  | .char 'f' => some '\x0c'
  | .char 'n' => some '\n'
  | .char 'r' => some '\r'
  | .char 't' => some '\t'
  | _ => none

/-- A code point as it stands in a string, or one that is written by its number. -/
inductive Piece where
  | plain (point : CodePoint)
  | numbered (n : Nat)
deriving DecidableEq

/-- Two halves of a pair next to each other, both written by number, are one character. -/
def Piece.text : List Piece → Text
  | [] => []
  | .plain point :: rest => point :: text rest
  | .numbered high :: .numbered low :: rest =>
    if CodePoint.isHigh high ∧ CodePoint.isLow low then CodePoint.join high low :: text rest
    else CodePoint.ofNat high :: text (.numbered low :: rest)
  | .numbered n :: rest => CodePoint.ofNat n :: text rest

/-- The pieces of a string up to its closing quote. `opening` is the text from the opening quote
on, `read` holds the pieces before, last first. Something must follow a number. -/
def pieces (opening : Text) (read : List Piece) : Text → Parsed (List Piece)
  | [] => .error (.malformed .unterminated opening)
  | .char '"' :: rest => .ok (read.reverse, rest)
  | [.char '\\'] => .error (.malformed .unterminated opening)
  | .char '\\' :: .char 'u' :: a :: b :: c :: d :: rest =>
    match unit? a b c d, rest with
    | some n, _ :: _ => pieces opening (.numbered n :: read) rest
    | _, _ => .error (.malformed .badUnicodeEscape (.char 'u' :: a :: b :: c :: d :: rest))
  | .char '\\' :: .char 'u' :: rest => .error (.malformed .badUnicodeEscape (.char 'u' :: rest))
  | .char '\\' :: escape :: rest =>
    match simpleEscape? escape with
    | some c => pieces opening (.plain (.char c) :: read) rest
    | none => .error (.malformed .badEscape (.char '\\' :: escape :: rest))
  | point :: rest =>
    if point.val < 0x20 then .error (.malformed .controlCharacter (point :: rest))
    else pieces opening (.plain point :: read) rest

/-- The rest of a string, after its opening quote. -/
def string (opening rest : Text) : Parsed Text :=
  (pieces opening [] rest).map fun (found, rest) => (Piece.text found, rest)

def isDigit : CodePoint → Bool
  | .char c => c.isDigit
  | .half _ => false

def digitsValue (digits : Text) : Nat :=
  digits.foldl (fun value digit => value * 10 + (digit.val - '0'.toNat)) 0

/-- A point and the digits after it; a point without digits is not part of the number. -/
def fraction (text : Text) : Text × Text :=
  match text with
  | .char '.' :: rest =>
    let digits := rest.takeWhile isDigit
    if digits.isEmpty then ([], text) else (digits, rest.dropWhile isDigit)
  | _ => ([], text)

/-- A mark, a sign if there is one, and digits; anything less is not part of the number. -/
def exponent (text : Text) : Option Int × Text :=
  let after (negative : Bool) (rest : Text) : Option Int × Text :=
    let digits := rest.takeWhile isDigit
    if digits.isEmpty then (none, text)
    else
      let value : Int := digitsValue digits
      (some (if negative then -value else value), rest.dropWhile isDigit)
  let signed (rest : Text) : Option Int × Text :=
    match rest with
    | .char '-' :: rest => after true rest
    | .char '+' :: rest => after false rest
    | rest => after false rest
  match text with
  | .char 'e' :: rest => signed rest
  | .char 'E' :: rest => signed rest
  | _ => (none, text)

/-- The whole part is zero or starts with another digit. -/
def whole? (text : Text) : Option (Text × Text) :=
  match text with
  | .char '0' :: rest => some ([.char '0'], rest)
  | _ =>
    let digits := text.takeWhile isDigit
    if digits.isEmpty then none else some (digits, text.dropWhile isDigit)

/-- A number that starts at `start`; `text` is what follows its sign. -/
def number (start : Text) (negative : Bool) (text : Text) : Parsed Json :=
  match whole? text with
  | none => .error (.malformed .expectedValue start)
  | some (digits, rest) =>
    let (decimals, rest) := fraction rest
    let (power, rest) := exponent rest
    if decimals.isEmpty ∧ power = none then
      if digits.length > digitLimit then .error (.tooManyDigits digits.length)
      else
        let value : Int := digitsValue digits
        .ok (.int (if negative then -value else value), rest)
    else
      let value := Binary64.ofDecimal negative (digitsValue (digits ++ decimals))
        (power.getD 0 - decimals.length)
      .ok (.float value, rest)

def after? : Text → Text → Option Text
  | [], text => some text
  | _ :: _, [] => none
  | expected :: more, point :: rest => if expected = point then after? more rest else none

/-- The values that are written as words. -/
def words : List (Text × Json) := [
  ("null", .null), ("true", .bool true), ("false", .bool false), ("NaN", .float .nan),
  ("Infinity", .float (.infinite false)), ("-Infinity", .float (.infinite true))]

def word? (text : Text) : Option (Json × Text) :=
  words.findSome? fun (word, value) => (after? word text).map (value, ·)

def scalar (text : Text) : Parsed Json :=
  match text with
  | .char '"' :: rest => (string text rest).map fun (found, rest) => (.text found, rest)
  | _ =>
    match word? text, text with
    | some found, _ => .ok found
    | none, .char '-' :: rest => number text true rest
    | none, _ => number text false text

/-- The items of a list, one at least. No more are read than there is fuel. -/
def items (value : Text → Parsed Json) (read : List Json) : Nat → Text → Parsed Json
  | 0, text => .error (.malformed .expectedValue text)
  | fuel + 1, text =>
    match value text with
    | .error stop => .error stop
    | .ok (item, rest) =>
      match skipSpace rest with
      | .char ']' :: rest => .ok (.list (item :: read).reverse, rest)
      | .char ',' :: rest => items value (item :: read) fuel (skipSpace rest)
      | rest => .error (.malformed .expectedComma rest)

def member (value : Text → Parsed Json) (text : Text) : Parsed (Text × Json) :=
  match text with
  | .char '"' :: rest =>
    match string text rest with
    | .error stop => .error stop
    | .ok (name, rest) =>
      match skipSpace rest with
      | .char ':' :: rest => (value (skipSpace rest)).map fun (found, rest) => ((name, found), rest)
      | rest => .error (.malformed .expectedColon rest)
  | _ => .error (.malformed .expectedName text)

/-- The members of an object, one at least. No more are read than there is fuel. -/
def members (value : Text → Parsed Json) (read : Members) : Nat → Text → Parsed Json
  | 0, text => .error (.malformed .expectedName text)
  | fuel + 1, text =>
    match member value text with
    | .error stop => .error stop
    | .ok (found, rest) =>
      match skipSpace rest with
      | .char '}' :: rest => .ok (.object (Members.ofList (found :: read).reverse), rest)
      | .char ',' :: rest => members value (found :: read) fuel (skipSpace rest)
      | rest => .error (.malformed .expectedComma rest)

/-- What follows an opening bracket. -/
def listBody (value : Text → Parsed Json) (fuel : Nat) (rest : Text) : Parsed Json :=
  match skipSpace rest with
  | .char ']' :: rest => .ok (Json.list [], rest)
  | rest => items value [] fuel rest

/-- What follows an opening brace. -/
def objectBody (value : Text → Parsed Json) (fuel : Nat) (rest : Text) : Parsed Json :=
  match skipSpace rest with
  | .char '}' :: rest => .ok (.object [], rest)
  | rest => members value [] fuel rest

/-- A value with at most `depth` containers around one another. The fuel is for each of them; the
length of the document is enough, since every item and member takes some of it. -/
def value (fuel : Nat) : Nat → Text → Parsed Json
  | 0, text =>
    match text with
    | .char '[' :: _ => .error (.tooDeep .list)
    | .char '{' :: _ => .error (.tooDeep .object)
    | _ => scalar text
  | depth + 1, text =>
    match text with
    | .char '[' :: rest => listBody (value fuel depth) fuel rest
    | .char '{' :: rest => objectBody (value fuel depth) fuel rest
    | _ => scalar text

/-- A document and nothing else, but for white space around it. Lists and objects are nested at most `depth` deep. -/
def read (depth : Nat) (text : Text) : Except Stop Json :=
  match text with
  | .char '\ufeff' :: _ => .error (.malformed .byteOrderMark text)
  | _ =>
    match value text.length depth (skipSpace text) with
    | .error stop => .error stop
    | .ok (found, rest) =>
      match skipSpace rest with
      | [] => .ok found
      | rest => .error (.malformed .extraData rest)

/-- Why a text is no document. A problem has a position, counted in code points. -/
inductive Refusal where
  | malformed (problem : Problem) (position line column : Nat)
  | tooManyDigits (count : Nat)
  | tooDeep (container : Container)
deriving DecidableEq

/-- Lines end at line feeds only; columns start at one. -/
def Refusal.locate (problem : Problem) (before : Text) : Refusal :=
  .malformed problem before.length (before.count (.char '\n') + 1)
    ((before.reverse.takeWhile (· ≠ .char '\n')).length + 1)

def parse (depth : Nat) (text : Text) : Except Refusal Json :=
  match read depth text with
  | .ok found => .ok found
  | .error (.malformed problem rest) =>
    .error (Refusal.locate problem (text.take (text.length - rest.length)))
  | .error (.tooManyDigits count) => .error (.tooManyDigits count)
  | .error (.tooDeep container) => .error (.tooDeep container)

def Problem.message : Problem → Text
  | .byteOrderMark => "Unexpected UTF-8 BOM (decode using utf-8-sig)"
  | .expectedValue => "Expecting value"
  | .expectedName => "Expecting property name enclosed in double quotes"
  | .expectedColon => "Expecting ':' delimiter"
  | .expectedComma => "Expecting ',' delimiter"
  | .unterminated => "Unterminated string starting at"
  | .controlCharacter => "Invalid control character at"
  | .badEscape => "Invalid \\escape"
  | .badUnicodeEscape => "Invalid \\uXXXX escape"
  | .extraData => "Extra data"

def Container.name : Container → Text
  | .list => "array"
  | .object => "object"

def Refusal.message : Refusal → Text
  | .malformed problem position line column =>
    problem.message ++ ": line " ++ Text.ofNat line ++ " column " ++ Text.ofNat column ++ " (char " ++
      Text.ofNat position ++ ")"
  | .tooManyDigits count =>
    "Exceeds the limit (" ++ Text.ofNat digitLimit ++ " digits) for integer string conversion: value has " ++
      Text.ofNat count ++ " digits; use sys.set_int_max_str_digits() to increase the limit"
  | .tooDeep container =>
    "maximum recursion depth exceeded while decoding a JSON " ++ container.name ++ " from a unicode string"

end Pubsub.Document
