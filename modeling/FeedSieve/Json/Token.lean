import FeedSieve.Json.ReadError

/-! The tokens of a document, each read from the beginning of a text. Where a text ends inside a
token, a caller that only skips it may report that in its own way. -/

namespace FeedSieve.Json

/-! ### Blanks and fixed words -/

def isSpace (c : Char) : Bool := c = ' ' || c = '\n' || c = '\t' || c = '\r'

/-- The text from its next token on. -/
def skipSpace (cs : List Char) : List Char := cs.dropWhile isSpace

def skipWord : List Char → List Char → Except ReadError (List Char)
  | [], cs => .ok cs
  | _ :: _, [] => .error .truncated
  | w :: ws, c :: cs => if c = w then skipWord ws cs else .error (.malformed .token)

/-! ### Numbers -/

/-- Reads a nonempty run of digits. -/
def readDigits (atEnd : ReadError) (cs : List Char) : Except ReadError (List Char × List Char) :=
  match cs with
  | [] => .error atEnd
  | c :: _ => if c.isDigit then .ok (cs.takeWhile Char.isDigit, cs.dropWhile Char.isDigit)
    else .error (.malformed .token)

/-- Reads the digits before the point: a zero only by itself. -/
def readWhole (atEnd : ReadError) : Reader (List Char)
  | [] => .error atEnd
  | '0' :: cs => if cs.head?.any Char.isDigit then .error (.malformed .token) else .ok (['0'], cs)
  | cs => readDigits atEnd cs

/-- Reads a point and the digits after it, if there is a point. -/
def readFraction (atEnd : ReadError) : Reader (Option (List Char))
  | '.' :: cs => (readDigits atEnd cs).map fun (ds, cs) => (some ds, cs)
  | cs => .ok (none, cs)

/-- Reads the digits of a power of ten, after its sign. -/
def readPowerDigits (atEnd : ReadError) (negative : Bool) (cs : List Char) :
    Except ReadError (Option Int × List Char) :=
  (readDigits atEnd cs).map fun (ds, cs) =>
    let n : Int := Nat.ofDigitChars 10 ds 0
    (some (if negative then -n else n), cs)

def readPower (atEnd : ReadError) : Reader (Option Int)
  | [] => .ok (none, [])
  | c :: cs =>
    if c = 'e' ∨ c = 'E' then
      match cs with
      | '+' :: cs => readPowerDigits atEnd false cs
      | '-' :: cs => readPowerDigits atEnd true cs
      | cs => readPowerDigits atEnd false cs
    else .ok (none, c :: cs)

/-- Reads a number as it is written. -/
def readLiteral (atEnd : ReadError) (cs : List Char) : Except ReadError (Literal × List Char) := do
  let (negative, cs) := match cs with
    | '-' :: cs => (true, cs)
    | cs => (false, cs)
  let (whole, cs) ← readWhole atEnd cs
  let (fraction, cs) ← readFraction atEnd cs
  let (power, cs) ← readPower atEnd cs
  return (⟨negative, whole, fraction, power⟩, cs)

/-- Reads a number, unless it is too large for a double. -/
def readNumber (cs : List Char) : Except ReadError (Number × List Char) := do
  let (l, cs) ← readLiteral .truncated cs
  match l.number? with
  | some n => return (n, cs)
  | none => throw (.malformed .tooLarge)

def startsNumber (c : Char) : Bool := c = '-' || c.isDigit

/-! ### Strings -/

def hexValue? (c : Char) : Option Nat :=
  if c.isDigit then some (c.toNat - 48)
  else if 'a' ≤ c ∧ c ≤ 'f' then some (c.toNat - 87)
  else if 'A' ≤ c ∧ c ≤ 'F' then some (c.toNat - 55)
  else none

/-- Reads four hexadecimal digits. A text of fewer than four bytes is truncated, whatever it holds. -/
def readHex : Reader Nat
  | a :: b :: c :: d :: cs =>
    match hexValue? a, hexValue? b, hexValue? c, hexValue? d with
    | some a, some b, some c, some d => .ok (((a * 16 + b) * 16 + c) * 16 + d, cs)
    | _, _, _, _ => .error (.malformed .token)
  | cs => if (String.ofList cs).utf8ByteSize < 4 then .error .truncated else .error (.malformed .token)

/-- The character of a pair of surrogates. -/
def ofSurrogates (high low : Nat) : Char :=
  Char.ofNat (0x10000 + (high - 0xD800) * 0x400 + (low - 0xDC00))

/-- Reads the second half of a pair of surrogates, the first being given. -/
def readLowSurrogate (high : Nat) (cs : List Char) : Except ReadError (Char × List Char) := do
  let cs ← skipWord ['\\', 'u'] cs
  let (low, cs) ← readHex cs
  if 0xDC00 ≤ low ∧ low ≤ 0xDFFF then return (ofSurrogates high low, cs) else throw (.malformed .token)

/-- Reads a character given by its number; one beyond 16 bits is written as two surrogates, and
neither of them stands alone. -/
def readCodePoint (cs : List Char) : Except ReadError (Char × List Char) := do
  let (n, cs) ← readHex cs
  if 0xD800 ≤ n ∧ n ≤ 0xDBFF then readLowSurrogate n cs
  else if 0xDC00 ≤ n ∧ n ≤ 0xDFFF then throw (.malformed .token)
  else return (Char.ofNat n, cs)

/-- The character of an escape of one letter. -/
def shortEscape? (c : Char) : Option Char :=
  match c with
  | '"' => some '"'
  | '\\' => some '\\'
  | '/' => some '/'
  | 'b' => some '\x08'
  | 'f' => some '\x0c'
  | 'n' => some '\n'
  | 'r' => some '\r'
  | 't' => some '\t'
  | _ => none

/-- Reads what follows a backslash, where `codePoint` reads what follows the letter u. -/
def readEscape {α : Type} (short : Char → α) (codePoint : Reader α) : Reader α
  | [] => .error .truncated
  | 'u' :: cs => codePoint cs
  | c :: cs =>
    match shortEscape? c with
    | some e => .ok (short e, cs)
    | none => .error (.malformed .token)

/-- Reads the next character of a string; none at the quote that ends it. -/
def readChar {α : Type} (short : Char → α) (codePoint : Reader α) : Reader (Option α)
  | [] => .error .truncated
  | '"' :: cs => .ok (none, cs)
  | '\\' :: cs => (readEscape short codePoint cs).map fun (a, cs) => (some a, cs)
  | c :: cs => if c.toNat < 0x20 then .error (.malformed .token) else .ok (some (short c), cs)

/-- Reads the characters of a string up to and over the quote that ends it, of at most the given
number of characters. -/
def readCharsWithin {α : Type} (short : Char → α) (codePoint : Reader α) : Nat → Reader (List α)
  | 0, _ => .error .truncated
  | n + 1, cs => do
    match ← readChar short codePoint cs with
    | (none, cs) => return ([], cs)
    | (some a, cs) =>
      let (as, cs) ← readCharsWithin short codePoint n cs
      return (a :: as, cs)

def readString (cs : List Char) : Except ReadError (String × List Char) :=
  (readCharsWithin id readCodePoint (cs.length + 1) cs).map fun (s, cs) => (String.ofList s, cs)

/-- Reads over a string from after its opening quote; surrogates need no partners. -/
def skipString (cs : List Char) : Except ReadError (List Char) :=
  (readCharsWithin (fun _ => ()) (fun cs => (readHex cs).map fun (_, cs) => ((), cs))
    (cs.length + 1) cs).map (·.2)

/-! ### What holds lists and objects together -/

/-- What comes next in a list or an object: one more item, or its end. The text is given from the
item on, or from after the closing bracket. -/
inductive Ahead where
  | item (rest : List Char)
  | close (rest : List Char)

/-- Looks for the next item of a list. An item that is not the first one follows a comma. -/
def nextItem (first : Bool) (cs : List Char) : Except ReadError Ahead :=
  match skipSpace cs with
  | [] => .error .truncated
  | ']' :: cs => .ok (.close cs)
  | c :: cs =>
    if first then .ok (.item (c :: cs))
    else if c = ',' then
      match skipSpace cs with
      | [] => .error .truncated
      | ']' :: _ => .error (.malformed .token)
      | cs => .ok (.item cs)
    else .error (.malformed .token)

/-- Reads over the end of a list that may have no more items. A comma right before the end is no item. -/
def closeList (cs : List Char) : Except ReadError (List Char) :=
  match skipSpace cs with
  | [] => .error .truncated
  | ']' :: cs => .ok cs
  | ',' :: cs => if (skipSpace cs).head? = some ']' then .error (.malformed .token) else .error (.malformed .surplus)
  | _ => .error (.malformed .surplus)

theorem closeList_eq_ok {cs rest : List Char} : closeList cs = .ok rest ↔ skipSpace cs = ']' :: rest := by
  rw [closeList]
  split
  · next h => simp [h]
  · next h => simp [h]
  · next h => rw [h]; split <;> simp
  · next hclose _ => exact iff_of_false (by simp) (hclose _)

/-- Looks for the next member of an object; its name is read from after its opening quote. -/
def nextMember (first : Bool) (cs : List Char) : Except ReadError Ahead :=
  match skipSpace cs with
  | [] => .error .truncated
  | '}' :: cs => .ok (.close cs)
  | c :: cs =>
    if first then if c = '"' then .ok (.item cs) else .error (.malformed .token)
    else if c = ',' then
      match skipSpace cs with
      | [] => .error .truncated
      | '"' :: cs => .ok (.item cs)
      | _ => .error (.malformed .token)
    else .error (.malformed .token)

def skipColon (cs : List Char) : Except ReadError (List Char) :=
  match skipSpace cs with
  | [] => .error .truncated
  | ':' :: cs => .ok cs
  | _ => .error (.malformed .token)

def expectEnd (cs : List Char) : Except ReadError Unit :=
  if skipSpace cs = [] then .ok () else .error (.malformed .surplus)

/-! ### Scalars -/

/-- Reads a scalar, or only the opening bracket of a list or an object. -/
def readFound (cs : List Char) : Except ReadError (Found × List Char) :=
  match skipSpace cs with
  | [] => .error .truncated
  | 'n' :: cs => (skipWord ['u', 'l', 'l'] cs).map (.null, ·)
  | 't' :: cs => (skipWord ['r', 'u', 'e'] cs).map (.bool true, ·)
  | 'f' :: cs => (skipWord ['a', 'l', 's', 'e'] cs).map (.bool false, ·)
  | '"' :: cs => (readString cs).map fun (s, cs) => (.string s, cs)
  | '[' :: cs => .ok (.array, cs)
  | '{' :: cs => .ok (.object, cs)
  | c :: cs =>
    if startsNumber c then (readNumber (c :: cs)).map fun (n, cs) => (.number n, cs)
    else .error (.malformed .token)

end FeedSieve.Json
