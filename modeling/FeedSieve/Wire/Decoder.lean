import FeedSieve.Json.Skip
import FeedSieve.Json.Tree
import FeedSieve.Wire.Shape

/-! Reading records while their text is read, so that the first fault met is the one reported. A
record is an object, whose members may come in any order, or a list of its fields in their order.
The value of a field is read by its shape; the value of an unknown member is only skipped. -/

namespace FeedSieve.Wire

open Json

/-! ### Scalars -/

def WordSize.expected : WordSize → Expectation
  | .w32 => .word 32
  | .w64 => .word 64

def WordSize.word? : (size : WordSize) → Nat → Option size.Val
  | .w32, n => if n < UInt32.size then some (UInt32.ofNat n) else none
  | .w64, n => if n < UInt64.size then some (UInt64.ofNat n) else none

/-- What was found, as a word; an integer out of its range has a wrong value, a double a wrong type. -/
def WordSize.accept (size : WordSize) (f : Found) : Except Mismatch size.Val :=
  match f with
  | .number (.integer n _) =>
    match if 0 ≤ n then size.word? n.toNat else none with
    | some w => .ok w
    | none => .error (.invalidValue f size.expected)
  | f => .error (.invalidType f size.expected)

/-- What was found, as a double; integers are converted. -/
def acceptReal : Found → Except Mismatch Float
  | .number n => .ok n.toFloat
  | f => .error (.invalidType f .real)

def acceptText : Found → Except Mismatch String
  | .string s => .ok s
  | f => .error (.invalidType f .text)

def acceptFlag : Found → Except Mismatch Bool
  | .bool b => .ok b
  | f => .error (.invalidType f .flag)

/-- Reads a scalar to its end and only then looks whether it is accepted. -/
def readScalar {α : Type} (accept : Found → Except Mismatch α) (cs : List Char) :
    Except ReadError (α × List Char) := do
  let (f, cs) ← readFound cs
  match accept f with
  | .ok a => return (a, cs)
  | .error m => throw (.mismatch m)

/-! ### Records -/

abbrev ShapeReader := (s : Shape) → Reader s.Val

/-- Reads the value of a member, from the colon on, into the field of its name; none where no field
has that name. -/
def Slots.fill (read : ShapeReader) (name : String) (cs : List Char) :
    (fs : List Field) → Slots fs → Option (Except ReadError (Slots fs × List Char))
  | [], () => none
  | f :: fs, (slot, slots) =>
    if f.name = name then
      match slot with
      | some _ => some (.error (.mismatch (.duplicateField name)))
      | none => some do
        let cs ← skipColon cs
        let (v, cs) ← read f.shape cs
        return ((some v, slots), cs)
    else (fill read name cs fs slots).map fun r => r.map fun (slots, cs) => ((slot, slots), cs)

/-- Reads the members of an object, at most the given number of them, and its end. -/
def readKeyedWithin (read : ShapeReader) (fs : List Field) :
    Nat → Bool → Slots fs → Reader (Slots fs)
  | 0, _, _, _ => .error .truncated
  | n + 1, first, slots, cs => do
    match ← nextMember first cs with
    | .close cs => return (slots, cs)
    | .item cs =>
      let (name, cs) ← readString cs
      match slots.fill read name cs fs with
      | some filled =>
        let (slots, cs) ← filled
        readKeyedWithin read fs n false slots cs
      | none =>
        let cs ← skipColon cs
        let cs ← skipDocument cs
        readKeyedWithin read fs n false slots cs

/-- Reads the fields of a record from after the opening brace of its object. -/
def readKeyed (read : ShapeReader) (fs : List Field) (cs : List Char) :
    Except ReadError (Slots fs × List Char) :=
  readKeyedWithin read fs (cs.length + 1) true (Slots.empty fs) cs

/-- Reads the fields of a record from after the opening bracket of a list; at its end the remaining
fields stay without a value. -/
def readPositional (read : ShapeReader) : (fs : List Field) → Bool → Reader (Slots fs)
  | [], _, cs => (closeList cs).map ((), ·)
  | f :: fs, first, cs => do
    match ← nextItem first cs with
    | .close cs => return (Slots.empty (f :: fs), cs)
    | .item cs =>
      let (v, cs) ← read f.shape cs
      let (slots, cs) ← readPositional read fs false cs
      return ((some v, slots), cs)

/-- Reads a record whose parts are read as given; without a reader for them it may have none. -/
def readRecord (inner : Option ShapeReader) (k : RecordKind) (cs : List Char) :
    Except ReadError (k.Val × List Char) := do
  match ← readFound cs, inner with
  | (.array, _), none | (.object, _), none => throw (.malformed .tooDeep)
  | (.array, cs), some read =>
    (readPositional read k.fields true cs).map fun (slots, cs) => (buildRecord k slots, cs)
  | (.object, cs), some read =>
    (readKeyed read k.fields cs).map fun (slots, cs) => (buildRecord k slots, cs)
  | (f, _), _ => throw (.mismatch (.invalidType f (.record k.name)))

/-! ### Shapes -/

/-- Reads a list whose items are read as given; without a reader for them it may have none. -/
def readListOf {α : Type} (inner : Option (Reader α)) (cs : List Char) :
    Except ReadError (List α × List Char) := do
  match ← readFound cs, inner with
  | (.array, _), none => throw (.malformed .tooDeep)
  | (.array, cs), some read => readItems read cs
  | (f, _), _ => throw (.mismatch (.invalidType f .list))

/-- Reads null, or else as given. -/
def readNullable {α : Type} (read : Reader α) (cs : List Char) :
    Except ReadError (Option α × List Char) :=
  match skipSpace cs with
  | 'n' :: cs => (skipWord ['u', 'l', 'l'] cs).map (none, ·)
  | cs => (read cs).map fun (a, cs) => (some a, cs)

/-- Reads what a shape admits, where generic documents and the parts of lists and records are read as
given. -/
def readShape (tree : Reader Json) (inner : Option ShapeReader) : ShapeReader
  | .word size => readScalar size.accept
  | .real => readScalar acceptReal
  | .text => readScalar acceptText
  | .flag => readScalar acceptFlag
  | .anything => fun cs => (tree cs).map fun (j, cs) => (j.normal, cs)
  | .nullable s => readNullable (readShape tree inner s)
  | .listOf s => readListOf (inner.map (· s))
  | .record k => readRecord inner k

/-- Reads what a shape admits, nested to at most the given depth. -/
def read : Nat → ShapeReader
  | 0 => readShape (readTree 0) none
  | n + 1 => readShape (readTree (n + 1)) (some (read n))

end FeedSieve.Wire
