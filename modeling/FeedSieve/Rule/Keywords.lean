import FeedSieve.Rule.Error
import FeedSieve.Text.Lower
import FeedSieve.Text.Occurrence
import FeedSieve.Text.Trim

/-! Keywords: what a source or a language is compared with. They are trimmed and lower-cased when they
are given, blank ones count for nothing, and what they are compared with is lower-cased too. -/

namespace FeedSieve

structure Keywords where
  words : List String
deriving DecidableEq

namespace Keywords

/-- No keywords, which for languages means any. -/
def none : Keywords := ⟨[]⟩

def foldWord (w : String) : String := String.ofList (Text.lower (Text.trim w.toList))

/-- The keywords of a list, blank ones left out. -/
def ofList (ws : List String) : Keywords := ⟨(ws.map foldWord).filter (· ≠ "")⟩

def ofString (w : String) : Keywords := ofList [w]

def ofOption (w : Option String) : Keywords := w.elim none ofString

theorem ofList_append (v w : List String) :
    (ofList (v ++ w)).words = (ofList v).words ++ (ofList w).words := by
  simp [ofList]

/-- The strings of a list; the first item that is none otherwise. -/
def stringsOf : List Json → Except Json (List String)
  | [] => .ok []
  | .string s :: js => (stringsOf js).map (s :: ·)
  | j :: _ => .error j

/-- The keywords that an argument gives: null gives none, and a keyword may stand for a list of one. -/
def ofArgument : Json → Except ArgumentFault Keywords
  | .null => .ok none
  | .string s => .ok (ofString s)
  | .array items => (stringsOf items).map ofList |>.mapError .notKeyword
  | j => .error (.notKeywords j)

/-- Whether some keyword occurs in the text. -/
def anyIn (k : Keywords) (text : String) : Bool :=
  let lowered := Text.lower text.toList
  k.words.any fun w => Text.occursIn w.toList lowered

/-- Whether some keyword is the text. -/
def anyIs (k : Keywords) (text : String) : Bool :=
  let lowered := Text.lower text.toList
  k.words.any fun w => w.toList == lowered

end Keywords

end FeedSieve
