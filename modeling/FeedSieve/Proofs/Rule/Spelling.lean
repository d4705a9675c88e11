import Mathlib.Data.List.Forall2
import FeedSieve.Proofs.Rule.Refusal
import FeedSieve.Proofs.Text.LetterCase

/-! Spellings of keywords and of names. Keywords are trimmed and lower-cased, and so is what they are compared with; the
case of letters within seven bits is seen on neither side. Names may in addition have hyphens and underscores anywhere:
spellings of one name stand for the same form, and a declaration under the one is accepted or refused as it is under
the other, except that the error for a name that is not published repeats the name as it was given. -/

namespace FeedSieve

open Text (SameLetters)

/-! ### Keywords -/

/-- The words are the same one by one, but for the case of letters of the Latin alphabet. -/
abbrev SameWords : List String → List String → Prop := List.Forall₂ fun w w' => SameLetters w.toList w'.toList

namespace Keywords

theorem foldWord_of_sameLetters {w w' : String} (h : SameLetters w.toList w'.toList) : foldWord w = foldWord w' := by
  rw [foldWord, foldWord, h.trim.lower_eq]

theorem ofList_of_sameWords {ws ws' : List String} (h : SameWords ws ws') : ofList ws = ofList ws' := by
  have hfold : ws.map foldWord = ws'.map foldWord := by
    rw [← List.forall₂_eq_eq_eq, List.forall₂_map_left_iff, List.forall₂_map_right_iff]
    exact h.imp fun _ _ => foldWord_of_sameLetters
  rw [ofList, ofList, hfold]

theorem anyIn_of_sameLetters (k : Keywords) {text text' : String} (h : SameLetters text.toList text'.toList) :
    k.anyIn text = k.anyIn text' := by
  rw [anyIn, anyIn, h.lower_eq]

theorem anyIs_of_sameLetters (k : Keywords) {text text' : String} (h : SameLetters text.toList text'.toList) :
    k.anyIs text = k.anyIs text' := by
  rw [anyIs, anyIs, h.lower_eq]

/-- Words that differ only in the case of letters give the same keywords, and texts that differ only so are matched
alike, whether a keyword has to occur in them or to be the whole of them. -/
theorem ofList_blind_to_case {ws ws' : List String} (h : SameWords ws ws') : ofList ws = ofList ws' ∧
    ∀ text text' : String, SameLetters text.toList text'.toList →
      (ofList ws).anyIn text = (ofList ws').anyIn text' ∧ (ofList ws).anyIs text = (ofList ws').anyIs text' := by
  have hwords := ofList_of_sameWords h
  refine ⟨hwords, fun text text' htext => ?_⟩
  rw [hwords]
  exact ⟨anyIn_of_sameLetters _ htext, anyIs_of_sameLetters _ htext⟩

/-- A capital sigma between letters, one at the end of a word, and a blank word. -/
theorem ofList_blind_to_case_sigma : SameWords ["AΣb", " ΣAΣ", " "] ["aΣB", " ΣaΣ", " "] ∧
    SameLetters "by AΣb".toList "BY aΣB".toList ∧ ofList ["AΣb", " ΣAΣ", " "] = ofList ["aΣB", " ΣaΣ", " "] ∧
    (ofList ["AΣb", " ΣAΣ", " "]).anyIn "by AΣb" = (ofList ["aΣB", " ΣaΣ", " "]).anyIn "BY aΣB" := by
  have hwords : SameWords ["AΣb", " ΣAΣ", " "] ["aΣB", " ΣaΣ", " "] := by
    simp only [SameWords, List.forall₂_cons, List.Forall₂.nil, and_true, SameLetters]
    decide +kernel
  have htext : SameLetters "by AΣb".toList "BY aΣB".toList := by
    simp only [SameLetters]
    decide +kernel
  obtain ⟨hkeywords, hmatches⟩ := ofList_blind_to_case hwords
  exact ⟨hwords, htext, hkeywords, (hmatches _ _ htext).1⟩

end Keywords

/-! ### Names -/

/-- A name without its hyphens and underscores. -/
def bareName (name : String) : List Char := name.toList.filter fun c => c ≠ '_' && c ≠ '-'

/-- The names are the same but for the case of letters of the Latin alphabet and for hyphens and underscores. -/
def SameName (n m : String) : Prop := SameLetters (bareName n) (bareName m)

theorem foldName_eq (name : String) : foldName name = ((bareName name).map Char.toLower).flatMap Unicode.lowerChar := by
  rw [List.flatMap_map, foldName, bareName]
  simp only [Unicode.lowerChar_toLower]

variable {n m : String}

theorem SameName.foldName_eq (h : SameName n m) : foldName n = foldName m := by
  rw [FeedSieve.foldName_eq, h, ← FeedSieve.foldName_eq]

theorem SameName.ofName?_eq (h : SameName n m) : Form.ofName? n = Form.ofName? m := by
  rw [Form.ofName?, h.foldName_eq, Form.ofName?]

/-- The error, where it repeats a name, with another name in its place. -/
def RuleError.naming (name : String) : RuleError → RuleError
  | .unknownDeclaration _ => .unknownDeclaration name
  | e => e

namespace Form

variable {form : Form} {argument : Json}

/-- The rule of a form is kept under the name of the form, whatever the argument. -/
theorem name_of_rule {r : Rule} (h : form.rule argument = .ok r) : r.name = form.name := by
  cases form with
  | flag f | hashtags =>
    obtain rfl := Except.ok.inj h
    rfl
  | keywords f =>
    obtain ⟨k, -, rfl⟩ := map_eq_ok.mp (mapError_eq_ok.mp h)
    rfl

theorem mapError_naming_rule (name : String) : (form.rule argument).mapError (.naming name) = form.rule argument := by
  cases form with
  | keywords f => cases h : Keywords.ofArgument argument <;> simp [rule, h, RuleError.naming]
  | _ => rfl

end Form

/-- A declaration under another spelling of its name is the same declaration, except that an error repeats the name
as it was given. -/
theorem Declaration.rule_of_sameName (h : SameName n m) (argument : Json) :
    rule ⟨m, argument⟩ = (rule ⟨n, argument⟩).mapError (.naming m) := by
  rw [rule, rule, ← h.ofName?_eq]
  cases Form.ofName? n with
  | none => rfl
  | some form => exact (Form.mapError_naming_rule m).symm

/-- Without an argument every published declaration has a rule. -/
theorem Declaration.exists_rule_null {form : Form} (h : Form.ofName? n = some form) :
    ∃ r, rule ⟨n, .null⟩ = .ok r ∧ r.name = form.name := by
  have hpublished : Acceptable ⟨n, .null⟩ := ⟨Form.exists_ofName?_iff.mp ⟨form, h⟩, fun _ _ => .null⟩
  obtain ⟨r, hr⟩ := exists_rule_of_acceptable hpublished
  have hform : form.rule .null = .ok r := by simpa only [rule, h] using hr
  exact ⟨r, hr, Form.name_of_rule hform⟩

end FeedSieve
