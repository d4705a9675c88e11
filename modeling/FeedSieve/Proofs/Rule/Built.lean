import FeedSieve.Proofs.Rule.Refusal
import FeedSieve.Proofs.Rule.Source

/-! Keywords by the way in which they were built. They may come from one word, from a list of words, from something that
may be missing or from a document, and all ways come to the words that are kept of those given. So all keywords are in
normal form: built anew from their own words they are the same, and each of their words matches itself. -/

namespace FeedSieve.Keywords

/-- The keywords of something that may be missing. -/
def ofOptional {α : Type} (f : α → Keywords) (a : Option α) : Keywords := a.elim none f

/-- The ways in which keywords are built, with the words that are given. -/
inductive BuiltFrom : Keywords → List String → Prop
  | none : BuiltFrom .none []
  | word (w : String) : BuiltFrom (.ofString w) [w]
  | words (ws : List String) : BuiltFrom (.ofList ws) ws
  | pushed (ws : List String) : BuiltFrom (ws.foldl push .none) ws
  | option (w : Option String) : BuiltFrom (.ofOption w) w.toList
  | optional {α : Type} {f : α → Keywords} {given : α → List String} (h : ∀ a, BuiltFrom (f a) (given a))
    (a : Option α) : BuiltFrom (.ofOptional f a) (a.elim [] given)
  | argument {j : Json} {k : Keywords} (h : ofArgument j = .ok k) : BuiltFrom k (Documented.wordsOf j)

variable {k : Keywords} {ws : List String}

theorem BuiltFrom.eq_ofList (h : BuiltFrom k ws) : k = ofList ws := by
  induction h with
  | none => rfl
  | word w => rfl
  | words ws => rfl
  | pushed ws => exact (ofList_eq_foldl_push ws).symm
  | option w => cases w <;> rfl
  | optional h a ih =>
    cases a with
    | none => rfl
    | some a => exact ih a
  | argument h => exact ofArgument_eq_ok h

/-- A kept word matches itself. -/
theorem IsKept.matches_self {w : String} (h : IsKept w) (hw : w ∈ k.words) : k.anyIn w = true ∧ k.anyIs w = true := by
  constructor
  · rw [anyIn_iff, h.lower_eq]
    exact ⟨w, hw, List.infix_refl _⟩
  · rw [anyIs, h.lower_eq, List.any_eq_true]
    exact ⟨w, hw, beq_self_eq_true _⟩

/-- However keywords are built, their words are those of the given ones that are not blank, in the same order, each
trimmed and then lower-cased. Such a word is not empty, has no blanks at its ends and is its own lower-case form. So
whatever is built from the words of some keywords is the same keywords, and every word matches itself among whatever
others, as a part of a text and as the whole of it. -/
theorem BuiltFrom.normal_form (h : BuiltFrom k ws) :
    (∀ w ∈ k.words, w ≠ "" ∧ Text.IsTrimmed w.toList ∧ Text.lower w.toList = w.toList) ∧
    k.words = (ws.filter fun w => !Text.isBlankText w.toList).map
      (fun w => String.ofList (Text.lower (Text.trim w.toList))) ∧
    (ofArgument (.array (k.words.map .string)) = .ok k ∧ ∀ l, BuiltFrom l k.words → l = k) ∧
    ∀ w ∈ k.words, ∀ l : Keywords, w ∈ l.words → l.anyIn w = true ∧ l.anyIs w = true := by
  obtain rfl := h.eq_ofList
  have hnormal := isNormal_ofList ws
  refine ⟨fun w hw => ?_, words_ofList_eq ws, ⟨?_, fun l hl => ?_⟩, fun w hw l => (hnormal w hw).matches_self⟩
  · exact ⟨(hnormal w hw).ne_empty, (hnormal w hw).isTrimmed, (hnormal w hw).lower_eq⟩
  · rw [ofArgument_strings, ofList_words]
  · rw [hl.eq_ofList, ofList_words]

/-- Words for which keywords are asked in a document: one with a wide blank in front and a capital sigma at its end, a
blank one, and one whose capital becomes two characters. -/
def wideWords : List String := ["\u3000ΟΔΟΣ ", " \t", "İ"]

theorem BuiltFrom.normal_form_wide : ∃ k, ofArgument (.array (wideWords.map .string)) = .ok k ∧
    k.words = ["οδος", "i\u0307"] ∧ k.anyIn "οδος" = true ∧ ∀ l, BuiltFrom l ["οδος", "i\u0307"] → l = k := by
  have hwords : (ofList wideWords).words = ["οδος", "i\u0307"] := by decide +kernel
  have hgiven := ofArgument_strings wideWords
  obtain ⟨-, -, ⟨-, hrebuilt⟩, hmatches⟩ := normal_form (.argument hgiven)
  rw [hwords] at hrebuilt hmatches
  exact ⟨_, hgiven, hwords, (hmatches _ (by simp) _ (by simp [hwords])).1, hrebuilt⟩

end FeedSieve.Keywords
