import FeedSieve.Proofs.Text.Lower
import FeedSieve.Rule.Keywords

/-! Keywords as they are kept. A word is trimmed and lower-cased before it is put behind the others, and is left out if
nothing remains of it. Lower-casing puts no blank at the ends of a word and makes none of it vanish, so the words that
are kept are not empty, have no blanks at their ends and are their own lower-case forms. Such words are kept as they
are given. -/

namespace FeedSieve.Keywords

/-! ### Single words -/

/-- A word as it is kept. -/
structure IsKept (w : String) : Prop where
  ne_empty : w ≠ ""
  isTrimmed : Text.IsTrimmed w.toList
  lower_eq : Text.lower w.toList = w.toList

variable {w : String}

theorem foldWord_eq_empty_iff : foldWord w = "" ↔ Text.isBlankText w.toList = true := by
  rw [← String.toList_eq_nil_iff, foldWord, String.toList_ofList, Text.lower_eq_nil_iff, Text.trim_eq_nil_iff]

theorem isKept_foldWord (h : foldWord w ≠ "") : IsKept (foldWord w) where
  ne_empty := h
  isTrimmed := by
    rw [foldWord, String.toList_ofList]
    exact Text.isTrimmed_lower (Text.isTrimmed_trim w.toList)
  lower_eq := by rw [foldWord, String.toList_ofList, Text.lower_lower]

theorem IsKept.foldWord_eq (h : IsKept w) : foldWord w = w := by
  rw [foldWord, Text.trim_of_isTrimmed h.isTrimmed, h.lower_eq, String.ofList_toList]

/-! ### One word after another -/

/-- Puts a word behind the others, unless it is blank. -/
def push (k : Keywords) (w : String) : Keywords := if foldWord w = "" then k else ⟨k.words ++ [foldWord w]⟩

def IsNormal (k : Keywords) : Prop := ∀ w ∈ k.words, IsKept w

variable {k : Keywords}

theorem IsNormal.push (h : k.IsNormal) (w : String) : (k.push w).IsNormal := by
  rw [Keywords.push]
  split
  · exact h
  · next hne => exact List.forall_mem_append.mpr ⟨h, List.forall_mem_singleton.mpr (isKept_foldWord hne)⟩

theorem IsNormal.foldl_push (h : k.IsNormal) (ws : List String) : (ws.foldl Keywords.push k).IsNormal := by
  induction ws generalizing k with
  | nil => exact h
  | cons w ws ih =>
    -- without this step the two folds are compared by evaluating the test in push
    rw [List.foldl_cons]
    exact ih (h.push w)

theorem words_push (k : Keywords) (w : String) : (k.push w).words = k.words ++ (ofString w).words := by
  by_cases hw : foldWord w = "" <;> simp [push, ofString, ofList, hw]

theorem words_foldl_push (k : Keywords) (ws : List String) :
    (ws.foldl push k).words = k.words ++ (ofList ws).words := by
  induction ws generalizing k with
  | nil => exact (List.append_nil _).symm
  | cons w ws ih =>
    rw [List.foldl_cons, ih, words_push, List.append_assoc, ofString, ← ofList_append, List.singleton_append]

/-- The keywords of a list are its words put one behind the other. -/
theorem ofList_eq_foldl_push (ws : List String) : ofList ws = ws.foldl push none :=
  congrArg mk (words_foldl_push none ws).symm

theorem isNormal_ofList (ws : List String) : (ofList ws).IsNormal := by
  have hnone : none.IsNormal := List.forall_mem_nil _
  rw [ofList_eq_foldl_push]
  exact hnone.foldl_push ws

theorem IsNormal.ofList_words (h : k.IsNormal) : ofList k.words = k := by
  have hfold : k.words.map foldWord = k.words := by
    rw [List.map_congr_left fun w hw => (h w hw).foldWord_eq]
    exact List.map_id' _
  have hfilter : k.words.filter (· ≠ "") = k.words :=
    List.filter_eq_self.mpr fun w hw => decide_eq_true (h w hw).ne_empty
  rw [ofList, hfold, hfilter]

/-- Keywords as they are kept give themselves. -/
theorem ofList_words (ws : List String) : ofList (ofList ws).words = ofList ws := (isNormal_ofList ws).ofList_words

/-- The words of a list that are not blank are kept, in their order. -/
theorem words_ofList_eq (ws : List String) :
    (ofList ws).words = (ws.filter fun w => !Text.isBlankText w.toList).map foldWord := by
  have hblank : (fun w => decide (foldWord w ≠ "")) = fun w => !Text.isBlankText w.toList := by
    funext w
    rw [Bool.eq_iff_iff, decide_eq_true_iff, ne_eq, foldWord_eq_empty_iff, Bool.not_eq_true', Bool.not_eq_true]
  rw [ofList, List.filter_map, ← hblank]
  rfl

end FeedSieve.Keywords
