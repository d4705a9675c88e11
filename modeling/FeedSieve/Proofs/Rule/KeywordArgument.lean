import FeedSieve.Proofs.Rule.Refusal

/-! Keywords as arguments in documents. Null, a string or a list of strings is accepted, and nothing else. A list of
strings gives what the words give one behind the other, and a list put together from two gives the keywords of both.
A list is refused for its first item that is no string, whatever follows it, and any other document as a whole; the
error names the declaration and what was found. -/

namespace FeedSieve.Keywords

def ofDeclared (declaration : String) (argument : Json) : Except RuleError Keywords :=
  (ofArgument argument).mapError (.invalidArgument declaration)

/-- A form that takes keywords declares its rule with those that its argument gives. -/
theorem rule_keywords (f : KeywordForm) (argument : Json) :
    (Form.keywords f).rule argument = (ofDeclared f.name argument).map f.rule := by
  rw [Form.rule, ofDeclared]
  cases ofArgument argument <;> rfl

variable {name : String} {j : Json}

theorem exists_ofDeclared_iff : (∃ k, ofDeclared name j = .ok k) ↔ GivesKeywords j := by
  simp only [ofDeclared, mapError_eq_ok, exists_ofArgument_iff]

theorem ofDeclared_strings (ws : List String) : ofDeclared name (.array (ws.map .string)) = .ok (ofList ws) := by
  rw [ofDeclared, ofArgument_strings, mapError_ok]

theorem ofDeclared_of_fault {fault : ArgumentFault} (h : KeywordFault j fault) :
    ofDeclared name j = .error (.invalidArgument name fault) := by
  rw [ofDeclared, ofArgument_of_fault h, mapError_error]

/-- Blank words give no keywords. -/
theorem ofList_eq_none_iff {ws : List String} : ofList ws = none ↔ ∀ w ∈ ws, Text.isBlankText w.toList = true := by
  rw [ofList, none, mk.injEq, List.filter_eq_nil_iff, List.forall_mem_map]
  simp only [decide_eq_true_eq, ne_eq, not_not, foldWord_eq_empty_iff]

/-- What gives keywords as a list has strings for its items. -/
theorem exists_strings {items : List Json} {k : Keywords} (h : ofDeclared name (.array items) = .ok k) :
    ∃ ws : List String, items = ws.map .string ∧ k = ofList ws := by
  cases exists_ofDeclared_iff.mp ⟨k, h⟩ with
  | words ws =>
    rw [ofDeclared_strings] at h
    exact ⟨ws, rfl, (Except.ok.inj h).symm⟩

theorem ofDeclared_append {items rest : List Json} {k l : Keywords} (hk : ofDeclared name (.array items) = .ok k)
    (hl : ofDeclared name (.array rest) = .ok l) :
    ofDeclared name (.array (items ++ rest)) = .ok ⟨k.words ++ l.words⟩ := by
  obtain ⟨v, rfl, rfl⟩ := exists_strings hk
  obtain ⟨w, rfl, rfl⟩ := exists_strings hl
  rw [← List.map_append, ofDeclared_strings, ← ofList_append]

/-- What is no list and gives no keywords is refused as a whole. -/
theorem fault_of_not_array (h : ¬GivesKeywords j) (harray : ∀ items, j ≠ .array items) :
    KeywordFault j (.notKeywords j) := by
  obtain hgives | ⟨fault, hfault⟩ := gives_or_fault j
  · exact absurd hgives h
  · cases hfault with
    | item ws hj rest => exact absurd rfl (harray _)
    | bool b => exact .bool b
    | number n => exact .number n
    | object ms => exact .object ms

/-- The argument of a declaration gives keywords just if it is null, a string or a list of strings. Null and a list of
blank words give none; a string gives the same as it does in a list by itself; a list of strings gives its words put one
behind the other, and two lists together give the keywords of both. Otherwise the error carries the name of the
declaration and the text of what was found: of a list the first item that is no string, of anything else the whole. The
forms that take keywords declare their rules with just these. -/
theorem ofDeclared_exactly (name : String) :
    (∀ j, (∃ k, ofDeclared name j = .ok k) ↔ GivesKeywords j) ∧
    (ofDeclared name .null = .ok none ∧ ∀ ws : List String, (∀ w ∈ ws, Text.isBlankText w.toList = true) →
      ofDeclared name (.array (ws.map .string)) = .ok none) ∧
    (∀ w, ofDeclared name (.string w) = .ok (ofString w) ∧ ofDeclared name (.array [.string w]) = .ok (ofString w)) ∧
    (∀ ws : List String, ofDeclared name (.array (ws.map .string)) = .ok (ofList ws) ∧ ofList ws = ws.foldl push none) ∧
    (∀ v w k l, ofDeclared name (.array v) = .ok k → ofDeclared name (.array w) = .ok l →
      ofDeclared name (.array (v ++ w)) = .ok ⟨k.words ++ l.words⟩) ∧
    (∀ (ws : List String) (j : Json) (rest : List Json), (∀ w, j ≠ .string w) →
      ∃ fault, ofDeclared name (.array (ws.map .string ++ j :: rest)) = .error (.invalidArgument name fault) ∧
        fault.message = "expected a string keyword, found " ++ j.text) ∧
    (∀ j, ¬GivesKeywords j → (∀ items, j ≠ .array items) →
      ∃ fault, ofDeclared name j = .error (.invalidArgument name fault) ∧
        fault.message = "expected a keyword or a list of keywords, found " ++ j.text) ∧
    ∀ (f : KeywordForm) (j : Json), (Form.keywords f).rule j = (ofDeclared f.name j).map f.rule := by
  refine ⟨fun j => exists_ofDeclared_iff, ⟨rfl, fun ws hblank => ?_⟩, fun w => ⟨rfl, ofDeclared_strings [w]⟩,
    fun ws => ⟨ofDeclared_strings ws, ofList_eq_foldl_push ws⟩, fun v w k l => ofDeclared_append,
    fun ws j rest hj => ⟨_, ofDeclared_of_fault (.item ws hj rest), rfl⟩,
    fun j hgives harray => ⟨_, ofDeclared_of_fault (fault_of_not_array hgives harray), rfl⟩, rule_keywords⟩
  rw [ofDeclared_strings, ofList_eq_none_iff.mpr hblank]

/-- A list with two faults, a number, blank words, and two lists of which the second begins with a blank word. -/
theorem ofDeclared_exactly_mixed :
    (∃ fault, ofDeclared "withLanguage" (.array [.string "en", .object [("x", .bool true)], .null]) =
        .error (.invalidArgument "withLanguage" fault) ∧
      fault.message = "expected a string keyword, found \x7b\"x\":true\x7d") ∧
    (∃ fault, ofDeclared "withLanguage" (.number (.ofWord 360)) = .error (.invalidArgument "withLanguage" fault) ∧
      fault.message = "expected a keyword or a list of keywords, found 360") ∧
    ofDeclared "withLanguage" (.array [.string "", .string "\u3000"]) = .ok none ∧
    ofDeclared "withLanguage" (.array ([.string " EN"] ++ [.string " ", .string "Fr"])) = .ok ⟨["en", "fr"]⟩ := by
  obtain ⟨-, ⟨-, hblank⟩, -, hlist, happend, hitem, hwhole, -⟩ := ofDeclared_exactly "withLanguage"
  obtain ⟨fault, hrefused, hfirst⟩ := hitem ["en"] (.object [("x", .bool true)]) [.null] (by simp)
  obtain ⟨fault', hrefused', hnumber⟩ := hwhole (.number (.ofWord 360)) (by rintro ⟨⟩) (by simp)
  have hen : ofList [" EN"] = ⟨["en"]⟩ := by decide +kernel
  have hfr : ofList [" ", "Fr"] = ⟨["fr"]⟩ := by decide +kernel
  refine ⟨⟨fault, hrefused, hfirst.trans (by decide +kernel)⟩,
    ⟨fault', hrefused', hnumber.trans (by decide +kernel)⟩, ?_, ?_⟩
  · exact hblank ["", "\u3000"] (by decide)
  · exact happend _ _ _ _ (hen ▸ (hlist [" EN"]).1) (hfr ▸ (hlist [" ", "Fr"]).1)

end FeedSieve.Keywords
