import FeedSieve.Proofs.Outcome
import FeedSieve.Proofs.Rule.Documented
import FeedSieve.Proofs.Rule.Kept
import FeedSieve.Rule.Declaration

/-! Arguments as values and as documents. A list of strings gives the keywords of the list, and no other list gives any.
A number of hashtags is the same number in a document. Under each published name, in any spelling, there is the form
that it is published for. -/

namespace FeedSieve

/-! ### Keywords -/

namespace Keywords

theorem stringsOf_strings (ws : List String) : stringsOf (ws.map .string) = .ok ws := by
  induction ws with
  | nil => rfl
  | cons w ws ih => rw [List.map_cons, stringsOf, ih, map_ok]

/-- A list of strings gives the keywords of the list. -/
theorem ofArgument_strings (ws : List String) : ofArgument (.array (ws.map .string)) = .ok (ofList ws) := by
  rw [ofArgument, stringsOf_strings, map_ok, mapError_ok]

theorem wordsOf_strings (ws : List String) : Documented.wordsOf (.array (ws.map .string)) = ws := by
  simp [Documented.wordsOf, List.filterMap_map]

end Keywords

/-! ### Numbers of hashtags -/

/-- A word in a document asks for the number that it is. -/
theorem HashtagCount.ofArgument_ofWord (n : UInt64) : ofArgument (.number (.ofWord n)) = of (some n) := by
  have hnatural : (Json.Number.ofWord n).natural? = some n.toNat := by
    rw [Json.Number.ofWord, Json.Number.natural?, if_pos (Int.natCast_nonneg _), Int.toNat_natCast]
  rw [ofArgument, argumentCount?, hnatural]
  simp

/-! ### Published names -/

/-- A declaration under a published name, in any spelling, declares what the form of that name declares. -/
theorem Declaration.rule_of_mem_catalogue {p : String × Form} (hp : p ∈ catalogue) {d : Declaration}
    (h : foldName d.name = foldName p.1) : d.rule = p.2.rule d.argument := by
  rw [rule, Form.ofName?_eq hp h]

theorem Declaration.rule_form (form : Form) (argument : Json) : rule ⟨form.name, argument⟩ = form.rule argument := by
  have h : foldName (Declaration.mk form.name argument).name = foldName (form.name, form).1 := rfl
  exact rule_of_mem_catalogue (mem_catalogue form) h

end FeedSieve
