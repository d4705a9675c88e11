import FeedSieve.Proofs.Rule.Arguments

/-! Which declarations are refused, and with what error. A declaration has to be published under its name, in some
spelling; and if it is one that takes keywords, its argument has to give keywords. Nothing else is refused. -/

namespace FeedSieve

/-! ### Arguments that give keywords -/

/-- Null, a string or a list of strings. -/
inductive GivesKeywords : Json → Prop
  | null : GivesKeywords .null
  | word (w : String) : GivesKeywords (.string w)
  | words (ws : List String) : GivesKeywords (.array (ws.map .string))

/-- What is wrong with an argument that gives no keywords: the first item of the list that is no string, or the
argument as a whole. -/
inductive KeywordFault : Json → ArgumentFault → Prop
  | item (ws : List String) {j : Json} (hj : ∀ w, j ≠ .string w) (rest : List Json) :
    KeywordFault (.array (ws.map .string ++ j :: rest)) (.notKeyword j)
  | bool (b : Bool) : KeywordFault (.bool b) (.notKeywords (.bool b))
  | number (n : Json.Number) : KeywordFault (.number n) (.notKeywords (.number n))
  | object (ms : List (String × Json)) : KeywordFault (.object ms) (.notKeywords (.object ms))

namespace Keywords

/-- The items of a list are strings, or some first one is not. -/
theorem strings_or_first (items : List Json) : (∃ ws : List String, items = ws.map .string) ∨
    ∃ (ws : List String) (j : Json) (rest : List Json), items = ws.map .string ++ j :: rest ∧ ∀ w, j ≠ .string w := by
  induction items with
  | nil => exact .inl ⟨[], rfl⟩
  | cons j js ih =>
    by_cases hj : ∃ w, j = .string w
    · obtain ⟨w, rfl⟩ := hj
      obtain ⟨ws, rfl⟩ | ⟨ws, k, rest, rfl, hk⟩ := ih
      · exact .inl ⟨w :: ws, rfl⟩
      · exact .inr ⟨w :: ws, k, rest, rfl, hk⟩
    · exact .inr ⟨[], j, js, rfl, fun w hw => hj ⟨w, hw⟩⟩

theorem stringsOf_first (ws : List String) {j : Json} (hj : ∀ w, j ≠ .string w) (rest : List Json) :
    stringsOf (ws.map .string ++ j :: rest) = .error j := by
  induction ws with
  | nil =>
    cases j with
    | string w => exact absurd rfl (hj w)
    | _ => rfl
  | cons w ws ih => rw [List.map_cons, List.cons_append, stringsOf, ih, map_error]

theorem ofArgument_of_fault {j : Json} {fault : ArgumentFault} (h : KeywordFault j fault) :
    ofArgument j = .error fault := by
  cases h with
  | item ws hj rest => rw [ofArgument, stringsOf_first ws hj rest, map_error, mapError_error]
  | _ => rfl

theorem exists_ofArgument_of_gives {j : Json} (h : GivesKeywords j) : ∃ k, ofArgument j = .ok k := by
  cases h with
  | null => exact ⟨_, rfl⟩
  | word w => exact ⟨_, rfl⟩
  | words ws => exact ⟨_, ofArgument_strings ws⟩

/-- An argument gives keywords, or something is wrong with it. -/
theorem gives_or_fault (j : Json) : GivesKeywords j ∨ ∃ fault, KeywordFault j fault := by
  cases j with
  | null => exact .inl .null
  | string w => exact .inl (.word w)
  | array items =>
    obtain ⟨ws, rfl⟩ | ⟨ws, j, rest, rfl, hj⟩ := strings_or_first items
    · exact .inl (.words ws)
    · exact .inr ⟨_, .item ws hj rest⟩
  | bool b => exact .inr ⟨_, .bool b⟩
  | number n => exact .inr ⟨_, .number n⟩
  | object ms => exact .inr ⟨_, .object ms⟩

theorem exists_ofArgument_iff {j : Json} : (∃ k, ofArgument j = .ok k) ↔ GivesKeywords j :=
  (iff_of_decided (gives_or_fault j) exists_ofArgument_of_gives fun _ => ofArgument_of_fault).1

theorem ofArgument_eq_error_iff {j : Json} {fault : ArgumentFault} :
    ofArgument j = .error fault ↔ KeywordFault j fault :=
  (iff_of_decided (gives_or_fault j) exists_ofArgument_of_gives fun _ => ofArgument_of_fault).2 fault

/-- The keywords that an argument gives are those of its strings. -/
theorem ofArgument_eq_ok {j : Json} {k : Keywords} (h : ofArgument j = .ok k) :
    k = ofList (Documented.wordsOf j) := by
  cases exists_ofArgument_iff.mp ⟨k, h⟩ with
  | null => exact (Except.ok.inj h).symm
  | word w => exact (Except.ok.inj h).symm
  | words ws =>
    rw [ofArgument_strings] at h
    rw [wordsOf_strings]
    exact (Except.ok.inj h).symm

end Keywords

/-! ### Names -/

/-- A form that takes keywords is published under its own name only. -/
theorem Form.ofName?_eq_keywords_iff {name : String} {f : KeywordForm} :
    Form.ofName? name = some (.keywords f) ↔ foldName f.name = foldName name := by
  refine ⟨?_, fun h => Form.ofName?_eq (FeedSieve.mem_catalogue (.keywords f)) h.symm⟩
  intro h
  obtain ⟨⟨published, form⟩, hmem, hname, rfl⟩ := Form.exists_mem_catalogue h
  obtain hcanonical | halias := List.mem_append.mp hmem
  · obtain ⟨form, -, hform⟩ := List.mem_map.mp hcanonical
    obtain ⟨rfl, rfl⟩ := Prod.mk.inj hform
    exact hname
  · obtain ⟨a, -, ha⟩ := List.mem_map.mp halias
    exact absurd (Prod.mk.inj ha).2 (by simp)

/-! ### Declarations -/

namespace Declaration

/-- A declaration under a published name, in some spelling, whose argument gives keywords if it takes any. -/
structure Acceptable (d : Declaration) : Prop where
  published : ∃ p ∈ catalogue, foldName p.1 = foldName d.name
  keywords : ∀ f : KeywordForm, foldName f.name = foldName d.name → GivesKeywords d.argument

/-- The error with which a declaration is refused. It has the name as it was given if that is not published, and
otherwise the published name. -/
inductive Refused (d : Declaration) : RuleError → Prop
  | unknown (h : ∀ p ∈ catalogue, foldName p.1 ≠ foldName d.name) : Refused d (.unknownDeclaration d.name)
  | argument (f : KeywordForm) (hname : foldName f.name = foldName d.name) {fault : ArgumentFault}
    (h : KeywordFault d.argument fault) : Refused d (.invalidArgument f.name fault)

variable {d : Declaration} {e : RuleError}

theorem exists_rule_of_acceptable (h : d.Acceptable) : ∃ r, d.rule = .ok r := by
  obtain ⟨form, hform⟩ := Form.exists_ofName?_iff.mpr h.published
  simp only [rule, hform]
  cases form with
  | flag f => exact ⟨f.rule, rfl⟩
  | hashtags => exact ⟨hashtagRule (.ofArgument d.argument), rfl⟩
  | keywords f =>
    obtain ⟨k, hk⟩ := Keywords.exists_ofArgument_iff.mpr (h.keywords f (Form.ofName?_eq_keywords_iff.mp hform))
    exact ⟨f.rule k, by rw [Form.rule, hk, map_ok, mapError_ok]⟩

theorem rule_of_refused (h : d.Refused e) : d.rule = .error e := by
  cases h with
  | unknown hnone => rw [rule, Form.ofName?_eq_none_iff.mpr hnone]
  | argument f hname hfault =>
    simp only [rule, Form.ofName?_eq_keywords_iff.mpr hname, Form.rule, Keywords.ofArgument_eq_error_iff.mpr hfault,
      map_error, mapError_error]

/-- A declaration is acceptable, or it is refused. -/
theorem acceptable_or_refused (d : Declaration) : d.Acceptable ∨ ∃ e, d.Refused e := by
  by_cases hpublished : ∃ p ∈ catalogue, foldName p.1 = foldName d.name
  · by_cases hkeywords : ∃ f : KeywordForm, foldName f.name = foldName d.name
    · obtain ⟨f, hf⟩ := hkeywords
      obtain hgives | ⟨fault, hfault⟩ := Keywords.gives_or_fault d.argument
      · exact .inl ⟨hpublished, fun _ _ => hgives⟩
      · exact .inr ⟨_, .argument f hf hfault⟩
    · exact .inl ⟨hpublished, fun f hf => absurd ⟨f, hf⟩ hkeywords⟩
  · exact .inr ⟨_, .unknown fun p hp hname => hpublished ⟨p, hp, hname⟩⟩

theorem exists_rule_iff : (∃ r, d.rule = .ok r) ↔ d.Acceptable :=
  (iff_of_decided (acceptable_or_refused d) exists_rule_of_acceptable fun _ => rule_of_refused).1

theorem rule_eq_error_iff : d.rule = .error e ↔ d.Refused e :=
  (iff_of_decided (acceptable_or_refused d) exists_rule_of_acceptable fun _ => rule_of_refused).2 e

end Declaration

end FeedSieve
