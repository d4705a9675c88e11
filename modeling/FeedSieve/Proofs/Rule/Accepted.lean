import Mathlib.Data.List.Forall2
import FeedSieve.Proofs.Wire.Lookup

/-! Which documents are configs. A declaration, and the record around a list of declarations, may each be given by
keys or by places; so a list in a list could be a config with one declaration or the record of a config. It is never
both, since a list of declarations is no declaration, and it does not matter which reading is tried first. -/

namespace FeedSieve.Config

open Json (depthLimit)
open Wire (length_valuesOf mem_valuesOf)

/-! ### Members -/

/-- One member has the name, and it has the value. -/
def GivenOnce (name : String) (v : Json) (members : List (String × Json)) : Prop :=
  (name, v) ∈ members ∧ (members.map (·.1)).count name = 1

/-- No member has the name. -/
def NotGiven (name : String) (members : List (String × Json)) : Prop := (members.map (·.1)).count name = 0

section

variable {name : String} {v : Json} {members : List (String × Json)}

theorem valuesOf_eq_nil_iff : valuesOf name members = [] ↔ NotGiven name members := by
  rw [NotGiven, ← length_valuesOf, List.length_eq_zero_iff]

theorem valuesOf_eq_singleton_iff : valuesOf name members = [v] ↔ GivenOnce name v members := by
  rw [GivenOnce, ← length_valuesOf, ← mem_valuesOf]
  constructor
  · intro h
    simp [h]
  · rintro ⟨hmem, hlength⟩
    obtain ⟨w, hw⟩ := List.length_eq_one_iff.mp hlength
    rw [hw, List.mem_singleton] at hmem
    rw [hw, hmem]

end

/-! ### Declarations -/

/-- A declaration as a document. The name is given once and the argument once or not at all, by keys among any
others or by their places. The argument is taken in normal form; one that is not given is null. -/
inductive Spells : Json → Declaration → Prop
  | keyed {name : String} {members : List (String × Json)} (hname : GivenOnce "name" (.string name) members)
    (hargument : NotGiven "args" members) : Spells (.object members) ⟨name, .null⟩
  | keyedArgument {name : String} {argument : Json} {members : List (String × Json)}
    (hname : GivenOnce "name" (.string name) members) (hargument : GivenOnce "args" argument members) :
    Spells (.object members) ⟨name, argument.normal⟩
  | placed (name : String) : Spells (.array [.string name]) ⟨name, .null⟩
  | placedArgument (name : String) (argument : Json) :
    Spells (.array [.string name, argument]) ⟨name, argument.normal⟩

section

variable {d : Declaration}

theorem declaration?_object {members : List (String × Json)} :
    declaration? (.object members) = some d ↔ Spells (.object members) d := by
  rw [declaration?]
  constructor
  · intro h
    split at h
    · next name hname hargument =>
      obtain rfl := Option.some.inj h
      exact .keyed (valuesOf_eq_singleton_iff.mp hname) (valuesOf_eq_nil_iff.mp hargument)
    · next name argument hname hargument =>
      obtain rfl := Option.some.inj h
      exact .keyedArgument (valuesOf_eq_singleton_iff.mp hname) (valuesOf_eq_singleton_iff.mp hargument)
    · exact absurd h (by simp)
  · intro h
    cases h with
    | keyed hname hargument => rw [valuesOf_eq_singleton_iff.mpr hname, valuesOf_eq_nil_iff.mpr hargument]
    | keyedArgument hname hargument =>
      rw [valuesOf_eq_singleton_iff.mpr hname, valuesOf_eq_singleton_iff.mpr hargument]

theorem declaration?_array {items : List Json} :
    declaration? (.array items) = some d ↔ Spells (.array items) d := by
  constructor
  · intro h
    rw [declaration?.eq_def] at h
    split at h
    · next heq => exact absurd heq (by simp)
    · next name heq =>
      obtain rfl := Option.some.inj h
      exact heq ▸ .placed name
    · next name argument heq =>
      obtain rfl := Option.some.inj h
      exact heq ▸ .placedArgument name argument
    · exact absurd h (by simp)
  · rintro (_ | _ | _ | _) <;> rfl

theorem declaration?_eq_some_iff {j : Json} : declaration? j = some d ↔ Spells j d := by
  cases j with
  | object members => exact declaration?_object
  | array items => exact declaration?_array
  | _ => exact iff_of_false (by simp [declaration?]) (by rintro ⟨⟩)

end

/-! ### Configs -/

/-- A config as a list of declarations. -/
inductive Lists : Json → Config → Prop
  | list {items : List Json} {ds : List Declaration} (h : List.Forall₂ Spells items ds) : Lists (.array items) ⟨ds⟩

/-- A config as a record with its list of declarations, given by its key among any others or by its place. -/
inductive Wraps : Json → Config → Prop
  | keyed {list : Json} {members : List (String × Json)} {c : Config} (hlist : GivenOnce "filters" list members)
    (h : Lists list c) : Wraps (.object members) c
  | placed {list : Json} {c : Config} (h : Lists list c) : Wraps (.array [list]) c

section

variable {d : Json} {c : Config}

theorem mapM_declaration?_iff {items : List Json} {ds : List Declaration} :
    items.mapM declaration? = some ds ↔ List.Forall₂ Spells items ds := by
  induction items generalizing ds with
  | nil => simp [eq_comm]
  | cons j js ih =>
    simp only [List.mapM_cons, List.forall₂_cons_left_iff, ← ih, ← declaration?_eq_some_iff, Option.bind_eq_bind,
      Option.bind_eq_some_iff, Option.pure_def, Option.some.injEq]
    constructor
    · rintro ⟨d, hd, ds, hds, rfl⟩
      exact ⟨d, ds, hd, hds, rfl⟩
    · rintro ⟨d, ds, hd, hds, rfl⟩
      exact ⟨d, hd, ds, hds, rfl⟩

theorem bare?_eq_some_iff : bare? d = some c ↔ Lists d c := by
  cases d with
  | array items =>
    rw [bare?, Option.map_eq_some_iff]
    constructor
    · rintro ⟨ds, hds, rfl⟩
      exact .list (mapM_declaration?_iff.mp hds)
    · rintro ⟨h⟩
      exact ⟨_, mapM_declaration?_iff.mpr h, rfl⟩
  | _ => exact iff_of_false (by simp [bare?]) (by rintro ⟨⟩)

theorem wrapped?_object {members : List (String × Json)} :
    wrapped? (.object members) = some c ↔ Wraps (.object members) c := by
  rw [wrapped?]
  constructor
  · intro h
    split at h
    · next list hlist => exact .keyed (valuesOf_eq_singleton_iff.mp hlist) (bare?_eq_some_iff.mp h)
    · exact absurd h (by simp)
  · rintro (⟨hlist, h⟩ | _)
    rw [valuesOf_eq_singleton_iff.mpr hlist]
    exact bare?_eq_some_iff.mpr h

theorem wrapped?_array {items : List Json} : wrapped? (.array items) = some c ↔ Wraps (.array items) c := by
  constructor
  · intro h
    rw [wrapped?.eq_def] at h
    split at h
    · next heq => exact absurd heq (by simp)
    · next list heq => exact heq ▸ .placed (bare?_eq_some_iff.mp h)
    · exact absurd h (by simp)
  · rintro (_ | h)
    exact bare?_eq_some_iff.mpr h

theorem wrapped?_eq_some_iff : wrapped? d = some c ↔ Wraps d c := by
  cases d with
  | object members => exact wrapped?_object
  | array items => exact wrapped?_array
  | _ => exact iff_of_false (by simp [wrapped?]) (by rintro ⟨⟩)

/-- What is listed is no string, so a list of declarations is none itself. -/
theorem Lists.not_spells (h : Lists d c) {decl : Declaration} : ¬Spells d decl := by
  intro hd
  obtain ⟨h⟩ := h
  cases hd with
  | placed name | placedArgument name argument =>
    cases h with
    | cons hname _ => cases hname

/-- No document is a config in both ways. -/
theorem Wraps.not_lists {c' : Config} (h : Wraps d c) : ¬Lists d c' := by
  intro hbare
  cases h with
  | keyed hlist h => cases hbare
  | placed h =>
    obtain ⟨hitems⟩ := hbare
    cases hitems with
    | cons hfirst _ => exact h.not_spells hfirst

theorem wrapped?_or_bare? : wrapped? d = none ∨ bare? d = none := by
  cases hwrapped : wrapped? d with
  | none => exact .inl rfl
  | some c =>
    refine .inr (Option.eq_none_iff_forall_ne_some.mpr fun c' hbare => ?_)
    exact (wrapped?_eq_some_iff.mp hwrapped).not_lists (bare?_eq_some_iff.mp hbare)

theorem ofJson?_eq_some_iff : ofJson? d = some c ↔ Wraps d c ∨ Lists d c := by
  rw [ofJson?, ← wrapped?_eq_some_iff, ← bare?_eq_some_iff]
  obtain h | h := @wrapped?_or_bare? d <;> simp [h]

/-! ### Texts -/

/-- The text of a document without doubles that is not nested too deep is read as the document is. -/
theorem parse_text (hf : d.IsFloatFree) (hd : d.depth ≤ depthLimit) : parse d.text =
    match ofJson? d with
    | some c => .ok c
    | none => .error (.notConfig mismatch) := by
  have hread := Json.readTree_render hf.isWritable depthLimit [] (.nil _)
  rw [List.append_nil, Json.reread_eq_ok hf hd, map_ok] at hread
  rw [parse, Json.text, String.toList_ofList, hread, ok_bind]
  dsimp only
  cases ofJson? d <;> rfl

theorem parse_text_eq_ok_iff (hf : d.IsFloatFree) (hd : d.depth ≤ depthLimit) :
    parse d.text = .ok c ↔ Wraps d c ∨ Lists d c := by
  rw [parse_text hf hd, ← ofJson?_eq_some_iff]
  cases ofJson? d <;> simp

/-- A document without doubles that is nested at most 127 deep is read as a config just if it is a list of
declarations, or a record of one, and what is read are these declarations in their order; any other such document
mismatches. No document is both, so that neither reading hides the other. -/
theorem parse_iff_lists_or_wraps (d : Json) :
    (d.IsFloatFree → d.depth ≤ 127 →
      (∀ c, parse d.text = .ok c ↔ Wraps d c ∨ Lists d c) ∧
      ((¬∃ c, Wraps d c ∨ Lists d c) → parse d.text = .error (.notConfig (.mismatch (.noVariant "ConfigShape"))))) ∧
    (∀ c c', Wraps d c → ¬Lists d c') ∧
    (wrapped? d).orElse (fun _ => bare? d) = (bare? d).orElse fun _ => wrapped? d := by
  refine ⟨fun hf hd => ⟨fun c => parse_text_eq_ok_iff hf hd, ?_⟩, fun c c' => Wraps.not_lists, ?_⟩
  · intro hnone
    rw [parse_text hf hd]
    cases hc : ofJson? d with
    | none => rfl
    | some c => exact absurd ⟨c, ofJson?_eq_some_iff.mp hc⟩ hnone
  · obtain h | h := @wrapped?_or_bare? d <;> rw [h] <;> simp

end

/-- A record given by its place. Its first declaration is given by keys, a stranger among them twice; its second one
is given by places. -/
def placedDocument : Json :=
  .array [.array [.object [("colour", .null), ("name", .string "withGeo"), ("colour", .array [])],
    .array [.string "withLanguage", .array [.string "en"]]]]

/-- A record whose list is given twice. -/
def doubledDocument : Json := .object [("filters", .array []), ("filters", .array [])]

theorem parse_iff_lists_or_wraps_placed :
    placedDocument.IsFloatFree ∧ placedDocument.depth ≤ 127 ∧
    parse placedDocument.text = .ok ⟨[⟨"withGeo", .null⟩, ⟨"withLanguage", .array [.string "en"]⟩]⟩ ∧
    doubledDocument.IsFloatFree ∧ doubledDocument.depth ≤ 127 ∧
    parse doubledDocument.text = .error (.notConfig (.mismatch (.noVariant "ConfigShape"))) := by
  have hplaced : placedDocument.IsFloatFree := by
    simp [placedDocument, Json.AllNumbers, Json.AllNumbersItems, Json.AllNumbersMembers]
  have hplacedDepth : placedDocument.depth ≤ 127 := by decide +kernel
  have hdoubled : doubledDocument.IsFloatFree := by
    simp [doubledDocument, Json.AllNumbers, Json.AllNumbersItems, Json.AllNumbersMembers]
  have hdoubledDepth : doubledDocument.depth ≤ 127 := by decide +kernel
  have hwraps : Wraps placedDocument ⟨[⟨"withGeo", .null⟩, ⟨"withLanguage", .array [.string "en"]⟩]⟩ := by
    refine .placed (.list (.cons (.keyed ⟨by simp, by decide⟩ ?_) (.cons (.placedArgument _ _) .nil)))
    exact List.count_eq_zero.mpr (by decide)
  have hnone : ¬∃ c, Wraps doubledDocument c ∨ Lists doubledDocument c := by
    rintro ⟨c, ⟨hlist, -⟩ | hbare⟩
    · exact absurd hlist.2 (by decide)
    · rw [doubledDocument] at hbare
      cases hbare
  exact ⟨hplaced, hplacedDepth, (((parse_iff_lists_or_wraps _).1 hplaced hplacedDepth).1 _).mpr (.inl hwraps),
    hdoubled, hdoubledDepth, ((parse_iff_lists_or_wraps _).1 hdoubled hdoubledDepth).2 hnone⟩

end FeedSieve.Config
