import FeedSieve.Json.Printer
import FeedSieve.Proofs.Json.Number
import FeedSieve.Proofs.Json.Quotation

/-! Documents as trees: induction over them, which numbers they hold, how deep they are nested, and
how their written form begins and ends. -/

namespace FeedSieve.Json

/-- A property of documents holds of all of them if it passes from the items of a list to the list,
and from the values of the members of an object to the object. -/
@[elab_as_elim, induction_eliminator]
theorem inductionOn {motive : Json → Prop} (null : motive .null) (bool : ∀ b, motive (.bool b))
    (number : ∀ n, motive (.number n)) (string : ∀ s, motive (.string s))
    (array : ∀ items, (∀ j ∈ items, motive j) → motive (.array items))
    (object : ∀ members, (∀ m ∈ members, motive m.2) → motive (.object members)) (j : Json) : motive j :=
  @Json.rec motive (fun items => ∀ j ∈ items, motive j) (fun members => ∀ m ∈ members, motive m.2)
    (fun m => motive m.2)
    null bool number string array object (by simp)
    (fun j items hj hitems => by simpa using ⟨hj, hitems⟩) (by simp)
    (fun m members hm hmembers => by simpa using ⟨hm, fun k v h => hmembers (k, v) h⟩)
    (fun _ _ h => h) j

/-! ### The numbers of a document -/

mutual

/-- Every number of a document has the property. -/
def AllNumbers (p : Number → Prop) : Json → Prop
  | .number n => p n
  | .array items => AllNumbersItems p items
  | .object members => AllNumbersMembers p members
  | _ => True

def AllNumbersItems (p : Number → Prop) : List Json → Prop
  | [] => True
  | j :: js => AllNumbers p j ∧ AllNumbersItems p js

def AllNumbersMembers (p : Number → Prop) : List (String × Json) → Prop
  | [] => True
  | (_, v) :: ms => AllNumbers p v ∧ AllNumbersMembers p ms

end

section

variable {p q : Number → Prop}

theorem allNumbers_array {items : List Json} :
    (array items).AllNumbers p ↔ ∀ j ∈ items, j.AllNumbers p := by
  rw [AllNumbers]
  induction items with
  | nil => simp [AllNumbersItems]
  | cons j js ih => simp [AllNumbersItems, ih]

theorem allNumbers_object {members : List (String × Json)} :
    (object members).AllNumbers p ↔ ∀ m ∈ members, m.2.AllNumbers p := by
  rw [AllNumbers]
  induction members with
  | nil => simp [AllNumbersMembers]
  | cons m ms ih => simp [AllNumbersMembers, ih]

theorem AllNumbers.mono {j : Json} (h : j.AllNumbers p) (hpq : ∀ n, p n → q n) : j.AllNumbers q := by
  induction j with
  | number n => exact hpq n h
  | array items ih =>
    rw [allNumbers_array] at h ⊢
    exact fun j hj => ih j hj (h j hj)
  | object members ih =>
    rw [allNumbers_object] at h ⊢
    exact fun m hm => ih m hm (h m hm)
  | _ => trivial

end

/-- A document whose numbers all have a written form. -/
abbrev IsWritable (j : Json) : Prop := j.AllNumbers Number.IsFinite

/-- A number that is no double. -/
def Number.IsInteger : Number → Prop
  | .integer _ _ => True
  | .real _ => False

abbrev IsFloatFree (j : Json) : Prop := j.AllNumbers Number.IsInteger

theorem IsFloatFree.isWritable {j : Json} (h : j.IsFloatFree) : j.IsWritable :=
  h.mono fun n hn => by cases n <;> trivial

/-! ### The depth of a document -/

mutual

/-- How many lists and objects lie one inside another. -/
def depth : Json → Nat
  | .array items => depthItems items + 1
  | .object members => depthMembers members + 1
  | _ => 0

def depthItems : List Json → Nat
  | [] => 0
  | j :: js => max (depth j) (depthItems js)

def depthMembers : List (String × Json) → Nat
  | [] => 0
  | (_, v) :: ms => max (depth v) (depthMembers ms)

end

theorem depthItems_le {items : List Json} {n : Nat} : depthItems items ≤ n ↔ ∀ j ∈ items, j.depth ≤ n := by
  induction items with
  | nil => simp [depthItems]
  | cons j js ih => simp only [depthItems, Nat.max_le, ih, List.forall_mem_cons]

theorem depthMembers_le {members : List (String × Json)} {n : Nat} :
    depthMembers members ≤ n ↔ ∀ m ∈ members, m.2.depth ≤ n := by
  induction members with
  | nil => simp [depthMembers]
  | cons m ms ih => simp only [depthMembers, Nat.max_le, ih, List.forall_mem_cons]

theorem depth_array_le {items : List Json} {n : Nat} :
    (array items).depth ≤ n + 1 ↔ ∀ j ∈ items, j.depth ≤ n := by
  rw [depth, Nat.add_le_add_iff_right, depthItems_le]

theorem depth_object_le {members : List (String × Json)} {n : Nat} :
    (object members).depth ≤ n + 1 ↔ ∀ m ∈ members, m.2.depth ≤ n := by
  rw [depth, Nat.add_le_add_iff_right, depthMembers_le]

/-! ### Keys -/

/-- The value under a key, where the document is an object that has it; the first one, if there are
several. -/
def member? (j : Json) (key : String) : Option Json :=
  match j with
  | .object members => members.lookup key
  | _ => none

/-- The value at the end of a path of keys. -/
def at? (j : Json) : List String → Option Json
  | [] => some j
  | key :: keys => (j.member? key).bind (·.at? keys)

@[simp] theorem at?_singleton (j : Json) (key : String) : j.at? [key] = j.member? key := by
  cases h : j.member? key <;> simp [at?, h]

@[simp] theorem at?_cons_cons (j : Json) (key key' : String) (keys : List String) :
    j.at? (key :: key' :: keys) = (j.member? key).bind (·.at? (key' :: keys)) := rfl

/-! ### The written form -/

/-- The written form of items and the end of their list, with a comma before the first of them or
without one. -/
def itemsText : Bool → List Json → List Char
  | _, [] => [']']
  | true, j :: js => render j ++ renderItems js
  | false, j :: js => ',' :: render j ++ renderItems js

/-- The written form of members and the end of their object, the first of them from its name on if
nothing but the brace is before it. -/
def membersText : Bool → List (String × Json) → List Char
  | _, [] => ['}']
  | true, (n, v) :: ms => renderString n ++ ':' :: render v ++ renderMembers ms
  | false, (n, v) :: ms => ',' :: renderString n ++ ':' :: render v ++ renderMembers ms

theorem itemsText_false (items : List Json) : itemsText false items = renderItems items := by
  cases items <;> rfl

theorem membersText_false (members : List (String × Json)) : membersText false members = renderMembers members := by
  cases members <;> rfl

theorem render_array (items : List Json) : (array items).render = '[' :: itemsText true items := by
  cases items <;> simp [render, itemsText]

theorem render_object (members : List (String × Json)) :
    (object members).render = '{' :: membersText true members := by
  cases members <;> simp [render, membersText]

theorem stops_renderItems (items : List Json) (rest : List Char) : Stops (renderItems items ++ rest) := by
  cases items <;> exact .cons (by decide) _

theorem stops_renderMembers (members : List (String × Json)) (rest : List Char) :
    Stops (renderMembers members ++ rest) := by
  cases members <;> exact .cons (by decide) _

theorem length_lt_renderItems (items : List Json) : items.length < (renderItems items).length := by
  induction items with
  | nil => simp [renderItems]
  | cons j js ih =>
    rw [renderItems, List.length_append, List.length_cons, List.length_cons]
    omega

theorem length_lt_renderMembers (members : List (String × Json)) :
    members.length < (renderMembers members).length := by
  induction members with
  | nil => simp [renderMembers]
  | cons m ms ih =>
    rw [renderMembers, List.length_append, List.length_append, List.length_cons, List.length_cons]
    omega

theorem length_le_itemsText (first : Bool) (items : List Json) :
    items.length ≤ (itemsText first items).length := by
  cases items with
  | nil => simp
  | cons j js =>
    have := length_lt_renderItems js
    cases first <;> simp only [itemsText, List.length_append, List.length_cons] <;> omega

theorem length_le_membersText (first : Bool) (members : List (String × Json)) :
    members.length ≤ (membersText first members).length := by
  cases members with
  | nil => simp
  | cons m ms =>
    have := length_lt_renderMembers ms
    cases first <;> simp only [membersText, List.length_append, List.length_cons] <;> omega

/-- The characters that the written form of a document can begin with. -/
def beginsDocument (c : Char) : Bool :=
  c = 'n' || c = 't' || c = 'f' || c = '"' || c = '[' || c = '{' || startsNumber c

theorem head_render {j : Json} (h : j.IsWritable) :
    ∃ c cs, j.render = c :: cs ∧ beginsDocument c = true ∧ (c = 'n' → j = .null) := by
  cases j with
  | null => exact ⟨'n', ['u', 'l', 'l'], rfl, by decide, fun _ => rfl⟩
  | bool b =>
    cases b with
    | false => exact ⟨'f', ['a', 'l', 's', 'e'], rfl, by decide, fun hc => absurd hc (by decide)⟩
    | true => exact ⟨'t', ['r', 'u', 'e'], rfl, by decide, fun hc => absurd hc (by decide)⟩
  | number n =>
    obtain ⟨l, hl, htext⟩ := Number.exists_literal (n := n) h
    obtain ⟨c, cs, hcs, hc⟩ := head_text l hl
    refine ⟨c, cs, ?_, by simp [beginsDocument, hc], ?_⟩
    · rw [render, ← htext, hcs]
    · rintro rfl
      exact absurd hc (by decide)
  | string s => exact ⟨'"', afterQuote s, rfl, by decide, fun hc => absurd hc (by decide)⟩
  | array items =>
    exact ⟨'[', itemsText true items, render_array items, by decide, fun hc => absurd hc (by decide)⟩
  | object members =>
    exact ⟨'{', membersText true members, render_object members, by decide, fun hc => absurd hc (by decide)⟩

theorem isSpace_of_beginsDocument {c : Char} (h : beginsDocument c = true) : isSpace c = false := by
  cases hs : isSpace c with
  | false => rfl
  | true =>
    simp only [isSpace, Bool.or_eq_true, decide_eq_true_eq] at hs
    rcases hs with ((rfl | rfl) | rfl) | rfl <;> exact absurd h (by decide)

theorem skipSpace_render {j : Json} (h : j.IsWritable) (rest : List Char) :
    skipSpace (j.render ++ rest) = j.render ++ rest := by
  obtain ⟨c, cs, hcs, hc, -⟩ := head_render h
  rw [hcs, List.cons_append, skipSpace, List.dropWhile_cons_of_neg]
  simp [isSpace_of_beginsDocument hc]

end FeedSieve.Json
