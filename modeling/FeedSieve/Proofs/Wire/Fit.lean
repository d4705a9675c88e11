import FeedSieve.Proofs.Json.Reread
import FeedSieve.Tweet.Decoder

/-! How a document fits a shape, decided on the tree. This is the second account of decoding: it looks
at values where a reader looks at characters, and it knows neither blanks nor the ends of texts. On the
written form of a document the two agree, errors included. -/

namespace FeedSieve.Wire

open Json

abbrev ShapeFit := (s : Shape) → Json → Except ReadError s.Val

def fitScalar {α : Type} (accept : Found → Except Mismatch α) (j : Json) : Except ReadError α :=
  j.found >>= fun f => (accept f).mapError .mismatch

/-- Puts the value of a member into the field of its name; none where no field has that name. -/
def Slots.put (fit : ShapeFit) (name : String) (value : Json) :
    (fs : List Field) → Slots fs → Option (Except ReadError (Slots fs))
  | [], () => none
  | f :: fs, (slot, slots) =>
    if f.name = name then
      match slot with
      | some _ => some (.error (.mismatch (.duplicateField name)))
      | none => some ((fit f.shape value).map fun v => (some v, slots))
    else (put fit name value fs slots).map fun r => r.map fun slots => (slot, slots)

def fitKeyed (fit : ShapeFit) (fs : List Field) : Slots fs → List (String × Json) → Except ReadError (Slots fs)
  | slots, [] => .ok slots
  | slots, (name, value) :: ms =>
    match Slots.put fit name value fs slots with
    | some filled => filled >>= fun slots => fitKeyed fit fs slots ms
    | none => fitKeyed fit fs slots ms

/-- Fills the fields of a record from the items of a list, which may be fewer. -/
def fitPositional (fit : ShapeFit) : (fs : List Field) → List Json → Except ReadError (Slots fs)
  | [], [] => .ok ()
  | [], _ :: _ => .error (.malformed .surplus)
  | f :: fs, [] => .ok (Slots.empty (f :: fs))
  | f :: fs, j :: js => do
    let v ← fit f.shape j
    let slots ← fitPositional fit fs js
    return (some v, slots)

/-- How a document fits a record, given how its parts fit; without that it may have none. -/
def fitRecord (inner : Option ShapeFit) (k : RecordKind) (j : Json) : Except ReadError k.Val :=
  match j, inner with
  | .array _, none | .object _, none => .error (.malformed .tooDeep)
  | .array items, some fit => (fitPositional fit k.fields items).map (buildRecord k)
  | .object members, some fit => (fitKeyed fit k.fields (Slots.empty k.fields) members).map (buildRecord k)
  | j, _ => fitScalar (fun f => .error (.invalidType f (.record k.name))) j

/-- How a document fits a list, given how its items fit; without that it may have none. -/
def fitListOf {α : Type} (inner : Option (Json → Except ReadError α)) (j : Json) : Except ReadError (List α) :=
  match j, inner with
  | .array _, none => .error (.malformed .tooDeep)
  | .array items, some fit => items.mapM fit
  | j, _ => fitScalar (fun f => .error (.invalidType f .list)) j

/-- How a document fits a place that may hold null. -/
def fitNullable {α : Type} (fit : Json → Except ReadError α) : Json → Except ReadError (Option α)
  | .null => .ok none
  | j => (fit j).map some

/-- How a document fits a shape, given how generic documents are taken and how parts fit. -/
def fitShape (tree : Json → Except ReadError Json) (inner : Option ShapeFit) : ShapeFit
  | .word size => fitScalar size.accept
  | .real => fitScalar acceptReal
  | .text => fitScalar acceptText
  | .flag => fitScalar acceptFlag
  | .anything => fun j => (tree j).map normal
  | .nullable s => fitNullable (fitShape tree inner s)
  | .listOf s => fitListOf (inner.map (· s))
  | .record k => fitRecord inner k

/-- How a document fits a shape when it may be nested to the given depth. -/
def fit : Nat → ShapeFit
  | 0 => fitShape (reread 0) none
  | n + 1 => fitShape (reread (n + 1)) (some (fit n))

/-! ### Scalars -/

section

variable {α : Type} {accept : Found → Except Mismatch α} {j : Json}

def OnlyScalars (accept : Found → Except Mismatch α) : Prop :=
  ∀ f a, accept f = .ok a → f ≠ .array ∧ f ≠ .object

theorem found_eq_ok {f : Found} (h : j.found = .ok f) (ha : f ≠ .array) (ho : f ≠ .object) : j.inside = [] := by
  cases j with
  | array items => exact absurd (Except.ok.inj h).symm ha
  | object members => exact absurd (Except.ok.inj h).symm ho
  | _ => rfl

theorem readScalar_render (ha : OnlyScalars accept) (h : j.IsWritable) :
    ReadsAs (readScalar accept) (fitScalar accept) j := by
  intro rest hr
  rw [readScalar, readFound_render h hr, fitScalar]
  cases hf : j.found with
  | error e => rfl
  | ok f =>
    rw [map_ok, ok_bind, ok_bind]
    dsimp only
    cases hacc : accept f with
    | error m => rfl
    | ok a =>
      obtain ⟨hna, hno⟩ := ha f a hacc
      rw [found_eq_ok hf hna hno]
      rfl

theorem onlyScalars_accept (size : WordSize) : OnlyScalars size.accept := by
  rintro f a h
  refine ⟨?_, ?_⟩ <;> (rintro rfl; simp [WordSize.accept] at h)

theorem onlyScalars_acceptReal : OnlyScalars acceptReal := by
  rintro f a h
  refine ⟨?_, ?_⟩ <;> (rintro rfl; simp [acceptReal] at h)

theorem onlyScalars_acceptText : OnlyScalars acceptText := by
  rintro f a h
  refine ⟨?_, ?_⟩ <;> (rintro rfl; simp [acceptText] at h)

theorem onlyScalars_acceptFlag : OnlyScalars acceptFlag := by
  rintro f a h
  refine ⟨?_, ?_⟩ <;> (rintro rfl; simp [acceptFlag] at h)

end

/-! ### Records -/

section

variable {read : ShapeReader} {fit : ShapeFit}

theorem fill_render {v : Json} (h : ∀ s, ReadsAs (read s) (fit s) v) (name : String) {rest : List Char}
    (hr : Stops rest) (fs : List Field) (slots : Slots fs) :
    Slots.fill read name (':' :: (v.render ++ rest)) fs slots =
      (Slots.put fit name v fs slots).map fun r => r.map (·, rest) := by
  induction fs with
  | nil => rfl
  | cons f fs ih =>
    obtain ⟨slot, slots⟩ := slots
    simp only [Slots.fill, Slots.put]
    split
    · cases slot with
      | some _ => rfl
      | none =>
        rw [skipColon_colon, ok_bind, h f.shape rest hr]
        cases fit f.shape v <;> rfl
    · rw [ih]
      cases Slots.put fit name v fs slots with
      | none => rfl
      | some r => cases r <;> rfl

theorem readKeyedWithin_render (h : ∀ s j, j.IsWritable → ReadsAs (read s) (fit s) j) (fs : List Field)
    {members : List (String × Json)} (hw : ∀ m ∈ members, m.2.IsWritable) (slots : Slots fs) (rest : List Char)
    (first : Bool) (n : Nat) (hn : members.length < n) :
    readKeyedWithin read fs n first slots (membersText first members ++ rest) =
      (fitKeyed fit fs slots members).map (·, rest) := by
  induction members generalizing slots first n with
  | nil =>
    obtain ⟨n, rfl⟩ := Nat.exists_eq_add_of_lt hn
    rfl
  | cons m ms ih =>
    obtain ⟨n, rfl⟩ := Nat.exists_eq_add_of_le' (Nat.zero_lt_of_lt hn)
    obtain ⟨name, v⟩ := m
    have hv : v.IsWritable := hw (name, v) (by simp)
    have hstop := stops_renderMembers ms rest
    have hms := fun slots => ih (fun k hk => hw k (by simp [hk])) slots false n (by simpa using hn)
    simp only [membersText_false] at hms
    rw [readKeyedWithin, nextMember_membersText, ok_bind]
    dsimp only
    rw [readString_afterQuote, ok_bind]
    dsimp only
    rw [fill_render (fun s => h s v hv) name hstop, fitKeyed]
    cases Slots.put fit name v fs slots with
    | none =>
      dsimp only [Option.map]
      rw [skipColon_colon, ok_bind, skipDocument_render hv hstop, ok_bind, hms]
    | some r =>
      cases r with
      | error e => rfl
      | ok slots =>
        dsimp only [Option.map]
        rw [map_ok, ok_bind, ok_bind]
        exact hms slots

theorem closeList_comma (cs : List Char) : closeList (',' :: cs) =
    if (skipSpace cs).head? = some ']' then .error (.malformed .token) else .error (.malformed .surplus) := rfl

theorem closeList_itemsText {items : List Json} (hw : ∀ j ∈ items, j.IsWritable) (first : Bool)
    (rest : List Char) : closeList (itemsText first items ++ rest) =
      if items = [] then .ok rest else .error (.malformed .surplus) := by
  cases items with
  | nil => rfl
  | cons j js =>
    obtain ⟨c, cs, hcs, hc, -⟩ := head_render (hw j (by simp))
    have hskip := skipSpace_render (hw j (by simp)) (renderItems js ++ rest)
    have hclose : c ≠ ']' := by rintro rfl; exact absurd hc (by decide)
    have hcomma : c ≠ ',' := by rintro rfl; exact absurd hc (by decide)
    cases first with
    | true =>
      rw [itemsText, List.append_assoc, closeList, hskip, hcs]
      simp [hclose, hcomma]
    | false =>
      refine (closeList_comma (j.render ++ renderItems js ++ rest)).trans ?_
      rw [List.append_assoc, hskip, hcs]
      simp [hclose]

theorem readPositional_render (h : ∀ s j, j.IsWritable → ReadsAs (read s) (fit s) j) (fs : List Field)
    {items : List Json} (hw : ∀ j ∈ items, j.IsWritable) (rest : List Char) (first : Bool) :
    readPositional read fs first (itemsText first items ++ rest) = (fitPositional fit fs items).map (·, rest) := by
  induction fs generalizing items first with
  | nil =>
    rw [readPositional, closeList_itemsText hw]
    cases items <;> rfl
  | cons f fs ih =>
    cases items with
    | nil => rfl
    | cons j js =>
      have hj := hw j (by simp)
      have hjs := @ih js (fun k hk => hw k (by simp [hk])) false
      rw [readPositional, nextItem_itemsText hj, ok_bind]
      dsimp only
      rw [h f.shape j hj _ (stops_renderItems js rest), fitPositional]
      rw [itemsText_false] at hjs
      cases fit f.shape j with
      | error e => rfl
      | ok v =>
        rw [map_ok, ok_bind, ok_bind]
        dsimp only
        rw [hjs]
        cases fitPositional fit fs js <;> rfl

theorem readKeyed_render (h : ∀ s j, j.IsWritable → ReadsAs (read s) (fit s) j) (fs : List Field)
    {members : List (String × Json)} (hw : ∀ m ∈ members, m.2.IsWritable) (rest : List Char) :
    readKeyed read fs (membersText true members ++ rest) =
      (fitKeyed fit fs (Slots.empty fs) members).map (·, rest) := by
  apply readKeyedWithin_render h fs hw
  have := length_le_membersText true members
  rw [List.length_append]
  omega

end

/-! ### Shapes -/

/-- The parts of written documents are read as they fit, or both accounts know no parts. -/
inductive Agree : Option ShapeReader → Option ShapeFit → Prop
  | none : Agree none none
  | some {read : ShapeReader} {fit : ShapeFit} (h : ∀ s j, j.IsWritable → ReadsAs (read s) (fit s) j) :
    Agree (some read) (some fit)

section

variable {inner : Option ShapeReader} {parts : Option ShapeFit} {j : Json}

theorem readRecord_render (ha : Agree inner parts) (k : RecordKind) (h : j.IsWritable) :
    ReadsAs (readRecord inner k) (fitRecord parts k) j := by
  intro rest hr
  rw [readRecord, readFound_render h hr]
  cases ha with
  | none =>
    cases j with
    | number n => cases hn : n.reread <;> simp [found, hn, fitRecord, fitScalar]
    | _ => rfl
  | some hparts =>
    cases j with
    | number n => cases hn : n.reread <;> simp [found, hn, fitRecord, fitScalar]
    | array items =>
      have hitems := readPositional_render hparts k.fields (allNumbers_array.mp h) rest true
      rw [found, map_ok, ok_bind, fitRecord]
      dsimp only [inside]
      rw [hitems]
      cases fitPositional _ k.fields items <;> rfl
    | object members =>
      have hmembers := readKeyed_render hparts k.fields (allNumbers_object.mp h) rest
      rw [found, map_ok, ok_bind, fitRecord]
      dsimp only [inside]
      rw [hmembers]
      cases fitKeyed _ k.fields _ members <;> rfl
    | _ => rfl

theorem readListOf_render (ha : Agree inner parts) (s : Shape) (h : j.IsWritable) :
    ReadsAs (readListOf (inner.map (· s))) (fitListOf (parts.map (· s))) j := by
  intro rest hr
  rw [readListOf, readFound_render h hr]
  cases ha with
  | none =>
    cases j with
    | number n => cases hn : n.reread <;> simp [found, hn, fitListOf, fitScalar]
    | _ => rfl
  | some hparts =>
    cases j with
    | number n => cases hn : n.reread <;> simp [found, hn, fitListOf, fitScalar]
    | array items =>
      have hw := allNumbers_array.mp h
      exact readItems_render hw (fun j hj => hparts s j (hw j hj)) rest
    | _ => rfl

theorem readNullable_render {α : Type} {read : Reader α} {fit : Json → Except ReadError α} (h : j.IsWritable)
    (hread : ReadsAs read fit j) : ReadsAs (readNullable read) (fitNullable fit) j := by
  intro rest hr
  obtain ⟨c, cs, hcs, -, hnull⟩ := head_render h
  by_cases hc : c = 'n'
  · rw [hnull hc]
    rfl
  · have hfit : fitNullable fit j = (fit j).map some := by
      cases j with
      | null => exact absurd (List.cons.inj hcs).1.symm hc
      | _ => rfl
    have hj := hread rest hr
    rw [readNullable, skipSpace_render h, hfit]
    rw [hcs, List.cons_append] at hj ⊢
    split
    · next heq => exact absurd (List.cons.inj heq).1 hc
    · rw [hj]
      cases fit j <;> rfl

/-- A shape is read as it fits, if generic documents and parts are. -/
theorem readShape_render {readTree : Reader Json} {tree : Json → Except ReadError Json} (ha : Agree inner parts)
    (htree : ∀ j, j.IsWritable → ReadsAs readTree tree j) (s : Shape) (h : j.IsWritable) :
    ReadsAs (readShape readTree inner s) (fitShape tree parts s) j := by
  induction s with
  | word size => exact readScalar_render (onlyScalars_accept size) h
  | real => exact readScalar_render onlyScalars_acceptReal h
  | text => exact readScalar_render onlyScalars_acceptText h
  | flag => exact readScalar_render onlyScalars_acceptFlag h
  | anything =>
    intro rest hr
    have hj := htree j h rest hr
    rw [readShape, fitShape]
    dsimp only
    rw [hj]
    cases tree j <;> rfl
  | nullable s ih => exact readNullable_render h ih
  | listOf s ih => exact readListOf_render ha s h
  | record k => exact readRecord_render ha k h

end

/-- On written documents reading is fitting. -/
theorem read_render (n : Nat) (s : Shape) {j : Json} (h : j.IsWritable) : ReadsAs (read n s) (fit n s) j := by
  induction n generalizing s j with
  | zero => exact readShape_render .none (fun j hj => readTree_render hj 0) s h
  | succ n ih => exact readShape_render (.some fun s j hj => ih s hj) (fun j hj => readTree_render hj (n + 1)) s h

end FeedSieve.Wire

namespace FeedSieve.Tweet

open Json

/-- What the text of a document holds is what the document fits. -/
theorem decode_text {j : Json} (h : j.IsWritable) : decode j.text = Wire.fit depthLimit (.record .tweet) j := by
  have hread := Wire.read_render depthLimit (.record .tweet) h [] (.nil _)
  rw [List.append_nil] at hread
  rw [decode, Json.text, String.toList_ofList, hread]
  cases Wire.fit depthLimit (.record .tweet) j <;> rfl

end FeedSieve.Tweet
