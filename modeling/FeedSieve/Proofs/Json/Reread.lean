import FeedSieve.Json.Skip
import FeedSieve.Json.Tree
import FeedSieve.Proofs.Json.Document

/-! Reading written documents. What a reader makes of the written form of a document, whatever comes
after it, is a function of the document alone; so lists and objects are read item by item, each with
its own result, and a document is skipped to its very end. -/

namespace FeedSieve.Json

/-- On written documents the reader gives what the function gives, and leaves what comes after. -/
def ReadsAs {α : Type} (read : Reader α) (fit : Json → Except ReadError α) (j : Json) : Prop :=
  ∀ rest, Stops rest → read (j.render ++ rest) = (fit j).map (·, rest)

/-! ### Scalars and brackets -/

/-- What a reader finds at the beginning of a document, doubles as they read back. -/
def found : Json → Except ReadError Found
  | .null => .ok .null
  | .bool b => .ok (.bool b)
  | .number n => n.reread.map .number
  | .string s => .ok (.string s)
  | .array _ => .ok .array
  | .object _ => .ok .object

/-- What comes after the beginning of a document. -/
def inside : Json → List Char
  | .array items => itemsText true items
  | .object members => membersText true members
  | _ => []

theorem ne_of_startsNumber {c : Char} (h : startsNumber c = true) :
    c ≠ 'n' ∧ c ≠ 't' ∧ c ≠ 'f' ∧ c ≠ '"' ∧ c ≠ '[' ∧ c ≠ '{' := by
  refine ⟨?_, ?_, ?_, ?_, ?_, ?_⟩ <;> (rintro rfl; exact absurd h (by decide))

theorem readFound_render {j : Json} (h : j.IsWritable) {rest : List Char} (hr : Stops rest) :
    readFound (j.render ++ rest) = j.found.map (·, j.inside ++ rest) := by
  rw [readFound, skipSpace_render h]
  cases j with
  | null => rfl
  | bool b => cases b <;> rfl
  | number n =>
    obtain ⟨l, hl, htext⟩ := Number.exists_literal (n := n) h
    obtain ⟨c, cs, hcs, hc⟩ := head_text l hl
    have hread := Number.readNumber_render (n := n) h hr
    rw [render, ← htext, hcs, List.cons_append]
    rw [← htext, hcs, List.cons_append] at hread
    simp [ne_of_startsNumber hc, hc, hread, found, inside]
    cases n.reread <;> rfl
  | string s =>
    have hread := readString_afterQuote s rest
    simp only [render, renderString_eq, List.cons_append]
    rw [hread]
    rfl
  | array items => rw [render_array]; rfl
  | object members => rw [render_object]; rfl

theorem skipColon_colon (cs : List Char) : skipColon (':' :: cs) = .ok cs := rfl

/-! ### Lists and objects -/

section

variable {α : Type} {read : Reader α} {fit : Json → Except ReadError α}

theorem nextItem_comma (cs : List Char) : nextItem false (',' :: cs) =
    match skipSpace cs with
    | [] => .error .truncated
    | ']' :: _ => .error (.malformed .token)
    | cs => .ok (.item cs) := rfl

theorem nextItem_itemsText {j : Json} (h : j.IsWritable) (first : Bool) (js : List Json) (rest : List Char) :
    nextItem first (itemsText first (j :: js) ++ rest) = .ok (.item (j.render ++ (renderItems js ++ rest))) := by
  obtain ⟨c, cs, hcs, hc, -⟩ := head_render h
  have hskip := skipSpace_render h (renderItems js ++ rest)
  have hclose : c ≠ ']' := by rintro rfl; exact absurd hc (by decide)
  rw [hcs, List.cons_append] at hskip ⊢
  cases first with
  | true =>
    rw [itemsText, hcs, List.append_assoc, List.cons_append, nextItem, hskip]
    simp
  | false =>
    rw [itemsText, hcs, List.append_assoc, List.cons_append, List.cons_append, nextItem_comma, hskip]
    split
    · next heq => simp at heq
    · next heq => exact absurd (List.cons.inj heq).1 hclose
    · rfl

/-- Written items are read one after another. -/
theorem readItemsWithin_render {items : List Json} (hw : ∀ j ∈ items, j.IsWritable)
    (h : ∀ j ∈ items, ReadsAs read fit j) (rest : List Char) (first : Bool) (n : Nat) (hn : items.length < n) :
    readItemsWithin read n first (itemsText first items ++ rest) = (items.mapM fit).map (·, rest) := by
  induction items generalizing first n with
  | nil =>
    obtain ⟨n, rfl⟩ := Nat.exists_eq_add_of_lt hn
    rfl
  | cons j js ih =>
    obtain ⟨n, rfl⟩ := Nat.exists_eq_add_of_le' (Nat.zero_lt_of_lt hn)
    have hj := h j (by simp) (renderItems js ++ rest) (stops_renderItems js rest)
    have hjs := ih (fun k hk => hw k (by simp [hk])) (fun k hk => h k (by simp [hk])) false n (by simpa using hn)
    rw [readItemsWithin, nextItem_itemsText (hw j (by simp)), ok_bind]
    dsimp only
    rw [hj, List.mapM_cons]
    rw [itemsText_false] at hjs
    cases fit j with
    | error e => rfl
    | ok a =>
      rw [map_ok, ok_bind, ok_bind]
      dsimp only
      rw [hjs]
      cases js.mapM fit <;> rfl

theorem readItems_render {items : List Json} (hw : ∀ j ∈ items, j.IsWritable)
    (h : ∀ j ∈ items, ReadsAs read fit j) (rest : List Char) :
    readItems read (itemsText true items ++ rest) = (items.mapM fit).map (·, rest) := by
  apply readItemsWithin_render hw h
  have := length_le_itemsText true items
  rw [List.length_append]
  omega

theorem nextMember_comma (cs : List Char) : nextMember false (',' :: '"' :: cs) = .ok (.item cs) := rfl

theorem nextMember_membersText (first : Bool) (n : String) (v : Json) (ms : List (String × Json))
    (rest : List Char) : nextMember first (membersText first ((n, v) :: ms) ++ rest) =
      .ok (.item (afterQuote n ++ ':' :: (v.render ++ (renderMembers ms ++ rest)))) := by
  cases first with
  | true => simp [membersText, renderString_eq, nextMember, skipSpace, isSpace]
  | false => simp [membersText, renderString_eq, nextMember_comma]

/-- Written members are read one after another. -/
theorem readMembersWithin_render {members : List (String × Json)} (h : ∀ m ∈ members, ReadsAs read fit m.2)
    (rest : List Char) (first : Bool) (n : Nat) (hn : members.length < n) :
    readMembersWithin read n first (membersText first members ++ rest) =
      (members.mapM fun m => (fit m.2).map (m.1, ·)).map (·, rest) := by
  induction members generalizing first n with
  | nil =>
    obtain ⟨n, rfl⟩ := Nat.exists_eq_add_of_lt hn
    rfl
  | cons m ms ih =>
    obtain ⟨n, rfl⟩ := Nat.exists_eq_add_of_le' (Nat.zero_lt_of_lt hn)
    obtain ⟨name, v⟩ := m
    have hv := h (name, v) (by simp) (renderMembers ms ++ rest) (stops_renderMembers ms rest)
    have hms := ih (fun k hk => h k (by simp [hk])) false n (by simpa using hn)
    rw [readMembersWithin, nextMember_membersText, ok_bind]
    dsimp only
    rw [readString_afterQuote, ok_bind]
    dsimp only
    rw [skipColon_colon, ok_bind, hv, List.mapM_cons]
    rw [membersText_false] at hms
    cases fit v with
    | error e => rfl
    | ok a =>
      rw [map_ok, ok_bind, map_ok, ok_bind]
      dsimp only
      rw [hms]
      cases ms.mapM fun m => (fit m.2).map (m.1, ·) <;> rfl

theorem readMembers_render {members : List (String × Json)} (h : ∀ m ∈ members, ReadsAs read fit m.2)
    (rest : List Char) : readMembers read (membersText true members ++ rest) =
      (members.mapM fun m => (fit m.2).map (m.1, ·)).map (·, rest) := by
  apply readMembersWithin_render h
  have := length_le_membersText true members
  rw [List.length_append]
  omega

end

/-! ### Skipping -/

/-- The document is skipped to its end in fewer steps than it has characters. -/
def IsSkipped (j : Json) : Prop :=
  ∀ n rest, j.render.length < n → Stops rest → skipWithin n (j.render ++ rest) = .ok rest

theorem skipItemsWithin_render {items : List Json} (hw : ∀ j ∈ items, j.IsWritable)
    (h : ∀ j ∈ items, j.IsSkipped) (rest : List Char) (first : Bool) (n : Nat)
    (hn : (itemsText first items).length < n) :
    skipItemsWithin n first (itemsText first items ++ rest) = .ok rest := by
  induction items generalizing first n with
  | nil =>
    obtain ⟨n, rfl⟩ := Nat.exists_eq_add_of_lt hn
    rfl
  | cons j js ih =>
    obtain ⟨n, rfl⟩ := Nat.exists_eq_add_of_le' (Nat.zero_lt_of_lt hn)
    obtain ⟨c, cs, hcs, -, -⟩ := head_render (hw j (by simp))
    have hlen : j.render.length < n ∧ (itemsText false js).length < n := by
      have hpos := length_lt_renderItems js
      have hj : 0 < j.render.length := by simp [hcs]
      rw [itemsText_false]
      cases first <;> simp only [itemsText, List.length_append, List.length_cons] at hn <;> omega
    have hj := h j (by simp) n (renderItems js ++ rest) hlen.1 (stops_renderItems js rest)
    have hjs := ih (fun k hk => hw k (by simp [hk])) (fun k hk => h k (by simp [hk])) false n hlen.2
    rw [skipItemsWithin, nextItem_itemsText (hw j (by simp)), ok_bind]
    dsimp only
    rw [hj, ok_bind, ← itemsText_false, hjs]

theorem skipMembersWithin_render {members : List (String × Json)} (h : ∀ m ∈ members, m.2.IsSkipped)
    (rest : List Char) (first : Bool) (n : Nat) (hn : (membersText first members).length < n) :
    skipMembersWithin n first (membersText first members ++ rest) = .ok rest := by
  induction members generalizing first n with
  | nil =>
    obtain ⟨n, rfl⟩ := Nat.exists_eq_add_of_lt hn
    rfl
  | cons m ms ih =>
    obtain ⟨n, rfl⟩ := Nat.exists_eq_add_of_le' (Nat.zero_lt_of_lt hn)
    obtain ⟨name, v⟩ := m
    have hlen : v.render.length < n ∧ (membersText false ms).length < n := by
      rw [membersText_false]
      cases first <;> simp only [membersText, List.length_append, List.length_cons] at hn <;> omega
    have hv := h (name, v) (by simp) n (renderMembers ms ++ rest) hlen.1 (stops_renderMembers ms rest)
    have hms := ih (fun k hk => h k (by simp [hk])) false n hlen.2
    rw [skipMembersWithin, nextMember_membersText, ok_bind]
    dsimp only
    rw [skipString_afterQuote, ok_bind, skipColon_colon, ok_bind, hv, ok_bind, ← membersText_false, hms]

theorem isSkipped {j : Json} (h : j.IsWritable) : j.IsSkipped := by
  induction j with
  | null =>
    rintro (_ | n) rest hn -
    · omega
    · rfl
  | bool b =>
    rintro (_ | n) rest hn -
    · omega
    · cases b <;> rfl
  | number m =>
    rintro (_ | n) rest hn hr
    · omega
    · obtain ⟨l, hl, htext⟩ := Number.exists_literal (n := m) h
      obtain ⟨c, cs, hcs, hc⟩ := head_text l hl
      have hread := readLiteral_text l hl (.malformed .token) hr
      rw [skipWithin, skipSpace_render h]
      rw [render, ← htext, hcs, List.cons_append]
      rw [hcs, List.cons_append] at hread
      simp [ne_of_startsNumber hc, hc, hread]
  | string s =>
    rintro (_ | n) rest hn -
    · omega
    · rw [skipWithin, skipSpace_render h]
      exact skipString_afterQuote s rest
  | array items ih =>
    rintro (_ | n) rest hn -
    · omega
    · have hw := allNumbers_array.mp h
      rw [render_array] at hn ⊢
      exact skipItemsWithin_render hw (fun j hj => ih j hj (hw j hj)) rest true n (by simpa using hn)
  | object members ih =>
    rintro (_ | n) rest hn -
    · omega
    · have hw := allNumbers_object.mp h
      rw [render_object] at hn ⊢
      exact skipMembersWithin_render (fun m hm => ih m hm (hw m hm)) rest true n (by simpa using hn)

/-- A written document is skipped to its end, however deep it is nested. -/
theorem skipDocument_render {j : Json} (h : j.IsWritable) {rest : List Char} (hr : Stops rest) :
    skipDocument (j.render ++ rest) = .ok rest := by
  apply isSkipped h _ _ _ hr
  rw [List.length_append]
  omega

/-! ### Trees -/

/-- What reading gives where a document is written, with so much depth left: the document with its
doubles as they read back, if it is not nested deeper. -/
def reread : Nat → Json → Except ReadError Json
  | _, .null => .ok .null
  | _, .bool b => .ok (.bool b)
  | _, .number n => n.reread.map .number
  | _, .string s => .ok (.string s)
  | 0, .array _ => .error (.malformed .tooDeep)
  | 0, .object _ => .error (.malformed .tooDeep)
  | n + 1, .array items => (items.mapM (reread n)).map .array
  | n + 1, .object members => (members.mapM fun m => (reread n m.2).map (m.1, ·)).map .object

theorem readTree_render {j : Json} (h : j.IsWritable) (n : Nat) : ReadsAs (readTree n) (reread n) j := by
  intro rest hr
  induction n generalizing j rest with
  | zero =>
    rw [readTree, readNode, readFound_render h hr]
    cases j with
    | number m => cases hm : m.reread <;> simp [found, reread, hm, inside]
    | _ => rfl
  | succ n ih =>
    rw [readTree, readNode, readFound_render h hr]
    cases j with
    | number m => cases hm : m.reread <;> simp [found, reread, hm, inside]
    | array items =>
      have hw := allNumbers_array.mp h
      have hitems := readItems_render hw (fun j hj => ih (hw j hj)) rest
      rw [found, map_ok, ok_bind]
      dsimp only [inside]
      rw [hitems, reread]
      cases items.mapM (reread n) <;> rfl
    | object members =>
      have hw := allNumbers_object.mp h
      have hmembers := readMembers_render (fun m hm => ih (hw m hm)) rest
      rw [found, map_ok, ok_bind]
      dsimp only [inside]
      rw [hmembers, reread]
      cases members.mapM fun m => (reread n m.2).map (m.1, ·) <;> rfl
    | _ => rfl

/-- A document without doubles that is not nested too deep reads back as itself. -/
theorem reread_eq_ok {j : Json} (h : j.IsFloatFree) {n : Nat} (hn : j.depth ≤ n) : j.reread n = .ok j := by
  induction j generalizing n with
  | number m =>
    cases m with
    | integer i hi => cases n <;> simp [reread]
    | real x => exact h.elim
  | array items ih =>
    have hf := allNumbers_array.mp h
    cases n with
    | zero => simp [depth] at hn
    | succ n =>
      have hd := depth_array_le.mp hn
      rw [reread, mapM_eq_ok_self fun j hj => ih j hj (hf j hj) (hd j hj)]
      rfl
  | object members ih =>
    have hf := allNumbers_object.mp h
    cases n with
    | zero => simp [depth] at hn
    | succ n =>
      have hd := depth_object_le.mp hn
      rw [reread, mapM_eq_ok_self fun m hm => by rw [ih m hm (hf m hm) (hd m hm)]; rfl]
      rfl
  | _ => cases n <;> rfl

end FeedSieve.Json
