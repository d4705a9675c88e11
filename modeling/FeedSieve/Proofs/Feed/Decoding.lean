import FeedSieve.Feed.Decoding
import FeedSieve.Proofs.Feed.Lines
import FeedSieve.Proofs.Text.Bytes

/-! Decoding a stream line by line. What a line holds depends on its own bytes only, and the items of a stream are
those of its lines, each under the number of its line. So a stream that ends with a newline gives the same items
whatever follows it, and what follows gives the items that it gives by itself, further down. -/

namespace FeedSieve.Feed

/-- What a line can hold. -/
inductive Reading where
  | notText
  | blank
  | undecodable (e : Json.ReadError)
  | record (raw : String) (t : Tweet)

/-- What a line holds: no text at all, a blank text, a text that is no record, or a record. -/
inductive Reads : List UInt8 → Reading → Prop
  | notText {line : List UInt8} (h : IsLine line) (hnone : ∀ text, Text.bytes text ≠ line) : Reads line .notText
  | blank {line : List UInt8} {raw : String} (h : Says line (Text.bytes raw))
    (hblank : ∀ c ∈ raw.toList, Unicode.isBlank c = true) : Reads line .blank
  | undecodable {line : List UInt8} {raw : String} {e : Json.ReadError} (h : Says line (Text.bytes raw))
    (hblank : ∃ c ∈ raw.toList, Unicode.isBlank c = false) (he : Tweet.decode raw = .error e) :
    Reads line (.undecodable e)
  | record {line : List UInt8} {raw : String} {t : Tweet} (h : Says line (Text.bytes raw))
    (hblank : ∃ c ∈ raw.toList, Unicode.isBlank c = false) (ht : Tweet.decode raw = .ok t) :
    Reads line (.record raw t)

/-- What the line of a number gives if it holds that. -/
def Reading.item? (number : Nat) : Reading → Option Item
  | .notText => some .notText
  | .blank => none
  | .undecodable e => some (.undecodable number e)
  | .record raw t => some (.decoded number raw t)

/-- The item with its line further down. -/
def Item.later (k : Nat) : Item → Item
  | .decoded line raw t => .decoded (line + k) raw t
  | .undecodable line e => .undecodable (line + k) e
  | .notText => .notText

/-! ### What a line holds -/

/-- What a line that says a text holds. -/
def readingOfText (raw : String) : Reading :=
  if Text.isBlankText raw.toList then .blank
  else match Tweet.decode raw with
    | .ok t => .record raw t
    | .error e => .undecodable e

/-- What a line holds, found out. -/
def reading (line : List UInt8) : Reading :=
  match String.fromUTF8? ⟨(strip line).toArray⟩ with
  | some raw => readingOfText raw
  | none => .notText

section

variable {line : List UInt8} {r : Reading}

theorem reading_of_bytes {raw : String} (h : Text.bytes raw = strip line) : reading line = readingOfText raw := by
  rw [reading, Text.fromUTF8?_eq_some_iff.mpr h]

theorem reading_of_none (h : ∀ text, Text.bytes text ≠ strip line) : reading line = .notText := by
  rw [reading, Text.fromUTF8?_eq_none_iff.mpr h]

theorem item?_eq (number : Nat) (line : List UInt8) : item? number line = (reading line).item? number := by
  by_cases h : ∃ raw, Text.bytes raw = strip line
  · obtain ⟨raw, hraw⟩ := h
    rw [item?, Text.fromUTF8?_eq_some_iff.mpr hraw, reading_of_bytes hraw]
    show itemOfText? number raw = _
    rw [itemOfText?, readingOfText]
    split
    · rfl
    · cases Tweet.decode raw <;> rfl
  · have hnone : ∀ text, Text.bytes text ≠ strip line := fun text htext => h ⟨text, htext⟩
    rw [item?, Text.fromUTF8?_eq_none_iff.mpr hnone, reading_of_none hnone]
    rfl

theorem isBlankText_iff {raw : String} :
    Text.isBlankText raw.toList = true ↔ ∀ c ∈ raw.toList, Unicode.isBlank c = true := List.all_eq_true

theorem not_isBlankText_iff {raw : String} :
    ¬Text.isBlankText raw.toList = true ↔ ∃ c ∈ raw.toList, Unicode.isBlank c = false := by
  rw [Bool.not_eq_true, Text.isBlankText, List.all_eq_false]
  simp only [Bool.not_eq_true]

/-- A line is a text if what it says is one: neither a newline nor a carriage return is part of a longer
character. -/
theorem Says.exists_bytes_iff {raw : List UInt8} (h : Says line raw) :
    (∃ text, Text.bytes text = line) ↔ ∃ text, Text.bytes text = raw := by
  have hnewline : String.utf8EncodeChar '\n' = [newline] := by decide
  have hreturn : String.utf8EncodeChar '\r' = [carriageReturn] := by decide
  cases h with
  | unended _ => exact Iff.rfl
  | ended _ _ => exact Text.exists_bytes_concat_iff hnewline raw
  | returned _ =>
    have hsplit : raw ++ [carriageReturn, newline] = (raw ++ [carriageReturn]) ++ [newline] := by simp
    rw [hsplit, Text.exists_bytes_concat_iff hnewline, Text.exists_bytes_concat_iff hreturn]

theorem reads_reading (h : IsLine line) : Reads line (reading line) := by
  have hsaid : Says line (strip line) := says_iff.mpr ⟨h, rfl⟩
  by_cases htext : ∃ raw, Text.bytes raw = strip line
  · obtain ⟨raw, hraw⟩ := htext
    rw [← hraw] at hsaid
    rw [reading_of_bytes hraw, readingOfText]
    by_cases hblank : Text.isBlankText raw.toList = true
    · rw [if_pos hblank]
      exact .blank hsaid (isBlankText_iff.mp hblank)
    · rw [if_neg hblank]
      cases hdecode : Tweet.decode raw with
      | error e => exact .undecodable hsaid (not_isBlankText_iff.mp hblank) hdecode
      | ok t => exact .record hsaid (not_isBlankText_iff.mp hblank) hdecode
  · -- the line ending makes no text of it either
    rw [reading_of_none fun text h => htext ⟨text, h⟩]
    exact .notText h fun text h => htext (hsaid.exists_bytes_iff.mp ⟨text, h⟩)

/-- What a line holds can be found out, and it holds nothing else. -/
theorem reads_iff : Reads line r ↔ IsLine line ∧ r = reading line := by
  constructor
  · intro h
    cases h with
    | notText hline hnone =>
      have hsaid : Says line (strip line) := says_iff.mpr ⟨hline, rfl⟩
      have hstrip : ∀ text, Text.bytes text ≠ strip line := by
        intro text htext
        obtain ⟨whole, hwhole⟩ := hsaid.exists_bytes_iff.mpr ⟨text, htext⟩
        exact hnone whole hwhole
      exact ⟨hline, (reading_of_none hstrip).symm⟩
    | blank hsaid hblank =>
      rw [reading_of_bytes (says_iff.mp hsaid).2, readingOfText, if_pos (isBlankText_iff.mpr hblank)]
      exact ⟨hsaid.isLine, rfl⟩
    | undecodable hsaid hblank he =>
      rw [reading_of_bytes (says_iff.mp hsaid).2, readingOfText, if_neg (not_isBlankText_iff.mpr hblank), he]
      exact ⟨hsaid.isLine, rfl⟩
    | record hsaid hblank ht =>
      rw [reading_of_bytes (says_iff.mp hsaid).2, readingOfText, if_neg (not_isBlankText_iff.mpr hblank), ht]
      exact ⟨hsaid.isLine, rfl⟩
  · rintro ⟨hline, rfl⟩
    exact reads_reading hline

end

/-! ### The items of a stream -/

theorem Reading.item?_add (number k : Nat) (r : Reading) : r.item? (number + k) = (r.item? number).map (.later k) := by
  cases r <;> rfl

theorem itemsFrom_add (number k : Nat) (ls : List (List UInt8)) :
    itemsFrom (number + k) ls = (itemsFrom number ls).map (.later k) := by
  induction ls generalizing number with
  | nil => rfl
  | cons line ls ih =>
    have hnext : number + k + 1 = number + 1 + k := by omega
    rw [itemsFrom, itemsFrom, hnext, ih, List.map_append, item?_eq, item?_eq, Reading.item?_add,
      Option.toList_map]

theorem itemsFrom_append (number : Nat) (ls ms : List (List UInt8)) :
    itemsFrom number (ls ++ ms) = itemsFrom number ls ++ itemsFrom (number + ls.length) ms := by
  induction ls generalizing number with
  | nil => rfl
  | cons line ls ih =>
    have hnext : number + 1 + ls.length = number + (line :: ls).length := by
      rw [List.length_cons]
      omega
    rw [List.cons_append, itemsFrom, itemsFrom, ih, hnext, List.append_assoc]

theorem items_append {a : List UInt8} (ha : Ended a) (b : List UInt8) :
    items (a ++ b) = items a ++ (items b).map (.later (a.count newline)) := by
  have hlined : Lined a (lines a) := lined_iff.mpr rfl
  have hlines : lines (a ++ b) = lines a ++ lines b := (lined_iff.mp (hlined.append ha (lined_iff.mpr rfl))).symm
  rw [items, hlines, itemsFrom_append, hlined.length_eq_count ha, itemsFrom_add]
  rfl

theorem items_line {line : List UInt8} (h : IsLine line) : items line = ((reading line).item? 1).toList := by
  by_cases hnil : line = []
  · subst hnil
    rfl
  · have hlines : lines line = [line] := (lined_iff.mp (h.lined hnil)).symm
    rw [items, hlines, itemsFrom, itemsFrom, List.append_nil, item?_eq]

theorem itemsFrom_eq_flatMap {ls : List (List UInt8)} (h : ∀ line ∈ ls, IsLine line) (before : Nat) :
    itemsFrom (1 + before) ls = (ls.zipIdx before).flatMap fun p => (items p.1).map (.later p.2) := by
  induction ls generalizing before with
  | nil => rfl
  | cons line ls ih =>
    have hline : (item? (1 + before) line).toList = (items line).map (.later before) := by
      rw [items_line (h line List.mem_cons_self), item?_eq, Reading.item?_add, Option.toList_map]
    have hrest := ih (fun l hl => h l (List.mem_cons_of_mem line hl)) (before + 1)
    rw [List.zipIdx_cons, List.flatMap_cons, itemsFrom, hline, ← hrest, Nat.add_assoc]

/-- Decoding a stream is local to its lines. A stream that is empty or ends with a newline gives its items
whatever follows it, and what follows gives its own items with their lines as much further down as there are
newlines before it. A line by itself gives what it holds: one item if it is no text, none if it is blank, one
otherwise. And a stream gives what its lines give, each of them once and under its own number. -/
theorem items_local :
    (∀ a b, Ended a → items (a ++ b) = items a ++ (items b).map (.later (a.count newline))) ∧
    (∀ line, IsLine line →
      (∃ r, Reads line r) ∧ ∀ r, Reads line r → items line = (r.item? 1).toList) ∧
    ∀ bytes ls, Lined bytes ls → items bytes = ls.zipIdx.flatMap fun p => (items p.1).map (.later p.2) := by
  refine ⟨fun a b ha => items_append ha b, fun line hline => ⟨⟨_, reads_reading hline⟩, ?_⟩, ?_⟩
  · intro r hr
    rw [(reads_iff.mp hr).2, items_line hline]
  · intro bytes ls hlined
    rw [items, ← lined_iff.mp hlined]
    exact itemsFrom_eq_flatMap hlined.isLine 0

/-- An empty record before a carriage return and a newline, and a blank line. -/
def quietStream : List UInt8 := [123, 125, 13, 10, 32, 10]

/-- A line that is no text, and one that is no record and has no newline. -/
def brokenStream : List UInt8 := [255, 10, 120]

theorem items_local_broken :
    items (quietStream ++ brokenStream) = items quietStream ++ (items brokenStream).map (.later 2) ∧
    Reads [123, 125, 13, 10] (.record "\x7b\x7d" {}) ∧ items [123, 125, 13, 10] = [.decoded 1 "\x7b\x7d" {}] ∧
    items brokenStream = (items [255, 10]).map (.later 0) ++ ((items [120]).map (.later 1) ++ []) ∧
    items (quietStream ++ brokenStream) = [.decoded 1 "\x7b\x7d" {}, .notText, .undecodable 4 (.malformed .token)] := by
  have hended : Ended quietStream := .inr rfl
  have hsaid : Says [123, 125, 13, 10] [123, 125] := @Says.returned [123, 125] (by decide)
  have hrecord : Reads [123, 125, 13, 10] (.record "\x7b\x7d" {}) :=
    .record hsaid ⟨'\x7b', by decide, by decide⟩ (by rfl)
  have hlast : Lined [120] [[120]] := .last (by decide) (by decide)
  have hlined : Lined ([255] ++ newline :: [120]) [[255, 10], [120]] := .cons (by decide) hlast
  exact ⟨items_local.1 quietStream brokenStream hended, hrecord,
    (items_local.2.1 _ (reads_iff.mp hrecord).1).2 _ hrecord, items_local.2.2 brokenStream _ hlined, rfl⟩

end FeedSieve.Feed
