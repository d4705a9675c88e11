import Mathlib.Data.List.Forall2
import FeedSieve.Json.Value

/-! The schema of the feed: for every record the names of its fields in their order, each with what may stand
there. It is stated of documents alone, with no regard to shapes, readers or depths. A record may be given by
its keys or by its places; keys that it does not know may hold anything and any number of times. -/

namespace FeedSieve.Schema

/-! ### What may stand in a place -/

/-- An integer without a sign, below the given size. -/
def IsWord (size : Nat) (j : Json) : Prop := ∃ n fits, j = .number (.integer n fits) ∧ 0 ≤ n ∧ n < size

def IsNumber (j : Json) : Prop := ∃ n, j = .number n

def IsText (j : Json) : Prop := ∃ s, j = .string s

def IsFlag (j : Json) : Prop := ∃ b, j = .bool b

/-- Anything at all, null included. -/
def IsAnything (_ : Json) : Prop := True

variable {p q : Json → Prop} {j : Json}

/-- Null, or else what has the property. -/
def OrNull (p : Json → Prop) (j : Json) : Prop := j = .null ∨ p j

def IsListOf (p : Json → Prop) (j : Json) : Prop := ∃ items, j = .array items ∧ ∀ i ∈ items, p i

theorem OrNull.mono (h : ∀ v, p v → q v) (hj : OrNull p j) : OrNull q j := hj.imp_right (h j)

/-! ### Records -/

/-- The fields of a record in their order, each with its name and what may stand there. -/
abbrev Rows := List (String × (Json → Prop))

/-- A record is an object in which each of its keys is given once at most, with what may stand there, or a list
of no more items than there are fields, in which each item may stand in its place. -/
inductive IsRecord (rows : Rows) : Json → Prop
  | keyed {members : List (String × Json)}
    (h : ∀ row ∈ rows, (members.map (·.1)).count row.1 ≤ 1 ∧ ∀ v, (row.1, v) ∈ members → row.2 v) :
    IsRecord rows (.object members)
  | positional {items : List Json} (few : items.length ≤ rows.length) (h : ∀ p ∈ rows.zip items, p.1.2 p.2) :
    IsRecord rows (.array items)

theorem isRecord_object_iff {rows : Rows} {members : List (String × Json)} :
    IsRecord rows (.object members) ↔
      ∀ row ∈ rows, (members.map (·.1)).count row.1 ≤ 1 ∧ ∀ v, (row.1, v) ∈ members → row.2 v :=
  ⟨fun | .keyed h => h, .keyed⟩

theorem isRecord_array_iff {rows : Rows} {items : List Json} :
    IsRecord rows (.array items) ↔ items.length ≤ rows.length ∧ ∀ p ∈ rows.zip items, p.1.2 p.2 :=
  ⟨fun | .positional few h => ⟨few, h⟩, fun h => .positional h.1 h.2⟩

/-- Rows under the same names that admit no less. -/
abbrev Wider : Rows → Rows → Prop := List.Forall₂ fun row row' => row.1 = row'.1 ∧ ∀ v, row.2 v → row'.2 v

theorem IsRecord.mono {rows rows' : Rows} (h : Wider rows rows') (hj : IsRecord rows j) : IsRecord rows' j := by
  cases hj with
  | keyed hmembers =>
    refine .keyed ?_
    induction h with
    | nil => simp
    | @cons row row' _ _ hrow _ ih =>
      obtain ⟨⟨hcount, hvalues⟩, hrest⟩ := List.forall_mem_cons.mp hmembers
      obtain ⟨hname, hwider⟩ := hrow
      rw [hname] at hcount hvalues
      exact List.forall_mem_cons.mpr ⟨⟨hcount, fun v hv => hwider v (hvalues v hv)⟩, ih hrest⟩
  | @positional items few hitems =>
    refine .positional (by rwa [← h.length_eq]) ?_
    clear few
    induction h generalizing items with
    | nil => simp
    | cons hrow _ ih =>
      cases items with
      | nil => simp
      | cons i is =>
        obtain ⟨hi, his⟩ := List.forall_mem_cons.mp hitems
        exact List.forall_mem_cons.mpr ⟨hrow.2 i hi, ih his⟩

/-! ### The records of the feed -/

def userRows : Rows :=
  [("id", OrNull (IsWord UInt64.size)), ("screen_name", OrNull IsText), ("verified", OrNull IsFlag)]

def geoRows : Rows := [("type", IsText), ("coordinates", IsListOf IsNumber)]

def hashtagRows : Rows := [("text", IsText), ("indices", IsListOf (IsWord UInt32.size))]

def mediaRows : Rows := [("id", OrNull (IsWord UInt64.size)), ("type", IsText), ("media_url_https", OrNull IsText)]

def entitiesRows : Rows :=
  [("hashtags", OrNull (IsListOf (IsRecord hashtagRows))), ("media", OrNull (IsListOf (IsRecord mediaRows)))]

def extendedEntitiesRows : Rows := [("media", OrNull (IsListOf (IsRecord mediaRows)))]

/-- The rows of a tweet, given what the tweet is that it repeats. -/
def tweetRows (repeated : Json → Prop) : Rows :=
  [("id", OrNull (IsWord UInt64.size)), ("id_str", OrNull IsText), ("created_at", OrNull IsText),
    ("text", OrNull IsText), ("source", OrNull IsText), ("lang", OrNull IsText), ("user", OrNull (IsRecord userRows)),
    ("retweeted_status", OrNull repeated), ("in_reply_to_status_id", OrNull (IsWord UInt64.size)),
    ("geo", OrNull (IsRecord geoRows)), ("entities", OrNull (IsRecord entitiesRows)),
    ("extended_entities", OrNull (IsRecord extendedEntitiesRows)), ("limit", IsAnything), ("delete", IsAnything)]

/-- A tweet is a record of its rows, where the tweet that it repeats is a tweet again, and so on to an end. -/
inductive IsTweet : Json → Prop
  -- `IsTweet` cannot stand in the rows themselves; what does is something that only tweets have.
  | of {j : Json} (repeated : Json → Prop) (h : IsRecord (tweetRows repeated) j)
    (again : ∀ v, repeated v → IsTweet v) : IsTweet j

theorem wider_tweetRows (h : ∀ v, p v → q v) : Wider (tweetRows p) (tweetRows q) := by
  simp only [Wider, tweetRows, List.forall₂_cons, imp_self, implies_true, true_and, and_true, List.Forall₂.nil]
  exact fun v => OrNull.mono h

theorem isTweet_iff : IsTweet j ↔ IsRecord (tweetRows IsTweet) j := by
  constructor
  · rintro ⟨repeated, h, again⟩
    exact h.mono (wider_tweetRows again)
  · intro h
    exact .of IsTweet h fun _ hv => hv

end FeedSieve.Schema
