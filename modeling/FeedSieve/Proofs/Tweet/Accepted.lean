import FeedSieve.Proofs.Wire.Lookup
import FeedSieve.Proofs.Wire.Schema

/-! What decoding accepts. The shape of a place and the schema say the same of it, so a document without doubles
that is not nested too deep fits a shape just if it is what the schema asks for there; and the text of such a
document is decoded just if the document is a tweet. -/

namespace FeedSieve.Schema

open Wire
open Json (depth_array_le depth_object_le allNumbers_array allNumbers_object)
open Config (valuesOf)

/-! ### Shapes by the schema -/

/-- How many words of a size there are. -/
def wordCount : WordSize → Nat
  | .w32 => UInt32.size
  | .w64 => UInt64.size

/-- What the schema asks for where a shape is read. -/
def Admits : Shape → Json → Prop
  | .word size => IsWord (wordCount size)
  | .real => IsNumber
  | .text => IsText
  | .flag => IsFlag
  | .anything => IsAnything
  | .nullable s => OrNull (Admits s)
  | .listOf s => IsListOf (Admits s)
  | .record .tweet => IsTweet
  | .record .user => IsRecord userRows
  | .record .geo => IsRecord geoRows
  | .record .entities => IsRecord entitiesRows
  | .record .extendedEntities => IsRecord extendedEntitiesRows
  | .record .hashtag => IsRecord hashtagRows
  | .record .media => IsRecord mediaRows

def rowsOf (fs : List Field) : Rows := fs.map fun f => (f.name, Admits f.shape)

/-- The fields of each record are those of the schema, in the same order. -/
theorem admits_record_iff (k : RecordKind) (j : Json) : Admits (.record k) j ↔ IsRecord (rowsOf k.fields) j := by
  cases k with
  | tweet => exact isTweet_iff
  | _ => exact Iff.rfl

/-! ### Scalars -/

section

variable {n : Nat} {j : Json}

theorem exists_word?_iff (size : WordSize) (i : Nat) : (∃ w, size.word? i = some w) ↔ i < wordCount size := by
  cases size <;> simp [WordSize.word?, wordCount]

theorem exists_fit_word_iff (hf : j.IsFloatFree) (size : WordSize) :
    (∃ w, fit n (.word size) j = .ok w) ↔ IsWord (wordCount size) j := by
  have hfit : fit n (.word size) j = fitScalar size.accept j := by cases n <;> rfl
  rw [hfit, fitScalar]
  cases j with
  | number m =>
    cases m with
    | real x => exact hf.elim
    | integer i hi =>
      have hword : IsWord (wordCount size) (.number (.integer i hi)) ↔ 0 ≤ i ∧ i < wordCount size := by
        simp [IsWord, hi]
      have hbound : 0 ≤ i → (i.toNat < wordCount size ↔ i < wordCount size) := by
        intro hpos
        rw [← Int.toNat_of_nonneg hpos]
        exact_mod_cast Iff.rfl
      rw [Json.found, Json.Number.reread_integer, map_ok, ok_bind, hword]
      simp only [mapError_eq_ok, accept_integer_eq_ok, exists_and_left, exists_word?_iff]
      exact and_congr_right hbound
  | _ => simp [Json.found, WordSize.accept, IsWord]

theorem exists_fit_real_iff (hf : j.IsFloatFree) : (∃ x, fit n .real j = .ok x) ↔ IsNumber j := by
  have hfit : fit n .real j = fitScalar acceptReal j := by cases n <;> rfl
  rw [hfit, fitScalar]
  cases j with
  | number m =>
    cases m with
    | real x => exact hf.elim
    | integer i hi => simp [Json.found, acceptReal, IsNumber]
  | _ => simp [Json.found, acceptReal, IsNumber]

theorem exists_fit_anything (hf : j.IsFloatFree) (hn : j.depth ≤ n) : ∃ v, fit n .anything j = .ok v := by
  have hfit : fit n .anything j = (j.reread n).map Json.normal := by cases n <;> rfl
  rw [hfit, Json.reread_eq_ok hf hn]
  exact ⟨j.normal, rfl⟩

theorem exists_fit_nullable_iff {s : Shape} (h : (∃ v, fit n s j = .ok v) ↔ Admits s j) :
    (∃ v, fit n (.nullable s) j = .ok v) ↔ OrNull (Admits s) j := by
  rw [OrNull, ← h, fit_nullable]
  cases j with
  | null => exact iff_of_true ⟨none, rfl⟩ (.inl rfl)
  | _ => simp [fitNullable, map_eq_ok]

end

/-! ### Lists and records -/

/-- The fields of a record can be filled from items in their order if there are not too many of them and each
one fits its place. -/
theorem exists_fitPositional_iff {fit : ShapeFit} {fs : List Field} {items : List Json} :
    (∃ slots, fitPositional fit fs items = .ok slots) ↔
      items.length ≤ fs.length ∧ ∀ p ∈ fs.zip items, ∃ a, fit p.1.shape p.2 = .ok a := by
  induction fs generalizing items with
  | nil => cases items <;> simp [fitPositional]
  | cons f fs ih =>
    cases items with
    | nil => simp [fitPositional]
    | cons j js =>
      rw [List.length_cons, List.length_cons, Nat.add_le_add_iff_right, List.zip_cons_cons, List.forall_mem_cons,
        and_left_comm, ← ih]
      simp only [fitPositional, bind_eq_ok]
      constructor
      · rintro ⟨-, a, ha, slots, hslots, -⟩
        exact ⟨⟨a, ha⟩, slots, hslots⟩
      · rintro ⟨⟨a, ha⟩, slots, hslots⟩
        exact ⟨(some a, slots), a, ha, slots, hslots, rfl⟩

theorem isRecord_rowsOf_object_iff {fs : List Field} {members : List (String × Json)} :
    IsRecord (rowsOf fs) (.object members) ↔
      ∀ f ∈ fs, (valuesOf f.name members).length ≤ 1 ∧ ∀ v ∈ valuesOf f.name members, Admits f.shape v := by
  simp only [isRecord_object_iff, rowsOf, List.forall_mem_map, length_valuesOf, mem_valuesOf]

theorem isRecord_rowsOf_array_iff {fs : List Field} {items : List Json} :
    IsRecord (rowsOf fs) (.array items) ↔
      items.length ≤ fs.length ∧ ∀ p ∈ fs.zip items, Admits p.1.shape p.2 := by
  simp only [isRecord_array_iff, rowsOf, List.length_map, List.zip_map_left, List.forall_mem_map, Prod.map_fst,
    Prod.map_snd, id_eq]

section

variable {n : Nat} {j : Json}

/-- At a depth, the documents that are nested no deeper fit a shape just if they are what the schema asks for. -/
def AgreesAt (n : Nat) : Prop :=
  ∀ s j, j.IsFloatFree → j.depth ≤ n → ((∃ v, fit n s j = .ok v) ↔ Admits s j)

theorem exists_fit_listOf_iff (ih : ∀ m, n = m + 1 → AgreesAt m) (hf : j.IsFloatFree) (hn : j.depth ≤ n)
    (s : Shape) : (∃ vs, fit n (.listOf s) j = .ok vs) ↔ IsListOf (Admits s) j := by
  have hitems : ∀ m items, n = m + 1 → j = .array items →
      ((∃ vs, items.mapM (fit m s) = .ok vs) ↔ ∀ i ∈ items, Admits s i) := by
    rintro m items rfl rfl
    rw [exists_mapM_eq_ok_iff]
    exact forall₂_congr fun i hi => ih m rfl s i (allNumbers_array.mp hf i hi) (depth_array_le.mp hn i hi)
  constructor
  · rintro ⟨vs, h⟩
    obtain ⟨m, items, hm, hj, hvs⟩ := fit_listOf_eq_ok.mp h
    exact ⟨items, hj, (hitems m items hm hj).mp ⟨vs, hvs⟩⟩
  · rintro ⟨items, hj, hadmits⟩
    obtain ⟨m, hm⟩ := Nat.exists_eq_add_one.mpr (Nat.zero_lt_of_lt (hj ▸ hn))
    obtain ⟨vs, hvs⟩ := (hitems m items hm hj).mpr hadmits
    exact ⟨vs, fit_listOf_eq_ok.mpr ⟨m, items, hm, hj, hvs⟩⟩

theorem exists_fit_object_iff (ih : ∀ m, n = m + 1 → AgreesAt m) {members : List (String × Json)}
    (hf : (Json.object members).IsFloatFree) (hn : (Json.object members).depth ≤ n) (k : RecordKind) :
    (∃ r, fit n (.record k) (.object members) = .ok r) ↔ IsRecord (rowsOf k.fields) (.object members) := by
  obtain ⟨m, rfl⟩ := Nat.exists_eq_add_one.mpr (Nat.zero_lt_of_lt hn)
  have hvalues : ∀ f : Field, ∀ v ∈ valuesOf f.name members,
      ((∃ a, fit m f.shape v = .ok a) ↔ Admits f.shape v) := by
    intro f v hv
    have hmem := mem_valuesOf.mp hv
    exact ih m rfl f.shape v (allNumbers_object.mp hf _ hmem) (depth_object_le.mp hn _ hmem)
  rw [isRecord_rowsOf_object_iff, ← forall₂_congr fun f _ => and_congr_right fun _ => forall₂_congr (hvalues f),
    ← Slots.exists_filled_iff]
  constructor
  · rintro ⟨r, hr⟩
    obtain ⟨_, slots, ⟨⟩, hslots, -⟩ := fit_object_eq_ok.mp hr
    exact ⟨slots, hslots⟩
  · rintro ⟨slots, hslots⟩
    exact ⟨buildRecord k slots, fit_object_eq_ok.mpr ⟨m, slots, rfl, hslots, rfl⟩⟩

theorem exists_fit_array_iff (ih : ∀ m, n = m + 1 → AgreesAt m) {items : List Json}
    (hf : (Json.array items).IsFloatFree) (hn : (Json.array items).depth ≤ n) (k : RecordKind) :
    (∃ r, fit n (.record k) (.array items) = .ok r) ↔ IsRecord (rowsOf k.fields) (.array items) := by
  obtain ⟨m, rfl⟩ := Nat.exists_eq_add_one.mpr (Nat.zero_lt_of_lt hn)
  have hplaces : ∀ p ∈ k.fields.zip items, ((∃ a, fit m p.1.shape p.2 = .ok a) ↔ Admits p.1.shape p.2) := by
    intro p hp
    have hmem := (List.of_mem_zip hp).2
    exact ih m rfl p.1.shape p.2 (allNumbers_array.mp hf _ hmem) (depth_array_le.mp hn _ hmem)
  rw [isRecord_rowsOf_array_iff, ← forall₂_congr hplaces, ← exists_fitPositional_iff]
  constructor
  · rintro ⟨r, hr⟩
    obtain ⟨_, slots, ⟨⟩, hslots, -⟩ := fit_array_eq_ok.mp hr
    exact ⟨slots, hslots⟩
  · rintro ⟨slots, hslots⟩
    exact ⟨buildRecord k slots, fit_array_eq_ok.mpr ⟨m, slots, rfl, hslots, rfl⟩⟩

theorem exists_fit_record_iff (ih : ∀ m, n = m + 1 → AgreesAt m) (hf : j.IsFloatFree) (hn : j.depth ≤ n)
    (k : RecordKind) : (∃ r, fit n (.record k) j = .ok r) ↔ Admits (.record k) j := by
  rw [admits_record_iff]
  cases j with
  | object members => exact exists_fit_object_iff ih hf hn k
  | array items => exact exists_fit_array_iff ih hf hn k
  | _ =>
    refine iff_of_false ?_ (by rintro ⟨⟩)
    rintro ⟨r, hr⟩
    obtain ⟨_, ⟨⟩⟩ | ⟨_, ⟨⟩⟩ := exists_of_fit_record hr

/-- Shapes and the schema agree at a depth if they do at the one below. -/
theorem agreesAt_of_below (ih : ∀ m, n = m + 1 → AgreesAt m) : AgreesAt n := by
  intro s j hf hn
  -- Lists and records go one level down, to any shape at all; only null is allowed on the same level, for a part.
  induction s with
  | word size => exact exists_fit_word_iff hf size
  | real => exact exists_fit_real_iff hf
  | text => exact exists_congr fun s => fit_text_eq_ok
  | flag => exact exists_congr fun b => fit_flag_eq_ok
  | anything => exact iff_of_true (exists_fit_anything hf hn) trivial
  | nullable s hs => exact exists_fit_nullable_iff hs
  | listOf s => exact exists_fit_listOf_iff ih hf hn s
  | record k => exact exists_fit_record_iff ih hf hn k

theorem agreesAt (n : Nat) : AgreesAt n := by
  induction n with
  | zero => exact agreesAt_of_below (by simp)
  | succ n ih =>
    refine agreesAt_of_below fun m hm => ?_
    obtain rfl := Nat.succ.inj hm
    exact ih

end

/-! ### Texts -/

/-- Decoding accepts just what conforms to the schema: the text of a document without doubles that is nested at most
127 deep is decoded if and only if the document is a tweet. -/
theorem decodes_iff_isTweet {d : Json} (hd : d.IsFloatFree) (hdepth : d.depth ≤ 127) :
    (∃ t, Tweet.decode d.text = .ok t) ↔ IsTweet d := by
  rw [Tweet.decode_text hd.isWritable]
  exact agreesAt Json.depthLimit (.record .tweet) d hd hdepth

/-- A tweet by an author who is given by places, with a hashtag given by places, and a stranger that is there twice. -/
def mixedDocument : Json :=
  .object [("user", .array [.number (.ofWord 7), .null]), ("colour", .null), ("colour", .array []),
    ("entities", .object [("hashtags", .array [.array [.string "lean", .array [.number (.ofWord 0)]]])])]

/-- A list of hashtags with a null in it. -/
def gapDocument : Json := .object [("entities", .object [("hashtags", .array [.null])])]

theorem decodes_iff_isTweet_mixed : mixedDocument.IsFloatFree ∧ mixedDocument.depth ≤ 127 ∧
    (∃ t, Tweet.decode mixedDocument.text = .ok t) ∧ IsTweet mixedDocument ∧
    gapDocument.IsFloatFree ∧ gapDocument.depth ≤ 127 ∧ ¬IsTweet gapDocument := by
  have hmixed : mixedDocument.IsFloatFree := by
    simp [mixedDocument, Json.AllNumbers, Json.AllNumbersItems, Json.AllNumbersMembers, Json.Number.IsInteger,
      Json.Number.ofWord]
  have hgap : gapDocument.IsFloatFree := by
    simp [gapDocument, Json.AllNumbers, Json.AllNumbersItems, Json.AllNumbersMembers]
  have hmixedDepth : mixedDocument.depth ≤ 127 := by decide +kernel
  have hgapDepth : gapDocument.depth ≤ 127 := by decide +kernel
  have hread : ∃ t, Tweet.decode mixedDocument.text = .ok t := exists_of_isOk (by decide +kernel)
  have hrefused : (Tweet.decode gapDocument.text).isOk = false := by decide +kernel
  refine ⟨hmixed, hmixedDepth, hread, (decodes_iff_isTweet hmixed hmixedDepth).mp hread, hgap, hgapDepth, ?_⟩
  intro hgapTweet
  obtain ⟨t, ht⟩ := (decodes_iff_isTweet hgap hgapDepth).mpr hgapTweet
  rw [ht] at hrefused
  exact absurd hrefused (by simp [Except.isOk, Except.toBool])

end FeedSieve.Schema
