import FeedSieve.Proofs.Json.TrailingTree
import FeedSieve.Tweet.Decoder

/-! A carriage return behind a record. Reading by shapes takes it for what it is, a blank behind the record; so a
text decodes to the same record without it. -/

namespace FeedSieve.Wire

open Json

/-! ### Fields -/

section

variable {read : ShapeReader}

theorem fill_eq_none_iff {name : String} {cs : List Char} {fs : List Field} {slots : Slots fs} :
    Slots.fill read name cs fs slots = none ↔ ∀ f ∈ fs, f.name ≠ name := by
  induction fs with
  | nil => simp [Slots.fill]
  | cons f fs ih =>
    obtain ⟨slot, slots⟩ := slots
    rw [List.forall_mem_cons]
    simp only [Slots.fill]
    split
    · next hname => cases slot <;> simp [hname]
    · next hname => rw [Option.map_eq_none_iff, ih, and_iff_right hname]

theorem exists_of_fill (hread : ∀ s, Trails 1 (read s)) {name : String} {cs rest : List Char} {fs : List Field}
    {slots slots' : Slots fs} (h : Slots.fill read name (cs ++ ['\r']) fs slots = some (.ok (slots', rest))) :
    ∃ rest', rest = rest' ++ ['\r'] ∧ rest'.length + 1 ≤ cs.length ∧
      Slots.fill read name cs fs slots = some (.ok (slots', rest')) := by
  induction fs generalizing rest with
  | nil => exact absurd h (by simp [Slots.fill])
  | cons f fs ih =>
    obtain ⟨slot, slots⟩ := slots
    simp only [Slots.fill] at h ⊢
    split at h
    · next hname =>
      cases slot with
      | some _ => exact absurd h (by simp)
      | none =>
        obtain ⟨ds, hcolon, h⟩ := bind_eq_ok.mp (Option.some.inj h)
        obtain ⟨⟨v, es⟩, hv, h⟩ := bind_eq_ok.mp h
        obtain ⟨rfl, rfl⟩ := Prod.mk.inj (Except.ok.inj h)
        obtain ⟨ds', rfl, hds, hcolon⟩ := trailsOver_skipColon cs ds hcolon
        obtain ⟨rest', rfl, hlength, hv⟩ := hread f.shape ds' v _ hv
        refine ⟨rest', rfl, by omega, ?_⟩
        rw [if_pos hname]
        exact congrArg some (bind_eq_ok.mpr ⟨_, hcolon, bind_eq_ok.mpr ⟨_, hv, rfl⟩⟩)
    · next hname =>
      obtain ⟨r, hr, h⟩ := Option.map_eq_some_iff.mp h
      obtain ⟨⟨slots'', es⟩, rfl, heq⟩ := map_eq_ok.mp h
      obtain ⟨rfl, rfl⟩ := Prod.mk.inj heq
      obtain ⟨rest', rfl, hlength, hfill⟩ := ih hr
      refine ⟨rest', rfl, hlength, ?_⟩
      rw [if_neg hname, hfill]
      rfl

theorem exists_of_readKeyedWithin (hread : ∀ s, Trails 1 (read s)) {fs : List Field} {n : Nat} {first : Bool}
    {cs rest : List Char} {slots slots' : Slots fs}
    (h : readKeyedWithin read fs n first slots (cs ++ ['\r']) = .ok (slots', rest)) :
    ∃ rest', rest = rest' ++ ['\r'] ∧ rest'.length + 1 ≤ cs.length ∧
      ∀ m, cs.length < m → readKeyedWithin read fs m first slots cs = .ok (slots', rest') := by
  induction n generalizing first cs slots with
  | zero => exact absurd h (by simp [readKeyedWithin])
  | succ n ih =>
    obtain ⟨a, hnext, h⟩ := bind_eq_ok.mp h
    obtain ⟨a', rfl, hsize, hnext⟩ := exists_of_nextMember hnext
    cases a' with
    | close ds =>
      obtain ⟨rfl, rfl⟩ := Prod.mk.inj (Except.ok.inj h)
      refine ⟨ds, rfl, hsize, fun m hm => ?_⟩
      obtain ⟨k, rfl⟩ := Nat.exists_eq_add_of_lt hm
      exact bind_eq_ok.mpr ⟨_, hnext, rfl⟩
    | item ds =>
      obtain ⟨⟨name, es⟩, hname, h⟩ := bind_eq_ok.mp h
      obtain ⟨es', rfl, hes, hname⟩ := trails_readString ds name es hname
      have hds : ds.length ≤ cs.length := hsize
      dsimp only at h
      split at h
      · next filled hfilled =>
        obtain ⟨⟨slots'', fs⟩, rfl, h⟩ := bind_eq_ok.mp h
        obtain ⟨fs', rfl, hfs, hfilled⟩ := exists_of_fill hread hfilled
        obtain ⟨rest', rfl, hlength, hrest⟩ := ih h
        refine ⟨rest', rfl, by omega, fun m hm => ?_⟩
        obtain ⟨k, rfl⟩ := Nat.exists_eq_add_of_lt hm
        refine bind_eq_ok.mpr ⟨_, hnext, bind_eq_ok.mpr ⟨_, hname, ?_⟩⟩
        dsimp only
        rw [hfilled]
        exact hrest _ (by omega)
      · next hunknown =>
        obtain ⟨fs, hcolon, h⟩ := bind_eq_ok.mp h
        obtain ⟨gs, hskip, h⟩ := bind_eq_ok.mp h
        obtain ⟨fs', rfl, hfs, hcolon⟩ := trailsOver_skipColon es' fs hcolon
        obtain ⟨gs', rfl, hgs, hskip⟩ := trailsOver_skipDocument fs' gs hskip
        obtain ⟨rest', rfl, hlength, hrest⟩ := ih h
        refine ⟨rest', rfl, by omega, fun m hm => ?_⟩
        obtain ⟨k, rfl⟩ := Nat.exists_eq_add_of_lt hm
        refine bind_eq_ok.mpr ⟨_, hnext, bind_eq_ok.mpr ⟨_, hname, ?_⟩⟩
        dsimp only
        rw [fill_eq_none_iff.mpr (fill_eq_none_iff.mp hunknown)]
        exact bind_eq_ok.mpr ⟨_, hcolon, bind_eq_ok.mpr ⟨_, hskip, hrest _ (by omega)⟩⟩

theorem trails_readKeyed (hread : ∀ s, Trails 1 (read s)) (fs : List Field) : Trails 1 (readKeyed read fs) := by
  intro cs slots rest h
  obtain ⟨rest', hrest, hlength, hkeyed⟩ := exists_of_readKeyedWithin hread h
  exact ⟨rest', hrest, hlength, hkeyed _ (Nat.lt_succ_self _)⟩

theorem trails_readPositional (hread : ∀ s, Trails 1 (read s)) (fs : List Field) (first : Bool) :
    Trails 1 (readPositional read fs first) := by
  induction fs generalizing first with
  | nil =>
    intro cs slots rest h
    obtain ⟨ds, hclose, heq⟩ := map_eq_ok.mp h
    obtain ⟨rfl, rfl⟩ := Prod.mk.inj heq
    obtain ⟨rest', rfl, hlength, hclose⟩ := trailsOver_closeList cs _ hclose
    exact ⟨rest', rfl, hlength, map_eq_ok.mpr ⟨_, hclose, rfl⟩⟩
  | cons f fs ih =>
    intro cs slots rest h
    obtain ⟨a, hnext, h⟩ := bind_eq_ok.mp h
    obtain ⟨a', rfl, hsize, hnext⟩ := exists_of_nextItem hnext
    cases a' with
    | close ds =>
      obtain ⟨rfl, rfl⟩ := Prod.mk.inj (Except.ok.inj h)
      exact ⟨ds, rfl, hsize, bind_eq_ok.mpr ⟨_, hnext, rfl⟩⟩
    | item ds =>
      obtain ⟨⟨v, es⟩, hv, h⟩ := bind_eq_ok.mp h
      obtain ⟨⟨slots', gs⟩, hslots, h⟩ := bind_eq_ok.mp h
      obtain ⟨rfl, rfl⟩ := Prod.mk.inj (Except.ok.inj h)
      obtain ⟨es', rfl, hes, hv⟩ := hread f.shape ds v es hv
      obtain ⟨rest', rfl, hlength, hslots⟩ := ih false es' slots' _ hslots
      have hds : ds.length ≤ cs.length := hsize
      exact ⟨rest', rfl, by omega,
        bind_eq_ok.mpr ⟨_, hnext, bind_eq_ok.mpr ⟨_, hv, bind_eq_ok.mpr ⟨_, hslots, rfl⟩⟩⟩⟩

end

/-! ### Shapes -/

theorem trails_readScalar {α : Type} (accept : Found → Except Mismatch α) : Trails 1 (readScalar accept) := by
  intro cs a rest h
  obtain ⟨⟨f, ds⟩, hfound, h⟩ := bind_eq_ok.mp h
  obtain ⟨ds', rfl, hds, hfound⟩ := trails_readFound cs f ds hfound
  dsimp only at h
  split at h
  · next a' haccept =>
    obtain ⟨rfl, rfl⟩ := Prod.mk.inj (Except.ok.inj h)
    refine ⟨ds', rfl, hds, bind_eq_ok.mpr ⟨_, hfound, ?_⟩⟩
    dsimp only
    rw [haccept]
    rfl
  · exact absurd h (by simp)

theorem trails_readNullable {α : Type} {read : Reader α} (hempty : ∀ r, read [] ≠ .ok r) (hread : Trails 1 read) :
    Trails 1 (readNullable read) := by
  intro cs v rest h
  cases hspace : skipSpace (cs ++ ['\r']) with
  | nil =>
    -- nothing but blanks, so not even null
    rw [readNullable, hspace] at h
    obtain ⟨r, hr, -⟩ := map_eq_ok.mp h
    exact absurd hr (hempty r)
  | cons c ds =>
    obtain ⟨ds', rfl, hds, hspace'⟩ := exists_of_skipSpace hspace
    by_cases hc : c = 'n'
    · subst hc
      have hnull : ∀ {cs ds}, skipSpace cs = 'n' :: ds →
          readNullable read cs = (skipWord ['u', 'l', 'l'] ds).map (none, ·) := by
        intro cs ds h
        simp only [readNullable, h]
      rw [hnull hspace] at h
      obtain ⟨es, hword, heq⟩ := map_eq_ok.mp h
      obtain ⟨rfl, rfl⟩ := Prod.mk.inj heq
      obtain ⟨rest', rfl, hlength, hword⟩ := trailsOver_skipWord (by decide) ds' _ hword
      exact ⟨rest', rfl, by omega, (hnull hspace').trans (map_eq_ok.mpr ⟨_, hword, rfl⟩)⟩
    · have hvalue : ∀ {cs ds}, skipSpace cs = c :: ds →
          readNullable read cs = (read (c :: ds)).map fun p => (some p.1, p.2) := by
        intro cs ds h
        rw [readNullable, h]
        split <;> simp_all
      rw [hvalue hspace] at h
      obtain ⟨rest', hrest, hlength, hread'⟩ := (hread.map some) (c :: ds') v rest h
      rw [List.length_cons] at hlength
      exact ⟨rest', hrest, by omega, (hvalue hspace').trans hread'⟩

section

variable {inner : Option ShapeReader}

theorem trails_readRecord (hinner : ∀ read ∈ inner, ∀ s, Trails 1 (read s)) (k : RecordKind) :
    Trails 1 (readRecord inner k) := by
  intro cs r rest h
  obtain ⟨⟨f, ds⟩, hfound, h⟩ := bind_eq_ok.mp h
  obtain ⟨ds', rfl, hds, hfound⟩ := trails_readFound cs f ds hfound
  cases inner with
  | none => cases f <;> exact absurd h (by simp)
  | some read =>
    have hread := hinner read rfl
    cases f with
    | array =>
      obtain ⟨rest', hrest, hlength, hslots⟩ :=
        ((trails_readPositional hread k.fields true).map (buildRecord k)) ds' r rest h
      exact ⟨rest', hrest, by omega, bind_eq_ok.mpr ⟨_, hfound, hslots⟩⟩
    | object =>
      obtain ⟨rest', hrest, hlength, hslots⟩ := ((trails_readKeyed hread k.fields).map (buildRecord k)) ds' r rest h
      exact ⟨rest', hrest, by omega, bind_eq_ok.mpr ⟨_, hfound, hslots⟩⟩
    | _ => exact absurd h (by simp)

theorem trails_readListOf {α : Type} {inner : Option (Reader α)} (hinner : ∀ read ∈ inner, Trails 1 read) :
    Trails 1 (readListOf inner) := by
  intro cs vs rest h
  obtain ⟨⟨f, ds⟩, hfound, h⟩ := bind_eq_ok.mp h
  obtain ⟨ds', rfl, hds, hfound⟩ := trails_readFound cs f ds hfound
  cases inner with
  | none => cases f <;> exact absurd h (by simp)
  | some read =>
    cases f with
    | array =>
      obtain ⟨rest', hrest, hlength, hitems⟩ := (hinner read rfl).readItems ds' vs rest h
      exact ⟨rest', hrest, by omega, bind_eq_ok.mpr ⟨_, hfound, hitems⟩⟩
    | _ => exact absurd h (by simp)

theorem readShape_nil {tree : Reader Json} (htree : ∀ r, tree [] ≠ .ok r) (s : Shape) :
    ∀ r, readShape tree inner s [] ≠ .ok r := by
  induction s with
  | nullable s ih =>
    intro r hr
    obtain ⟨v, hv, -⟩ := map_eq_ok.mp hr
    exact ih v hv
  | anything =>
    intro r hr
    obtain ⟨j, hj, -⟩ := map_eq_ok.mp hr
    exact htree j hj
  | _ => simp [readShape, readScalar, readListOf, readRecord, readFound, skipSpace]

theorem trails_readShape {tree : Reader Json} (hempty : ∀ r, tree [] ≠ .ok r) (htree : Trails 1 tree)
    (hinner : ∀ read ∈ inner, ∀ s, Trails 1 (read s)) (s : Shape) : Trails 1 (readShape tree inner s) := by
  induction s with
  | word size => exact trails_readScalar size.accept
  | real => exact trails_readScalar acceptReal
  | text => exact trails_readScalar acceptText
  | flag => exact trails_readScalar acceptFlag
  | anything => exact htree.map normal
  | nullable s ih => exact trails_readNullable (readShape_nil hempty s) ih
  | listOf s =>
    cases inner with
    | none => exact trails_readListOf (by simp)
    | some read => exact trails_readListOf (by simpa using hinner read rfl s)
  | record k => exact trails_readRecord hinner k

end

theorem readTree_nil (n : Nat) : ∀ r, readTree n [] ≠ .ok r := by
  intro r
  cases n <;> simp [readTree, readNode, readFound, skipSpace]

theorem trails_read (n : Nat) (s : Shape) : Trails 1 (read n s) := by
  induction n generalizing s with
  | zero => exact trails_readShape (readTree_nil 0) (trails_readTree 0) (by simp) s
  | succ n ih => exact trails_readShape (readTree_nil (n + 1)) (trails_readTree (n + 1)) (by simpa using ih) s

end FeedSieve.Wire

namespace FeedSieve.Tweet

open Json

/-- A text with a carriage return behind it decodes to nothing else than the text alone. -/
theorem decode_of_concat_return {text : String} {t : Tweet} (h : decode (text ++ "\r") = .ok t) :
    decode text = .ok t := by
  obtain ⟨⟨t', rest⟩, hread, h⟩ := bind_eq_ok.mp h
  obtain ⟨u, hend, ht⟩ := bind_eq_ok.mp h
  obtain rfl := Except.ok.inj ht
  rw [String.toList_append] at hread
  obtain ⟨rest', rfl, -, hread⟩ := Wire.trails_read depthLimit (.record .tweet) text.toList t' rest hread
  have hend' : expectEnd rest' = .ok u := by
    rw [expectEnd] at hend ⊢
    split at hend
    · next hspace => rw [if_pos (skipSpace_of_concat hspace), hend]
    · exact absurd hend (by simp)
  exact bind_eq_ok.mpr ⟨_, hread, bind_eq_ok.mpr ⟨_, hend', rfl⟩⟩

end FeedSieve.Tweet
