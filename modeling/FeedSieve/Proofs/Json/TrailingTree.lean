import FeedSieve.Proofs.Json.Trailing

/-! A carriage return behind lists, objects and whole documents. Their readers count their steps by the length of
the text, and no value is empty; so what takes some number of steps with the carriage return takes no more than the
shorter text allows without it. -/

namespace FeedSieve.Json

/-! ### Brackets -/

/-- What comes next if a carriage return stands behind the text. -/
def Ahead.concat : Ahead → Ahead
  | .item rest => .item (rest ++ ['\r'])
  | .close rest => .close (rest ++ ['\r'])

/-- The characters that a text has at least where this comes next. -/
def Ahead.size : Ahead → Nat
  | .item rest => rest.length
  | .close rest => rest.length + 1

section

variable {first : Bool} {cs ds : List Char} {a : Ahead}

theorem nextItem_close (h : skipSpace cs = ']' :: ds) : nextItem first cs = .ok (.close ds) := by
  simp only [nextItem, h]

theorem nextItem_first {c : Char} (h : skipSpace cs = c :: ds) (hc : c ≠ ']') :
    nextItem true cs = .ok (.item (c :: ds)) := by
  rw [nextItem, h]
  split <;> simp_all

theorem nextItem_later {c : Char} {es : List Char} (h : skipSpace cs = ',' :: ds) (hes : skipSpace ds = c :: es)
    (hc : c ≠ ']') : nextItem false cs = .ok (.item (c :: es)) := by
  rw [nextItem, h]
  split
  · next heq => exact absurd heq (by simp)
  · next heq => exact absurd heq (by simp)
  · next heq =>
    obtain ⟨rfl, rfl⟩ := List.cons.inj heq
    rw [if_neg (by simp), if_pos rfl, hes]
    split
    · next heq => exact absurd heq (by simp)
    · next heq => exact absurd (List.cons.inj heq).1 hc
    · rfl

theorem exists_of_nextItem (h : nextItem first (cs ++ ['\r']) = .ok a) :
    ∃ a', a = a'.concat ∧ a'.size ≤ cs.length ∧ nextItem first cs = .ok a' := by
  unfold nextItem at h
  split at h
  · exact absurd h (by simp)
  · next heq =>
    obtain rfl := Except.ok.inj h
    obtain ⟨ds', rfl, hlength, hspace⟩ := exists_of_skipSpace heq
    exact ⟨.close ds', rfl, hlength, nextItem_close hspace⟩
  · next c ds hclose heq =>
    obtain ⟨ds', rfl, hlength, hspace⟩ := exists_of_skipSpace heq
    split at h
    · next hfirst =>
      obtain rfl := Except.ok.inj h
      subst hfirst
      exact ⟨.item (c :: ds'), rfl, hlength, nextItem_first hspace hclose⟩
    · next hfirst =>
      obtain rfl : first = false := by simpa using hfirst
      split at h
      · next hc =>
        subst hc
        split at h
        · exact absurd h (by simp)
        · exact absurd h (by simp)
        · next hnil hclose' =>
          obtain rfl := Except.ok.inj h
          obtain ⟨b, es, hes⟩ := List.exists_cons_of_ne_nil hnil
          obtain ⟨es', rfl, hlength', hspace'⟩ := exists_of_skipSpace hes
          have hb : b ≠ ']' := by
            rintro rfl
            exact hclose' _ hes
          refine ⟨.item (b :: es'), congrArg Ahead.item hes, ?_, nextItem_later hspace hspace' hb⟩
          show es'.length + 1 ≤ cs.length
          omega
      · exact absurd h (by simp)

theorem trailsOver_closeList : TrailsOver 1 closeList := by
  intro cs rest h
  obtain ⟨ds', rfl, hlength, hspace⟩ := exists_of_skipSpace (closeList_eq_ok.mp h)
  exact ⟨ds', rfl, hlength, closeList_eq_ok.mpr hspace⟩

theorem exists_of_nextMember (h : nextMember first (cs ++ ['\r']) = .ok a) :
    ∃ a', a = a'.concat ∧ a'.size ≤ cs.length ∧ nextMember first cs = .ok a' := by
  unfold nextMember at h
  split at h
  · exact absurd h (by simp)
  · next heq =>
    obtain rfl := Except.ok.inj h
    obtain ⟨ds', rfl, hlength, hspace⟩ := exists_of_skipSpace heq
    exact ⟨.close ds', rfl, hlength, by simp only [nextMember, hspace]⟩
  · next c ds hclose heq =>
    obtain ⟨ds', rfl, hlength, hspace⟩ := exists_of_skipSpace heq
    split at h
    · next hfirst =>
      split at h
      · next hc =>
        obtain rfl := Except.ok.inj h
        refine ⟨.item ds', rfl, Nat.le_of_succ_le hlength, ?_⟩
        simp [nextMember, hspace, hfirst, hc]
      · exact absurd h (by simp)
    · next hfirst =>
      split at h
      · next hc =>
        split at h
        · exact absurd h (by simp)
        · next hname =>
          obtain rfl := Except.ok.inj h
          obtain ⟨es', rfl, hlength', hspace'⟩ := exists_of_skipSpace hname
          refine ⟨.item es', rfl, ?_, by simp [nextMember, hspace, hspace', hfirst, hc]⟩
          show es'.length ≤ cs.length
          omega
        · exact absurd h (by simp)
      · exact absurd h (by simp)

theorem trailsOver_skipColon : TrailsOver 1 skipColon := by
  intro cs rest h
  unfold skipColon at h
  split at h
  · exact absurd h (by simp)
  · next heq =>
    obtain rfl := Except.ok.inj h
    obtain ⟨ds', rfl, hlength, hspace⟩ := exists_of_skipSpace heq
    exact ⟨ds', rfl, hlength, by simp only [skipColon, hspace]⟩
  · exact absurd h (by simp)

end

/-! ### Scalars -/

/-- Reads what a token begins with, in the way that its first character tells. -/
def readFoundFrom (c : Char) : Reader Found :=
  match c with
  | 'n' => fun cs => (skipWord ['u', 'l', 'l'] cs).map (.null, ·)
  | 't' => fun cs => (skipWord ['r', 'u', 'e'] cs).map (.bool true, ·)
  | 'f' => fun cs => (skipWord ['a', 'l', 's', 'e'] cs).map (.bool false, ·)
  | '"' => fun cs => (readString cs).map fun (s, cs) => (.string s, cs)
  | '[' => fun cs => .ok (.array, cs)
  | '{' => fun cs => .ok (.object, cs)
  | c => fun cs => if startsNumber c then (readNumber (c :: cs)).map fun (n, cs) => (.number n, cs)
      else .error (.malformed .token)

theorem readFound_eq {c : Char} {cs ds : List Char} (h : skipSpace cs = c :: ds) :
    readFound cs = readFoundFrom c ds := by
  rw [readFound, h]
  unfold readFoundFrom
  split <;> split <;> simp_all

theorem trails_word {f : Found} {ws : List Char} (h : '\r' ∉ ws) :
    Trails 0 fun cs => (skipWord ws cs).map fun cs => (f, cs) := by
  intro cs g rest hword
  obtain ⟨ds, hskip, heq⟩ := map_eq_ok.mp hword
  obtain ⟨rfl, rfl⟩ := Prod.mk.inj heq
  obtain ⟨ds', rfl, hlength, hskip⟩ := trailsOver_skipWord h cs _ hskip
  exact ⟨ds', rfl, hlength, map_eq_ok.mpr ⟨_, hskip, rfl⟩⟩

theorem trails_readFoundFrom (c : Char) : Trails 0 (readFoundFrom c) := by
  unfold readFoundFrom
  split
  · exact trails_word (by decide)
  · exact trails_word (by decide)
  · exact trails_word (by decide)
  · exact (trails_readString.map Found.string).mono (Nat.zero_le 1)
  · exact trails_pure Found.array
  · exact trails_pure Found.object
  · intro cs f rest h
    split at h
    · next hstart =>
      obtain ⟨rest', hrest, hlength, hread⟩ := (trails_readNumber.map Found.number) (c :: cs) f rest h
      exact ⟨rest', hrest, Nat.le_of_succ_le_succ hlength, (if_pos hstart).trans hread⟩
    · exact absurd h (by simp)

theorem trails_readFound : Trails 1 readFound := by
  intro cs f rest h
  cases hspace : skipSpace (cs ++ ['\r']) with
  | nil => exact absurd h (by simp [readFound, hspace])
  | cons c ds =>
    rw [readFound_eq hspace] at h
    obtain ⟨ds', rfl, hds, hspace'⟩ := exists_of_skipSpace hspace
    obtain ⟨rest', hrest, hlength, hread⟩ := trails_readFoundFrom c ds' f rest h
    exact ⟨rest', hrest, by omega, (readFound_eq hspace').trans hread⟩

/-! ### Skipping -/

/-- What is skipped in some number of steps, where a carriage return stands behind the text, is skipped without it
in any number of steps beyond two for each character. -/
def TrailsWithin (taken extra n : Nat) (skip : Nat → List Char → Except ReadError (List Char)) : Prop :=
  ∀ cs rest, skip n (cs ++ ['\r']) = .ok rest →
    ∃ rest', rest = rest' ++ ['\r'] ∧ rest'.length + taken ≤ cs.length ∧
      ∀ m, 2 * cs.length + extra < m → skip m cs = .ok rest'

theorem TrailsOver.within {taken : Nat} {skip : List Char → Except ReadError (List Char)} (h : TrailsOver taken skip)
    (extra n : Nat) : TrailsWithin taken extra n fun _ => skip := by
  intro cs rest hskip
  obtain ⟨rest', hrest, hlength, hskip'⟩ := h cs rest hskip
  exact ⟨rest', hrest, hlength, fun _ _ => hskip'⟩

/-- Skips a document behind its first character. -/
def skipFrom (c : Char) : Nat → List Char → Except ReadError (List Char) :=
  match c with
  | 'n' => fun _ => skipWord ['u', 'l', 'l']
  | 't' => fun _ => skipWord ['r', 'u', 'e']
  | 'f' => fun _ => skipWord ['a', 'l', 's', 'e']
  | '"' => fun _ => skipString
  | '[' => fun n => skipItemsWithin n true
  | '{' => fun n => skipMembersWithin n true
  | c => fun _ cs =>
    if startsNumber c then (readLiteral (.malformed .token) (c :: cs)).map (·.2) else .error (.malformed .token)

theorem skipWithin_eq {n : Nat} {c : Char} {cs ds : List Char} (h : skipSpace cs = c :: ds) :
    skipWithin (n + 1) cs = skipFrom c n ds := by
  rw [skipWithin, h]
  unfold skipFrom
  split <;> split <;> simp_all

section

variable {n : Nat}

theorem trailsWithin_skipFrom (hitems : TrailsWithin 1 1 n fun m => skipItemsWithin m true)
    (hmembers : TrailsWithin 1 1 n fun m => skipMembersWithin m true) (c : Char) :
    TrailsWithin 0 1 n (skipFrom c) := by
  unfold skipFrom
  split
  · exact (trailsOver_skipWord (by decide)).within 1 n
  · exact (trailsOver_skipWord (by decide)).within 1 n
  · exact (trailsOver_skipWord (by decide)).within 1 n
  · intro cs rest h
    obtain ⟨rest', hrest, hlength, hskip⟩ := trailsOver_skipString.within 1 n cs rest h
    exact ⟨rest', hrest, Nat.le_of_succ_le hlength, hskip⟩
  · intro cs rest h
    obtain ⟨rest', hrest, hlength, hskip⟩ := hitems cs rest h
    exact ⟨rest', hrest, Nat.le_of_succ_le hlength, hskip⟩
  · intro cs rest h
    obtain ⟨rest', hrest, hlength, hskip⟩ := hmembers cs rest h
    exact ⟨rest', hrest, Nat.le_of_succ_le hlength, hskip⟩
  · intro cs rest h
    dsimp only at h ⊢
    split at h
    · next hstart =>
      obtain ⟨⟨l, ds⟩, hliteral, rfl⟩ := map_eq_ok.mp h
      obtain ⟨ds', hds, hlength, hliteral⟩ := trails_readLiteral (c :: cs) l _ hliteral
      refine ⟨ds', hds, Nat.le_of_succ_le_succ hlength, fun _ _ => ?_⟩
      rw [if_pos hstart]
      exact map_eq_ok.mpr ⟨_, hliteral, rfl⟩
    · exact absurd h (by simp)

theorem trailsWithin_skipWithin_succ (hfrom : ∀ c, TrailsWithin 0 1 n (skipFrom c)) :
    TrailsWithin 1 0 (n + 1) skipWithin := by
  intro cs rest h
  cases hspace : skipSpace (cs ++ ['\r']) with
  | nil => exact absurd h (by simp [skipWithin, hspace])
  | cons c ds =>
    rw [skipWithin_eq hspace] at h
    obtain ⟨ds', rfl, hds, hspace'⟩ := exists_of_skipSpace hspace
    obtain ⟨rest', hrest, hlength, hskip⟩ := hfrom c ds' rest h
    refine ⟨rest', hrest, by omega, fun m hm => ?_⟩
    obtain ⟨k, rfl⟩ := Nat.exists_eq_add_of_lt hm
    rw [skipWithin_eq hspace', hskip _ (by omega)]

theorem trailsWithin_skipItemsWithin_succ (hskip : TrailsWithin 1 0 n skipWithin)
    (hitems : TrailsWithin 1 1 n fun m => skipItemsWithin m false) (first : Bool) :
    TrailsWithin 1 1 (n + 1) fun m => skipItemsWithin m first := by
  intro cs rest h
  obtain ⟨a, hnext, h⟩ := bind_eq_ok.mp h
  obtain ⟨a', rfl, hsize, hnext⟩ := exists_of_nextItem hnext
  cases a' with
  | close ds =>
    obtain rfl := Except.ok.inj h
    refine ⟨ds, rfl, hsize, fun m hm => ?_⟩
    obtain ⟨k, rfl⟩ := Nat.exists_eq_add_of_lt hm
    exact bind_eq_ok.mpr ⟨_, hnext, rfl⟩
  | item ds =>
    obtain ⟨es, hes, h⟩ := bind_eq_ok.mp h
    obtain ⟨es', rfl, hlength, hes⟩ := hskip ds es hes
    obtain ⟨rest', rfl, hlength', hrest⟩ := hitems es' rest h
    have hds : ds.length ≤ cs.length := hsize
    refine ⟨rest', rfl, by omega, fun m hm => ?_⟩
    obtain ⟨k, rfl⟩ := Nat.exists_eq_add_of_lt hm
    exact bind_eq_ok.mpr ⟨_, hnext, bind_eq_ok.mpr ⟨_, hes _ (by omega), hrest _ (by omega)⟩⟩

theorem trailsWithin_skipMembersWithin_succ (hskip : TrailsWithin 1 0 n skipWithin)
    (hmembers : TrailsWithin 1 1 n fun m => skipMembersWithin m false) (first : Bool) :
    TrailsWithin 1 1 (n + 1) fun m => skipMembersWithin m first := by
  intro cs rest h
  obtain ⟨a, hnext, h⟩ := bind_eq_ok.mp h
  obtain ⟨a', rfl, hsize, hnext⟩ := exists_of_nextMember hnext
  cases a' with
  | close ds =>
    obtain rfl := Except.ok.inj h
    refine ⟨ds, rfl, hsize, fun m hm => ?_⟩
    obtain ⟨k, rfl⟩ := Nat.exists_eq_add_of_lt hm
    exact bind_eq_ok.mpr ⟨_, hnext, rfl⟩
  | item ds =>
    obtain ⟨es, hname, h⟩ := bind_eq_ok.mp h
    obtain ⟨fs, hcolon, h⟩ := bind_eq_ok.mp h
    obtain ⟨gs, hgs, h⟩ := bind_eq_ok.mp h
    obtain ⟨es', rfl, hes, hname⟩ := trailsOver_skipString ds es hname
    obtain ⟨fs', rfl, hfs, hcolon⟩ := trailsOver_skipColon es' fs hcolon
    obtain ⟨gs', rfl, hlength, hgs⟩ := hskip fs' gs hgs
    obtain ⟨rest', rfl, hlength', hrest⟩ := hmembers gs' rest h
    have hds : ds.length ≤ cs.length := hsize
    refine ⟨rest', rfl, by omega, fun m hm => ?_⟩
    obtain ⟨k, rfl⟩ := Nat.exists_eq_add_of_lt hm
    exact bind_eq_ok.mpr ⟨_, hnext, bind_eq_ok.mpr ⟨_, hname, bind_eq_ok.mpr ⟨_, hcolon,
      bind_eq_ok.mpr ⟨_, hgs _ (by omega), hrest _ (by omega)⟩⟩⟩⟩

end

theorem trailsWithin_skip (n : Nat) : TrailsWithin 1 0 n skipWithin ∧
    ∀ first, TrailsWithin 1 1 n (fun m => skipItemsWithin m first) ∧
      TrailsWithin 1 1 n fun m => skipMembersWithin m first := by
  induction n with
  | zero => simp [TrailsWithin, skipWithin, skipItemsWithin, skipMembersWithin]
  | succ n ih =>
    obtain ⟨hskip, hparts⟩ := ih
    refine ⟨trailsWithin_skipWithin_succ (trailsWithin_skipFrom (hparts true).1 (hparts true).2), fun first => ⟨?_, ?_⟩⟩
    · exact trailsWithin_skipItemsWithin_succ hskip (hparts false).1 first
    · exact trailsWithin_skipMembersWithin_succ hskip (hparts false).2 first

theorem trailsOver_skipDocument : TrailsOver 1 skipDocument := by
  intro cs rest h
  -- the carriage return gave two steps more, which were not needed
  obtain ⟨rest', hrest, hlength, hskip⟩ := (trailsWithin_skip _).1 cs rest h
  exact ⟨rest', hrest, hlength, hskip _ (by omega)⟩

/-! ### Lists and objects -/

section

variable {α : Type} {read : Reader α}

theorem Trails.readItemsWithin (hread : Trails 1 read) {n : Nat} {first : Bool} {cs rest : List Char} {as : List α}
    (h : readItemsWithin read n first (cs ++ ['\r']) = .ok (as, rest)) :
    ∃ rest', rest = rest' ++ ['\r'] ∧ rest'.length + 1 ≤ cs.length ∧
      ∀ m, cs.length < m → readItemsWithin read m first cs = .ok (as, rest') := by
  induction n generalizing first cs as with
  | zero => exact absurd h (by simp [Json.readItemsWithin])
  | succ n ih =>
    obtain ⟨a, hnext, h⟩ := bind_eq_ok.mp h
    obtain ⟨a', rfl, hsize, hnext⟩ := exists_of_nextItem hnext
    cases a' with
    | close ds =>
      obtain ⟨rfl, rfl⟩ := Prod.mk.inj (Except.ok.inj h)
      refine ⟨ds, rfl, hsize, fun m hm => ?_⟩
      obtain ⟨k, rfl⟩ := Nat.exists_eq_add_of_lt hm
      exact bind_eq_ok.mpr ⟨_, hnext, rfl⟩
    | item ds =>
      obtain ⟨⟨a, es⟩, ha, h⟩ := bind_eq_ok.mp h
      obtain ⟨⟨as', fs⟩, has, h⟩ := bind_eq_ok.mp h
      obtain ⟨rfl, rfl⟩ := Prod.mk.inj (Except.ok.inj h)
      obtain ⟨es', rfl, hes, ha⟩ := hread ds a es ha
      obtain ⟨rest', rfl, hlength, has⟩ := ih has
      have hds : ds.length ≤ cs.length := hsize
      refine ⟨rest', rfl, by omega, fun m hm => ?_⟩
      obtain ⟨k, rfl⟩ := Nat.exists_eq_add_of_lt hm
      exact bind_eq_ok.mpr ⟨_, hnext, bind_eq_ok.mpr ⟨_, ha, bind_eq_ok.mpr ⟨_, has _ (by omega), rfl⟩⟩⟩

theorem Trails.readMembersWithin (hread : Trails 1 read) {n : Nat} {first : Bool} {cs rest : List Char}
    {ms : List (String × α)} (h : readMembersWithin read n first (cs ++ ['\r']) = .ok (ms, rest)) :
    ∃ rest', rest = rest' ++ ['\r'] ∧ rest'.length + 1 ≤ cs.length ∧
      ∀ m, cs.length < m → readMembersWithin read m first cs = .ok (ms, rest') := by
  induction n generalizing first cs ms with
  | zero => exact absurd h (by simp [Json.readMembersWithin])
  | succ n ih =>
    obtain ⟨a, hnext, h⟩ := bind_eq_ok.mp h
    obtain ⟨a', rfl, hsize, hnext⟩ := exists_of_nextMember hnext
    cases a' with
    | close ds =>
      obtain ⟨rfl, rfl⟩ := Prod.mk.inj (Except.ok.inj h)
      refine ⟨ds, rfl, hsize, fun m hm => ?_⟩
      obtain ⟨k, rfl⟩ := Nat.exists_eq_add_of_lt hm
      exact bind_eq_ok.mpr ⟨_, hnext, rfl⟩
    | item ds =>
      obtain ⟨⟨name, es⟩, hname, h⟩ := bind_eq_ok.mp h
      obtain ⟨fs, hcolon, h⟩ := bind_eq_ok.mp h
      obtain ⟨⟨a, gs⟩, ha, h⟩ := bind_eq_ok.mp h
      obtain ⟨⟨ms', hs⟩, hms, h⟩ := bind_eq_ok.mp h
      obtain ⟨rfl, rfl⟩ := Prod.mk.inj (Except.ok.inj h)
      obtain ⟨es', rfl, hes, hname⟩ := trails_readString ds name es hname
      obtain ⟨fs', rfl, hfs, hcolon⟩ := trailsOver_skipColon es' fs hcolon
      obtain ⟨gs', rfl, hgs, ha⟩ := hread fs' a gs ha
      obtain ⟨rest', rfl, hlength, hms⟩ := ih hms
      have hds : ds.length ≤ cs.length := hsize
      refine ⟨rest', rfl, by omega, fun m hm => ?_⟩
      obtain ⟨k, rfl⟩ := Nat.exists_eq_add_of_lt hm
      exact bind_eq_ok.mpr ⟨_, hnext, bind_eq_ok.mpr ⟨_, hname, bind_eq_ok.mpr ⟨_, hcolon,
        bind_eq_ok.mpr ⟨_, ha, bind_eq_ok.mpr ⟨_, hms _ (by omega), rfl⟩⟩⟩⟩⟩

theorem Trails.readItems (hread : Trails 1 read) : Trails 1 (readItems read) := by
  intro cs as rest h
  obtain ⟨rest', hrest, hlength, hitems⟩ := hread.readItemsWithin h
  exact ⟨rest', hrest, hlength, hitems _ (Nat.lt_succ_self _)⟩

theorem Trails.readMembers (hread : Trails 1 read) : Trails 1 (readMembers read) := by
  intro cs ms rest h
  obtain ⟨rest', hrest, hlength, hmembers⟩ := hread.readMembersWithin h
  exact ⟨rest', hrest, hlength, hmembers _ (Nat.lt_succ_self _)⟩

end

/-! ### Trees -/

theorem trails_readNode {inner : Option (Reader Json)} (hinner : ∀ read ∈ inner, Trails 1 read) :
    Trails 1 (readNode inner) := by
  intro cs j rest h
  obtain ⟨⟨f, ds⟩, hfound, h⟩ := bind_eq_ok.mp h
  obtain ⟨ds', rfl, hds, hfound⟩ := trails_readFound cs f ds hfound
  cases f with
  | null | bool b | number n | string s =>
    obtain ⟨rfl, rfl⟩ := Prod.mk.inj (Except.ok.inj h)
    exact ⟨ds', rfl, hds, bind_eq_ok.mpr ⟨_, hfound, rfl⟩⟩
  | array =>
    cases inner with
    | none => exact absurd h (by simp)
    | some read =>
      obtain ⟨rest', hrest, hlength, hitems⟩ := ((hinner read rfl).readItems.map Json.array) ds' j rest h
      exact ⟨rest', hrest, by omega, bind_eq_ok.mpr ⟨_, hfound, hitems⟩⟩
  | object =>
    cases inner with
    | none => exact absurd h (by simp)
    | some read =>
      obtain ⟨rest', hrest, hlength, hmembers⟩ := ((hinner read rfl).readMembers.map Json.object) ds' j rest h
      exact ⟨rest', hrest, by omega, bind_eq_ok.mpr ⟨_, hfound, hmembers⟩⟩

theorem trails_readTree (n : Nat) : Trails 1 (readTree n) := by
  induction n with
  | zero => exact trails_readNode (by simp)
  | succ n ih => exact trails_readNode (by simpa using ih)

end FeedSieve.Json
