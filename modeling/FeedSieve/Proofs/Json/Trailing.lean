import FeedSieve.Json.Skip
import FeedSieve.Json.Tree
import FeedSieve.Proofs.Outcome

/-! A carriage return behind a text. No token has one, so whatever is read from a text with a carriage return behind
it is read from the text alone too, and the return is left over. A reader that counts its steps by the length of
the text has enough of them for the shorter text. -/

namespace FeedSieve.Json

/-- What is read from a text with a carriage return behind it is read from the text alone; it takes at least so
many characters, and the return is left over. -/
def Trails {α : Type} (taken : Nat) (read : Reader α) : Prop :=
  ∀ cs a rest, read (cs ++ ['\r']) = .ok (a, rest) →
    ∃ rest', rest = rest' ++ ['\r'] ∧ rest'.length + taken ≤ cs.length ∧ read cs = .ok (a, rest')

/-- The same of what only reads over something. -/
def TrailsOver (taken : Nat) (skip : List Char → Except ReadError (List Char)) : Prop :=
  ∀ cs rest, skip (cs ++ ['\r']) = .ok rest →
    ∃ rest', rest = rest' ++ ['\r'] ∧ rest'.length + taken ≤ cs.length ∧ skip cs = .ok rest'

section

variable {α β : Type} {taken more : Nat} {read : Reader α}

theorem Trails.mono (h : Trails taken read) (hle : more ≤ taken) : Trails more read := by
  intro cs a rest hread
  obtain ⟨rest', hrest, hlength, hread'⟩ := h cs a rest hread
  exact ⟨rest', hrest, by omega, hread'⟩

theorem Trails.map (h : Trails taken read) (f : α → β) :
    Trails taken fun cs => (read cs).map fun p => (f p.1, p.2) := by
  intro cs b rest hread
  obtain ⟨⟨a, ds⟩, ha, heq⟩ := map_eq_ok.mp hread
  obtain ⟨rfl, rfl⟩ := Prod.mk.inj heq
  obtain ⟨rest', hrest, hlength, hread'⟩ := h cs a ds ha
  exact ⟨rest', hrest, hlength, map_eq_ok.mpr ⟨_, hread', rfl⟩⟩

theorem trails_pure (a : α) : Trails 0 fun cs => .ok (a, cs) := by
  intro cs b rest h
  obtain ⟨rfl, rfl⟩ := Prod.mk.inj (Except.ok.inj h)
  exact ⟨cs, rfl, Nat.le_refl _, rfl⟩

/-- A first character is taken, and the rest of the text read. -/
theorem Trails.cons {c : Char} {cs rest : List Char} {a : α} {whole : Reader α} (h : Trails taken read)
    (hc : ∀ ds, whole (c :: ds) = read ds) (hle : more ≤ taken + 1)
    (hread : whole (c :: cs ++ ['\r']) = .ok (a, rest)) :
    ∃ rest', rest = rest' ++ ['\r'] ∧ rest'.length + more ≤ (c :: cs).length ∧ whole (c :: cs) = .ok (a, rest') := by
  rw [List.cons_append, hc] at hread
  obtain ⟨rest', hrest, hlength, hread'⟩ := h cs a rest hread
  exact ⟨rest', hrest, by rw [List.length_cons]; omega, by rw [hc, hread']⟩

end

/-! ### Blanks and words -/

section

variable {cs ds : List Char}

theorem takeWhile_concat {p : Char → Bool} (hp : p '\r' = false) (cs : List Char) :
    (cs ++ ['\r']).takeWhile p = cs.takeWhile p := by
  induction cs with
  | nil => simp [hp]
  | cons c cs ih => simp [List.takeWhile_cons, ih]

theorem dropWhile_concat {p : Char → Bool} (hp : p '\r' = false) (cs : List Char) :
    (cs ++ ['\r']).dropWhile p = cs.dropWhile p ++ ['\r'] := by
  induction cs with
  | nil => simp [hp]
  | cons c cs ih =>
    rw [List.cons_append, List.dropWhile_cons, List.dropWhile_cons, ih]
    split <;> rfl

/-- A token behind blanks is not the carriage return at the end, which is a blank itself. -/
theorem exists_of_skipSpace {c : Char} (h : skipSpace (cs ++ ['\r']) = c :: ds) :
    ∃ ds', ds = ds' ++ ['\r'] ∧ ds'.length + 1 ≤ cs.length ∧ skipSpace cs = c :: ds' := by
  induction cs with
  | nil => exact absurd h (by simp [skipSpace, isSpace])
  | cons b cs ih =>
    -- the blanks before the token are the same in both texts
    rw [List.cons_append, skipSpace, List.dropWhile_cons] at h
    rw [skipSpace, List.dropWhile_cons]
    by_cases hb : isSpace b = true
    · rw [if_pos hb] at h ⊢
      obtain ⟨ds', hds, hlength, hspace⟩ := ih h
      exact ⟨ds', hds, Nat.le_succ_of_le hlength, hspace⟩
    · rw [if_neg hb] at h ⊢
      obtain ⟨rfl, rfl⟩ := List.cons.inj h
      exact ⟨cs, rfl, Nat.le_refl _, rfl⟩

theorem skipSpace_of_concat (h : skipSpace (cs ++ ['\r']) = []) : skipSpace cs = [] := by
  rw [skipSpace, List.dropWhile_append] at h
  split at h
  · next hempty => exact List.isEmpty_iff.mp hempty
  · exact absurd h (by simp)

theorem trailsOver_skipWord {ws : List Char} (h : '\r' ∉ ws) : TrailsOver 0 (skipWord ws) := by
  intro cs rest hword
  induction ws generalizing cs with
  | nil =>
    obtain rfl := Except.ok.inj hword
    exact ⟨cs, rfl, Nat.le_refl _, rfl⟩
  | cons w ws ih =>
    rw [List.mem_cons, not_or] at h
    cases cs with
    | nil => exact absurd hword (by simp [skipWord, h.1])
    | cons c cs =>
      rw [List.cons_append, skipWord] at hword
      split at hword
      · next hc =>
        obtain ⟨rest', hrest, hlength, hskip⟩ := ih h.2 cs hword
        exact ⟨rest', hrest, Nat.le_succ_of_le hlength, by rw [skipWord, if_pos hc, hskip]⟩
      · exact absurd hword (by simp)

end

/-! ### Numbers -/

section

variable {atEnd : ReadError}

theorem trails_readDigits : Trails 1 (readDigits atEnd) := by
  intro cs a rest h
  cases cs with
  | nil => exact absurd h (by simp [readDigits])
  | cons c cs =>
    rw [List.cons_append, readDigits] at h
    split at h
    · next hc =>
      obtain ⟨rfl, rfl⟩ := Prod.mk.inj (Except.ok.inj h)
      rw [← List.cons_append, takeWhile_concat rfl, dropWhile_concat rfl]
      refine ⟨_, rfl, ?_, by rw [readDigits, if_pos hc]⟩
      rw [List.dropWhile_cons_of_pos hc]
      exact Nat.succ_le_succ (List.dropWhile_sublist _).length_le
    · exact absurd h (by simp)

theorem trails_readWhole : Trails 1 (readWhole atEnd) := by
  intro cs a rest h
  cases cs with
  | nil => exact absurd h (by simp [readWhole, readDigits])
  | cons c cs =>
    by_cases hc : c = '0'
    · subst hc
      rw [List.cons_append, readWhole] at h
      split at h
      · exact absurd h (by simp)
      · next hhead =>
        obtain ⟨rfl, rfl⟩ := Prod.mk.inj (Except.ok.inj h)
        have hcs : ¬cs.head?.any Char.isDigit = true := by
          cases cs with
          | nil => simp
          | cons c cs => exact hhead
        exact ⟨cs, rfl, Nat.le_refl _, by rw [readWhole, if_neg hcs]⟩
    · have hwhole : ∀ ds, readWhole atEnd (c :: ds) = readDigits atEnd (c :: ds) := by
        intro ds
        rw [readWhole] <;> simp [hc]
      rw [List.cons_append, hwhole] at h
      rw [hwhole]
      exact trails_readDigits (c :: cs) a rest h

theorem trails_readFraction : Trails 0 (readFraction atEnd) := by
  intro cs a rest h
  cases cs with
  | nil => exact trails_pure none [] a rest h
  | cons c cs =>
    by_cases hc : c = '.'
    · subst hc
      exact (trails_readDigits.map some).cons (fun _ => rfl) (by decide) h
    · have hnone : ∀ ds, readFraction atEnd (c :: ds) = .ok (none, c :: ds) := by
        intro ds
        rw [readFraction]
        simp [hc]
      rw [List.cons_append, hnone] at h
      rw [hnone]
      exact trails_pure none (c :: cs) a rest h

theorem trails_readPowerDigits {negative : Bool} : Trails 1 (readPowerDigits atEnd negative) :=
  trails_readDigits.map fun ds =>
    let n : Int := Nat.ofDigitChars 10 ds 0
    some (if negative then -n else n)

/-- Reads what follows the letter of a power. -/
def readSignedPower (atEnd : ReadError) : Reader (Option Int)
  | '+' :: cs => readPowerDigits atEnd false cs
  | '-' :: cs => readPowerDigits atEnd true cs
  | cs => readPowerDigits atEnd false cs

theorem readPower_cons (c : Char) (cs : List Char) : readPower atEnd (c :: cs) =
    if c = 'e' ∨ c = 'E' then readSignedPower atEnd cs else .ok (none, c :: cs) := rfl

theorem trails_readSignedPower : Trails 1 (readSignedPower atEnd) := by
  intro cs a rest h
  cases cs with
  | nil => exact trails_readPowerDigits [] a rest h
  | cons c cs =>
    by_cases hplus : c = '+'
    · subst hplus
      exact trails_readPowerDigits.cons (fun _ => rfl) (by decide) h
    · by_cases hminus : c = '-'
      · subst hminus
        exact trails_readPowerDigits.cons (fun _ => rfl) (by decide) h
      · have hdigits : ∀ ds, readSignedPower atEnd (c :: ds) = readPowerDigits atEnd false (c :: ds) := by
          intro ds
          rw [readSignedPower] <;> simp [hplus, hminus]
        rw [List.cons_append, hdigits] at h
        rw [hdigits]
        exact trails_readPowerDigits (c :: cs) a rest h

theorem trails_readPower : Trails 0 (readPower atEnd) := by
  intro cs a rest h
  cases cs with
  | nil =>
    have hnone : readPower atEnd ['\r'] = .ok (none, ['\r']) := by rw [readPower_cons, if_neg (by decide)]
    exact trails_pure none [] a rest (hnone.symm.trans h)
  | cons c cs =>
    by_cases hc : c = 'e' ∨ c = 'E'
    · exact trails_readSignedPower.cons (fun ds => (readPower_cons c ds).trans (if_pos hc)) (by decide) h
    · rw [List.cons_append, readPower_cons, if_neg hc] at h
      rw [readPower_cons, if_neg hc]
      exact trails_pure none (c :: cs) a rest h

/-- Reads a number from after its sign. -/
def readUnsigned (atEnd : ReadError) (negative : Bool) (cs : List Char) : Except ReadError (Literal × List Char) := do
  let (whole, cs) ← readWhole atEnd cs
  let (fraction, cs) ← readFraction atEnd cs
  let (power, cs) ← readPower atEnd cs
  return (⟨negative, whole, fraction, power⟩, cs)

theorem trails_readUnsigned (negative : Bool) : Trails 1 (readUnsigned atEnd negative) := by
  intro cs l rest h
  obtain ⟨⟨whole, ds⟩, hwhole, h⟩ := bind_eq_ok.mp h
  obtain ⟨⟨fraction, es⟩, hfraction, h⟩ := bind_eq_ok.mp h
  obtain ⟨⟨power, fs⟩, hpower, h⟩ := bind_eq_ok.mp h
  obtain ⟨rfl, rfl⟩ := Prod.mk.inj (Except.ok.inj h)
  obtain ⟨ds', rfl, hds, hwhole⟩ := trails_readWhole cs whole ds hwhole
  obtain ⟨es', rfl, hes, hfraction⟩ := trails_readFraction ds' fraction es hfraction
  obtain ⟨fs', rfl, hfs, hpower⟩ := trails_readPower es' power _ hpower
  exact ⟨fs', rfl, by omega,
    bind_eq_ok.mpr ⟨_, hwhole, bind_eq_ok.mpr ⟨_, hfraction, bind_eq_ok.mpr ⟨_, hpower, rfl⟩⟩⟩⟩

theorem readLiteral_minus (cs : List Char) : readLiteral atEnd ('-' :: cs) = readUnsigned atEnd true cs := rfl

theorem readLiteral_of_ne {cs : List Char} (h : cs.head? ≠ some '-') :
    readLiteral atEnd cs = readUnsigned atEnd false cs := by
  rw [readLiteral]
  · rfl
  · rintro ds rfl
    exact h rfl

theorem trails_readLiteral : Trails 1 (readLiteral atEnd) := by
  intro cs l rest h
  cases cs with
  | nil => exact trails_readUnsigned false [] l rest h
  | cons c cs =>
    by_cases hc : c = '-'
    · subst hc
      exact (trails_readUnsigned true).cons readLiteral_minus (by decide) h
    · have hunsigned : ∀ ds, readLiteral atEnd (c :: ds) = readUnsigned atEnd false (c :: ds) :=
        fun ds => readLiteral_of_ne (by simp [hc])
      rw [List.cons_append, hunsigned] at h
      rw [hunsigned]
      exact trails_readUnsigned false (c :: cs) l rest h

theorem trails_readNumber : Trails 1 readNumber := by
  intro cs n rest h
  obtain ⟨⟨l, ds⟩, hliteral, h⟩ := bind_eq_ok.mp h
  obtain ⟨ds', rfl, hds, hliteral⟩ := trails_readLiteral cs l ds hliteral
  dsimp only at h
  split at h
  · next n' hnumber =>
    obtain ⟨rfl, rfl⟩ := Prod.mk.inj (Except.ok.inj h)
    refine ⟨ds', rfl, hds, bind_eq_ok.mpr ⟨_, hliteral, ?_⟩⟩
    dsimp only
    rw [hnumber]
    rfl
  · exact absurd h (by simp)

end

/-! ### Strings -/

section

/-- Of a text with a carriage return behind it, what stands behind a beginning that does not end with one. -/
theorem exists_of_concat_eq {cs start ds : List Char} (h : cs ++ ['\r'] = start ++ ds)
    (hstart : start.getLast? ≠ some '\r') : ∃ ds', ds = ds' ++ ['\r'] ∧ cs = start ++ ds' := by
  rcases List.eq_nil_or_concat ds with rfl | ⟨ds', c, rfl⟩
  · rw [List.append_nil] at h
    exact absurd (by rw [← h, List.getLast?_concat]) hstart
  · rw [List.concat_eq_append, ← List.append_assoc] at h
    obtain ⟨hcs, hc⟩ := List.append_inj' h rfl
    exact ⟨ds', by rw [List.concat_eq_append, ← hc], hcs⟩

theorem trails_readHex : Trails 1 readHex := by
  intro cs n rest h
  unfold readHex at h
  split at h
  · next a b c d ds heq =>
    split at h
    · next va vb vc vd ha hb hc hd =>
      obtain ⟨rfl, rfl⟩ := Prod.mk.inj (Except.ok.inj h)
      have hlast : [a, b, c, d].getLast? ≠ some '\r' := by
        intro hlast
        obtain rfl : d = '\r' := Option.some.inj hlast
        exact absurd hd (by simp [hexValue?])
      obtain ⟨ds', rfl, rfl⟩ := exists_of_concat_eq heq hlast
      refine ⟨ds', rfl, by simp only [List.length_append, List.length_cons]; omega, ?_⟩
      show readHex (a :: b :: c :: d :: ds') = _
      rw [readHex, ha, hb, hc, hd]
    · exact absurd h (by simp)
  · split at h <;> exact absurd h (by simp)

theorem trails_readLowSurrogate (high : Nat) : Trails 1 (readLowSurrogate high) := by
  intro cs c rest h
  obtain ⟨ds, hword, h⟩ := bind_eq_ok.mp h
  obtain ⟨⟨low, es⟩, hlow, h⟩ := bind_eq_ok.mp h
  obtain ⟨ds', rfl, hds, hword⟩ := trailsOver_skipWord (by decide) cs ds hword
  obtain ⟨es', rfl, hes, hlow⟩ := trails_readHex ds' low es hlow
  refine ⟨es', ?_⟩
  dsimp only at h
  split at h
  · next hrange =>
    obtain ⟨rfl, rfl⟩ := Prod.mk.inj (Except.ok.inj h)
    refine ⟨rfl, by omega, bind_eq_ok.mpr ⟨_, hword, bind_eq_ok.mpr ⟨_, hlow, ?_⟩⟩⟩
    exact if_pos hrange
  · exact absurd h (by simp)

theorem trails_readCodePoint : Trails 1 readCodePoint := by
  intro cs c rest h
  obtain ⟨⟨n, ds⟩, hhex, h⟩ := bind_eq_ok.mp h
  obtain ⟨ds', rfl, hds, hhex⟩ := trails_readHex cs n ds hhex
  dsimp only at h
  split at h
  · next hhigh =>
    obtain ⟨rest', rfl, hrest, hlow⟩ := trails_readLowSurrogate n ds' c rest h
    refine ⟨rest', rfl, by omega, bind_eq_ok.mpr ⟨_, hhex, ?_⟩⟩
    exact (if_pos hhigh).trans hlow
  · next hhigh =>
    split at h
    · exact absurd h (by simp)
    · next hlow =>
      obtain ⟨rfl, rfl⟩ := Prod.mk.inj (Except.ok.inj h)
      refine ⟨ds', rfl, hds, bind_eq_ok.mpr ⟨_, hhex, ?_⟩⟩
      exact (if_neg hhigh).trans (if_neg hlow)

variable {α : Type} {short : Char → α} {codePoint : Reader α}

theorem trails_readEscape (hcode : Trails 1 codePoint) : Trails 1 (readEscape short codePoint) := by
  intro cs a rest h
  cases cs with
  | nil => exact absurd h (by simp [readEscape, shortEscape?])
  | cons c cs =>
    by_cases hc : c = 'u'
    · subst hc
      exact hcode.cons (fun _ => rfl) (by decide) h
    · cases hshort : shortEscape? c with
      | none =>
        have herror : ∀ ds, readEscape short codePoint (c :: ds) = .error (.malformed .token) := by
          intro ds
          simp [readEscape, hshort]
        exact absurd h (by rw [List.cons_append, herror]; simp)
      | some e =>
        have hread : ∀ ds, readEscape short codePoint (c :: ds) = .ok (short e, ds) := by
          intro ds
          simp [readEscape, hshort]
        exact (trails_pure (short e)).cons hread (by decide) h

theorem trails_readChar (hcode : Trails 1 codePoint) : Trails 1 (readChar short codePoint) := by
  intro cs a rest h
  cases cs with
  | nil => exact absurd h (by simp [readChar])
  | cons c cs =>
    by_cases hquote : c = '"'
    · subst hquote
      exact (trails_pure none).cons (fun _ => rfl) (by decide) h
    · by_cases hback : c = '\\'
      · subst hback
        exact ((trails_readEscape hcode).map some).cons (fun _ => rfl) (by decide) h
      · have hplain : ∀ ds, readChar short codePoint (c :: ds) =
            if c.toNat < 0x20 then .error (.malformed .token) else .ok (some (short c), ds) := by
          intro ds
          rw [readChar] <;> simpa
        rw [List.cons_append, hplain] at h
        rw [hplain]
        split at h
        · exact absurd h (by simp)
        · next hc =>
          obtain ⟨rfl, rfl⟩ := Prod.mk.inj (Except.ok.inj h)
          exact ⟨cs, rfl, Nat.le_refl _, if_neg hc⟩

/-- So many steps are enough as the text has characters, and one more. -/
theorem trails_readCharsWithin (hcode : Trails 1 codePoint) {n : Nat} {cs rest : List Char} {as : List α}
    (h : readCharsWithin short codePoint n (cs ++ ['\r']) = .ok (as, rest)) :
    ∃ rest', rest = rest' ++ ['\r'] ∧ rest'.length + 1 ≤ cs.length ∧
      ∀ m, cs.length < m → readCharsWithin short codePoint m cs = .ok (as, rest') := by
  -- each character that is read shortens the text, so one step fewer is enough for the rest of it
  induction n generalizing cs as with
  | zero => exact absurd h (by simp [readCharsWithin])
  | succ n ih =>
    obtain ⟨⟨a, ds⟩, hchar, h⟩ := bind_eq_ok.mp h
    obtain ⟨ds', rfl, hds, hchar⟩ := trails_readChar hcode cs a ds hchar
    cases a with
    | none =>
      obtain ⟨rfl, rfl⟩ := Prod.mk.inj (Except.ok.inj h)
      refine ⟨ds', rfl, hds, fun m hm => ?_⟩
      obtain ⟨k, rfl⟩ := Nat.exists_eq_add_of_lt hm
      exact bind_eq_ok.mpr ⟨_, hchar, rfl⟩
    | some a =>
      obtain ⟨⟨as', es⟩, hrest, h⟩ := bind_eq_ok.mp h
      obtain ⟨rfl, rfl⟩ := Prod.mk.inj (Except.ok.inj h)
      obtain ⟨rest', rfl, hlength, hread⟩ := ih hrest
      refine ⟨rest', rfl, by omega, fun m hm => ?_⟩
      obtain ⟨k, rfl⟩ := Nat.exists_eq_add_of_lt hm
      exact bind_eq_ok.mpr ⟨_, hchar, bind_eq_ok.mpr ⟨_, hread (cs.length + k) (by omega), rfl⟩⟩

theorem trails_readString : Trails 1 readString := by
  intro cs s rest h
  obtain ⟨⟨as, ds⟩, hchars, heq⟩ := map_eq_ok.mp h
  obtain ⟨rfl, rfl⟩ := Prod.mk.inj heq
  obtain ⟨rest', rfl, hlength, hread⟩ := trails_readCharsWithin trails_readCodePoint hchars
  exact ⟨rest', rfl, hlength, map_eq_ok.mpr ⟨_, hread _ (Nat.lt_succ_self _), rfl⟩⟩

theorem trailsOver_skipString : TrailsOver 1 skipString := by
  intro cs rest h
  obtain ⟨⟨as, ds⟩, hchars, rfl⟩ := map_eq_ok.mp h
  obtain ⟨rest', rfl, hlength, hread⟩ := trails_readCharsWithin (trails_readHex.map fun _ => ()) hchars
  exact ⟨rest', rfl, hlength, map_eq_ok.mpr ⟨_, hread _ (Nat.lt_succ_self _), rfl⟩⟩

end

end FeedSieve.Json
