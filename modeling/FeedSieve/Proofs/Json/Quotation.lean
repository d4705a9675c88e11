import FeedSieve.Json.Token
import FeedSieve.Proofs.Outcome

/-! Strings in writing. Every character has one written form inside a string, and reading it gives the
character back, whether the string is kept or only skipped. -/

namespace FeedSieve.Json

/-! ### Controls -/

theorem hexValue_digitChar {n : Nat} (h : n < 16) : hexValue? (Nat.digitChar n) = some n := by
  have hall : ∀ n < 16, hexValue? (Nat.digitChar n) = some n := by decide
  exact hall n h

theorem readHex_digitChar {n : Nat} (h : n < 0x100) (rest : List Char) :
    readHex ('0' :: '0' :: Nat.digitChar (n / 16) :: Nat.digitChar (n % 16) :: rest) = .ok (n, rest) := by
  have hz : hexValue? '0' = some 0 := by decide
  have hhigh := hexValue_digitChar (n := n / 16) (by omega)
  have hlow := hexValue_digitChar (n := n % 16) (by omega)
  have hsum : n / 16 * 16 + n % 16 = n := by omega
  simp [readHex, hz, hhigh, hlow, hsum]

theorem readCodePoint_control {c : Char} (h : c.toNat < 0x20) (rest : List Char) :
    readCodePoint ('0' :: '0' :: Nat.digitChar (c.toNat / 16) :: Nat.digitChar (c.toNat % 16) :: rest) =
      .ok (c, rest) := by
  rw [readCodePoint, readHex_digitChar (by omega), ok_bind]
  dsimp only
  rw [if_neg (by omega), if_neg (by omega), Char.ofNat_toNat]
  rfl

/-! ### Characters and strings -/

section

variable {α : Type} {short : Char → α} {codePoint : Reader α}

/-- The reader of a code point agrees with the reading of plain characters on written controls. -/
def ReadsControls (short : Char → α) (codePoint : Reader α) : Prop :=
  ∀ c rest, c.toNat < 0x20 → codePoint ('0' :: '0' :: Nat.digitChar (c.toNat / 16) ::
    Nat.digitChar (c.toNat % 16) :: rest) = .ok (short c, rest)

theorem readChar_escapeChar (h : ReadsControls short codePoint) (c : Char) (rest : List Char) :
    readChar short codePoint (escapeChar c ++ rest) = .ok (some (short c), rest) := by
  unfold escapeChar
  split
  · subst_vars; rfl
  split
  · subst_vars; rfl
  split
  · subst_vars; rfl
  split
  · subst_vars; rfl
  split
  · subst_vars; rfl
  split
  · subst_vars; rfl
  split
  · subst_vars; rfl
  split
  · next hc => simp [readChar, readEscape, h c rest hc]
  · next hquote hslash _ _ _ _ _ hcontrol =>
    rw [List.cons_append, List.nil_append]
    unfold readChar
    split <;> simp_all

theorem readCharsWithin_escape (h : ReadsControls short codePoint) (cs rest : List Char) :
    ∀ n, cs.length < n →
      readCharsWithin short codePoint n (cs.flatMap escapeChar ++ '"' :: rest) = .ok (cs.map short, rest) := by
  induction cs with
  | nil =>
    rintro (_ | n) hn
    · omega
    · rfl
  | cons c cs ih =>
    rintro (_ | n) hn
    · omega
    · rw [List.flatMap_cons, List.append_assoc, readCharsWithin, readChar_escapeChar h, ok_bind]
      dsimp only
      rw [ih n (by simpa using hn)]
      rfl

end

theorem length_le_escape (cs : List Char) : cs.length ≤ (cs.flatMap escapeChar).length := by
  induction cs with
  | nil => simp
  | cons c cs ih =>
    have hc : 1 ≤ (escapeChar c).length := by
      unfold escapeChar
      repeat' split
      all_goals simp
    rw [List.flatMap_cons, List.length_append, List.length_cons]
    omega

def afterQuote (s : String) : List Char := s.toList.flatMap escapeChar ++ ['"']

theorem renderString_eq (s : String) : renderString s = '"' :: afterQuote s := rfl

theorem afterQuote_append (s : String) (rest : List Char) :
    afterQuote s ++ rest = s.toList.flatMap escapeChar ++ '"' :: rest := by simp [afterQuote]

theorem readCharsWithin_afterQuote {α : Type} {short : Char → α} {codePoint : Reader α}
    (h : ReadsControls short codePoint) (s : String) (rest : List Char) :
    readCharsWithin short codePoint ((afterQuote s ++ rest).length + 1) (afterQuote s ++ rest) =
      .ok (s.toList.map short, rest) := by
  rw [afterQuote_append]
  apply readCharsWithin_escape h
  have := length_le_escape s.toList
  rw [List.length_append]
  omega

theorem readString_afterQuote (s : String) (rest : List Char) :
    readString (afterQuote s ++ rest) = .ok (s, rest) := by
  have hcontrols : ReadsControls id readCodePoint := fun c rest hc => readCodePoint_control hc rest
  rw [readString, readCharsWithin_afterQuote hcontrols]
  simp

theorem skipString_afterQuote (s : String) (rest : List Char) :
    skipString (afterQuote s ++ rest) = .ok rest := by
  rw [skipString, readCharsWithin_afterQuote]
  · rfl
  · intro c rest hc
    dsimp only
    rw [readHex_digitChar (by omega)]
    rfl

end FeedSieve.Json
