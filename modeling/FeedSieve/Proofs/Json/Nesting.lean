import FeedSieve.Json.Skip
import FeedSieve.Json.Tree
import FeedSieve.Proofs.Json.Document

/-! How deep a text is nested, counted on its characters. Brackets count where they stand outside of
strings. Whatever a reader reads, the text from its end on is nested no deeper than the text from its
beginning on, and the document it gives is nested no deeper than the text was. -/

namespace FeedSieve.Json

/-- Where the next character of a text stands. -/
inductive Place where
  | outside
  /-- In a string. -/
  | inside
  /-- In a string, after a backslash. -/
  | escaped

/-- The most brackets that are open at one time in the rest of a text, so many being open already. -/
def deepest : Place → Nat → List Char → Nat
  | _, n, [] => n
  | .outside, n, c :: cs =>
    if c = '"' then deepest .inside n cs
    else if c = '[' ∨ c = '{' then deepest .outside (n + 1) cs
    else if c = ']' ∨ c = '}' then max n (deepest .outside (n - 1) cs)
    else deepest .outside n cs
  | .inside, n, c :: cs =>
    if c = '"' then deepest .outside n cs
    else if c = '\\' then deepest .escaped n cs
    else deepest .inside n cs
  | .escaped, n, _ :: cs => deepest .inside n cs

/-- How deep lists and objects are nested in a text. -/
def nesting (text : String) : Nat := deepest .outside 0 text.toList

example : nesting "[1, \x7b\"[[\": \"\\\"[[\"\x7d, []]" = 2 := by decide +kernel

theorem le_deepest (p : Place) (n : Nat) (cs : List Char) : n ≤ deepest p n cs := by
  induction cs generalizing p n with
  | nil => cases p <;> exact Nat.le_refl n
  | cons c cs ih =>
    cases p with
    | outside =>
      have hopen := ih .outside (n + 1)
      rw [deepest]
      split
      · exact ih .inside n
      · split
        · omega
        · split
          · exact Nat.le_max_left n _
          · exact ih .outside n
    | inside =>
      rw [deepest]
      split
      · exact ih .outside n
      · split
        · exact ih .escaped n
        · exact ih .inside n
    | escaped => exact ih .inside n

/-! ### Outside of strings -/

/-- Neither a quote nor a bracket. -/
def isPlain (c : Char) : Bool := c ≠ '"' && c ≠ '[' && c ≠ '{' && c ≠ ']' && c ≠ '}'

/-- Between the beginnings of two texts there are only plain characters, as far as the nesting shows. -/
def Passes (cs rest : List Char) : Prop := ∀ n, deepest .outside n rest = deepest .outside n cs

theorem Passes.refl (cs : List Char) : Passes cs cs := fun _ => rfl

theorem Passes.trans {cs ds es : List Char} (h : Passes cs ds) (h' : Passes ds es) : Passes cs es :=
  fun n => (h' n).trans (h n)

theorem passes_cons {c : Char} (h : isPlain c = true) (cs : List Char) : Passes (c :: cs) cs := by
  intro n
  simp only [isPlain, Bool.and_eq_true, decide_eq_true_eq] at h
  obtain ⟨⟨⟨⟨hquote, hlist⟩, hobject⟩, hlistEnd⟩, hobjectEnd⟩ := h
  simp [deepest, hquote, hlist, hobject, hlistEnd, hobjectEnd]

theorem passes_dropWhile {p : Char → Bool} (hp : ∀ c, p c = true → isPlain c = true) (cs : List Char) :
    Passes cs (cs.dropWhile p) := by
  induction cs with
  | nil => exact .refl []
  | cons c cs ih =>
    rw [List.dropWhile_cons]
    split
    · next hc => exact (passes_cons (hp c hc) cs).trans ih
    · exact .refl _

theorem isPlain_of_isSpace {c : Char} (h : isSpace c = true) : isPlain c = true := by
  simp only [isSpace, Bool.or_eq_true, decide_eq_true_eq] at h
  rcases h with ((rfl | rfl) | rfl) | rfl <;> decide

theorem isPlain_of_isDigit {c : Char} (h : c.isDigit = true) : isPlain c = true := by
  simp only [isPlain, Bool.and_eq_true, decide_eq_true_eq]
  refine ⟨⟨⟨⟨?_, ?_⟩, ?_⟩, ?_⟩, ?_⟩ <;> (rintro rfl; exact absurd h (by decide))

theorem passes_skipSpace (cs : List Char) : Passes cs (skipSpace cs) :=
  passes_dropWhile (fun _ => isPlain_of_isSpace) cs

theorem eq_append_of_skipWord {ws cs rest : List Char} (h : skipWord ws cs = .ok rest) : cs = ws ++ rest := by
  induction ws generalizing cs with
  | nil => exact Except.ok.inj h
  | cons w ws ih =>
    cases cs with
    | nil => exact absurd h (by simp [skipWord])
    | cons c cs =>
      rw [skipWord] at h
      split at h
      · next hc => rw [hc, ih h, List.cons_append]
      · exact absurd h (by simp)

theorem passes_append {ws : List Char} (h : ws.all isPlain = true) (cs : List Char) : Passes (ws ++ cs) cs := by
  induction ws with
  | nil => exact .refl cs
  | cons w ws ih =>
    rw [List.all_cons, Bool.and_eq_true] at h
    exact (passes_cons h.1 _).trans (ih h.2)

/-- A word of the format, behind its first letter. -/
theorem passes_skipWord {c : Char} {ws cs rest : List Char} (hws : (c :: ws).all isPlain = true)
    (h : skipWord ws cs = .ok rest) : Passes (c :: cs) rest := by
  rw [eq_append_of_skipWord h, ← List.cons_append]
  exact passes_append hws rest

section

variable {atEnd : ReadError} {cs rest : List Char}

theorem passes_readDigits {ds : List Char} (h : readDigits atEnd cs = .ok (ds, rest)) : Passes cs rest := by
  cases cs with
  | nil => exact absurd h (by simp [readDigits])
  | cons c cs =>
    rw [readDigits] at h
    split at h
    · obtain ⟨rfl, rfl⟩ := Prod.mk.inj (Except.ok.inj h)
      exact passes_dropWhile (fun _ => isPlain_of_isDigit) _
    · exact absurd h (by simp)

theorem passes_readWhole {ds : List Char} (h : readWhole atEnd cs = .ok (ds, rest)) : Passes cs rest := by
  unfold readWhole at h
  split at h
  · exact absurd h (by simp)
  · split at h
    · exact absurd h (by simp)
    · obtain ⟨rfl, rfl⟩ := Prod.mk.inj (Except.ok.inj h)
      exact passes_cons (by decide) _
  · exact passes_readDigits h

theorem passes_readFraction {ds : Option (List Char)} (h : readFraction atEnd cs = .ok (ds, rest)) :
    Passes cs rest := by
  unfold readFraction at h
  split at h
  · obtain ⟨⟨ds', rest'⟩, hdigits, heq⟩ := map_eq_ok.mp h
    obtain ⟨rfl, rfl⟩ := Prod.mk.inj heq
    exact (passes_cons (by decide) _).trans (passes_readDigits hdigits)
  · obtain ⟨rfl, rfl⟩ := Prod.mk.inj (Except.ok.inj h)
    exact .refl _

theorem passes_readPowerDigits {negative : Bool} {power : Option Int}
    (h : readPowerDigits atEnd negative cs = .ok (power, rest)) : Passes cs rest := by
  obtain ⟨⟨ds, rest'⟩, hdigits, heq⟩ := map_eq_ok.mp h
  obtain ⟨rfl, rfl⟩ := Prod.mk.inj heq
  exact passes_readDigits hdigits

theorem passes_readPower {power : Option Int} (h : readPower atEnd cs = .ok (power, rest)) : Passes cs rest := by
  unfold readPower at h
  split at h
  · obtain ⟨rfl, rfl⟩ := Prod.mk.inj (Except.ok.inj h)
    exact .refl []
  · split at h
    · next c cs hc =>
      have hplain : isPlain c = true := by rcases hc with rfl | rfl <;> decide
      refine (passes_cons hplain cs).trans ?_
      split at h
      · exact (passes_cons (by decide) _).trans (passes_readPowerDigits h)
      · exact (passes_cons (by decide) _).trans (passes_readPowerDigits h)
      · exact passes_readPowerDigits h
    · obtain ⟨rfl, rfl⟩ := Prod.mk.inj (Except.ok.inj h)
      exact .refl _

theorem passes_readLiteral {l : Literal} (h : readLiteral atEnd cs = .ok (l, rest)) : Passes cs rest := by
  unfold readLiteral at h
  split at h
  next negative cs' hsign =>
    have hcs' : Passes cs cs' := by
      split at hsign
      · obtain ⟨-, rfl⟩ := Prod.mk.inj hsign
        exact passes_cons (by decide) _
      · obtain ⟨-, rfl⟩ := Prod.mk.inj hsign
        exact .refl _
    obtain ⟨⟨whole, ds⟩, hwhole, h⟩ := bind_eq_ok.mp h
    obtain ⟨⟨fraction, es⟩, hfraction, h⟩ := bind_eq_ok.mp h
    obtain ⟨⟨power, fs⟩, hpower, h⟩ := bind_eq_ok.mp h
    obtain ⟨rfl, rfl⟩ := Prod.mk.inj (Except.ok.inj h)
    exact hcs'.trans ((passes_readWhole hwhole).trans ((passes_readFraction hfraction).trans
      (passes_readPower hpower)))

theorem passes_readNumber {n : Number} (h : readNumber cs = .ok (n, rest)) : Passes cs rest := by
  obtain ⟨⟨l, ds⟩, hliteral, h⟩ := bind_eq_ok.mp h
  dsimp only at h
  split at h
  · obtain ⟨rfl, rfl⟩ := Prod.mk.inj (Except.ok.inj h)
    exact passes_readLiteral hliteral
  · exact absurd h (by simp)

theorem passes_skipColon (h : skipColon cs = .ok rest) : Passes cs rest := by
  have hspace := passes_skipSpace cs
  unfold skipColon at h
  split at h
  · exact absurd h (by simp)
  · next heq =>
    obtain rfl := Except.ok.inj h
    rw [heq] at hspace
    exact hspace.trans (passes_cons (by decide) _)
  · exact absurd h (by simp)

end

/-! ### In strings -/

/-- Between the beginnings of two texts in one string the string goes on. -/
def GoesOn (cs rest : List Char) : Prop := ∀ n, deepest .inside n rest = deepest .inside n cs

theorem GoesOn.trans {cs ds es : List Char} (h : GoesOn cs ds) (h' : GoesOn ds es) : GoesOn cs es :=
  fun n => (h' n).trans (h n)

theorem goesOn_cons {c : Char} (hquote : c ≠ '"') (hback : c ≠ '\\') (cs : List Char) : GoesOn (c :: cs) cs := by
  intro n
  simp [deepest, hquote, hback]

theorem ne_of_hexValue? {c : Char} (h : (hexValue? c).isSome = true) : c ≠ '"' ∧ c ≠ '\\' := by
  refine ⟨?_, ?_⟩ <;> (rintro rfl; exact absurd h (by decide))

section

variable {cs rest : List Char}

theorem goesOn_readHex {n : Nat} (h : readHex cs = .ok (n, rest)) : GoesOn cs rest := by
  unfold readHex at h
  split at h
  · split at h
    · next ha hb hc hd =>
      obtain ⟨-, rfl⟩ := Prod.mk.inj (Except.ok.inj h)
      have hdigit : ∀ {c : Char} {k : Nat}, hexValue? c = some k → ∀ cs, GoesOn (c :: cs) cs := by
        intro c k hk cs
        obtain ⟨hquote, hback⟩ := ne_of_hexValue? (c := c) (by simp [hk])
        exact goesOn_cons hquote hback cs
      exact (hdigit ha _).trans ((hdigit hb _).trans ((hdigit hc _).trans (hdigit hd _)))
    · exact absurd h (by simp)
  · split at h <;> exact absurd h (by simp)

theorem goesOn_readLowSurrogate {high : Nat} {c : Char} (h : readLowSurrogate high cs = .ok (c, rest)) :
    GoesOn cs rest := by
  obtain ⟨ds, hword, htail⟩ := bind_eq_ok.mp h
  obtain ⟨⟨low, es⟩, hlow, hpair⟩ := bind_eq_ok.mp htail
  have hes := goesOn_readHex hlow
  rw [eq_append_of_skipWord hword]
  dsimp only at hpair
  split at hpair
  · obtain ⟨-, rfl⟩ := Prod.mk.inj (Except.ok.inj hpair)
    exact fun n => hes n
  · exact absurd hpair (by simp)

theorem goesOn_readCodePoint {c : Char} (h : readCodePoint cs = .ok (c, rest)) : GoesOn cs rest := by
  obtain ⟨⟨high, ds⟩, hhigh, h⟩ := bind_eq_ok.mp h
  have hds := goesOn_readHex hhigh
  dsimp only at h
  split at h
  · exact hds.trans (goesOn_readLowSurrogate h)
  · split at h
    · exact absurd h (by simp)
    · obtain ⟨-, rfl⟩ := Prod.mk.inj (Except.ok.inj h)
      exact hds

variable {α : Type} {short : Char → α} {codePoint : Reader α}

theorem deepest_readEscape (hcode : ∀ cs a rest, codePoint cs = .ok (a, rest) → GoesOn cs rest) {a : α}
    (h : readEscape short codePoint cs = .ok (a, rest)) (n : Nat) :
    deepest .inside n rest = deepest .escaped n cs := by
  unfold readEscape at h
  split at h
  · exact absurd h (by simp)
  · exact hcode _ _ _ h n
  · split at h
    · obtain ⟨-, rfl⟩ := Prod.mk.inj (Except.ok.inj h)
      rfl
    · exact absurd h (by simp)

/-- A character of a string, or the quote that ends it. -/
theorem deepest_readChar (hcode : ∀ cs a rest, codePoint cs = .ok (a, rest) → GoesOn cs rest) {a : Option α}
    (h : readChar short codePoint cs = .ok (a, rest)) (n : Nat) :
    deepest (if a.isSome then .inside else .outside) n rest = deepest .inside n cs := by
  unfold readChar at h
  split at h
  · exact absurd h (by simp)
  · obtain ⟨rfl, rfl⟩ := Prod.mk.inj (Except.ok.inj h)
    rfl
  · obtain ⟨⟨b, ds⟩, hescape, heq⟩ := map_eq_ok.mp h
    obtain ⟨rfl, rfl⟩ := Prod.mk.inj heq
    exact deepest_readEscape hcode hescape n
  · next hquote hback =>
    split at h
    · exact absurd h (by simp)
    · obtain ⟨rfl, rfl⟩ := Prod.mk.inj (Except.ok.inj h)
      exact goesOn_cons hquote hback _ n

theorem deepest_readCharsWithin (hcode : ∀ cs a rest, codePoint cs = .ok (a, rest) → GoesOn cs rest)
    {k : Nat} {as : List α} (h : readCharsWithin short codePoint k cs = .ok (as, rest)) (n : Nat) :
    deepest .outside n rest = deepest .inside n cs := by
  induction k generalizing cs as with
  | zero => exact absurd h (by simp [readCharsWithin])
  | succ k ih =>
    obtain ⟨⟨a, ds⟩, hchar, h⟩ := bind_eq_ok.mp h
    have hds := deepest_readChar hcode hchar n
    cases a with
    | none =>
      obtain ⟨-, rfl⟩ := Prod.mk.inj (Except.ok.inj h)
      exact hds
    | some a =>
      obtain ⟨⟨as', es⟩, hrest, h⟩ := bind_eq_ok.mp h
      obtain ⟨-, rfl⟩ := Prod.mk.inj (Except.ok.inj h)
      exact (ih hrest).trans hds

theorem deepest_readString {s : String} (h : readString cs = .ok (s, rest)) (n : Nat) :
    deepest .outside n rest = deepest .inside n cs := by
  obtain ⟨⟨as, ds⟩, hchars, heq⟩ := map_eq_ok.mp h
  obtain ⟨-, rfl⟩ := Prod.mk.inj heq
  exact deepest_readCharsWithin (fun _ _ _ => goesOn_readCodePoint) hchars n

theorem deepest_skipString (h : skipString cs = .ok rest) (n : Nat) :
    deepest .outside n rest = deepest .inside n cs := by
  obtain ⟨⟨as, ds⟩, hchars, rfl⟩ := map_eq_ok.mp h
  refine deepest_readCharsWithin (fun cs a rest hcode => ?_) hchars n
  obtain ⟨⟨k, ds⟩, hhex, heq⟩ := map_eq_ok.mp hcode
  obtain ⟨-, rfl⟩ := Prod.mk.inj heq
  exact goesOn_readHex hhex

end

/-! ### Brackets -/

section

variable {cs rest : List Char}

theorem deepest_listEnd (n : Nat) (cs : List Char) :
    deepest .outside n cs ≤ deepest .outside (n + 1) (']' :: cs) := Nat.le_max_right _ _

theorem deepest_objectEnd (n : Nat) (cs : List Char) :
    deepest .outside n cs ≤ deepest .outside (n + 1) ('}' :: cs) := Nat.le_max_right _ _

/-- What comes next of a list: an item, with nothing but plain characters before it, or the end. -/
theorem deepest_nextItem {first : Bool} {a : Ahead} (h : nextItem first cs = .ok a) :
    match a with
    | .item rest => Passes cs rest
    | .close rest => ∀ n, deepest .outside n rest ≤ deepest .outside (n + 1) cs := by
  have hspace := passes_skipSpace cs
  unfold nextItem at h
  split at h
  · exact absurd h (by simp)
  · next heq =>
    obtain rfl := Except.ok.inj h
    rw [heq] at hspace
    intro n
    rw [← hspace]
    exact deepest_listEnd n _
  · next heq =>
    rw [heq] at hspace
    split at h
    · obtain rfl := Except.ok.inj h
      exact hspace
    · split at h
      · next hc =>
        subst hc
        have hcomma := hspace.trans (passes_cons (by decide) _)
        split at h
        · exact absurd h (by simp)
        · exact absurd h (by simp)
        · obtain rfl := Except.ok.inj h
          exact hcomma.trans (passes_skipSpace _)
      · exact absurd h (by simp)

theorem deepest_closeList (h : closeList cs = .ok rest) (n : Nat) :
    deepest .outside n rest ≤ deepest .outside (n + 1) cs := by
  have hspace := passes_skipSpace cs
  rw [closeList_eq_ok.mp h] at hspace
  rw [← hspace]
  exact deepest_listEnd n _

/-- What comes next of an object: a name, from after its opening quote, or the end. -/
theorem deepest_nextMember {first : Bool} {a : Ahead} (h : nextMember first cs = .ok a) :
    match a with
    | .item rest => ∀ n, deepest .inside n rest = deepest .outside n cs
    | .close rest => ∀ n, deepest .outside n rest ≤ deepest .outside (n + 1) cs := by
  have hspace := passes_skipSpace cs
  unfold nextMember at h
  split at h
  · exact absurd h (by simp)
  · next heq =>
    obtain rfl := Except.ok.inj h
    rw [heq] at hspace
    intro n
    rw [← hspace]
    exact deepest_objectEnd n _
  · next heq =>
    rw [heq] at hspace
    split at h
    · split at h
      · next hc =>
        subst hc
        obtain rfl := Except.ok.inj h
        exact fun n => hspace n
      · exact absurd h (by simp)
    · split at h
      · next hc =>
        subst hc
        have hcomma := (hspace.trans (passes_cons (by decide) _)).trans (passes_skipSpace _)
        split at h
        · exact absurd h (by simp)
        · next heq =>
          obtain rfl := Except.ok.inj h
          rw [heq] at hcomma
          exact fun n => hcomma n
        · exact absurd h (by simp)
      · exact absurd h (by simp)

def Found.opened : Found → Nat
  | .array => 1
  | .object => 1
  | _ => 0

theorem deepest_readFound {f : Found} (h : readFound cs = .ok (f, rest)) (n : Nat) :
    deepest .outside (n + f.opened) rest = deepest .outside n cs := by
  unfold readFound at h
  rw [← passes_skipSpace cs n]
  split at h
  · exact absurd h (by simp)
  · next heq =>
    obtain ⟨ds, hword, hpair⟩ := map_eq_ok.mp h
    obtain ⟨rfl, rfl⟩ := Prod.mk.inj hpair
    rw [heq]
    exact passes_skipWord rfl hword n
  · next heq =>
    obtain ⟨ds, hword, hpair⟩ := map_eq_ok.mp h
    obtain ⟨rfl, rfl⟩ := Prod.mk.inj hpair
    rw [heq]
    exact passes_skipWord rfl hword n
  · next heq =>
    obtain ⟨ds, hword, hpair⟩ := map_eq_ok.mp h
    obtain ⟨rfl, rfl⟩ := Prod.mk.inj hpair
    rw [heq]
    exact passes_skipWord rfl hword n
  · next heq =>
    obtain ⟨⟨s, ds⟩, hstring, hpair⟩ := map_eq_ok.mp h
    obtain ⟨rfl, rfl⟩ := Prod.mk.inj hpair
    rw [heq]
    exact deepest_readString hstring n
  · next heq =>
    obtain ⟨rfl, rfl⟩ := Prod.mk.inj (Except.ok.inj h)
    rw [heq]
    rfl
  · next heq =>
    obtain ⟨rfl, rfl⟩ := Prod.mk.inj (Except.ok.inj h)
    rw [heq]
    rfl
  · next heq =>
    rw [heq]
    split at h
    · obtain ⟨⟨m, ds⟩, hnumber, hpair⟩ := map_eq_ok.mp h
      obtain ⟨rfl, rfl⟩ := Prod.mk.inj hpair
      exact passes_readNumber hnumber n
    · exact absurd h (by simp)

end

end FeedSieve.Json
