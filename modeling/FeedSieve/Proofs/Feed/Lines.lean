import FeedSieve.Feed.Lines

/-! Streams divided into lines. A stream is divided in one way only, and the lines of two parts are those of the
whole if the first part is empty or ends with a newline. What a line says stands before its newline and one
carriage return in front of that; a line without a newline says all that it holds. -/

namespace FeedSieve.Feed

/-- A stream divided into lines: each ends with its first newline, the last one perhaps without. -/
inductive Lined : List UInt8 → List (List UInt8) → Prop
  | nil : Lined [] []
  | last {body : List UInt8} (hne : body ≠ []) (h : newline ∉ body) : Lined body [body]
  | cons {body bytes : List UInt8} {ls : List (List UInt8)} (h : newline ∉ body) (hrest : Lined bytes ls) :
    Lined (body ++ newline :: bytes) ((body ++ [newline]) :: ls)

/-- The bytes of lines that all have their newlines. -/
def Ended (bytes : List UInt8) : Prop := bytes = [] ∨ bytes.getLast? = some newline

/-- A line, with its newline or without. -/
def IsLine (line : List UInt8) : Prop := ∃ body, newline ∉ body ∧ (line = body ∨ line = body ++ [newline])

inductive Says : List UInt8 → List UInt8 → Prop
  | unended {raw : List UInt8} (h : newline ∉ raw) : Says raw raw
  | ended {raw : List UInt8} (h : newline ∉ raw) (hreturn : raw.getLast? ≠ some carriageReturn) :
    Says (raw ++ [newline]) raw
  | returned {raw : List UInt8} (h : newline ∉ raw) : Says (raw ++ [carriageReturn, newline]) raw

/-! ### Division into lines -/

section

variable {bytes body : List UInt8} {ls : List (List UInt8)}

theorem linesFrom_of_notMem (h : newline ∉ body) (start : List UInt8) :
    linesFrom start body = if start.reverse ++ body = [] then [] else [start.reverse ++ body] := by
  induction body generalizing start with
  | nil => cases start <;> simp [linesFrom]
  | cons b bs ih =>
    have hb : b ≠ newline := fun hb => h (by simp [hb])
    rw [linesFrom, if_neg hb, ih (fun hbs => h (by simp [hbs]))]
    simp

theorem linesFrom_append_newline (h : newline ∉ body) (start rest : List UInt8) :
    linesFrom start (body ++ newline :: rest) = (start.reverse ++ body ++ [newline]) :: lines rest := by
  induction body generalizing start with
  | nil => simp [linesFrom, lines]
  | cons b bs ih =>
    have hb : b ≠ newline := fun hb => h (by simp [hb])
    rw [List.cons_append, linesFrom, if_neg hb, ih (fun hbs => h (by simp [hbs]))]
    simp

theorem lined_linesFrom (bytes : List UInt8) {start : List UInt8} (h : newline ∉ start) :
    Lined (start.reverse ++ bytes) (linesFrom start bytes) := by
  -- what is known of the first line has no newline; at a newline the induction starts a line anew
  induction bytes generalizing start with
  | nil =>
    cases start with
    | nil => exact .nil
    | cons b bs =>
      rw [List.append_nil]
      exact .last (by simp) (by rwa [List.mem_reverse])
  | cons b bs ih =>
    rw [linesFrom]
    split
    · next hb =>
      have hrest := @ih [] List.not_mem_nil
      rw [hb, List.reverse_cons]
      exact .cons (by rwa [List.mem_reverse]) hrest
    · next hb =>
      have hrest := @ih (b :: start) (by simpa [Ne.symm hb] using h)
      rwa [List.reverse_cons, List.append_assoc, List.singleton_append] at hrest

/-- A stream is divided into its lines, and in no other way. -/
theorem lined_iff : Lined bytes ls ↔ ls = lines bytes := by
  constructor
  · intro h
    induction h with
    | nil => rfl
    | last hne hbody =>
      rw [lines, linesFrom_of_notMem hbody, if_neg (by simpa using hne)]
      rfl
    | cons hbody _ ih =>
      rw [lines, linesFrom_append_newline hbody, ← ih]
      rfl
  · rintro rfl
    exact lined_linesFrom bytes List.not_mem_nil

theorem Lined.isLine (h : Lined bytes ls) : ∀ line ∈ ls, IsLine line := by
  induction h with
  | nil => simp
  | last _ hbody =>
    intro line hline
    rw [List.mem_singleton.mp hline]
    exact ⟨_, hbody, .inl rfl⟩
  | cons hbody _ ih => exact List.forall_mem_cons.mpr ⟨⟨_, hbody, .inr rfl⟩, ih⟩

theorem IsLine.lined {line : List UInt8} (h : IsLine line) (hne : line ≠ []) : Lined line [line] := by
  obtain ⟨body, hbody, rfl | rfl⟩ := h
  · exact .last hne hbody
  · exact .cons hbody .nil

theorem Ended.of_append (h : Ended (body ++ newline :: bytes)) : Ended bytes := by
  rcases List.eq_nil_or_concat bytes with hnil | ⟨start, b, rfl⟩
  · exact .inl hnil
  · rcases h with hnil | hlast
    · exact absurd hnil (by simp)
    · rw [List.concat_eq_append, ← List.cons_append, ← List.append_assoc, List.getLast?_concat] at hlast
      exact .inr (by rw [List.concat_eq_append, List.getLast?_concat, hlast])

theorem not_ended (hne : body ≠ []) (h : newline ∉ body) : ¬Ended body := by
  rintro (hnil | hlast)
  · exact hne hnil
  · exact h (List.mem_of_getLast? hlast)

/-- There is one line for each newline if all lines have theirs. -/
theorem Lined.length_eq_count (h : Lined bytes ls) (hend : Ended bytes) : ls.length = bytes.count newline := by
  induction h with
  | nil => rfl
  | last hne hbody => exact absurd hend (not_ended hne hbody)
  | cons hbody _ ih =>
    rw [List.length_cons, ih hend.of_append, List.count_append, List.count_cons_self,
      List.count_eq_zero_of_not_mem hbody]
    omega

theorem Lined.append (h : Lined bytes ls) (hend : Ended bytes) {rest : List UInt8} {ms : List (List UInt8)}
    (hrest : Lined rest ms) : Lined (bytes ++ rest) (ls ++ ms) := by
  induction h with
  | nil => exact hrest
  | last hne hbody => exact absurd hend (not_ended hne hbody)
  | cons hbody _ ih =>
    rw [List.append_assoc, List.cons_append, List.cons_append]
    exact .cons hbody (ih hend.of_append)

end

/-! ### What a line says -/

section

variable {line raw : List UInt8}

theorem Says.isLine (h : Says line raw) : IsLine line := by
  cases h with
  | unended hraw => exact ⟨_, hraw, .inl rfl⟩
  | ended hraw _ => exact ⟨_, hraw, .inr rfl⟩
  | returned hraw =>
    refine ⟨raw ++ [carriageReturn], ?_, .inr (by simp)⟩
    rw [List.mem_append, not_or]
    exact ⟨hraw, by decide⟩

theorem Says.notMem (h : Says line raw) : newline ∉ raw := by cases h <;> assumption

theorem strip_concat_newline (body : List UInt8) : strip (body ++ [newline]) =
    if body.getLast? = some carriageReturn then body.dropLast else body := by
  rcases List.eq_nil_or_concat body with rfl | ⟨start, b, rfl⟩
  · rfl
  · by_cases hb : b = carriageReturn
    · simp [strip, stripReversed, hb]
    · simp [strip, stripReversed, hb]

theorem strip_of_notMem {body : List UInt8} (h : newline ∉ body) : strip body = body := by
  rcases List.eq_nil_or_concat body with rfl | ⟨start, b, rfl⟩
  · rfl
  · have hb : b ≠ newline := fun hb => h (by simp [hb])
    simp [strip, stripReversed, hb]

/-- What is stripped of a line leaves what it says, and nothing else is what it says. -/
theorem says_iff : Says line raw ↔ IsLine line ∧ raw = strip line := by
  constructor
  · intro h
    refine ⟨h.isLine, ?_⟩
    cases h with
    | unended hraw =>
      exact (strip_of_notMem hraw).symm
    | ended hraw hreturn => rw [strip_concat_newline, if_neg hreturn]
    | returned hraw =>
      have hsplit : raw ++ [carriageReturn, newline] = (raw ++ [carriageReturn]) ++ [newline] := by simp
      rw [hsplit, strip_concat_newline, if_pos (by simp), List.dropLast_concat]
  · rintro ⟨⟨body, hbody, rfl | rfl⟩, rfl⟩
    · rw [strip_of_notMem hbody]
      exact .unended hbody
    · rw [strip_concat_newline]
      split
      · next hreturn =>
        obtain ⟨start, rfl⟩ := List.getLast?_eq_some_iff.mp hreturn
        rw [List.dropLast_concat, List.append_assoc]
        exact .returned fun hstart => hbody (by simp [hstart])
      · next hreturn => exact .ended hbody hreturn

end

end FeedSieve.Feed
