import FeedSieve.Proofs.Decimal.Word
import FeedSieve.Proofs.Text.Lower
import FeedSieve.Rule.Declaration

/-! Inline declarations taken apart. What stands before the first equals sign is the name, and only a blank name is
refused. A piece that stands alone, trimmed and without commas, is the whole argument: a number if it writes one within
64 bits, and a string otherwise, whatever the name may be. -/

namespace FeedSieve.Declaration

/-! ### Names -/

/-- What stands before the first equals sign, or all of the text if it has none, is blank. -/
def Nameless (text : String) : Prop := ∀ c ∈ text.toList.takeWhile (· ≠ '='), Unicode.isBlank c = true

theorem nameless_iff {text : String} : Nameless text ↔ Text.trim (text.toList.takeWhile (· ≠ '=')) = [] := by
  rw [Text.trim_eq_nil_iff, Text.isBlankText, List.all_eq_true, Nameless]

theorem ofInline_of_nameless {text : String} (h : Nameless text) :
    ofInline text = .error (.invalidArgument text .noName) := if_pos (nameless_iff.mp h)

theorem exists_ofInline_of_not_nameless {text : String} (h : ¬Nameless text) : ∃ d, ofInline text = .ok d :=
  ⟨_, if_neg fun hname => h (nameless_iff.mpr hname)⟩

section

variable {name : String} (hne : name ≠ "") (htrimmed : Text.IsTrimmed name.toList) (hequals : '=' ∉ name.toList)

include hne htrimmed hequals

/-- A name that is trimmed and has no equals sign is read as it stands, and the text behind it, if there is one, is the
argument. -/
theorem ofInline_of_toList {text : String} {rest : List Char} (htext : text.toList = name.toList ++ rest)
    (hrest : ∀ c ∈ rest.head?, c = '=') : ofInline text = .ok ⟨name, inlineArgument (rest.drop 1)⟩ := by
  have hbefore : ∀ c ∈ name.toList, decide (c ≠ '=') = true := by
    intro c hc
    rw [decide_eq_true_eq]
    rintro rfl
    exact hequals hc
  have hstops : rest.takeWhile (· ≠ '=') = [] ∧ rest.dropWhile (· ≠ '=') = rest := by
    cases rest with
    | nil => exact ⟨rfl, rfl⟩
    | cons c rest =>
      obtain rfl := hrest c rfl
      exact ⟨List.takeWhile_cons_of_neg (by simp), List.dropWhile_cons_of_neg (by simp)⟩
  have htake : text.toList.takeWhile (· ≠ '=') = name.toList := by
    rw [htext, List.takeWhile_append_of_pos hbefore, hstops.1, List.append_nil]
  have hdrop : text.toList.dropWhile (· ≠ '=') = rest := by
    rw [htext, List.dropWhile_append_of_pos hbefore, hstops.2]
  have hname : name.toList ≠ [] := by simpa using hne
  simp only [ofInline, htake, hdrop, Text.trim_of_isTrimmed htrimmed, hname, if_false, String.ofList_toList]

theorem ofInline_name : ofInline name = .ok ⟨name, .null⟩ :=
  ofInline_of_toList hne htrimmed hequals (List.append_nil _).symm (by simp)

theorem ofInline_of_name (argument : String) :
    ofInline (name ++ "=" ++ argument) = .ok ⟨name, inlineArgument argument.toList⟩ := by
  have htext : (name ++ "=" ++ argument).toList = name.toList ++ '=' :: argument.toList := by
    simp [String.toList_append]
  exact ofInline_of_toList hne htrimmed hequals htext (by simp)

end

/-! ### Pieces -/

theorem splitAt_eq_splitOn (sep : Char) (cs : List Char) : splitAt sep cs = cs.splitOn sep := by
  fun_induction splitAt sep cs with
  | case1 => exact (List.splitOn_nil sep).symm
  | case2 cs ih => rw [List.splitOn_cons_eq_if_modifyHead, if_pos (beq_self_eq_true sep), ih]
  | case3 c cs _ hnil ih => exact absurd (ih.symm.trans hnil) (List.splitOn_ne_nil sep cs)
  | case4 c cs hc piece pieces hsplit ih =>
    rw [List.splitOn_cons_eq_if_modifyHead, if_neg (by simpa using hc), ← ih, hsplit, List.modifyHead_cons]

theorem notMem_of_mem_splitAt {sep : Char} {cs piece : List Char} (h : piece ∈ splitAt sep cs) : sep ∉ piece := by
  fun_induction splitAt sep cs generalizing piece with
  | case1 =>
    rw [List.mem_singleton.mp h]
    exact List.not_mem_nil
  | case2 cs ih =>
    rcases List.mem_cons.mp h with rfl | h
    · exact List.not_mem_nil
    · exact ih h
  | case3 c cs hc =>
    rw [List.mem_singleton.mp h, List.mem_singleton]
    exact Ne.symm hc
  | case4 c cs hc first pieces hsplit ih =>
    rcases List.mem_cons.mp h with rfl | h
    · exact fun hmem => (List.mem_cons.mp hmem).elim (Ne.symm hc) (ih (hsplit ▸ List.mem_cons_self))
    · exact ih (hsplit ▸ List.mem_cons_of_mem first h)

/-- A piece of an inline argument: not empty, trimmed and without commas. -/
structure IsPiece (cs : List Char) : Prop where
  ne_nil : cs ≠ []
  trimmed : Text.IsTrimmed cs
  comma : ',' ∉ cs

instance (cs : List Char) : Decidable (IsPiece cs) :=
  decidable_of_iff (cs ≠ [] ∧ Text.IsTrimmed cs ∧ ',' ∉ cs)
    ⟨fun h => ⟨h.1, h.2.1, h.2.2⟩, fun h => ⟨h.ne_nil, h.trimmed, h.comma⟩⟩

theorem isPiece_of_mem_pieces {cs p : List Char} (h : p ∈ pieces cs) : IsPiece p := by
  obtain ⟨hmem, hne⟩ := List.mem_filter.mp h
  obtain ⟨q, hq, rfl⟩ := List.mem_map.mp hmem
  exact ⟨of_decide_eq_true hne, Text.isTrimmed_trim q, fun hcomma =>
    notMem_of_mem_splitAt hq (Text.mem_of_mem_trim hcomma)⟩

/-- Pieces that are joined with commas come apart again. -/
theorem pieces_intercalate {ps : List (List Char)} (hne : ps ≠ []) (h : ∀ p ∈ ps, IsPiece p) :
    pieces ([','].intercalate ps) = ps := by
  have htrim : ps.map Text.trim = ps :=
    (List.map_congr_left fun p hp => Text.trim_of_isTrimmed (h p hp).trimmed).trans (List.map_id ps)
  rw [pieces, splitAt_eq_splitOn, List.splitOn_intercalate ',' (fun p hp => (h p hp).comma) hne, htrim]
  exact List.filter_eq_self.mpr fun p hp => decide_eq_true (h p hp).ne_nil

/-- A text that is trimmed and has no commas is one piece. -/
theorem pieces_of_isTrimmed {cs : List Char} (hne : cs ≠ []) (htrimmed : Text.IsTrimmed cs) (hcomma : ',' ∉ cs) :
    pieces cs = [cs] := by
  have hpieces := pieces_intercalate (List.cons_ne_nil cs []) (List.forall_mem_singleton.mpr ⟨hne, htrimmed, hcomma⟩)
  rwa [List.intercalate_singleton] at hpieces

/-! ### Words -/

/-- A run of digits, after a plus perhaps, whose value is the given one. -/
inductive WritesWord (n : UInt64) : List Char → Prop
  | plain {ds : List Char} (h : Json.IsRun ds) (hvalue : Nat.ofDigitChars 10 ds 0 = n.toNat) : WritesWord n ds
  | plus {ds : List Char} (h : Json.IsRun ds) (hvalue : Nat.ofDigitChars 10 ds 0 = n.toNat) :
    WritesWord n ('+' :: ds)

theorem dropPlus_append {ds : List Char} (h : Json.IsRun ds) (rest : List Char) :
    HashtagCount.dropPlus (ds ++ rest) = ds ++ rest := by
  obtain ⟨d, ds, rfl⟩ := List.exists_cons_of_ne_nil h.1
  have hd : d ≠ '+' := by
    rintro rfl
    exact absurd (h.2 '+' (by simp)) (by decide)
  simp [HashtagCount.dropPlus, hd]

theorem dropPlus_of_isRun {ds : List Char} (h : Json.IsRun ds) : HashtagCount.dropPlus ds = ds := by
  simpa using dropPlus_append h []

theorem dropPlus_cases (cs : List Char) :
    cs = '+' :: HashtagCount.dropPlus cs ∨ cs = HashtagCount.dropPlus cs := by
  rw [HashtagCount.dropPlus.eq_def]
  split
  · exact .inl rfl
  · exact .inr rfl

theorem writesWord_iff {n : UInt64} {cs : List Char} : WritesWord n cs ↔
    Json.IsRun (HashtagCount.dropPlus cs) ∧ Nat.ofDigitChars 10 (HashtagCount.dropPlus cs) 0 = n.toNat := by
  constructor
  · intro h
    cases h with
    | plain hrun hvalue => exact ⟨by rwa [dropPlus_of_isRun hrun], by rwa [dropPlus_of_isRun hrun]⟩
    | plus hrun hvalue => exact ⟨hrun, hvalue⟩
  · rintro ⟨hrun, hvalue⟩
    rcases dropPlus_cases cs with hcs | hcs <;> rw [hcs]
    · exact .plus hrun hvalue
    · exact .plain hrun hvalue

theorem wordOf?_eq_some_iff {n : UInt64} {cs : List Char} : wordOf? cs = some n ↔ WritesWord n cs := by
  rw [writesWord_iff, wordOf?, Decimal.wordOfDigits?_eq_some_iff]

theorem wordOf?_eq_none_iff {cs : List Char} : wordOf? cs = none ↔ ∀ n, ¬WritesWord n cs := by
  simp only [Option.eq_none_iff_forall_ne_some, ne_eq, wordOf?_eq_some_iff]

/-! ### One piece alone -/

section

variable {cs : List Char} (hne : cs ≠ []) (htrimmed : Text.IsTrimmed cs) (hcomma : ',' ∉ cs)

include hne htrimmed hcomma

theorem inlineArgument_of_isTrimmed : inlineArgument cs = pieceArgument cs := by
  rw [inlineArgument, pieces_of_isTrimmed hne htrimmed hcomma]

theorem inlineArgument_of_word {n : UInt64} (h : WritesWord n cs) : inlineArgument cs = .number (.ofWord n) := by
  rw [inlineArgument_of_isTrimmed hne htrimmed hcomma, pieceArgument, wordOf?_eq_some_iff.mpr h]

theorem inlineArgument_of_no_word (h : ∀ n, ¬WritesWord n cs) : inlineArgument cs = .string (String.ofList cs) := by
  rw [inlineArgument_of_isTrimmed hne htrimmed hcomma, pieceArgument, wordOf?_eq_none_iff.mpr h]

end

end FeedSieve.Declaration
