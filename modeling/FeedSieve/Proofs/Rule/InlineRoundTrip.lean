import FeedSieve.Proofs.Rule.Inline

/-! Reading undoes writing, for inline declarations. Blanks around a name and around pieces, pieces that are blank, and
the spelling of a word are lost in reading, so the declarations that come out of it are of a form of their own. They are
exactly those that can be written inline: each of them is what its own written form reads as. -/

namespace FeedSieve

namespace Declaration

/-! ### Arguments -/

/-- An argument of an inline declaration. -/
inductive IsInlineArgument : Json → Prop
  | null : IsInlineArgument .null
  | word (n : UInt64) : IsInlineArgument (.number (.ofWord n))
  | text {w : String} (h : IsPiece w.toList) (hword : ∀ n, ¬WritesWord n w.toList) : IsInlineArgument (.string w)
  | texts {ws : List String} (hlength : 2 ≤ ws.length) (h : ∀ w ∈ ws, IsPiece w.toList) :
    IsInlineArgument (.array (ws.map .string))

/-- Whatever follows the equals sign reads as such an argument. -/
theorem isInlineArgument_inlineArgument (cs : List Char) : IsInlineArgument (inlineArgument cs) := by
  have hpieces : ∀ p ∈ pieces cs, IsPiece p := fun p => isPiece_of_mem_pieces
  rw [inlineArgument]
  split
  · exact .null
  · next p hp =>
    rw [pieceArgument]
    split
    · next n _ => exact .word n
    · next hword =>
      refine .text ?_ ?_ <;> rw [String.toList_ofList]
      · exact hpieces p (by simp [hp])
      · exact wordOf?_eq_none_iff.mp hword
  · next ps hnil hone =>
    -- lists of no piece and of one have cases of their own
    have hlength : 2 ≤ (pieces cs).length := by
      cases h : pieces cs with
      | nil => exact absurd h hnil
      | cons p ps => cases ps with
        | nil => exact absurd h (hone p)
        | cons q ps => exact Nat.le_add_left 2 ps.length
    have htexts : IsInlineArgument (.array (((pieces cs).map String.ofList).map .string)) := by
      refine .texts (by rwa [List.length_map]) (List.forall_mem_map.mpr fun p hp => ?_)
      rw [String.toList_ofList]
      exact hpieces p hp
    rwa [List.map_map] at htexts

/-! ### Written forms -/

def stringText : Json → List Char
  | .string w => w.toList
  | _ => []

/-- The text that an argument is written with: the digits of a number, a string as it stands, and the strings of a list
between commas. -/
def argumentText : Json → List Char
  | .number n => n.render
  | .array items => [','].intercalate (items.map stringText)
  | j => stringText j

/-- The inline form of a declaration; no argument is written for null. -/
def inlineText (d : Declaration) : String :=
  match d.argument with
  | .null => d.name
  | j => d.name ++ "=" ++ String.ofList (argumentText j)

theorem isPiece_of_isRun {ds : List Char} (h : Json.IsRun ds) : IsPiece ds := by
  refine ⟨h.1, ⟨fun c hc => ?_, fun c hc => ?_⟩, fun hcomma => absurd (h.2 ',' hcomma) (by decide)⟩
  · exact Unicode.isBlank_of_isDigit (h.2 c (List.mem_of_mem_head? hc))
  · exact Unicode.isBlank_of_isDigit (h.2 c (List.mem_of_mem_getLast? hc))

theorem inlineArgument_digits (n : UInt64) : inlineArgument (Nat.toDigits 10 n.toNat) = .number (.ofWord n) := by
  have hrun := Json.isRun_toDigits n.toNat
  have hpiece := isPiece_of_isRun hrun
  exact inlineArgument_of_word hpiece.ne_nil hpiece.trimmed hpiece.comma (.plain hrun Nat.ofDigitChars_ten_toDigits)

theorem inlineArgument_joined {ws : List String} (hlength : 2 ≤ ws.length) (h : ∀ w ∈ ws, IsPiece w.toList) :
    inlineArgument ([','].intercalate (ws.map String.toList)) = .array (ws.map .string) := by
  match ws with
  | v :: w :: ws =>
    have hpieces : pieces ([','].intercalate ((v :: w :: ws).map String.toList)) = (v :: w :: ws).map String.toList :=
      pieces_intercalate (List.cons_ne_nil _ _) (List.forall_mem_map.mpr h)
    rw [inlineArgument, hpieces]
    simp [Function.comp_def]

/-- The text of an argument reads as the argument. -/
theorem inlineArgument_argumentText {j : Json} (h : IsInlineArgument j) : inlineArgument (argumentText j) = j := by
  cases h with
  | null => rfl
  | word n =>
    have hrender : (Json.Number.ofWord n).render = Nat.toDigits 10 n.toNat := by
      rw [Json.Number.ofWord, Json.Number.render, Json.Number.renderInt, if_neg (Int.not_lt.mpr (Int.natCast_nonneg _)),
        Int.natAbs_natCast]
    rw [argumentText, hrender, inlineArgument_digits]
  | @text w hpiece hword =>
    show inlineArgument w.toList = .string w
    rw [inlineArgument_of_no_word hpiece.ne_nil hpiece.trimmed hpiece.comma hword, String.ofList_toList]
  | texts hlength hpieces =>
    rw [argumentText, List.map_map]
    exact inlineArgument_joined hlength hpieces

/-! ### Declarations -/

/-- A declaration that is written inline: its name is trimmed and has no equals sign, and its argument is one of an
inline declaration. -/
structure IsInline (d : Declaration) : Prop where
  name_ne : d.name ≠ ""
  name_trimmed : Text.IsTrimmed d.name.toList
  name_equals : '=' ∉ d.name.toList
  argument : IsInlineArgument d.argument

/-- Whatever is read inline is of that form. -/
theorem isInline_of_ofInline {text : String} {d : Declaration} (h : ofInline text = .ok d) : d.IsInline := by
  rw [ofInline] at h
  split at h
  · cases h
  · next hname =>
    obtain rfl := Except.ok.inj h
    refine ⟨by simpa using hname, ?_, ?_, isInlineArgument_inlineArgument _⟩ <;> rw [String.toList_ofList]
    · exact Text.isTrimmed_trim _
    · intro hequals
      simpa using List.all_eq_true.mp List.all_takeWhile '=' (Text.mem_of_mem_trim hequals)

/-- The inline form of a declaration of that form reads as the declaration. -/
theorem ofInline_inlineText {d : Declaration} (h : d.IsInline) : ofInline d.inlineText = .ok d := by
  obtain ⟨name, argument⟩ := d
  obtain ⟨hne, htrimmed, hequals, hargument⟩ := h
  by_cases hnull : argument = .null
  · subst hnull
    exact ofInline_name hne htrimmed hequals
  · -- every other argument stands behind an equals sign
    have htext : inlineText ⟨name, argument⟩ = name ++ "=" ++ String.ofList (argumentText argument) := by
      cases argument with
      | null => exact absurd rfl hnull
      | _ => rfl
    rw [htext, ofInline_of_name hne htrimmed hequals, String.toList_ofList, inlineArgument_argumentText hargument]

/-- Reading inline and writing inline. The declarations that texts read as are exactly those of the inline form, and
each of them is read back from the text that it is written with. A text reads as no declaration exactly if what stands
before its first equals sign is blank, and is then refused for having no name. -/
theorem ofInline_image :
    (∀ d : Declaration, (∃ text, ofInline text = .ok d) ↔ d.IsInline) ∧
    (∀ d : Declaration, d.IsInline → ofInline d.inlineText = .ok d) ∧
    ∀ text, ((∃ e, ofInline text = .error e) ↔ Nameless text) ∧
      ∀ e, ofInline text = .error e → e = .invalidArgument text .noName := by
  refine ⟨fun d => ⟨fun ⟨_, h⟩ => isInline_of_ofInline h, fun h => ⟨d.inlineText, ofInline_inlineText h⟩⟩,
    fun d => ofInline_inlineText, fun text => ?_⟩
  by_cases hname : Nameless text
  · have hrefused := ofInline_of_nameless hname
    exact ⟨⟨fun _ => hname, fun _ => ⟨_, hrefused⟩⟩, fun e h => Except.error.inj (h.symm.trans hrefused)⟩
  · obtain ⟨d, hd⟩ := exists_ofInline_of_not_nameless hname
    have hnone : ∀ e, ofInline text ≠ .error e := by
      intro e h
      cases hd.symm.trans h
    exact ⟨⟨fun ⟨e, h⟩ => absurd h (hnone e), fun h => absurd h hname⟩, fun e h => absurd h (hnone e)⟩

/-- Two keywords, one with an equals sign in it and one that would be a number by itself. -/
theorem ofInline_image_keywords :
    IsInline ⟨"withLanguage", .array [.string "a = b", .string "+7"]⟩ ∧
    ofInline "withLanguage=a = b,+7" = .ok ⟨"withLanguage", .array [.string "a = b", .string "+7"]⟩ := by
  have hinline : IsInline ⟨"withLanguage", .array (["a = b", "+7"].map .string)⟩ :=
    ⟨by decide, by decide, by decide, .texts (by decide) (by decide)⟩
  have htext : inlineText ⟨"withLanguage", .array [.string "a = b", .string "+7"]⟩ = "withLanguage=a = b,+7" := by
    decide
  exact ⟨hinline, htext ▸ ofInline_image.2.1 _ hinline⟩

end Declaration

end FeedSieve
