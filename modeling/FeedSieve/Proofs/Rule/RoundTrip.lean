import FeedSieve.Proofs.Json.Normal
import FeedSieve.Proofs.Rule.Accepted

/-! Reading undoes writing, for configs. A declaration is written by keys, without its argument if that is null, and
so it spells itself if its argument is in normal form. The list of the written declarations reads back as the config,
bare or in a record. -/

namespace FeedSieve

open Json (depth_array_le depth_object_le allNumbers_array allNumbers_object)

namespace Declaration

variable {d : Declaration}

theorem toJson_of_null (h : d.argument = .null) : d.toJson = .object [("name", .string d.name)] := by
  rw [toJson, h]

theorem toJson_of_ne_null (h : d.argument ≠ .null) :
    d.toJson = .object [("name", .string d.name), ("args", d.argument)] := by
  obtain ⟨name, argument⟩ := d
  cases argument with
  | null => exact absurd rfl h
  | _ => rfl

/-- Only the name and the argument are written. -/
theorem exists_toJson_eq (d : Declaration) :
    ∃ members, d.toJson = .object members ∧ ∀ m ∈ members, m.2 = .string d.name ∨ m.2 = d.argument := by
  by_cases h : d.argument = .null
  · exact ⟨_, toJson_of_null h, by simp⟩
  · exact ⟨_, toJson_of_ne_null h, by simp⟩

theorem isFloatFree_toJson (h : d.argument.IsFloatFree) : d.toJson.IsFloatFree := by
  obtain ⟨members, hjson, hmembers⟩ := d.exists_toJson_eq
  rw [hjson, Json.IsFloatFree, allNumbers_object]
  intro m hm
  obtain hm | hm := hmembers m hm <;> rw [hm]
  · trivial
  · exact h

theorem depth_toJson_le {n : Nat} (h : d.argument.depth ≤ n) : d.toJson.depth ≤ n + 1 := by
  obtain ⟨members, hjson, hmembers⟩ := d.exists_toJson_eq
  rw [hjson, depth_object_le]
  intro m hm
  obtain hm | hm := hmembers m hm <;> rw [hm]
  · exact Nat.zero_le n
  · exact h

/-- A declaration with an argument in normal form is the one that its written form spells. -/
theorem spells_toJson (h : d.argument.IsNormal) : Config.Spells d.toJson d := by
  obtain ⟨name, argument⟩ := d
  by_cases hnull : argument = .null
  · subst hnull
    rw [toJson_of_null rfl]
    exact .keyed ⟨by simp, by simp⟩ (by simp [Config.NotGiven])
  · have hspells : Config.Spells (.object [("name", .string name), ("args", argument)]) ⟨name, argument.normal⟩ :=
      .keyedArgument ⟨by simp, by simp⟩ ⟨by simp, by simp⟩
    rw [Json.normal_of_isNormal h] at hspells
    rwa [toJson_of_ne_null hnull]

end Declaration

namespace Config

variable {c : Config}

def listed (c : Config) : Json := .array (c.declarations.map Declaration.toJson)

theorem toJson_eq (c : Config) : c.toJson = .object [("filters", c.listed)] := rfl

theorem lists_listed (h : ∀ d ∈ c.declarations, d.argument.IsNormal) : Lists c.listed c := by
  refine .list (List.forall₂_map_left_iff.mpr (List.forall₂_same.mpr ?_))
  exact fun d hd => Declaration.spells_toJson (h d hd)

theorem wraps_toJson (h : ∀ d ∈ c.declarations, d.argument.IsNormal) : Wraps c.toJson c :=
  .keyed ⟨List.mem_singleton.mpr rfl, by simp⟩ (lists_listed h)

theorem isFloatFree_listed (h : ∀ d ∈ c.declarations, d.argument.IsFloatFree) : c.listed.IsFloatFree := by
  rw [listed, Json.IsFloatFree, allNumbers_array, List.forall_mem_map]
  exact fun d hd => Declaration.isFloatFree_toJson (h d hd)

theorem depth_listed_le {n : Nat} (h : ∀ d ∈ c.declarations, d.argument.depth ≤ n) : c.listed.depth ≤ n + 2 := by
  rw [listed, depth_array_le, List.forall_mem_map]
  exact fun d hd => Declaration.depth_toJson_le (h d hd)

/-- Reading undoes writing, for configs whose arguments have no doubles, are in normal form and are nested at most
124 deep. The record that is written reads back as the config, and so does the bare list of the same declarations.
Each of them is written without an argument if it is null, and with its argument otherwise. -/
theorem parse_written (hf : ∀ d ∈ c.declarations, d.argument.IsFloatFree)
    (hnormal : ∀ d ∈ c.declarations, d.argument.IsNormal) (hdepth : ∀ d ∈ c.declarations, d.argument.depth ≤ 124) :
    parse c.toJson.text = .ok c ∧
    parse (Json.array (c.declarations.map Declaration.toJson)).text = .ok c ∧
    ∀ d ∈ c.declarations, (d.argument = .null → d.toJson = .object [("name", .string d.name)]) ∧
      (d.argument ≠ .null → d.toJson = .object [("name", .string d.name), ("args", d.argument)]) := by
  have hlistFree := isFloatFree_listed hf
  have hlistDepth : c.listed.depth ≤ 126 := depth_listed_le hdepth
  refine ⟨?_, ?_, fun d _ => ⟨Declaration.toJson_of_null, Declaration.toJson_of_ne_null⟩⟩
  · have hrecordFree : c.toJson.IsFloatFree := by
      rw [toJson_eq, Json.IsFloatFree, allNumbers_object, List.forall_mem_singleton]
      exact hlistFree
    have hrecordDepth : c.toJson.depth ≤ 127 := by
      rw [toJson_eq, depth_object_le, List.forall_mem_singleton]
      exact hlistDepth
    exact (parse_text_eq_ok_iff hrecordFree hrecordDepth).mpr (.inl (wraps_toJson hnormal))
  · have hlistDepth : c.listed.depth ≤ 127 := hlistDepth.trans (by decide)
    exact (parse_text_eq_ok_iff hlistFree hlistDepth).mpr (.inr (lists_listed hnormal))

/-- A declaration without an argument, and one with an object for it. -/
def writtenConfig : Config :=
  ⟨[⟨"withGeo", .null⟩, ⟨"withLanguage", .object [("main", .string "en"), ("others", .array [.null, .object []])]⟩]⟩

theorem parse_written_object : parse writtenConfig.toJson.text = .ok writtenConfig ∧
    parse (Json.array (writtenConfig.declarations.map Declaration.toJson)).text = .ok writtenConfig := by
  have hf : ∀ d ∈ writtenConfig.declarations, d.argument.IsFloatFree := by
    simp [writtenConfig, Json.AllNumbers, Json.AllNumbersItems, Json.AllNumbersMembers]
  have hnormal : ∀ d ∈ writtenConfig.declarations, d.argument.IsNormal := by
    refine List.forall_mem_cons.mpr ⟨trivial, List.forall_mem_singleton.mpr ?_⟩
    exact Json.isNormal_object.mpr ⟨by decide, by simp [Json.IsNormal, Json.IsNormalItems, Json.IsNormalMembers]⟩
  have hdepth : ∀ d ∈ writtenConfig.declarations, d.argument.depth ≤ 124 := by decide +kernel
  obtain ⟨hrecord, hlist, -⟩ := parse_written hf hnormal hdepth
  exact ⟨hrecord, hlist⟩

end Config

end FeedSieve
