import FeedSieve.Proofs.Sieve.Compiled
import FeedSieve.Proofs.Sieve.Judging
import FeedSieve.Proofs.Sieve.Naming

/-! Opposite conditions. Most conditions on media, devices, sources and languages are published with an opposite, under
a name of its own. Whatever argument the two are given, it is taken by both or refused by both for the same fault, and
where it is taken each record is kept under exactly one of them. A place is different: a record that does not
mention one is kept neither with a place nor without. -/

namespace FeedSieve

/-- The names of conditions and of their opposites that take no argument. -/
def oppositeFlags : List (String × String) :=
  [("withMediaPhotos", "withoutMediaPhotos"), ("withMediaVideos", "withoutMediaVideos"),
    ("onlyFromIphone", "excludeIphone"), ("onlyFromAndroid", "excludeAndroid"),
    ("onlyFromWindowsPhone", "excludeWindowsPhone"), ("onlyFromBlackBerry", "excludeBlackBerry")]

/-- The names of conditions and of their opposites that take keywords. -/
def oppositeKeywords : List (String × String) :=
  [("onlyFromSource", "excludeFromSource"), ("withLanguage", "withoutLanguage")]

/-- The declaration is under the name, or under another name that stands for it, in some spelling. -/
def Declaration.StandsFor (d : Declaration) (name : String) : Prop :=
  ∃ m ∈ publishedNames, foldName m.1 = foldName d.name ∧ m.2 = name

/-! ### Rules of opposite declarations -/

theorem exists_flags {p : String × String} (hp : p ∈ oppositeFlags) :
    ∃ f g : Flag, p = (f.name, g.name) ∧ g.condition = .not f.condition := by
  simp only [oppositeFlags, List.mem_cons, List.not_mem_nil, or_false] at hp
  rcases hp with rfl | rfl | rfl | rfl | rfl | rfl
  · exact ⟨.media true .photos, .media false .photos, rfl, rfl⟩
  · exact ⟨.media true .videos, .media false .videos, rfl, rfl⟩
  · exact ⟨.device true .iphone, .device false .iphone, rfl, rfl⟩
  · exact ⟨.device true .android, .device false .android, rfl, rfl⟩
  · exact ⟨.device true .windowsPhone, .device false .windowsPhone, rfl, rfl⟩
  · exact ⟨.device true .blackBerry, .device false .blackBerry, rfl, rfl⟩

theorem exists_keywordForms {p : String × String} (hp : p ∈ oppositeKeywords) :
    ∃ f g : KeywordForm, p = (f.name, g.name) ∧ ∀ k, g.condition k = .not (f.condition k) := by
  simp only [oppositeKeywords, List.mem_cons, List.not_mem_nil, or_false] at hp
  rcases hp with rfl | rfl
  · exact ⟨.source true, .source false, rfl, fun _ => rfl⟩
  · exact ⟨.language true, .language false, rfl, fun _ => rfl⟩

/-- Different forms have different names. -/
theorem Form.name_injective : Function.Injective Form.name := by
  intro f g h
  -- under one name only one form is published
  have hf : ofName? f.name = some f := ofName?_eq (FeedSieve.mem_catalogue f) rfl
  have hg : ofName? g.name = some g := ofName?_eq (FeedSieve.mem_catalogue g) rfl
  rw [h, hg] at hf
  exact (Option.some.inj hf).symm

theorem Declaration.StandsFor.rule_eq {d : Declaration} {f : Form} (h : d.StandsFor f.name) :
    d.rule = f.rule d.argument := by
  obtain ⟨m, hm, hname, hform⟩ := h
  rw [publishedNames_eq] at hm
  obtain ⟨row, hrow, rfl⟩ := List.mem_map.mp hm
  obtain rfl := Form.name_injective hform
  exact Declaration.rule_of_mem_catalogue hrow hname.symm

/-! ### Sieves of one rule -/

theorem Config.compile_singleton (d : Declaration) :
    Config.compile ⟨[d]⟩ = d.rule.map fun r => (⟨[r], true⟩ : Sieve) := by
  rw [compile_eq, List.mapM_cons, List.mapM_nil]
  cases d.rule <;> rfl

namespace Sieve

theorem keeps_singleton (r : Rule) (b : Bool) (t : Tweet) : keeps ⟨[r], b⟩ t = r.condition.holds t := by
  rw [keeps, verdict, kept_judge, List.all_cons, List.all_nil, Bool.and_true]

/-- The two sieves split the records in two: each record is kept by exactly one of them, and so the records of any list
are shared out between them. -/
structure Splits (s u : Sieve) : Prop where
  keeps_eq_not : ∀ t, u.keeps t = !s.keeps t
  perm : ∀ ts, (s.retain ts ++ u.retain ts).Perm ts
  disjoint : ∀ ts, (s.retain ts).Disjoint (u.retain ts)

variable {s u : Sieve}

theorem splits_of_keeps (h : ∀ t, u.keeps t = !s.keeps t) : s.Splits u where
  keeps_eq_not := h
  perm ts := by
    have hopposite : u.keeps = fun t => !s.keeps t := funext h
    rw [retain, retain, hopposite]
    exact List.filter_append_perm s.keeps ts
  disjoint ts := by
    intro t hs hu
    have hkept := (List.mem_filter.mp hs).2
    have hkept' := (List.mem_filter.mp hu).2
    rw [h, hkept] at hkept'
    exact absurd hkept' (by decide)

theorem splits_of_not {r q : Rule} (h : q.condition = .not r.condition) : Splits ⟨[r], true⟩ ⟨[q], true⟩ := by
  apply splits_of_keeps
  intro t
  rw [keeps_singleton, keeps_singleton, h, Condition.holds]

end Sieve

/-! ### Opposite declarations -/

namespace Declaration

variable {d e : Declaration} {p : String × String} (hd : d.StandsFor p.1) (he : e.StandsFor p.2)

include hd he

theorem exists_splits_of_flags (hp : p ∈ oppositeFlags) :
    ∃ s u : Sieve, Config.compile ⟨[d]⟩ = .ok s ∧ Config.compile ⟨[e]⟩ = .ok u ∧ s.Splits u := by
  obtain ⟨f, g, rfl, hnot⟩ := exists_flags hp
  have hf : d.rule = .ok f.rule := StandsFor.rule_eq (f := .flag f) hd
  have hg : e.rule = .ok g.rule := StandsFor.rule_eq (f := .flag g) he
  refine ⟨⟨[f.rule], true⟩, ⟨[g.rule], true⟩, ?_, ?_, Sieve.splits_of_not hnot⟩
  · rw [Config.compile_singleton, hf, map_ok]
  · rw [Config.compile_singleton, hg, map_ok]

theorem splits_or_refused (hp : p ∈ oppositeKeywords) (hargument : e.argument = d.argument) :
    (GivesKeywords d.argument ∧
      ∃ s u : Sieve, Config.compile ⟨[d]⟩ = .ok s ∧ Config.compile ⟨[e]⟩ = .ok u ∧ s.Splits u) ∨
    ∃ fault, KeywordFault d.argument fault ∧ Config.compile ⟨[d]⟩ = .error (.invalidArgument p.1 fault) ∧
      Config.compile ⟨[e]⟩ = .error (.invalidArgument p.2 fault) := by
  obtain ⟨f, g, rfl, hnot⟩ := exists_keywordForms hp
  have hf : d.rule = (Form.keywords f).rule d.argument := StandsFor.rule_eq hd
  have hg : e.rule = (Form.keywords g).rule d.argument := hargument ▸ StandsFor.rule_eq (f := .keywords g) he
  rw [Config.compile_singleton, Config.compile_singleton, hf, hg, Form.rule, Form.rule]
  obtain hgives | ⟨fault, hfault⟩ := Keywords.gives_or_fault d.argument
  · obtain ⟨k, hk⟩ := Keywords.exists_ofArgument_iff.mpr hgives
    rw [hk]
    exact .inl ⟨hgives, _, _, rfl, rfl, Sieve.splits_of_not (hnot k)⟩
  · rw [Keywords.ofArgument_of_fault hfault]
    exact .inr ⟨fault, hfault, rfl, rfl⟩

end Declaration

theorem Declaration.exists_sieves_of_geo {d e : Declaration} (hd : d.StandsFor "withGeo")
    (he : e.StandsFor "withoutGeo") :
    ∃ s u : Sieve, Config.compile ⟨[d]⟩ = .ok s ∧ Config.compile ⟨[e]⟩ = .ok u ∧
      ∀ t, ¬(s.keeps t = true ∧ u.keeps t = true) ∧ (s.keeps t = false ∧ u.keeps t = false ↔ t.geo = .absent) := by
  have hf : d.rule = .ok (Flag.rule .withGeo) := StandsFor.rule_eq (f := .flag .withGeo) hd
  have hg : e.rule = .ok (Flag.rule .withoutGeo) := StandsFor.rule_eq (f := .flag .withoutGeo) he
  refine ⟨⟨[Flag.rule .withGeo], true⟩, ⟨[Flag.rule .withoutGeo], true⟩, ?_, ?_, fun t => ?_⟩
  · rw [Config.compile_singleton, hf, map_ok]
  · rw [Config.compile_singleton, hg, map_ok]
  · -- absent fails both conditions, null meets only the second, a value only the first
    simp only [Sieve.keeps_singleton, Flag.rule, Flag.condition, Condition.holds]
    cases t.geo <;> simp [Presence.get?, Presence.isPresent]

/-- Two declarations under names of opposite conditions, or other names that stand for them, in any spelling, are both
accepted if they take no argument. If they take keywords and are given the same argument, both are accepted if
it gives keywords and otherwise both are refused for the same fault. Where they are accepted their sieves split
the records in two. The sieves of a place given and of none given have no record in common, and the records that neither
keeps are those that do not have the key. -/
theorem Declaration.opposites_split (d e : Declaration) :
    (∀ p ∈ oppositeFlags, d.StandsFor p.1 → e.StandsFor p.2 →
      ∃ s u : Sieve, Config.compile ⟨[d]⟩ = .ok s ∧ Config.compile ⟨[e]⟩ = .ok u ∧ s.Splits u) ∧
    (∀ p ∈ oppositeKeywords, d.StandsFor p.1 → e.StandsFor p.2 → e.argument = d.argument →
      (GivesKeywords d.argument ∧
        ∃ s u : Sieve, Config.compile ⟨[d]⟩ = .ok s ∧ Config.compile ⟨[e]⟩ = .ok u ∧ s.Splits u) ∨
      ∃ fault, KeywordFault d.argument fault ∧ Config.compile ⟨[d]⟩ = .error (.invalidArgument p.1 fault) ∧
        Config.compile ⟨[e]⟩ = .error (.invalidArgument p.2 fault)) ∧
    (d.StandsFor "withGeo" → e.StandsFor "withoutGeo" →
      ∃ s u : Sieve, Config.compile ⟨[d]⟩ = .ok s ∧ Config.compile ⟨[e]⟩ = .ok u ∧
        ∀ t, ¬(s.keeps t = true ∧ u.keeps t = true) ∧ (s.keeps t = false ∧ u.keeps t = false ↔ t.geo = .absent)) :=
  ⟨fun _ hp hd he => exists_splits_of_flags hd he hp, fun _ hp hd he => splits_or_refused hd he hp,
    exists_sieves_of_geo⟩

/-- A device under another name and with an argument that is not looked at, a blank word for a language, no word for a
source, and a place. -/
theorem Declaration.opposites_split_android :
    (∃ s u : Sieve, Config.compile ⟨[⟨"only_android", .bool true⟩]⟩ = .ok s ∧
      Config.compile ⟨[⟨"excludeAndroid", .null⟩]⟩ = .ok u ∧ s.Splits u) ∧
    (∃ s u : Sieve, Config.compile ⟨[⟨"withLanguage", .string " "⟩]⟩ = .ok s ∧
      Config.compile ⟨[⟨"WITHOUT-language", .string " "⟩]⟩ = .ok u ∧ s.Splits u) ∧
    (Config.compile ⟨[⟨"onlyFromSource", .bool true⟩]⟩ =
        .error (.invalidArgument "onlyFromSource" (.notKeywords (.bool true))) ∧
      Config.compile ⟨[⟨"excludeFromSource", .bool true⟩]⟩ =
        .error (.invalidArgument "excludeFromSource" (.notKeywords (.bool true)))) ∧
    ∃ s u : Sieve, Config.compile ⟨[⟨"withGeo", .null⟩]⟩ = .ok s ∧ Config.compile ⟨[⟨"withoutGeo", .null⟩]⟩ = .ok u ∧
      s.keeps {} = false ∧ u.keeps {} = false := by
  have hspelled : ∀ name, (name, name) ∈ publishedNames → ∀ argument, (mk name argument).StandsFor name :=
    fun name hmem argument => ⟨(name, name), hmem, rfl, rfl⟩
  have hother : (mk "only_android" (.bool true)).StandsFor "onlyFromAndroid" :=
    ⟨("onlyAndroid", "onlyFromAndroid"), by decide, by decide +kernel, rfl⟩
  have hcapitals : (mk "WITHOUT-language" (.string " ")).StandsFor "withoutLanguage" :=
    ⟨("withoutLanguage", "withoutLanguage"), by decide, by decide +kernel, rfl⟩
  refine ⟨?_, ?_, ?_, ?_⟩
  · exact (opposites_split _ _).1 ("onlyFromAndroid", "excludeAndroid") (by decide) hother (hspelled _ (by decide) _)
  · obtain ⟨-, hsplit⟩ | ⟨fault, hfault, -⟩ := (opposites_split _ _).2.1 ("withLanguage", "withoutLanguage")
      (by decide) (hspelled _ (by decide) (.string " ")) hcapitals rfl
    · exact hsplit
    · cases hfault
  · obtain ⟨hgives, -⟩ | ⟨fault, hfault, hrefused⟩ := (opposites_split _ _).2.1 ("onlyFromSource", "excludeFromSource")
      (by decide) (hspelled _ (by decide) (.bool true)) (hspelled _ (by decide) (.bool true)) rfl
    · cases hgives
    · cases hfault
      exact hrefused
  · obtain ⟨s, u, hs, hu, hgeo⟩ :=
      (opposites_split _ _).2.2 (hspelled _ (by decide) .null) (hspelled _ (by decide) .null)
    exact ⟨s, u, hs, hu, (hgeo {}).2.mpr rfl⟩

end FeedSieve
