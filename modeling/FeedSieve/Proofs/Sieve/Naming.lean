import FeedSieve.Proofs.Rule.Spelling
import FeedSieve.Sieve.Draft

/-! The published names. Here they stand as they are published, each with the name under which its rule is kept: its
own, or for an alias the one that it stands for. A name is declared with success just if it is a spelling of one of
them, and how it is spelled makes no difference to what the declaration does. -/

namespace FeedSieve

/-- The names of rules. -/
def canonicalNames : List String :=
  ["withoutRTs", "withoutReplies", "withoutLimitNotices", "withoutDeleteNotices", "withoutMedia", "withoutMediaPhotos",
    "withMediaPhotos", "withoutMediaVideos", "withMediaVideos", "onlyFromIphone", "excludeIphone", "onlyFromAndroid",
    "excludeAndroid", "onlyFromWindowsPhone", "excludeWindowsPhone", "onlyFromBlackBerry", "excludeBlackBerry",
    "onlyFromSource", "excludeFromSource", "withGeo", "withoutGeo", "withLanguage", "withoutLanguage", "withHashtags",
    "withoutHashtags", "onlyVerified", "onlyRTsFromVerified"]

/-- The other names, each with the one that it stands for. -/
def otherNames : List (String × String) :=
  [("withoutPhotos", "withoutMediaPhotos"), ("withPhotos", "withMediaPhotos"),
    ("withoutVideos", "withoutMediaVideos"), ("withVideos", "withMediaVideos"), ("onlyIphone", "onlyFromIphone"),
    ("onlyAndroid", "onlyFromAndroid"), ("onlyWindowsPhone", "onlyFromWindowsPhone"),
    ("onlyBlackBerry", "onlyFromBlackBerry")]

/-- All published names, each with the name under which its rule is kept. -/
def publishedNames : List (String × String) := canonicalNames.map (fun n => (n, n)) ++ otherNames

theorem map_fst_publishedNames : publishedNames.map (·.1) = declarationNames := rfl

theorem publishedNames_eq : publishedNames = catalogue.map fun p => (p.1, p.2.name) := rfl

theorem mem_declarationNames_iff {m : String} : m ∈ declarationNames ↔ ∃ c, (m, c) ∈ publishedNames := by
  rw [← map_fst_publishedNames]
  simp

theorem mem_canonicalNames {m : String × String} (h : m ∈ publishedNames) : m.2 ∈ canonicalNames := by
  obtain hcanonical | hother := List.mem_append.mp h
  · obtain ⟨n, hn, rfl⟩ := List.mem_map.mp hcanonical
    exact hn
  · have hothers : ∀ m ∈ otherNames, m.2 ∈ canonicalNames := by decide
    exact hothers m hother

theorem foldName_of_mem_declarationNames {m : String} (h : m ∈ declarationNames) :
    foldName m = m.toList.map Char.toLower := by
  rw [← map_fst_catalogue] at h
  obtain ⟨row, hrow, rfl⟩ := List.mem_map.mp h
  exact foldName_of_mem_catalogue hrow

theorem ofName?_eq_none_iff_declarationNames {name : String} :
    Form.ofName? name = none ↔ ∀ m ∈ declarationNames, foldName m ≠ foldName name := by
  rw [Form.ofName?_eq_none_iff, ← map_fst_catalogue, List.forall_mem_map]

theorem exists_ofName?_of_mem_publishedNames {m : String × String} (hm : m ∈ publishedNames) {name : String}
    (h : foldName m.1 = foldName name) : ∃ form, Form.ofName? name = some form ∧ form.name = m.2 := by
  rw [publishedNames_eq] at hm
  obtain ⟨row, hrow, rfl⟩ := List.mem_map.mp hm
  exact ⟨row.2, Form.ofName?_eq hrow h.symm, rfl⟩

namespace Sieve

/-- A declaration puts its rule behind the others, or it fails and nothing changes. -/
theorem takeSteps_declare (s : Sieve) (d : Declaration) : s.takeSteps [.declare d] = match d.rule with
    | .ok r => (s.push r, .ok (), [s.size + 1])
    | .error e => (s, .error e, []) := by
  rw [takeSteps, Step.rule?]
  cases d.rule with
  | error e => rfl
  | ok r => simp [takeSteps, size]

theorem takeSteps_declare_published (s : Sieve) {m : String × String} (hm : m ∈ publishedNames) {n : String}
    (h : foldName m.1 = foldName n) :
    ∃ r, r.name = m.2 ∧ s.takeSteps [.declare ⟨n, .null⟩] = (s.push r, .ok (), [s.size + 1]) := by
  obtain ⟨form, hform, hname⟩ := exists_ofName?_of_mem_publishedNames hm h
  obtain ⟨r, hr, hrname⟩ := Declaration.exists_rule_null hform
  exact ⟨r, hrname.trans hname, by rw [takeSteps_declare, hr]⟩

theorem takeSteps_declare_unpublished (s : Sieve) {n : String} (h : ∀ m ∈ declarationNames, foldName m ≠ foldName n)
    (argument : Json) : s.takeSteps [.declare ⟨n, argument⟩] = (s, .error (.unknownDeclaration n), []) := by
  have hrule : Declaration.rule ⟨n, argument⟩ = .error (.unknownDeclaration n) := by
    rw [Declaration.rule, ofName?_eq_none_iff_declarationNames.mpr h]
  rw [takeSteps_declare, hrule]

theorem takeSteps_declare_of_sameName (s : Sieve) {n m : String} (h : SameName n m) (argument : Json) :
    s.takeSteps [.declare ⟨m, argument⟩] = ((s.takeSteps [.declare ⟨n, argument⟩]).1,
      (s.takeSteps [.declare ⟨n, argument⟩]).2.1.mapError (.naming m), (s.takeSteps [.declare ⟨n, argument⟩]).2.2) := by
  rw [takeSteps_declare, takeSteps_declare, Declaration.rule_of_sameName h]
  cases Declaration.rule ⟨n, argument⟩ <;> rfl

/-- A name is declared with success just if it is a spelling of a published one. In a draft it then puts exactly one
rule behind the others, under the name that the published one stands for; otherwise it fails with the name as it was
written, and the sieve stays as it is. Names that differ only in the case of letters and in hyphens and underscores
do the same with every argument, errors included, except for the name that is repeated in an error. -/
theorem declares_published_names (s : Sieve) (n : String) :
    ((s.takeSteps [.declare ⟨n, .null⟩]).2.1 = .ok () ↔ ∃ m ∈ declarationNames, foldName m = foldName n) ∧
    (∀ m ∈ declarationNames, foldName m = foldName n → ∃ c ∈ canonicalNames, (m, c) ∈ publishedNames ∧
      ∃ r, r.name = c ∧ s.takeSteps [.declare ⟨n, .null⟩] = (s.push r, .ok (), [s.size + 1])) ∧
    ((∀ m ∈ declarationNames, foldName m ≠ foldName n) →
      s.takeSteps [.declare ⟨n, .null⟩] = (s, .error (.unknownDeclaration n), [])) ∧
    ∀ (n' : String) (argument : Json), SameName n n' →
      s.takeSteps [.declare ⟨n', argument⟩] = ((s.takeSteps [.declare ⟨n, argument⟩]).1,
        (s.takeSteps [.declare ⟨n, argument⟩]).2.1.mapError (.naming n'),
        (s.takeSteps [.declare ⟨n, argument⟩]).2.2) := by
  have hpublished : ∀ m ∈ declarationNames, foldName m = foldName n → ∃ c ∈ canonicalNames, (m, c) ∈ publishedNames ∧
      ∃ r, r.name = c ∧ s.takeSteps [.declare ⟨n, .null⟩] = (s.push r, .ok (), [s.size + 1]) := by
    intro m hm h
    obtain ⟨c, hc⟩ := mem_declarationNames_iff.mp hm
    exact ⟨c, mem_canonicalNames hc, hc, s.takeSteps_declare_published hc h⟩
  have hunpublished := fun h => s.takeSteps_declare_unpublished (n := n) h .null
  refine ⟨⟨fun hok => ?_, ?_⟩, hpublished, hunpublished, fun n' argument h =>
    s.takeSteps_declare_of_sameName h argument⟩
  · by_contra hnone
    rw [hunpublished fun m hm h => hnone ⟨m, hm, h⟩] at hok
    exact absurd hok (by simp)
  · rintro ⟨m, hm, h⟩
    obtain ⟨c, -, -, r, -, hr⟩ := hpublished m hm h
    rw [hr]

/-- An alias with underscores and the sign of a kelvin in it, which is lower-cased to a letter; a spelling of a name
that is not published; and two spellings of a name that takes an argument. -/
theorem declares_published_names_alias :
    (∃ r, r.name = "onlyFromBlackBerry" ∧
      empty.takeSteps [.declare ⟨"ONLY_blac\u212Aberry-", .null⟩] = (empty.push r, .ok (), [1])) ∧
    empty.takeSteps [.declare ⟨"with-Cats", .null⟩] = (empty, .error (.unknownDeclaration "with-Cats"), []) ∧
    SameName "withLanguage" "with_LANGUAGE" ∧
    empty.takeSteps [.declare ⟨"with_LANGUAGE", .bool true⟩] =
      (empty, .error (.invalidArgument "withLanguage" (.notKeywords (.bool true))), []) := by
  have hother : "onlyBlackBerry" ∈ declarationNames := by decide
  have hcats : ∀ m ∈ declarationNames, foldName m ≠ foldName "with-Cats" := by
    have hfold : foldName "with-Cats" = "withcats".toList := by decide +kernel
    have hnone : ∀ m ∈ declarationNames, m.toList.map Char.toLower ≠ "withcats".toList := by decide +kernel
    intro m hm
    rw [foldName_of_mem_declarationNames hm, hfold]
    exact hnone m hm
  have hrefused : Declaration.rule ⟨"withLanguage", .bool true⟩ =
      .error (.invalidArgument "withLanguage" (.notKeywords (.bool true))) :=
    Declaration.rule_of_refused (.argument (.language true) rfl (.bool true))
  have hsame : SameName "withLanguage" "with_LANGUAGE" := by
    simp only [SameName, Text.SameLetters]
    decide +kernel
  obtain ⟨-, hspelled, -⟩ := declares_published_names empty "ONLY_blac\u212Aberry-"
  obtain ⟨-, -, hunknown, -⟩ := declares_published_names empty "with-Cats"
  obtain ⟨-, -, -, hrespelt⟩ := declares_published_names empty "withLanguage"
  obtain ⟨c, -, hc, hrule⟩ := hspelled _ hother (by decide +kernel)
  obtain rfl : c = "onlyFromBlackBerry" := by
    have hstands : ∀ m ∈ publishedNames, m.1 = "onlyBlackBerry" → m.2 = "onlyFromBlackBerry" := by decide +kernel
    exact hstands _ hc rfl
  refine ⟨hrule, hunknown hcats, hsame, ?_⟩
  rw [hrespelt _ (.bool true) hsame, takeSteps_declare, hrefused]
  rfl

end Sieve

end FeedSieve
