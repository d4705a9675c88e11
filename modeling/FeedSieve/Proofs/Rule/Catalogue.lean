import FeedSieve.Proofs.Unicode.Ascii
import FeedSieve.Rule.Catalogue

/-! The published names as a table with the forms that they stand for. The words that are recognized are the
published names in lower case, each for the form of its name; so a name stands for a form just if it is a spelling
of a name published for that form. -/

namespace FeedSieve

/-! ### The table -/

/-- The forms under their own names, in the order in which they are published. -/
def canonicalForms : List Form :=
  [.flag .withoutRetweets, .flag .withoutReplies, .flag .withoutLimitNotices,
    .flag .withoutDeleteNotices, .flag .withoutMedia, .flag (.media false .photos),
    .flag (.media true .photos), .flag (.media false .videos), .flag (.media true .videos),
    .flag (.device true .iphone), .flag (.device false .iphone), .flag (.device true .android),
    .flag (.device false .android), .flag (.device true .windowsPhone),
    .flag (.device false .windowsPhone), .flag (.device true .blackBerry),
    .flag (.device false .blackBerry), .keywords (.source true), .keywords (.source false),
    .flag .withGeo, .flag .withoutGeo, .keywords (.language true), .keywords (.language false),
    .hashtags, .flag .withoutHashtags, .flag .onlyVerified, .flag .onlyRetweetsFromVerified]

namespace Alias

def name : Alias → String
  | .withoutPhotos => "withoutPhotos"
  | .withPhotos => "withPhotos"
  | .withoutVideos => "withoutVideos"
  | .withVideos => "withVideos"
  | .onlyDevice .iphone => "onlyIphone"
  | .onlyDevice .android => "onlyAndroid"
  | .onlyDevice .windowsPhone => "onlyWindowsPhone"
  | .onlyDevice .blackBerry => "onlyBlackBerry"

/-- All other names, in the order in which they are published. -/
def all : List Alias :=
  [.withoutPhotos, .withPhotos, .withoutVideos, .withVideos, .onlyDevice .iphone, .onlyDevice .android,
    .onlyDevice .windowsPhone, .onlyDevice .blackBerry]

end Alias

def catalogue : List (String × Form) :=
  canonicalForms.map (fun f => (f.name, f)) ++ Alias.all.map fun a => (a.name, .flag a.flag)

theorem map_fst_catalogue : catalogue.map (·.1) = declarationNames := rfl

theorem mem_canonicalForms (form : Form) : form ∈ canonicalForms := by
  rcases form with f | f | _
  · rcases f with _ | _ | _ | _ | _ | ⟨_ | _, _ | _⟩ | ⟨_ | _, _ | _ | _ | _⟩ | _ | _ | _ | _ | _ <;> decide
  · rcases f with (_ | _) | (_ | _) <;> decide
  · decide

theorem mem_catalogue (form : Form) : (form.name, form) ∈ catalogue :=
  List.mem_append_left _ (List.mem_map.mpr ⟨form, mem_canonicalForms form, rfl⟩)

theorem Alias.mem_catalogue (a : Alias) : (a.name, Form.flag a.flag) ∈ catalogue := by
  have ha : a ∈ Alias.all := by rcases a with _ | _ | _ | _ | (_ | _ | _ | _) <;> decide
  exact List.mem_append_right _ (List.mem_map.mpr ⟨a, ha, rfl⟩)

theorem isAscii_catalogue : ∀ p ∈ catalogue, ∀ c ∈ p.1.toList, c.toNat < 0x80 ∧ c ≠ '_' ∧ c ≠ '-' := by
  have h : catalogue.all fun p => p.1.toList.all fun c => c.toNat < 0x80 && c ≠ '_' && c ≠ '-' := by decide +kernel
  simpa [and_assoc] using h

theorem foldName_of_mem_catalogue {p : String × Form} (h : p ∈ catalogue) :
    foldName p.1 = p.1.toList.map Char.toLower := by
  have hascii := isAscii_catalogue p h
  have hkept : p.1.toList.filter (fun c => c ≠ '_' && c ≠ '-') = p.1.toList := by
    rw [List.filter_eq_self]
    intro c hc
    simp [(hascii c hc).2]
  rw [foldName, hkept, List.map_eq_flatMap, List.flatMap_def, List.flatMap_def,
    List.map_congr_left fun c hc => Unicode.lowerChar_of_lt (hascii c hc).1]

namespace Form

variable {word name : String} {form : Form}

/-! ### The words -/

theorem ofFolded?_of_mem_catalogue {p : String × Form} (h : p ∈ catalogue) :
    ofFolded? (String.ofList (p.1.toList.map Char.toLower)) = some p.2 := by
  have hrows : ∀ p ∈ catalogue, ofFolded? (String.ofList (p.1.toList.map Char.toLower)) = some p.2 := by
    decide +kernel
  exact hrows p h

/-- A word is the name of its form in lower case, or another name for it. -/
theorem toList_of_ofFolded? (h : ofFolded? word = some form) :
    word.toList = form.name.toList.map Char.toLower ∨
      ∃ a ∈ Alias.all, Form.flag a.flag = form ∧ word.toList = a.name.toList.map Char.toLower := by
  unfold ofFolded? at h
  -- one goal for each word; there is none for other texts
  split at h <;> cases h
  all_goals first
    | left; decide +kernel
    | right; decide +kernel

theorem exists_mem_catalogue_of_ofFolded? (h : ofFolded? word = some form) :
    ∃ p ∈ catalogue, foldName p.1 = word.toList ∧ p.2 = form := by
  obtain hname | ⟨a, -, hform, hname⟩ := toList_of_ofFolded? h
  · exact ⟨_, mem_catalogue form, by rw [foldName_of_mem_catalogue (mem_catalogue form), hname], rfl⟩
  · exact ⟨_, a.mem_catalogue, by rw [foldName_of_mem_catalogue a.mem_catalogue, hname], hform⟩

/-! ### Spellings of published names -/

/-- The form of a name is published, under that name in some spelling. -/
theorem exists_mem_catalogue (h : ofName? name = some form) :
    ∃ p ∈ catalogue, foldName p.1 = foldName name ∧ p.2 = form := by
  obtain ⟨p, hp, hfold, hform⟩ := exists_mem_catalogue_of_ofFolded? h
  exact ⟨p, hp, by rw [hfold, String.toList_ofList], hform⟩

theorem ofName?_eq {p : String × Form} (hp : p ∈ catalogue) (h : foldName name = foldName p.1) :
    ofName? name = some p.2 := by
  rw [ofName?, h, foldName_of_mem_catalogue hp, ofFolded?_of_mem_catalogue hp]

theorem exists_ofName?_iff :
    (∃ form, ofName? name = some form) ↔ ∃ p ∈ catalogue, foldName p.1 = foldName name := by
  constructor
  · rintro ⟨form, h⟩
    obtain ⟨p, hp, hfold, -⟩ := exists_mem_catalogue h
    exact ⟨p, hp, hfold⟩
  · rintro ⟨p, hp, hfold⟩
    exact ⟨p.2, ofName?_eq hp hfold.symm⟩

theorem ofName?_eq_none_iff : ofName? name = none ↔ ∀ p ∈ catalogue, foldName p.1 ≠ foldName name := by
  rw [Option.eq_none_iff_forall_ne_some, ← not_exists, exists_ofName?_iff]
  simp

end Form

end FeedSieve
