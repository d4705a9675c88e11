import FeedSieve.Command.Report
import FeedSieve.Proofs.Rule.Accepted
import FeedSieve.Proofs.Rule.Inline
import FeedSieve.Proofs.Rule.Spelling
import FeedSieve.Proofs.Sieve.Compiled
import FeedSieve.Proofs.Text.Bytes
import Mathlib.Logic.ExistsUnique

/-! How the rules of a command line are loaded. First the config file is read, then the inline declarations, and only
then all declarations are compiled in their order. An error is that of the first phase that fails, wherever in the
list of rules it may lie; and whichever phase it is, a command that was to use the rules writes nothing. -/

namespace FeedSieve.Command

open Declaration (Nameless)

/-! ### The phases -/

/-- The declarations that a config file holds; there are none if no file is asked for. -/
inductive FileHolds (w : Surroundings) : Option String → List Declaration → Prop
  | nothing : FileHolds w none []
  | config {path text : String} {c : Config} (hfile : w.file? path = some text.toUTF8)
    (hconfig : Config.parse text = .ok c) : FileHolds w (some path) c.declarations

/-- Why a config file cannot be loaded: it is not there, it is no text, or its text is no config. -/
inductive FileFault (w : Surroundings) (path : String) : RuleError → Prop
  | missing (h : w.file? path = none) : FileFault w path (.unreadable .missing)
  | notText {bytes : ByteArray} (h : w.file? path = some bytes) (hbytes : ∀ text : String, text.toUTF8 ≠ bytes) :
    FileFault w path (.unreadable .notText)
  | notConfig {text : String} {cause : Json.ReadError} (h : w.file? path = some text.toUTF8)
    (hconfig : Config.parse text = .error (.notConfig cause)) : FileFault w path (.notConfig cause)

abbrev InlineHolds (texts : List String) (ds : List Declaration) : Prop :=
  List.Forall₂ (fun text d => Declaration.ofInline text = .ok d) texts ds

/-- A rule that a declaration has under a published name: it is kept under the name of the form published there. -/
def Registers (d : Declaration) (r : Rule) : Prop :=
  ∃ p ∈ catalogue, foldName p.1 = foldName d.name ∧ p.2.rule d.argument = .ok r ∧ r.name = p.2.name

/-- What loading rules comes to: the error of the first phase that fails, or all rules, those of the file first. -/
inductive Loads (w : Surroundings) (o : RuleOptions) : Except Failure Sieve → Prop
  | file {path : String} {e : RuleError} (hpath : o.config = some path) (h : FileFault w path e) :
    Loads w o (.error (.config path e))
  | nameless {ds : List Declaration} {before after : List String} {text : String} (hfile : FileHolds w o.config ds)
    (hinline : o.inline = before ++ text :: after) (hbefore : ∀ b ∈ before, ¬Nameless b) (h : Nameless text) :
    Loads w o (.error (.inline text (.invalidArgument text .noName)))
  | refused {ds es before after : List Declaration} {d : Declaration} {e : RuleError}
    (hfile : FileHolds w o.config ds) (hinline : InlineHolds o.inline es) (hds : ds ++ es = before ++ d :: after)
    (hbefore : ∀ b ∈ before, b.Acceptable) (h : d.Refused e) : Loads w o (.error (.compile e))
  | compiled {ds es : List Declaration} {rules : List Rule} (hfile : FileHolds w o.config ds)
    (hinline : InlineHolds o.inline es) (hrules : List.Forall₂ Registers (ds ++ es) rules) :
    Loads w o (.ok ⟨rules, true⟩)

/-! ### The config file -/

section

variable {w : Surroundings} {path : String}

theorem textOf_toUTF8 (text : String) : Config.textOf (some text.toUTF8) = .ok text := by
  have htext : String.fromUTF8? text.toUTF8 = some text := Text.fromUTF8?_eq_some_iff.mpr rfl
  rw [Config.textOf, htext]

theorem textOf_of_notText {bytes : ByteArray} (h : ∀ text : String, text.toUTF8 ≠ bytes) :
    Config.textOf (some bytes) = .error (.unreadable .notText) := by
  have hnone : String.fromUTF8? bytes = none := by
    refine Text.fromUTF8?_eq_none_iff.mpr fun text htext => h text ?_
    exact ByteArray.ext (Array.toList_inj.mp htext)
  rw [Config.textOf, hnone]

theorem ofFile_of_fault {e : RuleError} (h : FileFault w path e) : Config.ofFile (w.file? path) = .error e := by
  cases h with
  | missing h => rw [h]; rfl
  | notText h hbytes => rw [h, Config.ofFile, textOf_of_notText hbytes, error_bind]
  | notConfig h hconfig => rw [h, Config.ofFile, textOf_toUTF8, ok_bind, hconfig]

theorem fault_or_holds (w : Surroundings) (path : String) :
    (∃ e, FileFault w path e) ∨ ∃ ds, FileHolds w (some path) ds := by
  cases hfile : w.file? path with
  | none => exact .inl ⟨_, .missing hfile⟩
  | some bytes =>
    by_cases htext : ∃ text : String, text.toUTF8 = bytes
    · obtain ⟨text, rfl⟩ := htext
      cases hconfig : Config.parse text with
      | error e =>
        obtain ⟨cause, -, rfl⟩ := mapError_eq_error.mp hconfig
        exact .inl ⟨_, .notConfig hfile hconfig⟩
      | ok c => exact .inr ⟨_, .config hfile hconfig⟩
    · exact .inl ⟨_, .notText hfile fun text h => htext ⟨text, h⟩⟩

end

/-! ### Inline declarations -/

theorem inlineDeclarations_eq (texts : List String) : inlineDeclarations texts =
    texts.mapM fun text => (Declaration.ofInline text).mapError (.inline text) := by
  induction texts with
  | nil => rfl
  | cons text texts ih => rw [inlineDeclarations, List.mapM_cons, ih]

theorem inlineDeclarations_of_holds {texts : List String} {ds : List Declaration} (h : InlineHolds texts ds) :
    inlineDeclarations texts = .ok ds := by
  rw [inlineDeclarations_eq, mapM_eq_ok_iff_forall₂]
  exact h.imp fun _ _ hd => mapError_eq_ok.mpr hd

theorem inlineDeclarations_of_nameless {before after : List String} {text : String}
    (hbefore : ∀ b ∈ before, ¬Nameless b) (h : Nameless text) : inlineDeclarations (before ++ text :: after) =
      .error (.inline text (.invalidArgument text .noName)) := by
  rw [inlineDeclarations_eq, mapM_eq_error_iff]
  refine ⟨before, text, after, rfl, fun b hb => ?_, by rw [Declaration.ofInline_of_nameless h, mapError_error]⟩
  obtain ⟨d, hd⟩ := Declaration.exists_ofInline_of_not_nameless (hbefore b hb)
  exact ⟨d, mapError_eq_ok.mpr hd⟩

theorem nameless_or_holds (texts : List String) :
    (∃ before text after, texts = before ++ text :: after ∧ (∀ b ∈ before, ¬Nameless b) ∧ Nameless text) ∨
      ∃ ds, InlineHolds texts ds := by
  induction texts with
  | nil => exact .inr ⟨[], .nil⟩
  | cons text texts ih =>
    rw [exists_first_cons_iff]
    by_cases htext : Nameless text
    · exact .inl (.inl htext)
    · obtain hfirst | ⟨ds, hds⟩ := ih
      · exact .inl (.inr ⟨htext, hfirst⟩)
      · obtain ⟨d, hd⟩ := Declaration.exists_ofInline_of_not_nameless htext
        exact .inr ⟨d :: ds, .cons hd hds⟩

/-! ### Compiling -/

theorem registers_iff {d : Declaration} {r : Rule} : Registers d r ↔ d.rule = .ok r := by
  constructor
  · rintro ⟨p, hp, hfold, hrule, -⟩
    rwa [Declaration.rule_of_mem_catalogue hp hfold.symm]
  · intro h
    obtain ⟨form, hform, hrule⟩ := form_of_rule h
    obtain ⟨p, hp, hfold, rfl⟩ := Form.exists_mem_catalogue hform
    exact ⟨p, hp, hfold, hrule, Form.name_of_rule hrule⟩

theorem compile_of_registers {ds : List Declaration} {rules : List Rule} (h : List.Forall₂ Registers ds rules) :
    Config.compile ⟨ds⟩ = .ok ⟨rules, true⟩ :=
  Config.compile_eq_ok.mpr ⟨mapM_eq_ok_iff_forall₂.mpr (h.imp fun _ _ => registers_iff.mp), rfl⟩

theorem compile_of_refused {before after : List Declaration} {d : Declaration} {e : RuleError}
    (hbefore : ∀ b ∈ before, b.Acceptable) (h : d.Refused e) :
    Config.compile ⟨before ++ d :: after⟩ = .error e := by
  have hrules : (before ++ d :: after).mapM Declaration.rule = .error e :=
    mapM_eq_error_iff.mpr ⟨before, d, after, rfl, fun b hb => Declaration.exists_rule_of_acceptable (hbefore b hb),
      Declaration.rule_of_refused h⟩
  rw [Config.compile_eq, hrules, map_error]

theorem refused_or_registers (ds : List Declaration) :
    (∃ before d after e, ds = before ++ d :: after ∧ (∀ b ∈ before, b.Acceptable) ∧ d.Refused e) ∨
      ∃ rules, List.Forall₂ Registers ds rules := by
  cases hrules : ds.mapM Declaration.rule with
  | ok rules => exact .inr ⟨rules, (mapM_eq_ok_iff_forall₂.mp hrules).imp fun _ _ => registers_iff.mpr⟩
  | error e =>
    obtain ⟨before, d, after, hds, hbefore, hd⟩ := mapM_eq_error_iff.mp hrules
    exact .inl ⟨before, d, after, e, hds, fun b hb => Declaration.exists_rule_iff.mp (hbefore b hb),
      Declaration.rule_eq_error_iff.mp hd⟩

/-! ### All phases -/

section

variable {w : Surroundings} {o : RuleOptions}

theorem loadConfig_of_holds {ds : List Declaration} (h : FileHolds w o.config ds) :
    loadConfig w o = (inlineDeclarations o.inline).map fun es => ⟨ds ++ es⟩ := by
  rw [loadConfig]
  generalize o.config = path at h ⊢
  cases h with
  | nothing => cases inlineDeclarations o.inline <;> rfl
  | config hfile hconfig =>
    simp only [hfile, Config.ofFile, textOf_toUTF8, ok_bind, hconfig, mapError_ok]
    cases inlineDeclarations o.inline <;> rfl

theorem loadSieve_of_loads {r : Except Failure Sieve} (h : Loads w o r) : loadSieve w o = r := by
  cases h with
  | file hpath h =>
    simp only [loadSieve, loadConfig, hpath, ofFile_of_fault h, mapError_error, error_bind]
  | nameless hfile hinline hbefore h =>
    rw [loadSieve, loadConfig_of_holds hfile, hinline, inlineDeclarations_of_nameless hbefore h, map_error, error_bind]
  | refused hfile hinline hds hbefore h =>
    rw [loadSieve, loadConfig_of_holds hfile, inlineDeclarations_of_holds hinline, map_ok, ok_bind, hds,
      compile_of_refused hbefore h, mapError_error]
  | compiled hfile hinline hrules =>
    rw [loadSieve, loadConfig_of_holds hfile, inlineDeclarations_of_holds hinline, map_ok, ok_bind,
      compile_of_registers hrules, mapError_ok]

/-- Some phase fails first, or all go through. -/
theorem exists_loads (w : Surroundings) (o : RuleOptions) : ∃ r, Loads w o r := by
  have hfile : (∃ path e, o.config = some path ∧ FileFault w path e) ∨ ∃ ds, FileHolds w o.config ds := by
    cases hpath : o.config with
    | none => exact .inr ⟨[], .nothing⟩
    | some path =>
      obtain ⟨e, he⟩ | hds := fault_or_holds w path
      · exact .inl ⟨path, e, rfl, he⟩
      · exact .inr hds
  obtain ⟨path, e, hpath, he⟩ | ⟨ds, hds⟩ := hfile
  · exact ⟨_, .file hpath he⟩
  obtain ⟨before, text, after, hinline, hbefore, htext⟩ | ⟨es, hes⟩ := nameless_or_holds o.inline
  · exact ⟨_, .nameless hds hinline hbefore htext⟩
  obtain ⟨before, d, after, e, hall, hbefore, hd⟩ | ⟨rules, hrules⟩ := refused_or_registers (ds ++ es)
  · exact ⟨_, .refused hds hes hall hbefore hd⟩
  · exact ⟨_, .compiled hds hes hrules⟩

theorem existsUnique_loads (w : Surroundings) (o : RuleOptions) : ∃! r, Loads w o r := by
  obtain ⟨r, hr⟩ := exists_loads w o
  exact ⟨r, hr, fun r' hr' => (loadSieve_of_loads hr').symm.trans (loadSieve_of_loads hr)⟩

end

/-! ### Commands -/

/-- The names of rules as a command shows them: numbered from one under a heading, each on a line of its own. -/
def shown (names : List String) : String :=
  if names = [] then "No filters declared: every record passes\n"
  else "Filters (all must pass):\n" ++ String.join ((names.zipIdx 1).map fun p => p.2.repr ++ ". " ++ p.1 ++ "\n")

theorem ruleListing_eq (s : Sieve) : ruleListing s = shown s.names := by
  have hempty : s.isEmpty = true ↔ s.names = [] := by simp [Sieve.isEmpty, Sieve.names]
  have hlines : ((s.names.zipIdx.map fun p => (p.2 + 1).repr ++ ". " ++ p.1).map (· ++ "\n")) =
      (s.names.zipIdx 1).map fun p => p.2.repr ++ ". " ++ p.1 ++ "\n" := by
    rw [List.zipIdx_succ, List.map_map, List.map_map]
    rfl
  rw [ruleListing, shown]
  simp only [hempty]
  split
  · rfl
  · rw [listing, List.map_cons, String.join_cons, hlines]
    rfl

/-- Loading the rules of a command line comes to one thing, and both commands that use rules report it. If it is an
error, they end with it and write nothing, whatever stands in the input. Otherwise both tell how many rules there are,
the one command shows their names, numbered in their order, and the other sieves; if the other fails still, it writes
nothing either. -/
theorem execute_loads (w : Surroundings) (o : RuleOptions) : (∃! r, Loads w o r) ∧
    (∀ f, Loads w o (.error f) →
      (∀ input explain bytes, execute { w with standardInput := bytes } (.run o input explain) =
        { output := "", notices := [], tally := none, failure := some f }) ∧
      execute w (.check o) = { output := "", notices := [], tally := none, failure := some f }) ∧
    ∀ s, Loads w o (.ok s) →
      (∀ input explain, (execute w (.run o input explain)).notices.head? =
          some ("Compiled " ++ s.names.length.repr ++ " filter predicates") ∧
        ∀ f, (execute w (.run o input explain)).failure = some f → (execute w (.run o input explain)).output = "") ∧
      execute w (.check o) =
        { output := shown s.names
          notices := ["Compiled " ++ s.names.length.repr ++ " filter predicates"]
          tally := none
          failure := none } := by
  have hsize : ∀ s : Sieve, compiledNotice s = "Compiled " ++ s.names.length.repr ++ " filter predicates" := by
    intro s
    rw [compiledNotice, Sieve.size, Sieve.names, List.length_map]
  refine ⟨existsUnique_loads w o, fun f h => ?_, fun s h => ?_⟩
  · have hload := loadSieve_of_loads h
    refine ⟨fun input explain bytes => ?_, by rw [execute, hload]⟩
    have hload' : loadSieve { w with standardInput := bytes } o = .error f := hload
    rw [execute, hload']
  · have hload := loadSieve_of_loads h
    refine ⟨fun input explain => ?_, by simp only [execute, hload, ruleListing_eq, hsize]⟩
    rw [execute, hload]
    cases hinput : loadInput w input with
    | error f => simp [runWith, hinput, hsize]
    | ok bytes => simp [runWith, hinput, hsize]

/-- A list of one declaration, under a name that is not published. -/
def unpublishedRules : Json := .array [.object [("name", .string "withCats")]]

/-- Surroundings with one file, which holds that list. -/
def unpublished : Surroundings :=
  ⟨fun path => if path = "rules.json" then some unpublishedRules.text.toUTF8 else none, .empty⟩

theorem execute_loads_unpublished :
    execute unpublished (.check ⟨some "rules.json", ["withGeo", " =en", "=x"]⟩) =
      { failure := some (.inline " =en" (.invalidArgument " =en" .noName)) } ∧
    execute unpublished (.check ⟨some "rules.json", ["withGeo"]⟩) =
      { failure := some (.compile (.unknownDeclaration "withCats")) } ∧
    execute unpublished (.check ⟨none, ["with_photos", "onlyFromSource=web"]⟩) =
      { output := "Filters (all must pass):
1. withMediaPhotos
2. onlyFromSource
"
        notices := ["Compiled 2 filter predicates"] } := by
  have hfloat : unpublishedRules.IsFloatFree := by
    simp [unpublishedRules, Json.AllNumbers, Json.AllNumbersItems, Json.AllNumbersMembers]
  have hlists : Config.Lists unpublishedRules ⟨[⟨"withCats", .null⟩]⟩ :=
    .list (.cons (.keyed ⟨by simp, by decide⟩ (List.count_eq_zero.mpr (by decide))) .nil)
  have hfile : FileHolds unpublished (some "rules.json") [⟨"withCats", .null⟩] :=
    .config rfl ((Config.parse_text_eq_ok_iff hfloat (by decide +kernel)).mpr (.inr hlists))
  have hnameless : Loads unpublished ⟨some "rules.json", ["withGeo", " =en", "=x"]⟩
      (.error (.inline " =en" (.invalidArgument " =en" .noName))) := by
    have hinline : ["withGeo", " =en", "=x"] = ["withGeo"] ++ " =en" :: ["=x"] := rfl
    have hgeo : ¬Nameless "withGeo" := by rw [Declaration.nameless_iff]; decide
    have hblank : Nameless " =en" := by rw [Declaration.nameless_iff]; decide
    exact .nameless hfile hinline (List.forall_mem_singleton.mpr hgeo) hblank
  have hrefused : Loads unpublished ⟨some "rules.json", ["withGeo"]⟩
      (.error (.compile (.unknownDeclaration "withCats"))) := by
    have hds : [⟨"withCats", .null⟩] ++ [⟨"withGeo", .null⟩] =
      [] ++ Declaration.mk "withCats" .null :: [⟨"withGeo", .null⟩] := rfl
    have hcats : foldName "withCats" = "withcats".toList := by decide +kernel
    have hnames : ∀ p ∈ catalogue, p.1.toList.map Char.toLower ≠ "withcats".toList := by decide +kernel
    refine .refused hfile (.cons rfl .nil) hds (List.forall_mem_nil _) (.unknown fun p hp => ?_)
    rw [foldName_of_mem_catalogue hp, hcats]
    exact hnames p hp
  have hcompiled : Loads unpublished ⟨none, ["with_photos", "onlyFromSource=web"]⟩
      (.ok ⟨[Flag.rule (.media true .photos), (KeywordForm.source true).rule (.ofString "web")], true⟩) := by
    have hphotos : Registers ⟨"with_photos", .null⟩ (Flag.rule (.media true .photos)) :=
      ⟨("withPhotos", _), Alias.mem_catalogue .withPhotos, by decide +kernel, rfl, rfl⟩
    have hsource : Registers ⟨"onlyFromSource", .string "web"⟩ ((KeywordForm.source true).rule (.ofString "web")) :=
      ⟨("onlyFromSource", _), mem_catalogue (.keywords (.source true)), rfl, rfl, rfl⟩
    exact .compiled .nothing (.cons rfl (.cons rfl .nil)) (.cons hphotos (.cons hsource .nil))
  exact ⟨((execute_loads unpublished _).2.1 _ hnameless).2, ((execute_loads unpublished _).2.1 _ hrefused).2,
    ((execute_loads unpublished _).2.2 _ hcompiled).2⟩

end FeedSieve.Command
