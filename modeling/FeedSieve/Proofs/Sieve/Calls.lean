import FeedSieve.Proofs.Rule.Arguments
import FeedSieve.Proofs.Sieve.Compiled

/-! Rules declared by calls and rules declared as data. Each call has its declaration: one under the same name,
with the argument of the call as a document. A chain of calls and a config that lists their declarations, one
for each call, come to the same sieve. -/

namespace FeedSieve

namespace Call

def name : Call → String
  | .flag f => f.name
  | .alias a => a.name
  | .keywords f _ => f.name
  | .anyLanguage kept => (KeywordForm.language kept).name
  | .hashtags _ => "withHashtags"

/-- The documents that stand for the argument of a call: null for none, a list of strings for keywords, as they
were given or as they are kept, and a number for a number. -/
inductive Gives : Call → Json → Prop
  | flag (f : Flag) : Gives (.flag f) .null
  | otherName (a : Alias) : Gives (.alias a) .null
  | words (f : KeywordForm) (ws : List String) : Gives (.keywords f ws) (.array (ws.map .string))
  | kept (f : KeywordForm) (ws : List String) :
    Gives (.keywords f ws) (.array ((Keywords.ofList ws).words.map .string))
  | noWords (f : KeywordForm) : Gives (.keywords f []) .null
  | anyLanguage (kept : Bool) : Gives (.anyLanguage kept) .null
  | number (n : UInt64) : Gives (.hashtags (some n)) (.number (.ofWord n))
  | noNumber : Gives (.hashtags none) .null

/-- A declaration that says what a call does: it has the name of the call, in some spelling, and its argument. -/
structure Declared (c : Call) (d : Declaration) : Prop where
  name : foldName d.name = foldName c.name
  argument : c.Gives d.argument

def form : Call → Form
  | .flag f => .flag f
  | .alias a => .flag a.flag
  | .keywords f _ => .keywords f
  | .anyLanguage kept => .keywords (.language kept)
  | .hashtags _ => .hashtags

theorem mem_catalogue : (c : Call) → (c.name, c.form) ∈ catalogue
  | .flag f => FeedSieve.mem_catalogue (.flag f)
  | .alias a => a.mem_catalogue
  | .keywords f _ => FeedSieve.mem_catalogue (.keywords f)
  | .anyLanguage kept => FeedSieve.mem_catalogue (.keywords (.language kept))
  | .hashtags _ => FeedSieve.mem_catalogue .hashtags

/-- With the argument of a call its form declares the rule of the call. -/
theorem rule_form {c : Call} {argument : Json} (h : c.Gives argument) : c.form.rule argument = .ok c.rule := by
  have hkeywords : ∀ (f : KeywordForm) (vs : List String),
      (Form.keywords f).rule (.array (vs.map .string)) = .ok (f.rule (.ofList vs)) := by
    intro f vs
    rw [Form.rule, Keywords.ofArgument_strings, map_ok, mapError_ok]
  cases h with
  | words f ws => exact hkeywords f ws
  | kept f ws =>
    have hkept := hkeywords f (Keywords.ofList ws).words
    rw [Keywords.ofList_words] at hkept
    exact hkept
  | number n =>
    show Except.ok (hashtagRule (.ofArgument (.number (.ofWord n)))) = _
    rw [HashtagCount.ofArgument_ofWord]
    rfl
  | _ => rfl

theorem rule_of_declared {c : Call} {d : Declaration} (h : c.Declared d) : d.rule = .ok c.rule := by
  rw [Declaration.rule_of_mem_catalogue c.mem_catalogue h.name]
  exact rule_form h.argument

/-! ### Chains of calls -/

theorem declaredRules_calls (calls : List Call) : declaredRules (calls.map .call) = calls.map rule := by
  rw [declaredRules, List.filterMap_map]
  exact congrFun List.filterMap_eq_map calls

theorem adopt_calls (calls : List Call) :
    Sieve.empty.adopt (calls.map .call) =
      (⟨calls.map rule, true⟩, ⟨.ok (), true, List.range' 1 calls.length⟩) := by
  have hpasses : ∀ step ∈ calls.map Step.call, step.Passes := by
    intro step hstep
    obtain ⟨c, -, rfl⟩ := List.mem_map.mp hstep
    exact ⟨some c.rule, rfl⟩
  rw [Sieve.adopt_of_passes rfl hpasses, declaredRules_calls, List.length_map]
  rfl

theorem mapM_rule {calls : List Call} {ds : List Declaration} (h : List.Forall₂ Declared calls ds) :
    ds.mapM Declaration.rule = .ok (calls.map rule) := by
  rw [mapM_eq_ok_iff_forall₂, List.forall₂_map_right_iff]
  exact (h.imp fun _ _ hd => rule_of_declared hd).flip

/-- A chain of calls and a config that lists a declaration for each of them are equivalent. Both succeed, and both
give the same sieve, sealed, with the rules of the calls in their order: the same names, the same conditions
with what they have captured, and so the same answers about every record. -/
theorem compile_eq_chain {calls : List Call} {ds : List Declaration} (h : List.Forall₂ Declared calls ds) :
    ∃ chained compiled : Sieve, Sieve.empty.adopt (calls.map .call) =
        (chained, ⟨.ok (), true, List.range' 1 calls.length⟩) ∧
      Config.compile ⟨ds⟩ = .ok compiled ∧ chained.isSealed = true ∧ compiled.isSealed = true ∧
      chained.rules = calls.map rule ∧ compiled.rules = calls.map rule ∧ compiled.names = chained.names ∧
      ∀ t, compiled.keeps t = chained.keeps t ∧ compiled.rejectedBy t = chained.rejectedBy t := by
  refine ⟨⟨calls.map rule, true⟩, ⟨calls.map rule, true⟩, adopt_calls calls, ?_, rfl, rfl, rfl, rfl, rfl, ?_⟩
  · exact Config.compile_eq_ok.mpr ⟨mapM_rule h, rfl⟩
  · exact fun t => ⟨rfl, rfl⟩

/-- Photos by another name, three words with a blank one among them, any language, and no number of hashtags. -/
def quietChain : List Call :=
  [.alias .withPhotos, .keywords (.source false) [" Web", "", "TweetDeck "], .anyLanguage false, .hashtags none,
    .hashtags (some 2)]

theorem compile_eq_chain_quiet : ∃ chained compiled : Sieve, Sieve.empty.adopt (quietChain.map .call) =
      (chained, ⟨.ok (), true, List.range' 1 5⟩) ∧
    Config.compile ⟨[⟨"with_photos", .null⟩,
      ⟨"excludeFromSource", .array [.string " Web", .string "", .string "TweetDeck "]⟩, ⟨"withoutLanguage", .null⟩,
      ⟨"withHashtags", .null⟩, ⟨"with-hashtags", .number (.ofWord 2)⟩]⟩ = .ok compiled ∧
    compiled.names = chained.names := by
  have hphotos : Declared (.alias .withPhotos) ⟨"with_photos", .null⟩ := ⟨by decide +kernel, .otherName _⟩
  have hsource : Declared (.keywords (.source false) [" Web", "", "TweetDeck "])
      ⟨"excludeFromSource", .array [.string " Web", .string "", .string "TweetDeck "]⟩ := ⟨rfl, .words _ _⟩
  have hlanguage : Declared (.anyLanguage false) ⟨"withoutLanguage", .null⟩ := ⟨rfl, .anyLanguage _⟩
  have hsome : Declared (.hashtags none) ⟨"withHashtags", .null⟩ := ⟨rfl, .noNumber⟩
  have htwo : Declared (.hashtags (some 2)) ⟨"with-hashtags", .number (.ofWord 2)⟩ := ⟨by decide +kernel, .number 2⟩
  obtain ⟨chained, compiled, hchained, hcompiled, -, -, -, -, hnames, -⟩ :=
    compile_eq_chain (.cons hphotos (.cons hsource (.cons hlanguage (.cons hsome (.cons htwo .nil)))))
  exact ⟨chained, compiled, hchained, hcompiled, hnames⟩

end Call

end FeedSieve
