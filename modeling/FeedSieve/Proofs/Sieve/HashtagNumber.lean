import FeedSieve.Proofs.Sieve.Applied

/-! Tweets by their number of hashtags. The condition that there are none and the conditions that there is a given number
of them share the tweets out among them, and the condition that there are some is the opposite of the first. Whatever
argument it is given, a demand for hashtags asks for one at least, so together with the condition that there are none
it leaves no tweet. -/

namespace FeedSieve

/-- How many hashtags there are; where they are not listed there are none. -/
def Tweet.hashtagNumber (t : Tweet) : Nat := (t.hashtags?.getD []).length

namespace Condition

/-- The conditions that ask for an exact number of hashtags. -/
inductive AsksFor : UInt64 → Condition → Prop
  | zero : AsksFor 0 .withoutHashtags
  | positive {n : UInt64} (h : n ≠ 0) : AsksFor n (.withHashtags (.of (some n)))

variable {t : Tweet}

theorem holds_withoutHashtags : withoutHashtags.holds t = decide (t.hashtagNumber = 0) := by
  rw [holds, Tweet.hashtagNumber, Bool.eq_iff_iff]
  cases t.hashtags? <;> simp

/-- A demand of at least one hashtag is met or not by their number alone. -/
theorem holds_withHashtags {count : HashtagCount} (h : count.exactly ≠ some 0) :
    (withHashtags count).holds t = count.metBy t.hashtagNumber := by
  rw [holds, Tweet.hashtagNumber]
  cases t.hashtags? with
  | none => exact (HashtagCount.metBy_zero h).symm
  | some hs => rfl

theorem holds_some : (withHashtags (.of none)).holds t = !withoutHashtags.holds t := by
  rw [holds_withHashtags (HashtagCount.exactly_of_ne_zero none), holds_withoutHashtags, Bool.eq_iff_iff]
  simp [HashtagCount.metBy, HashtagCount.of]

theorem exists_asksFor (n : UInt64) : ∃ c, AsksFor n c := by
  by_cases h : n = 0
  · subst h
    exact ⟨_, .zero⟩
  · exact ⟨_, .positive h⟩

theorem AsksFor.unique {n : UInt64} {c c' : Condition} (h : AsksFor n c) (h' : AsksFor n c') : c = c' := by
  cases h with
  | zero => cases h' with
    | zero => rfl
    | positive hzero => exact absurd rfl hzero
  | positive hzero => cases h' with
    | zero => exact absurd rfl hzero
    | positive => rfl

/-- A condition that asks for a number holds of the tweets that have this number of hashtags. -/
theorem AsksFor.holds_iff {n : UInt64} {c : Condition} (h : AsksFor n c) (ht : t.hashtagNumber < UInt64.size) :
    c.holds t = true ↔ UInt64.ofNat t.hashtagNumber = n := by
  cases h with
  | zero =>
    rw [holds_withoutHashtags, decide_eq_true_iff, ← UInt64.toNat_inj, UInt64.toNat_ofNat_of_lt' ht]
    rfl
  | positive hn =>
    have hexactly : (HashtagCount.of (some n)).exactly = some n := by simp [HashtagCount.of, hn]
    rw [holds_withHashtags (HashtagCount.exactly_of_ne_zero _), HashtagCount.metBy, hexactly]
    exact beq_iff_eq

theorem existsUnique_asksFor (ht : t.hashtagNumber < UInt64.size) :
    ∃! c : Condition, (∃ n, AsksFor n c) ∧ c.holds t = true := by
  obtain ⟨c, hc⟩ := exists_asksFor (UInt64.ofNat t.hashtagNumber)
  refine ⟨c, ⟨⟨_, hc⟩, (hc.holds_iff ht).mpr rfl⟩, ?_⟩
  rintro c' ⟨⟨n, hc'⟩, hholds⟩
  obtain rfl := (hc'.holds_iff ht).mp hholds
  exact hc'.unique hc

/-- Without hashtags no argument makes a demand that is met. -/
theorem not_holds_of_withoutHashtags (ht : withoutHashtags.holds t = true) (argument : Json) :
    (withHashtags (.ofArgument argument)).holds t = false := by
  rw [holds_withoutHashtags, decide_eq_true_iff] at ht
  have hzero : (HashtagCount.ofArgument argument).exactly ≠ some 0 := HashtagCount.exactly_of_ne_zero _
  rw [holds_withHashtags hzero, ht, HashtagCount.metBy_zero hzero]

end Condition

namespace Sieve

variable {s : Sieve} {d e : Declaration} (hd : foldName d.name = foldName "withHashtags")
  (he : foldName e.name = foldName "withoutHashtags")

include hd he

theorem adoptConfig_pair (hs : s.isSealed = false) : (s.adoptConfig ⟨[d, e]⟩).2 = .ok () := by
  have hdrule := Declaration.rule_of_mem_catalogue (mem_catalogue .hashtags) hd
  have herule := Declaration.rule_of_mem_catalogue (mem_catalogue (.flag .withoutHashtags)) he
  rw [adoptConfig_eq hs, List.mapM_cons, List.mapM_cons, List.mapM_nil, hdrule, herule]
  rfl

/-- With both rules adopted no tweet is left. -/
theorem keeps_adoptConfig_of_mem (hs : s.isSealed = false) {c : Config} (hdmem : d ∈ c.declarations)
    (hemem : e ∈ c.declarations) (hok : (s.adoptConfig c).2 = .ok ()) (t : Tweet) :
    (s.adoptConfig c).1.keeps t = false := by
  have hdrule := mem_rules_of_ok hs hok hdmem (Declaration.rule_of_mem_catalogue (mem_catalogue .hashtags) hd)
  have herule := mem_rules_of_ok hs hok hemem
    (Declaration.rule_of_mem_catalogue (mem_catalogue (.flag .withoutHashtags)) he)
  rw [← Bool.not_eq_true, keeps_iff_rejectedBy, rejectedBy_eq_none_iff]
  intro hall
  have hunmet := Condition.not_holds_of_withoutHashtags (hall _ herule) d.argument
  exact absurd (hall _ hdrule) (by simpa [hashtagRule] using hunmet)

end Sieve

/-- A tweet meets exactly one of the conditions that ask for an exact number of hashtags, provided its number is a word;
it meets the condition that asks for some just if it does not meet the one that asks for none. No argument comes to a
demand for no hashtags or to one that a tweet without hashtags meets. So a demand for hashtags and the condition that
there are none, which can always be declared together, leave no tweet, whatever else is declared with them. -/
theorem Condition.hashtags_shared_out :
    (∀ t : Tweet, t.hashtagNumber < UInt64.size → ∃! c : Condition, (∃ n, AsksFor n c) ∧ c.holds t = true) ∧
    (∀ t : Tweet, (withHashtags (.of none)).holds t = !withoutHashtags.holds t) ∧
    (∀ argument : Json, (HashtagCount.ofArgument argument).exactly ≠ some 0 ∧
      ∀ t, withoutHashtags.holds t = true → (withHashtags (.ofArgument argument)).holds t = false) ∧
    ∀ d e : Declaration, foldName d.name = foldName "withHashtags" → foldName e.name = foldName "withoutHashtags" →
      ∀ s : Sieve, s.isSealed = false → (s.adoptConfig ⟨[d, e]⟩).2 = .ok () ∧
        ∀ c : Config, d ∈ c.declarations → e ∈ c.declarations → (s.adoptConfig c).2 = .ok () →
          ∀ t, (s.adoptConfig c).1.keeps t = false := by
  refine ⟨fun _ => existsUnique_asksFor, fun _ => holds_some, fun argument => ?_, fun d e hd he s hs => ?_⟩
  · exact ⟨HashtagCount.exactly_of_ne_zero _, fun _ ht => not_holds_of_withoutHashtags ht argument⟩
  · exact ⟨Sieve.adoptConfig_pair hd he hs, fun _ => Sieve.keeps_adoptConfig_of_mem hd he hs⟩

/-- A tweet with two hashtags, and a demand for half a hashtag beside the condition that there are none. -/
theorem Condition.hashtags_shared_out_two :
    (∃! c : Condition, (∃ n, AsksFor n c) ∧
      c.holds { entities := .value { hashtags := .value [{ text := "a" }, { text := "b" }] } } = true) ∧
    ∀ t, (Sieve.empty.adoptConfig ⟨[⟨"with_hashtags", .number (.real 0.5)⟩, ⟨"withoutHashtags", .null⟩]⟩).1.keeps t =
      false := by
  obtain ⟨hone, -, -, hboth⟩ := hashtags_shared_out
  have hnames : foldName "with_hashtags" = foldName "withHashtags" := by decide +kernel
  obtain ⟨hok, hnothing⟩ := hboth ⟨"with_hashtags", .number (.real 0.5)⟩ ⟨"withoutHashtags", .null⟩ hnames rfl
    Sieve.empty rfl
  exact ⟨hone _ (by decide), hnothing _ (by simp) (by simp) hok⟩

end FeedSieve
