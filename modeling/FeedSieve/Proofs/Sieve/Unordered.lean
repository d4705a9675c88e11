import FeedSieve.Proofs.Sieve.Calls
import FeedSieve.Proofs.Sieve.Judging

/-! Rules in any order. Whether a config compiles and which records its sieve keeps depend on which declarations there
are, not on where or how often they stand; only the name that a rejected record is given, and the error of a config
that does not compile, depend on their order. More declarations keep fewer records. -/

namespace FeedSieve

namespace Config

variable {c : Config}

theorem exists_compile_iff : (∃ s, c.compile = .ok s) ↔ ∀ d ∈ c.declarations, ∃ r, d.rule = .ok r := by
  rw [← exists_mapM_eq_ok_iff, compile_eq]
  simp only [map_eq_ok]
  exact ⟨fun ⟨_, rs, hrs, _⟩ => ⟨rs, hrs⟩, fun ⟨rs, hrs⟩ => ⟨_, rs, hrs, rfl⟩⟩

/-- A record is kept if the rules of all declarations hold of it. -/
theorem keeps_iff_of_compile {s : Sieve} (h : c.compile = .ok s) {t : Tweet} :
    s.keeps t = true ↔ ∀ d ∈ c.declarations, ∀ r, d.rule = .ok r → r.condition.holds t = true := by
  rw [Sieve.keeps_iff_rejectedBy, Sieve.rejectedBy_eq_none_iff, (rules_of_compile h).2]
  simp only [List.mem_filterMap, forall_exists_index, and_imp]
  have htoOption : ∀ (d : Declaration) (r : Rule), d.rule.toOption = some r ↔ d.rule = .ok r := by
    intro d r
    cases d.rule <;> simp [Except.toOption]
  simp only [htoOption]
  exact ⟨fun hall d hd r hr => hall r d hd hr, fun hall r d hd hr => hall d hd r hr⟩

variable {c' : Config} (h : c.declarations ⊆ c'.declarations) {s s' : Sieve}

include h

theorem exists_compile_of_subset (hs' : c'.compile = .ok s') : ∃ s, c.compile = .ok s := by
  rw [exists_compile_iff]
  exact fun d hd => exists_compile_iff.mp ⟨s', hs'⟩ d (h hd)

theorem keeps_of_subset (hs : c.compile = .ok s) (hs' : c'.compile = .ok s') {t : Tweet} (ht : s'.keeps t = true) :
    s.keeps t = true := by
  rw [keeps_iff_of_compile hs]
  exact fun d hd => (keeps_iff_of_compile hs').mp ht d (h hd)

theorem retain_of_subset (hs : c.compile = .ok s) (hs' : c'.compile = .ok s') (ts : List Tweet) :
    (s'.retain ts).Sublist (s.retain ts) :=
  ts.monotone_filter_right fun _ ht => keeps_of_subset h hs hs' ht

end Config

/-- Two configs with the same declarations, in whatever order and however often each, both compile or both do not, and
then they keep the same records. A config with all the declarations of one and perhaps more compiles only if the one
does, and keeps no record that the one does not, so that of any records it retains some of those that the one does, in
the same order. -/
theorem Config.judges_as_set (c : Config) :
    (∀ c' : Config, (∀ d, d ∈ c.declarations ↔ d ∈ c'.declarations) →
      ((∃ s, c.compile = .ok s) ↔ ∃ s', c'.compile = .ok s') ∧
      ∀ s s', c.compile = .ok s → c'.compile = .ok s' → ∀ t, s.keeps t = s'.keeps t) ∧
    ∀ c' : Config, c.declarations ⊆ c'.declarations → ∀ s', c'.compile = .ok s' →
      ∃ s, c.compile = .ok s ∧ (∀ t, s'.keeps t = true → s.keeps t = true) ∧
        ∀ ts, (s'.retain ts).Sublist (s.retain ts) := by
  refine ⟨fun c' hsame => ?_, fun c' h s' hs' => ?_⟩
  · have hle : c.declarations ⊆ c'.declarations := fun d => (hsame d).mp
    have hge : c'.declarations ⊆ c.declarations := fun d => (hsame d).mpr
    refine ⟨⟨fun ⟨s, hs⟩ => exists_compile_of_subset hge hs, fun ⟨s', hs'⟩ => exists_compile_of_subset hle hs'⟩, ?_⟩
    intro s s' hs hs' t
    rw [Bool.eq_iff_iff]
    exact ⟨keeps_of_subset hge hs' hs, keeps_of_subset hle hs hs'⟩
  · obtain ⟨s, hs⟩ := exists_compile_of_subset h hs'
    exact ⟨s, hs, fun t => keeps_of_subset h hs hs', retain_of_subset h hs hs'⟩

def plainConfig : Config := ⟨[⟨"withGeo", .null⟩, ⟨"withoutHashtags", .null⟩]⟩

/-- The same two in the other order, one of them twice. -/
def doubledConfig : Config := ⟨[⟨"withoutHashtags", .null⟩, ⟨"withGeo", .null⟩, ⟨"withoutHashtags", .null⟩]⟩

theorem Config.judges_as_set_doubled : (∀ d, d ∈ plainConfig.declarations ↔ d ∈ doubledConfig.declarations) ∧
    ∃ s s' : Sieve, plainConfig.compile = .ok s ∧ doubledConfig.compile = .ok s' ∧ s.names ≠ s'.names ∧
      (∀ t, s.keeps t = s'.keeps t) ∧ ∀ ts, (s'.retain ts).Sublist (s.retain ts) := by
  have hsame : ∀ d, d ∈ plainConfig.declarations ↔ d ∈ doubledConfig.declarations := by
    intro d
    simp only [plainConfig, doubledConfig, List.mem_cons, List.not_mem_nil, or_false]
    tauto
  have hgeo : Call.Declared (.flag .withGeo) ⟨"withGeo", .null⟩ := ⟨rfl, .flag _⟩
  have hhashtags : Call.Declared (.flag .withoutHashtags) ⟨"withoutHashtags", .null⟩ := ⟨rfl, .flag _⟩
  have hplain : plainConfig.compile = .ok ⟨[Flag.rule .withGeo, Flag.rule .withoutHashtags], true⟩ :=
    compile_eq_ok.mpr ⟨Call.mapM_rule (.cons hgeo (.cons hhashtags .nil)), rfl⟩
  have hdoubled : doubledConfig.compile =
      .ok ⟨[Flag.rule .withoutHashtags, Flag.rule .withGeo, Flag.rule .withoutHashtags], true⟩ :=
    compile_eq_ok.mpr ⟨Call.mapM_rule (.cons hhashtags (.cons hgeo (.cons hhashtags .nil))), rfl⟩
  obtain ⟨hequal, hmore⟩ := judges_as_set plainConfig
  obtain ⟨s, hs, -, hretain⟩ := hmore doubledConfig (fun d => (hsame d).mp) _ hdoubled
  obtain rfl := Except.ok.inj (hplain.symm.trans hs)
  exact ⟨hsame, _, _, hplain, hdoubled, by decide, (hequal doubledConfig hsame).2 _ _ hplain hdoubled, hretain⟩

end FeedSieve
