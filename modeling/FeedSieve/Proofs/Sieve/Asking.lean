import Mathlib.Data.List.Nodup
import FeedSieve.Proofs.Sieve.Judging
import FeedSieve.Rule.Catalogue

/-! How often rules are asked. Asking is done here with a log, in which every question leaves the place of its
rule; what it answers is what judging says, and what it logs is what the verdicts count. However a list of records
is sieved, the log of it has the place of a rule once for each record that meets all rules before that one. -/

namespace FeedSieve

/-! ### One record -/

/-- Asks rules about a record up to the first that fails, the first rule standing in the given place. The name of
the rule that fails is answered, and the places of those that were asked are logged. -/
def askFrom (t : Tweet) : Nat → List Rule → Option String × List Nat
  | _, [] => (none, [])
  | place, r :: rs =>
    if r.condition.holds t then
      let (rejecting, log) := askFrom t (place + 1) rs
      (rejecting, place :: log)
    else (some r.name, [place])

theorem askFrom_eq (t : Tweet) (place : Nat) (rs : List Rule) :
    askFrom t place rs = ((judge t rs).rejectedBy, List.range' place (judge t rs).asked) := by
  induction rs generalizing place with
  | nil => rfl
  | cons r rs ih =>
    rw [askFrom, judge]
    split
    · rw [ih, List.range'_succ]
    · rfl

/-- A rule is asked if all rules before it hold. -/
theorem lt_asked_iff {t : Tweet} {rs : List Rule} {i : Nat} :
    i < (judge t rs).asked ↔ i < rs.length ∧ (rs.take i).all (·.condition.holds t) = true := by
  induction rs generalizing i with
  | nil => simp [judge]
  | cons r rs ih =>
    rw [judge]
    cases i with
    | zero => split <;> simp
    | succ i =>
      rw [List.take_succ_cons, List.all_cons, List.length_cons, Nat.add_lt_add_iff_right]
      split
      · next hr => rw [hr, Bool.true_and, Nat.add_lt_add_iff_right, ih]
      · next hr => simp [hr]

namespace Sieve

variable {s : Sieve} {ts : List Tweet}

/-- The rule that is named stands in the first place whose rule fails. -/
theorem rejectedBy_eq_some_iff_place {t : Tweet} {name : String} : s.rejectedBy t = some name ↔
    ∃ place r, s.rules[place]? = some r ∧ r.name = name ∧ r.condition.holds t = false ∧
      ∀ q ∈ s.rules.take place, q.condition.holds t = true := by
  rw [rejectedBy_eq_some_iff]
  constructor
  · rintro ⟨before, r, after, hrules, hbefore, hr, hname⟩
    exact ⟨before.length, r, by simp [hrules], hname, hr, by simpa [hrules] using hbefore⟩
  · rintro ⟨place, r, hplace, hname, hr, hbefore⟩
    obtain ⟨hlt, rfl⟩ := List.getElem?_eq_some_iff.mp hplace
    refine ⟨s.rules.take place, s.rules[place], s.rules.drop (place + 1), ?_, hbefore, hr, hname⟩
    rw [← List.drop_eq_getElem_cons hlt, List.take_append_drop]

/-! ### Many records -/

/-- Asks about one record after another, each of them carried by an item. Every item gets its answer; there is one
log. -/
def askEach {α : Type} (s : Sieve) (record : α → Tweet) : List α → List (α × Bool) × List Nat
  | [] => ([], [])
  | a :: as =>
    let (rejecting, log) := askFrom (record a) 0 s.rules
    let (answers, logs) := s.askEach record as
    ((a, rejecting.isNone) :: answers, log ++ logs)

def askAll (s : Sieve) (ts : List Tweet) : List Bool × List Nat :=
  let (answers, log) := s.askEach id ts
  (answers.map (·.2), log)

def askRetained (s : Sieve) (ts : List Tweet) : List Tweet × List Nat :=
  let (answers, log) := s.askEach id ts
  ((answers.filter (·.2)).map (·.1), log)

/-- Visits records, each with its place, and puts the answers into as many places as are wanted. -/
def askVisited (s : Sieve) (size : Nat) (visits : List (Tweet × Nat)) : List (Option Bool) × List Nat :=
  let (answers, log) := s.askEach (·.1) visits
  ((List.range size).map fun place => (answers.find? (·.1.2 == place)).map (·.2), log)

/-- The places of the rules that verdicts have asked, as each verdict counts them. -/
def askedPlaces (vs : List Verdict) : List Nat := vs.flatMap fun v => List.range' 0 v.asked

/-- How many records come to the rule in a place: those that meet all rules before it. -/
def reaching (s : Sieve) (place : Nat) (ts : List Tweet) : Nat :=
  ts.countP fun t => (s.rules.take place).all (·.condition.holds t)

/-- A log in which each rule stands once for every record that comes to it, and nothing else does. -/
def Logs (s : Sieve) (ts : List Tweet) (log : List Nat) : Prop :=
  ∀ place, log.count place = if place < s.size then s.reaching place ts else 0

theorem answers_askEach {α : Type} (record : α → Tweet) (as : List α) :
    (s.askEach record as).1 = as.map fun a => (a, s.keeps (record a)) := by
  induction as with
  | nil => rfl
  | cons a as ih =>
    rw [List.map_cons, ← ih, askEach, askFrom_eq]
    rfl

theorem count_asked (s : Sieve) (t : Tweet) (place : Nat) :
    (List.range' 0 (s.verdict t).asked).count place = if place < s.size then s.reaching place [t] else 0 := by
  rw [(List.nodup_range' (h := Nat.one_pos)).count, verdict, reaching, List.countP_singleton]
  simp only [List.mem_range'_1, Nat.zero_le, true_and, Nat.zero_add, lt_asked_iff, size]
  split <;> simp_all

/-- The log of records is what their verdicts count. -/
theorem log_askEach {α : Type} (record : α → Tweet) (as : List α) :
    (s.askEach record as).2 = askedPlaces (s.verdicts (as.map record)) := by
  induction as with
  | nil => rfl
  | cons a as ih =>
    rw [askEach, askFrom_eq]
    dsimp only
    rw [ih]
    rfl

/-- Each rule stands in the log of verdicts once for every record that comes to it. -/
theorem logs_askedPlaces (s : Sieve) (ts : List Tweet) : s.Logs ts (askedPlaces (s.verdicts ts)) := by
  intro place
  induction ts with
  | nil => simp [askedPlaces, verdicts, reaching]
  | cons t ts ih =>
    have hlog : askedPlaces (s.verdicts (t :: ts)) =
        List.range' 0 (s.verdict t).asked ++ askedPlaces (s.verdicts ts) := rfl
    have hreaching : s.reaching place (t :: ts) = s.reaching place [t] + s.reaching place ts :=
      @List.countP_append _ _ [t] ts
    rw [hlog, List.count_append, count_asked, ih, hreaching]
    split <;> rfl

/-! ### Places -/

/-- Among the visits the one that has a place is found by it. -/
theorem find?_visit {visits : List (Tweet × Nat)} (h : visits.Perm ts.zipIdx) {place : Nat}
    (hplace : place < ts.length) : visits.find? (·.2 == place) = some (ts[place], place) := by
  have hvisit : (ts[place], place) ∈ visits := by
    rw [h.mem_iff, List.mk_mem_zipIdx_iff_getElem?, List.getElem?_eq_getElem hplace]
  have hsome : (visits.find? (·.2 == place)).isSome = true := List.find?_isSome.mpr ⟨_, hvisit, by simp⟩
  obtain ⟨⟨t, i⟩, hfound⟩ := Option.isSome_iff_exists.mp hsome
  obtain rfl : i = place := by simpa using List.find?_some hfound
  have hmem := h.mem_iff.mp (List.mem_of_find?_eq_some hfound)
  rw [List.mk_mem_zipIdx_iff_getElem?, List.getElem?_eq_getElem hplace] at hmem
  rw [hfound, Option.some.inj hmem]

/-- Visits to all records, each once, put every answer where its record stands. -/
theorem answers_askVisited {visits : List (Tweet × Nat)} (h : visits.Perm ts.zipIdx) :
    (s.askVisited ts.length visits).1 = (ts.map s.keeps).map some := by
  show (List.range ts.length).map (fun place =>
    ((s.askEach (·.1) visits).1.find? (·.1.2 == place)).map (·.2)) = _
  refine List.ext_getElem (by simp) fun place hplace _ => ?_
  have hlt : place < ts.length := by simpa using hplace
  have hfind : (visits.map fun v => (v, s.keeps v.1)).find? (·.1.2 == place) =
      some ((ts[place], place), s.keeps ts[place]) := by
    rw [List.find?_map]
    exact congrArg (Option.map fun v => (v, s.keeps v.1)) (find?_visit h hlt)
  rw [List.getElem_map, List.getElem_range, answers_askEach, hfind, List.getElem_map, List.getElem_map]
  rfl

/-! ### All ways of asking -/

theorem answers_askAll (s : Sieve) (ts : List Tweet) : (s.askAll ts).1 = s.keepsEach ts := by
  show (s.askEach id ts).1.map (·.2) = (ts.map s.verdict).map Verdict.kept
  rw [answers_askEach, List.map_map, List.map_map]
  rfl

theorem retain_eq_filter (s : Sieve) (ts : List Tweet) :
    s.retain ts = ts.filter fun t => s.rules.all (·.condition.holds t) :=
  List.filter_congr fun t _ => kept_judge t s.rules

theorem answers_askRetained (s : Sieve) (ts : List Tweet) : (s.askRetained ts).1 = s.retain ts := by
  show ((s.askEach id ts).1.filter (·.2)).map (·.1) = ts.filter s.keeps
  rw [answers_askEach, List.filter_map, List.map_map]
  exact List.map_id _

theorem Logs.perm {us : List Tweet} {log : List Nat} (h : s.Logs us log) (hus : us.Perm ts) : s.Logs ts log := by
  intro place
  rw [h place, reaching, reaching, hus.countP_eq]

/-- Whatever the order of the visits, the log of them is one of all records. -/
theorem logs_visited {visits : List (Tweet × Nat)} (h : visits.Perm ts.zipIdx) :
    s.Logs ts (askedPlaces (s.verdicts (visits.map (·.1)))) := by
  have hrecords := h.map Prod.fst
  rw [List.zipIdx_map_fst] at hrecords
  exact (s.logs_askedPlaces _).perm hrecords

/-- All ways to sieve records agree, and none of them asks a rule too often. A record is kept if all rules hold of
it; otherwise the rule in the first place that fails is named. A list of records is answered record by record, in
whatever order they are visited, and those retained are the ones of which all rules hold, in their order. In each
of these ways the rules are asked that the verdicts count as asked, and so each rule is asked once for every record
that meets all rules before it. -/
theorem answers_agree (s : Sieve) (ts : List Tweet) :
    (∀ t, (s.keeps t = true ↔ ∀ r ∈ s.rules, r.condition.holds t = true) ∧
      (s.keeps t = true ↔ s.rejectedBy t = none) ∧
      (∀ name, s.rejectedBy t = some name ↔ ∃ place r, s.rules[place]? = some r ∧ r.name = name ∧
        r.condition.holds t = false ∧ ∀ q ∈ s.rules.take place, q.condition.holds t = true) ∧
      askFrom t 0 s.rules = (s.rejectedBy t, List.range' 0 (s.verdict t).asked)) ∧
    s.keepsEach ts = ts.map s.keeps ∧
    s.retain ts = ts.filter (fun t => s.rules.all (·.condition.holds t)) ∧
    ((s.askAll ts).1 = s.keepsEach ts ∧ (s.askAll ts).2 = askedPlaces (s.verdicts ts) ∧
      s.Logs ts (s.askAll ts).2) ∧
    ((s.askRetained ts).1 = s.retain ts ∧ (s.askRetained ts).2 = askedPlaces (s.verdicts ts) ∧
      s.Logs ts (s.askRetained ts).2) ∧
    ∀ visits : List (Tweet × Nat), visits.Perm ts.zipIdx →
      (s.askVisited ts.length visits).1 = (s.keepsEach ts).map some ∧
      (s.askVisited ts.length visits).2 = askedPlaces (s.verdicts (visits.map (·.1))) ∧
      s.Logs ts (s.askVisited ts.length visits).2 := by
  have hlog : (s.askEach id ts).2 = askedPlaces (s.verdicts ts) := by simpa using s.log_askEach id ts
  have hlogs : s.Logs ts (s.askEach id ts).2 := hlog ▸ s.logs_askedPlaces ts
  have heach : s.keepsEach ts = ts.map s.keeps := List.map_map
  refine ⟨fun t => ⟨?_, keeps_iff_rejectedBy, fun name => rejectedBy_eq_some_iff_place, askFrom_eq t 0 s.rules⟩,
    heach, s.retain_eq_filter ts, ⟨s.answers_askAll ts, hlog, hlogs⟩, ⟨s.answers_askRetained ts, hlog, hlogs⟩, ?_⟩
  · rw [keeps_iff_rejectedBy, rejectedBy_eq_none_iff]
  · intro visits hvisits
    have hvisited : (s.askVisited ts.length visits).2 = askedPlaces (s.verdicts (visits.map (·.1))) :=
      s.log_askEach Prod.fst visits
    exact ⟨by rw [heach]; exact answers_askVisited hvisits, hvisited, hvisited ▸ logs_visited hvisits⟩

/-- Whether there is a text is asked between two askings for no repeated tweet. -/
def doubledSieve : Sieve :=
  ⟨[Flag.rule .withoutRetweets, ⟨"text", .custom "text" fun t => t.text.isSome⟩, Flag.rule .withoutRetweets], false⟩

/-- A repeated tweet, an empty record and a text are visited from the last one on. -/
theorem answers_agree_doubled :
    [(({ text := some "" } : Tweet), 2), ({ retweeted := .null }, 0), ({}, 1)].Perm
      [({ retweeted := .null }, 0), ({}, 1), ({ text := some "" }, 2)] ∧
    (doubledSieve.askVisited 3 [({ text := some "" }, 2), ({ retweeted := .null }, 0), ({}, 1)]).1 =
      [some false, some false, some true] ∧
    (doubledSieve.askVisited 3 [({ text := some "" }, 2), ({ retweeted := .null }, 0), ({}, 1)]).2.count 1 = 2 := by
  have hvisits : [(({ text := some "" } : Tweet), 2), ({ retweeted := .null }, 0), ({}, 1)].Perm
      [({ retweeted := .null }, 0), ({}, 1), ({ text := some "" }, 2)] :=
    @List.perm_append_comm _ [(({ text := some "" } : Tweet), 2)] _
  obtain ⟨hanswers, -, hlog⟩ :=
    (answers_agree doubledSieve [{ retweeted := .null }, {}, { text := some "" }]).2.2.2.2.2 _ hvisits
  exact ⟨hvisits, hanswers, hlog 1⟩

end Sieve

end FeedSieve
