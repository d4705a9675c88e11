import FeedSieve.Proofs.Command.Run
import FeedSieve.Proofs.Feed.Pipe
import FeedSieve.Proofs.Sieve.Compiled

/-! Running one sieve after another. A run whose input is the output of another run gives what one run with the
rules of both gives, and each line is counted once in both tallies together, except for the kept ones. -/

namespace FeedSieve.Command

open Feed

/-- In its surroundings a command sieves some bytes with the declared rules. -/
inductive Sifts (w : Surroundings) (ds : List Declaration) (bytes : ByteArray) : Command → Prop
  | run {o : RuleOptions} {input : Option String} (explain : Bool) (hconfig : loadConfig w o = .ok ⟨ds⟩)
    (hinput : loadInput w input = .ok bytes) : Sifts w ds bytes (.run o input explain)

/-- What a command gives that sieves some bytes with the rules of a sieve. -/
theorem Sifts.execute_eq {w : Surroundings} {ds : List Declaration} {bytes : ByteArray} {c : Command} {s : Sieve}
    (h : Sifts w ds bytes c) (hs : Config.compile ⟨ds⟩ = .ok s) :
    (execute w c).output = outputOf ((lines bytes.data.toList).map fun line => fate s (reading line)) ∧
    (execute w c).tally = some (tallyOf ((lines bytes.data.toList).map fun line => fate s (reading line))) := by
  cases h with
  | run explain hconfig hinput =>
    next o input =>
    have hsieve : loadSieve w o = .ok s := bind_eq_ok.mpr ⟨_, hconfig, mapError_eq_ok.mpr hs⟩
    rw [execute_of_course hsieve hinput (course_iff.mpr rfl) explain]
    exact ⟨rfl, rfl⟩

section

variable {ds es : List Declaration} {s u : Sieve} {bytes : ByteArray} {w₁ w₂ w₃ : Surroundings}
  {first second both : Command}

/-- A second run on the output of a first one gives what one run with the declarations of both gives. The second run
finds nothing malformed and keeps what the one run keeps; both runs together drop what the one run drops, and the
first finds malformed what that finds. With the same declarations the second run changes nothing. All this is so
if no line that both keep ends in a carriage return once its own line ending is off. -/
theorem execute_piped (hs : Config.compile ⟨ds⟩ = .ok s) (hu : Config.compile ⟨es⟩ = .ok u)
    (hreturns : NoReturns s u (lines bytes.data.toList)) (hfirst : Sifts w₁ ds bytes first)
    (hsecond : Sifts w₂ es (execute w₁ first).output.toUTF8 second) (hboth : Sifts w₃ (ds ++ es) bytes both) :
    (execute w₂ second).output = (execute w₃ both).output ∧
    (∃ t₁ t₂ t₃ : Tally, (execute w₁ first).tally = some t₁ ∧ (execute w₂ second).tally = some t₂ ∧
      (execute w₃ both).tally = some t₃ ∧ t₂.malformed = 0 ∧ t₂.kept = t₃.kept ∧
      t₁.dropped + t₂.dropped = t₃.dropped ∧ t₁.malformed = t₃.malformed) ∧
    (es = ds → (execute w₂ second).output = (execute w₁ first).output) := by
  obtain ⟨houtput₁, htally₁⟩ := hfirst.execute_eq hs
  obtain ⟨houtput₂, htally₂⟩ := hsecond.execute_eq hu
  obtain ⟨houtput₃, htally₃⟩ := hboth.execute_eq (Config.compile_append hs hu)
  have hls : ∀ line ∈ lines bytes.data.toList, IsLine line := (lined_iff.mpr rfl : Lined _ (lines _)).isLine
  have hlines : lines (execute w₁ first).output.toUTF8.data.toList =
      ((lines bytes.data.toList).map fun line => fate s (reading line)).filterMap Fate.line? := by
    rw [houtput₁]
    exact lines_outputOf s bytes.data.toList
  have hpiped := piped_lines hls hreturns true
  rw [← hlines] at hpiped
  have houtput : (execute w₂ second).output = (execute w₃ both).output := by
    rw [houtput₂, houtput₃, hpiped.outputOf_eq]
  refine ⟨houtput, ⟨_, _, _, htally₁, htally₂, htally₃, hpiped.tallyOf_eq⟩, ?_⟩
  rintro rfl
  obtain rfl : s = u := Except.ok.inj (hs.symm.trans hu)
  rw [houtput, houtput₃, houtput₁, fate_append_self]

end

theorem sifts_inline {ds : List Declaration} {texts : List String} (h : inlineDeclarations texts = .ok ds)
    (bytes : ByteArray) (explain : Bool) :
    Sifts (inputOnly bytes) ds bytes (.run { inline := texts } none explain) := by
  refine .run explain ?_ rfl
  rw [loadConfig, h]
  rfl

/-- A repeated tweet, a line that is no record, a limit notice with a carriage return too many, and an empty record. -/
def stackedFeed : ByteArray :=
  "\x7b\"retweeted_status\":null\x7d\nx\n\x7b\"limit\":1\x7d\r\r\n\x7b\x7d\r\n".toUTF8

/-- The run without repeated tweets. -/
def firstStage : Command := .run { inline := ["withoutRTs"] } none false

/-- The run without limit notices. -/
def secondStage : Command := .run { inline := ["withoutLimitNotices"] } none true

/-- The run without either. -/
def bothStages : Command := .run { inline := ["withoutRTs", "withoutLimitNotices"] } none false

theorem execute_piped_stacked :
    (execute (inputOnly (execute (inputOnly stackedFeed) firstStage).output.toUTF8) secondStage).output =
      (execute (inputOnly stackedFeed) bothStages).output ∧
    (execute (inputOnly stackedFeed) bothStages).output = "\x7b\x7d\n" ∧
    (execute (inputOnly stackedFeed) bothStages).tally = some ⟨1, 2, 1⟩ := by
  have hs : Config.compile ⟨[⟨"withoutRTs", .null⟩]⟩ = .ok ⟨[⟨"withoutRTs", .withoutRetweet⟩], true⟩ := rfl
  have hu : Config.compile ⟨[⟨"withoutLimitNotices", .null⟩]⟩ =
      .ok ⟨[⟨"withoutLimitNotices", .withoutLimitNotice⟩], true⟩ := rfl
  have hreturns : NoReturns ⟨[⟨"withoutRTs", .withoutRetweet⟩], true⟩
      ⟨[⟨"withoutLimitNotices", .withoutLimitNotice⟩], true⟩ (lines stackedFeed.data.toList) := by
    have hall : (lines stackedFeed.data.toList).all (fun line => match reading line with
        | .record raw t => t.has .limitNotice || raw.toList.getLast? ≠ some '\r'
        | _ => true) = true := by decide +kernel
    intro line hline raw t hreads _ hkept
    have hraw := List.all_eq_true.mp hall line hline
    rw [← (reads_iff.mp hreads).2] at hraw
    have hlimit : (!t.has .limitNotice) = true :=
      Sieve.rejectedBy_eq_none_iff.mp (Sieve.keeps_iff_rejectedBy.mp hkept) _ List.mem_cons_self
    rw [Bool.not_eq_true'] at hlimit
    simpa [hlimit] using hraw
  have hfirst : Sifts (inputOnly stackedFeed) [⟨"withoutRTs", .null⟩] stackedFeed firstStage :=
    sifts_inline rfl stackedFeed false
  have hsecond : Sifts (inputOnly (execute (inputOnly stackedFeed) firstStage).output.toUTF8)
      [⟨"withoutLimitNotices", .null⟩] (execute (inputOnly stackedFeed) firstStage).output.toUTF8 secondStage :=
    sifts_inline rfl _ true
  have hboth : Sifts (inputOnly stackedFeed) ([⟨"withoutRTs", .null⟩] ++ [⟨"withoutLimitNotices", .null⟩])
      stackedFeed bothStages := sifts_inline rfl stackedFeed false
  exact ⟨(execute_piped hs hu hreturns hfirst hsecond hboth).1, by decide +kernel⟩

end FeedSieve.Command
