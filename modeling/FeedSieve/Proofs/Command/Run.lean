import FeedSieve.Command.Report
import FeedSieve.Proofs.Feed.Fate
import FeedSieve.Proofs.Outcome

/-! What running a sieve over a stream reports. The course of the stream determines the whole report: the kept
lines, as they came, are the output, each followed by one newline; the tally counts the fates; and on request each
dropped line is told under its number, with the first rule that its record fails. -/

namespace FeedSieve.Command

open Feed

variable {w : Surroundings} {o : RuleOptions} {input : Option String} {s : Sieve} {bytes : ByteArray}

theorem execute_of_course {fates : List Fate} (hs : loadSieve w o = .ok s) (hbytes : loadInput w input = .ok bytes)
    (hcourse : Course s bytes.data.toList fates) (explain : Bool) : execute w (.run o input explain) =
      { output := outputOf fates
        notices := compiledNotice s :: if explain then (rejectionsFrom 1 fates).map rejectionText else []
        tally := some (tallyOf fates) } := by
  simp only [execute, hs, runWith, hbytes, run_eq hcourse]

/-- A run reports the course of its stream, which every stream has. The output are the kept lines, each as it says
and with a newline, in their order; the tally counts the kept, dropped and malformed lines, and with them all lines
that are not idle. Explaining tells the dropped lines in their order, each under its number and with the first rule
that its record fails, and changes nothing else. -/
theorem execute_run (hs : loadSieve w o = .ok s) (hbytes : loadInput w input = .ok bytes) :
    (∃ fates, Course s bytes.data.toList fates) ∧
    ∀ fates, Course s bytes.data.toList fates →
      (∀ explain, execute w (.run o input explain) =
        { output := String.join (fates.map Fate.output)
          notices := compiledNotice s :: if explain then (rejectionsFrom 1 fates).map rejectionText else []
          tally := some ⟨fates.countP Fate.isKept, fates.countP Fate.isDropped, fates.countP Fate.isMalformed⟩
          failure := none }) ∧
      fates.countP Fate.isKept + fates.countP Fate.isDropped + fates.countP Fate.isMalformed =
        fates.countP fun f => !f.isIdle := by
  refine ⟨⟨_, course_iff.mpr rfl⟩, fun fates hcourse => ⟨fun explain => ?_, tallyOf_total fates⟩⟩
  exact execute_of_course hs hbytes hcourse explain

/-- Surroundings without files. -/
def inputOnly (bytes : ByteArray) : Surroundings := ⟨fun _ => none, bytes⟩

/-- A repeated tweet, a blank line, a line that is no record, one that is no text, and an empty record. -/
def mixedFeed : ByteArray :=
  "\x7b\"retweeted_status\":null\x7d\n \r\nx\n".toUTF8 ++ ⟨#[255, 10]⟩ ++ "\x7b\x7d\r\n".toUTF8

def quietRules : RuleOptions := { inline := ["withoutRTs"] }

theorem execute_run_mixed : ∃ s fates, loadSieve (inputOnly mixedFeed) quietRules = .ok s ∧
    loadInput (inputOnly mixedFeed) none = .ok mixedFeed ∧ Course s mixedFeed.data.toList fates ∧
    execute (inputOnly mixedFeed) (.run quietRules none true) =
      { output := String.join (fates.map Fate.output)
        notices := compiledNotice s :: (rejectionsFrom 1 fates).map rejectionText
        tally := some ⟨fates.countP Fate.isKept, fates.countP Fate.isDropped, fates.countP Fate.isMalformed⟩ } ∧
    (execute (inputOnly mixedFeed) (.run quietRules none true)).output = "\x7b\x7d\n" ∧
    (execute (inputOnly mixedFeed) (.run quietRules none true)).notices =
      ["Compiled 1 filter predicates", "line 1 rejected by withoutRTs"] ∧
    (execute (inputOnly mixedFeed) (.run quietRules none true)).tally = some ⟨1, 1, 2⟩ := by
  obtain ⟨s, hs⟩ := exists_of_isOk (x := loadSieve (inputOnly mixedFeed) quietRules) (by decide +kernel)
  have hinput : loadInput (inputOnly mixedFeed) none = .ok mixedFeed := rfl
  obtain ⟨⟨fates, hcourse⟩, hreport⟩ := execute_run hs hinput
  exact ⟨s, fates, hs, hinput, hcourse, (hreport fates hcourse).1 true, by decide +kernel⟩

end FeedSieve.Command
