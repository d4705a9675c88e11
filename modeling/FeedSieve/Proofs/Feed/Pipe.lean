import FeedSieve.Proofs.Feed.Fate
import FeedSieve.Proofs.Wire.Trailing

/-! Sieving what another sieve has let through. A line that the first sieve keeps stands in its output with a newline,
and there it holds the same record, so the second sieve deals with it as it would have dealt with the line itself.
One carriage return at the end of what the line says is lost on the way, for then it stands before the newline. -/

namespace FeedSieve.Feed

/-- The fates of lines under a first sieve, those of the lines that it lets through under a second one, and those
of the lines under both. -/
inductive Piped : List Fate → List Fate → List Fate → Prop
  | nil : Piped [] [] []
  | idle {fs gs hs : List Fate} (h : Piped fs gs hs) : Piped (.idle :: fs) gs (.idle :: hs)
  | malformed {fs gs hs : List Fate} (h : Piped fs gs hs) : Piped (.malformed :: fs) gs (.malformed :: hs)
  | dropped {fs gs hs : List Fate} (rule : String) (h : Piped fs gs hs) :
    Piped (.dropped rule :: fs) gs (.dropped rule :: hs)
  | droppedLater {fs gs hs : List Fate} (raw rule : String) (h : Piped fs gs hs) :
    Piped (.kept raw :: fs) (.dropped rule :: gs) (.dropped rule :: hs)
  | kept {fs gs hs : List Fate} (raw : String) (h : Piped fs gs hs) :
    Piped (.kept raw :: fs) (.kept raw :: gs) (.kept raw :: hs)

namespace Piped

variable {fs gs hs : List Fate}

theorem outputOf_eq (h : Piped fs gs hs) : outputOf gs = outputOf hs := by
  induction h with
  | nil => rfl
  | idle _ ih => exact ih.trans String.empty_append.symm
  | malformed _ ih => exact ih.trans String.empty_append.symm
  | dropped _ _ ih => exact ih.trans String.empty_append.symm
  | droppedLater _ _ _ ih => rw [outputOf_cons, outputOf_cons, ih]
  | kept _ _ ih => rw [outputOf_cons, outputOf_cons, ih]

/-- The second sieve finds nothing malformed and keeps what both keep; what the first one drops and what it drops
itself is what both drop. -/
theorem tallyOf_eq (h : Piped fs gs hs) : (tallyOf gs).malformed = 0 ∧ (tallyOf gs).kept = (tallyOf hs).kept ∧
    (tallyOf fs).dropped + (tallyOf gs).dropped = (tallyOf hs).dropped ∧
    (tallyOf fs).malformed = (tallyOf hs).malformed := by
  induction h with
  | nil => exact ⟨rfl, rfl, rfl, rfl⟩
  | idle _ ih => simpa using ih
  | malformed _ ih => simpa using ih
  | dropped _ _ ih =>
    simp only [tallyOf_dropped]
    omega
  | droppedLater _ _ _ ih =>
    simp only [tallyOf_dropped, tallyOf_kept]
    omega
  | kept _ _ ih => simpa using ih

end Piped

/-! ### The output as a stream -/

/-- The line that a kept line becomes in the output. -/
def Fate.line? : Fate → Option (List UInt8)
  | .kept raw => some (Text.bytes raw ++ [newline])
  | _ => none

theorem lined_outputOf {fates : List Fate} (h : ∀ raw, .kept raw ∈ fates → newline ∉ Text.bytes raw) :
    Lined (Text.bytes (outputOf fates)) (fates.filterMap Fate.line?) := by
  induction fates with
  | nil => exact .nil
  | cons f fates ih =>
    have hrest := ih fun raw hraw => h raw (List.mem_cons_of_mem f hraw)
    rw [outputOf_cons, Text.bytes_append]
    cases f with
    | kept raw =>
      have hraw : Text.bytes (Fate.kept raw).output = Text.bytes raw ++ [newline] := Text.bytes_append raw "\n"
      rw [hraw, List.append_assoc]
      exact .cons (h raw List.mem_cons_self) hrest
    | _ => exact hrest

/-- A line that is kept holds the same record in the output. Without a carriage return at its end it also says the
same there. -/
theorem reads_output {line : List UInt8} {raw : String} {t : Tweet} (h : Reads line (.record raw t)) :
    ∃ raw', Reads (Text.bytes raw ++ [newline]) (.record raw' t) ∧
      (raw.toList.getLast? ≠ some '\r' → raw' = raw) := by
  cases h with
  | record hsaid hblank ht =>
    by_cases hreturn : (Text.bytes raw).getLast? = some carriageReturn
    · -- in the output the carriage return belongs to the line ending, and decoding can do without it
      obtain ⟨bs, hbs⟩ := List.getLast?_eq_some_iff.mp hreturn
      have hencode : String.utf8EncodeChar '\r' = [carriageReturn] := by decide
      obtain ⟨start, rfl, hstart⟩ := Text.exists_of_bytes_eq_concat hencode hbs
      have hnewline : newline ∉ Text.bytes start := by
        intro hmem
        refine hsaid.notMem ?_
        rw [Text.bytes_append]
        exact List.mem_append_left _ hmem
      refine ⟨start, .record ?_ ?_ (Tweet.decode_of_concat_return ht), fun hlast => absurd ?_ hlast⟩
      · rw [hbs, ← hstart, List.append_assoc]
        exact .returned hnewline
      · obtain ⟨c, hc, hblank⟩ := hblank
        rw [String.toList_append, List.mem_append] at hc
        rcases hc with hc | hc
        · exact ⟨c, hc, hblank⟩
        · rw [String.toList_ofList, List.mem_singleton] at hc
          exact absurd hblank (by rw [hc]; decide)
      · rw [String.toList_append, String.toList_ofList, List.getLast?_concat]
    · exact ⟨raw, .record (.ended hsaid.notMem hreturn) hblank ht, fun _ => rfl⟩

/-! ### Two sieves -/

section

variable {s u : Sieve}

/-- No line that both sieves keep ends in a carriage return once its own line ending is off. -/
def NoReturns (s u : Sieve) (ls : List (List UInt8)) : Prop :=
  ∀ line ∈ ls, ∀ raw t, Reads line (.record raw t) → s.keeps t = true → u.keeps t = true →
    raw.toList.getLast? ≠ some '\r'

/-- Under both sieves a line fares as it does under the first one and, if that lets it through, as its output does
under the second one. -/
theorem piped_lines {ls : List (List UInt8)} (hls : ∀ line ∈ ls, IsLine line) (hreturns : NoReturns s u ls) (b : Bool) :
    Piped (ls.map fun line => fate s (reading line))
      (((ls.map fun line => fate s (reading line)).filterMap Fate.line?).map fun line => fate u (reading line))
      (ls.map fun line => fate ⟨s.rules ++ u.rules, b⟩ (reading line)) := by
  induction ls with
  | nil => exact .nil
  | cons line ls ih =>
    have hrest := ih (fun l hl => hls l (List.mem_cons_of_mem line hl))
      fun l hl => hreturns l (List.mem_cons_of_mem line hl)
    have hreads := reads_reading (hls line List.mem_cons_self)
    rw [List.map_cons, List.map_cons]
    cases hreading : reading line with
    | notText => exact .malformed hrest
    | blank => exact .idle hrest
    | undecodable e => exact .malformed hrest
    | record raw t =>
      rw [hreading] at hreads
      obtain ⟨raw', hreads', hraw⟩ := reads_output hreads
      have hboth := Sieve.rejectedBy_append s u b t
      cases hs : s.rejectedBy t with
      | some rule =>
        rw [hs, Option.some_or] at hboth
        rw [fate_of_some hs, fate_of_some hboth]
        exact .dropped rule hrest
      | none =>
        -- the line comes up in the output, where it holds the same record for the second sieve
        rw [hs, Option.none_or] at hboth
        rw [fate_of_none hs, List.filterMap_cons, Fate.line?, List.map_cons, ← (reads_iff.mp hreads').2]
        cases hu : u.rejectedBy t with
        | some rule =>
          rw [fate_of_some hu, fate_of_some (hboth.trans hu)]
          exact .droppedLater raw rule hrest
        | none =>
          have hkept := hraw (hreturns line List.mem_cons_self raw t hreads
            (Sieve.keeps_iff_rejectedBy.mpr hs) (Sieve.keeps_iff_rejectedBy.mpr hu))
          rw [fate_of_none hu, fate_of_none (hboth.trans hu), hkept]
          exact .kept raw hrest

theorem notMem_of_kept {line : List UInt8} {raw : String} (hline : IsLine line)
    (hkept : fate s (reading line) = .kept raw) : newline ∉ Text.bytes raw := by
  have hreads := reads_reading hline
  have hfares : Fares s (reading line) (.kept raw) := fares_iff.mpr hkept.symm
  generalize reading line = r at hreads hfares
  cases hfares with
  | kept raw hall =>
    cases hreads with
    | record hsaid _ _ => exact hsaid.notMem

/-- The lines of the output are the kept lines. -/
theorem lines_outputOf (s : Sieve) (bytes : List UInt8) :
    lines (Text.bytes (outputOf ((lines bytes).map fun line => fate s (reading line)))) =
      ((lines bytes).map fun line => fate s (reading line)).filterMap Fate.line? := by
  refine (lined_iff.mp (lined_outputOf ?_)).symm
  intro raw hraw
  obtain ⟨line, hline, hkept⟩ := List.mem_map.mp hraw
  exact notMem_of_kept ((lined_iff.mpr rfl : Lined bytes (lines bytes)).isLine line hline) hkept

/-- Sieving twice with the same rules is sieving once. -/
theorem fate_append_self (s : Sieve) (b : Bool) : fate ⟨s.rules ++ s.rules, b⟩ = fate s := by
  funext r
  cases r with
  | record raw t => rw [fate, fate, Sieve.rejectedBy_append, Option.or_self]
  | _ => rfl

end

end FeedSieve.Feed
