import FeedSieve.Feed.Decoding
import FeedSieve.Sieve.Basic

/-! Sieving a stream: the lines whose records stay in go to the output as they came. -/

namespace FeedSieve.Feed

/-- How many lines were kept, dropped and malformed. -/
structure Tally where
  kept : Nat := 0
  dropped : Nat := 0
  malformed : Nat := 0
deriving DecidableEq, Repr

def Tally.text (t : Tally) : String :=
  "kept " ++ t.kept.repr ++ ", dropped " ++ t.dropped.repr ++ ", malformed " ++ t.malformed.repr

structure Progress where
  output : String := ""
  /-- For each dropped line its number and the rule that it fails. -/
  rejections : Array (Nat × String) := #[]
  tally : Tally := {}

def Progress.step (s : Sieve) (p : Progress) : Item → Progress
  | .decoded line raw t =>
    match s.rejectedBy t with
    | none => { p with output := p.output ++ raw ++ "\n", tally.kept := p.tally.kept + 1 }
    | some rule =>
      { p with rejections := p.rejections.push (line, rule), tally.dropped := p.tally.dropped + 1 }
  | .undecodable _ _ | .notText => { p with tally.malformed := p.tally.malformed + 1 }

def run (s : Sieve) (bytes : List UInt8) : Progress := (items bytes).foldl (Progress.step s) {}

def rejectionText (r : Nat × String) : String := "line " ++ r.1.repr ++ " rejected by " ++ r.2

end FeedSieve.Feed
