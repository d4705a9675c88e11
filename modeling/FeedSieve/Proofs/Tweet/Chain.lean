import FeedSieve.Proofs.Json.Normal
import FeedSieve.Tweet.Basic

/-! A tweet and those it repeats. What holds of the parts of a tweet that the program only passes on, its
coordinates and the notices, is said of every tweet of its chain. -/

namespace FeedSieve

open Json

mutual

/-- The tweet, the one it repeats, the one which that repeats, and so on. -/
def Tweet.chain : Tweet → List Tweet
  | ⟨id, idText, createdAt, text, source, language, user, retweeted, inReplyTo, geo, entities,
      extendedEntities, limitNotice, deleteNotice⟩ =>
    ⟨id, idText, createdAt, text, source, language, user, retweeted, inReplyTo, geo, entities,
      extendedEntities, limitNotice, deleteNotice⟩ :: repeated retweeted

def repeated : Presence Tweet → List Tweet
  | .value t => t.chain
  | _ => []

end

namespace Tweet

theorem chain_eq (t : Tweet) : t.chain = t :: repeated t.retweeted := by
  obtain ⟨⟩ := t
  rw [chain]

def notices (t : Tweet) : List Json := t.limitNotice.toList ++ t.deleteNotice.toList

/-- No double is held anywhere: all coordinates are empty, and every number of a notice is an integer. -/
def IsFloatFree (t : Tweet) : Prop :=
  ∀ u ∈ t.chain, (∀ g, u.geo = .value g → g.coordinates = []) ∧ ∀ j ∈ u.notices, j.IsFloatFree

/-- In every object of a notice the names ascend. -/
def IsSorted (t : Tweet) : Prop := ∀ u ∈ t.chain, ∀ j ∈ u.notices, j.IsNormal

/-- A property of tweets holds of all of them if it passes to a tweet from the one that it repeats. -/
@[elab_as_elim]
theorem inductionOn {motive : Tweet → Prop}
    (h : ∀ t : Tweet, (∀ r, t.retweeted = .value r → motive r) → motive t) (t : Tweet) : motive t :=
  @Tweet.rec motive (fun p => ∀ r, p = .value r → motive r)
    (fun _ _ _ _ _ _ _ _ _ _ _ _ _ _ hr => h _ hr) (fun r h => by simp at h) (fun r h => by simp at h)
    (fun t ht r hr => by
      obtain rfl := Presence.value.inj hr
      exact ht) t

theorem isSorted_iff {t : Tweet} :
    t.IsSorted ↔ (∀ j ∈ t.notices, j.IsNormal) ∧ ∀ r, t.retweeted = .value r → r.IsSorted := by
  rw [IsSorted, chain_eq]
  cases t.retweeted <;> simp [repeated, IsSorted]

theorem isFloatFree_iff {t : Tweet} :
    t.IsFloatFree ↔ ((∀ g, t.geo = .value g → g.coordinates = []) ∧ ∀ j ∈ t.notices, j.IsFloatFree) ∧
      ∀ r, t.retweeted = .value r → r.IsFloatFree := by
  rw [IsFloatFree, chain_eq]
  cases t.retweeted <;> simp [repeated, IsFloatFree]

end Tweet

end FeedSieve
