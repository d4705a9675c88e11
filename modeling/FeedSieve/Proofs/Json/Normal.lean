import Mathlib.Data.String.Basic
import FeedSieve.Proofs.Json.Document

/-! Documents in normal form: in every object the names ascend, so that none is there twice. Normalizing
gives such documents, nests none of them deeper, and leaves alone those that are in normal form. -/

namespace FeedSieve.Json

/-- The names of the members ascend. -/
abbrev Ascending (members : List (String × Json)) : Prop := members.Pairwise (·.1 < ·.1)

mutual

/-- The names ascend in every object of a document. -/
def IsNormal : Json → Prop
  | .array items => IsNormalItems items
  | .object members => Ascending members ∧ IsNormalMembers members
  | _ => True

def IsNormalItems : List Json → Prop
  | [] => True
  | j :: js => IsNormal j ∧ IsNormalItems js

/-- The names ascend in every object of the values of the members. -/
def IsNormalMembers : List (String × Json) → Prop
  | [] => True
  | (_, v) :: ms => IsNormal v ∧ IsNormalMembers ms

end

theorem isNormal_array {items : List Json} : (array items).IsNormal ↔ ∀ j ∈ items, j.IsNormal := by
  rw [IsNormal]
  induction items with
  | nil => simp [IsNormalItems]
  | cons j js ih => simp [IsNormalItems, ih]

theorem isNormalMembers_iff {members : List (String × Json)} :
    IsNormalMembers members ↔ ∀ m ∈ members, m.2.IsNormal := by
  induction members with
  | nil => simp [IsNormalMembers]
  | cons m ms ih => simp [IsNormalMembers, ih]

theorem isNormal_object {members : List (String × Json)} :
    (object members).IsNormal ↔ Ascending members ∧ ∀ m ∈ members, m.2.IsNormal := by
  rw [IsNormal, isNormalMembers_iff]

/-! ### Putting a member into a list -/

theorem mem_putMember {name : String} {v : Json} {sorted : List (String × Json)} {m : String × Json}
    (h : m ∈ putMember name v sorted) : m = (name, v) ∨ m ∈ sorted := by
  induction sorted with
  | nil => exact .inl (by simpa [putMember] using h)
  | cons k ks ih =>
    obtain ⟨n, w⟩ := k
    rw [putMember] at h
    split at h
    · exact List.mem_cons.mp h
    · split at h
      · exact (List.mem_cons.mp h).imp_right (List.mem_cons_of_mem _)
      · obtain rfl | h := List.mem_cons.mp h
        · exact .inr (by simp)
        · exact (ih h).imp_right (List.mem_cons_of_mem _)

theorem ascending_putMember {name : String} {v : Json} {sorted : List (String × Json)} (h : Ascending sorted) :
    Ascending (putMember name v sorted) := by
  induction sorted with
  | nil => simp [putMember, Ascending]
  | cons k ks ih =>
    obtain ⟨n, w⟩ := k
    obtain ⟨hlt, hks⟩ := List.pairwise_cons.mp h
    rw [putMember]
    split
    · next hname =>
      refine List.pairwise_cons.mpr ⟨fun m hm => ?_, h⟩
      obtain rfl | hm := List.mem_cons.mp hm
      · exact hname
      · exact lt_trans hname (hlt m hm)
    · next hname =>
      split
      · next heq =>
        subst heq
        exact List.pairwise_cons.mpr ⟨hlt, hks⟩
      · next hne =>
        refine List.pairwise_cons.mpr ⟨fun m hm => ?_, ih hks⟩
        obtain rfl | hm := mem_putMember hm
        · exact lt_of_le_of_ne (not_lt.mp hname) (Ne.symm hne)
        · exact hlt m hm

theorem putMember_of_ascending {name : String} {v : Json} {sorted : List (String × Json)}
    (h : Ascending (sorted ++ [(name, v)])) : putMember name v sorted = sorted ++ [(name, v)] := by
  induction sorted with
  | nil => rfl
  | cons k ks ih =>
    obtain ⟨n, w⟩ := k
    obtain ⟨hlt, hks⟩ := List.pairwise_cons.mp h
    have hname : n < name := hlt (name, v) (by simp)
    rw [putMember, if_neg (lt_asymm hname), if_neg (ne_of_gt hname), ih hks]
    rfl

/-! ### Normalizing -/

theorem normalItems_eq_map (items : List Json) : normalItems items = items.map normal := by
  induction items with
  | nil => rfl
  | cons j js ih => rw [normalItems, ih, List.map_cons]

theorem ascending_normalMembers {sorted members : List (String × Json)} (h : Ascending sorted) :
    Ascending (normalMembers sorted members) := by
  induction members generalizing sorted with
  | nil => exact h
  | cons m ms ih => exact ih (ascending_putMember h)

/-- The values of the normalized members are normalized values. -/
theorem mem_normalMembers {sorted members : List (String × Json)} {m : String × Json}
    (h : m ∈ normalMembers sorted members) : m ∈ sorted ∨ ∃ k ∈ members, m.2 = k.2.normal := by
  induction members generalizing sorted with
  | nil => exact .inl h
  | cons k ks ih =>
    obtain ⟨name, v⟩ := k
    obtain hput | ⟨k, hk, hm⟩ := ih h
    · obtain rfl | hsorted := mem_putMember hput
      · exact .inr ⟨(name, v), by simp, rfl⟩
      · exact .inl hsorted
    · exact .inr ⟨k, by simp [hk], hm⟩

theorem normalMembers_of_ascending {sorted members : List (String × Json)}
    (h : Ascending (sorted ++ members)) (hv : ∀ m ∈ members, m.2.normal = m.2) :
    normalMembers sorted members = sorted ++ members := by
  induction members generalizing sorted with
  | nil => rw [normalMembers, List.append_nil]
  | cons m ms ih =>
    obtain ⟨name, v⟩ := m
    have hassoc : sorted ++ (name, v) :: ms = (sorted ++ [(name, v)]) ++ ms := by simp
    rw [hassoc] at h ⊢
    have hsorted : Ascending (sorted ++ [(name, v)]) := (List.pairwise_append.mp h).1
    have hname : v.normal = v := hv (name, v) (by simp)
    rw [normalMembers, hname, putMember_of_ascending hsorted, ih h fun m hm => hv m (by simp [hm])]

/-- A document in normal form is its own. -/
theorem normal_of_isNormal {j : Json} (h : j.IsNormal) : j.normal = j := by
  induction j with
  | array items ih =>
    have hitems := isNormal_array.mp h
    rw [normal, normalItems_eq_map, List.map_congr_left fun j hj => ih j hj (hitems j hj), List.map_id']
  | object members ih =>
    obtain ⟨hascending, hmembers⟩ := isNormal_object.mp h
    have := @normalMembers_of_ascending [] members hascending fun m hm => ih m hm (hmembers m hm)
    rw [normal, this, List.nil_append]
  | _ => rfl

theorem isNormal_normal (j : Json) : j.normal.IsNormal := by
  induction j with
  | array items ih =>
    rw [normal, normalItems_eq_map, isNormal_array]
    rintro k hk
    obtain ⟨j, hj, rfl⟩ := List.mem_map.mp hk
    exact ih j hj
  | object members ih =>
    rw [normal, isNormal_object]
    refine ⟨ascending_normalMembers .nil, fun m hm => ?_⟩
    obtain hm | ⟨k, hk, hmk⟩ := mem_normalMembers hm
    · exact absurd hm (by simp)
    · rw [hmk]
      exact ih k hk
  | _ => trivial

theorem depth_normal_le {j : Json} {n : Nat} (h : j.depth ≤ n) : j.normal.depth ≤ n := by
  induction j generalizing n with
  | array items ih =>
    cases n with
    | zero => exact absurd h (by simp [depth])
    | succ n =>
      rw [depth_array_le] at h
      rw [normal, normalItems_eq_map, depth_array_le]
      rintro k hk
      obtain ⟨j, hj, rfl⟩ := List.mem_map.mp hk
      exact ih j hj (h j hj)
  | object members ih =>
    cases n with
    | zero => exact absurd h (by simp [depth])
    | succ n =>
      rw [depth_object_le] at h
      rw [normal, depth_object_le]
      intro m hm
      obtain hm | ⟨k, hk, hmk⟩ := mem_normalMembers hm
      · exact absurd hm (by simp)
      · rw [hmk]
        exact ih k hk (h k hk)
  | _ => exact h

end FeedSieve.Json
