/-! Results that are a value or an error. What a step does after a value or after an error is settled
by the first four equations; a chain of steps that gave a value is taken apart by the last ones. -/

namespace FeedSieve

variable {ε ε' α β : Type}

@[simp] theorem ok_bind (a : α) (f : α → Except ε β) : (Except.ok a >>= f) = f a := rfl

@[simp] theorem error_bind (e : ε) (f : α → Except ε β) : (Except.error e >>= f) = .error e := rfl

@[simp] theorem pure_eq_ok (a : α) : (pure a : Except ε α) = .ok a := rfl

@[simp] theorem throw_eq_error (e : ε) : (throw e : Except ε α) = .error e := rfl

@[simp] theorem map_ok (f : α → β) (a : α) : (Except.ok a : Except ε α).map f = .ok (f a) := rfl

@[simp] theorem map_error (f : α → β) (e : ε) : (Except.error e : Except ε α).map f = .error e := rfl

@[simp] theorem mapError_ok (f : ε → ε') (a : α) : (Except.ok a : Except ε α).mapError f = .ok a := rfl

@[simp] theorem mapError_error (f : ε → ε') (e : ε) :
    (Except.error e : Except ε α).mapError f = .error (f e) := rfl

theorem bind_eq_ok {x : Except ε α} {f : α → Except ε β} {b : β} :
    (x >>= f) = .ok b ↔ ∃ a, x = .ok a ∧ f a = .ok b := by
  cases x <;> simp

theorem map_eq_ok {x : Except ε α} {f : α → β} {b : β} :
    x.map f = .ok b ↔ ∃ a, x = .ok a ∧ f a = b := by
  cases x <;> simp

theorem mapError_eq_ok {x : Except ε α} {f : ε → ε'} {a : α} : x.mapError f = .ok a ↔ x = .ok a := by
  cases x <;> simp

theorem mapError_eq_error {x : Except ε α} {f : ε → ε'} {e : ε'} :
    x.mapError f = .error e ↔ ∃ e', x = .error e' ∧ f e' = e := by
  cases x <;> simp

theorem exists_of_isOk {x : Except ε α} (h : x.isOk = true) : ∃ a, x = .ok a := by
  cases x with
  | error e => exact absurd h (by simp [Except.isOk, Except.toBool])
  | ok a => exact ⟨a, rfl⟩

/-- Where a value is known to be given in one case and an error in the other, the result tells which case it is. -/
theorem iff_of_decided {x : Except ε α} {p : Prop} {q : ε → Prop} (h : p ∨ ∃ e, q e) (hp : p → ∃ a, x = .ok a)
    (hq : ∀ e, q e → x = .error e) : ((∃ a, x = .ok a) ↔ p) ∧ ∀ e, x = .error e ↔ q e := by
  obtain h | ⟨e, he⟩ := h
  · obtain ⟨a, rfl⟩ := hp h
    exact ⟨iff_of_true ⟨a, rfl⟩ h, fun e => iff_of_false (by simp) fun he => by simpa using hq e he⟩
  · obtain rfl := hq e he
    refine ⟨iff_of_false (by simp) fun h => by simpa using hp h, fun e' => ⟨?_, hq e'⟩⟩
    rintro ⟨⟩
    exact he

theorem mapM_cons_eq_ok {f : α → Except ε β} {a : α} {as : List α} {bs : List β} :
    (a :: as).mapM f = .ok bs ↔ ∃ b bs', f a = .ok b ∧ as.mapM f = .ok bs' ∧ bs = b :: bs' := by
  rw [List.mapM_cons]
  cases f a with
  | error e => simp
  | ok b => cases as.mapM f <;> simp [eq_comm]

theorem exists_mapM_eq_ok_iff {f : α → Except ε β} {as : List α} :
    (∃ bs, as.mapM f = .ok bs) ↔ ∀ a ∈ as, ∃ b, f a = .ok b := by
  induction as with
  | nil => simp
  | cons a as ih =>
    rw [List.forall_mem_cons, ← ih]
    simp only [mapM_cons_eq_ok]
    constructor
    · rintro ⟨-, b, bs, hb, hbs, -⟩
      exact ⟨⟨b, hb⟩, bs, hbs⟩
    · rintro ⟨⟨b, hb⟩, bs, hbs⟩
      exact ⟨b :: bs, b, bs, hb, hbs, rfl⟩

/-- An element of the one kind behind elements of the other kind is the head, or it is in the tail and the head is of
the other kind. -/
theorem exists_first_cons_iff {p q : α → Prop} {c : α} {cs : List α} :
    (∃ before a after, c :: cs = before ++ a :: after ∧ (∀ b ∈ before, p b) ∧ q a) ↔
      q c ∨ p c ∧ ∃ before a after, cs = before ++ a :: after ∧ (∀ b ∈ before, p b) ∧ q a := by
  constructor
  · rintro ⟨_ | ⟨b, before⟩, a, after, hcs, hbefore, ha⟩
    · obtain ⟨rfl, rfl⟩ := List.cons.inj hcs
      exact .inl ha
    · obtain ⟨rfl, rfl⟩ := List.cons.inj hcs
      obtain ⟨hc, hbefore⟩ := List.forall_mem_cons.mp hbefore
      exact .inr ⟨hc, before, a, after, rfl, hbefore, ha⟩
  · rintro (hc | ⟨hc, before, a, after, rfl, hbefore, ha⟩)
    · exact ⟨[], c, cs, rfl, by simp, hc⟩
    · exact ⟨c :: before, a, after, rfl, List.forall_mem_cons.mpr ⟨hc, hbefore⟩, ha⟩

/-- A chain of steps fails with the error of the first step that does, whatever comes after it. -/
theorem mapM_eq_error_iff {f : α → Except ε β} {as : List α} {e : ε} : as.mapM f = .error e ↔
    ∃ before a after, as = before ++ a :: after ∧ (∀ b ∈ before, ∃ r, f b = .ok r) ∧ f a = .error e := by
  induction as with
  | nil => simp
  | cons c cs ih =>
    rw [List.mapM_cons, exists_first_cons_iff, ← ih]
    cases f c with
    | error e' => simp
    | ok r => cases cs.mapM f <;> simp

theorem filterMap_of_mapM_eq_ok {f : α → Except ε β} {as : List α} {bs : List β} (h : as.mapM f = .ok bs) :
    as.filterMap (fun a => (f a).toOption) = bs := by
  induction as generalizing bs with
  | nil => exact Except.ok.inj h
  | cons a as ih =>
    obtain ⟨b, bs, hb, hbs, rfl⟩ := mapM_cons_eq_ok.mp h
    rw [List.filterMap_cons, hb, ih hbs]
    rfl

/-- An element may be exchanged for one that gives the same. -/
theorem mapM_middle {f : α → Except ε β} {a a' : α} (h : ∀ b, f a = .ok b ↔ f a' = .ok b)
    (before after : List α) (bs : List β) :
    (before ++ a :: after).mapM f = .ok bs ↔ (before ++ a' :: after).mapM f = .ok bs := by
  induction before generalizing bs with
  | nil => simp only [List.nil_append, mapM_cons_eq_ok, h]
  | cons c cs ih => simp only [List.cons_append, mapM_cons_eq_ok, ih]

/-- The result of an element stands in its place. -/
theorem exists_of_mapM_middle {f : α → Except ε β} {before after : List α} {a : α} {bs : List β}
    (h : (before ++ a :: after).mapM f = .ok bs) : ∃ b, bs[before.length]? = some b ∧ f a = .ok b := by
  induction before generalizing bs with
  | nil =>
    obtain ⟨b, bs, hb, -, rfl⟩ := mapM_cons_eq_ok.mp h
    exact ⟨b, rfl, hb⟩
  | cons c cs ih =>
    obtain ⟨b, bs, -, hbs, rfl⟩ := mapM_cons_eq_ok.mp h
    exact ih hbs

theorem mapM_map_eq_ok {f : β → Except ε α} {g : α → β} {as : List α} (h : ∀ a ∈ as, f (g a) = .ok a) :
    (as.map g).mapM f = .ok as := by
  induction as with
  | nil => rfl
  | cons a as ih =>
    rw [List.map_cons, List.mapM_cons, h a (by simp), ih fun b hb => h b (by simp [hb])]
    rfl

theorem mapM_eq_ok_self {f : α → Except ε α} {as : List α} (h : ∀ a ∈ as, f a = .ok a) : as.mapM f = .ok as := by
  have hmap := mapM_map_eq_ok (g := id) h
  rwa [List.map_id] at hmap

/-- Of the results of a list some has a property if some element has the one that corresponds to it. -/
theorem any_of_mapM_eq_ok {f : α → Except ε β} {p : α → Prop} {q : β → Bool} {as : List α} {bs : List β}
    (h : as.mapM f = .ok bs) (hpq : ∀ a ∈ as, ∀ b, f a = .ok b → (q b = true ↔ p a)) :
    bs.any q = true ↔ ∃ a ∈ as, p a := by
  induction as generalizing bs with
  | nil =>
    obtain rfl : bs = [] := (Except.ok.inj h).symm
    simp
  | cons a as ih =>
    obtain ⟨b, bs, ha, has, rfl⟩ := mapM_cons_eq_ok.mp h
    have hhead := hpq a (by simp) b ha
    have htail := ih has fun c hc => hpq c (by simp [hc])
    simp only [List.any_cons, Bool.or_eq_true, hhead, htail, List.mem_cons, exists_eq_or_imp]

theorem length_of_mapM_eq_ok {f : α → Except ε β} {as : List α} {bs : List β} (h : as.mapM f = .ok bs) :
    bs.length = as.length := by
  induction as generalizing bs with
  | nil =>
    obtain rfl : bs = [] := (Except.ok.inj h).symm
    rfl
  | cons a as ih =>
    obtain ⟨b, bs, -, has, rfl⟩ := mapM_cons_eq_ok.mp h
    rw [List.length_cons, ih has, List.length_cons]

end FeedSieve
