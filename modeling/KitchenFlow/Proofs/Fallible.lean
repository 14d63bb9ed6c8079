import Mathlib.Data.List.Forall2

/-!
# Computations that can fail

When a chain of computations that can fail succeeds, each of its parts did; a computation made for
every entry of a list succeeds if it does for each. Two chains end alike if part by part they do.
-/

namespace KitchenFlow.Fallible

variable {ε α β γ δ : Type}

theorem bind_eq_ok_iff {x : Except ε α} {f : α → Except ε β} {b : β} :
    (x >>= f) = .ok b ↔ ∃ a, x = .ok a ∧ f a = .ok b := by
  cases x with
  | error e =>
    constructor
    · intro h
      cases h
    · rintro ⟨a, ha, -⟩
      cases ha
  | ok a =>
    constructor
    · intro h
      exact ⟨a, rfl, h⟩
    · rintro ⟨a, ha, h⟩
      cases ha
      exact h

theorem bind_eq_error_iff {x : Except ε α} {f : α → Except ε β} {e : ε} :
    (x >>= f) = .error e ↔ x = .error e ∨ ∃ a, x = .ok a ∧ f a = .error e := by
  cases x with
  | error e' =>
    constructor
    · intro h
      cases h
      exact .inl rfl
    · rintro (h | ⟨a, ha, -⟩)
      · cases h
        rfl
      · cases ha
  | ok a =>
    constructor
    · exact fun h => .inr ⟨a, rfl, h⟩
    · rintro (h | ⟨a, ha, h⟩)
      · cases h
      · cases ha
        exact h

theorem map_eq_ok_iff {x : Except ε α} {f : α → β} {b : β} :
    x.map f = .ok b ↔ ∃ a, x = .ok a ∧ f a = b := by
  cases x <;> simp [Except.map]

theorem exists_map_eq_ok_iff {x : Except ε α} {f : α → β} :
    (∃ b, x.map f = .ok b) ↔ ∃ a, x = .ok a := by
  cases x <;> simp [Except.map]

theorem map_eq_error_iff {x : Except ε α} {f : α → β} {e : ε} :
    x.map f = .error e ↔ x = .error e := by
  cases x <;> simp [Except.map]

theorem toOption_eq_some_iff {x : Except ε α} {a : α} : x.toOption = some a ↔ x = .ok a := by
  cases x <;> simp [Except.toOption]

theorem mapM_cons {f : α → Except ε β} {a : α} {as : List α} :
    (a :: as).mapM f = f a >>= fun b => as.mapM f >>= fun bs => .ok (b :: bs) :=
  List.mapM_cons

/-- A computation is made for all entries exactly when it succeeds with each. -/
theorem mapM_eq_ok_iff {f : α → Except ε β} {as : List α} {bs : List β} :
    as.mapM f = .ok bs ↔ List.Forall₂ (fun a b => f a = .ok b) as bs := by
  induction as generalizing bs with
  | nil =>
    rw [List.mapM_nil, List.forall₂_nil_left_iff]
    exact ⟨fun h => by cases h; rfl, fun h => h ▸ rfl⟩
  | cons a as ih =>
    rw [mapM_cons, bind_eq_ok_iff]
    simp only [bind_eq_ok_iff, ih, List.forall₂_cons_left_iff, Except.ok.injEq]
    constructor
    · rintro ⟨b, hb, bs, hbs, rfl⟩
      exact ⟨b, bs, hb, hbs, rfl⟩
    · rintro ⟨b, bs, hb, hbs, rfl⟩
      exact ⟨b, hb, bs, hbs, rfl⟩

theorem exists_mapM_eq_ok_iff {f : α → Except ε β} {as : List α} :
    (∃ bs, as.mapM f = .ok bs) ↔ ∀ a ∈ as, ∃ b, f a = .ok b := by
  simp only [mapM_eq_ok_iff]
  induction as with
  | nil => simp
  | cons a as ih =>
    simp only [List.forall₂_cons_left_iff, List.mem_cons, forall_eq_or_imp, ← ih]
    constructor
    · rintro ⟨_, b, bs, hb, hbs, rfl⟩
      exact ⟨⟨b, hb⟩, bs, hbs⟩
    · rintro ⟨⟨b, hb⟩, bs, hbs⟩
      exact ⟨b :: bs, b, bs, hb, hbs, rfl⟩

/-- The first entry with `Q` is at the head of a list, or `P` holds there and it is in the rest. -/
theorem exists_first_cons_iff {P Q : α → Prop} {a : α} {as : List α} :
    (∃ before c after, a :: as = before ++ c :: after ∧ (∀ d ∈ before, P d) ∧ Q c) ↔
      Q a ∨ P a ∧ ∃ before c after, as = before ++ c :: after ∧ (∀ d ∈ before, P d) ∧ Q c := by
  constructor
  · rintro ⟨before, c, after, heq, hbefore, hc⟩
    rcases List.cons_eq_append_iff.1 heq with ⟨rfl, hcons⟩ | ⟨rest, rfl, rfl⟩
    · obtain ⟨rfl, -⟩ := List.cons.inj hcons
      exact .inl hc
    · obtain ⟨ha, hrest⟩ := List.forall_mem_cons.1 hbefore
      exact .inr ⟨ha, rest, c, after, rfl, hrest, hc⟩
  · rintro (ha | ⟨ha, before, c, after, rfl, hbefore, hc⟩)
    · exact ⟨[], a, as, rfl, List.forall_mem_nil _, ha⟩
    · exact ⟨a :: before, c, after, rfl, List.forall_mem_cons.2 ⟨ha, hbefore⟩, hc⟩

/-- A computation for all entries fails with the first entry that it fails with. -/
theorem mapM_eq_error_iff {f : α → Except ε β} {as : List α} {e : ε} :
    as.mapM f = .error e ↔
      ∃ before a after, as = before ++ a :: after ∧ (∀ c ∈ before, ∃ b, f c = .ok b) ∧
        f a = .error e := by
  induction as with
  | nil => simp [pure, Except.pure]
  | cons a as ih =>
    rw [exists_first_cons_iff, ← ih, mapM_cons, bind_eq_error_iff]
    refine or_congr_right ⟨?_, ?_⟩
    · rintro ⟨b, hb, h⟩
      rcases bind_eq_error_iff.1 h with h | ⟨bs, -, h⟩
      · exact ⟨⟨b, hb⟩, h⟩
      · cases h
    · rintro ⟨⟨b, hb⟩, h⟩
      exact ⟨b, hb, bind_eq_error_iff.2 (.inl h)⟩

/-- When a computation keeps what it is made for, so does the computation for all entries. -/
theorem mapM_eq_ok_iff_map {f : α → Except ε β} {p : β → α} {Q : β → Prop}
    (hf : ∀ a b, f a = .ok b ↔ p b = a ∧ Q b) {as : List α} {bs : List β} :
    as.mapM f = .ok bs ↔ bs.map p = as ∧ ∀ b ∈ bs, Q b := by
  rw [mapM_eq_ok_iff]
  simp only [hf]
  constructor
  · intro h
    induction h with
    | nil => simp
    | cons hb _ ih =>
      refine ⟨?_, List.forall_mem_cons.2 ⟨hb.2, ih.2⟩⟩
      rw [List.map_cons, hb.1, ih.1]
  · rintro ⟨rfl, h⟩
    exact List.forall₂_map_left_iff.2 (List.forall₂_same.2 fun b hb => ⟨rfl, h b hb⟩)

/-- Every result is the result of something. -/
theorem exists_mem_of_forall₂ {R : α → β → Prop} {as : List α} {bs : List β}
    (h : List.Forall₂ R as bs) {b : β} (hb : b ∈ bs) : ∃ a ∈ as, R a b := by
  induction h with
  | nil => cases hb
  | @cons a c _ _ hac _ ih =>
    rcases List.mem_cons.1 hb with rfl | hb
    · exact ⟨a, List.mem_cons_self, hac⟩
    · obtain ⟨x, hx, hxb⟩ := ih hb
      exact ⟨x, List.mem_cons_of_mem _ hx, hxb⟩

/-- A computation is made for the entries of a vector as it is for those of a list. -/
theorem map_toList_mapM {n : Nat} {f : α → Except ε β} (v : Vector α n) :
    (v.mapM f).map Vector.toList = v.toList.mapM f := by
  have harray : Vector.toArray <$> v.mapM f = v.toArray.mapM f := Vector.toArray_mapM
  have hlist : Array.toList <$> v.toArray.mapM f = v.toList.mapM f := Array.toList_mapM
  rw [← hlist, ← harray]
  cases v.mapM f <;> rfl

/-! ## Computations that end alike -/

/-- Two computations end alike: both succeed, with results that stand in a relation, or both fail
in the same way. -/
inductive Alike (R : α → β → Prop) : Except ε α → Except ε β → Prop
  | ok {a : α} {b : β} (h : R a b) : Alike R (.ok a) (.ok b)
  | error (e : ε) : Alike R (.error e) (.error e)

namespace Alike

variable {R : α → β → Prop} {S : γ → δ → Prop} {x : Except ε α} {y : Except ε β}

theorem refl (x : Except ε α) : Alike Eq x x := by
  cases x with
  | error e => exact .error e
  | ok a => exact .ok rfl

theorem of_map_eq {p : α → β} (h : x.map p = y) : Alike (fun a b => p a = b) x y := by
  subst h
  cases x with
  | error e => exact .error e
  | ok a => exact .ok rfl

theorem imp {Q : α → β → Prop} (h : Alike R x y) (hQ : ∀ a b, R a b → Q a b) : Alike Q x y := by
  cases h with
  | ok h => exact .ok (hQ _ _ h)
  | error e => exact .error e

/-- What is related are the results. -/
theorem and_results (h : Alike R x y) :
    Alike (fun a b => R a b ∧ x = .ok a ∧ y = .ok b) x y := by
  cases h with
  | ok h => exact .ok ⟨h, rfl, rfl⟩
  | error e => exact .error e

/-- Computations end alike if their first parts do, and then what follows does. -/
theorem bind {f : α → Except ε γ} {g : β → Except ε δ} (h : Alike R x y)
    (hf : ∀ a b, R a b → Alike S (f a) (g b)) : Alike S (x >>= f) (y >>= g) := by
  cases h with
  | ok h => exact hf _ _ h
  | error e => exact .error e

theorem bind_ok {f : α → γ} {S : γ → β → Prop} (h : Alike R x y)
    (hf : ∀ a b, R a b → S (f a) b) : Alike S (x >>= fun a => .ok (f a)) y := by
  cases h with
  | ok h => exact .ok (hf _ _ h)
  | error e => exact .error e

theorem exists_eq_ok {b : β} (h : Alike R x (.ok b)) : ∃ a, x = .ok a ∧ R a b := by
  cases h with
  | ok h => exact ⟨_, rfl, h⟩

end Alike

end KitchenFlow.Fallible
