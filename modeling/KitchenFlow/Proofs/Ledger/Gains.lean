import KitchenFlow.Proofs.Ledger
import Mathlib.Logic.Relation

/-!
# What a ledger gains

Users of a ledger take slots at one time, and keep some of them. An `Account` lists the slots that
were taken, those of them that were not given back, and those that were asked for in vain. Beginning
with a ledger in which every reservation is in force, the account says all about the ledger that
there is in the end:

    Gains.deals       what users do one after the other is right by the account of all
    Gains.holds_iff   in force is what was so before, and what was taken and not given back

With a window that is not positive, nothing that is taken is ever in force, and two users can have
one slot. What the account says even then is `Explains`.
-/

namespace KitchenFlow.Ledger

/-! ## Accounts -/

/-- What users have had to do with a ledger. -/
structure Account where
  /-- The slots taken and not given back. -/
  slots : List ActionKey
  /-- The slots taken, whether they were given back or not. -/
  granted : List ActionKey
  /-- The slots asked for and not granted. -/
  refused : List ActionKey

namespace Account

/-- The account of somebody who has done nothing. -/
def empty : Account := ⟨[], [], []⟩

instance : Append Account :=
  ⟨fun a b => ⟨a.slots ++ b.slots, a.granted ++ b.granted, a.refused ++ b.refused⟩⟩

@[simp] theorem slots_append (a b : Account) : (a ++ b).slots = a.slots ++ b.slots := rfl

@[simp] theorem granted_append (a b : Account) : (a ++ b).granted = a.granted ++ b.granted := rfl

@[simp] theorem refused_append (a b : Account) : (a ++ b).refused = a.refused ++ b.refused := rfl

@[simp] theorem empty_append (a : Account) : empty ++ a = a := rfl

/-- The account of several together. -/
def total (l : List Account) : Account :=
  ⟨l.flatMap slots, l.flatMap granted, l.flatMap refused⟩

@[simp] theorem total_nil : total [] = empty := rfl

@[simp] theorem total_cons (a : Account) (l : List Account) : total (a :: l) = a ++ total l := rfl

@[simp] theorem total_append (l l' : List Account) : total (l ++ l') = total l ++ total l' := by
  simp only [total, List.flatMap_append]
  rfl

theorem append_assoc (a b c : Account) : a ++ b ++ c = a ++ (b ++ c) := by
  show Account.mk _ _ _ = Account.mk _ _ _
  simp only [slots_append, granted_append, refused_append, List.append_assoc]

theorem append_empty (a : Account) : a ++ empty = a := by
  obtain ⟨slots, granted, refused⟩ := a
  show Account.mk (slots ++ []) (granted ++ []) (refused ++ []) = _
  simp only [List.append_nil]

/-- Two accounts that list the same. -/
structure Perm (a b : Account) : Prop where
  slots : a.slots.Perm b.slots
  granted : a.granted.Perm b.granted
  refused : a.refused.Perm b.refused

theorem Perm.refl (a : Account) : a.Perm a := ⟨.refl _, .refl _, .refl _⟩

theorem perm_append_comm (a b : Account) : (a ++ b).Perm (b ++ a) :=
  ⟨List.perm_append_comm, List.perm_append_comm, List.perm_append_comm⟩

/-- What is new in the account of one user is new in the account of all. -/
theorem Perm.frame {b b' d : Account} (h : b'.Perm (d ++ b)) (a c : Account) :
    (a ++ (b' ++ c)).Perm (d ++ (a ++ (b ++ c))) := by
  have hmove {x x' y : List ActionKey} (h : x'.Perm (y ++ x)) (before after : List ActionKey) :
      (before ++ (x' ++ after)).Perm (y ++ (before ++ (x ++ after))) := by
    refine ((h.append_right after).append_left before).trans ?_
    rw [List.append_assoc]
    exact List.perm_append_comm_assoc before y _
  exact ⟨hmove h.slots _ _, hmove h.granted _ _, hmove h.refused _ _⟩

end Account

/-- What a user does to a ledger, with the account before and after it. -/
inductive Deal (now : Instant) (window : Span) : Account → Ledger → Account → Ledger → Prop where
  /-- Nothing is asked for or given back. -/
  | keep {a a' l} : a'.Perm a → Deal now window a l a' l
  /-- A slot is asked for that is not free. -/
  | refuse {a a' l} (k : ActionKey) : l.holds now window k = true → a'.Perm (⟨[], [], [k]⟩ ++ a) →
      Deal now window a l a' l
  /-- A slot is taken that is free. -/
  | take {a a' l} (k : ActionKey) : l.holds now window k = false → a'.Perm (⟨[k], [k], []⟩ ++ a) →
      Deal now window a l a' (l.put k now)
  /-- A slot is given back. -/
  | giveBack {a a' l} (k : ActionKey) : a.Perm (⟨[k], [], []⟩ ++ a') →
      Deal now window a l a' (l.release k)

variable {now : Instant} {window : Span} {l l₁ l' : Ledger} {a b b' c : Account} {k : ActionKey}

theorem Deal.frame (h : Deal now window b l b' l') (a c : Account) :
    Deal now window (a ++ (b ++ c)) l (a ++ (b' ++ c)) l' := by
  cases h with
  | keep hb => exact .keep (Account.Perm.frame (d := .empty) hb a c)
  | refuse k hk hb => exact .refuse k hk (hb.frame a c)
  | take k hk hb => exact .take k hk (hb.frame a c)
  | giveBack k hb => exact .giveBack k (hb.frame a c)

/-- What several users do to a ledger, one after the other. -/
def Deals (now : Instant) (window : Span) : Account × Ledger → Account × Ledger → Prop :=
  Relation.ReflTransGen fun a b => Deal now window a.1 a.2 b.1 b.2

theorem Deals.frame {p q : Account × Ledger} (h : Deals now window p q) (a c : Account) :
    Deals now window (a ++ (p.1 ++ c), p.2) (a ++ (q.1 ++ c), q.2) := by
  induction h with
  | refl => exact .refl
  | tail _ hdeal ih => exact ih.tail (hdeal.frame a c)

/-! ## Ledgers with a positive window -/

/-- What has become of a ledger, by the account of its users. -/
structure Gains (now : Instant) (window : Span) (l : Ledger) (a : Account) (l' : Ledger) :
    Prop where
  /-- At first, every reservation is in force. -/
  live : ∀ k t, l.get? k = some t → now.since t < window
  nodup : a.slots.Nodup
  /-- What was taken had no reservation before. -/
  fresh : ∀ k ∈ a.granted, l.get? k = none
  /-- What was taken and not given back is reserved. -/
  get? : ∀ k ∈ a.slots, k ∈ a.granted ∧ l'.get? k = some now
  /-- Nothing else has changed. -/
  other : ∀ k ∉ a.slots, l'.get? k = l.get? k

namespace Gains

theorem refl (h : ∀ k t, l.get? k = some t → now.since t < window) :
    Gains now window l .empty l where
  live := h
  nodup := .nil
  fresh := by simp [Account.empty]
  get? := by simp [Account.empty]
  other _ _ := rfl

theorem perm (h : Gains now window l a l') (hb : b.Perm a) : Gains now window l b l' where
  live := h.live
  nodup := hb.slots.nodup_iff.2 h.nodup
  fresh k hk := h.fresh k (hb.granted.mem_iff.1 hk)
  get? k hk := by
    rw [hb.granted.mem_iff]
    exact h.get? k (hb.slots.mem_iff.1 hk)
  other k hk := h.other k (mt hb.slots.mem_iff.2 hk)

/-- In the end, every reservation is still in force. -/
theorem live_after (h : Gains now window l a l') (hw : 0 < window) :
    ∀ k t, l'.get? k = some t → now.since t < window := by
  intro k t hk
  by_cases hslot : k ∈ a.slots
  · obtain rfl := Option.some.inj ((h.get? k hslot).2.symm.trans hk)
    rwa [Instant.since_self]
  · exact h.live k t ((h.other k hslot).symm.trans hk)

/-- In force is what was so before, and what was taken and not given back. -/
theorem holds_iff (h : Gains now window l a l') (hw : 0 < window) :
    l'.holds now window k = true ↔ l.holds now window k = true ∨ k ∈ a.slots := by
  by_cases hslot : k ∈ a.slots
  · have hholds : l'.holds now window k = true :=
      Ledger.holds_iff.2 ⟨now, (h.get? k hslot).2, by rwa [Instant.since_self]⟩
    simp [hholds, hslot]
  · rw [holds_congr (h.other k hslot)]
    simp [hslot]

/-- A slot that is free has no reservation, and nobody has taken it. -/
theorem of_free (h : Gains now window l a l') (hw : 0 < window)
    (hfree : l'.holds now window k = false) : l.get? k = none ∧ k ∉ a.slots := by
  have hnone : l'.get? k = none := by
    cases hk : l'.get? k with
    | none => rfl
    | some t =>
      exact (Int.not_lt.2 (not_holds_of_get? hk hfree) (h.live_after hw k t hk)).elim
  have hslot : k ∉ a.slots := fun hm => by
    rw [(h.get? k hm).2] at hnone
    cases hnone
  exact ⟨(h.other k hslot).symm.trans hnone, hslot⟩

/-- What one of the users does is right by the account of all. -/
theorem deal (h : Gains now window l a l₁) (hw : 0 < window) (hdeal : Deal now window a l₁ b l') :
    Gains now window l b l' := by
  cases hdeal with
  | keep hb => exact h.perm hb
  | refuse k _ hb =>
    have hmore : Gains now window l (⟨[], [], [k]⟩ ++ a) l₁ :=
      ⟨h.live, h.nodup, h.fresh, h.get?, h.other⟩
    exact hmore.perm hb
  | take k hk hb =>
    -- a slot that is free has never been reserved, so none is listed twice
    obtain ⟨hnone, hslot⟩ := h.of_free hw hk
    have hmore : Gains now window l (⟨[k], [k], []⟩ ++ a) (l₁.put k now) := by
      refine ⟨h.live, List.nodup_cons.2 ⟨hslot, h.nodup⟩, ?_, ?_, fun j hj => ?_⟩
      · intro j hj
        rcases List.mem_cons.1 hj with rfl | hj
        · exact hnone
        · exact h.fresh j hj
      · refine List.forall_mem_cons.2 ⟨⟨List.mem_cons_self, l₁.get?_put_self k now⟩, fun j hj => ?_⟩
        obtain ⟨hgranted, hget⟩ := h.get? j hj
        have hne : j ≠ k := fun heq => hslot (heq ▸ hj)
        exact ⟨List.mem_cons_of_mem _ hgranted, (l₁.get?_put_of_ne now hne).trans hget⟩
      · obtain ⟨hne, hj⟩ := not_or.1 (mt List.mem_cons.2 hj)
        exact (l₁.get?_put_of_ne now hne).trans (h.other j hj)
    exact hmore.perm hb
  | giveBack k hb =>
    have hslots : (k :: b.slots).Nodup := hb.slots.nodup_iff.1 h.nodup
    have hk : k ∈ a.slots := hb.slots.mem_iff.2 List.mem_cons_self
    obtain ⟨hno, hnd⟩ := List.nodup_cons.1 hslots
    refine ⟨h.live, hnd, fun j hj => h.fresh j (hb.granted.mem_iff.2 hj), fun j hj => ?_,
      fun j hj => ?_⟩
    · obtain ⟨hgranted, hget⟩ := h.get? j (hb.slots.mem_iff.2 (List.mem_cons_of_mem _ hj))
      have hne : j ≠ k := fun heq => hno (heq ▸ hj)
      exact ⟨hb.granted.mem_iff.1 hgranted, (l₁.get?_release_of_ne hne).trans hget⟩
    · by_cases heq : j = k
      · -- the slot was free before it was taken, and it is free again
        subst heq
        rw [get?_release_self, h.fresh j (h.get? j hk).1]
      · have hj : j ∉ a.slots := fun hm =>
          (List.mem_cons.1 (hb.slots.mem_iff.1 hm)).elim heq hj
        exact (l₁.get?_release_of_ne heq).trans (h.other j hj)

theorem deals (h : Deals now window (.empty, l) (a, l')) (hw : 0 < window)
    (hlive : ∀ k t, l.get? k = some t → now.since t < window) : Gains now window l a l' := by
  have hgo : ∀ b, Deals now window (.empty, l) b → Gains now window l b.1 b.2 := by
    intro b h
    induction h with
    | refl => exact .refl hlive
    | tail _ hdeal ih => exact ih.deal hw hdeal
  exact hgo _ h

end Gains

/-! ## Ledgers with any window -/

/-- What can be told of a ledger by the account of its users, whether or not reservations are ever
in force. -/
structure Explains (a : Account) (l l' : Ledger) : Prop where
  /-- What was not given back had been taken. -/
  taken : ∀ k ∈ a.slots, k ∈ a.granted
  /-- What nobody took has not changed. -/
  other : ∀ k ∉ a.granted, l'.get? k = l.get? k
  /-- What was taken and is reserved was not given back by everybody. -/
  kept : ∀ k ∈ a.granted, l'.get? k ≠ none → k ∈ a.slots
  /-- What was refused had a reservation before, or was taken by somebody. -/
  refused : ∀ k ∈ a.refused, l.get? k ≠ none ∨ k ∈ a.granted

namespace Explains

theorem refl (l : Ledger) : Explains .empty l l where
  taken := by simp [Account.empty]
  other _ _ := rfl
  kept := by simp [Account.empty]
  refused := by simp [Account.empty]

theorem perm (h : Explains a l l') (hb : b.Perm a) : Explains b l l' where
  taken k hk := hb.granted.mem_iff.2 (h.taken k (hb.slots.mem_iff.1 hk))
  other k hk := h.other k (mt hb.granted.mem_iff.2 hk)
  kept k hk hget := hb.slots.mem_iff.2 (h.kept k (hb.granted.mem_iff.1 hk) hget)
  refused k hk := (h.refused k (hb.refused.mem_iff.1 hk)).imp_right hb.granted.mem_iff.2

/-- What one of the users does is explained by the account of all. -/
theorem deal (h : Explains a l l₁) (hdeal : Deal now window a l₁ b l') : Explains b l l' := by
  cases hdeal with
  | keep hb => exact h.perm hb
  | refuse k hk hb =>
    have hmore : Explains (⟨[], [], [k]⟩ ++ a) l l₁ := by
      refine ⟨h.taken, h.other, h.kept, List.forall_mem_cons.2 ⟨?_, h.refused⟩⟩
      -- what is in force was reserved from the beginning, unless somebody took it since
      by_cases hgranted : k ∈ a.granted
      · exact .inr hgranted
      · obtain ⟨t, ht, -⟩ := Ledger.holds_iff.1 hk
        rw [h.other k hgranted] at ht
        exact .inl (ht ▸ Option.some_ne_none t)
    exact hmore.perm hb
  | take k _ hb =>
    have hmore : Explains (⟨[k], [k], []⟩ ++ a) l (l₁.put k now) := by
      refine ⟨List.forall_mem_cons.2 ⟨List.mem_cons_self, fun j hj => ?_⟩, fun j hj => ?_,
        List.forall_mem_cons.2 ⟨fun _ => List.mem_cons_self, fun j hj hget => ?_⟩, fun j hj => ?_⟩
      · exact List.mem_cons_of_mem _ (h.taken j hj)
      · obtain ⟨hne, hj⟩ := not_or.1 (mt List.mem_cons.2 hj)
        exact (l₁.get?_put_of_ne now hne).trans (h.other j hj)
      · by_cases heq : j = k
        · exact heq ▸ List.mem_cons_self
        · rw [l₁.get?_put_of_ne now heq] at hget
          exact List.mem_cons_of_mem _ (h.kept j hj hget)
      · exact (h.refused j hj).imp_right (List.mem_cons_of_mem _)
    exact hmore.perm hb
  | giveBack k hb =>
    have hgranted (j : ActionKey) : j ∈ a.granted ↔ j ∈ b.granted := hb.granted.mem_iff
    have hk : k ∈ b.granted :=
      (hgranted k).1 (h.taken k (hb.slots.mem_iff.2 List.mem_cons_self))
    refine ⟨fun j hj => ?_, fun j hj => ?_, fun j hj hget => ?_, fun j hj => ?_⟩
    · exact (hgranted j).1 (h.taken j (hb.slots.mem_iff.2 (List.mem_cons_of_mem _ hj)))
    · have hne : j ≠ k := fun heq => hj (heq ▸ hk)
      exact (l₁.get?_release_of_ne hne).trans (h.other j (mt (hgranted j).1 hj))
    · have hne : j ≠ k := by
        rintro rfl
        exact hget (get?_release_self l₁ j)
      rw [l₁.get?_release_of_ne hne] at hget
      have hslot := hb.slots.mem_iff.1 (h.kept j ((hgranted j).2 hj) hget)
      exact (List.mem_cons.1 hslot).resolve_left hne
    · exact (h.refused j (hb.refused.mem_iff.2 hj)).imp_right (hgranted j).1

theorem deals (h : Deals now window (.empty, l) (a, l')) : Explains a l l' := by
  have hgo : ∀ b, Deals now window (.empty, l) b → Explains b.1 l b.2 := by
    intro b h
    induction h with
    | refl => exact .refl l
    | tail _ hdeal ih => exact ih.deal hdeal
  exact hgo _ h

end Explains
end KitchenFlow.Ledger
