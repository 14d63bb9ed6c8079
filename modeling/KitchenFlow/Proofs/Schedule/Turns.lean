import KitchenFlow.Proofs.Ledger

/-!
# Taking turns at the ledger

Several users share a ledger and take turns at it, in whatever order. Each of them holds at most one
slot at a time: takes it when it is free, does what it was taken for, and then keeps the reservation
or gives it back; one who breaks down leaves it behind. `Turns` lists the turns, with the keys of
what was done; who does the next turn is left open, and so is what users do between their turns.

Two users never hold one slot, as long as the window is not empty (`Owned`), so that nobody gives
back what is another's. All that is needed of turns later on is `Serves`.
-/

namespace KitchenFlow.Ledger

/-- What a user does to the ledger in a turn, with the slot held before and after it. -/
inductive Turn (now : Instant) (window : Span) :
    Option ActionKey → Ledger → Option ActionKey → List ActionKey → Ledger → Prop where
  /-- The ledger is left alone. -/
  | idle {h l} : Turn now window h l h [] l
  /-- A slot is taken that is free. -/
  | take {k l} : l.holds now window k = false → Turn now window none l (some k) [] (l.put k now)
  /-- What the slot was taken for is done, and its reservation stays. -/
  | keep {k l} : Turn now window (some k) l none [k] l
  /-- The slot is given back. -/
  | giveBack {k l} : Turn now window (some k) l none [] (l.release k)
  /-- The slot is left behind. -/
  | strand {k l} : Turn now window (some k) l none [] l

/-- Turns in any order, with the slots held by all users before and after them. -/
inductive Turns (now : Instant) (window : Span) :
    List ActionKey → Ledger → List ActionKey → List ActionKey → Ledger → Prop where
  | nil {held l} : Turns now window held l held [] l
  | cons {before after h h' ks l l₁ held' ks' l'} : Turn now window h l h' ks l₁ →
      Turns now window (before ++ h'.toList ++ after) l₁ held' ks' l' →
      Turns now window (before ++ h.toList ++ after) l held' (ks ++ ks') l'

variable {now t : Instant} {window : Span} {l l' : Ledger} {key : ActionKey}
  {held held' ks ks' : List ActionKey}

/-- An entry stays while nobody holds its slot, and nothing is done for its key, unless it is a
window old. -/
theorem Turns.get? (h : Turns now window held l held' ks l') (hfree : key ∉ held)
    (hkey : l.get? key = some t) : window ≤ now.since t ∨ (key ∉ ks ∧ l'.get? key = some t) := by
  induction h with
  | nil => exact .inr ⟨List.not_mem_nil, hkey⟩
  | @cons before after h h' ks l l₁ held' ks' l' hturn _ ih =>
    cases hturn with
    | idle => exact ih hfree hkey
    | @take k _ hk =>
      by_cases heq : key = k
      · exact .inl (not_holds_of_get? (heq ▸ hkey) hk)
      · refine ih ?_ ((l.get?_put_of_ne now heq).trans hkey)
        simpa [heq] using hfree
    | @keep k =>
      have heq : key ≠ k := by
        rintro rfl
        simp at hfree
      refine (ih (by simpa [heq] using hfree) hkey).imp_right fun hrest => ?_
      exact ⟨by simp [heq, hrest.1], hrest.2⟩
    | @giveBack k =>
      have heq : key ≠ k := by
        rintro rfl
        simp at hfree
      exact ih (by simpa [heq] using hfree) ((l.get?_release_of_ne heq).trans hkey)
    | @strand k =>
      refine ih (fun hm => hfree ?_) hkey
      simp only [Option.toList, List.mem_append] at hm ⊢
      tauto

/-! ## Who holds a slot -/

/-- The slots held are in the ledger, and nobody else holds them. -/
structure Owned (now : Instant) (held : List ActionKey) (l : Ledger) : Prop where
  nodup : held.Nodup
  get? : ∀ k ∈ held, l.get? k = some now

theorem Owned.sublist (h : Owned now held l) (hs : held'.Sublist held) : Owned now held' l :=
  ⟨hs.nodup h.nodup, fun k hk => h.get? k (hs.mem hk)⟩

theorem Owned.perm (h : Owned now held l) (hs : held'.Perm held) : Owned now held' l :=
  ⟨hs.nodup_iff.2 h.nodup, fun k hk => h.get? k (hs.mem_iff.1 hk)⟩

/-- A slot that is free is held by nobody, and who takes it owns it. -/
theorem Owned.put (h : Owned now held l) (hw : 0 < window)
    (hfree : l.holds now window key = false) : Owned now (key :: held) (l.put key now) := by
  -- whoever holds a slot has it in force, so it is not free to take
  have hno : key ∉ held := by
    intro hm
    have hold := not_holds_of_get? (h.get? key hm) hfree
    rw [Instant.since_self] at hold
    exact Int.not_lt.2 hold hw
  refine ⟨List.nodup_cons.2 ⟨hno, h.nodup⟩, List.forall_mem_cons.2 ⟨?_, fun k hk => ?_⟩⟩
  · exact l.get?_put_self key now
  · have hne : k ≠ key := fun heq => hno (heq ▸ hk)
    rw [l.get?_put_of_ne now hne]
    exact h.get? k hk

/-- Giving a slot back leaves to the others what is theirs. -/
theorem Owned.release (h : Owned now (key :: held) l) : Owned now held (l.release key) := by
  obtain ⟨hno, hnd⟩ := List.nodup_cons.1 h.nodup
  refine ⟨hnd, fun k hk => ?_⟩
  have hne : k ≠ key := fun heq => hno (heq ▸ hk)
  rw [l.get?_release_of_ne hne]
  exact h.get? k (List.mem_cons_of_mem _ hk)

/-- What is held stays one's own, whoever does a turn. -/
theorem Turn.owned {h h' : Option ActionKey} {before after : List ActionKey}
    (hturn : Turn now window h l h' ks l') (hw : 0 < window)
    (ho : Owned now (before ++ h.toList ++ after) l) :
    Owned now (before ++ h'.toList ++ after) l' := by
  have hmiddle (k : ActionKey) :
      (before ++ (some k).toList ++ after).Perm (k :: (before ++ [] ++ after)) := by
    simp
  cases hturn with
  | idle => exact ho
  | @take k _ hk => exact (ho.put hw hk).perm (hmiddle k)
  | @giveBack k => exact (ho.perm (hmiddle k).symm).release
  | keep | strand => exact ho.sublist (by simp)

/-- What was done has an entry of the time, and is not done again. -/
theorem Turns.get?_of_mem (h : Turns now window held l held' ks l') (hw : 0 < window)
    (ho : Owned now held l) : ks.Nodup ∧ ∀ k ∈ ks, l'.get? k = some now := by
  induction h with
  | nil => exact ⟨.nil, by simp⟩
  | @cons before after h h' ks l l₁ held' ks' l' hturn hrest ih =>
    obtain ⟨hnd, hget⟩ := ih (hturn.owned hw ho)
    cases hturn with
    | @keep k =>
      simp only [Option.toList_some, List.append_assoc, List.singleton_append] at ho
      have hfree : k ∉ before ++ [] ++ after := by
        simpa using (List.nodup_cons.1 (List.nodup_middle.1 ho.nodup)).1
      -- the reservation that stays is in force, so the slot is not free any more
      have hno : ¬ window ≤ now.since now := by simpa using hw
      obtain ⟨hk, hkept⟩ := (hrest.get? hfree (ho.get? k (by simp))).resolve_left hno
      exact ⟨List.nodup_cons.2 ⟨hk, hnd⟩, List.forall_mem_cons.2 ⟨hkept, hget⟩⟩
    | idle | take | giveBack | strand => exact ⟨hnd, hget⟩

/-! ## What turns come to -/

/-- What is done to a ledger at one time, by users who take turns from when nobody holds a slot. -/
structure Serves (now : Instant) (window : Span) (l : Ledger) (ks : List ActionKey) (l' : Ledger) :
    Prop where
  /-- An entry that is not a window old stays, and nothing is done for its key. -/
  get? : ∀ key t, l.get? key = some t →
    window ≤ now.since t ∨ (key ∉ ks ∧ l'.get? key = some t)
  /-- What is done has an entry of the time. -/
  get?_of_mem : 0 < window → ∀ key ∈ ks, l'.get? key = some now
  /-- Nothing is done twice. -/
  nodup : 0 < window → ks.Nodup

theorem Turns.serves (h : Turns now window [] l held' ks l') : Serves now window l ks l' where
  get? _ _ hkey := h.get? List.not_mem_nil hkey
  get?_of_mem hw := (h.get?_of_mem hw ⟨.nil, by simp⟩).2
  nodup hw := (h.get?_of_mem hw ⟨.nil, by simp⟩).1

theorem Serves.refl (now : Instant) (window : Span) (l : Ledger) : Serves now window l [] l where
  get? _ _ hkey := .inr ⟨List.not_mem_nil, hkey⟩
  get?_of_mem _ := by simp
  nodup _ := .nil

theorem Serves.perm (h : Serves now window l ks l') (hks : ks'.Perm ks) :
    Serves now window l ks' l' where
  get? key t hkey := by
    rw [hks.mem_iff]
    exact h.get? key t hkey
  get?_of_mem hw key hm := h.get?_of_mem hw key (hks.mem_iff.1 hm)
  nodup hw := hks.nodup_iff.2 (h.nodup hw)

theorem Serves.append {l₁ : Ledger} (h : Serves now window l ks l₁)
    (h' : Serves now window l₁ ks' l') : Serves now window l (ks ++ ks') l' := by
  -- what has an entry of the time is not served again
  have hagain : 0 < window → ∀ key ∈ ks, key ∉ ks' ∧ l'.get? key = some now := fun hw key hm =>
    (h'.get? key now (h.get?_of_mem hw key hm)).resolve_left (by simpa using hw)
  refine ⟨fun key t hkey => ?_, fun hw key hm => ?_, fun hw => ?_⟩
  · rcases h.get? key t hkey with hold | ⟨hno, hkey⟩
    · exact .inl hold
    · refine (h'.get? key t hkey).imp_right fun hrest => ⟨?_, hrest.2⟩
      simp [hno, hrest.1]
  · rcases List.mem_append.1 hm with hm | hm
    · exact (hagain hw key hm).2
    · exact h'.get?_of_mem hw key hm
  · exact List.nodup_append'.2 ⟨h.nodup hw, h'.nodup hw, fun key hm => (hagain hw key hm).1⟩

end KitchenFlow.Ledger
