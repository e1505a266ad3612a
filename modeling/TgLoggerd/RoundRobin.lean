import Mathlib.Data.List.Nodup

/-!
A round robin over a queue. One pass takes entries from the front, drops those
that are no longer live, serves the others and puts each of them back at the
rear, until it has served its share or looked at every entry it found. On the
live entries a pass is a rotation by what it served, so passes that serve as
many as there are live entries serve them all.
-/

namespace RoundRobin

variable {Item : Type} (live : Item → Bool)

/-- The entries served and the queue left. `scan` entries may still be looked at
and `share` be served. -/
def pass : Nat → Nat → List Item → List Item × List Item
  | 0, _, queue => ([], queue)
  | _ + 1, 0, queue => ([], queue)
  | _ + 1, _ + 1, [] => ([], [])
  | scan + 1, share + 1, item :: others =>
      if live item then
        let (served, queue) := pass scan share (others ++ [item])
        (item :: served, queue)
      else pass scan (share + 1) others

/-- The entries in front of which a pass stops. -/
def unseen : Nat → List Item → List Item
  | 0, queue => queue
  | _ + 1, [] => []
  | share + 1, item :: others =>
      if live item then unseen share others else unseen (share + 1) others

def served (share : Nat) (queue : List Item) : List Item := (queue.filter live).take share

theorem pass_pending (share : Nat) (pending back : List Item) :
    pass live pending.length share (pending ++ back) =
      (served live share pending, unseen live share pending ++ back ++ served live share pending) := by
  induction pending generalizing share back with
  | nil => cases share <;> simp [pass, unseen, served]
  | cons item others ih =>
      cases share with
      | zero => simp [pass, unseen, served]
      | succ share =>
          by_cases alive : live item
          · have next := ih share (back ++ [item])
            simp only [List.length_cons, List.cons_append, pass, alive, ↓reduceIte, unseen,
              List.append_assoc]
            rw [next]
            simp [served, alive]
          · have next := ih (share + 1) back
            simp only [List.length_cons, List.cons_append, pass, alive, Bool.false_eq_true,
              ↓reduceIte, unseen]
            rw [next]
            simp [served, alive]

/-- A pass over the whole queue. -/
theorem pass_whole (share : Nat) (queue : List Item) :
    pass live queue.length share queue =
      (served live share queue, unseen live share queue ++ served live share queue) := by
  simpa using pass_pending live share queue []

/-- What a pass looks at are the entries it serves and the dead ones between
them; it looks at all of them unless it serves its share. -/
theorem unseen_split (share : Nat) (queue : List Item) :
    ∃ seen, queue = seen ++ unseen live share queue ∧
      seen.filter live = served live share queue ∧
      (unseen live share queue = [] ∨ (served live share queue).length = share) := by
  induction queue generalizing share with
  | nil => cases share <;> exact ⟨[], by simp [unseen, served]⟩
  | cons item others ih =>
      cases share with
      | zero => exact ⟨[], by simp [unseen, served]⟩
      | succ share =>
          by_cases alive : live item
          · obtain ⟨seen, split, same, all⟩ := ih share
            refine ⟨item :: seen, ?_, ?_, ?_⟩
            · simp only [unseen, alive, ↓reduceIte, List.cons_append]
              rw [← split]
            · simp [served, alive, same]
            · simpa [unseen, served, alive] using all
          · obtain ⟨seen, split, same, all⟩ := ih (share + 1)
            refine ⟨item :: seen, ?_, ?_, ?_⟩
            · simp only [unseen, alive, Bool.false_eq_true, ↓reduceIte, List.cons_append]
              rw [← split]
            · simp [served, alive, same]
            · simpa [unseen, served, alive] using all

theorem filter_unseen (share : Nat) (queue : List Item) :
    (unseen live share queue).filter live = (queue.filter live).drop share := by
  induction queue generalizing share with
  | nil => cases share <;> simp [unseen]
  | cons item others ih =>
      cases share with
      | zero => simp [unseen]
      | succ share => by_cases alive : live item <;> simp [unseen, alive, ih]

/-- On the live entries a pass is a rotation. -/
theorem filter_pass (share : Nat) (queue : List Item) :
    (pass live queue.length share queue).2.filter live =
      (queue.filter live).drop share ++ (queue.filter live).take share := by
  have same : (served live share queue).filter live = served live share queue := by
    rw [List.filter_eq_self]
    intro item member
    exact (List.mem_filter.mp (List.mem_of_mem_take member)).2
  rw [pass_whole, List.filter_append, filter_unseen, same, served]

/-- A live entry is served by the first of some passes or its place moves up by
what that pass serves. -/
theorem mem_round (share rounds : Nat) (entries : List Item) (item : Item)
    (member : item ∈ entries.take ((rounds + 1) * share)) :
    item ∈ entries.take share ∨
      item ∈ (entries.drop share ++ entries.take share).take (rounds * share) := by
  rw [Nat.succ_mul, Nat.add_comm, List.take_add] at member
  rcases List.mem_append.mp member with now | later
  · exact Or.inl now
  · refine Or.inr ?_
    rw [List.take_append]
    exact List.mem_append_left _ later

theorem mem_pass (share : Nat) (queue : List Item) (item : Item)
    (member : item ∈ (pass live queue.length share queue).2) : item ∈ queue := by
  obtain ⟨seen, split, same, _⟩ := unseen_split live share queue
  rw [pass_whole, ← same] at member
  rw [split]
  rcases List.mem_append.mp member with rest | again
  · exact List.mem_append_right _ rest
  · exact List.mem_append_left _ (List.mem_of_mem_filter again)

theorem nodup_pass (share : Nat) (queue : List Item) (distinct : queue.Nodup) :
    (pass live queue.length share queue).2.Nodup := by
  obtain ⟨seen, split, same, _⟩ := unseen_split live share queue
  rw [pass_whole]
  rw [split] at distinct
  have parts := List.nodup_append.mp distinct
  refine List.nodup_append.mpr ⟨parts.2.1, ?_, ?_⟩
  · rw [← same]
    exact parts.1.filter _
  · intro item left other right
    rw [← same] at right
    exact (parts.2.2 other (List.mem_of_mem_filter right) item left).symm

end RoundRobin
