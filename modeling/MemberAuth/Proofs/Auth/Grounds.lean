import MemberAuth.Auth.Gate

/-!
# What cached entries rest on

Decisions go side by side with whatever replaces stored hashes and evicts members, and a member is
settled while no replacement of its hash still wants its eviction. An entry is backed if the grounds
of the decision that wrote it hold now. A step may take away the grounds of decisions about members
that are not settled, but no member is settled anew in the same epoch. Hence what was concluded in
the present epoch still holds, and the entries of settled members are backed at every moment. Which
worlds these are, and what counts as grounds, is left open.
-/
namespace MemberAuth

/-- What matters of a world. Its decisions are told apart by the elements of a type. -/
structure View (δ : Type) where
  cache : Cache
  /-- No replacement of the member's hash wants an eviction. -/
  settled : String → Prop
  /-- The decision is over, and has written this slot for the login id. -/
  made : δ → String → Slot → Prop
  /-- The decision would be right to let in someone under the login id. -/
  grounds : δ → String → Identity → Prop

namespace View

variable {δ : Type}

/-- Whoever the slot lets in is let in rightly by the decision that has written it. -/
def Backed (v : View δ) (loginId : String) (slot : Slot) : Prop :=
  ∃ d, v.made d loginId slot ∧ v.grounds d loginId slot.credential.identity

def Founded (v : View δ) : Prop :=
  ∀ (loginId : String) (slot : Slot), v.cache.slots[loginId]? = some slot → v.settled loginId →
    v.Backed loginId slot

/-- A verdict in favour of someone that was reached in the present epoch still holds. -/
def Holds (v : View δ) (d : δ) (loginId : String) (epoch : Nat)
    (verdict : Except VerifyFailure Identity) : Prop :=
  ∀ who, verdict = .ok who → epoch = v.cache.epoch → v.settled loginId → v.grounds d loginId who

/-- A step after which decisions and entries are as well founded as before: a member is settled anew
only in a later epoch. -/
structure Advances (v v' : View δ) : Prop where
  epoch : v.cache.epoch ≤ v'.cache.epoch
  settled : ∀ loginId, v'.settled loginId →
    v.settled loginId ∨ v.cache.epoch < v'.cache.epoch
  made : ∀ d loginId slot, v.made d loginId slot → v'.made d loginId slot
  grounds : ∀ d loginId who, v'.settled loginId → v.grounds d loginId who →
    v'.grounds d loginId who

variable {v v' : View δ}

theorem Backed.advance {loginId : String} {slot : Slot} (h : v.Backed loginId slot)
    (adv : v.Advances v') (settled : v'.settled loginId) : v'.Backed loginId slot := by
  obtain ⟨d, made, grounds⟩ := h
  exact ⟨d, adv.made d loginId slot made, adv.grounds d loginId _ settled grounds⟩

theorem Holds.advance {d : δ} {loginId : String} {epoch : Nat}
    {verdict : Except VerifyFailure Identity} (h : v.Holds d loginId epoch verdict)
    (adv : v.Advances v') (behind : epoch ≤ v.cache.epoch) :
    v'.Holds d loginId epoch verdict := by
  intro who good present settled
  -- The snapshot is the present epoch, so no eviction has come in between.
  have same : v.cache.epoch = v'.cache.epoch := Nat.le_antisymm adv.epoch (present ▸ behind)
  have before : v.settled loginId := by
    rcases adv.settled loginId settled with before | later
    · exact before
    · omega
  exact adv.grounds d loginId who settled (h who good (present.trans same.symm) before)

theorem Founded.advance (h : v.Founded) (adv : v.Advances v')
    (entries : ∀ (loginId : String) (slot : Slot), v'.cache.slots[loginId]? = some slot →
      v'.settled loginId →
      (v.cache.slots[loginId]? = some slot ∧ v.settled loginId) ∨ v'.Backed loginId slot) :
    v'.Founded := by
  intro loginId slot resident settled
  rcases entries loginId slot resident settled with ⟨old, before⟩ | new
  · exact (h loginId slot old before).advance adv settled
  · exact new

end View

section Turn

variable {α : Type} {before after : List α} {t u : α}

/-- What is in the list after a turn was in it before, or is what the turn put there. -/
theorem mem_of_mem_turn {t' : α} (h : u ∈ before ++ t' :: after) :
    u ∈ before ++ t :: after ∨ u = t' := by
  rcases List.mem_append.mp h with h | h
  · exact Or.inl (List.mem_append_left _ h)
  rcases List.mem_cons.mp h with h | h
  · exact Or.inr h
  · exact Or.inl (List.mem_append_right _ (List.mem_cons_of_mem _ h))

/-- A turn leaves all the others in their places. -/
theorem getElem?_of_turn (t' : α) {place : Nat} (h : (before ++ t :: after)[place]? = some u) :
    (place = before.length ∧ u = t) ∨ (before ++ t' :: after)[place]? = some u := by
  rcases Nat.lt_trichotomy place before.length with front | rfl | back
  · refine Or.inr ?_
    rw [List.getElem?_append_left front] at h ⊢
    exact h
  · rw [List.getElem?_append_right (Nat.le_refl _), Nat.sub_self] at h
    exact Or.inl ⟨rfl, (Option.some.inj h).symm⟩
  · refine Or.inr ?_
    obtain ⟨n, rfl⟩ := Nat.exists_eq_add_of_lt back
    rw [List.getElem?_append_right (by omega)] at h ⊢
    have offset : before.length + n + 1 - before.length = n + 1 := by omega
    rw [offset, List.getElem?_cons_succ] at h ⊢
    exact h

/-- What is in the list after an arrival was there before, or has just arrived. -/
theorem getElem?_of_arrival {tasks : List α} {place : Nat} (h : (tasks ++ [t])[place]? = some u) :
    tasks[place]? = some u ∨ u = t := by
  rcases Nat.lt_or_ge place tasks.length with front | back
  · rw [List.getElem?_append_left front] at h
    exact Or.inl h
  · rw [List.getElem?_append_right back] at h
    exact Or.inr (List.mem_singleton.mp (List.mem_of_getElem? h))

end Turn

end MemberAuth
