/-!
First-in first-out queues as two lists, with the number of elements at hand.
-/
namespace MemberAuth

structure Queue (α : Type) where
  front : List α
  /-- The newest elements, newest first. -/
  back : List α
  size : Nat
  size_eq : size = front.length + back.length

namespace Queue

variable {α : Type}

def empty : Queue α :=
  ⟨[], [], 0, rfl⟩

/-- The elements, oldest first. -/
def toList (q : Queue α) : List α :=
  q.front ++ q.back.reverse

def push (q : Queue α) (a : α) : Queue α :=
  ⟨q.front, a :: q.back, q.size + 1, by simp [q.size_eq]; omega⟩

def ofList (as : List α) : Queue α :=
  ⟨as, [], as.length, rfl⟩

/-- The oldest element and the queue without it. -/
def pop? (q : Queue α) : Option (α × Queue α) :=
  match q with
  | ⟨a :: front, back, _, _⟩ => some (a, ⟨front, back, front.length + back.length, rfl⟩)
  | ⟨[], back, _, _⟩ =>
    match back.reverse with
    | [] => none
    | a :: front => some (a, ofList front)

def filter (q : Queue α) (keep : α → Bool) : Queue α :=
  ofList (q.toList.filter keep)

@[simp] theorem toList_empty : (empty : Queue α).toList = [] := rfl

@[simp] theorem toList_push (q : Queue α) (a : α) : (q.push a).toList = q.toList ++ [a] := by
  simp [toList, push]

@[simp] theorem toList_ofList (as : List α) : (ofList as).toList = as := by
  simp [toList, ofList]

@[simp] theorem toList_filter (q : Queue α) (keep : α → Bool) :
    (q.filter keep).toList = q.toList.filter keep := by
  simp [filter]

theorem size_eq_length (q : Queue α) : q.size = q.toList.length := by
  simp [toList, q.size_eq]

/-- Popping takes the head of the list. -/
theorem pop?_eq (q : Queue α) :
    q.pop?.map (fun r => (r.1, r.2.toList)) =
      match q.toList with
      | [] => none
      | a :: rest => some (a, rest) := by
  rcases q with ⟨front, back, size, h⟩
  cases front with
  | cons a front => simp [pop?, toList]
  | nil =>
    cases hb : back.reverse with
    | nil => simp [pop?, toList, hb]
    | cons a rest => simp [pop?, toList, hb, ofList]

theorem pop?_eq_none {q : Queue α} (h : q.pop? = none) : q.toList = [] := by
  have hq := q.pop?_eq
  rw [h] at hq
  cases hl : q.toList with
  | nil => rfl
  | cons a rest =>
    rw [hl] at hq
    cases hq

theorem pop?_eq_some {q rest : Queue α} {a : α} (h : q.pop? = some (a, rest)) :
    q.toList = a :: rest.toList := by
  have hq := q.pop?_eq
  rw [h] at hq
  cases hl : q.toList with
  | nil =>
    rw [hl] at hq
    cases hq
  | cons b tail =>
    rw [hl] at hq
    cases hq
    rfl

end Queue

end MemberAuth
