import MemberAuth.Proofs.Member.Fields
import MemberAuth.Proofs.Store.Stakes
import MemberAuth.Store.Opening

/-!
# A store as a map

What a store is meant to be: a map from login ids to members that knows the id it gave out last, and
takes up again after the highest id in it when it is opened anew. In every run of operations on such
a map, as long as the ids last, each new member has a higher id than all before it.
-/
namespace MemberAuth.Store

/-- What is asked of a store. -/
inductive Operation
  | insert (m : NewMember)
  | find (loginId : String)
  | update (loginId passwordHash : String)
  /-- Opening the store again on the disk that it leaves. -/
  | reopen
  deriving DecidableEq

inductive Answer
  | inserted (result : Except Failure Member)
  | found (result : Except Failure (Option Member))
  | updated (result : Except Failure Unit)
  | reopened (result : Except OpenError Unit)
  deriving DecidableEq

def Operation.isInsertion : Operation → Bool
  | insert _ => true
  | _ => false

/-- The id of a new member. -/
def Answer.newId? : Answer → Option Int64
  | inserted (.ok m) => some m.id
  | _ => none

/-- The operations of a run with their answers. -/
def exchanges {σ : Type} (carryOut : Operation → σ → σ × Answer) :
    σ → List Operation → List (Operation × Answer)
  | _, [] => []
  | s, o :: rest => (o, (carryOut o s).2) :: exchanges carryOut (carryOut o s).1 rest

/-- The ids of the new members of a run, in order. -/
def newIds (run : List (Operation × Answer)) : List Int64 :=
  run.filterMap fun (_, answer) => answer.newId?

structure Roster where
  members : Std.ExtTreeMap String Member
  /-- The id given out last, even if no member came to have it. -/
  lastId : Int64

namespace Roster

def empty : Roster :=
  ⟨∅, 0⟩

/-- Whether some member has the address, in any case. -/
def hasEmail (r : Roster) (email : String) : Bool :=
  r.members.toList.any fun (_, m) => emailKey m.email == emailKey email

def ids (r : Roster) : List Int64 :=
  r.members.toList.map fun (_, m) => m.id

def insert (r : Roster) (m : NewMember) : Roster × Except Failure Member :=
  let id := r.lastId + 1
  if r.hasEmail m.email.text then
    ({ r with lastId := id }, .error (.duplicateMember m.email.text))
  else if r.members[m.loginId.text]?.isSome then
    ({ r with lastId := id }, .error (.duplicateMember m.loginId.text))
  else (⟨r.members.insert m.loginId.text (m.withId id), id⟩, .ok (m.withId id))

def update (r : Roster) (loginId passwordHash : String) : Roster × Except Failure Unit :=
  match r.members[loginId]? with
  | none => (r, .error .memberNotFound)
  | some m => ({ r with members := r.members.insert loginId { m with passwordHash } }, .ok ())

/-- The highest id of a member, or zero. -/
def highest (r : Roster) : Int64 :=
  r.ids.foldl max 0

def carryOut : Operation → Roster → Roster × Answer
  | .insert m, r => ((r.insert m).1, .inserted (r.insert m).2)
  | .find loginId, r => (r, .found (.ok r.members[loginId]?))
  | .update loginId passwordHash, r =>
    ((r.update loginId passwordHash).1, .updated (r.update loginId passwordHash).2)
  | .reopen, r => ({ r with lastId := r.highest }, .reopened (.ok ()))

variable {r : Roster}

theorem getElem?_insert (members : Std.ExtTreeMap String Member) (key loginId : String)
    (m : Member) :
    (members.insert key m)[loginId]? = if key = loginId then some m else members[loginId]? := by
  simp only [Std.ExtTreeMap.getElem?_insert, Std.LawfulEqCmp.compare_eq_iff_eq]

theorem hasEmail_iff {email : String} :
    r.hasEmail email = true ↔
      ∃ (loginId : String) (m : Member), r.members[loginId]? = some m ∧
        emailKey m.email = emailKey email := by
  simp only [hasEmail, List.any_eq_true, Prod.exists, beq_iff_eq,
    Std.ExtTreeMap.mem_toList_iff_getElem?_eq_some]

/-- A new member joins if nobody has its address and nobody its login id. -/
theorem insert_eq_ok {new : NewMember} {m : Member} :
    (r.insert new).2 = .ok m ↔ r.hasEmail new.email.text = false ∧
      r.members[new.loginId.text]? = none ∧ m = new.withId (r.lastId + 1) := by
  rw [insert]
  split
  · rename_i used
    simp [used]
  rename_i unused
  cases r.members[new.loginId.text]? with
  | some old => simp
  | none => simp [unused, eq_comm]

/-- The address is looked at before the login id. -/
theorem insert_eq_error {new : NewMember} {e : Failure} :
    (r.insert new).2 = .error e ↔
      r.hasEmail new.email.text = true ∧ e = .duplicateMember new.email.text ∨
        r.hasEmail new.email.text = false ∧ (∃ old, r.members[new.loginId.text]? = some old) ∧
          e = .duplicateMember new.loginId.text := by
  rw [insert]
  split
  · rename_i used
    simp [used, eq_comm]
  rename_i unused
  cases r.members[new.loginId.text]? with
  | some old => simp [unused, eq_comm]
  | none => simp [unused]

theorem members_of_insert_ok {new : NewMember} {m : Member} (h : (r.insert new).2 = .ok m) :
    (r.insert new).1.members = r.members.insert m.loginId m := by
  obtain ⟨unused, free, rfl⟩ := insert_eq_ok.mp h
  simp [insert, unused, free, NewMember.withId]

theorem members_of_insert_error {new : NewMember} {e : Failure} (h : (r.insert new).2 = .error e) :
    (r.insert new).1.members = r.members := by
  rcases insert_eq_error.mp h with ⟨used, _⟩ | ⟨unused, ⟨old, present⟩, _⟩
  · simp [insert, used]
  · simp [insert, unused, present]

theorem mem_ids {i : Int64} :
    i ∈ r.ids ↔ ∃ (loginId : String) (m : Member), r.members[loginId]? = some m ∧ m.id = i := by
  simp only [ids, List.mem_map, Prod.exists, Std.ExtTreeMap.mem_toList_iff_getElem?_eq_some]

end Roster

instance instLawfulOrderMaxInt64 : Std.LawfulOrderMax Int64 := by
  have either : ∀ a b : Int64, max a b = if a ≤ b then b else a := fun _ _ => rfl
  refine .of_max_le_iff (fun a b c => ?_) fun a b => ?_
  · rw [either]
    split
    · rename_i le
      exact ⟨fun h => ⟨Int64.le_trans le h, h⟩, fun h => h.2⟩
    · rename_i gt
      have ge : b ≤ a := Int64.le_of_lt (Int64.not_le.mp gt)
      exact ⟨fun h => ⟨h, Int64.le_trans ge h⟩, fun h => h.1⟩
  · rw [either]
    split
    · exact Or.inr rfl
    · exact Or.inl rfl

/-- The highest of some ids and zero depends only on which ids there are. -/
theorem foldl_max_eq {ids : List Int64} {i : Int64} :
    ids.foldl max 0 = i ↔ i ∈ 0 :: ids ∧ ∀ j ∈ 0 :: ids, j ≤ i := by
  rw [← List.max?_eq_some_iff, List.max?_cons', Option.some.injEq]

theorem toInt_succ {i : Int64} (low : 0 ≤ i) (high : i < Int64.maxValue) :
    (i + 1).toInt = i.toInt + 1 := by
  have low : 0 ≤ i.toInt := Int64.le_iff_toInt_le.mp low
  have high : i.toInt < Int64.maxValue.toInt := Int64.lt_iff_toInt_lt.mp high
  rw [Int64.toInt_maxValue] at high
  rw [Int64.toInt_add]
  exact Int.bmod_eq_of_le (by simp; omega) (by simp; omega)

theorem lt_succ {i : Int64} (low : 0 ≤ i) (high : i < Int64.maxValue) : i < i + 1 := by
  rw [Int64.lt_iff_toInt_lt, toInt_succ low high]
  omega

namespace Roster

/-- Every member has a login id of its own and an id among those given out, of which there are at
most a certain number. -/
structure Sound (r : Roster) (given : Nat) : Prop where
  own : ∀ (loginId : String) (m : Member), r.members[loginId]? = some m →
    m.loginId = loginId ∧ LoginId.check loginId = .ok ()
  ids : ∀ i ∈ r.ids, i ≤ r.lastId
  low : 0 ≤ r.lastId
  high : r.lastId.toInt ≤ given

theorem sound_empty : empty.Sound 0 := by
  have none : ∀ (loginId : String) (m : Member), empty.members[loginId]? ≠ some m := by
    simp [empty]
  refine ⟨fun loginId m hm => absurd hm (none loginId m), fun i hi => ?_, by decide, by decide⟩
  obtain ⟨loginId, m, hm, _⟩ := mem_ids.mp hi
  exact absurd hm (none loginId m)

variable {r : Roster} {given : Nat}

theorem highest_eq {i : Int64} : r.highest = i ↔ i ∈ 0 :: r.ids ∧ ∀ j ∈ 0 :: r.ids, j ≤ i :=
  foldl_max_eq

theorem zero_le_highest (r : Roster) : 0 ≤ r.highest :=
  (highest_eq.mp rfl).2 0 List.mem_cons_self

theorem le_highest {i : Int64} (h : i ∈ r.ids) : i ≤ r.highest :=
  (highest_eq.mp rfl).2 i (List.mem_cons_of_mem 0 h)

namespace Sound

theorem highest_le (h : r.Sound given) : r.highest ≤ r.lastId := by
  rcases List.mem_cons.mp (highest_eq.mp rfl).1 with zero | mem
  · rw [zero]
    exact h.low
  · exact h.ids _ mem

theorem renumber (h : r.Sound given) {i : Int64} {given' : Nat} (ids : ∀ j ∈ r.ids, j ≤ i)
    (low : 0 ≤ i) (high : i.toInt ≤ given') : Sound { r with lastId := i } given' :=
  ⟨h.own, ids, low, high⟩

theorem put (h : r.Sound given) {m : Member} (valid : LoginId.check m.loginId = .ok ())
    (id : m.id ≤ r.lastId) : Sound { r with members := r.members.insert m.loginId m } given := by
  refine ⟨fun loginId m' hm => ?_, fun i hi => ?_, h.low, h.high⟩
  · rw [getElem?_insert] at hm
    split at hm
    · rename_i same
      cases hm
      exact ⟨same, same ▸ valid⟩
    · exact h.own loginId m' hm
  · obtain ⟨loginId, m', hm, rfl⟩ := mem_ids.mp hi
    rw [getElem?_insert] at hm
    split at hm
    · cases hm
      exact id
    · exact h.ids m'.id (mem_ids.mpr ⟨loginId, m', hm, rfl⟩)

/-- The id after the last one. -/
theorem next (h : r.Sound given) (few : given < 2 ^ 63 - 1) :
    r.lastId < r.lastId + 1 ∧ Sound { r with lastId := r.lastId + 1 } (given + 1) := by
  have high : r.lastId < Int64.maxValue := by
    have := h.high
    rw [Int64.lt_iff_toInt_lt, Int64.toInt_maxValue]
    omega
  have above := lt_succ h.low high
  refine ⟨above, h.renumber (fun j hj => ?_) ?_ ?_⟩
  · exact Int64.le_of_lt (Int64.lt_of_le_of_lt (h.ids j hj) above)
  · exact Int64.le_of_lt (Int64.lt_of_le_of_lt h.low above)
  · rw [toInt_succ h.low high]
    have := h.high
    omega

theorem insert (h : r.Sound given) (few : given < 2 ^ 63 - 1) (m : NewMember) :
    (r.insert m).1.Sound (given + 1) := by
  have numbered := (h.next few).2
  rw [Roster.insert]
  split
  · exact numbered
  split
  · exact numbered
  · have valid : LoginId.check (m.withId (r.lastId + 1)).loginId = .ok () := m.loginId.valid
    exact numbered.put valid (Int64.le_refl _)

theorem update (h : r.Sound given) (loginId passwordHash : String) :
    (r.update loginId passwordHash).1.Sound given := by
  rw [Roster.update]
  split
  · exact h
  · rename_i m hm
    obtain ⟨rfl, valid⟩ := h.own loginId m hm
    have id : m.id ≤ r.lastId := h.ids m.id (mem_ids.mpr ⟨m.loginId, m, hm, rfl⟩)
    exact h.put (m := { m with passwordHash }) valid id

theorem reopen (h : r.Sound given) : Sound { r with lastId := r.highest } given := by
  have high : r.highest.toInt ≤ given :=
    Int.le_trans (Int64.le_iff_toInt_le.mp h.highest_le) h.high
  exact h.renumber (fun j hj => le_highest hj) r.zero_le_highest high

theorem carryOut (h : r.Sound given) (few : given < 2 ^ 63 - 1) (o : Operation) :
    (carryOut o r).1.Sound (given + if o.isInsertion then 1 else 0) := by
  cases o with
  | insert m => exact h.insert few m
  | find loginId => exact h
  | update loginId passwordHash => exact h.update loginId passwordHash
  | reopen => exact h.reopen

end Sound

/-- A new member takes nobody's place. -/
theorem members_insert {loginId : String} {m : Member} (h : r.members[loginId]? = some m)
    (new : NewMember) : (r.insert new).1.members[loginId]? = some m := by
  rw [Roster.insert]
  split
  · exact h
  split
  · exact h
  · rename_i free
    have other : new.loginId.text ≠ loginId := by
      rintro rfl
      rw [h] at free
      exact free rfl
    rw [getElem?_insert, if_neg other]
    exact h

/-- A change of password changes nothing but a password hash. -/
theorem members_update {loginId : String} {m : Member} (h : r.members[loginId]? = some m)
    (key new : String) : ∃ passwordHash,
      (r.update key new).1.members[loginId]? = some { m with passwordHash } := by
  rw [Roster.update]
  split
  · exact ⟨m.passwordHash, h⟩
  · rename_i old hold
    by_cases same : key = loginId
    · subst same
      rw [h] at hold
      cases hold
      exact ⟨new, by rw [getElem?_insert, if_pos rfl]⟩
    · exact ⟨m.passwordHash, by rw [getElem?_insert, if_neg same, h]⟩

/-- No operation takes an id away. -/
theorem ids_carryOut (o : Operation) {i : Int64} (h : i ∈ r.ids) : i ∈ (carryOut o r).1.ids := by
  obtain ⟨loginId, m, hm, rfl⟩ := mem_ids.mp h
  rw [mem_ids]
  cases o with
  | insert new => exact ⟨loginId, m, members_insert hm new, rfl⟩
  | find other => exact ⟨loginId, m, hm, rfl⟩
  | update other new =>
    obtain ⟨passwordHash, hm⟩ := members_update hm other new
    exact ⟨loginId, { m with passwordHash }, hm, rfl⟩
  | reopen => exact ⟨loginId, m, hm, rfl⟩

/-- A new member has the id after the last one. -/
theorem newId_carryOut {o : Operation} {i : Int64}
    (h : (carryOut o r).2.newId? = some i) : i = r.lastId + 1 ∧ i ∈ (carryOut o r).1.ids := by
  cases o with
  | insert m =>
    rw [carryOut, Roster.insert] at h ⊢
    split at h
    · cases h
    rename_i unused
    split at h
    · cases h
    rename_i free
    cases h
    rw [if_neg unused, if_neg free]
    refine ⟨rfl, mem_ids.mpr ⟨m.loginId.text, m.withId (r.lastId + 1), ?_, rfl⟩⟩
    rw [getElem?_insert, if_pos rfl]
  | find loginId => cases h
  | update loginId passwordHash => cases h
  | reopen => cases h

/-- As long as the ids last, each new member of a run has a higher id than those before it. -/
theorem newIds_increasing {ops : List Operation} (h : r.Sound given)
    (few : given + ops.countP Operation.isInsertion < 2 ^ 63 - 1) :
    (newIds (exchanges (carryOut) r ops)).Pairwise (· < ·) ∧
      ∀ i ∈ newIds (exchanges (carryOut) r ops), ∀ j ∈ r.ids, j < i := by
  induction ops generalizing r given with
  | nil => exact ⟨List.Pairwise.nil, by simp [newIds, exchanges]⟩
  | cons o rest ih =>
    rw [List.countP_cons] at few
    have now : given < 2 ^ 63 - 1 := by omega
    obtain ⟨increasing, above⟩ := ih (h.carryOut now o) (by omega)
    rw [exchanges, newIds, List.filterMap_cons]
    split
    · exact ⟨increasing, fun i hi j hj => above i hi j (ids_carryOut o hj)⟩
    · rename_i i hi
      obtain ⟨rfl, mem⟩ := newId_carryOut hi
      refine ⟨List.pairwise_cons.mpr ⟨fun j hj => above j hj _ mem, increasing⟩, ?_⟩
      intro j hj k hk
      rcases List.mem_cons.mp hj with rfl | hj
      · exact Int64.lt_of_le_of_lt (h.ids k hk) (h.next now).1
      · exact above j hj k (ids_carryOut o hk)

/-- What holds of each operation on a sound map holds throughout a run. -/
theorem forall_exchanges {p : Operation × Answer → Prop}
    (each : ∀ (r : Roster) (given : Nat) (o : Operation), r.Sound given → p (o, (carryOut o r).2))
    {ops : List Operation} (h : r.Sound given)
    (few : given + ops.countP Operation.isInsertion < 2 ^ 63 - 1) :
    ∀ x ∈ exchanges (carryOut) r ops, p x := by
  induction ops generalizing r given with
  | nil => simp [exchanges]
  | cons o rest ih =>
    rw [List.countP_cons] at few
    intro x hx
    rcases List.mem_cons.mp hx with rfl | hx
    · exact each r given o h
    · exact ih (h.carryOut (by omega) o) (by omega) x hx

/-- A text that is no login id is not found. -/
theorem Sound.find_malformed (h : r.Sound given) {loginId : String}
    (malformed : LoginId.check loginId ≠ .ok ()) : r.members[loginId]? = none := by
  rw [Option.eq_none_iff_forall_ne_some]
  intro m hm
  exact malformed (h.own loginId m hm).2

end Roster

end MemberAuth.Store
