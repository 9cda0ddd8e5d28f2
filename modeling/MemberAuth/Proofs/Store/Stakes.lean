import MemberAuth.Proofs.Member.Wire
import MemberAuth.Proofs.Store.Sites
import MemberAuth.Store.Members

/-!
# Who owns which file

While registrations and password changes are under way, every temporary file and every reservation
without a document belongs to exactly one of them. What one of them holds is its stake. The moves
below are what an operation may do to the files and to its own stake; each leaves the stakes of all
others as good as they were.
-/
namespace MemberAuth.Store

/-- The files of the store, with the documents read. -/
structure Catalog where
  documents : String → Option Member
  reservations : String → Option String
  temporaries : Nat → Option String

def Catalog.contents (c : Catalog) : Contents
  | .document loginId => (c.documents loginId).map Member.document
  | .reservation key => c.reservations key
  | .temporary n => c.temporaries n

namespace Catalog

variable (c : Catalog)

theorem contents_temporary (n : Nat) (text : Option String) :
    contents { c with temporaries := Function.update c.temporaries n text } =
      Function.update c.contents (.temporary n) text := by
  funext x
  cases x with
  | document loginId => rfl
  | reservation key => rfl
  | temporary i => simp [contents, Function.update_apply]

theorem contents_reservation (key : String) (loginId : Option String) :
    contents { c with reservations := Function.update c.reservations key loginId } =
      Function.update c.contents (.reservation key) loginId := by
  funext x
  cases x with
  | document id => rfl
  | reservation other => simp [contents, Function.update_apply]
  | temporary n => rfl

theorem contents_document (loginId : String) (m : Member) :
    contents { c with documents := Function.update c.documents loginId (some m) } =
      Function.update c.contents (.document loginId) (some m.document) := by
  funext x
  cases x with
  | document id =>
    by_cases he : id = loginId
    · simp [contents, he]
    · simp [contents, he]
  | reservation key => rfl
  | temporary n => rfl

end Catalog

/-- What an operation holds while it is under way. -/
structure Stake where
  /-- The place of its id in the row of ids. -/
  ticket : Option Nat := none
  /-- The number of its temporary path, and the text of the file there. -/
  aside : Option (Nat × Option String) := none
  /-- A reservation without a document: the address and the login id. -/
  reserved : Option (String × String) := none
  /-- A member that it has read. -/
  known : Option Member := none
  /-- The member whose document it has put in place. -/
  published : Option Member := none

/-- The id at a place in the row. -/
def idAt (i : Nat) : Int64 :=
  Int64.ofNat (i + 1)

/-- The spelling of an address under which it is reserved. -/
def emailKey (email : String) : String :=
  String.ofList (email.toList.map Text.asciiLower)

/-- The number of ids that were taken. -/
def tickets (ks : List Stake) : Nat :=
  ks.countP (·.ticket.isSome)

theorem tickets_cons_of_none {k : Stake} (absent : k.ticket = none) (ks : List Stake) :
    tickets (k :: ks) = tickets ks :=
  List.countP_cons_of_neg (by rw [absent]; simp)

theorem tickets_cons_take (k : Stake) (i : Nat) (ks : List Stake) :
    tickets ({ k with ticket := some i } :: ks) = tickets ks + 1 :=
  List.countP_cons_of_pos rfl

namespace Stake

/-- The files bear a stake out. -/
structure Backed (k : Stake) (taken fresh : Nat) (c : Catalog) : Prop where
  ticket : ∀ i, k.ticket = some i → i < taken
  aside : ∀ n text, k.aside = some (n, text) → n < fresh ∧ c.temporaries n = text
  reserved : ∀ key loginId, k.reserved = some (key, loginId) →
    c.reservations key = some loginId ∧
      ∀ other m, c.documents other = some m → emailKey m.email ≠ key
  member : ∀ m, k.known = some m ∨ k.published = some m →
    ∃ passwordHash, c.documents m.loginId = some { m with passwordHash }

/-- Two stakes have nothing in common. -/
structure Apart (j k : Stake) : Prop where
  ticket : ∀ i, j.ticket = some i → k.ticket ≠ some i
  aside : ∀ n text other, j.aside = some (n, text) → k.aside ≠ some (n, other)
  reserved : ∀ key loginId other, j.reserved = some (key, loginId) →
    k.reserved ≠ some (key, other)

theorem Apart.symm {j k : Stake} (h : Apart j k) : Apart k j :=
  ⟨fun i hk hj => h.ticket i hj hk, fun n text other hk hj => h.aside n other text hj hk,
    fun key loginId other hk hj => h.reserved key other loginId hj hk⟩

/-- The stake is of the registration that made a member. -/
def Made (k : Stake) (m : Member) : Prop :=
  ∃ i p, k.ticket = some i ∧ k.published = some p ∧ p.loginId = m.loginId ∧ m.id = idAt i

end Stake

open Stake

/-- The files are as the operations under way have them. -/
structure Tidy (fresh : Nat) (c : Catalog) (ks : List Stake) : Prop where
  documents : ∀ loginId m, c.documents loginId = some m → m.loginId = loginId ∧
    LoginId.check loginId = .ok () ∧ c.reservations (emailKey m.email) = some loginId ∧
      ∃ k ∈ ks, k.Made m
  reservations : ∀ key loginId, c.reservations key = some loginId →
    (∃ m, c.documents loginId = some m ∧ emailKey m.email = key) ∨
      ∃ k ∈ ks, k.reserved = some (key, loginId)
  temporaries : ∀ n text, c.temporaries n = some text → ∃ k ∈ ks, k.aside = some (n, some text)
  backed : ∀ k ∈ ks, k.Backed (tickets ks) fresh c
  apart : ks.Pairwise Apart

namespace Tidy

variable {fresh : Nat} {c : Catalog} {k : Stake} {ks : List Stake}

theorem perm (h : Tidy fresh c ks) {js : List Stake} (p : ks.Perm js) : Tidy fresh c js := by
  have count : tickets js = tickets ks := p.symm.countP_eq _
  constructor
  · intro loginId m hm
    obtain ⟨own, valid, reserved, k, hk, made⟩ := h.documents loginId m hm
    exact ⟨own, valid, reserved, k, p.mem_iff.mp hk, made⟩
  · intro key loginId hr
    rcases h.reservations key loginId hr with document | ⟨k, hk, reserved⟩
    · exact Or.inl document
    · exact Or.inr ⟨k, p.mem_iff.mp hk, reserved⟩
  · intro n text hn
    obtain ⟨k, hk, aside⟩ := h.temporaries n text hn
    exact ⟨k, p.mem_iff.mp hk, aside⟩
  · intro k hk
    rw [count]
    exact h.backed k (p.mem_iff.mpr hk)
  · exact (p.pairwise_iff fun {_ _} apart => apart.symm).mp h.apart

theorem documents_cons (h : Tidy fresh c (k :: ks)) {loginId : String} {m : Member}
    (hm : c.documents loginId = some m) : m.loginId = loginId ∧ LoginId.check loginId = .ok () ∧
      c.reservations (emailKey m.email) = some loginId ∧ (k.Made m ∨ ∃ j ∈ ks, j.Made m) := by
  obtain ⟨own, valid, reserved, made⟩ := h.documents loginId m hm
  exact ⟨own, valid, reserved, (List.exists_mem_cons_iff ..).mp made⟩

theorem reservations_cons (h : Tidy fresh c (k :: ks)) {key loginId : String}
    (hr : c.reservations key = some loginId) :
    (∃ m, c.documents loginId = some m ∧ emailKey m.email = key) ∨
      k.reserved = some (key, loginId) ∨ ∃ j ∈ ks, j.reserved = some (key, loginId) :=
  (h.reservations key loginId hr).imp_right (List.exists_mem_cons_iff ..).mp

theorem temporaries_cons (h : Tidy fresh c (k :: ks)) {n : Nat} {text : String}
    (hn : c.temporaries n = some text) :
    k.aside = some (n, some text) ∨ ∃ j ∈ ks, j.aside = some (n, some text) :=
  (List.exists_mem_cons_iff ..).mp (h.temporaries n text hn)

/-- One operation changes its stake, and perhaps the files. -/
theorem move (h : Tidy fresh c (k :: ks)) {fresh' : Nat} {c' : Catalog} {k' : Stake}
    (documents : ∀ loginId m, c'.documents loginId = some m → m.loginId = loginId ∧
      LoginId.check loginId = .ok () ∧ c'.reservations (emailKey m.email) = some loginId ∧
        (k'.Made m ∨ ∃ j ∈ ks, j.Made m))
    (reservations : ∀ key loginId, c'.reservations key = some loginId →
      (∃ m, c'.documents loginId = some m ∧ emailKey m.email = key) ∨
        k'.reserved = some (key, loginId) ∨ ∃ j ∈ ks, j.reserved = some (key, loginId))
    (temporaries : ∀ n text, c'.temporaries n = some text →
      k'.aside = some (n, some text) ∨ ∃ j ∈ ks, j.aside = some (n, some text))
    (mine : k.Backed (tickets (k :: ks)) fresh c → k'.Backed (tickets (k' :: ks)) fresh' c')
    (others : ∀ j, Apart k j → j.Backed (tickets (k :: ks)) fresh c →
      j.Backed (tickets (k' :: ks)) fresh' c')
    (apart : ∀ j, Apart k j → j.Backed (tickets (k :: ks)) fresh c → Apart k' j) :
    Tidy fresh' c' (k' :: ks) := by
  obtain ⟨first, rest⟩ := List.pairwise_cons.mp h.apart
  have backed := fun j hj => h.backed j (List.mem_cons_of_mem k hj)
  constructor
  · intro loginId m hm
    obtain ⟨own, valid, reserved, made⟩ := documents loginId m hm
    exact ⟨own, valid, reserved, (List.exists_mem_cons_iff ..).mpr made⟩
  · intro key loginId hr
    exact (reservations key loginId hr).imp_right (List.exists_mem_cons_iff ..).mpr
  · intro n text hn
    exact (List.exists_mem_cons_iff ..).mpr (temporaries n text hn)
  · intro j hj
    rcases List.mem_cons.mp hj with rfl | hj
    · exact mine (h.backed k List.mem_cons_self)
    · exact others j (first j hj) (backed j hj)
  · exact List.pairwise_cons.mpr ⟨fun j hj => apart j (first j hj) (backed j hj), rest⟩

/-- An operation arrives, with nothing yet. -/
theorem join (h : Tidy fresh c ks) : Tidy fresh c ({} :: ks) := by
  refine ⟨fun loginId m hm => ?_, fun key loginId hr => ?_, fun n text hn => ?_, fun k hk => ?_,
    List.pairwise_cons.mpr ⟨fun k _ => ⟨?_, ?_, ?_⟩, h.apart⟩⟩
  · obtain ⟨own, valid, reserved, k, hk, made⟩ := h.documents loginId m hm
    exact ⟨own, valid, reserved, k, List.mem_cons_of_mem _ hk, made⟩
  · refine (h.reservations key loginId hr).imp_right ?_
    rintro ⟨k, hk, held⟩
    exact ⟨k, List.mem_cons_of_mem _ hk, held⟩
  · obtain ⟨k, hk, held⟩ := h.temporaries n text hn
    exact ⟨k, List.mem_cons_of_mem _ hk, held⟩
  · rw [tickets_cons_of_none rfl]
    rcases List.mem_cons.mp hk with rfl | hk
    · exact ⟨by simp, by simp, by simp, by simp⟩
    · exact h.backed k hk
  · simp
  · simp
  · simp

/-- Taking an id. -/
theorem take (h : Tidy fresh c (k :: ks)) (absent : k.ticket = none) :
    Tidy fresh c ({ k with ticket := some (tickets (k :: ks)) } :: ks) := by
  have count := tickets_cons_of_none absent ks
  refine h.move (fun loginId m hm => ?_) (fun key loginId hr => h.reservations_cons hr)
    (fun n text hn => h.temporaries_cons hn) (fun b => ?_) (fun j _ b => ?_)
    (fun j apart b => ?_)
  · obtain ⟨own, valid, reserved, made⟩ := h.documents_cons hm
    refine ⟨own, valid, reserved, Or.inr (made.resolve_left ?_)⟩
    rintro ⟨i, p, ticket, _⟩
    rw [absent] at ticket
    cases ticket
  · refine ⟨fun i hi => ?_, b.aside, b.reserved, b.member⟩
    cases hi
    rw [tickets_cons_take, count]
    exact Nat.lt_succ_self _
  · refine ⟨fun i hi => ?_, b.aside, b.reserved, b.member⟩
    have := b.ticket i hi
    rw [tickets_cons_take]
    omega
  · refine ⟨fun i hi hj => ?_, apart.aside, apart.reserved⟩
    cases hi
    exact absurd (b.ticket _ hj) (Nat.lt_irrefl _)

/-- Choosing a temporary path that was not in use. -/
theorem name (h : Tidy fresh c (k :: ks)) (empty : ∀ n text, k.aside ≠ some (n, some text)) :
    Tidy (fresh + 1) c ({ k with aside := some (fresh, none) } :: ks) := by
  have unused : c.temporaries fresh = none := by
    rw [Option.eq_none_iff_forall_ne_some]
    intro text ht
    obtain ⟨j, hj, aside⟩ := h.temporaries fresh text ht
    exact absurd ((h.backed j hj).aside fresh _ aside).1 (Nat.lt_irrefl _)
  refine h.move (fun loginId m hm => h.documents_cons hm)
    (fun key loginId hr => h.reservations_cons hr)
    (fun n text hn => Or.inr ((h.temporaries_cons hn).resolve_left (empty n text)))
    (fun b => ?_) (fun j _ b => ?_) (fun j apart b => ?_)
  · refine ⟨b.ticket, fun n text ht => ?_, b.reserved, b.member⟩
    cases ht
    exact ⟨Nat.lt_succ_self _, unused⟩
  · refine ⟨b.ticket, fun n text ht => ?_, b.reserved, b.member⟩
    exact ⟨Nat.lt_succ_of_lt (b.aside n text ht).1, (b.aside n text ht).2⟩
  · refine ⟨apart.ticket, fun n text other hn hj => ?_, apart.reserved⟩
    cases hn
    exact absurd (b.aside fresh other hj).1 (Nat.lt_irrefl _)

/-- Writing or removing one's temporary file. -/
theorem fill (h : Tidy fresh c (k :: ks)) {n : Nat} {old : Option String}
    (aside : k.aside = some (n, old)) (text : Option String) :
    Tidy fresh { c with temporaries := Function.update c.temporaries n text }
      ({ k with aside := some (n, text) } :: ks) := by
  refine h.move (fun loginId m hm => h.documents_cons hm)
    (fun key loginId hr => h.reservations_cons hr) (fun n' text' hn => ?_)
    (fun b => ?_) (fun j apart b => ?_) (fun j apart b => ?_)
  · dsimp only at hn
    by_cases he : n' = n
    · rw [he, Function.update_self] at hn
      exact Or.inl (by rw [he, hn])
    · rw [Function.update_of_ne he] at hn
      refine Or.inr ((h.temporaries_cons hn).resolve_left fun same => he ?_)
      rw [aside] at same
      cases same
      rfl
  · refine ⟨b.ticket, fun n' text' ht => ?_, b.reserved, b.member⟩
    cases ht
    exact ⟨(b.aside n old aside).1, Function.update_self ..⟩
  · refine ⟨b.ticket, fun n' text' ht => ?_, b.reserved, b.member⟩
    have other : n' ≠ n := by
      rintro rfl
      exact apart.aside n' old text' aside ht
    obtain ⟨old, held⟩ := b.aside n' text' ht
    exact ⟨old, (Function.update_of_ne other ..).trans held⟩
  · refine ⟨apart.ticket, fun n' text' other hn hj => ?_, apart.reserved⟩
    cases hn
    exact apart.aside n old other aside hj

/-- Reserving an address that no one has. -/
theorem reserve (h : Tidy fresh c (k :: ks)) (absent : k.reserved = none) {key : String}
    (unheld : c.reservations key = none) (loginId : String) :
    Tidy fresh { c with reservations := Function.update c.reservations key (some loginId) }
      ({ k with reserved := some (key, loginId) } :: ks) := by
  have other : ∀ {key' loginId'}, c.reservations key' = some loginId' → key' ≠ key := by
    rintro key' loginId' hr rfl
    rw [unheld] at hr
    cases hr
  refine h.move (fun id m hm => ?_) (fun key' id hr => ?_)
    (fun n text hn => h.temporaries_cons hn) (fun b => ?_) (fun j apart b => ?_)
    (fun j apart b => ?_)
  · obtain ⟨own, valid, reserved, made⟩ := h.documents_cons hm
    exact ⟨own, valid, (Function.update_of_ne (other reserved) ..).trans reserved, made⟩
  · dsimp only at hr
    by_cases he : key' = key
    · rw [he, Function.update_self] at hr
      exact Or.inr (Or.inl (by rw [he, Option.some.inj hr]))
    · rw [Function.update_of_ne he] at hr
      refine (h.reservations_cons hr).imp_right fun own => Or.inr (own.resolve_left ?_)
      rw [absent]
      simp
  · refine ⟨b.ticket, b.aside, fun key' id hr => ?_, b.member⟩
    cases hr
    refine ⟨Function.update_self .., fun id m hm => ?_⟩
    exact other (h.documents_cons hm).2.2.1
  · refine ⟨b.ticket, b.aside, fun key' id hr => ?_, b.member⟩
    obtain ⟨reserved, unpublished⟩ := b.reserved key' id hr
    exact ⟨(Function.update_of_ne (other reserved) ..).trans reserved, unpublished⟩
  · refine ⟨apart.ticket, apart.aside, fun key' id id' hr hj => ?_⟩
    cases hr
    exact other (b.reserved key id' hj).1 rfl

/-- Giving a reservation back. -/
theorem release (h : Tidy fresh c (k :: ks)) {key loginId : String}
    (held : k.reserved = some (key, loginId)) :
    Tidy fresh { c with reservations := Function.update c.reservations key none }
      ({ k with reserved := none } :: ks) := by
  have mine := (h.backed k List.mem_cons_self).reserved key loginId held
  refine h.move (fun id m hm => ?_) (fun key' id hr => ?_)
    (fun n text hn => h.temporaries_cons hn) (fun b => ?_) (fun j apart b => ?_)
    (fun j apart b => ?_)
  · obtain ⟨own, valid, reserved, made⟩ := h.documents_cons hm
    exact ⟨own, valid, (Function.update_of_ne (mine.2 id m hm) ..).trans reserved, made⟩
  · dsimp only at hr
    have he : key' ≠ key := by
      rintro rfl
      rw [Function.update_self] at hr
      cases hr
    rw [Function.update_of_ne he] at hr
    refine (h.reservations_cons hr).imp_right fun own => Or.inr (own.resolve_left ?_)
    intro same
    rw [held] at same
    cases same
    exact he rfl
  · refine ⟨b.ticket, b.aside, fun key' id hr => ?_, b.member⟩
    cases hr
  · refine ⟨b.ticket, b.aside, fun key' id hr => ?_, b.member⟩
    have other : key' ≠ key := by
      rintro rfl
      exact apart.reserved key' loginId id held hr
    obtain ⟨reserved, unpublished⟩ := b.reserved key' id hr
    exact ⟨(Function.update_of_ne other ..).trans reserved, unpublished⟩
  · refine ⟨apart.ticket, apart.aside, fun key' id id' hr => ?_⟩
    cases hr

/-- Publishing a document under a reservation. -/
theorem publish (h : Tidy fresh c (k :: ks)) {m : Member} {i : Nat} (absent : k.published = none)
    (unheld : c.documents m.loginId = none) (ticket : k.ticket = some i) (id : m.id = idAt i)
    (held : k.reserved = some (emailKey m.email, m.loginId))
    (valid : LoginId.check m.loginId = .ok ()) :
    Tidy fresh { c with documents := Function.update c.documents m.loginId (some m) }
      ({ k with reserved := none, published := some m } :: ks) := by
  have mine := (h.backed k List.mem_cons_self).reserved _ _ held
  have other : ∀ {loginId m'}, c.documents loginId = some m' → loginId ≠ m.loginId := by
    rintro loginId m' hm rfl
    rw [unheld] at hm
    cases hm
  refine h.move (fun loginId m' hm => ?_) (fun key loginId hr => ?_)
    (fun n text hn => h.temporaries_cons hn) (fun b => ?_) (fun j apart b => ?_)
    (fun j apart b => ?_)
  · dsimp only at hm
    by_cases he : loginId = m.loginId
    · rw [he, Function.update_self] at hm
      cases hm
      rw [he]
      exact ⟨rfl, valid, mine.1, Or.inl ⟨i, m, ticket, rfl, rfl, id⟩⟩
    · rw [Function.update_of_ne he] at hm
      obtain ⟨own, valid, reserved, made⟩ := h.documents_cons hm
      refine ⟨own, valid, reserved, Or.inr (made.resolve_left ?_)⟩
      rintro ⟨_, p, _, published, _⟩
      rw [absent] at published
      cases published
  · rcases h.reservations_cons hr with ⟨m', hm, key⟩ | reserved | reserved
    · exact Or.inl ⟨m', (Function.update_of_ne (other hm) ..).trans hm, key⟩
    · rw [held] at reserved
      cases reserved
      exact Or.inl ⟨m, Function.update_self .., rfl⟩
    · exact Or.inr (Or.inr reserved)
  · refine ⟨b.ticket, b.aside, fun key loginId hr => ?_, fun m' hm => ?_⟩
    · cases hr
    · rcases hm with known | published
      · obtain ⟨passwordHash, hm⟩ := b.member m' (Or.inl known)
        exact ⟨passwordHash, (Function.update_of_ne (other hm) ..).trans hm⟩
      · cases published
        exact ⟨m.passwordHash, Function.update_self ..⟩
  · refine ⟨b.ticket, b.aside, fun key loginId hr => ?_, fun m' hm => ?_⟩
    · obtain ⟨reserved, unpublished⟩ := b.reserved key loginId hr
      refine ⟨reserved, fun loginId' m' hm => ?_⟩
      dsimp only at hm
      by_cases he : loginId' = m.loginId
      · rw [he, Function.update_self] at hm
        cases hm
        rintro rfl
        exact apart.reserved _ _ _ held hr
      · rw [Function.update_of_ne he] at hm
        exact unpublished loginId' m' hm
    · obtain ⟨passwordHash, hm⟩ := b.member m' hm
      exact ⟨passwordHash, (Function.update_of_ne (other hm) ..).trans hm⟩
  · refine ⟨apart.ticket, apart.aside, fun key loginId loginId' hr => ?_⟩
    cases hr

/-- Reading a document. -/
theorem learn (h : Tidy fresh c (k :: ks)) {m : Member} (hm : c.documents m.loginId = some m) :
    Tidy fresh c ({ k with known := some m } :: ks) := by
  refine h.move (fun loginId m hm => h.documents_cons hm)
    (fun key loginId hr => h.reservations_cons hr) (fun n text hn => h.temporaries_cons hn)
    (fun b => ?_) (fun j _ b => ⟨b.ticket, b.aside, b.reserved, b.member⟩)
    (fun j apart b => ⟨apart.ticket, apart.aside, apart.reserved⟩)
  refine ⟨b.ticket, b.aside, b.reserved, fun m' member => ?_⟩
  rcases member with known | published
  · cases known
    exact ⟨m.passwordHash, hm⟩
  · exact b.member m' (Or.inr published)

end Tidy

/-- A new password hash takes nothing away from a stake. -/
theorem Stake.Backed.rehash {k : Stake} {taken fresh : Nat} {c : Catalog}
    (b : k.Backed taken fresh c) {loginId : String} {m : Member}
    (present : c.documents loginId = some m) (passwordHash : String) :
    k.Backed taken fresh { c with
      documents := Function.update c.documents loginId (some { m with passwordHash }) } := by
  refine ⟨b.ticket, b.aside, fun key id hr => ?_, fun m' hm => ?_⟩
  · obtain ⟨reserved, unpublished⟩ := b.reserved key id hr
    refine ⟨reserved, fun other m' hm => ?_⟩
    dsimp only at hm
    by_cases he : other = loginId
    · rw [he, Function.update_self] at hm
      cases hm
      exact unpublished loginId m present
    · rw [Function.update_of_ne he] at hm
      exact unpublished other m' hm
  · obtain ⟨old, hm⟩ := b.member m' hm
    by_cases he : m'.loginId = loginId
    · rw [he, present] at hm
      cases hm
      refine ⟨passwordHash, ?_⟩
      dsimp only
      rw [he, Function.update_self]
    · exact ⟨old, (Function.update_of_ne he ..).trans hm⟩

/-- Putting a document with a new password hash in place of the one that is there. -/
theorem Tidy.rehash {fresh : Nat} {c : Catalog} {ks : List Stake} (h : Tidy fresh c ks)
    {loginId : String} {m : Member} (present : c.documents loginId = some m)
    (passwordHash : String) :
    Tidy fresh { c with
      documents := Function.update c.documents loginId (some { m with passwordHash }) } ks := by
  refine ⟨fun id m' hm => ?_, fun key id hr => ?_, h.temporaries,
    fun k hk => (h.backed k hk).rehash present passwordHash, h.apart⟩
  · dsimp only at hm
    by_cases he : id = loginId
    · rw [he, Function.update_self] at hm
      cases hm
      rw [he]
      exact h.documents loginId m present
    · rw [Function.update_of_ne he] at hm
      exact h.documents id m' hm
  · refine (h.reservations key id hr).imp_left ?_
    rintro ⟨m', hm, key⟩
    by_cases he : id = loginId
    · rw [he, present] at hm
      cases hm
      exact ⟨_, (congrArg _ he).trans (Function.update_self ..), key⟩
    · exact ⟨m', (Function.update_of_ne he ..).trans hm, key⟩

end MemberAuth.Store
