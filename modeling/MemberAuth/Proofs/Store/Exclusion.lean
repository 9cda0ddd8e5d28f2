import MemberAuth.Proofs.Store.Conduct
import MemberAuth.Proofs.Store.Frame
import Mathlib.Algebra.Group.Nat.Defs
import Mathlib.Data.List.Pairwise

/-!
# Exclusive registration

From an empty store on, registrations and password changes may interleave their file steps in any
order: no two stored members ever share a login id, an address or an id, and once all are over
exactly the addresses of the stored members are reserved and no temporary file is left.
-/
namespace MemberAuth.Store

/-- What an operation does from its stake on. -/
def Job.Follows (k : Stake) : Job → Prop
  | .inserting m published rest =>
    Proceeds (some m.loginId.text) (Reports m) k rest ∧ k.published.isSome = published
  | .updating rest => Proceeds none (fun _ _ => True) k rest ∧ k.ticket = none

/-- One step of an operation, whatever the stakes of the others are. -/
theorem Kept.turn {s : Shelf} {c : Catalog} {k : Stake} {ks : List Stake} (h : Kept s c (k :: ks))
    {j : Job} (follows : j.Follows k) :
    ∃ c' k', Kept (j.turn s).1 c' (k' :: ks) ∧ (j.turn s).2.Follows k' := by
  match j with
  | .inserting m published (.call call next) =>
    obtain ⟨proceeds, flag⟩ := follows
    obtain ⟨c', k', kept, went, _, told⟩ := h.perform_of_proceeds proceeds
    subst flag
    exact ⟨c', k', kept, went, told m.loginId.text rfl⟩
  | .inserting m published (.done result) => exact ⟨c, k, h, follows⟩
  | .updating (.call call next) =>
    obtain ⟨proceeds, absent⟩ := follows
    obtain ⟨c', k', kept, went, same, _⟩ := h.perform_of_proceeds proceeds
    exact ⟨c', k', kept, went, (same rfl).trans absent⟩
  | .updating (.done result) => exact ⟨c, k, h, follows⟩

namespace Workshop

/-- The files are as the operations have them, each with a stake that it follows. -/
structure Arranged (w : Workshop) (c : Catalog) (ps : List (Job × Stake)) : Prop where
  jobs : w.jobs = ps.map Prod.fst
  follows : ∀ p ∈ ps, p.1.Follows p.2
  kept : Kept w.shelf c (ps.map Prod.snd)

theorem Arranged.arrive {w : Workshop} {c : Catalog} {ps : List (Job × Stake)}
    (h : w.Arranged c ps) {j : Job} (follows : j.Follows {}) :
    Arranged ⟨w.shelf, w.jobs ++ [j]⟩ c (ps ++ [(j, ({} : Stake))]) := by
  refine ⟨by simp [h.jobs], fun p hp => ?_, ?_⟩
  · rcases List.mem_append.mp hp with old | new
    · exact h.follows p old
    · rw [List.mem_singleton.mp new]
      exact follows
  · rw [List.map_append]
    exact h.kept.join.perm (List.perm_append_singleton _ _).symm

theorem Arranged.turn {s : Shelf} {before after : List Job} {j : Job} {c : Catalog}
    {ps : List (Job × Stake)} (h : Arranged ⟨s, before ++ j :: after⟩ c ps) :
    ∃ c' ps', Arranged ⟨(j.turn s).1, before ++ (j.turn s).2 :: after⟩ c' ps' := by
  obtain ⟨front, rest, rfl, rfl, others⟩ := List.map_eq_append_iff.mp h.jobs.symm
  obtain ⟨⟨j, k⟩, back, rfl, rfl, rfl⟩ := List.map_eq_cons_iff.mp others
  have first : ∀ p : Job × Stake, ((front ++ p :: back).map Prod.snd).Perm
      (p.2 :: (front ++ back).map Prod.snd) := fun p => List.perm_middle.map Prod.snd
  obtain ⟨c', k', kept, follows⟩ :=
    (h.kept.perm (first (j, k))).turn (h.follows (j, k) (by simp))
  refine ⟨c', front ++ ((j.turn s).2, k') :: back, by simp, fun p hp => ?_,
    kept.perm (first ((j.turn s).2, k')).symm⟩
  rcases List.mem_append.mp hp with old | new
  · exact h.follows p (List.mem_append_left _ old)
  · rcases List.mem_cons.mp new with rfl | old
    · exact follows
    · exact h.follows p (List.mem_append_right _ (List.mem_cons_of_mem _ old))

theorem arranged_step {w w' : Workshop} {c : Catalog} {ps : List (Job × Stake)}
    (h : w.Arranged c ps) (step : w.Step w') : ∃ c' ps', w'.Arranged c' ps' := by
  cases step with
  | insert _ m => exact ⟨c, _, h.arrive ⟨insert_proceeds m, rfl⟩⟩
  | update _ loginId passwordHash =>
    exact ⟨c, _, h.arrive ⟨update_proceeds loginId passwordHash, rfl⟩⟩
  | turn s before after j => exact h.turn

/-- The disk of a store on which nothing has been done. -/
def bareDisk : Disk :=
  (Disk.empty.set membersFolder .folder).set emailFolder .folder

theorem openOn_empty (freshCount : Nat) :
    openOn Disk.empty freshCount = (bareDisk, .ok ⟨bareDisk, 1, freshCount⟩) :=
  rfl

def bareCatalog : Catalog :=
  ⟨fun _ => none, fun _ => none, fun _ => none⟩

theorem holds_bareDisk : Holds bareDisk bareCatalog.contents := by
  have emailFolder_ne : emailFolder ≠ [] := by decide
  have membersFolder_ne : membersFolder ≠ [] := by decide
  have entry : ∀ q, bareDisk.entry? q = if emailFolder = q then some .folder
      else if membersFolder = q then some .folder else Disk.empty.entry? q := by
    intro q
    rw [bareDisk, Disk.entry?_set _ emailFolder_ne, Disk.entry?_set _ membersFolder_ne]
  have absent : ∀ q, q ≠ [] → q ≠ membersFolder → q ≠ emailFolder →
      bareDisk.entry? q = none := by
    intro q hq hm he
    rw [entry, if_neg he.symm, if_neg hm.symm, Disk.entry?, if_neg hq]
    rfl
  refine ⟨by rw [entry]; rfl, by rw [entry]; rfl, fun x => ?_, fun q hq hm he _ => ?_⟩
  · rw [absent _ x.path_ne_nil x.path_ne_membersFolder x.path_ne_emailFolder]
    cases x with
    | document loginId => rfl
    | reservation key => rfl
    | temporary n => rfl
  · exact absent q hq hm he

theorem arranged_bare (freshCount : Nat) :
    Arranged ⟨⟨bareDisk, 1, freshCount⟩, []⟩ bareCatalog [] := by
  refine ⟨rfl, by simp, holds_bareDisk, rfl, ?_, ?_, ?_, by simp, List.Pairwise.nil⟩
  · intro loginId m hm
    cases hm
  · intro key loginId hr
    cases hr
  · intro n text hn
    cases hn

/-- On every run from an empty store the files are as the operations have them. -/
theorem arranged_of_reaches {freshCount : Nat} {s : Shelf} {w : Workshop}
    (opened : (openOn Disk.empty freshCount).2 = .ok s) (run : Reaches ⟨s, []⟩ w) :
    ∃ c ps, w.Arranged c ps := by
  rw [openOn_empty] at opened
  cases opened
  induction run with
  | refl => exact ⟨_, _, arranged_bare freshCount⟩
  | tail _ step ih =>
    obtain ⟨c, ps, arranged⟩ := ih
    exact arranged_step arranged step

namespace Arranged

variable {w : Workshop} {c : Catalog} {ps : List (Job × Stake)}

theorem document (h : w.Arranged c ps) {loginId text : String}
    (read : w.shelf.disk.read (documentPath loginId) = .ok text) :
    ∃ m, c.documents loginId = some m ∧ text = m.document := by
  have site := (h.kept.disk.read_eq_ok (x := .document loginId)).mp read
  obtain ⟨m, document, rfl⟩ := Option.map_eq_some_iff.mp site
  exact ⟨m, document, rfl⟩

theorem stores_iff (h : w.Arranged c ps) {m : Member} :
    w.Stores m ↔ c.documents m.loginId = some m := by
  constructor
  · intro stores
    obtain ⟨n, document, same⟩ := h.document stores
    rw [document, Member.document_injective same]
  · intro document
    exact (h.kept.disk.read_eq_ok (x := .document m.loginId)).mpr
      (congrArg (Option.map Member.document) document)

theorem reservation_iff (h : w.Arranged c ps) {key loginId : String} :
    w.shelf.disk.read (emailFolder ++ [key]) = .ok loginId ↔
      c.reservations key = some loginId :=
  h.kept.disk.read_eq_ok (x := .reservation key)

theorem reserved (h : w.Arranged c ps) {m : Member} (stores : w.Stores m) :
    c.reservations (emailKey m.email) = some m.loginId :=
  (h.kept.tidy.documents _ m (h.stores_iff.mp stores)).2.2.1

theorem eq_of_loginId (h : w.Arranged c ps) {m n : Member} (hm : w.Stores m) (hn : w.Stores n)
    (same : m.loginId = n.loginId) : m = n := by
  have document := h.stores_iff.mp hm
  rw [same, h.stores_iff.mp hn] at document
  exact (Option.some.inj document).symm

theorem eq_of_email (h : w.Arranged c ps) {m n : Member} (hm : w.Stores m) (hn : w.Stores n)
    (same : emailKey m.email = emailKey n.email) : m = n := by
  have reservation := h.reserved hm
  rw [same, h.reserved hn] at reservation
  exact h.eq_of_loginId hm hn (Option.some.inj reservation).symm

theorem tickets_le (h : w.Arranged c ps) : tickets (ps.map Prod.snd) ≤ w.insertions := by
  rw [tickets, insertions, h.jobs, List.countP_map, List.countP_map]
  refine List.countP_mono_left fun p hp taken => ?_
  obtain ⟨j, k⟩ := p
  cases j with
  | inserting m published rest => rfl
  | updating rest =>
    have absent : k.ticket = none := (h.follows _ hp).2
    rw [Function.comp_apply, absent] at taken
    cases taken

/-- Each stored member has a place of its own in the row of ids. -/
theorem places (h : w.Arranged c ps) : ∃ place : String → Nat,
    (∀ m, w.Stores m → place m.loginId < w.insertions ∧ m.id = idAt (place m.loginId)) ∧
      ∀ m n, w.Stores m → w.Stores n → place m.loginId = place n.loginId → m = n := by
  have made : ∀ loginId, ∃ i, ∀ m, c.documents loginId = some m →
      ∃ k ∈ ps.map Prod.snd, k.ticket = some i ∧ m.id = idAt i ∧
        ∃ p, k.published = some p ∧ p.loginId = m.loginId := by
    intro loginId
    cases document : c.documents loginId with
    | none => exact ⟨0, by simp⟩
    | some m =>
      obtain ⟨_, _, _, k, hk, i, p, ticket, published, own, id⟩ :=
        h.kept.tidy.documents loginId m document
      refine ⟨i, fun n same => ?_⟩
      cases same
      exact ⟨k, hk, ticket, id, p, published, own⟩
  choose place made using made
  refine ⟨place, fun m hm => ?_, fun m n hm hn same => ?_⟩
  · obtain ⟨k, hk, ticket, id, _⟩ := made _ m (h.stores_iff.mp hm)
    exact ⟨Nat.lt_of_lt_of_le ((h.kept.tidy.backed k hk).ticket _ ticket) h.tickets_le, id⟩
  · obtain ⟨j, hj, ticket, _, p, published, own⟩ := made _ m (h.stores_iff.mp hm)
    obtain ⟨k, hk, ticket', _, q, published', own'⟩ := made _ n (h.stores_iff.mp hn)
    have one : j = k := by
      by_contra apart
      have symm : Std.Symm Stake.Apart := ⟨fun _ _ h => h.symm⟩
      exact (h.kept.tidy.apart.forall hj hk apart).ticket _ ticket (same ▸ ticket')
    rw [one, published'] at published
    cases published
    exact h.eq_of_loginId hm hn (own.symm.trans own')

theorem find (h : w.Arranged c ps) (loginId : String) :
    w.shelf.find loginId = .ok (c.documents loginId) := by
  have reply := h.kept.read loginId
  cases document : c.documents loginId with
  | none =>
    rw [document] at reply
    rw [Shelf.find, Store.find]
    split
    · rfl
    · rw [Script.run_bind]
      simp only [FileScript.read, Script.run_ask, Shelf.perform, reply]
      rfl
  | some m =>
    rw [document, Option.elim_some, Disk.read_eq_ok] at reply
    have valid := (h.kept.tidy.documents loginId m document).2.1
    exact Shelf.find_eq_some.mpr ⟨valid, _, reply, Member.parse_document m⟩

/-- A registration that is over has put a document in place if and only if it says so. -/
theorem reported (h : w.Arranged c ps) {m : NewMember} {published : Bool}
    {result : Except Failure Member} (ended : .inserting m published (.done result) ∈ w.jobs) :
    (published = true ↔ ∃ member, result = .ok member) ∧
      ∀ member, result = .ok member →
        ∃ id passwordHash, member = m.withId id ∧ w.Stores { member with passwordHash } := by
  rw [h.jobs] at ended
  obtain ⟨⟨_, k⟩, hp, rfl⟩ := List.mem_map.mp ended
  obtain ⟨proceeds, flag⟩ := h.follows _ hp
  cases proceeds with
  | done clear reports =>
    cases result with
    | error e =>
      have absent : k.published = none := reports
      rw [absent] at flag
      cases flag
      simp
    | ok member =>
      obtain ⟨published, id, made⟩ := reports
      have backed := h.kept.tidy.backed k (List.mem_map_of_mem hp)
      obtain ⟨passwordHash, document⟩ := backed.member member (Or.inr published)
      have flagged := flag.symm.trans (congrArg Option.isSome published)
      refine ⟨⟨fun _ => ⟨member, rfl⟩, fun _ => flagged⟩, fun other same => ?_⟩
      cases same
      exact ⟨id, passwordHash, made, h.stores_iff.mpr document⟩

/-- Operations that are over hold nothing any more. -/
theorem clear (h : w.Arranged c ps) (ended : ∀ j ∈ w.jobs, j.Over) :
    ∀ k ∈ ps.map Prod.snd, k.Clear := by
  intro k hk
  obtain ⟨⟨j, k⟩, hp, rfl⟩ := List.mem_map.mp hk
  have follows := h.follows _ hp
  have done := ended j (h.jobs ▸ List.mem_map_of_mem hp)
  cases j with
  | inserting m published rest =>
    obtain ⟨result, rfl⟩ := done
    cases follows.1 with
    | done clear _ => exact clear
  | updating rest =>
    obtain ⟨result, rfl⟩ := done
    cases follows.1 with
    | done clear _ => exact clear

/-- Once all operations are over, only stored members have reservations. -/
theorem reservation_of_over (h : w.Arranged c ps) (ended : ∀ j ∈ w.jobs, j.Over)
    {key loginId : String} (reservation : c.reservations key = some loginId) :
    ∃ m, w.Stores m ∧ emailKey m.email = key ∧ m.loginId = loginId := by
  rcases h.kept.tidy.reservations key loginId reservation with ⟨m, document, same⟩ | ⟨k, hk, held⟩
  · have own := (h.kept.tidy.documents loginId m document).1
    exact ⟨m, h.stores_iff.mpr (own ▸ document), same, own⟩
  · rw [(h.clear ended k hk).reserved] at held
    cases held

/-- Once all operations are over, every file is a stored member's document or reservation. -/
theorem file_of_over (h : w.Arranged c ps) (ended : ∀ j ∈ w.jobs, j.Over) {x : Site}
    (file : c.contents x ≠ none) :
    ∃ m, w.Stores m ∧ (x = .document m.loginId ∨ x = .reservation (emailKey m.email)) := by
  cases x with
  | document loginId =>
    cases document : c.documents loginId with
    | none => exact absurd (congrArg (Option.map Member.document) document) file
    | some m =>
      have own := (h.kept.tidy.documents loginId m document).1
      exact ⟨m, h.stores_iff.mpr (own ▸ document), Or.inl (congrArg Site.document own.symm)⟩
  | reservation key =>
    obtain ⟨loginId, reservation⟩ := Option.ne_none_iff_exists'.mp file
    obtain ⟨m, stores, same, _⟩ := h.reservation_of_over ended reservation
    exact ⟨m, stores, Or.inr (congrArg Site.reservation same.symm)⟩
  | temporary n =>
    obtain ⟨text, held⟩ := Option.ne_none_iff_exists'.mp file
    obtain ⟨k, hk, aside⟩ := h.kept.tidy.temporaries n text held
    exact absurd aside ((h.clear ended k hk).aside n text)

end Arranged

/-- Different places among the first `2 ^ 64` have different ids. -/
theorem idAt_inj {i j : Nat} (hi : i < 2 ^ 64) (hj : j < 2 ^ 64) (same : idAt i = idAt j) :
    i = j := by
  have bits := congrArg (fun x => x.toBitVec.toNat) same
  simp only [idAt, Int64.toBitVec_ofNat', BitVec.toNat_ofNat] at bits
  omega

/-- How a store stands while registrations and password changes are under way on it. -/
structure Exclusive (w : Workshop) : Prop where
  /-- Every document is a whole one, of the member with its login id. -/
  documents : ∀ loginId text, w.shelf.disk.read (documentPath loginId) = .ok text →
    ∃ m, w.Stores m ∧ m.loginId = loginId ∧ text = m.document
  /-- A look-up gives the member whose document is there. -/
  find : ∀ loginId,
    (w.shelf.find loginId = .ok none ∧ ∀ m, w.Stores m → m.loginId ≠ loginId) ∨
      ∃ m, w.shelf.find loginId = .ok (some m) ∧ w.Stores m ∧ m.loginId = loginId
  loginIds : ∀ m n, w.Stores m → w.Stores n → m.loginId = n.loginId → m = n
  emails : ∀ m n, w.Stores m → w.Stores n → emailKey m.email = emailKey n.email → m = n
  /-- Ids are given out in a row that starts again only after all `2 ^ 64` of them. -/
  places : ∃ place : String → Nat,
    (∀ m, w.Stores m → place m.loginId < w.insertions ∧ m.id = idAt (place m.loginId)) ∧
      ∀ m n, w.Stores m → w.Stores n → place m.loginId = place n.loginId → m = n
  ids : w.insertions ≤ 2 ^ 64 → ∀ m n, w.Stores m → w.Stores n → m.id = n.id → m = n
  reserved : ∀ m, w.Stores m →
    w.shelf.disk.read (emailFolder ++ [emailKey m.email]) = .ok m.loginId
  reported : ∀ m published result, .inserting m published (.done result) ∈ w.jobs →
    (published = true ↔ ∃ member, result = .ok member) ∧
      ∀ member, result = .ok member →
        ∃ id passwordHash, member = m.withId id ∧ w.Stores { member with passwordHash }
  reservations : (∀ j ∈ w.jobs, j.Over) → ∀ key loginId,
    w.shelf.disk.read (emailFolder ++ [key]) = .ok loginId ↔
      ∃ m, w.Stores m ∧ emailKey m.email = key ∧ m.loginId = loginId
  /-- Besides the two folders and what stored members have, nothing is left. -/
  rest : (∀ j ∈ w.jobs, j.Over) → ∀ q, q ≠ [] → q ≠ membersFolder → q ≠ emailFolder →
    w.shelf.disk.entry? q ≠ none →
      ∃ m, w.Stores m ∧ (q = documentPath m.loginId ∨ q = emailFolder ++ [emailKey m.email])

/-- However registrations and password changes interleave from an empty store on, no two stored
members share a login id, an address or an id. -/
theorem exclusive_of_reaches {freshCount : Nat} {s : Shelf} {w : Workshop}
    (opened : (openOn Disk.empty freshCount).2 = .ok s) (run : Reaches ⟨s, []⟩ w) :
    w.Exclusive := by
  obtain ⟨c, ps, h⟩ := arranged_of_reaches opened run
  refine ⟨fun loginId text read => ?_, fun loginId => ?_, fun m n => h.eq_of_loginId,
    fun m n => h.eq_of_email, h.places, fun few m n hm hn same => ?_,
    fun m stores => h.reservation_iff.mpr (h.reserved stores), fun m published result => h.reported,
    fun ended key loginId => ⟨fun read => ?_, ?_⟩, fun ended q hq hm he entry => ?_⟩
  · obtain ⟨m, document, rfl⟩ := h.document read
    have own := (h.kept.tidy.documents loginId m document).1
    exact ⟨m, h.stores_iff.mpr (own ▸ document), own, rfl⟩
  · rw [h.find]
    cases document : c.documents loginId with
    | none =>
      refine Or.inl ⟨rfl, fun m stores own => ?_⟩
      rw [← own, h.stores_iff.mp stores] at document
      cases document
    | some m =>
      have own := (h.kept.tidy.documents loginId m document).1
      exact Or.inr ⟨m, rfl, h.stores_iff.mpr (own ▸ document), own⟩
  · obtain ⟨place, numbered, apart⟩ := h.places
    obtain ⟨hi, mid⟩ := numbered m hm
    obtain ⟨hj, nid⟩ := numbered n hn
    rw [mid, nid] at same
    exact apart m n hm hn (idAt_inj (by omega) (by omega) same)
  · exact h.reservation_of_over ended (h.reservation_iff.mp read)
  · rintro ⟨m, stores, rfl, rfl⟩
    exact h.reservation_iff.mpr (h.reserved stores)
  · by_cases site : ∃ x : Site, q = x.path
    · obtain ⟨x, rfl⟩ := site
      rw [h.kept.disk.sites] at entry
      obtain ⟨m, stores, same⟩ := h.file_of_over ended fun none => entry (congrArg _ none)
      exact ⟨m, stores, same.imp (congrArg Site.path) (congrArg Site.path)⟩
    · exact absurd (h.kept.disk.others q hq hm he (not_exists.mp site)) entry

def ada : NewMember where
  loginId := ⟨"ada", rfl⟩
  passwordHash := "hash"
  name := ⟨"Ada", rfl⟩
  birthDate := ⟨1990, 1, 2, rfl⟩
  email := ⟨"Ada@example.org", rfl⟩

/-- Another member with the address of the first in small letters. -/
def eve : NewMember :=
  { ada with loginId := ⟨"eve", rfl⟩, email := ⟨"ada@example.org", rfl⟩ }

/-- Two registrations of one address side by side: the first to reserve it is the only one stored.
-/
theorem exclusive_of_two_registrations : ∃ w, Reaches ⟨⟨bareDisk, 1, 0⟩, []⟩ w ∧ w.Exclusive ∧
    w.Stores (ada.withId 1) ∧ w.shelf.find eve.loginId.text = .ok none := by
  have arrived : Reaches ⟨⟨bareDisk, 1, 0⟩, []⟩ ⟨⟨bareDisk, 1, 0⟩,
      [.inserting ada false (Store.insert ada), .inserting eve false (Store.insert eve)]⟩ :=
    .tail (.single (.insert _ ada)) (.insert _ eve)
  obtain ⟨_, first⟩ := reaches_inserted [] [.inserting eve false (Store.insert eve)]
    ⟨bareDisk, 1, 0⟩ ada false (Store.insert ada)
  obtain ⟨_, second⟩ := reaches_inserted [_] [] _ eve false (Store.insert eve)
  have run := arrived.trans (first.trans second)
  exact ⟨_, run, exclusive_of_reaches rfl run, rfl, rfl⟩

end Workshop

end MemberAuth.Store
