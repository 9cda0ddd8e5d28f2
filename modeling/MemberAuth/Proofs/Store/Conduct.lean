import MemberAuth.Proofs.Store.Concurrent
import MemberAuth.Proofs.Store.Stakes

/-!
# What operations may do

A script is followed call by call together with its stake: each call must be one that the stake
allows, for every reply that the files can give. Such a script keeps the files tidy at every step,
whatever other operations do in between. Registrations and password changes are such scripts.
-/
namespace MemberAuth.Store

variable {α : Type}

/-- Neither a temporary file nor a reservation without a document is left. -/
structure Stake.Clear (k : Stake) : Prop where
  aside : ∀ n text, k.aside ≠ some (n, some text)
  reserved : k.reserved = none

/-- What a script does from a stake on, up to a value for which `ends` holds. Only a script with an
owner takes an id, and it publishes under the login id of the owner. -/
inductive Proceeds (owner : Option String) (ends : Stake → α → Prop) : Stake → FileScript α → Prop
  | done {k a} (clear : k.Clear) (h : ends k a) : Proceeds owner ends k (.done a)
  | takeId {k next} (owned : owner.isSome) (absent : k.ticket = none)
      (go : ∀ i, Proceeds owner ends { k with ticket := some i } (next (idAt i))) :
      Proceeds owner ends k (.call .takeId next)
  | freshPath {k next} (empty : ∀ n text, k.aside ≠ some (n, some text))
      (go : ∀ n, Proceeds owner ends { k with aside := some (n, none) } (next (temporaryPath n))) :
      Proceeds owner ends k (.call .freshPath next)
  | write {k n old text next} (aside : k.aside = some (n, old))
      (go : Proceeds owner ends { k with aside := some (n, some text) } (next (.ok ()))) :
      Proceeds owner ends k (.call (.write (temporaryPath n) text) next)
  | remove {k n text next} (aside : k.aside = some (n, some text))
      (go : Proceeds owner ends { k with aside := some (n, none) } (next (.ok ()))) :
      Proceeds owner ends k (.call (.remove (temporaryPath n)) next)
  | reserve {k n key loginId next} (aside : k.aside = some (n, some loginId))
      (absent : k.reserved = none)
      (won : Proceeds owner ends { k with reserved := some (key, loginId) } (next (.ok ())))
      (lost : Proceeds owner ends k (next (.error .alreadyExists))) :
      Proceeds owner ends k (.call (.link (temporaryPath n) (emailFolder ++ [key])) next)
  | publish {k n i m next} (owned : owner = some m.loginId)
      (aside : k.aside = some (n, some m.document)) (absent : k.published = none)
      (ticket : k.ticket = some i) (id : m.id = idAt i)
      (held : k.reserved = some (emailKey m.email, m.loginId))
      (valid : LoginId.check m.loginId = .ok ())
      (won : Proceeds owner ends { k with reserved := none, published := some m } (next (.ok ())))
      (lost : Proceeds owner ends k (next (.error .alreadyExists))) :
      Proceeds owner ends k (.call (.link (temporaryPath n) (documentPath m.loginId)) next)
  | release {k key loginId next} (held : k.reserved = some (key, loginId))
      (go : Proceeds owner ends { k with reserved := none } (next (.ok ()))) :
      Proceeds owner ends k (.call (.remove (emailFolder ++ [key])) next)
  | read {k loginId next} (absent : Proceeds owner ends k (next (.error .notFound)))
      (present : ∀ m : Member, m.loginId = loginId →
        Proceeds owner ends { k with known := some m } (next (.ok m.document))) :
      Proceeds owner ends k (.call (.read (documentPath loginId)) next)
  | replace {k n m next} {passwordHash : String} (known : k.known = some m)
      (aside : k.aside = some (n, some { m with passwordHash }.document))
      (go : Proceeds owner ends { k with aside := some (n, none) } (next (.ok ()))) :
      Proceeds owner ends k (.call (.rename (temporaryPath n) (documentPath m.loginId)) next)

/-- The shelf is as the operations have it. -/
structure Kept (s : Shelf) (c : Catalog) (ks : List Stake) : Prop where
  disk : Holds s.disk c.contents
  nextId : s.nextId = idAt (tickets ks)
  tidy : Tidy s.freshCount c ks

namespace Kept

variable {s : Shelf} {c : Catalog} {k : Stake} {ks : List Stake}

theorem perm (h : Kept s c ks) {js : List Stake} (p : ks.Perm js) : Kept s c js :=
  ⟨h.disk, h.nextId.trans (congrArg idAt (p.countP_eq _)), h.tidy.perm p⟩

theorem join (h : Kept s c ks) : Kept s c ({} :: ks) :=
  ⟨h.disk, h.nextId.trans (congrArg idAt (tickets_cons_of_none rfl ks).symm), h.tidy.join⟩

theorem takeId (h : Kept s c (k :: ks)) (absent : k.ticket = none) :
    s.nextId = idAt (tickets (k :: ks)) ∧
      Kept { s with nextId := s.nextId + 1 } c
        ({ k with ticket := some (tickets (k :: ks)) } :: ks) := by
  refine ⟨h.nextId, h.disk, ?_, h.tidy.take absent⟩
  rw [tickets_cons_take, h.nextId, tickets_cons_of_none absent, idAt, idAt,
    Int64.ofNat_add (tickets ks + 1) 1]
  rfl

theorem freshPath (h : Kept s c (k :: ks)) (empty : ∀ n text, k.aside ≠ some (n, some text)) :
    Kept { s with freshCount := s.freshCount + 1 } c
      ({ k with aside := some (s.freshCount, none) } :: ks) :=
  ⟨h.disk, h.nextId, h.tidy.name empty⟩

theorem write (h : Kept s c (k :: ks)) {n : Nat} {old : Option String}
    (aside : k.aside = some (n, old)) (text : String) :
    ∃ disk c', s.perform (.write (temporaryPath n) text) = ({ s with disk }, .ok ()) ∧
      Kept { s with disk } c' ({ k with aside := some (n, some text) } :: ks) := by
  obtain ⟨disk, written, holds⟩ := h.disk.write (.temporary n) text
  rw [← Catalog.contents_temporary] at holds
  exact ⟨disk, _, congrArg s.after written, holds, h.nextId, h.tidy.fill aside (some text)⟩

theorem remove (h : Kept s c (k :: ks)) {n : Nat} {text : String}
    (aside : k.aside = some (n, some text)) :
    ∃ disk c', s.perform (.remove (temporaryPath n)) = ({ s with disk }, .ok ()) ∧
      Kept { s with disk } c' ({ k with aside := some (n, none) } :: ks) := by
  have present := (h.tidy.backed k List.mem_cons_self).aside n _ aside
  obtain ⟨disk, removed, holds⟩ := h.disk.remove (x := .temporary n) present.2
  rw [← Catalog.contents_temporary] at holds
  exact ⟨disk, _, congrArg s.after removed, holds, h.nextId, h.tidy.fill aside none⟩

theorem reserve (h : Kept s c (k :: ks)) {n : Nat} {loginId : String}
    (aside : k.aside = some (n, some loginId)) (absent : k.reserved = none) (key : String) :
    (∃ disk c', s.perform (.link (temporaryPath n) (emailFolder ++ [key])) =
        ({ s with disk }, .ok ()) ∧
      Kept { s with disk } c' ({ k with reserved := some (key, loginId) } :: ks)) ∨
    s.perform (.link (temporaryPath n) (emailFolder ++ [key])) = (s, .error .alreadyExists) := by
  have text := (h.tidy.backed k List.mem_cons_self).aside n _ aside
  cases reserved : c.reservations key with
  | none =>
    obtain ⟨disk, linked, holds⟩ :=
      h.disk.link (x := .temporary n) (y := .reservation key) text.2 reserved
    rw [← Catalog.contents_reservation] at holds
    exact Or.inl ⟨disk, _, congrArg s.after linked, holds, h.nextId,
      h.tidy.reserve absent reserved loginId⟩
  | some other =>
    have taken := h.disk.link_taken (x := .temporary n) (y := .reservation key) text.2 reserved
    exact Or.inr (congrArg s.after taken)

theorem publish (h : Kept s c (k :: ks)) {n i : Nat} {m : Member}
    (aside : k.aside = some (n, some m.document)) (absent : k.published = none)
    (ticket : k.ticket = some i) (id : m.id = idAt i)
    (held : k.reserved = some (emailKey m.email, m.loginId))
    (valid : LoginId.check m.loginId = .ok ()) :
    (∃ disk c', s.perform (.link (temporaryPath n) (documentPath m.loginId)) =
        ({ s with disk }, .ok ()) ∧
      Kept { s with disk } c' ({ k with reserved := none, published := some m } :: ks)) ∨
    s.perform (.link (temporaryPath n) (documentPath m.loginId)) =
      (s, .error .alreadyExists) := by
  have text := (h.tidy.backed k List.mem_cons_self).aside n _ aside
  cases document : c.documents m.loginId with
  | none =>
    have site : c.contents (.document m.loginId) = none := congrArg (Option.map _) document
    obtain ⟨disk, linked, holds⟩ := h.disk.link (x := .temporary n) text.2 site
    rw [← Catalog.contents_document] at holds
    exact Or.inl ⟨disk, _, congrArg s.after linked, holds, h.nextId,
      h.tidy.publish absent document ticket id held valid⟩
  | some other =>
    have site : c.contents (.document m.loginId) = some other.document :=
      congrArg (Option.map _) document
    exact Or.inr (congrArg s.after (h.disk.link_taken (x := .temporary n) text.2 site))

theorem release (h : Kept s c (k :: ks)) {key loginId : String}
    (held : k.reserved = some (key, loginId)) :
    ∃ disk c', s.perform (.remove (emailFolder ++ [key])) = ({ s with disk }, .ok ()) ∧
      Kept { s with disk } c' ({ k with reserved := none } :: ks) := by
  have present := (h.tidy.backed k List.mem_cons_self).reserved key loginId held
  obtain ⟨disk, removed, holds⟩ := h.disk.remove (x := .reservation key) present.1
  rw [← Catalog.contents_reservation] at holds
  exact ⟨disk, _, congrArg s.after removed, holds, h.nextId, h.tidy.release held⟩

theorem read (h : Kept s c ks) (loginId : String) :
    s.disk.read (documentPath loginId) =
      (c.documents loginId).elim (.error .notFound) fun m => .ok m.document := by
  cases document : c.documents loginId with
  | none =>
    have site : c.contents (.document loginId) = none := congrArg (Option.map _) document
    exact h.disk.read_none site
  | some m =>
    have site : c.contents (.document loginId) = some m.document :=
      congrArg (Option.map _) document
    exact h.disk.read site

theorem learn (h : Kept s c (k :: ks)) {m : Member} (hm : c.documents m.loginId = some m) :
    Kept s c ({ k with known := some m } :: ks) :=
  ⟨h.disk, h.nextId, h.tidy.learn hm⟩

theorem replace (h : Kept s c (k :: ks)) {n : Nat} {m : Member} {passwordHash : String}
    (known : k.known = some m)
    (aside : k.aside = some (n, some { m with passwordHash }.document)) :
    ∃ disk c', s.perform (.rename (temporaryPath n) (documentPath m.loginId)) =
        ({ s with disk }, .ok ()) ∧
      Kept { s with disk } c' ({ k with aside := some (n, none) } :: ks) := by
  have mine := h.tidy.backed k List.mem_cons_self
  obtain ⟨old, document⟩ := mine.member m (Or.inl known)
  obtain ⟨disk, renamed, holds⟩ :=
    h.disk.rename (x := .temporary n) (mine.aside n _ aside).2 (.document m.loginId)
  rw [← Catalog.contents_temporary, ← Catalog.contents_document] at holds
  exact ⟨disk, _, congrArg s.after renamed, holds, h.nextId,
    (h.tidy.fill aside none).rehash document passwordHash⟩

end Kept

/-- Whatever an operation does next, it does as its stake allows, and the files stay as the
operations have them. -/
theorem Kept.perform_of_proceeds {s : Shelf} {c : Catalog} {k : Stake} {ks : List Stake}
    (h : Kept s c (k :: ks)) {owner : Option String} {ends : Stake → α → Prop} {call : FileCall}
    {next : call.Reply → FileScript α} (p : Proceeds owner ends k (.call call next)) :
    ∃ c' k', Kept (s.perform call).1 c' (k' :: ks) ∧
      Proceeds owner ends k' (next (s.perform call).2) ∧
      (owner = none → k'.ticket = k.ticket) ∧
      ∀ loginId, owner = some loginId → k'.published.isSome =
        (k.published.isSome || call.publishes loginId (s.perform call).2) := by
  cases p with
  | takeId owned absent go =>
    obtain ⟨id, kept⟩ := h.takeId absent
    refine ⟨c, _, kept, ?_, fun unowned => ?_, fun loginId _ => (Bool.or_false _).symm⟩
    · have went := go (tickets (k :: ks))
      rwa [← id] at went
    · rw [unowned] at owned
      cases owned
  | freshPath empty go =>
    exact ⟨c, _, h.freshPath empty, go s.freshCount, fun _ => rfl,
      fun loginId _ => (Bool.or_false _).symm⟩
  | write aside go =>
    obtain ⟨disk, c', done, kept⟩ := h.write aside _
    rw [done]
    exact ⟨c', _, kept, go, fun _ => rfl, fun loginId _ => (Bool.or_false _).symm⟩
  | remove aside go =>
    obtain ⟨disk, c', done, kept⟩ := h.remove aside
    rw [done]
    exact ⟨c', _, kept, go, fun _ => rfl, fun loginId _ => (Bool.or_false _).symm⟩
  | @reserve _ n key loginId _ aside absent won lost =>
    have elsewhere : ∀ other, emailFolder ++ [key] ≠ documentPath other := fun other same => by
      have same : Site.path (.reservation key) = Site.path (.document other) := same
      cases Site.path_injective same
    rcases h.reserve aside absent key with ⟨disk, c', done, kept⟩ | done
    · rw [done]
      refine ⟨c', _, kept, won, fun _ => rfl, fun other _ => ?_⟩
      simp [FileCall.publishes, elsewhere]
    · rw [done]
      exact ⟨c, k, h, lost, fun _ => rfl, fun other _ => (Bool.or_false _).symm⟩
  | publish owned aside absent ticket id held valid won lost =>
    rcases h.publish aside absent ticket id held valid with ⟨disk, c', done, kept⟩ | done
    · rw [done]
      refine ⟨c', _, kept, won, fun _ => rfl, fun loginId ho => ?_⟩
      rw [owned] at ho
      cases ho
      simp [FileCall.publishes]
    · rw [done]
      exact ⟨c, k, h, lost, fun _ => rfl, fun other _ => (Bool.or_false _).symm⟩
  | release held go =>
    obtain ⟨disk, c', done, kept⟩ := h.release held
    rw [done]
    exact ⟨c', _, kept, go, fun _ => rfl, fun loginId _ => (Bool.or_false _).symm⟩
  | @read _ loginId _ absent present =>
    have reply : s.perform (.read (documentPath loginId)) =
        (s, (c.documents loginId).elim (.error .notFound) fun m => .ok m.document) :=
      congrArg (Prod.mk s) (h.read loginId)
    rw [reply]
    cases document : c.documents loginId with
    | none => exact ⟨c, k, h, absent, fun _ => rfl, fun loginId _ => (Bool.or_false _).symm⟩
    | some m =>
      have own := (h.tidy.documents loginId m document).1
      refine ⟨c, _, h.learn (own ▸ document), present m own, fun _ => rfl,
        fun loginId _ => (Bool.or_false _).symm⟩
  | replace known aside go =>
    obtain ⟨disk, c', done, kept⟩ := h.replace known aside
    rw [done]
    exact ⟨c', _, kept, go, fun _ => rfl, fun loginId _ => (Bool.or_false _).symm⟩

section Operations

variable {β : Type} {owner : Option String} {ends : Stake → β → Prop} {k : Stake}

theorem proceeds_writeAside (empty : ∀ n text, k.aside ≠ some (n, some text)) {text : String}
    {f : Except Failure Path → FileScript β}
    (go : ∀ n, Proceeds owner ends { k with aside := some (n, some text) }
      (f (.ok (temporaryPath n)))) :
    Proceeds owner ends k (writeAside text >>= f) :=
  .freshPath empty fun n => .write rfl (go n)

theorem proceeds_reserve (empty : ∀ n text, k.aside ≠ some (n, some text))
    (absent : k.reserved = none) {key loginId : String}
    {f : Except Failure (Except FileError Unit) → FileScript β}
    (won : ∀ n, Proceeds owner ends
      { k with aside := some (n, none), reserved := some (key, loginId) } (f (.ok (.ok ()))))
    (lost : ∀ n, Proceeds owner ends { k with aside := some (n, none) }
      (f (.ok (.error .alreadyExists)))) :
    Proceeds owner ends k (createExclusive (emailFolder ++ [key]) loginId >>= f) :=
  .freshPath empty fun n =>
    .write rfl (.reserve rfl absent (.remove rfl (won n)) (.remove rfl (lost n)))

theorem proceeds_publish (empty : ∀ n text, k.aside ≠ some (n, some text)) {m : Member} {i : Nat}
    (owned : owner = some m.loginId) (absent : k.published = none) (ticket : k.ticket = some i)
    (id : m.id = idAt i) (held : k.reserved = some (emailKey m.email, m.loginId))
    (valid : LoginId.check m.loginId = .ok ())
    {f : Except Failure (Except FileError Unit) → FileScript β}
    (won : ∀ n, Proceeds owner ends
      { k with aside := some (n, none), reserved := none, published := some m } (f (.ok (.ok ()))))
    (lost : ∀ n, Proceeds owner ends { k with aside := some (n, none) }
      (f (.ok (.error .alreadyExists)))) :
    Proceeds owner ends k (createExclusive (documentPath m.loginId) m.document >>= f) :=
  .freshPath empty fun n => .write rfl
    (.publish owned rfl absent ticket id held valid (.remove rfl (won n)) (.remove rfl (lost n)))

/-- A registration reports the member whose document it put in place. -/
def Reports (m : NewMember) (k : Stake) : Except Failure Member → Prop
  | .ok member => k.published = some member ∧ ∃ id, member = m.withId id
  | .error _ => k.published = none

theorem insert_proceeds (m : NewMember) :
    Proceeds (some m.loginId.text) (Reports m) {} (insert m) := by
  refine .takeId rfl rfl fun i => ?_
  refine proceeds_reserve (by simp) rfl (fun n => ?_) fun n => ?_
  · refine proceeds_publish (m := m.withId (idAt i)) (by simp) rfl rfl rfl rfl rfl m.loginId.valid
      (fun n => ?_) fun n => ?_
    · exact .done ⟨by simp, rfl⟩ ⟨rfl, idAt i, rfl⟩
    · exact .release rfl (.done ⟨by simp, rfl⟩ rfl)
  · exact .done ⟨by simp, rfl⟩ rfl

theorem proceeds_find {loginId : String} {f : Except Failure (Option Member) → FileScript β}
    (absent : Proceeds owner ends k (f (.ok none)))
    (present : ∀ m : Member, m.loginId = loginId →
      Proceeds owner ends { k with known := some m } (f (.ok (some m)))) :
    Proceeds owner ends k (find loginId >>= f) := by
  unfold find
  split
  · exact absent
  · refine .read absent fun m own => ?_
    simp only [Script.bind, Member.parse_document]
    exact present m own

theorem update_proceeds (loginId passwordHash : String) :
    Proceeds none (fun _ _ => True) {} (update loginId passwordHash) := by
  refine proceeds_find (.done ⟨by simp, rfl⟩ trivial) fun m own => ?_
  refine proceeds_writeAside (by simp) fun n => ?_
  subst own
  exact .replace rfl rfl (.done ⟨by simp, rfl⟩ trivial)

end Operations

end MemberAuth.Store
