import MemberAuth.Proofs.Store.Mishaps
import MemberAuth.Proofs.Store.Persistence

/-!
# The store survives failing file steps

Registrations and password changes one after another, any of whose file steps may fail, the last one
perhaps cut off for good. Files that should have gone may stay behind: parts of texts at temporary
paths that are never used again, and reservations without a document. The documents do not suffer:
each is whole, with its address reserved, and an operation has changed one exactly if it says so.
-/
namespace MemberAuth.Store

open Trial

/-- What changes the members. -/
inductive Edit
  | insert (m : NewMember)
  | update (loginId passwordHash : String)

namespace Edit

def loginId : Edit → String
  | insert m => m.loginId.text
  | update loginId _ => loginId

abbrev Reply : Edit → Type
  | insert _ => Member
  | update _ _ => Unit

def script : (e : Edit) → FileScript (Except Failure e.Reply)
  | insert m => Store.insert m
  | update loginId passwordHash => Store.update loginId passwordHash

end Edit

/-- Every document is that of a member whose address is reserved for it, and temporary paths are
free from a number on. -/
structure Sane (v : Contents) (n : Nat) : Prop where
  documents : ∀ loginId text, v (.document loginId) = some text → ∃ m : Member,
    text = m.document ∧ m.loginId = loginId ∧ LoginId.check loginId = .ok () ∧
      v (.reservation (emailKey m.email)) = some loginId
  fresh : ∀ k, n ≤ k → v (.temporary k) = none

namespace Sane

variable {v : Contents} {n : Nat}

theorem temporary (h : Sane v n) (part : Option String) :
    Sane (Function.update v (.temporary n) part) (n + 1) := by
  constructor
  · intro loginId text there
    rw [Function.update_of_ne (by simp)] at there
    obtain ⟨m, hm, own, valid, reserved⟩ := h.documents loginId text there
    refine ⟨m, hm, own, valid, ?_⟩
    rwa [Function.update_of_ne (by simp)]
  · intro k hk
    have other : Site.temporary k ≠ .temporary n := by
      rintro ⟨⟩
      omega
    rw [Function.update_of_ne other]
    exact h.fresh k (by omega)

theorem reserve (h : Sane v n) {key : String} (free : v (.reservation key) = none)
    (loginId : String) : Sane (Function.update v (.reservation key) (some loginId)) n := by
  constructor
  · intro other text there
    rw [Function.update_of_ne (by simp)] at there
    obtain ⟨m, hm, own, valid, reserved⟩ := h.documents other text there
    refine ⟨m, hm, own, valid, ?_⟩
    rw [Function.update_of_ne]
    · exact reserved
    · rintro same
      rw [same, free] at reserved
      cases reserved
  · intro k hk
    rw [Function.update_of_ne (by simp)]
    exact h.fresh k hk

theorem release (h : Sane v n) {key : String}
    (unused : ∀ (loginId : String) (m : Member), v (.document loginId) = some m.document →
      emailKey m.email ≠ key) : Sane (Function.update v (.reservation key) none) n := by
  constructor
  · intro loginId text there
    rw [Function.update_of_ne (by simp)] at there
    obtain ⟨m, rfl, own, valid, reserved⟩ := h.documents loginId text there
    refine ⟨m, rfl, own, valid, ?_⟩
    rw [Function.update_of_ne]
    · exact reserved
    · rintro ⟨⟩
      exact unused loginId m there rfl
  · intro k hk
    rw [Function.update_of_ne (by simp)]
    exact h.fresh k hk

theorem publish (h : Sane v n) {m : Member} (valid : LoginId.check m.loginId = .ok ())
    (reserved : v (.reservation (emailKey m.email)) = some m.loginId) :
    Sane (Function.update v (.document m.loginId) (some m.document)) n := by
  constructor
  · intro loginId text there
    by_cases same : loginId = m.loginId
    · subst same
      rw [Function.update_self] at there
      cases there
      refine ⟨m, rfl, rfl, valid, ?_⟩
      rwa [Function.update_of_ne (by simp)]
    · rw [Function.update_of_ne (by simpa using same)] at there
      obtain ⟨o, ho, own, valid, reserved⟩ := h.documents loginId text there
      refine ⟨o, ho, own, valid, ?_⟩
      rwa [Function.update_of_ne (by simp)]
  · intro k hk
    rw [Function.update_of_ne (by simp)]
    exact h.fresh k hk

/-- A reservation that is not there is nobody's. -/
theorem unused (h : Sane v n) {key : String} (free : v (.reservation key) = none)
    (loginId : String) (m : Member) (there : v (.document loginId) = some m.document) :
    emailKey m.email ≠ key := by
  rintro rfl
  obtain ⟨o, same, _, _, reserved⟩ := h.documents loginId _ there
  obtain rfl := Member.document_injective same
  rw [free] at reserved
  cases reserved

end Sane

section Parts

variable {fails : FileCall → Prop} {always : Trial → Prop} {v : Contents} {i : Int64} {n : Nat}
  {ps : List Path} {t : Trial}

theorem guarded_removeQuietly {ends : Unit → Trial → Prop} {x : Site} (h : t.Shows v i n ps)
    (now : always t)
    (gone : ∀ t' : Trial, t'.Shows (Function.update v x none) i n ps → always t' ∧ ends () t')
    (left : ∀ t' : Trial, fails (.remove x.path) → t'.Shows v i n ps → always t' ∧ ends () t') :
    Guarded fails always ends (removeQuietly x.path) t := by
  refine .call now ?_
  intro t' r step
  rcases h.remove step with after | ⟨may, after⟩
  · obtain ⟨later, ended⟩ := gone t' after
    exact .done later ended
  · obtain ⟨later, ended⟩ := left t' may after
    exact .done later ended

/-- A text is written aside, or a part of it may stay behind. -/
theorem guarded_writeAside {ends : Except Failure Path → Trial → Prop} {text : String}
    (h : t.Shows v i n ps) (start : always t)
    (amid : ∀ (t' : Trial) part, t'.Shows (Function.update v (.temporary n) part) i (n + 1) ps →
      always t')
    (written : ∀ t' : Trial, t'.Shows (Function.update v (.temporary n) (some text)) i (n + 1) ps →
      ends (.ok (Site.temporary n).path) t')
    (failed : ∀ (t' : Trial) part,
      t'.Shows (Function.update v (.temporary n) part) i (n + 1) ps →
      part = none ∨ fails (.remove (Site.temporary n).path) → ends (.error ioFailure) t') :
    Guarded fails always ends (writeAside text) t := by
  rw [writeAside]
  refine Guarded.ask start ?_
  intro t₁ temp step
  obtain ⟨rfl, fresh⟩ := h.freshPath step
  refine Guarded.ask (amid t₁ (v (.temporary n)) (by rwa [Function.update_eq_self])) ?_
  intro t₂ r step
  rcases fresh.write step with ⟨rfl, after⟩ | ⟨e, part, rfl, after⟩
  · exact .done (amid t₂ _ after) (written t₂ after)
  · refine Guarded.bind (guarded_removeQuietly after (amid t₂ part after) ?_ ?_)
    · intro t₃ gone
      rw [Function.update_idem] at gone
      exact ⟨amid t₃ none gone, .done (amid t₃ none gone) (failed t₃ none gone (Or.inl rfl))⟩
    · intro t₃ may left
      exact ⟨amid t₃ part left, .done (amid t₃ part left) (failed t₃ part left (Or.inr may))⟩

/-- The table has the document of a member under this login id. -/
def Contents.Has (v : Contents) (loginId : String) (m : Member) : Prop :=
  LoginId.check loginId = .ok () ∧
    ∃ text, v (.document loginId) = some text ∧ Member.parse text = .ok m

/-- A member that is found has its document in the table. -/
theorem guarded_look {ends : Except Failure (Option Member) → Trial → Prop} {loginId : String}
    (h : t.Shows v i n ps) (still : ∀ t' : Trial, t'.Shows v i n ps → always t')
    (ended : ∀ (t' : Trial) found, t'.Shows v i n ps →
      (∀ m, found = .ok (some m) → v.Has loginId m) → ends found t') :
    Guarded fails always ends (find loginId) t := by
  rw [find]
  split
  · exact .done (still t h) (ended t _ h (by simp))
  rename_i valid
  refine Guarded.ask (still t h) ?_
  intro t' r step
  obtain ⟨shows, there⟩ := Trial.Shows.read (x := .document loginId) h step
  cases r with
  | error e =>
    cases e with
    | notFound => exact .done (still t' shows) (ended t' _ shows (by simp))
    | alreadyExists => exact .done (still t' shows) (ended t' _ shows (by simp))
    | other => exact .done (still t' shows) (ended t' _ shows (by simp))
  | ok text =>
    dsimp only
    split
    · rename_i m parsed
      refine .done (still t' shows) (ended t' _ shows ?_)
      rintro _ ⟨⟩
      exact ⟨valid, text, there text rfl, parsed⟩
    · exact .done (still t' shows) (ended t' _ shows (by simp))

/-- A change of a hash puts one document in place of another, or may leave a text aside. -/
theorem guarded_replace {ends : Except Failure Unit → Trial → Prop} {loginId passwordHash : String}
    (h : t.Shows v i n ps) (still : ∀ t' : Trial, t'.Shows v i n ps → always t')
    (amid : ∀ (t' : Trial) part, t'.Shows (Function.update v (.temporary n) part) i (n + 1) ps →
      always t')
    (unread : ∀ (t' : Trial) failure, t'.Shows v i n ps → ends (.error failure) t')
    (failed : ∀ (t' : Trial) part failure,
      t'.Shows (Function.update v (.temporary n) part) i (n + 1) ps →
      part = none ∨ fails (.remove (Site.temporary n).path) → ends (.error failure) t')
    (replaced : ∀ (t' : Trial) m, v.Has loginId m →
      t'.Shows (Function.update (Function.update v (.temporary n) none) (.document loginId)
        (some { m with passwordHash }.document)) i (n + 1) (ps ++ [documentPath loginId]) →
      always t' ∧ ends (.ok ()) t') :
    Guarded fails always ends (Store.update loginId passwordHash) t := by
  rw [Store.update]
  refine Guarded.bind (guarded_look h still ?_)
  intro t₁ found shows there
  rcases found with e | _ | m
  · exact .done (still t₁ shows) (unread t₁ _ shows)
  · exact .done (still t₁ shows) (unread t₁ _ shows)
  · refine Guarded.bind (guarded_writeAside shows (still t₁ shows) amid ?_ ?_)
    · intro t₂ aside
      refine Guarded.ask (amid t₂ _ aside) ?_
      intro t₃ r step
      rcases aside.rename (.document loginId) (Function.update_self ..) step with
        ⟨rfl, after⟩ | ⟨e, rfl, after⟩
      · rw [Function.update_idem] at after
        obtain ⟨now, ended⟩ := replaced t₃ m (there m rfl) after
        exact .done now ended
      · refine Guarded.bind (guarded_removeQuietly (x := .temporary n) after (amid t₃ _ after) ?_ ?_)
        · intro t₄ gone
          rw [Function.update_idem] at gone
          exact ⟨amid t₄ none gone, .done (amid t₄ none gone) (failed t₄ none _ gone (Or.inl rfl))⟩
        · intro t₄ may left
          exact ⟨amid t₄ _ left, .done (amid t₄ _ left) (failed t₄ _ _ left (Or.inr may))⟩
    · intro t₂ part shows cause
      exact .done (amid t₂ part shows) (failed t₂ part _ shows cause)

/-- A file is put in place where nothing was, or not at all. -/
theorem guarded_createExclusive {ends : Except Failure (Except FileError Unit) → Trial → Prop}
    {x : Site} {text : String} (h : t.Shows v i n ps) (apart : x ≠ .temporary n) (start : always t)
    (amid : ∀ (t' : Trial) part, t'.Shows (Function.update v (.temporary n) part) i (n + 1) ps →
      always t')
    (linked : ∀ (t' : Trial) part, v x = none →
      t'.Shows (Function.update (Function.update v (.temporary n) part) x (some text)) i (n + 1)
        (ps ++ [x.path]) → always t')
    (failed : ∀ (t' : Trial) part r, r ≠ .ok (.ok ()) →
      t'.Shows (Function.update v (.temporary n) part) i (n + 1) ps →
      part = none ∨ fails (.remove (Site.temporary n).path) → ends r t')
    (created : ∀ (t' : Trial) part, v x = none →
      t'.Shows (Function.update (Function.update v (.temporary n) part) x (some text)) i (n + 1)
        (ps ++ [x.path]) →
      part = none ∨ fails (.remove (Site.temporary n).path) → ends (.ok (.ok ())) t') :
    Guarded fails always ends (createExclusive x.path text) t := by
  rw [createExclusive]
  refine Guarded.bind (guarded_writeAside h start amid ?_ ?_)
  · intro t₁ aside
    refine Guarded.ask (amid t₁ _ aside) ?_
    intro t₂ r step
    rcases aside.link (Function.update_self ..) step with ⟨rfl, free, after⟩ | ⟨e, rfl, after⟩
    · rw [Function.update_of_ne apart] at free
      refine Guarded.bind (guarded_removeQuietly after (linked t₂ _ free after) ?_ ?_)
      · intro t₃ gone
        rw [Function.update_comm apart, Function.update_idem] at gone
        exact ⟨linked t₃ none free gone,
          .done (linked t₃ none free gone) (created t₃ none free gone (Or.inl rfl))⟩
      · intro t₃ may left
        exact ⟨linked t₃ _ free left,
          .done (linked t₃ _ free left) (created t₃ _ free left (Or.inr may))⟩
    · refine Guarded.bind (guarded_removeQuietly after (amid t₂ _ after) ?_ ?_)
      · intro t₃ gone
        rw [Function.update_idem] at gone
        exact ⟨amid t₃ none gone,
          .done (amid t₃ none gone) (failed t₃ none _ (by simp) gone (Or.inl rfl))⟩
      · intro t₃ may left
        exact ⟨amid t₃ _ left, .done (amid t₃ _ left) (failed t₃ _ _ (by simp) left (Or.inr may))⟩
  · intro t₁ part left cause
    exact .done (amid t₁ part left) (failed t₁ part _ (by simp) left cause)

end Parts

namespace Edit

/-- The text that an edit is to put in place, from these files on and with this id to give out. -/
def Writes (i : Int64) (v : Contents) (text : String) : Edit → Prop
  | insert m => v (.document m.loginId.text) = none ∧ text = (m.withId i).document
  | update loginId passwordHash => ∃ m : Member, v (.document loginId) = some m.document ∧
      text = { m with passwordHash }.document

/-- How things stand while an edit is under way: the documents are those from before, but for the
one that the edit may have put in place. -/
def Amid (e : Edit) (i : Int64) (v : Contents) (t : Trial) : Prop :=
  ∃ v', Holds t.shelf.disk v' ∧ Sane v' t.shelf.freshCount ∧
    (documentPath e.loginId ∉ t.placed ∧ (∀ loginId, v' (.document loginId) = v (.document loginId)) ∨
      documentPath e.loginId ∈ t.placed ∧ ∃ text, e.Writes i v text ∧
        ∀ loginId, v' (.document loginId) =
          if loginId = e.loginId then some text else v (.document loginId))

/-- What the answer of an edit says. -/
structure Ends (e : Edit) (fails : FileCall → Prop) (v : Contents) (r : Except Failure e.Reply)
    (t : Trial) : Prop where
  told : r.isOk = true ↔ documentPath e.loginId ∈ t.placed
  undone : (∀ p, ¬ fails (.remove p)) → r.isOk = false → Holds t.shelf.disk v

end Edit

section Edits

variable {fails : FileCall → Prop} {e : Edit} {v v' : Contents} {i j : Int64} {n k : Nat}
  {ps : List Path} {t : Trial}

theorem Trial.Shows.amid_before (h : t.Shows v' j k ps) (sane : Sane v' k)
    (unplaced : documentPath e.loginId ∉ ps)
    (same : ∀ loginId, v' (.document loginId) = v (.document loginId)) : e.Amid i v t := by
  refine ⟨v', h.holds, ?_, Or.inl ⟨?_, same⟩⟩
  · rwa [h.freshCount]
  · rwa [h.placed]

theorem Trial.Shows.amid_after (h : t.Shows v' j k ps) (sane : Sane v' k)
    (placed : documentPath e.loginId ∈ ps) {text : String} (writes : e.Writes i v text)
    (new : ∀ loginId, v' (.document loginId) =
      if loginId = e.loginId then some text else v (.document loginId)) : e.Amid i v t := by
  refine ⟨v', h.holds, ?_, Or.inr ⟨?_, text, writes, new⟩⟩
  · rwa [h.freshCount]
  · rwa [h.placed]

theorem Trial.Shows.ends_error (h : t.Shows v' j k ps) (unplaced : documentPath e.loginId ∉ ps)
    (undone : (∀ p, ¬ fails (.remove p)) → v' = v) {failure : Failure} :
    e.Ends fails v (.error failure) t := by
  refine ⟨?_, ?_⟩
  · rw [h.placed]
    exact ⟨fun ok => Bool.noConfusion ok, fun placed => absurd placed unplaced⟩
  · intro sound _
    rw [← undone sound]
    exact h.holds

theorem creationResult_of_ne {r : Except Failure (Except FileError Unit)} (h : r ≠ .ok (.ok ()))
    (key : String) : ∃ e, creationResult key r = .error e := by
  match r with
  | .error e => exact ⟨e, rfl⟩
  | .ok (.ok ()) => exact absurd rfl h
  | .ok (.error .alreadyExists) => exact ⟨_, rfl⟩
  | .ok (.error .notFound) => exact ⟨_, rfl⟩
  | .ok (.error .other) => exact ⟨_, rfl⟩

/-- The document is put in place, or the address is given back if that is possible. -/
theorem guarded_publishing (m : NewMember) (sane : Sane v' n)
    (same : ∀ loginId, v' (.document loginId) = v (.document loginId))
    (reserved : v' (.reservation m.email.key) = some m.loginId.text)
    (unused : ∀ (loginId : String) (o : Member), v (.document loginId) = some o.document →
      emailKey o.email ≠ m.email.key)
    (back : (∀ p, ¬ fails (.remove p)) →
      Function.update v' (.reservation m.email.key) none = v)
    (h : t.Shows v' j n ps) (unplaced : documentPath (Edit.insert m).loginId ∉ ps) :
    Guarded fails ((Edit.insert m).Amid i v) ((Edit.insert m).Ends fails v)
      (publishing (reservationPath m.email) (m.withId i)) t := by
  have amid : ∀ (t' : Trial) part, t'.Shows (Function.update v' (.temporary n) part) j (n + 1) ps →
      (Edit.insert m).Amid i v t' := by
    intro t' part shows
    refine shows.amid_before (sane.temporary part) unplaced ?_
    simp [same]
  have linked : ∀ (t' : Trial) part, v' (.document m.loginId.text) = none →
      t'.Shows (Function.update (Function.update v' (.temporary n) part)
        (.document m.loginId.text) (some (m.withId i).document)) j (n + 1)
        (ps ++ [documentPath m.loginId.text]) → (Edit.insert m).Amid i v t' := by
    intro t' part absent shows
    rw [same] at absent
    refine shows.amid_after ?_ (List.mem_append_right ps List.mem_cons_self) ⟨absent, rfl⟩ ?_
    · apply (sane.temporary part).publish (m := m.withId i) m.loginId.valid
      rw [Function.update_of_ne (by simp)]
      exact reserved
    · intro loginId
      by_cases own : loginId = m.loginId.text
      · subst own
        rw [Function.update_self, Edit.loginId, if_pos rfl]
      · rw [Function.update_of_ne (by simpa using own), Function.update_of_ne (by simp), same,
          Edit.loginId, if_neg own]
  refine Guarded.bind (guarded_createExclusive (x := .document m.loginId.text) h (by simp)
    (h.amid_before sane unplaced same) amid linked ?_ ?_)
  · intro t₁ part r failed shows cause
    obtain ⟨e, refused⟩ := creationResult_of_ne failed (m.withId i).loginId
    rw [refused]
    refine Guarded.bind (guarded_removeQuietly (x := .reservation m.email.key) shows
      (amid t₁ part shows) ?_ ?_)
    · intro t₂ gone
      have after : (Edit.insert m).Amid i v t₂ := by
        refine gone.amid_before ((sane.temporary part).release ?_) unplaced (by simp [same])
        intro loginId o there
        rw [Function.update_of_ne (by simp), same] at there
        exact unused loginId o there
      refine ⟨after, .done after (gone.ends_error unplaced ?_)⟩
      intro sound
      obtain rfl := cause.resolve_right (sound _)
      rw [update_none (sane.fresh n (Nat.le_refl n))]
      exact back sound
    · intro t₂ may left
      refine ⟨amid t₂ part left, .done (amid t₂ part left) (left.ends_error unplaced ?_)⟩
      intro sound
      exact absurd may (sound _)
  · intro t₁ part absent shows cause
    refine .done (linked t₁ part absent shows) ⟨?_, ?_⟩
    · rw [shows.placed]
      exact iff_of_true rfl (List.mem_append_right ps List.mem_cons_self)
    · intro _ failed
      cases failed

theorem guarded_insert (m : NewMember) (sane : Sane v n) (h : t.Shows v i n []) :
    Guarded fails ((Edit.insert m).Amid i v) ((Edit.insert m).Ends fails v)
      (Edit.insert m).script t := by
  have idle := update_none (sane.fresh n (Nat.le_refl n))
  have other : documentPath (Edit.insert m).loginId ∉ [reservationPath m.email] := by
    rw [List.mem_singleton]
    exact (reservationPath_ne_documentPath m.email m.loginId.text).symm
  have reserve : ∀ part, v (.reservation m.email.key) = none →
      Sane (Function.update (Function.update v (.temporary n) part) (.reservation m.email.key)
        (some m.loginId.text)) (n + 1) := by
    intro part free
    apply (sane.temporary part).reserve
    rwa [Function.update_of_ne (by simp)]
  rw [Edit.script, Store.insert]
  refine Guarded.ask (h.amid_before sane List.not_mem_nil fun _ => rfl) ?_
  intro t₁ id step
  obtain ⟨rfl, taken⟩ := h.takeId step
  refine Guarded.bind (guarded_createExclusive (x := .reservation m.email.key) taken (by simp)
    (taken.amid_before sane List.not_mem_nil fun _ => rfl) ?_ ?_ ?_ ?_)
  · intro t₂ part shows
    exact shows.amid_before (sane.temporary part) List.not_mem_nil (by simp)
  · intro t₂ part free shows
    exact shows.amid_before (reserve part free) other (by simp)
  · intro t₂ part r failed shows cause
    obtain ⟨e, refused⟩ := creationResult_of_ne failed (m.withId id).email
    rw [refused]
    refine .done ?_ ?_
    · exact shows.amid_before (sane.temporary part) List.not_mem_nil (by simp)
    · refine shows.ends_error List.not_mem_nil ?_
      intro sound
      obtain rfl := cause.resolve_right (sound _)
      exact idle
  · intro t₂ part free shows cause
    refine guarded_publishing m (reserve part free) ?_ (Function.update_self ..)
      (sane.unused free) ?_ shows other
    · simp
    · intro sound
      obtain rfl := cause.resolve_right (sound _)
      rw [idle, Function.update_idem, update_none free]

/-- A document that can be read is that of a member, as it stands. -/
theorem Sane.of_has (sane : Sane v n) {loginId : String} {m : Member} (has : v.Has loginId m) :
    v (.document loginId) = some m.document ∧ m.loginId = loginId ∧
      LoginId.check loginId = .ok () ∧ v (.reservation (emailKey m.email)) = some loginId := by
  obtain ⟨_, text, there, parsed⟩ := has
  obtain ⟨m', rfl, own, valid, reserved⟩ := sane.documents loginId text there
  rw [Member.parse_document] at parsed
  cases parsed
  exact ⟨there, own, valid, reserved⟩

theorem guarded_update (loginId passwordHash : String) (sane : Sane v n) (h : t.Shows v i n []) :
    Guarded fails ((Edit.update loginId passwordHash).Amid i v)
      ((Edit.update loginId passwordHash).Ends fails v)
      (Edit.update loginId passwordHash).script t := by
  have idle := update_none (sane.fresh n (Nat.le_refl n))
  apply guarded_replace h
  case still =>
    intro t' shows
    exact shows.amid_before sane List.not_mem_nil fun _ => rfl
  case amid =>
    intro t' part shows
    exact shows.amid_before (sane.temporary part) List.not_mem_nil (by simp)
  case unread =>
    intro t' failure shows
    exact shows.ends_error List.not_mem_nil fun _ => rfl
  case failed =>
    intro t' part failure shows cause
    refine shows.ends_error List.not_mem_nil ?_
    intro sound
    obtain rfl := cause.resolve_right (sound _)
    exact idle
  case replaced =>
    intro t' m has after
    obtain ⟨document, own, valid, reserved⟩ := sane.of_has has
    subst own
    have spared : Sane v (n + 1) := by
      have aside := sane.temporary none
      rwa [idle] at aside
    rw [idle] at after
    refine ⟨after.amid_after ?_ List.mem_cons_self ⟨m, document, rfl⟩ ?_, ?_, ?_⟩
    · exact spared.publish (m := { m with passwordHash }) valid reserved
    · intro loginId
      rw [Function.update_apply, Edit.loginId]
      simp only [Site.document.injEq]
    · rw [after.placed]
      exact iff_of_true rfl List.mem_cons_self
    · intro _ failed
      cases failed

theorem guarded_edit (e : Edit) (sane : Sane v n) (h : t.Shows v i n []) :
    Guarded fails (e.Amid i v) (e.Ends fails v) e.script t := by
  cases e with
  | insert m => exact guarded_insert m sane h
  | update loginId passwordHash => exact guarded_update loginId passwordHash sane h

end Edits

section Sane

variable {fails : FileCall → Prop} {s : Shelf} {v : Contents} {t : Trial}

theorem sane_bare (n : Nat) : Sane Workshop.bareCatalog.contents n := by
  constructor
  · intro loginId text there
    cases there
  · intro k _
    rfl

/-- Wherever it is cut off and whatever fails, an edit leaves sane files. -/
theorem Sane.edit (sane : Sane v s.freshCount) (holds : Holds s.disk v) {e : Edit}
    {result : Option (Except Failure e.Reply)} (carried : Carried fails e.script ⟨s, []⟩ t result) :
    ∃ v', Holds t.shelf.disk v' ∧ Sane v' t.shelf.freshCount := by
  obtain ⟨⟨v', holds', sane', _⟩, _⟩ :=
    (guarded_edit (i := s.nextId) e sane ⟨holds, rfl, rfl, rfl⟩).carried carried
  exact ⟨v', holds', sane'⟩

/-- A look-up leaves all files as they are. -/
theorem Sane.find (sane : Sane v s.freshCount) (holds : Holds s.disk v) {loginId : String}
    {result : Option (Except Failure (Option Member))}
    (carried : Carried fails (Store.find loginId) ⟨s, []⟩ t result) :
    Holds t.shelf.disk v ∧ Sane v t.shelf.freshCount := by
  have guarded : Guarded fails (Trial.Shows · v s.nextId s.freshCount []) (fun _ _ => True)
      (Store.find loginId) ⟨s, []⟩ :=
    guarded_look ⟨holds, rfl, rfl, rfl⟩ (fun _ shows => shows) fun _ _ _ _ => trivial
  have shows := (guarded.carried carried).1
  exact ⟨shows.holds, shows.freshCount.symm ▸ sane⟩

end Sane

/-- Edits and look-ups one after another, each carried out to its end, though any step may fail. -/
inductive AfterEdits (opened : Shelf) : Shelf → Prop
  | start : AfterEdits opened opened
  | edit {s e t r} (before : AfterEdits opened s)
    (carried : Carried (fun _ => True) (Edit.script e) ⟨s, []⟩ t (some r)) :
    AfterEdits opened t.shelf
  | find {s loginId t r} (before : AfterEdits opened s)
    (carried : Carried (fun _ => True) (Store.find loginId) ⟨s, []⟩ t (some r)) :
    AfterEdits opened t.shelf

theorem AfterEdits.sane {freshCount : Nat} {opened s : Shelf}
    (ok : (openOn Disk.empty freshCount).2 = .ok opened) (h : AfterEdits opened s) :
    ∃ v, Holds s.disk v ∧ Sane v s.freshCount := by
  induction h with
  | start =>
    rw [Workshop.openOn_empty] at ok
    cases ok
    exact ⟨_, Workshop.holds_bareDisk, sane_bare freshCount⟩
  | edit before carried ih =>
    obtain ⟨v, holds, sane⟩ := ih
    exact sane.edit holds carried
  | find before carried ih =>
    obtain ⟨v, holds, sane⟩ := ih
    exact ⟨v, sane.find holds carried⟩

/-- Every document is whole and has its address reserved for it, so no two have an address in
common. -/
structure Consistent (d : Disk) : Prop where
  complete : ∀ loginId e, d.entry? (documentPath loginId) = some e → ∃ m : Member,
    m.loginId = loginId ∧ e = .file m.document ∧
      d.entry? (emailFolder ++ [emailKey m.email]) = some (.file loginId)
  apart : ∀ m n : Member, d.entry? (documentPath m.loginId) = some (.file m.document) →
    d.entry? (documentPath n.loginId) = some (.file n.document) →
    emailKey m.email = emailKey n.email → m = n

theorem Sane.consistent {v : Contents} {n : Nat} (sane : Sane v n) {d : Disk} (holds : Holds d v) :
    Consistent d := by
  have complete : ∀ loginId e, d.entry? (documentPath loginId) = some e → ∃ m : Member,
      m.loginId = loginId ∧ e = .file m.document ∧
        d.entry? (emailFolder ++ [emailKey m.email]) = some (.file loginId) := by
    intro loginId e there
    have site := holds.sites (.document loginId)
    rw [Site.path, there] at site
    obtain ⟨text, document, rfl⟩ := Option.map_eq_some_iff.mp site.symm
    obtain ⟨m, rfl, own, _, reserved⟩ := sane.documents loginId text document
    exact ⟨m, own, rfl, (holds.sites (.reservation _)).trans (congrArg _ reserved)⟩
  refine ⟨complete, ?_⟩
  intro m n hm hn same
  obtain ⟨m', _, document, reserved⟩ := complete _ _ hm
  obtain rfl := Member.document_injective (Entry.file.inj document)
  obtain ⟨n', _, document', reserved'⟩ := complete _ _ hn
  obtain rfl := Member.document_injective (Entry.file.inj document')
  rw [same, reserved'] at reserved
  have owner : n.loginId = m.loginId := Entry.file.inj (Option.some.inj reserved)
  rw [owner, hm] at hn
  exact Member.document_injective (Entry.file.inj (Option.some.inj hn))

namespace Edit

/-- A document has come to its place whole: that of the new member under the next id, or that of the
stored one with the new hash. -/
def Places (e : Edit) (i : Int64) (d d' : Disk) : Prop :=
  match e with
  | insert m => d.entry? (documentPath m.loginId.text) = none ∧
    d'.entry? (documentPath m.loginId.text) = some (.file (m.withId i).document)
  | update loginId passwordHash => ∃ m : Member,
    d.entry? (documentPath loginId) = some (.file m.document) ∧
      d'.entry? (documentPath loginId) = some (.file { m with passwordHash }.document)

/-- What an edit has done to the documents so far. -/
structure Effect (e : Edit) (s : Shelf) (t : Trial) : Prop where
  others : ∀ loginId, loginId ≠ e.loginId →
    t.shelf.disk.entry? (documentPath loginId) = s.disk.entry? (documentPath loginId)
  unplaced : documentPath e.loginId ∉ t.placed →
    t.shelf.disk.entry? (documentPath e.loginId) = s.disk.entry? (documentPath e.loginId)
  placed : documentPath e.loginId ∈ t.placed → e.Places s.nextId s.disk t.shelf.disk

theorem Amid.effect {e : Edit} {s : Shelf} {v : Contents} {t : Trial} (holds : Holds s.disk v)
    (h : e.Amid s.nextId v t) : Consistent t.shelf.disk ∧ e.Effect s t := by
  obtain ⟨v', holds', sane, documents⟩ := h
  refine ⟨sane.consistent holds', ?_⟩
  have before (loginId : String) : s.disk.entry? (documentPath loginId) =
    (v (.document loginId)).map Entry.file := holds.sites (.document loginId)
  have after (loginId : String) : t.shelf.disk.entry? (documentPath loginId) =
    (v' (.document loginId)).map Entry.file := holds'.sites (.document loginId)
  rcases documents with ⟨absent, same⟩ | ⟨there, text, writes, new⟩
  · refine ⟨?_, ?_, fun placed => absurd placed absent⟩
    · intro loginId _
      rw [before, after, same]
    · intro _
      rw [before, after, same]
  · refine ⟨?_, fun unplaced => absurd there unplaced, fun _ => ?_⟩
    · intro loginId other
      rw [before, after, new, if_neg other]
    · have here := new e.loginId
      rw [if_pos rfl] at here
      cases e with
      | insert m =>
        obtain ⟨free, rfl⟩ := writes
        refine ⟨?_, ?_⟩
        · rw [before, free, Option.map_none]
        · rw [after]
          exact congrArg (Option.map Entry.file) here
      | update loginId passwordHash =>
        obtain ⟨m, stored, rfl⟩ := writes
        refine ⟨m, ?_, ?_⟩
        · rw [before, stored, Option.map_some]
        · rw [after]
          exact congrArg (Option.map Entry.file) here

/-- In a run of edits from an empty directory on, with any failing steps and cut off anywhere, every
document is whole and has its address reserved, and an edit changes no document but its own, and that
one only by putting it in place. Its answer says truly whether it has done so. Unless a removal
fails, an edit that ends in an error leaves every file as it was. -/
theorem withstands {freshCount : Nat} {opened s : Shelf}
    (ok : (openOn Disk.empty freshCount).2 = .ok opened) (before : AfterEdits opened s)
    {fails : FileCall → Prop} {e : Edit} {t : Trial} {result : Option (Except Failure e.Reply)}
    (carried : Carried fails e.script ⟨s, []⟩ t result) :
    Consistent t.shelf.disk ∧ e.Effect s t ∧
      (∀ r, result = some r → (r.isOk = true ↔ documentPath e.loginId ∈ t.placed)) ∧
      ((∀ p, ¬ fails (.remove p)) → ∀ failure, result = some (.error failure) →
        SameFiles s.disk t.shelf.disk) := by
  obtain ⟨v, holds, sane⟩ := before.sane ok
  have guarded : Guarded fails (e.Amid s.nextId v) (e.Ends fails v) e.script ⟨s, []⟩ :=
    guarded_edit e sane ⟨holds, rfl, rfl, rfl⟩
  obtain ⟨amid, ended⟩ := guarded.carried carried
  obtain ⟨consistent, effect⟩ := amid.effect holds
  refine ⟨consistent, effect, fun r done => (ended r done).told, ?_⟩
  intro sound failure failed
  exact holds.sameFiles ((ended _ failed).undone sound rfl)

/-- A registration whose first write fails and leaves a part of the text. -/
theorem withstands_of_failed_write : ∃ t : Trial,
    Carried (fun c => ∃ p text, c = .write p text) (Edit.insert Workshop.ada).script
        ⟨⟨Workshop.bareDisk, 1, 0⟩, []⟩ t (some (.error ioFailure)) ∧
      Consistent t.shelf.disk ∧ SameFiles Workshop.bareDisk t.shelf.disk := by
  have carried : Carried (fun c => ∃ p text, c = .write p text) (Edit.insert Workshop.ada).script
      ⟨⟨Workshop.bareDisk, 1, 0⟩, []⟩ _ (some (.error ioFailure)) :=
    .step (.done .takeId) (.step (.done .freshPath) (.step (.writePart ⟨_, _, rfl⟩ "ad" .other)
      (.step (.done (.remove _)) (.finished _ _))))
  have opened : (openOn Disk.empty 0).2 = .ok ⟨Workshop.bareDisk, 1, 0⟩ :=
    congrArg Prod.snd (Workshop.openOn_empty 0)
  obtain ⟨consistent, _, _, same⟩ := withstands opened .start carried
  refine ⟨_, carried, consistent, same ?_ _ rfl⟩
  rintro p ⟨_, _, other⟩
  cases other

end Edit

end MemberAuth.Store
