import MemberAuth.Proofs.Store.Weather

/-!
# Registrations that are cut off

A registration puts two files in place, first the reservation of the address and then the document.
If it stops before the first, it can be made again after the store is opened anew, and if it stops
after the second, the member is there. In between, the address stays reserved for nobody: opening a
store looks at documents only, so from then on nobody can register with that address.
-/
namespace MemberAuth.Store

open Trial

/-- A store that was opened on an empty directory: after edits whose steps came in any order, after
further edits and look-ups, whatever failed and wherever they were cut off, and after being opened
again on what they left. -/
inductive Shelf.Lived : Shelf → Prop
  | interleaved {n s w} (ok : (openOn Disk.empty n).2 = .ok s)
    (run : Workshop.Reaches ⟨s, []⟩ w) : Lived w.shelf
  | edit {s e t result} (before : Lived s)
    (carried : Carried (fun _ => True) (Edit.script e) ⟨s, []⟩ t result) : Lived t.shelf
  | find {s loginId t result} (before : Lived s)
    (carried : Carried (fun _ => True) (Store.find loginId) ⟨s, []⟩ t result) : Lived t.shelf
  | reopened {s s'} (before : Lived s) (ok : (openOn s.disk s.freshCount).2 = .ok s') : Lived s'

/-- Files that the operations under way have in order are sane. -/
theorem Kept.sane {s : Shelf} {c : Catalog} {ks : List Stake} (h : Kept s c ks) :
    Sane c.contents s.freshCount := by
  constructor
  · intro loginId text there
    obtain ⟨m, document, rfl⟩ := Option.map_eq_some_iff.mp there
    obtain ⟨own, valid, reserved, _⟩ := h.tidy.documents loginId m document
    exact ⟨m, rfl, own, valid, reserved⟩
  · intro k high
    cases there : c.contents (.temporary k) with
    | none => rfl
    | some text =>
      obtain ⟨stake, mine, aside⟩ := h.tidy.temporaries k text there
      have low := ((h.tidy.backed stake mine).aside k _ aside).1
      omega

theorem Shelf.Lived.sane {s : Shelf} (h : s.Lived) :
    ∃ v, Holds s.disk v ∧ Sane v s.freshCount := by
  induction h with
  | interleaved ok run =>
    obtain ⟨c, _, arranged⟩ := Workshop.arranged_of_reaches ok run
    exact ⟨c.contents, arranged.kept.disk, arranged.kept.sane⟩
  | edit before carried ih =>
    obtain ⟨v, holds, sane⟩ := ih
    exact sane.edit holds carried
  | find before carried ih =>
    obtain ⟨v, holds, sane⟩ := ih
    exact ⟨v, sane.find holds carried⟩
  | reopened before ok ih =>
    obtain ⟨v, holds, sane⟩ := ih
    obtain ⟨_, rfl⟩ := holds.openOn ok
    exact ⟨v, holds, sane⟩

/-- Nobody has the login id or the address of a new member. -/
structure Shelf.Free (s : Shelf) (m : NewMember) : Prop where
  loginId : s.find m.loginId.text = .ok none
  email : ∀ owner o, s.find owner = .ok (some o) → emailKey o.email ≠ m.email.key

/-- What a restart makes of a registration, given the files that it had put in place. -/
inductive Aftermath (s : Shelf) (m : NewMember) (placed : List Path) (opened : Shelf) : Prop
  /-- The member is there. -/
  | published (both : placed = [reservationPath m.email, documentPath m.loginId.text])
    (found : opened.find m.loginId.text = .ok (some (m.withId s.nextId)))
  /-- The registration can be made again. -/
  | repeatable (nothing : placed = []) (unreserved : s.disk.entry? (reservationPath m.email) = none)
    (again : ((insert m).run Shelf.perform opened).2 = .ok (m.withId opened.nextId))
  /-- The address is reserved, now or from an earlier time, and no member has it. -/
  | stranded (because : placed = [] ∧ s.disk.entry? (reservationPath m.email) ≠ none ∨
      placed = [reservationPath m.email])
    (reserved : ∃ owner, opened.disk.entry? (reservationPath m.email) = some (.file owner))
    (unowned : ∀ owner o, opened.find owner = .ok (some o) → emailKey o.email ≠ m.email.key)
    (absent : opened.find m.loginId.text = .ok none)
    (again : ((insert m).run Shelf.perform opened).2 = .error (.duplicateMember m.email.text))

section Stages

variable {fails : FileCall → Prop} {always : Trial → Prop} {v v' : Contents} {i : Int64} {n : Nat}
  {ps : List Path} {t : Trial} {m : NewMember}

/-- The tables are the same but for temporary files. -/
def Contents.Alike (v v' : Contents) : Prop :=
  ∀ x : Site, (∀ n, x ≠ .temporary n) → v' x = v x

theorem Contents.alike_temporary (v : Contents) (n : Nat) (part : Option String) :
    v.Alike (Function.update v (.temporary n) part) :=
  fun _ lasting => Function.update_of_ne (lasting n) ..

theorem Contents.Alike.update (h : v.Alike v') (x : Site) (text : Option String) :
    Contents.Alike (Function.update v x text) (Function.update v' x text) := by
  intro y lasting
  rw [Function.update_apply, Function.update_apply, h y lasting]

/-- What a registration has made of the files, by what it has put in place. -/
inductive Stage (m : NewMember) (i : Int64) (v v' : Contents) : List Path → Prop
  | early (alike : v.Alike v') : Stage m i v v' []
  | reserved (alike : Contents.Alike
      (Function.update v (.reservation m.email.key) (some m.loginId.text)) v') :
    Stage m i v v' [reservationPath m.email]
  | published (alike : Contents.Alike
      (Function.update (Function.update v (.reservation m.email.key) (some m.loginId.text))
        (.document m.loginId.text) (some (m.withId i).document)) v') :
    Stage m i v v' [reservationPath m.email, documentPath m.loginId.text]

theorem Trial.Shows.stage {j : Int64} {k : Nat} (h : t.Shows v' j k ps)
    (stage : Stage m i v v' ps) : ∃ v', Holds t.shelf.disk v' ∧ Stage m i v v' t.placed := by
  rw [h.placed]
  exact ⟨v', h.holds, stage⟩

/-- With no failing step, a file is put in place where nothing was. -/
theorem guarded_create {ends : Except Failure (Except FileError Unit) → Trial → Prop} {x : Site}
    {text : String} (sound : ∀ c, ¬ fails c) (h : t.Shows v i n ps)
    (idle : v (.temporary n) = none) (apart : x ≠ .temporary n) (free : v x = none)
    (start : always t)
    (amid : ∀ (t' : Trial) part, t'.Shows (Function.update v (.temporary n) part) i (n + 1) ps →
      always t')
    (linked : ∀ (t' : Trial) part,
      t'.Shows (Function.update (Function.update v (.temporary n) part) x (some text)) i (n + 1)
        (ps ++ [x.path]) → always t')
    (created : ∀ t' : Trial, t'.Shows (Function.update v x (some text)) i (n + 1) (ps ++ [x.path]) →
      ends (.ok (.ok ())) t') :
    Guarded fails always ends (createExclusive x.path text) t := by
  have ran : ((createExclusive x.path text).run Shelf.perform t.shelf).2 = .ok (.ok ()) := by
    rw [← h.freshCount] at idle apart
    obtain ⟨disk, run, _⟩ := run_createExclusive h.holds idle apart free text
    rw [run]
  have guarded : Guarded fails always (fun r t' => r = .ok (.ok ()) → ends r t')
      (createExclusive x.path text) t := by
    refine guarded_createExclusive h apart start amid (fun t' part _ => linked t' part) ?_ ?_
    · intro t' part r failed _ _ told
      exact absurd told failed
    · intro t' part _ shows cause _
      obtain rfl := cause.resolve_right (sound _)
      rw [update_none idle] at shows
      exact created t' shows
  exact (guarded.of_run sound).mono fun r t' ⟨told, ended⟩ => ended (told.trans ran)

/-- With no failing step, a registration under a free login id goes through the stages. -/
theorem guarded_stages (sound : ∀ c, ¬ fails c) (h : t.Shows v i n [])
    (idle : ∀ k, n ≤ k → v (.temporary k) = none) (vacant : v (.document m.loginId.text) = none) :
    Guarded fails (fun t' => ∃ v', Holds t'.shelf.disk v' ∧ Stage m i v v' t'.placed)
      (fun _ _ => True) (insert m) t := by
  rw [insert]
  refine Guarded.ask (h.stage (.early fun _ _ => rfl)) ?_
  intro t₁ id step
  obtain ⟨rfl, taken⟩ := h.takeId step
  have start := taken.stage (m := m) (i := id) (.early fun _ _ => rfl)
  have amid : ∀ (t' : Trial) part,
      t'.Shows (Function.update v (.temporary n) part) (id + 1) (n + 1) [] →
      ∃ v', Holds t'.shelf.disk v' ∧ Stage m id v v' t'.placed :=
    fun t' part shows => shows.stage (.early (v.alike_temporary n part))
  cases unreserved : v (.reservation m.email.key) with
  | some owner =>
    refine Guarded.bind (guarded_createExclusive (x := .reservation m.email.key) taken (by simp)
      start amid ?_ ?_ ?_)
    · intro t₂ part free
      rw [unreserved] at free
      cases free
    · intro t₂ part r failed shows _
      obtain ⟨e, refused⟩ := creationResult_of_ne failed (m.withId id).email
      rw [refused]
      exact .done (amid t₂ part shows) trivial
    · intro t₂ part free
      rw [unreserved] at free
      cases free
  | none =>
    refine Guarded.bind (guarded_create (x := .reservation m.email.key) sound taken
      (idle n (Nat.le_refl n)) (by simp) unreserved start amid ?_ ?_)
    · intro t₂ part shows
      exact shows.stage (.reserved ((v.alike_temporary n part).update _ _))
    · intro t₂ reserved
      refine Guarded.bind (guarded_create (x := .document m.loginId.text) sound reserved ?_
        (by simp) ?_ (reserved.stage (.reserved fun _ _ => rfl)) ?_ ?_ ?_)
      · rw [Function.update_of_ne (by simp), idle _ (Nat.le_succ n)]
      · rw [Function.update_of_ne (by simp), vacant]
      · intro t₃ part shows
        exact shows.stage (.reserved (Contents.alike_temporary _ (n + 1) part))
      · intro t₃ part shows
        exact shows.stage (.published ((Contents.alike_temporary _ (n + 1) part).update _ _))
      · intro t₃ published
        exact .done (published.stage (.published fun _ _ => rfl)) trivial

end Stages

section Restarts

variable {d : Disk} {s t : Shelf} {v v' : Contents} {n : Nat} {m : NewMember}

theorem Holds.unique (h : Holds d v) (h' : Holds d v') : v = v' := by
  funext x
  exact Option.map_injective (fun _ _ => Entry.file.inj) ((h.sites x).symm.trans (h'.sites x))

theorem Sane.stored (sane : Sane v s.freshCount) (holds : Holds s.disk v) {loginId text : String}
    (there : v (.document loginId) = some text) :
    ∃ o : Member, text = o.document ∧ s.find loginId = .ok (some o) := by
  obtain ⟨o, rfl, own, valid, _⟩ := sane.documents loginId text there
  exact ⟨o, rfl, holds.find_has ⟨valid, _, there, Member.parse_document o⟩⟩

/-- On sane files, a store opens unless some member has the last id. -/
theorem Sane.openOn (sane : Sane v s.freshCount) (holds : Holds s.disk v) :
    (∃ owner o, s.find owner = .ok (some o) ∧ o.id = Int64.maxValue ∧
        (openOn s.disk s.freshCount).2 = .error .idsExhausted) ∨
      ∃ nextId, (openOn s.disk s.freshCount).2 = .ok ⟨s.disk, nextId, s.freshCount⟩ := by
  obtain ⟨ids, mem, opened⟩ := holds.openOn_eq s.freshCount fun loginId text there => by
    obtain ⟨o, rfl, _, valid, _⟩ := sane.documents loginId text there
    exact ⟨LoginId.ne_empty_of_check valid, o, rfl⟩
  rw [opened]
  dsimp only
  split
  · rename_i last
    refine Or.inl ?_
    rcases List.mem_cons.mp (foldl_max_eq.mp last).1 with zero | there
    · exact absurd zero (by decide)
    · obtain ⟨owner, o, document, id⟩ := (mem _).mp there
      obtain ⟨o', same, found⟩ := sane.stored holds document
      obtain rfl := Member.document_injective same
      exact ⟨owner, o, found, id, rfl⟩
  · exact Or.inr ⟨_, rfl⟩

theorem Sane.vacant (sane : Sane v s.freshCount) (holds : Holds s.disk v) {loginId : String}
    (free : s.find loginId = .ok none) : v (.document loginId) = none := by
  cases there : v (.document loginId) with
  | none => rfl
  | some text =>
    obtain ⟨o, _, found⟩ := sane.stored holds there
    rw [free] at found
    cases found

theorem stranded_of_reserved {placed : List Path} (sane : Sane v' t.freshCount)
    (holds : Holds s.disk v) (holds' : Holds t.disk v')
    (because : placed = [] ∧ s.disk.entry? (reservationPath m.email) ≠ none ∨
      placed = [reservationPath m.email])
    (free : s.Free m)
    (same : ∀ loginId, v' (.document loginId) = v (.document loginId)) {owner : String}
    (reserved : v' (.reservation m.email.key) = some owner) : Aftermath s m placed t := by
  have found : ∀ loginId, t.find loginId = s.find loginId :=
    fun loginId => holds.find_eq holds' (same loginId)
  obtain ⟨disk, ran, _⟩ := run_insert_reserved holds' (sane.fresh _ (Nat.le_refl _)) reserved
  refine .stranded because ⟨owner, ?_⟩ ?_ ?_ ?_
  · exact (holds'.sites (.reservation m.email.key)).trans (congrArg _ reserved)
  · intro owner o there
    rw [found] at there
    exact free.email owner o there
  · rw [found, free.loginId]
  · rw [ran]

theorem Stage.aftermath {placed : List Path} (stage : Stage m s.nextId v v' placed)
    (holds : Holds s.disk v) (vacant : v (.document m.loginId.text) = none)
    (sane : Sane v' t.freshCount) (holds' : Holds t.disk v') (free : s.Free m) :
    Aftermath s m placed t := by
  have reservation : s.disk.entry? (reservationPath m.email) =
      (v (.reservation m.email.key)).map Entry.file := holds.sites (.reservation m.email.key)
  cases stage with
  | early alike =>
    have same (loginId : String) : v' (.document loginId) = v (.document loginId) :=
      alike _ (by simp)
    have here : v' (.reservation m.email.key) = v (.reservation m.email.key) := alike _ (by simp)
    cases before : v (.reservation m.email.key) with
    | none =>
      obtain ⟨disk, ran, _⟩ := run_insert_free holds' sane.fresh (here.trans before)
        ((same _).trans vacant)
      refine .repeatable rfl ?_ ?_
      · rw [reservation, before, Option.map_none]
      · rw [ran]
    | some owner =>
      refine stranded_of_reserved sane holds holds' (Or.inl ⟨rfl, ?_⟩) free same
        (here.trans before)
      rw [reservation, before]
      exact Option.some_ne_none _
  | reserved alike =>
    have same (loginId : String) : v' (.document loginId) = v (.document loginId) :=
      (alike _ (by simp)).trans (Function.update_of_ne (by simp) ..)
    have here : v' (.reservation m.email.key) = some m.loginId.text :=
      (alike _ (by simp)).trans (Function.update_self ..)
    exact stranded_of_reserved sane holds holds' (Or.inr rfl) free same here
  | published alike =>
    have here : v' (.document m.loginId.text) = some (m.withId s.nextId).document :=
      (alike _ (by simp)).trans (Function.update_self ..)
    exact .published rfl (holds'.find_has ⟨m.loginId.valid, _, here, Member.parse_document _⟩)

/-- A registration may stop before any of its file steps or after the last one. Unless the ids are
used up, the store opens again, and then either the member is there, or the registration can be made
again, or the address is reserved and nobody has it. The last happens exactly if it was so before,
or if the reservation was put in place and the document was not. -/
theorem published_or_repeatable_or_stranded {t : Trial} (lived : s.Lived)
    (free : s.Free m) {result : Option (Except Failure Member)}
    (stopped : Carried (fun _ => False) (insert m) ⟨s, []⟩ t result) :
    (∃ owner o, t.shelf.find owner = .ok (some o) ∧ o.id = Int64.maxValue ∧
        (openOn t.shelf.disk t.shelf.freshCount).2 = .error .idsExhausted) ∨
      ∃ opened, (openOn t.shelf.disk t.shelf.freshCount).2 = .ok opened ∧
        Aftermath s m t.placed opened := by
  obtain ⟨v, holds, sane⟩ := lived.sane
  have vacant := sane.vacant holds free.loginId
  have stages : Guarded (fun _ => False)
      (fun t' => ∃ v', Holds t'.shelf.disk v' ∧ Stage m s.nextId v v' t'.placed) (fun _ _ => True)
      (insert m) ⟨s, []⟩ :=
    guarded_stages (fun _ => id) ⟨holds, rfl, rfl, rfl⟩ sane.fresh vacant
  -- the stages say what is in place, and that it is sane is known of any edit
  obtain ⟨v', holds', stage⟩ := (stages.carried stopped).1
  obtain ⟨v'', holds'', sane'⟩ := sane.edit (e := .insert m) holds stopped
  obtain rfl := holds'.unique holds''
  rcases sane'.openOn holds' with exhausted | ⟨nextId, opened⟩
  · exact Or.inl exhausted
  exact Or.inr ⟨_, opened, stage.aftermath holds vacant sane' holds' free⟩

theorem lived_bare : Shelf.Lived ⟨Workshop.bareDisk, 1, 0⟩ :=
  .interleaved (congrArg Prod.snd (Workshop.openOn_empty 0)) .refl

theorem free_bare (m : NewMember) : Shelf.Free ⟨Workshop.bareDisk, 1, 0⟩ m := by
  have found := (Shelf.keeps_empty (congrArg Prod.snd (Workshop.openOn_empty 0))).find
  refine ⟨found m.loginId.text, ?_⟩
  intro owner o there
  rw [found] at there
  cases there

/-- On an empty store, a registration stops with its first file still aside, and is made again. -/
theorem repeatable_before_reservation : ∃ t opened,
    Carried (fun _ => False) (insert Workshop.ada) ⟨⟨Workshop.bareDisk, 1, 0⟩, []⟩ t none ∧
      t.placed = [] ∧ (openOn t.shelf.disk t.shelf.freshCount).2 = .ok opened ∧
      ((insert Workshop.ada).run Shelf.perform opened).2 =
        .ok (Workshop.ada.withId opened.nextId) := by
  have stopped : Carried (fun _ => False) (insert Workshop.ada)
      ⟨⟨Workshop.bareDisk, 1, 0⟩, []⟩ _ none :=
    .step (.done .takeId) (.step (.done .freshPath) (.step (.done (.write _ _)) (.cutOff _ _)))
  rcases published_or_repeatable_or_stranded lived_bare (free_bare Workshop.ada) stopped with
    ⟨_, _, _, _, exhausted⟩ | ⟨opened, ok, aftermath⟩
  · cases exhausted
  · cases aftermath with
    | published both => cases both
    | repeatable nothing _ again => exact ⟨_, opened, stopped, nothing, ok, again⟩
    | stranded because =>
      rcases because with ⟨_, reserved⟩ | placed
      · exact absurd rfl reserved
      · cases placed

/-- If it stops just after the reservation is in place, the address is lost: there is no member, and
the same registration is refused. -/
theorem ada_stranded :
    Shelf.Lived ⟨Workshop.bareDisk, 1, 0⟩ ∧
      Shelf.Free ⟨Workshop.bareDisk, 1, 0⟩ Workshop.ada ∧ ∃ t opened,
        Carried (fun _ => False) (insert Workshop.ada) ⟨⟨Workshop.bareDisk, 1, 0⟩, []⟩ t none ∧
        (openOn t.shelf.disk t.shelf.freshCount).2 = .ok opened ∧
        opened.find "ada" = .ok none ∧
        ((insert Workshop.ada).run Shelf.perform opened).2 =
          .error (.duplicateMember "Ada@example.org") := by
  have stopped : Carried (fun _ => False) (insert Workshop.ada)
      ⟨⟨Workshop.bareDisk, 1, 0⟩, []⟩ _ none :=
    .step (.done .takeId) (.step (.done .freshPath) (.step (.done (.write _ _))
      (.step (.done (.link _ _)) (.step (.done (.remove _)) (.cutOff _ _)))))
  refine ⟨lived_bare, free_bare Workshop.ada, _, _, stopped, rfl, ?_, ?_⟩
  · decide +kernel
  · decide +kernel

end Restarts

end MemberAuth.Store
