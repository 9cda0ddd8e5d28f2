import MemberAuth.Proofs.Cache.Ledger

/-!
# Purges are not seen

An expired entry that is still resident takes up room like any other, so a purge changes which write
has to drop an entry. It never costs a live one: entries stand in the order of their times, so the
first to go is an expired one as long as there is any. Two caches with the same live entries
therefore go on having the same live entries whatever is asked of them, and give the same replies to
everything but removals and sizes. Purges and look-ups leave the live entries as they are.
-/
namespace MemberAuth

namespace Ledger

/-- What is left when the expired entries are gone. -/
def purged (l : Ledger) (now : Nat) : Ledger :=
  { l with entries := l.entries.filter fun e => now - e.insertedAt < l.ttl }

/-- Entries in the order of their times, none of them from the future. -/
structure Tidy (l : Ledger) (now : Nat) : Prop where
  keys : (l.entries.map CacheEntry.key).Nodup
  ordered : l.entries.Pairwise fun d e => d.insertedAt ≤ e.insertedAt
  past : ∀ e ∈ l.entries, e.insertedAt ≤ now
  fits : l.entries.length ≤ l.capacity

/-- The entries with a new one at the end. -/
def appended (l : Ledger) (now : Nat) (key : String) (credential : Credential) : List CacheEntry :=
  (l.delete key).entries ++ [⟨key, credential, now⟩]

/-- Entries of which the oldest makes room if they are too many. -/
def trimmed (capacity : Nat) (entries : List CacheEntry) : List CacheEntry :=
  if capacity < entries.length then entries.tail else entries

theorem write_eq (l : Ledger) (now : Nat) (key : String) (credential : Credential) :
    l.write now key credential =
      { l with entries := trimmed l.capacity (l.appended now key credential) } := rfl

variable {l : Ledger} {now : Nat}

/-- A write leaves one entry for each key. -/
theorem nodup_appended (keys : (l.entries.map CacheEntry.key).Nodup) (now : Nat) (key : String)
    (credential : Credential) : ((l.appended now key credential).map CacheEntry.key).Nodup := by
  rw [appended, List.map_append, List.nodup_append]
  refine ⟨(List.filter_sublist.map CacheEntry.key).nodup keys, List.nodup_singleton _, ?_⟩
  intro d hd e he same
  obtain ⟨entry, mem, rfl⟩ := List.mem_map.mp hd
  have other : entry.key ≠ key := of_decide_eq_true (List.mem_filter.mp mem).2
  exact other (same.trans (List.mem_singleton.mp he))

namespace Tidy

theorem sublist (h : l.Tidy now) {entries : List CacheEntry} (sub : entries.Sublist l.entries)
    (evictions : Nat) : Tidy { l with entries, evictions } now := by
  constructor
  · exact (sub.map CacheEntry.key).nodup h.keys
  · exact h.ordered.sublist sub
  · intro e he
    exact h.past e (sub.subset he)
  · exact Nat.le_trans sub.length_le h.fits

theorem later (h : l.Tidy now) {later : Nat} (after : now ≤ later) : l.Tidy later :=
  ⟨h.keys, h.ordered, fun e he => Nat.le_trans (h.past e he) after, h.fits⟩

theorem delete (h : l.Tidy now) (key : String) : (l.delete key).Tidy now :=
  h.sublist List.filter_sublist l.evictions

theorem purged (h : l.Tidy now) (time : Nat) : (l.purged time).Tidy now :=
  h.sublist List.filter_sublist l.evictions

theorem appended (h : l.Tidy now) (key : String) (credential : Credential) :
    Tidy { l with entries := l.appended now key credential, capacity := l.capacity + 1 } now := by
  have rest := h.delete key
  constructor
  · exact nodup_appended h.keys now key credential
  · change (l.appended now key credential).Pairwise fun d e => d.insertedAt ≤ e.insertedAt
    rw [Ledger.appended, List.pairwise_append]
    refine ⟨rest.ordered, List.pairwise_singleton _ _, ?_⟩
    intro d hd e he
    rw [List.mem_singleton.mp he]
    exact rest.past d hd
  · intro e he
    rcases List.mem_append.mp he with old | new
    · exact rest.past e old
    · exact Nat.le_of_eq (congrArg CacheEntry.insertedAt (List.mem_singleton.mp new))
  · have fits : (l.delete key).entries.length ≤ l.capacity := rest.fits
    change (l.appended now key credential).length ≤ l.capacity + 1
    rw [Ledger.appended, List.length_append, List.length_singleton]
    omega

theorem write (h : l.Tidy now) (key : String) (credential : Credential) :
    (l.write now key credential).Tidy now := by
  obtain ⟨keys, ordered, past, room⟩ := h.appended key credential
  rw [write_eq, trimmed]
  split
  · have sub := List.tail_sublist (l.appended now key credential)
    constructor
    · exact (sub.map CacheEntry.key).nodup keys
    · exact ordered.sublist sub
    · intro e he
      exact past e (sub.subset he)
    · rw [List.length_tail]
      exact Nat.sub_le_of_le_add room
  · rename_i fits
    exact ⟨keys, ordered, past, Nat.le_of_not_lt fits⟩

theorem answer (h : l.Tidy now) (call : CacheCall) : (l.answer now call).1.Tidy now := by
  cases call with
  | put key credential => exact h.write key credential
  | putIfUnchanged key credential epoch =>
    rw [Ledger.answer]
    split
    · exact h.write key credential
    · exact h
  | get key =>
    rw [Ledger.answer]
    split
    · exact h
    split
    · exact h
    · exact h.delete key
  | evict key => exact h.sublist List.filter_sublist (l.evictions + 1)
  | purge => exact h.purged now
  | size => exact h
  | isEmpty => exact h
  | epoch => exact h

end Tidy

theorem purged_purged (l : Ledger) {earlier later : Nat} (h : earlier ≤ later) :
    (l.purged earlier).purged later = l.purged later := by
  have weaker : ∀ e : CacheEntry, later - e.insertedAt < l.ttl → earlier - e.insertedAt < l.ttl := by
    intro e
    omega
  rw [purged, purged, purged, List.filter_filter]
  congr 1
  apply List.filter_congr
  intro e _
  by_cases young : later - e.insertedAt < l.ttl
  · simp [young, weaker e young]
  · simp [young]

theorem delete_purged (l : Ledger) (now : Nat) (key : String) :
    (l.purged now).delete key = (l.delete key).purged now := by
  rw [purged, delete, delete, purged, List.filter_filter, List.filter_filter]
  congr 1
  apply List.filter_congr
  intro e _
  exact Bool.and_comm _ _

/-- Making room is the same before and after the expired entries are gone: the head is expired if
any is. -/
theorem filter_trimmed {entries : List CacheEntry} {ttl capacity : Nat}
    (ordered : entries.Pairwise fun d e => d.insertedAt ≤ e.insertedAt)
    (room : entries.length ≤ capacity + 1) :
    (trimmed capacity entries).filter (fun e => now - e.insertedAt < ttl) =
      trimmed capacity (entries.filter fun e => now - e.insertedAt < ttl) := by
  generalize hl : (entries.filter fun e => now - e.insertedAt < ttl) = live
  have fewer : live.length ≤ entries.length := by
    rw [← hl]
    exact List.length_filter_le _ _
  rw [trimmed, trimmed]
  by_cases full : capacity < entries.length
  · rw [if_pos full]
    cases entries with
    | nil => exact absurd full (Nat.not_lt_zero _)
    | cons head rest =>
      rw [List.length_cons] at full room
      by_cases young : now - head.insertedAt < ttl
      · have all : ∀ e ∈ rest, now - e.insertedAt < ttl := by
          intro e he
          have := (List.pairwise_cons.mp ordered).1 e he
          omega
        have kept : rest.filter (fun e => now - e.insertedAt < ttl) = rest := by
          rw [List.filter_eq_self]
          intro e he
          exact decide_eq_true (all e he)
        rw [List.filter_cons, if_pos (decide_eq_true young), kept] at hl
        rw [← hl, List.length_cons, if_pos full]
        exact kept
      · rw [List.filter_cons, if_neg (by simpa using young)] at hl
        have : live.length ≤ rest.length := by
          rw [← hl]
          exact List.length_filter_le _ _
        rw [if_neg (by omega), ← hl]
        rfl
  · rw [if_neg full, if_neg (by omega), hl]

theorem purged_write (h : l.Tidy now) (key : String) (credential : Credential) :
    ((l.purged now).write now key credential).purged now =
      (l.write now key credential).purged now := by
  have whole := h.appended key credential
  have part := (h.purged now).appended key credential
  have same : ((l.purged now).appended now key credential).filter
        (fun e => now - e.insertedAt < l.ttl) =
      (l.appended now key credential).filter fun e => now - e.insertedAt < l.ttl := by
    have idem := congrArg Ledger.entries ((l.delete key).purged_purged (Nat.le_refl now))
    rw [appended, appended, List.filter_append, List.filter_append, delete_purged]
    exact congrArg (· ++ _) idem
  rw [write_eq, write_eq, purged, purged]
  dsimp only
  congr 1
  calc (trimmed l.capacity ((l.purged now).appended now key credential)).filter
        (fun e => now - e.insertedAt < l.ttl)
      = trimmed l.capacity (((l.purged now).appended now key credential).filter
          fun e => now - e.insertedAt < l.ttl) := filter_trimmed part.ordered part.fits
    _ = trimmed l.capacity ((l.appended now key credential).filter
          fun e => now - e.insertedAt < l.ttl) := by rw [same]
    _ = (trimmed l.capacity (l.appended now key credential)).filter
          (fun e => now - e.insertedAt < l.ttl) := (filter_trimmed whole.ordered whole.fits).symm

/-- The live entry of a key is the entry of the key, if that is live. -/
theorem find?_filter {entries : List CacheEntry} (keys : (entries.map CacheEntry.key).Nodup)
    (key : String) (live : CacheEntry → Bool) :
    (entries.filter live).find? (fun e => e.key = key) =
      (entries.find? fun e => e.key = key).filter live := by
  induction entries with
  | nil => rfl
  | cons e rest ih =>
    rw [List.map_cons, List.nodup_cons] at keys
    obtain ⟨alone, keys⟩ := keys
    rw [List.find?_cons, List.filter_cons]
    by_cases own : e.key = key
    · subst own
      simp only [decide_true]
      split
      · rename_i young
        rw [List.find?_cons, Option.filter_some, if_pos young]
        simp only [decide_true]
      · rename_i old
        rw [Option.filter_some, if_neg old, List.find?_eq_none]
        intro d hd same
        apply alone
        rw [← of_decide_eq_true same]
        exact List.mem_map_of_mem (List.mem_of_mem_filter hd)
    · simp only [own, decide_false]
      split
      · rw [List.find?_cons]
        simp only [own, decide_false]
        exact ih keys
      · exact ih keys

/-- A look-up says which entry is live, and removes nothing that is. -/
theorem answer_get (h : l.Tidy now) (key : String) :
    (l.answer now (.get key)).2 =
        .found ((l.purged now).entries.find? fun e => e.key = key) ∧
      (l.answer now (.get key)).1.purged now = l.purged now := by
  have found := find?_filter h.keys key fun e => now - e.insertedAt < l.ttl
  rw [purged, found, answer]
  cases hf : l.entries.find? fun e => e.key = key with
  | none => exact ⟨rfl, rfl⟩
  | some e =>
    dsimp only
    by_cases young : now - e.insertedAt < l.ttl
    · rw [if_pos young, Option.filter_some, if_pos (decide_eq_true young)]
      exact ⟨rfl, rfl⟩
    · rw [if_neg young, Option.filter_some, if_neg (by simpa using young)]
      refine ⟨rfl, ?_⟩
      -- No live entry has the key, since the only one that has is expired.
      rw [← delete_purged, delete]
      congr 1
      rw [purged, List.filter_eq_self]
      intro d hd
      rw [hf, Option.filter_some, if_neg (by simpa using young), List.find?_eq_none] at found
      simpa using found d hd

/-- What is live after a call depends only on what was live before. -/
theorem purged_answer (h : l.Tidy now) (call : CacheCall) :
    ((l.purged now).answer now call).1.purged now = (l.answer now call).1.purged now := by
  have again : (l.purged now).purged now = l.purged now := l.purged_purged (Nat.le_refl now)
  cases call with
  | put key credential => exact purged_write h key credential
  | putIfUnchanged key credential epoch =>
    have evictions : (l.purged now).evictions = l.evictions := rfl
    rw [answer, answer, evictions]
    split
    · exact purged_write h key credential
    · exact again
  | get key => rw [(answer_get (h.purged now) key).2, (answer_get h key).2, again]
  | evict key =>
    have removed := congrArg (purged · now) (l.delete_purged now key)
    have removed := removed.trans ((l.delete key).purged_purged (Nat.le_refl now))
    exact congrArg (fun d : Ledger => { d with evictions := l.evictions + 1 }) removed
  | purge => exact congrArg (purged · now) again
  | size => exact again
  | isEmpty => exact again
  | epoch => exact again

end Ledger

/-- Whether the reply is the same however many expired entries are resident. -/
def CacheCall.isSteady : CacheCall → Bool
  | evict _ | purge | size | isEmpty => false
  | _ => true

theorem Ledger.reply_purged {l : Ledger} {now : Nat} (h : l.Tidy now) {call : CacheCall}
    (steady : call.isSteady = true) :
    ((l.purged now).answer now call).2 = (l.answer now call).2 := by
  cases call with
  | put key credential => rfl
  | putIfUnchanged key credential epoch =>
    have evictions : (l.purged now).evictions = l.evictions := rfl
    rw [answer, answer, evictions]
    split
    · rfl
    · rfl
  | get key =>
    rw [(answer_get (h.purged now) key).1, (answer_get h key).1,
      l.purged_purged (Nat.le_refl now)]
  | epoch => rfl
  | evict key => cases steady
  | purge => cases steady
  | size => cases steady
  | isEmpty => cases steady

namespace Metrics

/-- What is counted, apart from entries that come and go. -/
def withoutResidency (m : Metrics) : Metrics :=
  { m with cacheEvicted := 0, capacityEvicted := 0, entries := none }

theorem withoutResidency_add (m : Metrics) (k : Counter) (n : Nat) :
    (m.add k n).withoutResidency = (m.withoutResidency.add k n).withoutResidency := by
  cases k <;> rfl

end Metrics

namespace Gate

/-- A gate as the calls leave it up to a time. -/
structure Sound (g : Gate) (now : Nat) : Prop where
  wellFormed : g.cache.WellFormed
  tidy : g.cache.ledger.Tidy now

/-- Two gates with the same live entries. -/
structure Alike (now : Nat) (g g' : Gate) : Prop where
  left : g.Sound now
  right : g'.Sound now
  live : g'.cache.ledger.purged now = g.cache.ledger.purged now
  counted : g'.metrics.withoutResidency = g.metrics.withoutResidency

theorem sound_new (ttl capacity now : Nat) : (new ttl capacity).Sound now := by
  have none : (new ttl capacity).cache.ledger.entries = [] := rfl
  refine ⟨Cache.wellFormed_new ttl capacity, ?_, ?_, ?_, ?_⟩
  · rw [none]
    exact List.nodup_nil
  · rw [none]
    exact List.Pairwise.nil
  · simp [none]
  · rw [none]
    exact Nat.zero_le _

/-- The calls count removals and sizes only. -/
theorem withoutResidency_answer (g : Gate) (now : Nat) (call : CacheCall) :
    (g.answer now call).1.metrics.withoutResidency = g.metrics.withoutResidency := by
  cases call with
  | put key credential => rfl
  | putIfUnchanged key credential epoch =>
    simp only [answer, putIfUnchanged]
    split
    · rfl
    · rfl
  | get key =>
    simp only [answer, get]
    split
    · rfl
    · rfl
    · rfl
  | evict key =>
    simp only [answer, evict]
    split
    · rfl
    · rfl
  | purge =>
    simp only [answer, purge]
    split
    · rfl
    · rfl
  | size => rfl
  | isEmpty => rfl
  | epoch => rfl

variable {g g' : Gate} {now : Nat}

theorem Sound.answer (h : g.Sound now) (call : CacheCall) : (g.answer now call).1.Sound now := by
  have agrees := agrees h.wellFormed now call
  refine ⟨agrees.wellFormed, ?_⟩
  rw [agrees.ledger]
  exact h.tidy.answer call

theorem Sound.purge (h : g.Sound now) (time : Nat) : (g.purge time).1.Sound now := by
  have agrees := agrees h.wellFormed time .purge
  refine ⟨agrees.wellFormed, ?_⟩
  have ledger : (g.purge time).1.cache.ledger = g.cache.ledger.purged time := agrees.ledger
  rw [ledger]
  exact h.tidy.purged time

/-- A purge leaves all that is live at its time or later. -/
theorem purged_purge (h : g.Sound now) {time : Nat} (before : time ≤ now) :
    (g.purge time).1.cache.ledger.purged now = g.cache.ledger.purged now := by
  have ledger : (g.purge time).1.cache.ledger = g.cache.ledger.purged time :=
    (agrees h.wellFormed time .purge).ledger
  rw [ledger]
  exact g.cache.ledger.purged_purged before

namespace Alike

theorem refl (h : g.Sound now) : Alike now g g :=
  ⟨h, h, rfl, rfl⟩

theorem symm (h : Alike now g g') : Alike now g' g :=
  ⟨h.right, h.left, h.live.symm, h.counted.symm⟩

theorem trans (h : Alike now g g') {g'' : Gate} (h' : Alike now g' g'') : Alike now g g'' :=
  ⟨h.left, h'.right, h'.live.trans h.live, h'.counted.trans h.counted⟩

theorem epoch (h : Alike now g g') : g'.cache.epoch = g.cache.epoch :=
  congrArg Ledger.evictions h.live

theorem later (h : Alike now g g') {later : Nat} (after : now ≤ later) : Alike later g g' := by
  refine ⟨⟨h.left.wellFormed, h.left.tidy.later after⟩,
    ⟨h.right.wellFormed, h.right.tidy.later after⟩, ?_, h.counted⟩
  rw [← g'.cache.ledger.purged_purged after, h.live, g.cache.ledger.purged_purged after]

theorem answer (h : Alike now g g') (call : CacheCall) :
    Alike now (g.answer now call).1 (g'.answer now call).1 := by
  refine ⟨h.left.answer call, h.right.answer call, ?_, ?_⟩
  · rw [(agrees h.left.wellFormed now call).ledger, (agrees h.right.wellFormed now call).ledger,
      ← Ledger.purged_answer h.right.tidy, h.live, Ledger.purged_answer h.left.tidy]
  · rw [withoutResidency_answer, withoutResidency_answer, h.counted]

theorem reply (h : Alike now g g') {call : CacheCall} (steady : call.isSteady = true) :
    (g'.answer now call).2 = (g.answer now call).2 := by
  rw [(agrees h.left.wellFormed now call).reply, (agrees h.right.wellFormed now call).reply,
    ← Ledger.reply_purged h.right.tidy steady, h.live, Ledger.reply_purged h.left.tidy steady]

/-- A purge of one of the two. -/
theorem purge (h : Alike now g g') {time : Nat} (before : time ≤ now) :
    Alike now g (g'.purge time).1 := by
  refine ⟨h.left, h.right.purge time, ?_, ?_⟩
  · rw [purged_purge h.right before, h.live]
  · have counted := g'.withoutResidency_answer time .purge
    exact counted.trans h.counted

/-- A look-up in one of the two. -/
theorem get (h : Alike now g g') (key : String) : Alike now g (g'.get now key).1 := by
  refine ⟨h.left, h.right.answer (.get key), ?_, ?_⟩
  · have ledger := (agrees h.right.wellFormed now (.get key)).ledger
    change (g'.answer now (.get key)).1.cache.ledger.purged now = _
    rw [ledger, (Ledger.answer_get h.right.tidy key).2, h.live]
  · have counted := g'.withoutResidency_answer now (.get key)
    exact counted.trans h.counted

theorem count (h : Alike now g g') (k : Counter) : Alike now (g.count k) (g'.count k) := by
  refine ⟨⟨h.left.wellFormed, h.left.tidy⟩, ⟨h.right.wellFormed, h.right.tidy⟩, h.live, ?_⟩
  change (g'.metrics.add k 1).withoutResidency = (g.metrics.add k 1).withoutResidency
  rw [Metrics.withoutResidency_add, h.counted, ← Metrics.withoutResidency_add]

/-- The first step of a decision. -/
theorem openRequest (h : Alike now g g') (loginId password : String) :
    (g'.openRequest now loginId password).2 = (g.openRequest now loginId password).2 ∧
      Alike now (g.openRequest now loginId password).1
        (g'.openRequest now loginId password).1 := by
  by_cases blank : (Text.allBlank loginId || Text.allBlank password) = true
  · rw [openRequest_of_blank g now blank, openRequest_of_blank g' now blank]
    exact ⟨rfl, h⟩
  have looked := h.answer (.get loginId)
  have steady : CacheCall.isSteady (.get loginId) = true := rfl
  have reply := h.reply steady
  have seen : (g'.get now loginId).2.map (Slot.entry · loginId) =
      (g.get now loginId).2.map (Slot.entry · loginId) := CacheReply.found.inj reply
  have looked : Alike now (g.get now loginId).1 (g'.get now loginId).1 := looked
  rw [Gate.openRequest, Gate.openRequest, if_neg blank, if_neg blank]
  generalize g.get now loginId = left at looked seen ⊢
  generalize g'.get now loginId = right at looked seen ⊢
  obtain ⟨b, slot⟩ := left
  obtain ⟨b', slot'⟩ := right
  have missed : Alike now (b.count .cacheMiss) (b'.count .cacheMiss) := looked.count .cacheMiss
  cases slot with
  | none =>
    cases slot' with
    | none => exact ⟨congrArg Opening.pending looked.epoch, missed⟩
    | some slot' => cases seen
  | some slot =>
    cases slot' with
    | none => cases seen
    | some slot' =>
      have credential : slot'.credential = slot.credential :=
        congrArg CacheEntry.credential (Option.some.inj seen)
      dsimp only
      rw [credential]
      split
      · exact ⟨rfl, looked.count .cacheHit⟩
      · exact ⟨congrArg Opening.pending looked.epoch, missed⟩

/-- The second step of a decision. -/
theorem closeRequest (h : Alike now g g') (loginId password : String) (epoch : Nat)
    (verdict : Except VerifyFailure Identity) :
    (g'.closeRequest now loginId password epoch verdict).2 =
        (g.closeRequest now loginId password epoch verdict).2 ∧
      Alike now (g.closeRequest now loginId password epoch verdict).1
        (g'.closeRequest now loginId password epoch verdict).1 := by
  cases verdict with
  | error e => exact ⟨rfl, h.count .slowPathFailure⟩
  | ok who =>
    have confirmed := h.count .slowPathSuccess
    exact ⟨rfl, confirmed.answer (.putIfUnchanged loginId ⟨who, passwordDigest password⟩ epoch)⟩

end Alike

end Gate

end MemberAuth
