import MemberAuth.Auth.Gate

/-!
# Which entries can be resident

Every operation of the cache except a write only drops entries. A write leaves its own entry at its
key and otherwise entries that were there before. Only evictions move the epoch.
-/
namespace MemberAuth

namespace Cache

/-- The later cache has the same epoch, and its entries are entries of the earlier one. -/
structure Prunes (before after : Cache) : Prop where
  epoch : after.epoch = before.epoch
  entries : ∀ {key : String} {slot : Slot},
    after.slots[key]? = some slot → before.slots[key]? = some slot

theorem Prunes.refl (c : Cache) : c.Prunes c :=
  ⟨rfl, id⟩

theorem Prunes.trans {a b c : Cache} (hab : a.Prunes b) (hbc : b.Prunes c) : a.Prunes c :=
  ⟨hbc.epoch.trans hab.epoch, fun h => hab.entries (hbc.entries h)⟩

theorem prunes_records (c : Cache) (records : Queue WriteRecord) :
    c.Prunes { c with records } :=
  ⟨rfl, id⟩

theorem remove_getElem? (c : Cache) (key other : String) :
    (c.remove key).slots[other]? = if key = other then none else c.slots[other]? := by
  simp [remove, Std.ExtTreeMap.getElem?_erase]

theorem prunes_remove (c : Cache) (key : String) : c.Prunes (c.remove key) := by
  refine ⟨rfl, fun {other slot} h => ?_⟩
  rw [remove_getElem?] at h
  split at h
  · cases h
  · exact h

theorem prunes_shrink (fuel : Nat) (c : Cache) : c.Prunes (shrink fuel c).1 := by
  induction fuel generalizing c with
  | zero => exact .refl c
  | succ fuel ih =>
    rw [shrink]
    split
    · exact .refl c
    split
    · exact .refl c
    rename_i r records _
    split
    · exact (c.prunes_remove r.key).trans
        ((prunes_records _ records).trans (ih { c.remove r.key with records }))
    · exact (c.prunes_records records).trans (ih { c with records })

theorem prunes_compact (c : Cache) : c.Prunes c.compact := by
  rw [compact]
  split
  · exact c.prunes_records _
  · exact .refl c

theorem prunes_purge (c : Cache) (now : Nat) : c.Prunes (c.purge now).1 := by
  refine ⟨rfl, fun {key slot} h => ?_⟩
  simp only [purge, Std.ExtTreeMap.getElem?_filter, Option.pfilter_eq_filter,
    Option.filter_eq_some_iff] at h
  exact h.1

theorem prunes_put (c : Cache) (now : Nat) (key : String) (credential : Credential) :
    (c.write now key credential).Prunes (c.put now key credential).1 :=
  (prunes_shrink (c.write now key credential).records.size _).trans (prunes_compact _)

/-- After a write, an entry is the one written or an earlier one at another key. -/
theorem put_entry {c : Cache} {now : Nat} {key : String} {credential : Credential}
    {other : String} {slot : Slot} (h : (c.put now key credential).1.slots[other]? = some slot) :
    (other = key ∧ slot = ⟨credential, now, c.nextGeneration⟩) ∨
      c.slots[other]? = some slot := by
  have hw := (c.prunes_put now key credential).entries h
  simp only [write, Std.ExtTreeMap.getElem?_insert, Std.LawfulEqCmp.compare_eq_iff_eq] at hw
  split at hw
  · rename_i heq
    exact Or.inl ⟨heq.symm, (Option.some.inj hw).symm⟩
  · exact Or.inr hw

@[simp] theorem epoch_put (c : Cache) (now : Nat) (key : String) (credential : Credential) :
    (c.put now key credential).1.epoch = c.epoch :=
  (c.prunes_put now key credential).epoch

@[simp] theorem epoch_evict (c : Cache) (key : String) : (c.evict key).1.epoch = c.epoch + 1 := rfl

theorem evict_entry {c : Cache} {key other : String} {slot : Slot}
    (h : (c.evict key).1.slots[other]? = some slot) :
    other ≠ key ∧ c.slots[other]? = some slot := by
  change (c.remove key).slots[other]? = some slot at h
  rw [remove_getElem?] at h
  split at h
  · cases h
  · rename_i hne
    exact ⟨fun heq => hne heq.symm, h⟩

end Cache

namespace Gate

theorem prunes_get (g : Gate) (now : Nat) (key : String) :
    g.cache.Prunes (g.get now key).1.cache := by
  rw [get]
  split
  · exact .refl _
  · exact g.cache.prunes_remove key
  · exact .refl _

@[simp] theorem cache_count (g : Gate) (k : Counter) : (g.count k).cache = g.cache := rfl

@[simp] theorem cache_put (g : Gate) (now : Nat) (key : String) (credential : Credential) :
    (g.put now key credential).cache = (g.cache.put now key credential).1 := rfl

@[simp] theorem cache_evict (g : Gate) (key : String) :
    (g.evict key).1.cache = (g.cache.evict key).1 := by
  simp only [evict]
  split <;> rfl

@[simp] theorem cache_purge (g : Gate) (now : Nat) :
    (g.purge now).1.cache = (g.cache.purge now).1 := by
  simp only [purge]
  split <;> rfl

@[simp] theorem cache_putIfUnchanged (g : Gate) (now epoch : Nat) (key : String)
    (credential : Credential) :
    (g.putIfUnchanged now key credential epoch).1.cache =
      if g.cache.epoch = epoch then (g.cache.put now key credential).1 else g.cache := by
  rw [putIfUnchanged]
  split <;> rfl

/-- What a look-up gives is resident. -/
theorem get_entry {g : Gate} {now : Nat} {key : String} {slot : Slot}
    (h : (g.get now key).2 = some slot) : g.cache.slots[key]? = some slot := by
  have hl : g.cache.lookup now key = .live slot := by
    rw [get] at h
    split at h
    · cases h
    · cases h
    · rename_i hl
      rw [hl, Option.some.inj h]
  rw [Cache.lookup] at hl
  split at hl
  · cases hl
  rename_i found hs
  split at hl
  · cases hl
  · rw [hs, Lookup.live.inj hl]

theorem prunes_openRequest (g : Gate) (now : Nat) (loginId password : String) :
    g.cache.Prunes (g.openRequest now loginId password).1.cache := by
  have hg := g.prunes_get now loginId
  rw [openRequest]
  split
  · exact .refl _
  split
  · rename_i h
    rw [h] at hg
    split <;> exact hg
  · rename_i h
    rw [h] at hg
    exact hg

/-- An epoch handed out is the present one. -/
theorem openRequest_epoch {g g' : Gate} {now epoch : Nat} {loginId password : String}
    (h : g.openRequest now loginId password = (g', .pending epoch)) : epoch = g.cache.epoch := by
  have hg := (g.prunes_get now loginId).epoch
  rw [openRequest] at h
  split at h
  · cases h
  split at h
  · rename_i hget
    rw [hget] at hg
    split at h
    · cases h
    · cases h
      exact hg
  · rename_i hget
    rw [hget] at hg
    cases h
    exact hg

theorem openRequest_of_blank (g : Gate) (now : Nat) {loginId password : String}
    (h : (Text.allBlank loginId || Text.allBlank password) = true) :
    g.openRequest now loginId password = (g, .decided (.error .missingCredentials)) :=
  if_pos h

/-- Unless something is blank, the first step decides in favour of someone or not at all. -/
theorem openRequest_of_not_blank (g : Gate) (now : Nat) {loginId password : String}
    (h : ¬(Text.allBlank loginId || Text.allBlank password) = true) :
    (∃ g' who, g.openRequest now loginId password = (g', .decided (.ok who))) ∨
      ∃ g' epoch, g.openRequest now loginId password = (g', .pending epoch) := by
  rw [openRequest, if_neg h]
  split
  · split
    · exact Or.inl ⟨_, _, rfl⟩
    · exact Or.inr ⟨_, _, rfl⟩
  · exact Or.inr ⟨_, _, rfl⟩

/-- A decision in favour of someone rests on a resident entry with the digest of the password. -/
theorem openRequest_ok {g g' : Gate} {now : Nat} {loginId password : String} {who : Identity}
    (h : g.openRequest now loginId password = (g', .decided (.ok who))) :
    ∃ slot, g.cache.slots[loginId]? = some slot ∧
      slot.credential = ⟨who, passwordDigest password⟩ := by
  rw [openRequest] at h
  split at h
  · cases h
  split at h
  · rename_i slot hget
    split at h
    · rename_i hd
      cases h
      refine ⟨slot, get_entry (by rw [hget]), ?_⟩
      rw [← hd]
    · cases h
  · cases h

theorem cache_closeRequest_ok (g : Gate) (now epoch : Nat) (loginId password : String)
    (who : Identity) :
    (g.closeRequest now loginId password epoch (.ok who)).1.cache =
      if g.cache.epoch = epoch then
        (g.cache.put now loginId ⟨who, passwordDigest password⟩).1
      else g.cache :=
  cache_putIfUnchanged (g.count .slowPathSuccess) now epoch loginId _

/-- Closing a request leaves entries that were there, and the new one only in the same epoch. -/
theorem closeRequest_entry {g : Gate} {now epoch : Nat} {loginId password key : String}
    {verdict : Except VerifyFailure Identity} {slot : Slot}
    (h : (g.closeRequest now loginId password epoch verdict).1.cache.slots[key]? = some slot) :
    g.cache.slots[key]? = some slot ∨
      ∃ who, verdict = .ok who ∧ key = loginId ∧ epoch = g.cache.epoch ∧
        slot = ⟨⟨who, passwordDigest password⟩, now, g.cache.nextGeneration⟩ := by
  cases verdict with
  | error e => exact Or.inl h
  | ok who =>
    rw [cache_closeRequest_ok] at h
    by_cases he : g.cache.epoch = epoch
    · rw [if_pos he] at h
      rcases Cache.put_entry h with ⟨hk, written⟩ | old
      · exact Or.inr ⟨who, rfl, hk, he.symm, written⟩
      · exact Or.inl old
    · rw [if_neg he] at h
      exact Or.inl h

@[simp] theorem epoch_closeRequest (g : Gate) (now epoch : Nat) (loginId password : String)
    (verdict : Except VerifyFailure Identity) :
    (g.closeRequest now loginId password epoch verdict).1.cache.epoch = g.cache.epoch := by
  cases verdict with
  | error e => rfl
  | ok who =>
    rw [cache_closeRequest_ok]
    by_cases he : g.cache.epoch = epoch
    · rw [if_pos he, Cache.epoch_put]
    · rw [if_neg he]

end Gate

end MemberAuth
