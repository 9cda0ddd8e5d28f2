import MemberAuth.Proofs.Cache.Tenure

/-!
# Entries that come and go

Every entry came by a write of a key that had none, and leaves by an eviction, for want of room or
because it has expired. The first two ways of leaving are counted, and the gauge is set whenever the
number of entries changes. So the writes of new keys are accounted for at any time.
-/
namespace MemberAuth

/-- The entries that were removed alive or not, but not for being expired. -/
def Metrics.removals (m : Metrics) : Nat :=
  m.cacheEvicted + m.capacityEvicted

namespace Cache

/-- How many entries a call makes that had none at their key, expired or not. -/
def freshBy (c : Cache) (call : CacheCall) : Nat :=
  match call.writes? c.epoch with
  | none => 0
  | some key => if c.slots.contains key then 0 else 1

/-- How many entries a call drops because they have expired. -/
def lapsedBy (c : Cache) (now : Nat) : CacheCall → Nat
  | .get key => if c.lookup now key = .expired then 1 else 0
  | .purge => c.entries.countP fun e => c.ttl ≤ now - e.insertedAt
  | _ => 0

variable {c : Cache}

theorem size_write (c : Cache) (now : Nat) (key : String) (credential : Credential) :
    (c.write now key credential).size = c.size + if c.slots.contains key then 0 else 1 := by
  have size : (c.write now key credential).size = _ := Std.ExtTreeMap.size_insert
  rw [size]
  split
  · rfl
  · rfl

/-- What a write adds is resident afterwards, or has made something else leave. -/
theorem Logged.turnover_put (h : c.Logged) (now : Nat) (key : String) (credential : Credential) :
    c.size + (if c.slots.contains key then 0 else 1) =
      (c.put now key credential).1.size + (c.put now key credential).2 := by
  obtain ⟨written, entries⟩ := h.write now key credential
  obtain ⟨kept, left⟩ := h.put now key credential
  obtain ⟨_, _, dropped⟩ := written.shrink _ (Nat.le_refl _)
  have dropped : (c.put now key credential).2 = (c.write now key credential).size - c.capacity :=
    dropped
  rw [← entries] at left
  have stays := congrArg List.length left
  rw [List.length_drop, written.length_entries, kept.length_entries] at stays
  rw [← c.size_write now key credential, stays, dropped]
  omega

theorem size_remove (c : Cache) (key : String) :
    c.size = (c.remove key).size + if c.slots.contains key then 1 else 0 := by
  have size : (c.remove key).size = _ := Std.ExtTreeMap.size_erase
  rw [size]
  split
  · rename_i there
    have listed : key ∈ c.slots.keys := Std.ExtTreeMap.mem_keys.mpr there
    have positive := List.length_pos_of_mem listed
    rw [Std.ExtTreeMap.length_keys] at positive
    exact (Nat.sub_add_cancel positive).symm
  · rfl

theorem WellFormed.turnover_purge (h : c.WellFormed) (now : Nat) :
    c.size = (c.purge now).1.size + c.lapsedBy now .purge := by
  obtain ⟨kept, left⟩ := h.toLogged.purge now
  have stays := kept.length_entries
  rw [left, ← List.countP_eq_length_filter] at stays
  have parts := c.entries.length_eq_countP_add_countP
    fun e : CacheEntry => now - e.insertedAt < c.ttl
  rw [h.toLogged.length_entries, stays] at parts
  rw [parts, lapsedBy]
  congr 1
  apply List.countP_congr
  intro e _
  simp

end Cache

namespace Gate

variable {g : Gate} {now : Nat}

theorem turnover_put (h : g.cache.WellFormed) (now : Nat) (key : String) (credential : Credential) :
    g.cache.size + g.metrics.removals + (if g.cache.slots.contains key then 0 else 1) =
      (g.put now key credential).cache.size + (g.put now key credential).metrics.removals := by
  have turnover := h.toLogged.turnover_put now key credential
  have counted : (g.put now key credential).metrics.removals =
      g.metrics.removals + (g.cache.put now key credential).2 := (Nat.add_assoc ..).symm
  rw [counted, cache_put]
  omega

theorem turnover_get (g : Gate) (now : Nat) (key : String) :
    g.cache.size + g.metrics.removals =
      (g.get now key).1.cache.size + (g.get now key).1.metrics.removals +
        g.cache.lapsedBy now (.get key) := by
  rw [Cache.lapsedBy, get]
  cases found : g.cache.lookup now key with
  | absent => rfl
  | live slot => rfl
  | expired =>
    have there : g.cache.slots.contains key = true := by
      rw [Cache.lookup] at found
      rw [Std.ExtTreeMap.contains_eq_isSome_getElem?]
      cases held : g.cache.slots[key]? with
      | none =>
        rw [held] at found
        cases found
      | some slot => rfl
    have size := g.cache.size_remove key
    rw [if_pos there] at size
    rw [if_pos rfl, size]
    exact Nat.add_right_comm ..

theorem evict_eq (g : Gate) (key : String) :
    g.evict key =
      if g.cache.slots.contains key then
        ((Gate.count ⟨(g.cache.evict key).1, g.metrics⟩ .cacheEvicted).recordEntries, true)
      else (⟨(g.cache.evict key).1, g.metrics⟩, false) := rfl

theorem purge_eq (g : Gate) (now : Nat) :
    g.purge now =
      if 0 < (g.cache.purge now).2 then
        (Gate.recordEntries ⟨(g.cache.purge now).1, g.metrics⟩, (g.cache.purge now).2)
      else (⟨(g.cache.purge now).1, g.metrics⟩, (g.cache.purge now).2) := rfl

theorem turnover_evict (g : Gate) (key : String) :
    g.cache.size + g.metrics.removals =
      (g.evict key).1.cache.size + (g.evict key).1.metrics.removals := by
  have size : g.cache.size = (g.cache.evict key).1.size + _ := g.cache.size_remove key
  rw [cache_evict, size, evict_eq]
  split
  · rw [Nat.add_assoc, Nat.add_comm 1]
    exact congrArg _ (Nat.add_right_comm ..)
  · rfl

theorem turnover_purge (h : g.cache.WellFormed) (now : Nat) :
    g.cache.size + g.metrics.removals =
      (g.purge now).1.cache.size + (g.purge now).1.metrics.removals +
        g.cache.lapsedBy now .purge := by
  have counted : (g.purge now).1.metrics.removals = g.metrics.removals := by
    rw [purge_eq]
    split
    · rfl
    · rfl
  rw [cache_purge, counted, h.turnover_purge now]
  exact Nat.add_right_comm ..

/-- Of the entries there were and those that a call makes, each is resident after the call or has
been counted or has expired. -/
theorem turnover_answer (h : g.cache.WellFormed) (now : Nat) (call : CacheCall) :
    g.cache.size + g.metrics.removals + g.cache.freshBy call =
      (g.answer now call).1.cache.size + (g.answer now call).1.metrics.removals +
        g.cache.lapsedBy now call := by
  cases call with
  | put key credential => exact turnover_put h now key credential
  | putIfUnchanged key credential epoch =>
    rw [Cache.freshBy, CacheCall.writes?, answer, putIfUnchanged]
    by_cases same : g.cache.epoch = epoch
    · rw [if_pos same, if_pos same]
      exact turnover_put h now key credential
    · rw [if_neg same, if_neg same]
      rfl
  | get key => exact g.turnover_get now key
  | evict key => exact g.turnover_evict key
  | purge => exact turnover_purge h now
  | size => rfl
  | isEmpty => rfl
  | epoch => rfl

/-- The gauge has been set to the number of entries, or neither of the two has changed. -/
def Records (g g' : Gate) : Prop :=
  g'.metrics.entries = some g'.cache.size ∨
    g'.metrics.entries = g.metrics.entries ∧ g'.cache.size = g.cache.size

theorem Records.refl (g : Gate) : g.Records g :=
  Or.inr ⟨rfl, rfl⟩

theorem records_evict (g : Gate) (key : String) : g.Records (g.evict key).1 := by
  rw [evict_eq]
  split
  · exact Or.inl rfl
  · rename_i absent
    have size := g.cache.size_remove key
    rw [if_neg absent] at size
    exact Or.inr ⟨rfl, size.symm⟩

theorem records_purge (g : Gate) (now : Nat) : g.Records (g.purge now).1 := by
  rw [purge_eq]
  split
  · exact Or.inl rfl
  · rename_i none
    have fewer : (g.cache.purge now).1.size ≤ g.cache.size := Std.ExtTreeMap.size_filter_le_size
    have removed : ¬0 < g.cache.size - (g.cache.purge now).1.size := none
    refine Or.inr ⟨rfl, ?_⟩
    change (g.cache.purge now).1.size = g.cache.size
    omega

theorem records_answer (g : Gate) (now : Nat) (call : CacheCall) :
    g.Records (g.answer now call).1 := by
  cases call with
  | put key credential => exact Or.inl rfl
  | putIfUnchanged key credential epoch =>
    change g.Records (g.putIfUnchanged now key credential epoch).1
    rw [putIfUnchanged]
    split
    · exact Or.inl rfl
    · exact .refl g
  | get key =>
    change g.Records (g.get now key).1
    rw [get]
    split
    · exact .refl g
    · exact Or.inl rfl
    · exact .refl g
  | evict key => exact g.records_evict key
  | purge => exact g.records_purge now
  | size => exact .refl g
  | isEmpty => exact .refl g
  | epoch => exact .refl g

end Gate

end MemberAuth
