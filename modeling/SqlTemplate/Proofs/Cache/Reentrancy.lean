import Mathlib.Data.List.Chain
import SqlTemplate.Proofs.Cache.Trail
/-!
# Computations that use their own cache

A lookup and the publication that follows it are two steps, and the computation between them may do anything with the
cache: look up the same key, fill the cache until entries are given up, empty it. Nevertheless whoever asks for
a key is given what stands under it then, and what stands there stays until it is given up or the cache is
emptied. `run_task` says so for every task, however deep its calls are nested.

All changes of the cache are made in single steps, so the invariant is about the list of all caches there have
been: each is sound, and each keeps what the one before it held (`Keeps`).
-/

namespace SqlTemplate.Cache

variable {κ ε α : Type} [BEq κ]

/-! ## What a change keeps -/

/-- After a change of a cache a key has what it had before, or it has nothing: the cache has been emptied, or it was
full and the entry for the key was the one least recently used. -/
def Keeps (earlier later : Cache κ α) : Prop :=
  ∀ key value, earlier.get? key = some value → later.get? key = some value ∨
    later.get? key = none ∧ (later = earlier.clear ∨ earlier.entries.length = earlier.maxSize ∧
      ∃ kept, (kept == key) = true ∧ earlier.entries.head? = some (kept, value))

theorem keeps_clear (cache : Cache κ α) : Keeps cache cache.clear :=
  fun _ _ _ => .inr ⟨rfl, .inl rfl⟩

section Keeps

variable {cache : Cache κ α}

/-- At most one entry is given up for a new one: the first, if the cache is full. -/
theorem Sound.given_up_of_publish (h : cache.Sound) {key : κ} (hkey : cache.get? key = none) (value : α)
    {entry : κ × α} (hmem : entry ∈ cache.entries) (hgone : entry ∉ (cache.publish key value).2.entries) :
    cache.entries.length = cache.maxSize ∧ ∃ rest, cache.entries = entry :: rest ∧
      (cache.publish key value).2.entries = rest ++ [(key, value)] := by
  have hbounded := h.bounded
  rw [publish_of_none hkey] at hgone ⊢
  have hfull : cache.entries.length = cache.maxSize := by
    by_contra hroom
    apply hgone
    have hdrop : cache.entries.length + 1 - cache.maxSize = 0 := by omega
    rw [hdrop, List.drop_zero]
    exact List.mem_append_left _ hmem
  obtain ⟨first, rest, hentries⟩ := List.exists_cons_of_ne_nil (List.ne_nil_of_mem hmem)
  have hdrop : cache.entries.length + 1 - cache.maxSize = 1 := by omega
  have hlater : (cache.entries ++ [(key, value)]).drop (cache.entries.length + 1 - cache.maxSize)
      = rest ++ [(key, value)] := by
    rw [hdrop, hentries]
    rfl
  rw [hlater] at hgone ⊢
  rw [hentries] at hmem
  rcases List.mem_cons.mp hmem with rfl | hrest
  · exact ⟨hfull, rest, hentries, rfl⟩
  · exact absurd (List.mem_append_left _ hrest) hgone

variable [PartialEquivBEq κ]

theorem Sound.keeps_touch (h : cache.Sound) (key : κ) : Keeps cache (cache.touch key) := by
  intro other value hget
  rw [h.get?_touch]
  exact .inl hget

theorem Sound.keeps_publish (h : cache.Sound) (key : κ) (value : α) :
    Keeps cache (cache.publish key value).2 := by
  cases hkey : cache.get? key with
  | some kept =>
    rw [h.publish_of_some hkey]
    exact h.keeps_touch key
  | none =>
    intro other found hget
    obtain ⟨kept, hmem, hkept⟩ := h.get?_eq_some_iff.mp hget
    by_cases hstays : (kept, found) ∈ (cache.publish key value).2.entries
    · exact .inl ((h.publish key value).get?_eq_some_iff.mpr ⟨kept, hstays, hkept⟩)
    · obtain ⟨hfull, rest, hentries, hlater⟩ := h.given_up_of_publish hkey value hmem hstays
      refine .inr ⟨?_, .inr ⟨hfull, kept, hkept, by rw [hentries, List.head?_cons]⟩⟩
      have hdistinct := h.distinct
      rw [hentries, List.pairwise_cons] at hdistinct
      -- neither the entries that stay are for the key, nor is the new one
      rw [get?_eq_none_iff, hlater]
      intro entry hentry
      rw [BEq.comm, ← BEq.congr_left hkept]
      rcases List.mem_append.mp hentry with hrest | hnew
      · exact hdistinct.1 entry hrest
      · rw [List.mem_singleton.mp hnew]
        exact get?_eq_none_iff.mp hkey (kept, found) hmem

end Keeps

/-! ## What a call gives -/

/-- What a call comes to for whoever makes it. -/
structure Call.Settled (call : Call κ ε α) : Prop where
  /-- What is given stands under the key, and the key is the one last used. -/
  latest : ∀ value, call.result = .ok value → ∃ kept, (kept == call.key) = true ∧
    call.after.entries.getLast? = some (kept, value)
  /-- What stands under the key when the computation is done is given in the place of its result. -/
  published : ∀ value left held, call.computed = some (.ok value, left) →
    left.get? call.key = some held → call.result = .ok held ∧ call.after = left.touch call.key
  /-- If nothing stands there then, the result of the computation is given. -/
  computed : ∀ value left, call.computed = some (.ok value, left) → left.get? call.key = none →
    call.result = .ok value
  /-- A call that fails leaves the cache as its computation has left it. -/
  failed : ∀ failure, call.result = .error failure → call.computed = some (.error failure, call.after)

section Settled

variable {key : κ} {cache : Cache κ α}

theorem settled_of_some {value : α} (h : cache.get? key = some value) :
    Call.Settled (⟨key, none, .ok value, cache.touch key⟩ : Call κ ε α) where
  latest value' hvalue := by
    obtain rfl : value = value' := Except.ok.inj hvalue
    exact getLast?_touch h
  published _ _ _ hcomputed := by cases hcomputed
  computed _ _ hcomputed := by cases hcomputed
  failed _ hfailure := by cases hfailure

theorem settled_of_error (key : κ) (failure : ε) (left : Cache κ α) :
    Call.Settled (⟨key, some (.error failure, left), .error failure, left⟩ : Call κ ε α) where
  latest _ hvalue := by cases hvalue
  published _ _ _ hcomputed := by cases hcomputed
  computed _ _ hcomputed := by cases hcomputed
  failed failure' hfailure := by
    obtain rfl : failure = failure' := Except.error.inj hfailure
    rfl

theorem settled_of_publish (h : cache.Sound) (hsize : cache.maxSize ≠ 0) (hkey : (key == key) = true)
    (value : α) :
    Call.Settled (⟨key, some (.ok value, cache), .ok (cache.publish key value).1,
      (cache.publish key value).2⟩ : Call κ ε α) := by
  cases hget : cache.get? key with
  | some held =>
    rw [h.publish_of_some hget]
    refine ⟨?_, ?_, ?_, fun failure hfailure => by cases hfailure⟩
    · intro value' hvalue
      obtain rfl : held = value' := Except.ok.inj hvalue
      exact getLast?_touch hget
    · intro computed left held' hcomputed hheld
      obtain ⟨-, rfl⟩ := Prod.mk.inj (Option.some.inj hcomputed)
      obtain rfl : held = held' := Option.some.inj (hget.symm.trans hheld)
      exact ⟨rfl, rfl⟩
    · intro computed left hcomputed hnone
      obtain ⟨-, rfl⟩ := Prod.mk.inj (Option.some.inj hcomputed)
      cases hget.symm.trans hnone
  | none =>
    rw [publish_of_none hget]
    refine ⟨?_, ?_, ?_, fun failure hfailure => by cases hfailure⟩
    · intro value' hvalue
      obtain rfl : value = value' := Except.ok.inj hvalue
      refine ⟨key, hkey, ?_⟩
      show ((cache.entries ++ [(key, value)]).drop _).getLast? = some (key, value)
      rw [List.getLast?_drop, if_neg, List.getLast?_concat]
      rw [List.length_append, List.length_singleton]
      omega
    · intro computed left held' hcomputed hheld
      obtain ⟨-, rfl⟩ := Prod.mk.inj (Option.some.inj hcomputed)
      cases hget.symm.trans hheld
    · intro computed left hcomputed _
      obtain ⟨hvalue, -⟩ := Prod.mk.inj (Option.some.inj hcomputed)
      exact hvalue

end Settled

/-! ## Trails of tasks -/

/-- Every cache of a trail is sound and of one size, each keeps what the one before it held, and every call has been
settled. -/
structure Trail.Good (maxSize : Nat) (trail : Trail κ ε α) : Prop where
  current : trail.caches.head? = some trail.cache
  size : ∀ cache ∈ trail.caches, cache.maxSize = maxSize
  sound : ∀ cache ∈ trail.caches, cache.Sound
  keeps : trail.caches.IsChain fun later earlier => Keeps earlier later
  settled : ∀ call, .called call ∈ trail.events → call.after ∈ trail.caches ∧ call.Settled

namespace Trail.Good

variable {maxSize : Nat} {trail : Trail κ ε α}

theorem start {cache : Cache κ α} (h : cache.Sound) : Good cache.maxSize (Trail.start cache : Trail κ ε α) where
  current := rfl
  size state hmem := by rw [List.mem_singleton.mp hmem]
  sound state hmem := by rwa [List.mem_singleton.mp hmem]
  keeps := .singleton _
  settled call hmem := by cases hmem

theorem mem_caches (h : Good maxSize trail) : trail.cache ∈ trail.caches :=
  List.mem_of_head? h.current

/-- A sound cache that keeps what the present one holds may take its place. -/
theorem set (h : Good maxSize trail) {cache : Cache κ α} (hsize : cache.maxSize = maxSize)
    (hsound : cache.Sound) (hkeeps : Keeps trail.cache cache) :
    Good maxSize (Trail.place.set cache trail) where
  current := rfl
  size := List.forall_mem_cons.mpr ⟨hsize, h.size⟩
  sound := List.forall_mem_cons.mpr ⟨hsound, h.sound⟩
  keeps := by
    refine h.keeps.cons fun earlier hearlier => ?_
    obtain rfl : trail.cache = earlier := Option.some.inj (h.current.symm.trans hearlier)
    exact hkeeps
  settled call hmem := by
    obtain ⟨hafter, hsettled⟩ := h.settled call hmem
    exact ⟨List.mem_cons_of_mem _ hafter, hsettled⟩

theorem begun (h : Good maxSize trail) : Good maxSize trail.begun :=
  ⟨h.current, h.size, h.sound, h.keeps, h.settled⟩

theorem ended (h : Good maxSize trail) {call : Call κ ε α} (hafter : call.after = trail.cache)
    (hsettled : call.Settled) : Good maxSize (trail.ended call) where
  current := h.current
  size := h.size
  sound := h.sound
  keeps := h.keeps
  settled other hmem := by
    rcases List.mem_cons.mp hmem with heq | hmem
    · obtain rfl : other = call := Event.called.inj heq
      exact ⟨hafter ▸ h.mem_caches, hsettled⟩
    · exact h.settled other hmem

theorem clear (h : Good maxSize trail) : Good maxSize trail.clear := by
  have hsize : trail.cache.clear.maxSize = maxSize := h.size trail.cache h.mem_caches
  have hset := h.set hsize (Sound.clear trail.cache) (keeps_clear trail.cache)
  refine ⟨hset.current, hset.size, hset.sound, hset.keeps, fun call hmem => ?_⟩
  rcases List.mem_cons.mp hmem with heq | hmem
  · cases heq
  · exact hset.settled call hmem

/-- A call leaves a good trail good if its computation does. -/
theorem call [PartialEquivBEq κ] (h : Good maxSize trail) (hsize : maxSize ≠ 0) (key : Key κ)
    {compute : ExceptT ε (StateM (Trail κ ε α)) α}
    (hcompute : ∀ trail, Good maxSize trail → Good maxSize (compute trail).2) :
    Good maxSize (trail.call key.1 compute).2 := by
  cases hget : trail.cache.get? key.1 with
  | some value =>
    have hsound := h.sound _ h.mem_caches
    have htouch : (trail.cache.touch key.1).maxSize = maxSize := h.size trail.cache h.mem_caches
    rw [call_of_some hget]
    exact (h.set htouch (hsound.touch key.1) (hsound.keeps_touch key.1)).ended rfl
      (settled_of_some hget)
  | none =>
    -- whatever the computation has done to the cache, what it leaves is good, and all that follows is about that
    rcases hrun : compute trail.begun with ⟨result, after⟩
    have hafter : Good maxSize after := by
      have hgood := hcompute trail.begun h.begun
      rwa [hrun] at hgood
    cases result with
    | error failure =>
      rw [call_of_error hget hrun]
      exact hafter.ended rfl (settled_of_error key.1 failure after.cache)
    | ok value =>
      have hsound := hafter.sound _ hafter.mem_caches
      have hafterSize := hafter.size _ hafter.mem_caches
      have hroom : after.cache.maxSize ≠ 0 := hafterSize ▸ hsize
      have hpublish : (after.cache.publish key.1 value).2.maxSize = maxSize := hafterSize
      rw [call_of_ok hget hrun hroom]
      exact (hafter.set hpublish (hsound.publish key.1 value) (hsound.keeps_publish key.1 value)).ended
        rfl (settled_of_publish hsound hroom key.2 value)

/-- A task leaves a good trail good. -/
theorem task [PartialEquivBEq κ] (hsize : maxSize ≠ 0) (task : Task κ ε α) :
    ∀ trail : Trail κ ε α, Good maxSize trail → Good maxSize (task.run trail).2 := by
  -- a call is good by the hypothesis for its computation, and what follows it by that for the rest
  induction task with
  | done result => exact fun trail h => h
  | clear next ih => exact fun trail h => ih trail.clear h.clear
  | look next ih => exact fun trail h => ih trail.cache trail h
  | call key compute next ihcompute ihnext =>
    intro trail h
    exact ihnext _ _ (h.call hsize key ihcompute)

end Trail.Good

/-- Whatever a task does with a sound cache that may hold anything at all: every cache that it comes to is sound, what
stands under a key is not replaced before it has been given up or the cache has been emptied, and every call has
been settled with one of these caches at its end. -/
theorem run_task [PartialEquivBEq κ] {cache : Cache κ α} (hsize : 1 ≤ cache.maxSize)
    (hsound : cache.Sound) (task : Task κ ε α) :
    let trail := (task.run (Trail.start cache)).2
    (∀ state ∈ trail.caches, state.entries.length ≤ cache.maxSize ∧
        state.entries.Pairwise fun entry other => (entry.1 == other.1) = false) ∧
      (trail.caches.IsChain fun later earlier => Keeps earlier later) ∧
      ∀ call, .called call ∈ trail.events → call.after ∈ trail.caches ∧ call.Settled := by
  have hgood := Trail.Good.task (Nat.one_le_iff_ne_zero.mp hsize) task _ (Trail.Good.start hsound)
  refine ⟨fun state hmem => ?_, hgood.keeps, hgood.settled⟩
  have hstate := hgood.sound state hmem
  rw [← hgood.size state hmem]
  exact ⟨hstate.bounded, hstate.distinct⟩

/-- A full cache, and a computation for a key that calls the cache for the same key before it gives a thing of its
own: the inner call gives up an entry, and the outer one gives what the inner one has stored. -/
theorem run_task_nested :
    ∃ task : Task Nat String Nat,
      1 ≤ (⟨2, [(7, 70), (8, 80)]⟩ : Cache Nat Nat).maxSize ∧
      (⟨2, [(7, 70), (8, 80)]⟩ : Cache Nat Nat).Sound ∧
      (task.run (Trail.start ⟨2, [(7, 70), (8, 80)]⟩)).1 = .ok 10 ∧
      (task.run (Trail.start ⟨2, [(7, 70), (8, 80)]⟩)).2.cache.entries = [(8, 80), (1, 10)] ∧
      ∀ call, .called call ∈ (task.run (Trail.start ⟨2, [(7, 70), (8, 80)]⟩)).2.events →
        call.Settled := by
  have hsound : (⟨2, [(7, 70), (8, 80)]⟩ : Cache Nat Nat).Sound := ⟨by decide, by decide⟩
  refine ⟨.call ⟨1, rfl⟩ (.call ⟨1, rfl⟩ (.done (.ok 10)) fun _ => .done (.ok 11)) .done, by decide, hsound,
    rfl, rfl, fun call hcall => ?_⟩
  exact ((run_task (by decide) hsound _).2.2 call hcall).2

end SqlTemplate.Cache
