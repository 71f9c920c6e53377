import SqlTemplate.Proofs.Cache.Trail
import SqlTemplate.Proofs.Object.SameKey
/-!
# Least recently used

Calls whose computations leave the cache alone make it a list of the keys used last. What it holds can be told from
the history alone: take the keys of the calls that have given something since the cache was emptied, each where it
was last used, and of these the most recent ones, as many as the cache may hold (`recent`). Each stands in the cache
with what the last computation for it has given (`inserted`). `perform_recent` says so for every sequence of calls.
-/

namespace SqlTemplate.Cache

variable {κ ε α : Type} [BEq κ]

/-! ## What a history tells -/

/-- The keys of the calls that have given something since the cache was emptied, the last one first. -/
def uses : List (Event κ ε α) → List κ
  | [] => []
  | .cleared :: _ => []
  | .called call :: events =>
    match call.result with
    | .ok _ => call.key :: uses events
    | .error _ => uses events

/-- Keys where they stand first. -/
def distinct : List κ → List κ
  | [] => []
  | key :: keys => key :: (distinct keys).filter fun other => !(other == key)

/-- The keys used last, not more than the size of the cache. -/
def recent (maxSize : Nat) (events : List (Event κ ε α)) : List κ :=
  (distinct (uses events)).take maxSize

/-- The last entry for a key that a computation has made since the cache was emptied. -/
def inserted (key : κ) : List (Event κ ε α) → Option (κ × α)
  | [] => none
  | .cleared :: _ => none
  | .called ⟨other, some _, .ok value, _⟩ :: events =>
    if other == key then some (other, value) else inserted key events
  | _ :: events => inserted key events

/-! ## Keys where they stand first -/

theorem distinct_pairwise [PartialEquivBEq κ] (keys : List κ) :
    (distinct keys).Pairwise fun key other => (key == other) = false := by
  induction keys with
  | nil => exact .nil
  | cons key keys ih =>
    rw [distinct, List.pairwise_cons]
    refine ⟨fun other hother => ?_, ih.filter _⟩
    obtain ⟨-, hne⟩ := List.mem_filter.mp hother
    rw [BEq.comm]
    simpa using hne

/-- Keys without one of them: only the first few count for the first few of the rest. -/
theorem take_filter_take [PartialEquivBEq κ] {keys : List κ} (key : κ) (count : Nat)
    (h : keys.Pairwise fun key other => (key == other) = false) :
    ((keys.take (count + 1)).filter fun other => !(other == key)).take count
      = (keys.filter fun other => !(other == key)).take count := by
  induction keys generalizing count with
  | nil => rfl
  | cons first keys ih =>
    obtain ⟨hfirst, hkeys⟩ := List.pairwise_cons.mp h
    rw [List.take_succ_cons]
    by_cases hkey : (first == key) = true
    · -- the key is the first, and none of the others is that key
      have hothers : ∀ other ∈ keys, (!(other == key)) = true := by
        intro other hother
        rw [← BEq.congr_right hkey, BEq.comm, hfirst other hother]
        rfl
      rw [List.filter_cons_of_neg (by simp [hkey]), List.filter_cons_of_neg (by simp [hkey]),
        List.filter_eq_self.mpr hothers,
        List.filter_eq_self.mpr fun other hother => hothers other (List.mem_of_mem_take hother),
        List.take_take, Nat.min_self]
    · rw [List.filter_cons_of_pos (by simp [hkey]), List.filter_cons_of_pos (by simp [hkey])]
      cases count with
      | zero => rfl
      | succ count => rw [List.take_succ_cons, List.take_succ_cons, ih count hkeys]

/-! ## Entries that computations have made -/

section Inserted

variable {key other : κ}

/-- A call for another key makes no entry for a key. -/
theorem inserted_called_of_ne [PartialEquivBEq κ] (h : (other == key) = false)
    (computed : Option (Except ε α × Cache κ α)) (result : Except ε α) (after : Cache κ α)
    (events : List (Event κ ε α)) :
    inserted other (.called ⟨key, computed, result, after⟩ :: events) = inserted other events := by
  have hne : ¬ (key == other) = true := by rw [BEq.comm, h]; exact Bool.false_ne_true
  cases computed with
  | none => rfl
  | some computed =>
    cases result with
    | error failure => rfl
    | ok value => rw [inserted, if_neg hne]

theorem inserted_congr [PartialEquivBEq κ] (h : (other == key) = true)
    (events : List (Event κ ε α)) : inserted other events = inserted key events := by
  induction events with
  | nil => rfl
  | cons event events ih =>
    cases event with
    | cleared => rfl
    | called call =>
      obtain ⟨made, computed, result, after⟩ := call
      cases computed with
      | none => exact ih
      | some computed =>
        cases result with
        | error failure => exact ih
        | ok value => rw [inserted, inserted, BEq.congr_right h, ih]

/-- An entry stands in a cache for a key that was used, as the last computation for the key has made it. -/
def Stands (events : List (Event κ ε α)) (entry : κ × α) (key : κ) : Prop :=
  (entry.1 == key) = true ∧ inserted key events = some entry

end Inserted

/-! ## A use of a key -/

section Use

variable {cache : Cache κ α} {key : κ} {events : List (Event κ ε α)}

theorem filter_reverse_of_absent {entries : List (κ × α)}
    (h : ∀ entry ∈ entries, (entry.1 == key) = false) :
    entries.reverse.filter (fun entry => !(entry.1 == key)) = entries.reverse := by
  rw [List.filter_eq_self]
  intro entry hentry
  rw [h entry (List.mem_reverse.mp hentry)]
  rfl

/-- A new entry in a cache, with the entries from the last one on. -/
theorem reverse_publish (hget : cache.get? key = none) (value : α) :
    (cache.publish key value).2.entries.reverse
      = ((key, value) :: cache.entries.reverse.filter fun entry => !(entry.1 == key)).take
          cache.maxSize := by
  rw [publish_of_none hget, filter_reverse_of_absent (get?_eq_none_iff.mp hget)]
  show ((cache.entries ++ [(key, value)]).drop _).reverse = _
  rw [List.reverse_drop, List.reverse_append, List.reverse_singleton, List.singleton_append,
    List.take_eq_take_iff]
  simp only [List.length_append, List.length_cons, List.length_nil, List.length_reverse]
  omega

variable [PartialEquivBEq κ]

/-- After a use of a key its entry comes first and the other entries that still have room behind it, with the keys
likewise. -/
theorem forall₂_stands_use {maxSize : Nat} {entries : List (κ × α)}
    (h : List.Forall₂ (Stands events) entries (recent maxSize events)) {entry : κ × α}
    {computed : Option (Except ε α × Cache κ α)} {value : α} {after : Cache κ α}
    (hentry : Stands (.called ⟨key, computed, .ok value, after⟩ :: events) entry key) :
    List.Forall₂ (Stands (.called ⟨key, computed, .ok value, after⟩ :: events))
      ((entry :: entries.filter fun other => !(other.1 == key)).take maxSize)
      (recent maxSize (.called ⟨key, computed, .ok value, after⟩ :: events)) := by
  cases maxSize with
  | zero => exact .nil
  | succ count =>
    rw [recent, uses, distinct, List.take_succ_cons, List.take_succ_cons]
    refine .cons hentry ?_
    rw [← take_filter_take key count (distinct_pairwise _)]
    apply List.forall₂_take
    rw [recent] at h
    generalize (distinct (uses events)).take (count + 1) = keys at h ⊢
    -- an entry and the key it stands for are left out together, and the others stand as before
    induction h with
    | nil => exact .nil
    | @cons other used others useds hstands _ ih =>
      obtain ⟨hsame, hinserted⟩ := hstands
      by_cases hkey : (used == key) = true
      · rw [List.filter_cons_of_neg (by simp [BEq.congr_left hsame, hkey]),
          List.filter_cons_of_neg (by simp [hkey])]
        exact ih
      · rw [List.filter_cons_of_pos (by simp [BEq.congr_left hsame, hkey]),
          List.filter_cons_of_pos (by simp [hkey])]
        refine .cons ⟨hsame, ?_⟩ ih
        rw [inserted_called_of_ne (Bool.eq_false_iff.mpr hkey), hinserted]

/-- A use of a key in a sound cache, with the entries from the last one on. -/
theorem Sound.reverse_touch (h : cache.Sound) {value : α} (hget : cache.get? key = some value) :
    ∃ kept, (kept == key) = true ∧ (kept, value) ∈ cache.entries ∧
      (cache.touch key).entries.reverse
        = ((kept, value) :: cache.entries.reverse.filter fun entry => !(entry.1 == key)).take
            cache.maxSize := by
  obtain ⟨before, kept, after, hentries, hkept, hbefore⟩ := exists_split_of_get? hget
  refine ⟨kept, hkept, by simp [hentries], ?_⟩
  have hdistinct := h.distinct
  rw [hentries, List.pairwise_append, List.pairwise_cons] at hdistinct
  have hafter : ∀ entry ∈ after, (entry.1 == key) = false := by
    intro entry hentry
    rw [BEq.comm, ← BEq.congr_left hkept]
    exact hdistinct.2.1.1 entry hentry
  have hothers : cache.entries.reverse.filter (fun entry => !(entry.1 == key))
      = after.reverse ++ before.reverse := by
    rw [hentries, List.reverse_append, List.reverse_cons, List.filter_append, List.filter_append,
      filter_reverse_of_absent hafter, filter_reverse_of_absent hbefore,
      List.filter_cons_of_neg (by simp [hkept]), List.filter_nil, List.append_nil]
  have hmoved : (cache.touch key).entries.reverse
      = (kept, value) :: (after.reverse ++ before.reverse) := by
    show (moveToEnd key cache.entries).reverse = _
    rw [hentries, moveToEnd_append hbefore hkept]
    simp
  rw [hothers, hmoved, List.take_of_length_le]
  have hbounded := h.bounded
  rw [hentries] at hbounded
  simp only [List.length_append, List.length_cons, List.length_reverse] at hbounded ⊢
  omega

end Use

/-! ## Sequences of calls -/

/-- A step of a sequence: a call whose computation gives a result and leaves the cache alone, or emptying the
cache. -/
inductive Op (κ ε α : Type) [BEq κ] where
  | call (key : Key κ) (result : Except ε α)
  | clear

/-- A trail after a step. -/
def Trail.perform (trail : Trail κ ε α) : Op κ ε α → Trail κ ε α
  | .call key result => (trail.call key.1 fun trail => (result, trail)).2
  | .clear => trail.clear

/-- The cache of a trail is what its history tells. -/
structure Trail.Told (maxSize : Nat) (trail : Trail κ ε α) : Prop where
  size : trail.cache.maxSize = maxSize
  sound : trail.cache.Sound
  entries : List.Forall₂ (Stands trail.events) trail.cache.entries.reverse
    (recent maxSize trail.events)

/-- What a call has come to when its computation gives a result: the computation is run just when no recent use was of
the key, or else what is given is what a computation has given before; a failure changes nothing. -/
structure Call.Answers (maxSize : Nat) (trail : Trail κ ε α) (key : κ) (result : Except ε α)
    (call : Call κ ε α) : Prop where
  asked : call.key = key
  runs : call.computed.isSome = true ↔ ∀ other ∈ recent maxSize trail.events, (other == key) = false
  given : call.computed.isSome = true → call.result = result
  held : call.computed.isSome = false → ∃ kept value,
    inserted key trail.events = some (kept, value) ∧ call.result = .ok value
  failed : ∀ failure, call.result = .error failure → call.after = trail.cache

section Answers

variable {maxSize : Nat} {trail : Trail κ ε α} {key : κ}

theorem answers_of_held
    (hrecent : ¬ ∀ other ∈ recent maxSize trail.events, (other == key) = false) {entry : κ × α}
    (hinserted : inserted key trail.events = some entry) (result : Except ε α) (after : Cache κ α) :
    Call.Answers maxSize trail key result ⟨key, none, .ok entry.2, after⟩ where
  asked := rfl
  runs := iff_of_false Bool.false_ne_true hrecent
  given hcomputed := by cases hcomputed
  held _ := ⟨entry.1, entry.2, hinserted, rfl⟩
  failed _ hfailure := by cases hfailure

theorem answers_of_computed
    (habsent : ∀ other ∈ recent maxSize trail.events, (other == key) = false) {result : Except ε α}
    {after : Cache κ α} (hfailed : ∀ failure, result = .error failure → after = trail.cache)
    (left : Cache κ α) :
    Call.Answers maxSize trail key result ⟨key, some (result, left), result, after⟩ where
  asked := rfl
  runs := iff_of_true rfl habsent
  given _ := rfl
  held hcomputed := by cases hcomputed
  failed := hfailed

end Answers

namespace Trail.Told

variable {maxSize : Nat} {trail : Trail κ ε α}

theorem start (maxSize : Nat) : Told maxSize (Trail.start (.empty maxSize) : Trail κ ε α) where
  size := rfl
  sound := .empty maxSize
  entries := by
    rw [recent]
    simp [Trail.start, Cache.empty, uses, distinct]

theorem clear (h : Told maxSize trail) : Told maxSize trail.clear where
  size := h.size
  sound := .clear trail.cache
  entries := by
    rw [recent]
    simp [Trail.clear, Trail.place, Place.modify, Cache.clear, uses, distinct]

variable [PartialEquivBEq κ]

/-- Something stands under a key just when the key is one of those used recently. -/
theorem get?_eq_none_iff_recent (h : Told maxSize trail) (key : κ) :
    trail.cache.get? key = none ↔ ∀ other ∈ recent maxSize trail.events, (other == key) = false := by
  have hkeys := h.entries
  have hreverse : (∀ entry ∈ trail.cache.entries, (entry.1 == key) = false)
      ↔ ∀ entry ∈ trail.cache.entries.reverse, (entry.1 == key) = false := by
    simp only [List.mem_reverse]
  rw [get?_eq_none_iff, hreverse]
  generalize trail.cache.entries.reverse = entries at hkeys ⊢
  generalize recent maxSize trail.events = keys at hkeys ⊢
  induction hkeys with
  | nil => simp
  | cons hstands _ ih =>
    rw [List.forall_mem_cons, List.forall_mem_cons, BEq.congr_left hstands.1]
    exact and_congr_right fun _ => ih

/-- An entry of the cache was made by the last computation for its key. -/
theorem inserted_of_mem (h : Told maxSize trail) {key : κ} {entry : κ × α}
    (hentry : entry ∈ trail.cache.entries) (hkey : (entry.1 == key) = true) :
    inserted key trail.events = some entry := by
  have hkeys := h.entries
  rw [← List.mem_reverse] at hentry
  generalize trail.cache.entries.reverse = entries at hkeys hentry
  generalize recent maxSize trail.events = keys at hkeys
  induction hkeys with
  | nil => cases hentry
  | cons hstands _ ih =>
    rcases List.mem_cons.mp hentry with rfl | hentry
    · rw [← hstands.2]
      apply inserted_congr
      rw [BEq.comm, ← BEq.congr_left hstands.1]
      exact hkey
    · exact ih hentry

/-- A use of a key for which an entry stands first afterwards, and behind it the others that still have room. -/
theorem used (h : Told maxSize trail) {key : κ} {cache : Cache κ α} (hsize : cache.maxSize = maxSize)
    (hsound : cache.Sound) {entry : κ × α} {computed : Option (Except ε α × Cache κ α)} {value : α}
    (hentries : cache.entries.reverse
      = (entry :: trail.cache.entries.reverse.filter fun other => !(other.1 == key)).take
          trail.cache.maxSize)
    (hentry : Stands (.called ⟨key, computed, .ok value, cache⟩ :: trail.events) entry key) :
    Told maxSize ((place.set cache trail).ended ⟨key, computed, .ok value, cache⟩) := by
  refine ⟨hsize, hsound, ?_⟩
  show List.Forall₂ _ cache.entries.reverse _
  rw [hentries, h.size]
  exact forall₂_stands_use h.entries hentry

/-- A call whose computation gives a result: the history tells the cache afterwards too, and the call has come to
what it tells. -/
theorem call (h : Told maxSize trail) (key : Key κ) (result : Except ε α) :
    Told maxSize (trail.perform (.call key result)) ∧
      ∃ call, (trail.perform (.call key result)).events = .called call :: trail.events ∧
        (trail.perform (.call key result)).cache = call.after ∧
        call.Answers maxSize trail key.1 result := by
  have hrecent := h.get?_eq_none_iff_recent key.1
  rw [perform]
  cases hget : trail.cache.get? key.1 with
  | some value =>
    obtain ⟨kept, hkept, hmem, htouch⟩ := h.sound.reverse_touch hget
    have hinserted := h.inserted_of_mem hmem hkept
    have hused : ¬ ∀ other ∈ recent maxSize trail.events, (other == key.1) = false := by
      rw [← hrecent, hget]
      exact Option.some_ne_none value
    have hsize : (trail.cache.touch key.1).maxSize = maxSize := h.size
    have hstands : Stands (.called ⟨key.1, none, .ok value, trail.cache.touch key.1⟩ :: trail.events)
        (kept, value) key.1 := ⟨hkept, hinserted⟩
    rw [call_of_some hget]
    exact ⟨h.used hsize (h.sound.touch key.1) htouch hstands, _, rfl, rfl,
      answers_of_held hused hinserted result _⟩
  | none =>
    -- the computation is run; what it gives decides what becomes of the cache
    have habsent := hrecent.mp hget
    cases result with
    | error failure =>
      rw [call_of_error hget rfl]
      exact ⟨⟨h.size, h.sound, h.entries⟩, _, rfl, rfl, answers_of_computed habsent (fun _ _ => rfl) _⟩
    | ok value =>
      by_cases hsize : trail.cache.maxSize = 0
      · rw [call_of_zero hget rfl hsize]
        refine ⟨⟨h.size, h.sound, ?_⟩, _, rfl, rfl,
          answers_of_computed habsent (fun failure hfailure => by cases hfailure) _⟩
        -- nothing is stored, and nothing is recent
        have hempty : trail.cache.entries = [] := by
          have hbounded := h.sound.bounded
          rw [hsize] at hbounded
          exact List.length_eq_zero_iff.mp (Nat.le_zero.mp hbounded)
        have hnone : maxSize = 0 := h.size.symm.trans hsize
        show List.Forall₂ _ trail.cache.entries.reverse _
        rw [hempty, hnone]
        exact .nil
      · have hpublished : (trail.begun.cache.publish key.1 value).1 = value := by
          rw [publish_of_none (show trail.begun.cache.get? key.1 = none from hget)]
        have hstands : Stands (.called ⟨key.1, some (.ok value, trail.cache), .ok value,
            (trail.cache.publish key.1 value).2⟩ :: trail.events) (key.1, value) key.1 :=
          ⟨key.2, by rw [inserted, if_pos key.2]⟩
        have hstill : (trail.cache.publish key.1 value).2.maxSize = maxSize := h.size
        rw [call_of_ok hget rfl hsize, hpublished]
        exact ⟨h.used hstill (h.sound.publish key.1 value) (reverse_publish hget value) hstands, _, rfl,
          rfl, answers_of_computed habsent (fun _ hfailure => by cases hfailure) _⟩

theorem perform (h : Told maxSize trail) (op : Op κ ε α) : Told maxSize (trail.perform op) := by
  cases op with
  | call key result => exact (h.call key result).1
  | clear => exact h.clear

theorem foldl (h : Told maxSize trail) (ops : List (Op κ ε α)) :
    Told maxSize (ops.foldl Trail.perform trail) := by
  induction ops generalizing trail with
  | nil => exact h
  | cons op ops ih =>
    rw [List.foldl_cons]
    exact ih (h.perform op)

end Trail.Told

/-- After any sequence of calls and clearings of a cache of any size, the entries of the cache from the last one on are
those for the keys used last since the cache was emptied, each as the last computation for its key has made it. And
whatever call comes next has come to what the history tells: its computation is run just when its key is not one of
these, otherwise what has been stored for the key is given, and a failure leaves the cache as it was. -/
theorem perform_recent [PartialEquivBEq κ] (maxSize : Nat) (ops : List (Op κ ε α)) :
    let trail := ops.foldl Trail.perform (Trail.start (.empty maxSize))
    List.Forall₂ (Stands trail.events) trail.cache.entries.reverse (recent maxSize trail.events) ∧
      ∀ key result, ∃ call,
        (trail.perform (.call key result)).events = .called call :: trail.events ∧
        (trail.perform (.call key result)).cache = call.after ∧
        call.Answers maxSize trail key.1 result := by
  have htold := (Trail.Told.start maxSize).foldl ops
  exact ⟨htold.entries, fun key result => (htold.call key result).2⟩

/-- Compilations in a cache of size two: the second one is given up, since the first has been used again, and the one
that fails changes nothing. -/
theorem perform_recent_compilations :
    ∃ a b c d : Key CacheKey,
      let ops : List (Op CacheKey String Nat) :=
        [.call a (.ok 10), .call b (.ok 20), .call a (.ok 11), .call c (.ok 30), .call d (.error "none")]
      let trail := ops.foldl Trail.perform (Trail.start (.empty 2))
      recent 2 trail.events = [c.1, a.1] ∧ trail.cache.entries = [(a.1, 10), (c.1, 30)] ∧
        List.Forall₂ (Stands trail.events) trail.cache.entries.reverse (recent 2 trail.events) ∧
        ∃ call, (trail.perform (.call a (.ok 12))).events = .called call :: trail.events ∧
          (trail.perform (.call a (.ok 12))).cache = call.after ∧
          call.Answers 2 trail a.1 (.ok 12) := by
  refine ⟨⟨.compilation "\x7ba\x7d" [("a", "INT")] 0, rfl⟩, ⟨.compilation "\x7bb\x7d" [] 0, rfl⟩,
    ⟨.compilation "\x7bc\x7d" [] 0, rfl⟩, ⟨.compilation "\x7b" [] 0, rfl⟩, rfl, rfl, ?_⟩
  exact ⟨(perform_recent 2 _).1, (perform_recent 2 _).2 _ _⟩

end SqlTemplate.Cache
