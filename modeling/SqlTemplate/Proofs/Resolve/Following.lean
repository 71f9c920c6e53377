import SqlTemplate.Proofs.Invocation
import SqlTemplate.Proofs.Resolve.Containment
/-!
# Following a path

A path is followed from a parameter. `Walks` says what that is: each qualifier is read out of the value that the one
before it led to, in the world that was left there. The text of the whole path goes along for the messages; it has no
part in what is read (`Walks.of_path`). So a path leads, as far as it can be followed, to what its beginnings lead to by
themselves.

`parts_reach` is the main theorem. Either the root is no parameter with a value, and nothing has been run. Or the path
can be walked for some way, where each beginning of that way resolves by itself to the value that was there; and if
there is a qualifier left then, reading that one out of the value fails. How it fails is told by `Fails`: the resolver
itself tells that there is no such property, naming the qualifier, the name in front of it and the whole path, when
there is no value or when the strategies are exhausted; otherwise a strategy decided.
-/

namespace SqlTemplate

/-- A name is a parameter of the method, and the call has an argument for it. -/
def Invocation.Has (invocation : Invocation) (name : String) (value : Value) : Prop :=
  invocation.method.hasParameter name = true ∧ invocation.arguments.lookup name = some value

theorem Invocation.argument_eq_ok_iff {invocation : Invocation} {name path : String} {value : Value} :
    invocation.argument name path = .ok value ↔ invocation.Has name value := by
  unfold argument Has
  cases invocation.arguments.lookup name with
  | none => simp
  | some argument => cases invocation.method.hasParameter name <;> simp

theorem Invocation.argument_of_not_has {invocation : Invocation} {name : String}
    (h : ∀ value, ¬ invocation.Has name value) (path : String) :
    invocation.argument name path = .error (.unknownParameter name path invocation.method.parameterNames) := by
  unfold argument
  cases hlookup : invocation.arguments.lookup name with
  | none => rfl
  | some argument =>
    have hparameter : ¬ invocation.method.hasParameter name = true := fun hparameter => h argument ⟨hparameter, hlookup⟩
    exact if_neg hparameter

namespace Resolve

/-! ## The text of the path -/

section

variable {chain : List Strategy} {value result : Value} {owner qualifier path : String} {names : List String}
  {w w' : World}

/-- What an accessor gives does not depend on the path it is used for, unless it fails. -/
theorem Used.of_path {accessor : Accessor} {attempt : Attempt} (h : Used path accessor w attempt w')
    (hmade : ∀ failure, attempt.decision? ≠ some (.error failure)) (other : String) :
    Used other accessor w attempt w' := by
  cases h with
  | notBool hinvoke hneeds hcheck => exact .notBool hinvoke hneeds hcheck
  | noAttribute hinvoke hdynamic hmissing hpermitted => exact .noAttribute hinvoke hdynamic hmissing hpermitted
  | accepted hinvoke hneeds => exact .accepted hinvoke hneeds
  | acceptedBool hinvoke hneeds hcheck => exact .acceptedBool hinvoke hneeds hcheck
  | failed hinvoke hrefusal => exact absurd rfl (hmade _)
  | unchecked hinvoke hneeds hcheck => exact absurd rfl (hmade _)

theorem Tried.of_path {strategy : Strategy} {attempt : Attempt}
    (h : Tried value qualifier path strategy w attempt w')
    (hmade : ∀ failure, attempt.decision? ≠ some (.error failure)) (other : String) :
    Tried value qualifier other strategy w attempt w' := by
  cases h with
  | nothing hlocate => exact .nothing hlocate
  | located hlocate hused => exact .located hlocate (hused.of_path hmade other)
  | denied hlocate => exact absurd rfl (hmade _)

/-- A qualifier that is read by a chain is read alike on any path and from any owner. -/
theorem start_readBy_of_ok (h : (readBy value owner qualifier path chain).start w = (.ok result, w'))
    (owner' path' : String) : (readBy value owner' qualifier path' chain).start w = (.ok result, w') := by
  induction chain generalizing w with
  | nil => cases h
  | cons strategy chain ih =>
    obtain ⟨attempt, w₁, htried⟩ := exists_tried value qualifier path strategy w
    rw [start_readBy_of_tried htried] at h
    -- only an attempt that fails writes the path into a message, and none here does
    cases hdecision : attempt.decision? with
    | none =>
      have htried' := htried.of_path (by simp [hdecision]) path'
      rw [hdecision] at h
      rw [start_readBy_of_tried htried', hdecision]
      exact ih h
    | some outcome =>
      rw [hdecision] at h
      cases h
      have htried' := htried.of_path (by simp [hdecision]) path'
      rw [start_readBy_of_tried htried', hdecision]

theorem start_segment_of_ok (h : (segment chain value owner qualifier path).start w = (.ok result, w'))
    (owner' path' : String) : (segment chain value owner' qualifier path').start w = (.ok result, w') := by
  by_cases hvalue : value = .null
  · subst hvalue
    cases h
  · rw [segment_eq_readBy hvalue] at h ⊢
    exact start_readBy_of_ok h owner' path'

end

/-! ## Walks -/

/-- Names are read one out of the other, on the way of a path: each out of the value before it, which is told by the
name before it, in the world that was left there. -/
inductive Walks (chain : List Strategy) (path : String) :
    Value → String → List String → World → Value → World → Prop where
  | done (value : Value) (owner : String) (w : World) : Walks chain path value owner [] w value w
  | step {value next last : Value} {owner qualifier : String} {names : List String} {w w₁ w' : World}
    (hread : (segment chain value owner qualifier path).start w = (.ok next, w₁))
    (hmore : Walks chain path next qualifier names w₁ last w') :
    Walks chain path value owner (qualifier :: names) w last w'

section

variable {chain : List Strategy} {value last : Value} {owner path : String} {names : List String} {w w' : World}

/-- To follow names is to walk them. -/
theorem start_follow_eq_ok :
    (follow chain path value owner names).start w = (.ok last, w') ↔ Walks chain path value owner names w last w' := by
  induction names generalizing value owner w with
  | nil =>
    constructor
    · intro h
      cases h
      exact .done _ _ _
    · intro h
      cases h
      rfl
  | cons qualifier names ih =>
    rw [follow, Run.start_bind_eq_ok]
    constructor
    · rintro ⟨next, w₁, hread, hmore⟩
      exact .step hread (ih.mp hmore)
    · rintro (_ | ⟨hread, hmore⟩)
      exact ⟨_, _, hread, ih.mpr hmore⟩

/-- The same names are walked on any path. -/
theorem Walks.of_path (h : Walks chain path value owner names w last w') (path' : String) :
    Walks chain path' value owner names w last w' := by
  induction h with
  | done value owner w => exact .done value owner w
  | step hread _ ih => exact .step (start_segment_of_ok hread _ path') ih

/-- Names are walked in two parts, the second from where the first leads to. -/
theorem walks_append {front back : List String} :
    Walks chain path value owner (front ++ back) w last w' ↔
      ∃ next w₁, Walks chain path value owner front w next w₁ ∧
        Walks chain path next (front.getLastD owner) back w₁ last w' := by
  induction front generalizing value owner w with
  | nil =>
    constructor
    · intro h
      exact ⟨value, w, .done value owner w, h⟩
    · rintro ⟨next, w₁, hfront, hback⟩
      cases hfront
      exact hback
  | cons qualifier front ih =>
    rw [List.cons_append, List.getLastD_cons]
    constructor
    · rintro (_ | ⟨hread, hmore⟩)
      obtain ⟨next, w₁, hfront, hback⟩ := ih.mp hmore
      exact ⟨next, w₁, .step hread hfront, hback⟩
    · rintro ⟨next, w₁, _ | ⟨hread, hfront⟩, hback⟩
      exact .step hread (ih.mpr ⟨next, w₁, hfront, hback⟩)

end

variable (chain : List Strategy) (invocation : Invocation) (root : String)

/-- The names behind a root are walked, on the way of a longer path, to a value. Each beginning of this way, taken for a
path of its own, resolves from the same world to the value that was there, from which the rest of the way leads on. -/
def Reaches (path : String) (argument : Value) (names : List String) (w : World) (value : Value) (w' : World) : Prop :=
  ∀ front back, names = front ++ back → ∃ there w₁,
    (parts chain invocation (root :: front)).start w = (.ok there, w₁) ∧
    Walks chain path argument root front w there w₁ ∧
    Walks chain path there (front.getLastD root) back w₁ value w'

section

variable {chain invocation root} {path : String} {names : List String} {argument value : Value} {w w' : World}

theorem parts_of_has (hargument : invocation.Has root argument) (names : List String) :
    parts chain invocation (root :: names) = follow chain (".".intercalate (root :: names)) argument root names := by
  have hfound : invocation.argument root (".".intercalate (root :: names)) = .ok argument :=
    Invocation.argument_eq_ok_iff.mpr hargument
  simp only [parts, hfound]

/-- What is walked to from an argument is reached. -/
theorem Walks.reaches (h : Walks chain path argument root names w value w') (hargument : invocation.Has root argument) :
    Reaches chain invocation root path argument names w value w' := by
  rintro front back rfl
  obtain ⟨there, w₁, hfront, hback⟩ := walks_append.mp h
  refine ⟨there, w₁, ?_, hfront, hback⟩
  rw [parts_of_has hargument]
  exact start_follow_eq_ok.mpr (hfront.of_path _)

end

/-- A path is followed up to the first name that cannot be read. If its root is no parameter with a value, that is told,
and the world is as it was. Otherwise some names behind the root are walked to a value, each read out of the value before
it; if these are all, the value is what the path resolves to, and if there is another one, the path fails with what reading
that one out of the value fails with, in the world that this leaves, whatever names stand behind. -/
theorem parts_reach (more : List String) (w : World) :
    let path := ".".intercalate (root :: more)
    let walk := (parts chain invocation (root :: more)).start w
    ((∀ argument, ¬ invocation.Has root argument) ∧
      walk = (.error (.fault (.unknownParameter root path invocation.method.parameterNames) none), w)) ∨
    ∃ argument before after value w₁, invocation.Has root argument ∧ more = before ++ after ∧
      Walks chain path argument root before w value w₁ ∧
      Reaches chain invocation root path argument before w value w₁ ∧
      (after = [] → walk = (.ok value, w₁)) ∧
      ∀ qualifier later, after = qualifier :: later → ∃ failure w',
        walk = (.error failure, w') ∧
        (segment chain value (before.getLastD root) qualifier path).start w₁ = (.error failure, w') ∧
        Fails chain value (before.getLastD root) qualifier path w₁ failure w' ∧
        ∀ others, (follow chain path argument root (before ++ qualifier :: others)).start w = (.error failure, w') := by
  intro path walk
  by_cases hroot : ∃ argument, invocation.Has root argument
  · obtain ⟨argument, hargument⟩ := hroot
    have hwalk : walk = (follow chain path argument root more).start w :=
      congrArg (·.start w) (parts_of_has hargument more)
    refine .inr ⟨argument, ?_⟩
    rcases hfollow : (follow chain path argument root more).start w with ⟨failure | value, w'⟩
    · -- the names in front of the one that fails were walked, so their beginnings were, too
      obtain ⟨before, qualifier, later, value, w₁, hmore, hbefore, hfails⟩ := start_follow_eq_error.mp hfollow
      have hwalks := start_follow_eq_ok.mp hbefore
      refine ⟨before, qualifier :: later, value, w₁, hargument, hmore, hwalks, hwalks.reaches hargument,
        nofun, fun next others hnext => ?_⟩
      obtain ⟨rfl, rfl⟩ := List.cons.inj hnext
      refine ⟨failure, w', hwalk.trans hfollow, hfails, start_segment_eq_error.mp hfails, fun others => ?_⟩
      exact start_follow_eq_error.mpr ⟨before, qualifier, others, value, w₁, rfl, hbefore, hfails⟩
    · have hwalks := start_follow_eq_ok.mp hfollow
      exact ⟨more, [], value, w', hargument, (List.append_nil more).symm, hwalks, hwalks.reaches hargument,
        fun _ => hwalk.trans hfollow, nofun⟩
  · have hnone : ∀ argument, ¬ invocation.Has root argument := fun argument h => hroot ⟨argument, h⟩
    refine .inl ⟨hnone, ?_⟩
    simp only [walk, parts, Invocation.argument_of_not_has hnone]
    rfl

/-- A world with an object whose property gives another object, whose property gives nothing. -/
def boxes : World :=
  let getter (name : String) (id : Nat) (value : Value) : Function :=
    ⟨name, ⟨[.plain "self"], .absent⟩, .perform ⟨id, [], .give value⟩⟩
  { World.empty with
    classes := World.empty.classes ++ [.ofMembers "Outer" [("a", .property 0)], .ofMembers "Inner" [("b", .property 1)]]
    functions := [getter "Outer.a" 0 (.object 1), getter "Inner.b" 1 .null], objects := [.ofKind 2, .ofKind 3] }

/-- The world after both properties have been read. -/
def boxesRead : World :=
  { boxes with calls := ["Outer.a", "Inner.b"], done := [0, 1] }

theorem start_segment_outer : (segment (Strategy.standard false) (.object 0) "o" "a" "o.a.b.c").start boxes
    = (.ok (.object 1), { boxes with calls := ["Outer.a"], done := [0] }) := rfl

theorem start_segment_inner : (segment (Strategy.standard false) (.object 1) "a" "b" "o.a.b.c").start
    { boxes with calls := ["Outer.a"], done := [0] } = (.ok .null, boxesRead) := rfl

/-- Two names are read, the second out of what the first gave. The second has no value, so that the third cannot be read:
what is told names the third name and the second, and the whole path. -/
theorem parts_reach_boxes :
    let invocation := Invocation.ofArguments (.ofNames "m" ["o"]) [("o", .object 0)]
    let chain := Strategy.standard false
    let fault := Fault.noProperty "c" "b" "o.a.b.c" "The value of 'b' is None."
    Walks chain "o.a.b.c" (.object 0) "o" ["a", "b"] boxes .null boxesRead ∧
    (parts chain invocation ["o", "a", "b"]).start boxes = (.ok .null, boxesRead) ∧
    (parts chain invocation ["o", "a", "b", "c"]).start boxes = (.error (.fault fault none), boxesRead) := by
  intro invocation chain fault
  have hreach := parts_reach chain invocation "o" ["a", "b", "c"] boxes
  rw [show ".".intercalate ["o", "a", "b", "c"] = "o.a.b.c" by decide] at hreach
  obtain hnone | ⟨argument, before, after, value, w', ⟨-, hlookup⟩, hmore, hwalks, hreaches, hall, hfails⟩ := hreach
  · exact absurd ⟨rfl, rfl⟩ (hnone.1 (.object 0))
  cases hlookup
  -- the first two names are read and the third is not, so that the way ends between them
  rcases hwalks with _ | ⟨houter, _ | ⟨hinner, _ | ⟨hnull, -⟩⟩⟩
  · obtain ⟨failure, w', -, hread, -⟩ := hfails "a" ["b", "c"] hmore.symm
    cases start_segment_outer.symm.trans hread
  · cases hmore
    cases start_segment_outer.symm.trans houter
    obtain ⟨failure, w', -, hread, -⟩ := hfails "b" ["c"] rfl
    cases start_segment_inner.symm.trans hread
  · cases hmore
    cases start_segment_outer.symm.trans houter
    cases start_segment_inner.symm.trans hinner
    obtain ⟨there, w', hparts, hfront, hback⟩ := hreaches ["a", "b"] [] rfl
    cases hback
    obtain ⟨failure, w', hwalk, hread, -⟩ := hfails "c" [] rfl
    cases hread
    exact ⟨hfront, hparts, hwalk⟩
  · simp only [List.cons_append, List.cons.injEq] at hmore
    obtain ⟨rfl, rfl, rfl, -⟩ := hmore
    cases start_segment_outer.symm.trans houter
    cases start_segment_inner.symm.trans hinner
    cases hnull

end Resolve

end SqlTemplate
