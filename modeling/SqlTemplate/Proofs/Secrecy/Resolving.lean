import SqlTemplate.Proofs.Secrecy.Locating
import SqlTemplate.Resolve.Walk
/-!
# Resolving tells no secret

A path is resolved in the same way in two worlds that differ in secrets (`parts_eq_of_alike`): it leads to the same
value, or fails in the same way, and the same calls are made.
-/

namespace SqlTemplate

/-- A value that was read is within a scope. -/
def Reading.Within (V : Scope) : Reading → Prop
  | .accepted value => value.Within V
  | .passedOver => True

/-- The values that an invocation holds are within a scope. -/
def Invocation.Within (V : Scope) (invocation : Invocation) : Prop :=
  ∀ argument ∈ invocation.arguments, argument.2.Within V

theorem Invocation.Within.within_argument {V : Scope} {invocation : Invocation} (h : invocation.Within V)
    {name path : String} {value : Value} (hvalue : invocation.argument name path = .ok value) :
    value.Within V := by
  rw [Invocation.argument] at hvalue
  split at hvalue
  · rename_i hfound
    split at hvalue <;> cases hvalue
    exact h (name, value) (mem_of_lookup hfound)
  · cases hvalue

namespace Resolve

open Run

variable {S : Secrets} {V : Scope} {pre : Prop}

/-! ## Using an accessor -/

theorem secure_refusal (accessor : Accessor) (path : String) (failure : Failure) :
    Secure S V (failure.Within V) (refusal accessor path failure) Reading.Within := by
  have htext := secure_textOfFailure (S := S) (V := V) failure
  unfold refusal
  split
  · exact .bind htext fun _ _ _ => .fail fun _ => trivial
  · split
    · exact .pure fun _ => trivial
    · split
      · have hfault : Secure S V (failure.Within V) (Fault.ofAccessor accessor.name path failure) Anything :=
          .bind htext fun _ _ _ => .pure fun _ => trivial
        exact .bind hfault fun _ _ _ => .fail fun _ => trivial
      · exact .fail fun hf => hf

theorem secure_isBool (value : Value) : Secure S V (value.Within V) (isBool value) Anything := by
  unfold isBool
  split
  · exact .pure fun _ => trivial
  · exact .bind (secure_askKind _ 1) fun _ _ _ => .pure fun _ => trivial

theorem secure_use {accessor : Accessor} (hkeeps : accessor.invoke.Keeps S) (path : String) :
    Secure S V (accessor.Within S V) (use accessor path) Reading.Within := by
  have hinvoke : Secure S V (accessor.Within S V) accessor.invoke Value.Within :=
    ⟨hkeeps, fun h => h V le_rfl⟩
  have haccepted : Secure S V (accessor.Within S V) (Reading.accepted <$> accessor.invoke) Reading.Within :=
    hinvoke.map fun _ _ hv => hv
  refine .bind (.orElse haccepted fun V' hV failure => ?_) fun V' hV reading => ?_
  · exact (secure_refusal accessor path failure).of And.right
  · split
    · exact .pure fun _ => trivial
    · rename_i value
      split
      · refine .bind (.of (secure_isBool value) And.right) fun V'' hV' isBool => ?_
        split
        · exact .pure fun hpre => Value.Within.mono hpre.1.2 hV'
        · exact .pure fun _ => trivial
      · exact .pure And.right

/-! ## Asking the strategies -/

section

variable {strategy : Strategy} {chain : List Strategy}

theorem gives_locate (h : strategy.IsSecure S) (value : Value) (qualifier path : String) :
    Run.Gives (FoundKeeps S) (locate strategy value qualifier path) := by
  refine .orElse (h.gives value qualifier) fun failure => ?_
  split
  · exact .bind fun _ => .fail
  · exact .fail

theorem secure_locate (h : strategy.IsSecure S) (value : Value) (qualifier path : String) :
    Secure S V (value.Within V) (locate strategy value qualifier path) (FoundWithin S) := by
  refine .orElse (h.locate V value qualifier) fun V' hV failure => ?_
  split
  · rename_i member reason
    exact .bind (.of (secure_denial member path reason) And.right) fun _ _ _ => .fail fun _ => trivial
  · exact .fail And.right

theorem secure_readBy (hchain : ∀ strategy ∈ chain, strategy.IsSecure S) (value : Value)
    (owner qualifier path : String) :
    Secure S V (value.Within V) (readBy value owner qualifier path chain) Value.Within := by
  induction chain generalizing V with
  | nil => exact .fail fun _ => trivial
  | cons strategy chain ih =>
    rw [List.forall_mem_cons] at hchain
    have hrest (V' : Scope) (hV : V ≤ V') :
        Secure S V' (value.Within V) (readBy value owner qualifier path chain) Value.Within :=
      (ih hchain.2).of fun hv => hv.mono hV
    refine .bind_of_gives (secure_locate hchain.1 value qualifier path) (gives_locate hchain.1 value qualifier path)
      fun V₁ hV₁ found hfound => ?_
    split
    · exact (hrest V₁ hV₁).of And.left
    · rename_i accessor
      refine .bind (.of (secure_use (hfound accessor rfl) path) fun hpre => hpre.2 accessor rfl)
        fun V₂ hV₂ reading => ?_
      split
      · exact .pure And.right
      · exact (hrest V₂ (hV₁.trans hV₂)).of fun hpre => hpre.1.1

theorem secure_segment (hchain : ∀ strategy ∈ chain, strategy.IsSecure S) (value : Value)
    (owner qualifier path : String) :
    Secure S V (value.Within V) (segment chain value owner qualifier path) Value.Within := by
  unfold segment
  split
  · exact .fail fun _ => trivial
  · exact secure_readBy hchain value owner qualifier path

/-! ## Walking a path -/

theorem secure_follow (hchain : ∀ strategy ∈ chain, strategy.IsSecure S) (path : String) (value : Value)
    (owner : String) (qualifiers : List String) :
    Secure S V (value.Within V) (follow chain path value owner qualifiers) Value.Within := by
  induction qualifiers generalizing V value owner with
  | nil => exact .pure fun hv => hv
  | cons qualifier qualifiers ih =>
    refine .bind (secure_segment hchain value owner qualifier path) fun V' hV next => ?_
    exact (ih next qualifier).of And.right

theorem secure_parts (hchain : ∀ strategy ∈ chain, strategy.IsSecure S) (invocation : Invocation)
    (names : List String) :
    Secure S V (invocation.Within V) (parts chain invocation names) Value.Within := by
  cases names with
  | nil => exact .fail fun _ => Failure.within_ofMessage .indexError _
  | cons root names =>
    rw [parts]
    split
    · exact .fail fun _ => trivial
    · rename_i value hvalue
      exact (secure_follow hchain _ value root names).of fun h => h.within_argument hvalue

end

/-- Two worlds that differ in secrets only do not differ in what paths lead to. As long as no function that is run reads
a secret, a path leads to the same value in both worlds, or fails with the same failure, the text of which is the same
too, and the same calls are made. The worlds still differ in secrets only then. -/
theorem parts_eq_of_alike (S : Secrets) {V : Scope} {w w' w₁ : World} (h : World.Alike S V w w')
    {invocation : Invocation} (harguments : invocation.Within V) (strict : Bool) (names : List String)
    {outcome : Except Failure Value}
    (hrun : (parts (Strategy.standard strict) invocation names).start w = (outcome, w₁))
    (hunread : w₁.Unread S) :
    ∃ V' w₁', (parts (Strategy.standard strict) invocation names).start w' = (outcome, w₁') ∧
      w₁'.calls = w₁.calls ∧ V ≤ V' ∧ World.Alike S V' w₁ w₁' ∧
      (∀ value, outcome = .ok value → value.Within V') ∧
      ∀ failure, outcome = .error failure → ((textOfFailure failure).start w₁).2.Unread S →
        ((textOfFailure failure).start w₁').1 = ((textOfFailure failure).start w₁).1 := by
  have hchain (strategy : Strategy) (hmem : strategy ∈ Strategy.standard strict) : strategy.IsSecure S :=
    Strategy.isSecure_of_mem_standard hmem
  have hagrees := (secure_parts hchain invocation names).agrees harguments
  obtain ⟨V', w₁', hV, hrun', hwithin, halike⟩ := hagrees.of_start h hrun hunread
  refine ⟨V', w₁', hrun', halike.calls, hV, halike, ?_, ?_⟩
  · rintro value rfl
    exact hwithin
  · -- the text is made in the worlds that the path has left, which are alike
    rintro failure rfl htext
    obtain ⟨-, -, hsame, -⟩ := (secure_textOfFailure failure).agrees hwithin _ _ halike htext
    exact hsame

/-! ## An object with a secret -/

/-- A world with an account that has an attribute of its own under a name, and a property that reads another one. -/
def account (name : String) (kept : Value) : World :=
  let owner : Function :=
    ⟨"Account.owner", ⟨[Parameter.plain "self"], .absent⟩, .perform ⟨0, [], .read "holder"⟩⟩
  { World.empty with
    classes := World.empty.classes ++ [.ofMembers "Account" [("owner", .property 0)]]
    functions := [owner]
    objects := [{ Object.ofKind 2 with attributes := [("holder", .text "Ada"), (name, kept)] }] }

/-- A call with the account. -/
def givenAccount : Invocation :=
  ⟨.ofSignature "find" ⟨[.plain "account"], .absent⟩, [("account", .object 0)]⟩

/-- What the account has under the name `_pin` is secret. -/
def pinSecret : Secrets where
  hides id name := id = 0 ∧ name = "_pin"
  exchanged _ := False
  isPrivate_of_hides := by
    rintro _ _ ⟨-, rfl⟩
    decide
  not_mem_consulted_of_hides := by
    rintro _ _ ⟨-, rfl⟩
    decide

/-- Only the account is seen. -/
def accountScope : Scope := ⟨fun id => id = 0, fun _ _ => False⟩

theorem alike_account {pin pin' : Value} (hpin : (account "_pin" pin).IsInert pinSecret pin)
    (hpin' : (account "_pin" pin').IsInert pinSecret pin') :
    World.Alike pinSecret accountScope (account "_pin" pin) (account "_pin" pin') where
  classes := rfl
  functions := rfl
  depth := rfl
  done := rfl
  calls := rfl
  reads := rfl
  length_objects := rfl
  plain := rfl
  -- the only function sets nothing
  admits := by
    intro f hf argument step hstep c hc
    obtain rfl := List.mem_singleton.mp hf
    cases hstep
    cases hc
  within_members := by
    intro c hc entry hentry
    simp only [account, World.empty, List.cons_append, List.nil_append, List.mem_cons, List.not_mem_nil, or_false] at hc
    rcases hc with rfl | rfl | rfl
    · cases hentry
    · cases hentry
    · obtain rfl : entry = ("owner", .property 0) := List.mem_singleton.mp hentry
      trivial
  within_functions := by
    intro f hf
    obtain rfl := List.mem_singleton.mp hf
    refine ⟨fun p hp value hvalue => ?_, fun argument step hstep => ?_⟩
    · obtain rfl := List.mem_singleton.mp hp
      cases hvalue
    · cases hstep
      exact ⟨nofun, trivial⟩
  lt_of_seen := by
    rintro _ rfl
    exact Nat.zero_lt_one
  seen := by
    rintro _ rfl
    have hholder : Value.Alike accountScope ((account "_pin" pin).IsInert pinSecret)
        ((account "_pin" pin').IsInert pinSecret)
        (pinSecret.hides 0 "holder") (.text "Ada") (.text "Ada") := .inl ⟨rfl, trivial⟩
    have hkept : Value.Alike accountScope ((account "_pin" pin).IsInert pinSecret)
        ((account "_pin" pin').IsInert pinSecret)
        (pinSecret.hides 0 "_pin") pin pin' := .inr ⟨⟨rfl, rfl⟩, hpin, hpin'⟩
    exact ⟨rfl, rfl, rfl, nofun, .nil, .cons ⟨rfl, hholder⟩ (.cons ⟨rfl, hkept⟩ .nil), nofun⟩
  lt_of_held := nofun
  held := nofun

/-- The failure that refuses the private attribute of the account. -/
def pinRefused : Failure :=
  let name := Value.text "Account._pin"
  let reason := "Attributes starting with '_' are not public."
  .fault (.accessDenied name "Account._pin" "account._pin" reason) (some (.notAccessible name (.text reason)))

/-- A number and a list are kept under a private name. The property gives the same text, and the private attribute is
refused in the same way. -/
theorem parts_eq_of_alike_account :
    let w := account "_pin" (.int 1234)
    let w' := account "_pin" (.list [.null])
    let reading := fun name => (parts (Strategy.standard true) givenAccount ["account", name]).start
    World.Alike pinSecret accountScope w w' ∧ givenAccount.Within accountScope ∧
    (reading "owner" w).2.Unread pinSecret ∧ (reading "_pin" w).2.Unread pinSecret ∧
    (∃ w₁, reading "owner" w' = (.ok (.text "Ada"), w₁) ∧ w₁.calls = ["Account.owner"]) ∧
    ∃ w₁, reading "_pin" w' = (.error pinRefused, w₁) ∧ w₁.calls = [] := by
  intro w w' reading
  have halike : World.Alike pinSecret accountScope w w' := alike_account trivial trivial
  have harguments : givenAccount.Within accountScope := by
    intro argument hargument
    obtain rfl := List.mem_singleton.mp hargument
    rfl
  have hresult : (reading "owner" w).1 = .ok (.text "Ada") := rfl
  have hrefused : (reading "_pin" w).1 = .error pinRefused := rfl
  have hcalled : (reading "owner" w).2.calls = ["Account.owner"] := by decide +kernel
  have huncalled : (reading "_pin" w).2.calls = [] := by decide +kernel
  have howner : (reading "owner" w).2.Unread pinSecret := by
    intro id name hmem
    have hreads : (reading "owner" w).2.reads = [(.object 0, "holder")] := rfl
    rw [hreads, List.mem_singleton] at hmem
    cases hmem
    exact ⟨fun hhides => absurd hhides.2 (by decide), fun heq => absurd heq (by decide)⟩
  have hpin : (reading "_pin" w).2.Unread pinSecret := by
    intro id name hmem
    have hreads : (reading "_pin" w).2.reads = [] := rfl
    rw [hreads] at hmem
    cases hmem
  obtain ⟨-, w₁, hsame, hcalls, -⟩ :=
    parts_eq_of_alike pinSecret halike harguments true ["account", "owner"] (Prod.eta _).symm howner
  obtain ⟨-, w₂, hsame', hcalls', -⟩ :=
    parts_eq_of_alike pinSecret halike harguments true ["account", "_pin"] (Prod.eta _).symm hpin
  rw [hresult] at hsame
  rw [hrefused] at hsame'
  rw [hcalled] at hcalls
  rw [huncalled] at hcalls'
  exact ⟨halike, harguments, howner, hpin, ⟨w₁, hsame, hcalls⟩, w₂, hsame', hcalls'⟩

end Resolve

end SqlTemplate
