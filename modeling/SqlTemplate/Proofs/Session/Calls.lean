import SqlTemplate.Proofs.Invocation
import SqlTemplate.Session.Compile
/-!
# Which calls are bound

The signature of a function says which calls the function takes and what arguments they give it. A call of a declared
statement comes to the signature through operations that take all positional and all keyword arguments, but have named
parameters of their own. A keyword of such a name is refused on the way, although the signature may ask for it.

`calls_agree_iff` is the main theorem: an operation agrees with the signature about a call just when the call has no
keyword of the operation's own, or the signature refuses the call too. A signature that takes no keyword of these names
is followed in every call. That others are not is shown by `call_refuses_own_keyword`.
-/

namespace SqlTemplate

/-- An operation accepts a call just when the signature of the function does, and gives the arguments that the signature
binds. -/
def AgreesWith (signature : Signature) (method : Method) (positional : List Value) (keywords : Arguments)
    (outcome : Except InvocationFault Invocation) : Prop :=
  ∀ invocation, outcome = .ok invocation ↔
    ∃ arguments, signature.bind positional keywords = .ok arguments ∧ invocation = ⟨method, arguments⟩

/-- An operation leaves a call to the signature of the function, unless a keyword has a name of its own. -/
structure PassesOn (own : List String) (signature : Signature) (method : Method) (positional : List Value)
    (keywords : Arguments) (outcome : Except InvocationFault Invocation) : Prop where
  agrees : ¬ keywords.ClashesWith own → AgreesWith signature method positional keywords outcome
  refuses : keywords.ClashesWith own → ∃ operation, ∃ name ∈ own, hasName name keywords = true ∧
    outcome = .error (.reserved operation name)

section

variable {own : List String} {signature : Signature} {method : Method} {positional : List Value}
  {keywords : Arguments} {outcome : Except InvocationFault Invocation}

theorem PassesOn.agrees_iff (h : PassesOn own signature method positional keywords outcome) :
    AgreesWith signature method positional keywords outcome ↔
      ∀ arguments, signature.bind positional keywords = .ok arguments → ¬ keywords.ClashesWith own := by
  constructor
  · intro hagrees arguments hbind hclash
    obtain ⟨operation, name, -, -, hrefused⟩ := h.refuses hclash
    have haccepted : outcome = .ok ⟨method, arguments⟩ := (hagrees _).mpr ⟨arguments, hbind, rfl⟩
    rw [hrefused] at haccepted
    cases haccepted
  · intro hclashes
    by_cases hclash : keywords.ClashesWith own
    -- with a keyword of its own, the operation and the signature both refuse the call
    · obtain ⟨operation, name, -, -, hrefused⟩ := h.refuses hclash
      intro invocation
      constructor
      · intro haccepted
        rw [hrefused] at haccepted
        cases haccepted
      · rintro ⟨arguments, hbind, -⟩
        exact absurd hclash (hclashes arguments hbind)
    · exact h.agrees hclash

/-- A call that a signature accepts has no keyword of a name that it takes no keyword of. -/
theorem not_clashes_of_bind {arguments : Arguments} (hown : ∀ name ∈ own, ¬ signature.TakesKeyword name)
    (h : signature.bind positional keywords = .ok arguments) : ¬ keywords.ClashesWith own := by
  rintro ⟨name, hmem, hname⟩
  exact hown name hmem (Signature.takesKeyword_of_bind h hname)

end

namespace Invocation

/-- A call is bound as the signature binds it, unless a keyword is named `method` or `cls`. -/
theorem bindCall_passesOn {signature : Signature} {method : Method} {name : String}
    (hnames : (signature.parameters.map (·.name)).Nodup) (hmethod : method = .ofSignature name signature)
    (positional : List Value) (keywords : Arguments) :
    PassesOn ["method", "cls"] signature method positional keywords (bindCall method positional keywords) := by
  subst hmethod
  constructor
  · intro hclash invocation
    rw [bindCall_of_not_clashes hclash]
    cases hbind : signature.bind positional keywords with
    | error fault =>
      rw [bind_of_error hbind]
      simp
    | ok arguments =>
      rw [bind_of_ok hbind, ofArguments_of_bind hnames hbind]
      simp [eq_comm]
  · intro hclash
    obtain ⟨own, hown, hname, hrefused⟩ :=
      bindCall_of_clashes (.ofSignature name signature) positional hclash
    exact ⟨_, own, hown, hname, hrefused⟩

end Invocation

namespace Declared

variable {signature : Signature} {name : String} {declared : Declared}

/-- A declared statement passes a call on, unless a keyword has the name that is its own. -/
theorem invocation_passesOn (hnames : (signature.parameters.map (·.name)).Nodup)
    (hmethod : declared.method = .ofSignature name signature) (positional : List Value) (keywords : Arguments) :
    PassesOn ["self", "method", "cls"] signature declared.method positional keywords
      (declared.invocation positional keywords) := by
  have hpasses := Invocation.bindCall_passesOn hnames hmethod positional keywords
  unfold invocation
  by_cases hself : hasName "self" keywords = true
  · rw [if_pos hself]
    constructor
    · intro hclash
      exact absurd ⟨"self", List.mem_cons_self, hself⟩ hclash
    · intro _
      exact ⟨_, "self", List.mem_cons_self, hself, rfl⟩
  · rw [if_neg hself]
    constructor
    · intro hclash
      apply hpasses.agrees
      rintro ⟨own, hown, hname⟩
      exact hclash ⟨own, List.mem_cons_of_mem _ hown, hname⟩
    · rintro ⟨own, hown, hname⟩
      have hmem : own ∈ ["method", "cls"] := by
        rcases List.mem_cons.mp hown with rfl | hmem
        · exact absurd hname hself
        · exact hmem
      obtain ⟨operation, first, hfirst, hkeyword, hrefused⟩ := hpasses.refuses ⟨own, hmem, hname⟩
      exact ⟨operation, first, List.mem_cons_of_mem _ hfirst, hkeyword, hrefused⟩

/-- A call that is refused runs nothing. -/
theorem start_call_of_error {positional : List Value} {keywords : Arguments} {fault : InvocationFault}
    (h : declared.invocation positional keywords = .error fault) (w : World) :
    (declared.call positional keywords).start w = (.error (.typeError fault.message), w) := by
  rw [call, h]
  rfl

theorem call_of_ok {positional : List Value} {keywords : Arguments} {invocation : Invocation}
    (h : declared.invocation positional keywords = .ok invocation) :
    declared.call positional keywords
      = Statement.bind declared.paramstyle declared.style declared.chain declared.template invocation := by
  rw [call, h]

/-- Binding a call agrees with the signature of the function just when the call has no keyword that the operation has
for itself, or is one that the signature refuses. So it agrees about every call if the signature takes no keyword of
these names. A call of a declared statement is bound before anything runs, and every parameter gets an argument. -/
theorem calls_agree_iff (hnames : (signature.parameters.map (·.name)).Nodup)
    (hmethod : declared.method = .ofSignature name signature) (positional : List Value) (keywords : Arguments) :
    (AgreesWith signature declared.method positional keywords
        (Invocation.bindCall declared.method positional keywords) ↔
      ∀ arguments, signature.bind positional keywords = .ok arguments →
        ¬ keywords.ClashesWith ["method", "cls"]) ∧
    (AgreesWith signature declared.method positional keywords (declared.invocation positional keywords) ↔
      ∀ arguments, signature.bind positional keywords = .ok arguments →
        ¬ keywords.ClashesWith ["self", "method", "cls"]) ∧
    ((∀ own ∈ ["self", "method", "cls"], ¬ signature.TakesKeyword own) →
      AgreesWith signature declared.method positional keywords
          (Invocation.bindCall declared.method positional keywords) ∧
        AgreesWith signature declared.method positional keywords (declared.invocation positional keywords)) ∧
    (∀ arguments, signature.bind positional keywords = .ok arguments →
      arguments.map (·.1) = signature.parameters.map (·.name)) ∧
    ∀ w, (∃ fault, declared.invocation positional keywords = .error fault ∧
        (declared.call positional keywords).start w = (.error (.typeError fault.message), w)) ∨
      ∃ invocation, declared.invocation positional keywords = .ok invocation ∧
        (declared.call positional keywords).start w
          = (Statement.bind declared.paramstyle declared.style declared.chain declared.template
              invocation).start w := by
  have hbound := Invocation.bindCall_passesOn hnames hmethod positional keywords
  have hcalled := invocation_passesOn hnames hmethod positional keywords
  refine ⟨hbound.agrees_iff, hcalled.agrees_iff, ?_, fun arguments => Signature.map_fst_of_bind, ?_⟩
  · intro hown
    constructor
    · apply hbound.agrees_iff.mpr
      intro arguments hbind
      exact not_clashes_of_bind (fun own hmem => hown own (List.mem_cons_of_mem _ hmem)) hbind
    · apply hcalled.agrees_iff.mpr
      intro arguments hbind
      exact not_clashes_of_bind hown hbind
  · intro w
    cases hinvocation : declared.invocation positional keywords with
    | error fault => exact .inl ⟨fault, rfl, start_call_of_error hinvocation w⟩
    | ok invocation => exact .inr ⟨invocation, rfl, by rw [call_of_ok hinvocation]⟩

/-- A function with parameters of all kinds takes a keyword into its further keywords, but a declared statement does not
take one that is named `self` there. -/
theorem calls_agree_iff_every_kind :
    let signature : Signature :=
      ⟨[⟨"a", .positionalOnly, none, .absent⟩, .plain "b", ⟨"rest", .rest, none, .absent⟩,
        ⟨"c", .keywordOnly, some (.int 3), .absent⟩, ⟨"more", .keywordRest, none, .absent⟩], .absent⟩
    let declared : Declared := ⟨.ofSignature "query" signature, ⟨"", []⟩, "qmark", .qmark, []⟩
    let keywords (name : String) : Arguments := [("b", .int 2), (name, .int 4)]
    let bound (name : String) : Arguments :=
      [("a", .int 1), ("b", .int 2), ("rest", .tuple []), ("c", .int 3),
        ("more", .mapping .plain [(.text name, .int 4)])]
    (signature.parameters.map (·.name)).Nodup ∧
    (∀ name ∈ ["d", "self"], signature.bind [.int 1] (keywords name) = .ok (bound name)) ∧
    AgreesWith signature declared.method [.int 1] (keywords "d") (declared.invocation [.int 1] (keywords "d")) ∧
    ¬ AgreesWith signature declared.method [.int 1] (keywords "self")
      (declared.invocation [.int 1] (keywords "self")) := by
  intro signature declared keywords bound
  have hnames : (signature.parameters.map (·.name)).Nodup := by decide
  have hbound : ∀ name ∈ ["d", "self"], signature.bind [.int 1] (keywords name) = .ok (bound name) := by
    rw [List.forall_mem_cons, List.forall_mem_singleton]
    exact ⟨rfl, rfl⟩
  have hmethod : declared.method = .ofSignature "query" signature := rfl
  have hagrees (name : String) := (calls_agree_iff hnames hmethod [.int 1] (keywords name)).2.1
  refine ⟨hnames, hbound, ?_, ?_⟩
  · apply (hagrees "d").mpr
    rintro arguments - ⟨own, hown, hname⟩
    revert own
    decide
  · intro hself
    refine (hagrees "self").mp hself _ (hbound "self" (by simp)) ⟨"self", by simp, ?_⟩
    rfl

/-- A function may have a parameter with a name that the operation has for itself; passing it by keyword is refused. -/
theorem call_refuses_own_keyword :
    let signature : Signature := ⟨[.plain "method"], .absent⟩
    let method := Method.ofSignature "query" signature
    let declared : Declared := ⟨method, ⟨"", []⟩, "qmark", .qmark, []⟩
    let keywords : Arguments := [("method", .int 1)]
    signature.bind [] keywords = .ok [("method", .int 1)] ∧
    Invocation.bindCall method [] keywords = .error (.reserved "InvocationContext.bind" "method") ∧
    ¬ AgreesWith signature method [] keywords (Invocation.bindCall method [] keywords) ∧
    (declared.call [] keywords).start .empty
      = (.error (.typeError "InvocationContext.bind() got multiple values for argument 'method'"), .empty) := by
  intro signature method declared keywords
  have hbound : signature.bind [] keywords = .ok [("method", .int 1)] := rfl
  have hrefused : Invocation.bindCall method [] keywords
      = .error (.reserved "InvocationContext.bind" "method") := rfl
  refine ⟨hbound, hrefused, ?_, ?_⟩
  · intro hagrees
    have haccepted := (hagrees ⟨method, [("method", .int 1)]⟩).mpr ⟨_, hbound, rfl⟩
    rw [hrefused] at haccepted
    cases haccepted
  · have hcall : declared.invocation [] keywords = .error (.reserved "InvocationContext.bind" "method") := hrefused
    have hmessage : (InvocationFault.reserved "InvocationContext.bind" "method").message
        = "InvocationContext.bind() got multiple values for argument 'method'" := by decide +kernel
    rw [← hmessage]
    exact start_call_of_error hcall .empty

end Declared

end SqlTemplate
